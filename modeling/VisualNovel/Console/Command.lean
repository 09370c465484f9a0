import VisualNovel.Console.Arguments
import VisualNovel.Play.Game

/-!
# The commands of the program

The program plays a story, checks one, or sums one up.
-/

namespace VisualNovel.Console

/-- What the program is told to do with a story. -/
inductive Command
  | play (guise : Play.Guise) (mode : Strictness)
  | check (mode : Strictness)
  | info
  deriving Inhabited

/-- What the program is told to do. -/
structure Invocation where
  command : Command
  /-- The file that the story is in. -/
  story : String
  /-- Whether everything is logged. -/
  verbose : Bool

namespace Command

/-- Asks for a full log. -/
def verbose : OptionSpec :=
  { long := "verbose", short := some 'v'
    about := "Log engine activity to stderr (overridden by RUST_LOG)" }

/-- Makes loading keep unknown actions. -/
def lenient : OptionSpec :=
  { long := "lenient", about := "Keep unrecognized actions instead of rejecting the story" }

/-- Names the player. -/
def name : OptionSpec :=
  { long := "name", short := some 'n', value := some "NAME", about := "Player name" }

/-- Gives the player a portrait. -/
def portrait : OptionSpec :=
  { long := "portrait", short := some 'p', value := some "PORTRAIT"
    about := "Player portrait reference" }

/-- Adds a character to pick from. -/
def character : OptionSpec :=
  { long := "character", short := some 'c', value := some "CHARACTERS", repeatable := true
    about := "Selectable character as NAME or NAME=PORTRAIT (repeatable)" }

/-- Asks for the help text. -/
def help : OptionSpec :=
  { long := "help", short := some 'h', purpose := .help, about := "Print help" }

/-- Asks for the version. -/
def version : OptionSpec :=
  { long := "version", short := some 'V', purpose := .version, about := "Print version" }

/-- The file that a story is in. -/
def story : Operand := { name := "STORY", about := "Story file (JSON)" }

/-- The program. -/
def program : ProgramSpec :=
  { name := "leave"
    version := "0.1.0"
    about := "Leave: play and check branching visual novel stories"
    options := [verbose, help, version]
    alternatives := [verbose]
    commands :=
      [{ word := "play", about := "Play a story in the terminal", operand := story
         options := [name, verbose, portrait, character, lenient, help, version]
         alternatives := [name, portrait, character, lenient] },
       { word := "check", about := "Load a story and report broken links and suspicious scenes"
         operand := story, options := [lenient, verbose, help, version]
         alternatives := [lenient] },
       { word := "info", about := "Summarize a story", operand := story
         options := [verbose, help, version] }]
    helpCommand :=
      { word := "help", about := "Print this message or the help of the given subcommand(s)"
        options := []
        operand :=
          { name := "COMMAND", about := "Print help for the subcommand(s)", repeatable := true } } }

/-- What becomes of unknown actions, given what has been read. -/
def modeOf (r : Reading) : Strictness := if r.has lenient.long then .lenient else .strict

/-- What a call tells the program to do. -/
def ofCall (call : Call) : Invocation :=
  let r := call.reading
  let guise : Play.Guise :=
    { name := (r.values name.long).head?
      portrait := (r.values portrait.long).head?
      characters := (r.values character.long).map Play.Guise.character }
  { command :=
      if call.command.word = "play" then .play guise (modeOf r)
      else if call.command.word = "check" then .check (modeOf r)
      else .info
    story := r.operand.getD ""
    verbose := call.program.has verbose.long || r.has verbose.long }

/-- How the story is loaded. A summary never fails for unknown actions. -/
def strictness : Command → Strictness
  | play _ mode | check mode => mode
  | info => .lenient

end Command

end VisualNovel.Console
