import VisualNovel.Play.Playthrough
import VisualNovel.Session.Roster

/-!
# A game from the first line of input to the last

Before a game starts the player may pick one of some characters, and may be given a name and a
portrait. Then it is played until it is over, the player quits, or the input ends.
-/

namespace VisualNovel.Play

/-- What the player of a game has been told to be. -/
structure Guise where
  name : Option String := none
  portrait : Option String := none
  /-- The characters to pick from. -/
  characters : List Profile := []

/-- A character given as a name, or as a name and a portrait with an equals sign between. -/
def Guise.character (text : String) : Profile :=
  let cs := text.toList
  let name := Text.trim (String.ofList (cs.takeWhile (· != '=')))
  match cs.dropWhile (· != '=') with
  | [] => { name }
  | _ :: portrait => { name, portrait := Text.nonBlank (some (String.ofList portrait)) }

/-- A line of input. -/
inductive Input
  | line (text : String)
  /-- The line is no text. -/
  | garbled
  /-- There is no further line. -/
  | finished

/-- How far a game has come. -/
inductive Game
  | picking (roster : Roster) (session : Session) (guise : Guise)
  | playing (playthrough : Playthrough)
  /-- It is over, perhaps for a reason that counts as a failure. If it had been started then there
  is what was played last. -/
  | ended (failure : Option String) (last : Option Playthrough := none)

namespace Game

/-- What the player sees before the next line of input. -/
def request : Game → List Output
  | picking roster .. =>
    [.shown (.character (roster.index + 1) roster.size roster.current.name), .shown .prompt]
  | playing _ => [.shown .prompt]
  | ended .. => []

/-- The game of a playthrough. -/
def ofPlaythrough (p : Playthrough) : Game :=
  if p.awaiting = .nothing then .ended none p else .playing p

/-- A failure of a game that could not start. -/
def fail (message : String) (outputs : List Output) : Game × List Output :=
  (.ended (some message), outputs)

/-- Starts the game of a session. -/
def start (s : Session) : Game × List Output :=
  let started := s.start
  let events := started.events.map (Output.loggedAtStart s.profile.name)
  match started.value with
  | (_, .error e) => fail e.message events
  | (s, .ok ()) =>
    let title := (s.story.map (·.title)).getD ""
    let (p, displays) := Playthrough.ofSession s none
    (ofPlaythrough p, events ++ (.opening title :: displays).map .shown)

/-- Gives the player the name and the portrait they have been told to have, and starts. -/
def dress (guise : Guise) (s : Session) : Game × List Output :=
  let named := match guise.name with
    | none => pure (s, true)
    | some name => s.setName name
  let events := named.events.map Output.logged
  let (s, accepted) := named.value
  if !accepted then fail ("invalid player name \"" ++ guise.name.getD "" ++ "\"") events
  else
    let s := match guise.portrait with
      | none => s
      | some portrait => s.setPortrait portrait
    let (game, outputs) := start s
    (game, events ++ outputs)

/-- Makes the selected character the player and goes on. -/
def confirm (roster : Roster) (guise : Guise) (s : Session) : Game × List Output :=
  let applied := roster.applyTo s
  let events := applied.events.map Output.logged
  let (s, accepted) := applied.value
  if !accepted then fail ("invalid character name \"" ++ roster.current.name ++ "\"") events
  else
    let (game, outputs) := dress guise s
    (game, events ++ outputs)

/-- Begins a game of a story. -/
def begin (story : Story) (guise : Guise) : Game × List Output :=
  let bound := (Session.new {}).bind story
  let events := bound.events.map Output.logged
  match Roster.ofList? guise.characters with
  | .ok roster => (.picking roster bound.value guise, events ++ [.shown .chooseCharacter])
  | .error _ =>
    let (game, outputs) := dress guise bound.value
    (game, events ++ outputs)

/-- Takes a line of input while a character is being picked. -/
def feedPicking (roster : Roster) (s : Session) (guise : Guise) (line : String) :
    Game × List Output :=
  match Text.trim line with
  | "" => confirm roster guise s
  | "n" => (.picking roster.next s guise, [])
  | "p" => (.picking roster.previous s guise, [])
  | name =>
    match roster.select? name with
    | some roster => (.picking roster s guise, [])
    | none => (.picking roster s guise, [.shown .unknownCharacter])

/-- Takes a line of input. -/
def feed : Game → Input → Game × List Output
  | ended failure last, _ => (ended failure last, [])
  | picking roster s guise, .line text => feedPicking roster s guise text
  | picking .., .garbled => (ended (some ReadFailure.notText.message), [])
  | picking roster s guise, .finished => confirm roster guise s
  | playing p, .line text =>
    let (p, outputs) := p.feed text
    (ofPlaythrough p, outputs)
  | playing p, .garbled => (ended (some ReadFailure.notText.message) p, [])
  | playing p, .finished => (ended none p, [])

/-- Why the game counts as failed, once it is over. -/
def failure? : Game → Option String
  | ended failure _ => failure
  | _ => none

/-- What a game comes to when its input ends. A character still being picked is confirmed by that,
and the game that starts with it finds no input either. -/
def finish (game : Game) : List Output × Option String :=
  let (next, outputs) := game.feed .finished
  let (last, lastOutputs) := next.feed .finished
  (game.request ++ outputs ++ next.request ++ lastOutputs, last.failure?)

/-- What a game comes to on some lines of input, after which the input ends: everything that is
shown and logged, and why it failed, if it did. -/
def run : Game → List Input → List Output × Option String
  | ended failure _, _ => ([], failure)
  | game, [] => game.finish
  | game, line :: lines =>
    let (next, outputs) := game.feed line
    let (rest, failure) := next.run lines
    (game.request ++ outputs ++ rest, failure)

end Game

end VisualNovel.Play
