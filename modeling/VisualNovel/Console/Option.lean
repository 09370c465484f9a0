import VisualNovel.Console.Markup

/-!
# Commands and their options

What a command can be told on the command line: options with or without a value, an operand, and
subcommands. The usage line and the help text are made from this.
-/

namespace VisualNovel.Console

/-- What an option is for. -/
inductive Purpose
  /-- To set something. -/
  | setting
  /-- To show the help text. -/
  | help
  /-- To show the version. -/
  | version
  deriving DecidableEq

/-- An option of a command. -/
structure OptionSpec where
  long : String
  short : Option Char := none
  /-- What its value is called, if it has one. -/
  value : Option String := none
  /-- Whether it may be given several times. -/
  repeatable : Bool := false
  purpose : Purpose := .setting
  about : String
  deriving DecidableEq

/-- How the option shows that it has a value. -/
def OptionSpec.valueText (o : OptionSpec) : String :=
  (o.value.map fun v => " <" ++ v ++ ">").getD ""

/-- The option as usage lines show it. -/
def OptionSpec.shown (o : OptionSpec) : Markup := .marked .literal ("--" ++ o.long) ++ o.valueText

/-- The option as messages show it. -/
def OptionSpec.text (o : OptionSpec) : String := o.shown.words

/-- The option as the help text lists it. -/
def OptionSpec.entry (o : OptionSpec) : Markup :=
  match o.short with
  | some c => .marked .literal ("-" ++ c.toString) ++ ", " ++ o.shown
  | none => "    " ++ o.shown

/-- What a command is given besides its options. -/
structure Operand where
  name : String
  about : String
  /-- Whether it may be given any number of times; else it is given once. -/
  repeatable : Bool := false

/-- The operand as usage messages show it. -/
def Operand.text (o : Operand) : String :=
  if o.repeatable then "[" ++ o.name ++ "]..." else "<" ++ o.name ++ ">"

/-- A command without subcommands. -/
structure CommandSpec where
  /-- The word that calls it, behind the program's name. -/
  word : String
  about : String
  options : List OptionSpec
  /-- The options that belong together with the operand. -/
  alternatives : List OptionSpec := []
  operand : Operand

/-- A program with several commands. -/
structure ProgramSpec where
  name : String
  version : String
  about : String
  options : List OptionSpec
  /-- The options that belong together. -/
  alternatives : List OptionSpec
  commands : List CommandSpec
  /-- The command that shows the help text of the others. -/
  helpCommand : CommandSpec

/-- How the program or one of its commands is called. -/
structure CallForm where
  /-- The words that the call begins with. -/
  words : String
  options : List OptionSpec
  /-- The options that belong together: once one of them or the operand has been given, usage lines
  show all of them as alternatives. -/
  alternatives : List OptionSpec
  /-- The operand that belongs together with them, if one does. -/
  operandName : Option String
  /-- What is given besides options. -/
  operand : String

/-- Which options a usage line shows. -/
inductive Named
  /-- That there are options. -/
  | any
  /-- These options, of which those that belong together may be shown as alternatives. -/
  | only (options : List OptionSpec) (grouped : Bool)

namespace CallForm

/-- The long names of the options, of those that belong together first. -/
def longNames (f : CallForm) : List String :=
  (f.alternatives ++ f.options.filter (!f.alternatives.contains ·)).map (·.long)

/-- The options that belong together, and the operand if it does, as alternatives. -/
def group (f : CallForm) : String :=
  "<" ++ "|".intercalate (f.operandName.toList ++ f.alternatives.map OptionSpec.text) ++ ">"

/-- How the call is shown in a usage line, without its title. -/
def call (f : CallForm) : Named → Markup
  | .any =>
    .marked .literal f.words ++ (if f.options.isEmpty then "" else " [OPTIONS]") ++ " " ++ f.operand
  | .only options false =>
    .marked .literal f.words ++ .join (options.map fun o => " " ++ o.shown) ++ " " ++ f.operand
  | .only options true =>
    .marked .literal f.words
      ++ .join ((options.filter (!f.alternatives.contains ·)).map fun o => " " ++ o.shown)
      ++ " " ++ f.group ++ (if f.operandName.isSome then "" else " " ++ f.operand)

/-- The usage line of the call. -/
def usage (f : CallForm) (named : Named) : Markup :=
  .marked .title "Usage:" ++ " " ++ f.call named

end CallForm

/-- A part of a help text: a title, and entries with what they are for in a second column. -/
def listing (title : String) (entries : List (Markup × String)) : Markup :=
  if entries.isEmpty then .empty
  else
    let width := (entries.map (·.1.words.length)).foldl max 0
    let line (e : Markup × String) : Markup :=
      "  " ++ e.1 ++ String.ofList (List.replicate (width - e.1.words.length) ' ') ++ "  " ++ e.2
        ++ "\n"
    "\n" ++ .marked .title (title ++ ":") ++ "\n" ++ .join (entries.map line)

/-- The part of a help text that lists options. -/
def optionListing (options : List OptionSpec) : Markup :=
  listing "Options" (options.map fun o => (o.entry, o.about))

namespace ProgramSpec

/-- How a command of the program is called. -/
def commandForm (p : ProgramSpec) (c : CommandSpec) : CallForm :=
  { words := p.name ++ " " ++ c.word
    options := c.options
    alternatives := c.alternatives
    operandName := some c.operand.name
    operand := c.operand.text }

/-- How the program is called. -/
def form (p : ProgramSpec) : CallForm :=
  { words := p.name
    options := p.options
    alternatives := p.alternatives
    operandName := none
    operand := "<COMMAND>" }

/-- All commands, the one for help last. -/
def allCommands (p : ProgramSpec) : List CommandSpec := p.commands ++ [p.helpCommand]

/-- The command that a word calls. -/
def command? (p : ProgramSpec) (word : String) : Option CommandSpec :=
  p.allCommands.find? (·.word == word)

/-- The help text of a command. -/
def commandHelp (p : ProgramSpec) (c : CommandSpec) : Markup :=
  c.about ++ "\n\n" ++ (p.commandForm c).usage .any ++ "\n"
    ++ listing "Arguments" [(c.operand.text, c.operand.about)] ++ optionListing c.options

/-- The help text of the program. -/
def help (p : ProgramSpec) : Markup :=
  p.about ++ "\n\n" ++ p.form.usage .any ++ "\n"
    ++ listing "Commands" (p.allCommands.map fun c => (.marked .literal c.word, c.about))
    ++ optionListing p.options

end ProgramSpec

end VisualNovel.Console
