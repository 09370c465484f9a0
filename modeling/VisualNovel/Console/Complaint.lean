import VisualNovel.Console.Option

/-!
# Replies to a command line

When no command is carried out there is something to say: a text that was asked for, or a complaint
about the first mistake in the command line, with tips and a usage line.
-/

namespace VisualNovel.Console

/-- What may help after a mistake. -/
inductive Tip
  | afterDashes (word : String)
  | similarOption (long : String)
  | optionOfCommand (command long : String)
  | similarCommands (words : List String)
  | withoutDashes (command : String)

/-- The tip in words. -/
def Tip.markup : Tip → Markup
  | afterDashes word =>
    "to pass '" ++ .marked .invalid word ++ "' as a value, use '" ++ .marked .valid ("-- " ++ word)
      ++ "'"
  | similarOption long => "a similar argument exists: '" ++ .marked .valid ("--" ++ long) ++ "'"
  | optionOfCommand command long => "'" ++ .marked .valid (command ++ " --" ++ long) ++ "' exists"
  | similarCommands [word] => "a similar subcommand exists: '" ++ .marked .valid word ++ "'"
  | similarCommands words =>
    "some similar subcommands exist: "
      ++ .commaSeparated (words.map fun w => "'" ++ .marked .valid w ++ "'")
  | withoutDashes command =>
    "subcommand '" ++ .marked .valid command ++ "' exists; to use it, remove the '"
      ++ .marked .invalid "--" ++ "' before it"

/-- A mistake in a command line. -/
inductive Mistake
  | unexpectedWord (word : String)
  | valueMissing (wanted : String)
  | repeated (option : String)
  | unexpectedValue (value option : String)
  | operandMissing (operand : String)
  | commandMissing (program : String) (commands : List String)
  | unknownCommand (word : String)

/-- The mistake in words. -/
def Mistake.markup : Mistake → Markup
  | unexpectedWord word => "unexpected argument '" ++ .marked .invalid word ++ "' found"
  | valueMissing wanted =>
    "a value is required for '" ++ .marked .invalid wanted ++ "' but none was supplied"
  | repeated option =>
    "the argument '" ++ .marked .invalid option ++ "' cannot be used multiple times"
  | unexpectedValue value option =>
    "unexpected value '" ++ .marked .invalid value ++ "' for '" ++ .marked .literal option
      ++ "' found; no more were expected"
  | operandMissing operand =>
    "the following required arguments were not provided:\n  " ++ .marked .valid operand
  | commandMissing program commands =>
    "'" ++ .marked .invalid program
      ++ "' requires a subcommand but one was not provided\n  [subcommands: "
      ++ .commaSeparated (commands.map (.marked .valid)) ++ "]"
  | unknownCommand word => "unrecognized subcommand '" ++ .marked .invalid word ++ "'"

/-- What there is to say about a mistake. -/
structure Complaint where
  mistake : Mistake
  tips : List Tip := []
  usage : Option Markup := none
  /-- Whether there is a help option to point out. -/
  helpOption : Bool := true

namespace Complaint

/-- The tips, below the mistake. -/
def tipLines (c : Complaint) : Markup :=
  (if c.tips.isEmpty then "" else "\n")
    ++ .join (c.tips.map fun t => "\n  " ++ .marked .valid "tip:" ++ " " ++ t.markup)

/-- The usage line, below the tips. -/
def usageLine (c : Complaint) : Markup :=
  match c.usage with
  | some usage => "\n\n" ++ usage
  | none => .empty

/-- The end of a complaint, which points out the help option. -/
def ending (c : Complaint) : Markup :=
  if c.helpOption then
    "\n\nFor more information, try '" ++ .marked .literal "--help" ++ "'.\n"
  else "\n"

/-- The complaint in words. -/
def markup (c : Complaint) : Markup :=
  .marked .alarm "error:" ++ " " ++ c.mistake.markup ++ c.tipLines ++ c.usageLine ++ c.ending

end Complaint

/-- What a command line comes to when no command is carried out. -/
inductive Reply
  /-- A text that was asked for. -/
  | asked (text : Markup)
  /-- The help text, because nothing was asked for. -/
  | help (text : Markup)
  | complaint (complaint : Complaint)

namespace Reply

/-- The reply in words. -/
def markup : Reply → Markup
  | asked text | help text => text
  | complaint c => c.markup

/-- Whether the program has been called wrongly. -/
def isFailure : Reply → Bool
  | asked _ => false
  | help _ | complaint _ => true

end Reply

end VisualNovel.Console
