import VisualNovel.Console.Complaint
import VisualNovel.Text.Similarity

/-!
# Reading a command line

The words of a command line are read from the left. A word that begins with two dashes names an
option and may bring its value behind an equals sign; one that begins with a single dash is a row of
short options, of which the last may bring its value; all others are values that an option waits
for, operands, or the command. Behind a word of two dashes everything is an operand. The first
mistake ends the reading, with a message that helps.
-/

namespace VisualNovel.Console

/-- The names among `candidates` that are like a name, the one most like it last. -/
def similarNames (name : String) (candidates : List String) : List String :=
  let scored := candidates.map fun c => (c, Text.jaro name.toList c.toList)
  ((scored.filter fun c => c.2 > 0.7).mergeSort fun a b => a.2 ≤ b.2).map Prod.fst

/-- What has been read last and is not judged before the word behind it. -/
inductive Pending
  | nothing
  /-- An option that waits for its value. -/
  | option (o : OptionSpec)
  /-- An option and the value behind it. -/
  | value (o : OptionSpec) (value : String)
  /-- An operand and its value. -/
  | operand (operand : Operand) (value : String)

/-- What has been read of a command line. -/
structure Reading where
  /-- The options that have been given, with their values, in order. -/
  given : List (OptionSpec × String) := []
  operand : Option String := none
  pending : Pending := .nothing
  /-- Whether two dashes have been read by themselves. -/
  dashed : Bool := false

namespace Reading

/-- Whether a setting has been given. -/
def has (r : Reading) (long : String) : Bool := r.given.any (·.1.long == long)

/-- The values that an option has been given. -/
def values (r : Reading) (long : String) : List String :=
  (r.given.filter (·.1.long == long)).map Prod.snd

/-- The options that have been given, each once. -/
def options (r : Reading) : List OptionSpec := (r.given.map Prod.fst).eraseDups

end Reading

/-- What words are read for: the program as a whole or one of its commands. -/
structure Scope where
  form : CallForm
  help : Markup
  version : String
  /-- Whether there is an operand. -/
  hasOperand : Bool
  /-- The tip about an option that a command further on in the words would take. -/
  elsewhere : List String → String → Option Tip

namespace Scope

/-- The complaint that an option lacks its value. -/
def valueMissing (wanted : String) : Reply := .complaint { mistake := .valueMissing wanted }

/-- Takes an option with its value; options for help and the version end the reading. -/
def give (s : Scope) (r : Reading) (o : OptionSpec) (value : String) : Except Reply Reading :=
  match o.purpose with
  | .help => .error (.asked s.help)
  | .version => .error (.asked s.version)
  | .setting =>
    if !o.repeatable && r.has o.long then
      .error (.complaint { mistake := .repeated o.text, usage := some (s.form.usage .any) })
    else .ok { r with given := r.given ++ [(o, value)] }

/-- Judges what is pending. An operand must not be empty. -/
def settle (s : Scope) (r : Reading) : Except Reply Reading :=
  let settled := { r with pending := .nothing }
  match r.pending with
  | .nothing => .ok settled
  | .option o => .error (valueMissing o.text)
  | .value o value => s.give settled o value
  | .operand o value => if value.isEmpty then .error (valueMissing o.text) else .ok settled

/-- What is left of what has been read if the fault of what is pending, should it have one, is
overlooked: an option that must not be repeated has not been given after all, but an empty operand
has. -/
def overlook (s : Scope) (r : Reading) : Reading :=
  match s.settle r, r.pending with
  | .ok settled, _ => settled
  | .error _, .value o _ => { r with given := r.given.filter (·.1 != o), pending := .nothing }
  | .error _, _ => { r with pending := .nothing }

/-- Refuses a long option that there is not, whatever is pending. An option with a similar name is
taken as given. `rest` are the words behind it. -/
def refuseLong (s : Scope) (r : Reading) (name : String) (rest : List String) : Reply :=
  let word := "--" ++ name
  let r := s.overlook r
  let similar := (similarNames name s.form.longNames).getLast?
  let named := (r.options ++ s.form.options.filter (some ·.long == similar)).eraseDups
  let tips := match similar, s.elsewhere rest name with
    | some long, _ => [.similarOption long]
    | none, some tip => [tip]
    | none, none => if s.hasOperand then [.afterDashes word] else []
  .complaint
    { mistake := .unexpectedWord word
      tips
      usage := some (s.form.usage
        (if named.isEmpty && r.operand.isNone then .any else .only named false)) }

/-- Refuses the value of an option that has none. The usage line shows the option and those given so
far; once an option or the operand of those that belong together has been given, all of them are
shown as alternatives. What is pending has not been given yet. -/
def refuseValue (s : Scope) (r : Reading) (o : OptionSpec) (value : String) : Reply :=
  let operandGiven := match r.pending with
    | .operand .. => false
    | _ => s.form.operandName.isSome && r.operand.isSome
  let grouped := operandGiven || r.options.any s.form.alternatives.contains
  .complaint
    { mistake := .unexpectedValue value o.text
      usage := some (s.form.usage (.only (r.options ++ [o]).eraseDups grouped)) }

/-- Takes a long option and the value attached to it. -/
def takeLong (s : Scope) (r : Reading) (name : String) (attached : Option String)
    (rest : List String) : Except Reply Reading :=
  match s.form.options.find? (·.long == name) with
  | none => .error (s.refuseLong r name rest)
  | some o =>
    match o.value, attached with
    | none, some value => .error (s.refuseValue r o value)
    | none, none => do s.give (← s.settle r) o ""
    | some _, some value => do s.give (← s.settle r) o value
    | some _, none => return { ← s.settle r with pending := .option o }

/-- Takes a row of short options. -/
def takeShorts (s : Scope) (r : Reading) : List Char → Except Reply Reading
  | [] => .ok r
  | c :: cs =>
    match s.form.options.find? (·.short == some c) with
    | none =>
      let word := "-" ++ c.toString
      .error (.complaint
        { mistake := .unexpectedWord word
          tips := if s.hasOperand then [.afterDashes word] else []
          usage := some (s.form.usage .any) })
    | some o => do
      let r ← s.settle r
      match o.value, cs with
      | none, cs =>
        let r ← s.give r o ""
        s.takeShorts r cs
      | some _, [] => return { r with pending := .option o }
      | some _, '=' :: value => s.give r o (String.ofList value)
      | some _, value => s.give r o (String.ofList value)

end Scope

/-- What kind of word a word is. -/
inductive Word
  | dashes
  | long (name : String) (attached : Option String)
  | shorts (names : List Char)
  | plain

/-- The kind of a word. -/
def Word.of (word : String) : Word :=
  match word.toList with
  | ['-', '-'] => .dashes
  | '-' :: '-' :: cs =>
    let name := String.ofList (cs.takeWhile (· != '='))
    match cs.dropWhile (· != '=') with
    | [] => .long name none
    | _ :: value => .long name (some (String.ofList value))
  | '-' :: c :: cs => .shorts (c :: cs)
  | _ => .plain

/-- Reads the words of a command. -/
def readCommand (s : Scope) (operand : Operand) : List String → Reading → Except Reply Reading
  | [], r => do
    let r ← s.settle r
    if r.operand.isNone then
      throw (.complaint
        { mistake := .operandMissing operand.text
          usage := some (s.form.usage (.only r.options false)) })
    return r
  | word :: rest, r =>
    let takeOperand : Except Reply Reading := do
      if r.operand.isSome then
        throw (.complaint
          { mistake := .unexpectedWord word, usage := some (s.form.usage .any) })
      return { ← s.settle r with operand := some word, pending := .operand operand word }
    if r.dashed then takeOperand >>= readCommand s operand rest
    else match Word.of word with
      | .dashes => readCommand s operand rest { r with dashed := true }
      | .long name attached => s.takeLong r name attached rest >>= readCommand s operand rest
      | .shorts names => s.takeShorts r names >>= readCommand s operand rest
      | .plain =>
        match r.pending with
        | .option o => readCommand s operand rest { r with pending := .value o word }
        | _ => takeOperand >>= readCommand s operand rest

/-- A command that has been called: what was given to the program, the command, and what was given
to it. -/
structure Call where
  program : Reading
  command : CommandSpec
  reading : Reading

namespace ProgramSpec

/-- The tip that a command among the words to come would take an option like this one. -/
def elsewhere (p : ProgramSpec) (rest : List String) (name : String) : Option Tip :=
  rest.findSome? fun word =>
    (p.command? word).bind fun c =>
      (similarNames name (p.commandForm c).longNames).getLast?.map (.optionOfCommand c.word)

/-- The words before a command are read for the program. -/
def scope (p : ProgramSpec) : Scope :=
  { form := p.form
    help := p.help
    version := p.name ++ " " ++ p.version ++ "\n"
    hasOperand := false
    elsewhere := p.elsewhere }

/-- The words behind a command are read for it. -/
def commandScope (p : ProgramSpec) (c : CommandSpec) : Scope :=
  { form := p.commandForm c
    help := p.commandHelp c
    version := p.name ++ "-" ++ c.word ++ " " ++ p.version ++ "\n"
    hasOperand := true
    elsewhere := fun _ _ => none }

/-- The complaint about a word that calls no command. -/
def unknownCommand (p : ProgramSpec) (word : String) : Reply :=
  let similar := similarNames word (p.allCommands.map (·.word))
  .complaint
    { mistake := .unknownCommand word
      tips := if similar.isEmpty then [] else [.similarCommands similar]
      usage := some (p.form.usage .any) }

/-- Shows the help text of the command that some words call, or of the program. A command has no
commands of its own. -/
def helpFor (p : ProgramSpec) : List String → Reply
  | [] => .asked p.help
  | word :: words =>
    match p.command? word, words with
    | none, _ =>
      .complaint { mistake := .unknownCommand word, usage := some (p.form.usage .any) }
    | some c, [] => .asked (p.commandHelp c)
    | some c, next :: _ =>
      .complaint
        { mistake := .unknownCommand next
          usage := some ((p.commandForm c).usage .any)
          helpOption := c.options.any (·.purpose == .help) }

/-- Reads the words of a command line. -/
def readWords (p : ProgramSpec) : List String → Reading → Except Reply Call
  | [], r =>
    if r.given.isEmpty then .error (.help p.help)
    else
      .error (.complaint
        { mistake := .commandMissing p.name (p.allCommands.map (·.word))
          usage := some (p.form.usage .any) })
  | word :: rest, r =>
    if r.dashed then
      if (p.command? word).isSome then
        .error (.complaint
          { mistake := .unexpectedWord word
            tips := [.withoutDashes word]
            usage := some (p.form.usage .any) })
      else .error (p.unknownCommand word)
    else match Word.of word with
      | .dashes => p.readWords rest { r with dashed := true }
      | .long name attached => p.scope.takeLong r name attached rest >>= p.readWords rest
      | .shorts names => p.scope.takeShorts r names >>= p.readWords rest
      | .plain =>
        match p.command? word with
        | none => .error (p.unknownCommand word)
        | some c =>
          if c.word = p.helpCommand.word then .error (p.helpFor rest)
          else do
            let reading ← readCommand (p.commandScope c) c.operand rest {}
            return { program := r, command := c, reading }

/-- The command that a command line calls, or what there is to say instead. -/
def read (p : ProgramSpec) (words : List String) : Except Reply Call := p.readWords words {}

end ProgramSpec

end VisualNovel.Console
