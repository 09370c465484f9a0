import VisualNovel.Console.Command
import VisualNovel.Console.Log
import VisualNovel.Console.Report

/-!
# Running the program

A command line becomes a reply or an invocation; an invocation and the contents of the story file
become a game that waits for input, or is over at once for the commands that take none. What is
shown goes to standard output, the log and a final error message to standard error.
-/

namespace VisualNovel.Console

open Play (Game Input Output)

/-- How the program writes. -/
structure Terminal where
  /-- Whether styles are shown. -/
  styled : Bool
  /-- Whether there is a log. -/
  logging : Bool

/-- Text for one of the two outputs. -/
inductive Written
  | out (text : String)
  | err (text : String)
  deriving DecidableEq

/-- What an invocation comes to before there is any input. -/
structure Begun where
  game : Game
  written : List Written

namespace Invocation

/-- What an output of a game writes. -/
def write (i : Invocation) (t : Terminal) : Output → Written
  | .shown display => .out (display.text t.styled)
  | .logged event => .err (if t.logging then logText i.verbose none event else "")
  | .loggedAtStart player event =>
    .err (if t.logging then logText i.verbose (some player) event else "")

/-- What some lines of a report write. -/
def writeLines (lines : List String) : List Written := lines.map fun l => .out (l ++ "\n")

/-- Carries an invocation out as far as it goes without input, given the contents of the story
file. -/
def begin (i : Invocation) (t : Terminal) (contents : Except ReadFailure ByteArray) : Begun :=
  let loaded := Loaded.ofFile i.command.strictness i.story contents
  let log := loaded.events.map fun e => i.write t (.logged e)
  match loaded.result with
  | .error e => ⟨.ended (some e.message), log⟩
  | .ok story =>
    match i.command with
    | .play guise _ =>
      let (game, outputs) := Game.begin story guise
      ⟨game, log ++ outputs.map (i.write t)⟩
    | .check _ =>
      let (lines, failure) := checkReport t.styled story
      ⟨.ended failure, log ++ writeLines lines⟩
    | .info => ⟨.ended none, log ++ writeLines (summary t.styled story)⟩

end Invocation

/-- How a failure is reported. -/
def failureText (message : String) : String := "error: " ++ message ++ "\n"

/-- The exit code of a program that failed, or did not. -/
def exitCode (failure : Option String) : UInt8 := if failure.isSome then 1 else 0

/-- What a run of the program comes to. -/
structure Report where
  code : UInt8
  written : List Written

namespace Report

/-- What went to standard output. -/
def out (r : Report) : String :=
  String.join (r.written.map fun
    | .out text => text
    | .err _ => "")

/-- What went to standard error. -/
def err (r : Report) : String :=
  String.join (r.written.map fun
    | .out _ => ""
    | .err text => text)

end Report

/-- The report of a reply. -/
def Reply.report (r : Reply) (t : Terminal) : Report :=
  let text := r.markup.text t.styled
  if r.isFailure then ⟨2, [.err text]⟩ else ⟨0, [.out text]⟩

/-- What the words of a command line tell the program to do, or what there is to say instead. -/
def Invocation.read (words : List String) : Except Reply Invocation :=
  (Command.program.read words).map Command.ofCall

/-- The lines of some bytes, each ended by a line feed or by the end. -/
def inputLines (line : List UInt8) : List UInt8 → List (List UInt8)
  | [] => if line.isEmpty then [] else [line.reverse]
  | b :: bs =>
    if b == 0x0A then (b :: line).reverse :: inputLines [] bs else inputLines (b :: line) bs

/-- A line of input made of some bytes. -/
def inputOfBytes (bytes : ByteArray) : Input :=
  match String.fromUTF8? bytes with
  | some text => .line text
  | none => .garbled

/-- A run of the program: the words of its command line, the contents of files, and everything on
standard input. -/
def run (t : Terminal) (words : List String) (file : String → Except ReadFailure ByteArray)
    (input : ByteArray) : Report :=
  match Invocation.read words with
  | .error reply => reply.report t
  | .ok i =>
    let begun := i.begin t (file i.story)
    let lines := (inputLines [] input.toList).map fun l => inputOfBytes ⟨l.toArray⟩
    let (outputs, failure) := begun.game.run lines
    ⟨exitCode failure,
      begun.written ++ outputs.map (i.write t)
        ++ (failure.map fun m => .err (failureText m)).toList⟩

end VisualNovel.Console
