import VisualNovel.Console.Program

/-!
# The program

Reads the command line, the story file and the lines of input, and writes what the library makes of
them. Nothing is decided here.
-/

namespace VisualNovel.Main

open Console Play

/-- Writes to the two outputs. -/
def writeAll (written : List Written) : IO Unit := do
  let out ← IO.getStdout
  let err ← IO.getStderr
  for w in written do
    match w with
    | .out text => out.putStr text
    | .err text => err.putStr text
  out.flush
  err.flush

/-- The contents of a file. -/
def contents (path : String) : IO (Except ReadFailure ByteArray) := do
  try
    return .ok (← IO.FS.readBinFile path)
  catch e =>
    match e with
    | .noFileOrDirectory .. => return .error .notFound
    | e => return .error (.refused (toString e))

/-- The next line of input. -/
def nextLine : IO Input := do
  try
    let line ← (← IO.getStdin).getLine
    return if line.isEmpty then .finished else .line line
  catch _ => return .garbled

/-- Plays a game until it is over: why it failed, if it did. -/
partial def play (i : Invocation) (t : Terminal) (game : Game) : IO (Option String) := do
  match game with
  | .ended failure _ => return failure
  | game =>
    writeAll (game.request.map (i.write t))
    let (next, outputs) := game.feed (← nextLine)
    writeAll (outputs.map (i.write t))
    play i t next

/-- Whether standard output shows styles: as the environment says, or if it is a terminal. -/
def showsStyles : IO Bool := do
  if ((← IO.getEnv "CLICOLOR_FORCE").getD "0") != "0" then return true
  else if (← IO.getEnv "NO_COLOR").isSome || (← IO.getEnv "CLICOLOR") == some "0" then return false
  else (← IO.getStdout).isTty

end VisualNovel.Main

open VisualNovel VisualNovel.Console in
/-- Runs the program. -/
def main (words : List String) : IO UInt32 := do
  let t : Terminal := { styled := ← VisualNovel.Main.showsStyles, logging := true }
  match Invocation.read words with
  | .error reply =>
    let report := reply.report t
    VisualNovel.Main.writeAll report.written
    return report.code.toUInt32
  | .ok i =>
    let begun := i.begin t (← VisualNovel.Main.contents i.story)
    VisualNovel.Main.writeAll begun.written
    let failure ← VisualNovel.Main.play i t begun.game
    VisualNovel.Main.writeAll (failure.map fun m => Written.err (failureText m)).toList
    return (exitCode failure).toUInt32
