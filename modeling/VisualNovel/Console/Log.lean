import VisualNovel.Event

/-!
# Log lines

One line for each event: its level, what the program was doing, the message, and the values. Only
warnings and errors are logged unless everything is asked for, and only then does a line say whose
game was being started.
-/

namespace VisualNovel.Console

/-- The level, filled up to five columns. -/
def levelLabel : Level → String
  | .error => "ERROR"
  | .warning => " WARN"
  | .info => " INFO"
  | .debug => "DEBUG"

/-- Whether an event of the level is logged. -/
def isLogged (verbose : Bool) : Level → Bool
  | .error | .warning => true
  | .info | .debug => verbose

/-- A value as it is written in the log. -/
def logValue : EventValue → String
  | .plain text => text
  | .quoted text => Text.quoted text
  | .number n => toString n

/-- The line of an event. `starting` is the player whose game is being started. -/
def logLine (starting : Option String) (e : Event) : String :=
  let span := (starting.map fun player => "start_game\x7bplayer=" ++ player ++ "\x7d: ").getD ""
  levelLabel e.level ++ " " ++ span ++ e.message
    ++ String.join (e.values.map fun v => " " ++ v.1 ++ "=" ++ logValue v.2)

/-- What an event adds to the log. -/
def logText (verbose : Bool) (starting : Option String) (e : Event) : String :=
  if isLogged verbose e.level then
    logLine (if verbose then starting else none) e ++ "\n"
  else ""

end VisualNovel.Console
