import VisualNovel.Console.Table
import VisualNovel.Lint.Check
import VisualNovel.Text.Style

/-!
# Reports on a story

The issues that the check finds, and a summary, each as lines of text.
-/

namespace VisualNovel.Console

/-- A count of things, in the singular for one. -/
def counted (n : Nat) (thing : String) : String :=
  toString n ++ " " ++ thing ++ if n = 1 then "" else "s"

/-- A severity as the table of issues shows it. -/
def severityCell (styled : Bool) (s : Lint.Severity) : String :=
  let style := match s with
    | .error => Text.Style.boldRed
    | .warning => Text.Style.yellow
  style.apply styled s.text

/-- The table of some issues. -/
def issueTable (styled : Bool) (issues : List Lint.Issue) : Table :=
  { header := ["Severity", "Location", "Message"]
    rows := issues.map fun i =>
      [severityCell styled i.severity, i.location.text, i.finding.message] }

/-- The report of the check: its lines, and why it counts as failed, if there are errors. -/
def checkReport (styled : Bool) (story : Story) : List String × Option String :=
  let issues := story.check
  if issues.isEmpty then
    (["  All checks passed for '" ++ story.title ++ "'.",
      "  " ++ toString story.scenes.size ++ " scenes, " ++ toString story.outcomes.size
        ++ " outcomes"], none)
  else
    let errors := issues.countP (·.isError)
    ((issueTable styled issues).lines
      ++ ["  " ++ counted errors "error" ++ ", " ++ counted (issues.length - errors) "warning"],
      if errors = 0 then none else some ("'" ++ story.title ++ "' has broken references"))

/-- What stands for nothing in a table. -/
def nothingCell : String := "—"

/-- A text of at most `size` characters for a table. -/
def shortened (size : Nat) (text : String) : String :=
  if size < text.length then String.ofList (text.toList.take (size - 3)) ++ "..."
  else if text.isEmpty then nothingCell
  else text

/-- The table of the outcomes of a story. -/
def outcomeTable (story : Story) : Table :=
  { header := ["Outcome", "Message", "Continues to"]
    rows := story.outcomes.entries.map fun (id, outcome) =>
      [id, shortened 60 outcome.message, outcome.next.getD nothingCell] }

/-- The summary of a story. -/
def summary (styled : Bool) (story : Story) : List String :=
  let scenes := story.scenes.values
  ["  " ++ Text.Style.bold.apply styled story.title,
   "",
   "  start scene: " ++ story.start,
   "  placeholder: " ++ story.placeholder,
   "  scenes:      " ++ toString story.scenes.size,
   "  choices:     " ++ toString (scenes.flatMap (·.choices)).length,
   "  objects:     " ++ toString (scenes.flatMap (·.objects)).length,
   "  outcomes:    " ++ toString story.outcomes.size]
    ++ if story.outcomes.size = 0 then [] else "" :: (outcomeTable story).lines

end VisualNovel.Console
