import VisualNovel.Story.Location

/-!
# Findings about a story

A finding says what is wrong with a place of a story. Broken links and choices without a target are
errors, for the story will misbehave when it is played; the rest are warnings.
-/

namespace VisualNovel.Lint

/-- How serious a finding is. -/
inductive Severity
  | error
  | warning
  deriving DecidableEq

/-- The severity in words. -/
def Severity.text : Severity → String
  | error => "error"
  | warning => "warning"

/-- A field that names a scene. -/
inductive SceneLink
  | autoTransition
  | choiceTarget
  | outcomeNext
  deriving DecidableEq

/-- What the field is called in messages. -/
def SceneLink.text : SceneLink → String
  | autoTransition => "autoTransitionTo"
  | choiceTarget => "nextSceneId"
  | outcomeNext => "next scene"

/-- What is wrong with a place. -/
inductive Finding
  | severalContinuations
  /-- A link to a scene that is not there, and an id that may have been meant. -/
  | unknownScene (link : SceneLink) (target : String) (hint : Option String)
  /-- A link to an outcome that is not there, and an id that may have been meant. -/
  | unknownOutcome (target : String) (hint : Option String)
  | noTarget
  | twoTargets
  | idleObject
  | unreachable
  deriving DecidableEq

namespace Finding

/-- How serious the finding is. -/
def severity : Finding → Severity
  | unknownScene .. | unknownOutcome .. | noTarget => .error
  | severalContinuations | twoTargets | idleObject | unreachable => .warning

/-- The id that may have been meant, in words. -/
def hintText : Option String → String
  | some id => " (did you mean \"" ++ id ++ "\"?)"
  | none => ""

/-- The finding in words. -/
def message : Finding → String
  | severalContinuations =>
    "declares more than one continuation; choices win over autoTransitionTo, " ++
      "which wins over outcome"
  | unknownScene link target hint =>
    link.text ++ " refers to unknown scene \"" ++ target ++ "\"" ++ hintText hint
  | unknownOutcome target hint =>
    "refers to unknown outcome \"" ++ target ++ "\"" ++ hintText hint
  | noTarget => "has neither nextSceneId nor outcome"
  | twoTargets => "has both nextSceneId and outcome; the outcome wins"
  | idleObject => "has no action and yields nothing"
  | unreachable => "not reachable from the start scene"

end Finding

/-- A finding and the place it is about. -/
structure Issue where
  location : Location
  finding : Finding
  deriving DecidableEq

namespace Issue

/-- How serious the issue is. -/
def severity (i : Issue) : Severity := i.finding.severity

/-- Whether the story will misbehave. -/
def isError (i : Issue) : Bool := i.severity == .error

/-- The issue in one line. -/
def text (i : Issue) : String :=
  i.severity.text ++ ": " ++ i.location.text ++ ": " ++ i.finding.message

end Issue

end VisualNovel.Lint
