import VisualNovel.Lint.Issue
import VisualNovel.Lint.Reachability
import VisualNovel.Lint.Suggestion

/-!
# Checking a story

Loading guarantees no more than that the start scene exists. The check reports the links and shapes
that would show up only while the story is played: ids that nothing is filed under, choices that
lead nowhere, scenes with several continuations, objects that do nothing, and scenes nobody gets
to. Issues come by scene, then by outcome, then for the scenes out of reach, each in the order of
the ids.
-/

namespace VisualNovel

namespace Story

open Lint

/-- The issue with a link to a scene. -/
def sceneLinkIssues (s : Story) (place : Location) (link : SceneLink) (target : String) :
    List Issue :=
  if s.scenes.contains target then []
  else [⟨place, .unknownScene link target (suggest target s.scenes.keys)⟩]

/-- The issue with a link to an outcome. -/
def outcomeLinkIssues (s : Story) (place : Location) (target : String) : List Issue :=
  if s.outcomes.contains target then []
  else [⟨place, .unknownOutcome target (suggest target s.outcomes.keys)⟩]

/-- The issues with the targets of a choice. -/
def choiceIssues (s : Story) (place : Location) (choice : Choice) : List Issue :=
  match choice.next, choice.outcome with
  | none, none => [⟨place, .noTarget⟩]
  | some _, some outcome => ⟨place, .twoTargets⟩ :: s.outcomeLinkIssues place outcome
  | some next, none => s.sceneLinkIssues place .choiceTarget next
  | none, some outcome => s.outcomeLinkIssues place outcome

/-- The issues with the choices of a scene, the first of which has the given number. -/
def choicesIssues (s : Story) (scene : String) : Nat → List Choice → List Issue
  | _, [] => []
  | number, choice :: choices =>
    s.choiceIssues (.choice number scene) choice ++ s.choicesIssues scene (number + 1) choices

/-- The issue with an object of a scene. -/
def objectIssues (scene : String) (object : SceneObject) : List Issue :=
  if object.action.isNone && object.yields.isNone then
    [⟨.object object.id scene, .idleObject⟩]
  else []

/-- The issues with a scene. -/
def sceneIssues (s : Story) (scene : Scene) : List Issue :=
  let place := Location.scene scene.id
  (if scene.continuationCount > 1 then [⟨place, .severalContinuations⟩] else [])
    ++ scene.autoTransition.toList.flatMap (s.sceneLinkIssues place .autoTransition)
    ++ scene.outcome.toList.flatMap (s.outcomeLinkIssues place)
    ++ s.choicesIssues scene.id 1 scene.choices
    ++ scene.objects.flatMap (objectIssues scene.id)

/-- The issues with an outcome. -/
def outcomeIssues (s : Story) (id : String) (outcome : Outcome) : List Issue :=
  outcome.next.toList.flatMap (s.sceneLinkIssues (.outcome id) .outcomeNext)

/-- The scenes that nobody gets to. -/
def unreachableIssues (s : Story) : List Issue :=
  let reached := s.reachable
  (s.scenes.keys.filter (· ∉ reached)).map fun id => ⟨.scene id, .unreachable⟩

/-- Everything that the check finds. -/
def check (s : Story) : List Issue :=
  s.scenes.values.flatMap s.sceneIssues
    ++ s.outcomes.entries.flatMap (fun e => s.outcomeIssues e.1 e.2)
    ++ s.unreachableIssues

end Story

end VisualNovel
