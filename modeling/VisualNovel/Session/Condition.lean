import VisualNovel.Session.World
import VisualNovel.Story.Scene

/-!
# Conditions on choices

A choice is offered only while the flag and the item that it asks for are there.
-/

namespace VisualNovel

/-- Something that holds in a world or does not. -/
inductive Condition
  | always
  | hasFlag (flag : String)
  | hasItem (item : String)
  /-- All of some conditions. -/
  | all (conditions : List Condition)
  deriving Inhabited

namespace Condition

mutual

/-- Whether the condition holds. -/
def holds (w : World) : Condition → Bool
  | always => true
  | hasFlag flag => w.hasFlag flag
  | hasItem item => w.hasItem item
  | all conditions => allHold w conditions

/-- Whether all the conditions hold. -/
def allHold (w : World) : List Condition → Bool
  | [] => true
  | c :: cs => holds w c && allHold w cs

end

end Condition

namespace Choice

/-- The condition under which the choice is offered. -/
def condition (c : Choice) : Condition :=
  match c.requiredFlag, c.requiredItem with
  | none, none => .always
  | some flag, none => .hasFlag flag
  | none, some item => .hasItem item
  | some flag, some item => .all [.hasFlag flag, .hasItem item]

/-- Whether the choice is offered. -/
def isVisible (c : Choice) (w : World) : Bool := c.condition.holds w

end Choice

end VisualNovel
