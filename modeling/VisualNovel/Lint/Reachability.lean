import VisualNovel.Story.Basic

/-!
# Scenes that can be reached

From a scene one gets to the targets of its choices, to the scene that follows by itself, and to
the scenes behind the outcomes it or its choices lead to. Conditions on choices are left out of
account, and so is the priority among a scene's continuations.

The search takes one pending id after the other. A scene that is visited leaves pending as many ids
as it leads to, but it is visited only once, so the scenes that have not been seen pay for all that
will ever be pending (`Story.unseenCost`).
-/

namespace VisualNovel

namespace Story

/-- The scene behind an outcome. -/
def nextOfOutcome (s : Story) (outcome : Option String) : Option String :=
  outcome.bind fun id => (s.outcome? id).bind (·.next)

/-- The ids that a scene leads to, defined or not. -/
def successors (s : Story) (scene : Scene) : List String :=
  scene.choices.flatMap (fun c => c.next.toList ++ (s.nextOfOutcome c.outcome).toList)
    ++ scene.autoTransition.toList ++ (s.nextOfOutcome scene.outcome).toList

/-- The steps that some scenes still cost a search: each is visited once, and then all that it leads
to is looked at. -/
def unseenCost (s : Story) (seen : IdSet) : List Scene → Nat
  | [] => 0
  | scene :: scenes =>
    (if seen.contains scene.id then 0 else (s.successors scene).length + 1) +
      s.unseenCost seen scenes

section Cost

variable {s : Story} {seen : IdSet}

theorem unseenCost_add_le (id : String) (scenes : List Scene) :
    s.unseenCost (seen.add id) scenes ≤ s.unseenCost seen scenes := by
  induction scenes with
  | nil => exact Nat.le_refl _
  | cons scene scenes ih =>
    rw [unseenCost, unseenCost, IdSet.contains_add]
    by_cases marked : seen.contains scene.id = true <;> by_cases same : scene.id = id <;>
      simp [marked, same] <;> omega

/-- Visiting a scene pays for what it leads to. -/
theorem unseenCost_add_lt (s : Story) {scene : Scene} (hn : ¬seen.contains scene.id = true)
    {scenes : List Scene} (mem : scene ∈ scenes) :
    s.unseenCost (seen.add scene.id) scenes + (s.successors scene).length <
      s.unseenCost seen scenes := by
  induction scenes with
  | nil => cases mem
  | cons first scenes ih =>
    rw [unseenCost, unseenCost]
    rcases List.mem_cons.1 mem with rfl | mem
    · have le : s.unseenCost (seen.add scene.id) scenes ≤ s.unseenCost seen scenes :=
        unseenCost_add_le _ scenes
      rw [if_pos (seen.contains_add_self _), if_neg hn]
      omega
    · have lt := ih mem
      rw [IdSet.contains_add]
      by_cases marked : seen.contains first.id = true <;> by_cases same : first.id = scene.id <;>
        simp [marked, same] <;> omega

end Cost

/-- Visits the `pending` scenes in turn, as far as they are defined, and puts off what they lead to
until the rest is done: the ids of the scenes that have been visited. A scene whose id has been
`seen` is passed over. -/
def visited (s : Story) (seen : IdSet) : List String → IdSet
  | [] => seen
  | id :: pending =>
    match _h : s.scene? id with
    | none => s.visited seen pending
    | some scene =>
      if seen.contains scene.id then s.visited seen pending
      else s.visited (seen.add scene.id) (pending ++ s.successors scene)
termination_by pending => s.unseenCost seen s.scenes.values + pending.length
decreasing_by
  · simp
  · simp
  · have paid := s.unseenCost_add_lt ‹_› (Catalog.mem_values_of_get? _h)
    rw [List.length_append, List.length_cons]
    omega

/-- The ids of the scenes that can be reached from the start scene, in order. -/
def reachable (s : Story) : List String := (s.visited .empty [s.start]).toList

end Story

end VisualNovel
