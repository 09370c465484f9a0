import Mathlib.Order.Bounds.Basic
import VisualNovel.Proofs.Reachability

/-!
# What the search finds is the least set closed under links

Of the scenes that the search finds it is known that no link leads out of them. That would also hold
of all the scenes of the story. Here is the other half: any set of ids that has the start scene and
is closed under the links of its scenes has all that the search finds. Both together say that the
search finds the least such set, and the warnings about scenes out of reach speak of the scenes that
are not in it.

The search carries on with whatever is pending, defined or not, so its invariant is that the pending
ids are in the set as far as they are defined. It marks a scene by the id the scene knows itself by,
and follows links to the id that a scene is filed under; all of this is about stories in which the
two are the same.
-/

namespace VisualNovel

open Lint

namespace Story

/-- The scene leads to the id: by one of its choices, by itself, or by a defined outcome that it or
one of its choices names. -/
inductive Leads (s : Story) (scene : Scene) : String → Prop
  | choice {c : Choice} {next : String} (mem : c ∈ scene.choices) (link : c.next = some next) :
      Leads s scene next
  | transition {next : String} (link : scene.autoTransition = some next) : Leads s scene next
  | outcome {id next : String} {outcome : Outcome}
      (named : scene.outcome = some id ∨ ∃ c ∈ scene.choices, c.outcome = some id)
      (defined : s.outcome? id = some outcome) (link : outcome.next = some next) :
      Leads s scene next

/-- The start scene is in the set if it is defined, and so is every defined scene that a scene in
the set leads to. -/
structure ClosedUnderLinks (s : Story) (ids : Set String) : Prop where
  start : s.scenes.contains s.start = true → s.start ∈ ids
  leads : ∀ {id scene next}, id ∈ ids → s.scene? id = some scene → s.Leads scene next →
    s.scenes.contains next = true → next ∈ ids

variable {s : Story} {id next : String} {scene : Scene} {seen : IdSet} {pending : List String}
  {ids : Set String}

theorem exists_outcome_of_nextOfOutcome {named : Option String}
    (h : s.nextOfOutcome named = some next) :
    ∃ id outcome, named = some id ∧ s.outcome? id = some outcome ∧ outcome.next = some next := by
  obtain ⟨id, hid, h⟩ := Option.bind_eq_some_iff.1 h
  obtain ⟨outcome, ho, h⟩ := Option.bind_eq_some_iff.1 h
  exact ⟨id, outcome, hid, ho, h⟩

/-- The search follows the links of a scene, all of them and no others. -/
theorem mem_successors_iff : next ∈ s.successors scene ↔ s.Leads scene next := by
  constructor
  · intro h
    simp only [successors, List.mem_append, List.mem_flatMap, Option.mem_toList] at h
    rcases h with (⟨c, hc, hn | hn⟩ | hn) | hn
    · exact .choice hc hn
    · obtain ⟨id, outcome, hid, ho, hn⟩ := exists_outcome_of_nextOfOutcome hn
      exact .outcome (.inr ⟨c, hc, hid⟩) ho hn
    · exact .transition hn
    · obtain ⟨id, outcome, hid, ho, hn⟩ := exists_outcome_of_nextOfOutcome hn
      exact .outcome (.inl hid) ho hn
  · intro h
    cases h with
    | choice hc hn => exact mem_successors_of_choice hc (.inl hn)
    | transition hn => exact mem_successors_of_transition hn
    | outcome named ho hn =>
        rcases named with hid | ⟨c, hc, hid⟩
        · exact mem_successors_of_outcome (by rw [hid, nextOfOutcome_some ho, hn])
        · exact mem_successors_of_choice hc (.inr (by rw [hid, nextOfOutcome_some ho, hn]))

theorem reachable_closed (filed : s.Filed) : s.ClosedUnderLinks {id | id ∈ s.reachable} where
  start := start_mem_reachable filed
  leads hr hs hl hc := mem_reachable_of_successor filed hr hs (mem_successors_iff.2 hl) hc

/-- What the search visits is in every closed set that has what is pending. -/
theorem ClosedUnderLinks.mem_of_visited (closed : s.ClosedUnderLinks ids) (filed : s.Filed)
    (known : ∀ id ∈ pending, s.scenes.contains id = true → id ∈ ids)
    (hn : seen.contains id = false) (hv : (s.visited seen pending).contains id = true) :
    id ∈ ids := by
  fun_induction visited s seen pending with
  | case1 seen => exact absurd hv (by rw [hn]; exact Bool.false_ne_true)
  | case2 seen first pending hs ih =>
      exact ih (fun id hm => known id (List.mem_cons_of_mem _ hm)) hn hv
  | case3 seen first pending scene hs marked ih =>
      exact ih (fun id hm => known id (List.mem_cons_of_mem _ hm)) hn hv
  | case4 seen first pending scene hs marked ih =>
      have here : first ∈ ids := known first List.mem_cons_self (contains_of_scene? hs)
      by_cases he : id = scene.id
      · rw [he, filed hs]
        exact here
      · refine ih ?_ ((seen.contains_add_of_ne he).trans hn) hv
        intro next hm hc
        -- The scene that is visited now is in the set, and so is what it leads to.
        rcases List.mem_append.1 hm with hm | hm
        · exact known next (List.mem_cons_of_mem _ hm) hc
        · exact closed.leads here hs (mem_successors_iff.1 hm) hc

theorem ClosedUnderLinks.reachable_subset (closed : s.ClosedUnderLinks ids) (filed : s.Filed) :
    ∀ id ∈ s.reachable, id ∈ ids := by
  intro id hr
  refine closed.mem_of_visited filed (fun id hm hc => ?_) rfl (mem_reachable_iff.1 hr)
  rw [List.mem_singleton.1 hm] at hc ⊢
  exact closed.start hc

/-- The issues with scenes and outcomes come first, and the warnings about scenes out of reach make
up the rest. -/
theorem check_eq_append (s : Story) : ∃ others : List Issue,
    s.check = others ++
      (s.scenes.keys.filter (· ∉ s.reachable)).map (fun id => ⟨.scene id, .unreachable⟩) ∧
    ∀ issue ∈ others, issue.finding ≠ .unreachable := by
  refine ⟨_, rfl, fun issue hi => ?_⟩
  rcases List.mem_append.1 hi with hi | hi
  · obtain ⟨scene, -, hi⟩ := List.mem_flatMap.1 hi
    exact ne_unreachable_of_sceneIssues hi
  · obtain ⟨e, -, hi⟩ := List.mem_flatMap.1 hi
    exact ne_unreachable_of_outcomeIssues hi

/-- In a story that is filed by id, the search finds the least set of ids that has the start scene,
if that is defined, and with every scene all defined scenes that it leads to. When the check has
reported all the rest, it warns of the defined scenes that are not in the set, of each once and in
the order of their ids. -/
theorem reachable_isLeast (s : Story) (filed : s.Filed) :
    IsLeast {ids | s.ClosedUnderLinks ids} {id | id ∈ s.reachable} ∧
    s.reachable.Pairwise (· < ·) ∧ s.scenes.keys.Pairwise (· < ·) ∧
    ∃ others : List Issue,
      s.check = others ++
        (s.scenes.keys.filter (· ∉ s.reachable)).map (fun id => ⟨.scene id, .unreachable⟩) ∧
      ∀ issue ∈ others, issue.finding ≠ .unreachable := by
  have least : IsLeast {ids | s.ClosedUnderLinks ids} {id | id ∈ s.reachable} :=
    ⟨reachable_closed filed, fun _ closed => closed.reachable_subset filed⟩
  exact ⟨least, Catalog.sorted_keys _, s.scenes.sorted_keys, s.check_eq_append⟩

/-- The ferry, and an office from where one gets to the quay, but not the other way round. -/
def ferryAndOffice : Story := ferry.addScene { id := "office", autoTransition := some "quay" }

theorem reachable_isLeast_ferryAndOffice : ferryAndOffice.Filed ∧
    IsLeast {ids | ferryAndOffice.ClosedUnderLinks ids} {id | id ∈ ["deck", "island", "quay"]} ∧
    ferryAndOffice.check = [⟨.scene "office", .unreachable⟩] := by
  have filed : ferryAndOffice.Filed := ferry_filed.addScene _
  have found : ferryAndOffice.reachable = ["deck", "island", "quay"] := by decide +kernel
  have least := (reachable_isLeast ferryAndOffice filed).1
  rw [found] at least
  exact ⟨filed, least, by decide +kernel⟩

end Story

end VisualNovel
