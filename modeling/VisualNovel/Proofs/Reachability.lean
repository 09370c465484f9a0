import VisualNovel.Proofs.BrokenLinks

/-!
# Every scene a player gets to is found by the search

The search for unreachable scenes follows all links of a scene at once, and of an outcome it keeps
the scene behind it only. A session takes one link at a time and may stay in an outcome for as long
as it likes before it goes on. So the region that a session is confined to here holds the scenes
that the search finds, and of the outcomes those from where it goes on to such a scene. Links that
lead nowhere do no harm, for a scene has to be there to be entered.

The search itself is known by three facts: what has been seen stays so, everything pending that is
defined is visited in the end, and so is everything that a visited scene leads to.
-/

namespace VisualNovel

open Lint

namespace Catalog

variable {α : Type}

theorem sorted_keys (c : Catalog α) : c.keys.Pairwise (· < ·) := List.pairwise_map.2 c.ascending

end Catalog

namespace Story

variable {s : Story} {id next : String} {scene : Scene} {seen : IdSet} {pending : List String}

/-! ## The search -/

theorem contains_visited_of_seen (h : seen.contains id = true) :
    (s.visited seen pending).contains id = true := by
  fun_induction visited s seen pending with
  | case1 seen => exact h
  | case2 seen first pending hs ih => exact ih h
  | case3 seen first pending scene hs known ih => exact ih h
  | case4 seen first pending scene hs known ih =>
      exact ih (by rw [IdSet.contains_add, h, Bool.or_true])

theorem contains_visited_of_pending (filed : s.Filed) (hp : id ∈ pending)
    (hc : s.scenes.contains id = true) : (s.visited seen pending).contains id = true := by
  fun_induction visited s seen pending with
  | case1 seen => cases hp
  | case2 seen first pending hs ih =>
      rcases List.mem_cons.1 hp with rfl | hp
      · rw [Catalog.contains_eq_isSome, ← scene?, hs] at hc
        cases hc
      · exact ih hp
  | case3 seen first pending scene hs known ih =>
      rcases List.mem_cons.1 hp with rfl | hp
      · exact contains_visited_of_seen (filed hs ▸ known)
      · exact ih hp
  | case4 seen first pending scene hs known ih =>
      rcases List.mem_cons.1 hp with rfl | hp
      · refine contains_visited_of_seen ?_
        rw [filed hs]
        exact IdSet.contains_add_self _ _
      · exact ih (List.mem_append_left _ hp)

/-- What a visited scene leads to is visited as well. -/
theorem contains_visited_of_successor (filed : s.Filed) (hn : seen.contains id = false)
    (hv : (s.visited seen pending).contains id = true) (hs : s.scene? id = some scene)
    (hl : next ∈ s.successors scene) (hc : s.scenes.contains next = true) :
    (s.visited seen pending).contains next = true := by
  fun_induction visited s seen pending with
  | case1 seen => exact absurd hv (by rw [hn]; exact Bool.false_ne_true)
  | case2 seen first pending hf ih => exact ih hn hv
  | case3 seen first pending visiting hf known ih => exact ih hn hv
  | case4 seen first pending visiting hf known ih =>
      by_cases he : id = visiting.id
      · -- The scene itself is being visited, and what it leads to joins what is pending.
        rw [he, filed.scene?_id hf] at hs
        cases hs
        exact contains_visited_of_pending filed (List.mem_append_right _ hl) hc
      · exact ih ((seen.contains_add_of_ne he).trans hn) hv

theorem mem_reachable_iff : id ∈ s.reachable ↔
    (s.visited .empty [s.start]).contains id = true :=
  (Catalog.contains_iff_mem_keys _ _).symm

theorem start_mem_reachable (filed : s.Filed) (h : s.scenes.contains s.start = true) :
    s.start ∈ s.reachable :=
  mem_reachable_iff.2 (contains_visited_of_pending filed List.mem_cons_self h)

theorem mem_reachable_of_successor (filed : s.Filed) (hr : id ∈ s.reachable)
    (hs : s.scene? id = some scene) (hl : next ∈ s.successors scene)
    (hc : s.scenes.contains next = true) : next ∈ s.reachable :=
  mem_reachable_iff.2 (contains_visited_of_successor filed rfl (mem_reachable_iff.1 hr) hs hl hc)

/-! ## What a scene leads to -/

theorem nextOfOutcome_some {outcome : Outcome} (ho : s.outcome? id = some outcome) :
    s.nextOfOutcome (some id) = outcome.next := by
  rw [nextOfOutcome, Option.bind_some, ho, Option.bind_some]

theorem mem_successors_of_transition (h : scene.autoTransition = some next) :
    next ∈ s.successors scene := by
  rw [successors, h]
  exact List.mem_append_left _ (List.mem_append_right _ List.mem_cons_self)

theorem mem_successors_of_outcome (h : s.nextOfOutcome scene.outcome = some next) :
    next ∈ s.successors scene := by
  rw [successors, h]
  exact List.mem_append_right _ List.mem_cons_self

theorem mem_successors_of_choice {choice : Choice} (hc : choice ∈ scene.choices)
    (h : choice.next = some next ∨ s.nextOfOutcome choice.outcome = some next) :
    next ∈ s.successors scene := by
  refine List.mem_append_left _ (List.mem_append_left _ (List.mem_flatMap.2 ⟨choice, hc, ?_⟩))
  rcases h with h | h
  · rw [h]
    exact List.mem_append_left _ List.mem_cons_self
  · rw [h]
    exact List.mem_append_right _ List.mem_cons_self

/-! ## Warnings about scenes out of reach -/

theorem ne_unreachable_of_sceneLinkIssues {place : Location} {link : SceneLink} {issue : Issue}
    (h : issue ∈ s.sceneLinkIssues place link next) : issue.finding ≠ .unreachable := by
  unfold sceneLinkIssues at h
  split at h
  · cases h
  · rw [List.mem_singleton.1 h]
    exact Finding.noConfusion

theorem ne_unreachable_of_outcomeLinkIssues {place : Location} {issue : Issue}
    (h : issue ∈ s.outcomeLinkIssues place id) : issue.finding ≠ .unreachable := by
  unfold outcomeLinkIssues at h
  split at h
  · cases h
  · rw [List.mem_singleton.1 h]
    exact Finding.noConfusion

theorem ne_unreachable_of_choiceIssues {place : Location} {choice : Choice} {issue : Issue}
    (h : issue ∈ s.choiceIssues place choice) : issue.finding ≠ .unreachable := by
  unfold choiceIssues at h
  split at h
  · rw [List.mem_singleton.1 h]
    exact Finding.noConfusion
  · rcases List.mem_cons.1 h with rfl | h
    · exact Finding.noConfusion
    · exact ne_unreachable_of_outcomeLinkIssues h
  · exact ne_unreachable_of_sceneLinkIssues h
  · exact ne_unreachable_of_outcomeLinkIssues h

theorem ne_unreachable_of_choicesIssues {issue : Issue} {choices : List Choice} :
    ∀ {number : Nat}, issue ∈ s.choicesIssues id number choices →
      issue.finding ≠ .unreachable := by
  induction choices with
  | nil => exact fun h => absurd h List.not_mem_nil
  | cons choice choices ih =>
      intro number h
      rcases List.mem_append.1 h with h | h
      · exact ne_unreachable_of_choiceIssues h
      · exact ih h

theorem ne_unreachable_of_objectIssues {object : SceneObject} {issue : Issue}
    (h : issue ∈ objectIssues id object) : issue.finding ≠ .unreachable := by
  unfold objectIssues at h
  split at h
  · rw [List.mem_singleton.1 h]
    exact Finding.noConfusion
  · cases h

theorem ne_unreachable_of_sceneIssues {issue : Issue} (h : issue ∈ s.sceneIssues scene) :
    issue.finding ≠ .unreachable := by
  simp only [sceneIssues, List.mem_append, List.mem_flatMap] at h
  rcases h with (((h | ⟨_, _, h⟩) | ⟨_, _, h⟩) | h) | ⟨_, _, h⟩
  · split at h
    · rw [List.mem_singleton.1 h]
      exact Finding.noConfusion
    · cases h
  · exact ne_unreachable_of_sceneLinkIssues h
  · exact ne_unreachable_of_outcomeLinkIssues h
  · exact ne_unreachable_of_choicesIssues h
  · exact ne_unreachable_of_objectIssues h

theorem ne_unreachable_of_outcomeIssues {outcome : Outcome} {issue : Issue}
    (h : issue ∈ s.outcomeIssues id outcome) : issue.finding ≠ .unreachable := by
  obtain ⟨_, _, h⟩ := List.mem_flatMap.1 h
  exact ne_unreachable_of_sceneLinkIssues h

/-- The warnings about scenes out of reach are exactly those the search calls for. -/
theorem unreachable_mem_check_iff : ⟨.scene id, .unreachable⟩ ∈ s.check ↔
    s.scenes.contains id = true ∧ id ∉ s.reachable := by
  have mem_iff : ⟨.scene id, .unreachable⟩ ∈ s.unreachableIssues ↔
      s.scenes.contains id = true ∧ id ∉ s.reachable := by
    simp [unreachableIssues, Catalog.contains_iff_mem_keys]
  rw [← mem_iff, check, List.mem_append, List.mem_append]
  constructor
  · rintro ((h | h) | h)
    · obtain ⟨scene, -, h⟩ := List.mem_flatMap.1 h
      exact absurd rfl (ne_unreachable_of_sceneIssues h)
    · obtain ⟨e, -, h⟩ := List.mem_flatMap.1 h
      exact absurd rfl (ne_unreachable_of_outcomeIssues h)
    · exact h
  · exact .inr

end Story

namespace Region

/-- The region of what can be reached: the scenes that the search finds, and the outcomes from
where it goes on to one of them. -/
def reached (story : Story) : Region where
  scene id := story.scenes.contains id = true → id ∈ story.reachable
  outcome id := ∀ next, story.nextOfOutcome (some id) = some next →
    story.scenes.contains next = true → next ∈ story.reachable
  aimless := True

theorem reached_closed {story : Story} (filed : story.Filed) :
    (reached story).Closed story where
  start _ := Story.start_mem_reachable filed
  transition hr hs hc := Story.mem_reachable_of_successor filed
    (hr (Story.contains_of_scene? hs)) hs
    (Story.mem_successors_of_transition (Scene.autoTransition_of_continuation hc))
  outcome := by
    intro scene id hr hs hc next hn
    rw [← Scene.outcome_of_continuation hc] at hn
    exact Story.mem_reachable_of_successor filed (hr (Story.contains_of_scene? hs)) hs
      (Story.mem_successors_of_outcome hn)
  choice := by
    intro scene c hr hs hm
    have found : ∀ {next}, c.next = some next ∨ story.nextOfOutcome c.outcome = some next →
        story.scenes.contains next = true → next ∈ story.reachable := fun h =>
      Story.mem_reachable_of_successor filed (hr (Story.contains_of_scene? hs)) hs
        (Story.mem_successors_of_choice hm h)
    unfold Region.choice
    split
    · next id _ ho =>
        intro next hn
        rw [← ho] at hn
        exact found (.inr hn)
    · next id _ hn => exact found (.inl hn)
    · trivial
  next := by
    intro id outcome next hr ho hn
    exact hr next ((Story.nextOfOutcome_some ho).trans hn)

end Region

/-- Wherever a player gets by playing, the search has found the scene, and so the check gives no
warning that it is out of reach. -/
theorem Session.play_visits_reachable (story : Story) (filed : story.Filed) (s : Session)
    (steps : List SessionStep) (play : ∀ step ∈ steps, step.isPlay = true) (id : String)
    (visited : (s.play story steps).value.sceneId? = some id ∨
      ∃ lines, .sceneEntered id lines ∈ (s.play story steps).events) :
    id ∈ story.reachable ∧ ⟨.scene id, .unreachable⟩ ∉ story.check := by
  have ensures := Region.play_ensures (Region.reached_closed filed) filed s play
  have reached : id ∈ story.reachable := by
    rcases visited with h | ⟨lines, h⟩
    · obtain ⟨w, hw, rfl⟩ := Option.map_eq_some_iff.1 h
      obtain ⟨scene, hs, -⟩ := (ensures.value.inStep hw).scene
      exact ensures.value.scene hw (Story.contains_of_scene? hs)
    · obtain ⟨hr, hc⟩ := ensures.notes _ (Traced.mem_events.1 h)
      exact hr hc
  exact ⟨reached, fun h => (Story.unreachable_mem_check_iff.1 h).2 reached⟩

theorem Session.play_visits_reachable_ferry :
    ((new {}).play Story.ferry SessionStep.crossing).value.sceneId? = some "island" ∧
      "island" ∈ Story.ferry.reachable ∧
      ⟨.scene "island", .unreachable⟩ ∉ Story.ferry.check := by
  have arrived :
      ((new {}).play Story.ferry SessionStep.crossing).value.sceneId? = some "island" := by
    decide +kernel
  exact ⟨arrived, play_visits_reachable _ Story.ferry_filed _ _ SessionStep.crossing_isPlay _
    (.inl arrived)⟩

end VisualNovel
