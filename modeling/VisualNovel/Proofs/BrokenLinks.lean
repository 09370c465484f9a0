import VisualNovel.Lint.Check
import VisualNovel.Proofs.Region

/-!
# A story without errors has no broken links to find

The check walks the story as a document, with a case split of its own: a choice is judged by its
outcome where it has one, every declaration of a scene is looked at whether or not it counts, and so
is every outcome. A session follows links by the priorities of the running game. Both agree to the
extent that matters: the scenes and outcomes that are defined form a region that is closed under
whatever a session follows, provided the check finds no error.
-/

namespace VisualNovel

open Lint

namespace Scene

variable {s : Scene}

theorem autoTransition_of_continuation {next : String}
    (h : s.continuation = .autoTransition next) : s.autoTransition = some next := by
  unfold continuation at h
  split at h
  · cases h
  · split at h
    · next hn =>
        cases h
        exact hn
    · cases h
    · split at h <;> cases h

theorem outcome_of_continuation {id : String} (h : s.continuation = .outcome id) :
    s.outcome = some id := by
  unfold continuation at h
  split at h
  · cases h
  · split at h
    · cases h
    · next ho =>
        cases h
        exact ho
    · split at h <;> cases h

end Scene

namespace Story

/-- The check finds no error; there may be warnings. -/
def Clean (s : Story) : Prop := ∀ issue ∈ s.check, issue.isError = false

variable {s : Story} {place : Location} {target : String}

theorem contains_of_sceneLinkIssues {link : SceneLink}
    (h : ∀ issue ∈ s.sceneLinkIssues place link target, issue.isError = false) :
    s.scenes.contains target = true := by
  unfold sceneLinkIssues at h
  split at h
  · next hc => exact hc
  · cases h _ List.mem_cons_self

theorem contains_of_outcomeLinkIssues
    (h : ∀ issue ∈ s.outcomeLinkIssues place target, issue.isError = false) :
    s.outcomes.contains target = true := by
  unfold outcomeLinkIssues at h
  split at h
  · next hc => exact hc
  · cases h _ List.mem_cons_self

theorem choiceIssues_subset (scene : String) {choice : Choice} :
    ∀ {choices : List Choice} (number : Nat), choice ∈ choices →
      ∃ place, s.choiceIssues place choice ⊆ s.choicesIssues scene number choices := by
  intro choices
  induction choices with
  | nil => exact fun _ h => absurd h List.not_mem_nil
  | cons c choices ih =>
      intro number h
      rw [choicesIssues]
      rcases List.mem_cons.1 h with rfl | h
      · exact ⟨_, List.subset_append_left _ _⟩
      · obtain ⟨place, hp⟩ := ih (number + 1) h
        exact ⟨place, List.subset_append_of_subset_right _ hp⟩

namespace Clean

variable (h : s.Clean)

include h

theorem sceneIssues {scene : Scene} {key : String} (hs : s.scene? key = some scene) :
    ∀ issue ∈ s.sceneIssues scene, issue.isError = false := fun issue hi =>
  h issue (List.mem_append_left _ (List.mem_append_left _
    (List.mem_flatMap.2 ⟨scene, Catalog.mem_values_of_get? hs, hi⟩)))

theorem transition {scene : Scene} {key next : String} (hs : s.scene? key = some scene)
    (hn : scene.autoTransition = some next) : s.scenes.contains next = true := by
  have link : ∀ issue ∈ s.sceneLinkIssues (.scene scene.id) .autoTransition next,
      issue.isError = false := by
    intro issue hi
    refine h.sceneIssues hs issue ?_
    simp only [Story.sceneIssues, hn, Option.toList_some, List.flatMap_singleton,
      List.mem_append]
    exact .inl (.inl (.inl (.inr hi)))
  exact contains_of_sceneLinkIssues link

theorem outcome {scene : Scene} {key id : String} (hs : s.scene? key = some scene)
    (ho : scene.outcome = some id) : s.outcomes.contains id = true := by
  have link : ∀ issue ∈ s.outcomeLinkIssues (.scene scene.id) id, issue.isError = false := by
    intro issue hi
    refine h.sceneIssues hs issue ?_
    simp only [Story.sceneIssues, ho, Option.toList_some, List.flatMap_singleton,
      List.mem_append]
    exact .inl (.inl (.inr hi))
  exact contains_of_outcomeLinkIssues link

theorem choiceIssues {scene : Scene} {key : String} {choice : Choice}
    (hs : s.scene? key = some scene) (hc : choice ∈ scene.choices) :
    ∃ place, ∀ issue ∈ s.choiceIssues place choice, issue.isError = false := by
  obtain ⟨place, hp⟩ := choiceIssues_subset (s := s) scene.id 1 hc
  refine ⟨place, fun issue hi => h.sceneIssues hs issue ?_⟩
  simp only [Story.sceneIssues, List.mem_append]
  exact .inl (.inr (hp hi))

theorem outcomeNext {id next : String} {outcome : Outcome} (ho : s.outcome? id = some outcome)
    (hn : outcome.next = some next) : s.scenes.contains next = true := by
  have link : ∀ issue ∈ s.sceneLinkIssues (.outcome id) .outcomeNext next,
      issue.isError = false := by
    intro issue hi
    refine h issue (List.mem_append_left _ (List.mem_append_right _ (List.mem_flatMap.2
      ⟨(id, outcome), Catalog.mem_entries_of_get? ho, ?_⟩)))
    simpa only [outcomeIssues, hn, Option.toList_some, List.flatMap_singleton] using hi
  exact contains_of_sceneLinkIssues link

end Clean

/-- Scenes out of reach are no errors, so it is enough to look at the links. -/
theorem clean_of_links
    (hs : ∀ scene ∈ s.scenes.values, ∀ issue ∈ s.sceneIssues scene, issue.isError = false)
    (ho : ∀ e ∈ s.outcomes.entries, ∀ issue ∈ s.outcomeIssues e.1 e.2, issue.isError = false) :
    s.Clean := by
  intro issue hi
  rcases List.mem_append.1 hi with hi | hi
  · rcases List.mem_append.1 hi with hi | hi
    · obtain ⟨scene, hm, hi⟩ := List.mem_flatMap.1 hi
      exact hs scene hm issue hi
    · obtain ⟨e, hm, hi⟩ := List.mem_flatMap.1 hi
      exact ho e hm issue hi
  · obtain ⟨id, -, rfl⟩ := List.mem_map.1 hi
    rfl

theorem ferry_clean : ferry.Clean :=
  clean_of_links (by decide +kernel) (by decide +kernel)

end Story

namespace Region

/-- The region of all that is defined. A choice without a target does not belong to it. -/
def defined (story : Story) : Region where
  scene id := story.scenes.contains id = true
  outcome id := story.outcomes.contains id = true
  aimless := False

variable {story : Story}

theorem defined_choice {choice : Choice} {place : Location}
    (h : ∀ issue ∈ story.choiceIssues place choice, issue.isError = false) :
    (defined story).choice choice := by
  unfold Story.choiceIssues at h
  unfold Region.choice
  cases hn : choice.next with
  | none =>
      cases ho : choice.outcome with
      | none =>
          rw [hn, ho] at h
          cases h _ List.mem_cons_self
      | some id =>
          rw [hn, ho] at h
          exact Story.contains_of_outcomeLinkIssues h
  | some next =>
      cases ho : choice.outcome with
      | none =>
          rw [hn, ho] at h
          exact Story.contains_of_sceneLinkIssues h
      | some id =>
          rw [hn, ho] at h
          exact Story.contains_of_outcomeLinkIssues fun issue hi =>
            h issue (List.mem_cons_of_mem _ hi)

/-- Without errors no link that a session follows is broken. -/
theorem defined_closed (clean : story.Clean) : (defined story).Closed story where
  start := Story.contains_of_scene?
  transition _ hs hc := clean.transition hs (Scene.autoTransition_of_continuation hc)
  outcome _ hs hc := clean.outcome hs (Scene.outcome_of_continuation hc)
  choice _ hs hc := by
    obtain ⟨place, hp⟩ := clean.choiceIssues hs hc
    exact defined_choice hp
  next _ ho hn := clean.outcomeNext ho hn

end Region

/-- The messages about links that cannot be followed. -/
def Event.brokenLinkMessages : List String :=
  ["cannot advance: scene not found", "cannot resolve: outcome not found",
    "choice has neither a next scene nor an outcome",
    "cannot continue: scene after outcome not found"]

/-- Whether the event tells of a link that cannot be followed. -/
def Event.isBrokenLink : Event → Bool
  | .sceneNotFound .. | .outcomeNotFound _ | .choiceLeadsNowhere .. | .nextSceneNotFound _ => true
  | _ => false

theorem Event.message_mem_brokenLinkMessages_iff (event : Event) :
    event.message ∈ brokenLinkMessages ↔ event.isBrokenLink = true := by
  cases event <;> dsimp only [message, isBrokenLink] <;> decide

/-- What is defined cannot be missed. -/
theorem Region.not_isBrokenLink_of_allows {story : Story} {event : Event}
    (h : (defined story).Allows story (.logged event)) : event.isBrokenLink ≠ true := by
  intro broken
  match event, broken with
  | .sceneNotFound id _, _ | .nextSceneNotFound id, _ =>
      have hc : story.scenes.contains id = true := h.1
      rw [Catalog.contains_eq_isSome, ← Story.scene?, h.2] at hc
      cases hc
  | .outcomeNotFound id, _ =>
      have hc : story.outcomes.contains id = true := h.1
      rw [h.2] at hc
      cases hc
  | .choiceLeadsNowhere _ _, _ => exact False.elim h

/-- Whoever plays a story without errors never gets a warning about a link that leads nowhere. -/
theorem Session.play_finds_no_broken_link (story : Story) (filed : story.Filed)
    (clean : story.Clean) (s : Session) (steps : List SessionStep)
    (play : ∀ step ∈ steps, step.isPlay = true) :
    ∀ event ∈ (s.play story steps).events, event.message ∉ Event.brokenLinkMessages := by
  intro event he broken
  have ensures := Region.play_ensures (Region.defined_closed clean) filed s play
  have allowed := ensures.notes _ (Traced.mem_events.1 he)
  have isBrokenLink := event.message_mem_brokenLinkMessages_iff.1 broken
  exact Region.not_isBrokenLink_of_allows allowed isBrokenLink

theorem Session.play_finds_no_broken_link_ferry :
    Story.ferry.Filed ∧ Story.ferry.Clean ∧
      (∀ step ∈ SessionStep.crossing, step.isPlay = true) ∧
      ((new {}).play Story.ferry SessionStep.crossing).value.sceneId? = some "island" ∧
      ∀ event ∈ ((new {}).play Story.ferry SessionStep.crossing).events,
        event.message ∉ Event.brokenLinkMessages :=
  ⟨Story.ferry_filed, Story.ferry_clean, SessionStep.crossing_isPlay, by decide +kernel,
    play_finds_no_broken_link _ Story.ferry_filed Story.ferry_clean _ _
      SessionStep.crossing_isPlay⟩

end VisualNovel
