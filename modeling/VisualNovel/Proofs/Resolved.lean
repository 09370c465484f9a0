import VisualNovel.Proofs.Filing
import VisualNovel.Proofs.Steps

/-!
# A game that has reached its outcome stands still

Once an outcome is reached the game waits for somebody to leave it: to clear the outcome, to go on
behind it, to begin anew or to bind another story. Until then the player may still read what is left
of the dialogue and change their name and portrait, and nothing else happens, whatever they try. No
scene is entered, nothing is taken or used up, and the action handler is not called.

The steps find that out at different places. Entering a scene and making a choice ask where the
session stands, reading on and interacting ask for the outcome, and picking a choice does not ask at
all but makes it and has it turned down. What a step may change is therefore written down once
(`Session.Held`) and shown step by step; clearing the outcome then finds the game as it was.
-/

namespace VisualNovel

open Traced (Ensures)

/-- Whether the step is none of those that leave an outcome. -/
def SessionStep.stays : SessionStep → Bool
  | .setName _ | .setPortrait _ | .advance | .goTo _ | .makeChoice _ | .choose _
  | .interact _ => true
  | .load _ | .bind _ | .start | .reset | .continueOn => false

namespace Session

variable {s t u : Session} {w : World} {steps : List SessionStep}

/-- `t` has reached an outcome and differs from `s` at most in who the player is and in how far the
dialogue has been read, and it has been read no less far. -/
structure Held (s t : Session) : Prop where
  resolved : t.state = .resolved
  story : t.story = s.story
  config : t.config = s.config
  handler : t.handler = s.handler
  world : ∃ w player, s.world = some w ∧ t.world = some { w with player }
  cursor : ∃ position, s.cursor.position ≤ position ∧ t.cursor = { s.cursor with position }

namespace Held

theorem refl (hr : s.state = .resolved) : s.Held s := by
  obtain ⟨w, hw, -⟩ := state_eq_resolved_iff.1 hr
  exact ⟨hr, rfl, rfl, rfl, ⟨w, w.player, hw, hw⟩, ⟨_, Nat.le_refl _, rfl⟩⟩

theorem trans (h : s.Held t) (h' : t.Held u) : s.Held u := by
  obtain ⟨w, player, hs, ht⟩ := h.world
  obtain ⟨w', player', ht', hu⟩ := h'.world
  obtain ⟨position, hle, hc⟩ := h.cursor
  obtain ⟨position', hle', hc'⟩ := h'.cursor
  rw [ht] at ht'
  cases ht'
  rw [hc] at hle' hc'
  exact ⟨h'.resolved, h'.story.trans h.story, h'.config.trans h.config,
    h'.handler.trans h.handler, ⟨w, player', hs, hu⟩, ⟨position', Nat.le_trans hle hle', hc'⟩⟩

/-- The player is somebody else, in the running game as well. -/
theorem map_player (hr : s.state = .resolved) (profile : Profile) {f : World → World}
    (hf : ∀ w, ∃ player, f w = { w with player }) :
    s.Held { s with profile, world := s.world.map f } := by
  obtain ⟨w, hw, ht⟩ := state_eq_resolved_iff.1 hr
  obtain ⟨player, hp⟩ := hf w
  have mapped : s.world.map f = some { w with player } := by rw [hw, Option.map_some, hp]
  exact ⟨state_eq_resolved_iff.2 ⟨_, mapped, ht⟩, rfl, rfl, rfl, ⟨w, player, hw, mapped⟩,
    ⟨_, Nat.le_refl _, rfl⟩⟩

end Held

theorem setName_held (hr : s.state = .resolved) (name : String) :
    (s.setName name).Ensures (fun r => s.Held r.1) (·.isEffect = false) := by
  unfold setName
  dsimp only
  split
  · exact .log rfl (.pure (.refl hr))
  · split
    · exact .log rfl (.pure (.refl hr))
    · exact .pure (.map_player hr _ fun w => ⟨_, rfl⟩)

theorem advance_held (hr : s.state = .resolved) :
    s.advance.Ensures s.Held (·.isEffect = false) := by
  rcases s.advance_cases with ⟨hw, -⟩ | ⟨-, -, he⟩ | ⟨scene, hp, -⟩
  · rw [state_eq_idle_iff.2 hw] at hr
    cases hr
  · obtain ⟨w, hw, -⟩ := state_eq_resolved_iff.1 hr
    rw [he]
    exact .pure ⟨hr, rfl, rfl, rfl, ⟨w, w.player, hw, hw⟩, s.cursor.advance_eq⟩
  · rw [hp] at hr
    cases hr

theorem makeChoice_held (hr : s.state = .resolved) (choice : Choice) :
    (s.makeChoice choice).Ensures s.Held (·.isEffect = false) := by
  rw [makeChoice_of_not_playing (by simp [hr])]
  exact .log rfl (.pure (.refl hr))

theorem interact_of_resolved (hr : s.state = .resolved) (id : String) :
    s.interact id = (return (s, .unavailable)) := by
  obtain ⟨w, hw, ht⟩ := state_eq_resolved_iff.1 hr
  unfold interact
  split
  · next w' scene hw' hs =>
      rw [hw] at hw'
      cases hw'
      exact if_pos ht
  · rfl

/-- One step. -/
theorem step_held (hr : s.state = .resolved) {step : SessionStep} (hs : step.stays = true) :
    (s.step step).Ensures (fun r => s.Held r.1) (·.isEffect = false) := by
  cases step with
  | load | bind | start | reset | continueOn => cases hs
  | setName name => exact .bind (setName_held hr name) fun _ held => .pure held
  | setPortrait portrait => exact .pure (.map_player hr _ fun w => ⟨_, rfl⟩)
  | advance => exact .bind (advance_held hr) fun _ held => .pure held
  | goTo scene =>
      refine .bind (P := s.Held) ?_ fun _ held => .pure held
      rw [goTo, enter_of_not_playing (by simp [hr])]
      exact .log rfl (.pure (.refl hr))
  | makeChoice choice => exact .bind (makeChoice_held hr choice) fun _ held => .pure held
  | choose index =>
      refine .bind (P := fun r => s.Held r.1) ?_ fun _ held => .pure held
      rcases s.choose_cases index with he | ⟨choice, -, he⟩
      · rw [he]
        exact .log rfl (.pure (.refl hr))
      · rw [he]
        exact .bind (makeChoice_held hr choice) fun _ held => .pure held
  | interact object =>
      refine .bind (P := fun r => s.Held r.1) ?_ fun _ held => .pure held
      rw [interact_of_resolved hr]
      exact .pure (.refl hr)

/-- Any number of steps. -/
theorem run_held (hr : s.state = .resolved) (hs : ∀ step ∈ steps, step.stays = true) :
    (s.run steps).Ensures s.Held (·.isEffect = false) :=
  run_ensures (fun step hm _ held =>
    (step_held held.resolved (hs step hm)).mono (fun _ => held.trans) fun _ hn => hn) (.refl hr)

/-- Clearing the outcome takes the game up again where it is. -/
theorem reset_of_resolved (hr : s.state = .resolved) :
    ∃ w, s.world = some w ∧ s.reset = (do
      Traced.log .outcomeCleared
      return { s with world := some { w with terminal := false, outcome := none } }) := by
  obtain ⟨w, hw, ht⟩ := state_eq_resolved_iff.1 hr
  exact ⟨w, hw, reset_of_terminal hw ht⟩

/-- From any moment of the run on, the session stays the same but for the player's name and portrait
and for lines that are read. Nothing is handed to the action handler, and once the outcome is
cleared the game goes on from where it stands. -/
theorem resolved_stays (hr : s.state = .resolved) (hs : ∀ step ∈ steps, step.stays = true) :
    (∀ before, before <+: steps → (s.run before).value.Held (s.run steps).value) ∧
      (s.run steps).actions = [] ∧
      ∃ w, (s.run steps).value.world = some w ∧
        (s.run steps).value.reset.value = { (s.run steps).value with
          world := some { w with terminal := false, outcome := none } } ∧
        (s.run steps).value.reset.value.state = .playing ∧
        (s.run steps).value.reset.value.outcome? = none ∧
        (s.run steps).value.reset.actions = [] := by
  have held := run_held hr hs
  refine ⟨?_, ?_, ?_⟩
  · rintro before ⟨after, rfl⟩
    have start := run_held hr fun step hm => hs step (List.mem_append_left _ hm)
    rw [run_append]
    exact (run_held start.value.resolved fun step hm => hs step (List.mem_append_right _ hm)).value
  · refine Traced.actions_eq_nil fun action hm => ?_
    cases held.notes _ hm
  · obtain ⟨w, hw, he⟩ := reset_of_resolved held.value.resolved
    rw [he]
    exact ⟨w, hw, rfl, rfl, rfl, rfl⟩

/-- A session whose player let the ferry go without a word. -/
def ashore : Session :=
  ((new {}).run [.bind Story.ferry, .start, .interact "rope", .choose 1]).value

/-- What a player may try who does not see that it is over. -/
def lingering : List SessionStep :=
  [.choose 0, .goTo "deck", .advance, .interact "rope", .setName "Bo", .advance]

theorem resolved_stays_ferry :
    ashore.state = .resolved ∧ ashore.cursor.position = 0 ∧
      (ashore.run lingering).value.cursor.position = 1 ∧
      ashore.Held (ashore.run lingering).value ∧
      (ashore.run lingering).actions = [] ∧
      (ashore.run lingering).value.reset.value.state = .playing ∧
      (ashore.run lingering).value.reset.value.hasItem "rope" = true := by
  have resolved : ashore.state = .resolved := by decide +kernel
  have stays : ∀ step ∈ lingering, step.stays = true := by decide
  obtain ⟨held, quiet, w, -, -, playing, -, -⟩ := resolved_stays resolved stays
  exact ⟨resolved, by decide +kernel, by decide +kernel, held [] lingering.nil_prefix, quiet,
    playing, by decide +kernel⟩

end Session

end VisualNovel
