import VisualNovel.Proofs.Identity
import VisualNovel.Proofs.Resolved

/-!
# A new game forgets the old one

A session holds two kinds of things. The story, the settings, the handler and the player outlast a
game (`Session.SameSetup`); the world and the cursor belong to one, and every scene, item, flag,
used up object, outcome and line read stands in one of these two. Starting a game puts new ones in
their place before the start scene is entered, so from there on there is nothing left by which two
sessions of the same setup could be told apart. Where no game can be started the answer is read off
the story alone.
-/

namespace VisualNovel

namespace Session

variable {s t : Session}

/-- Two sessions agree in everything that outlasts a game. -/
structure SameSetup (s t : Session) : Prop where
  story : t.story = s.story
  config : t.config = s.config
  handler : t.handler = s.handler
  profile : t.profile = s.profile

/-- What comes of some steps, one after the other: the session after each, its answer, and what it
left in the trace. -/
def history (s : Session) : List SessionStep → List (Traced (Session × SessionAnswer))
  | [] => []
  | step :: steps => s.step step :: (s.step step).value.1.history steps

theorem SameSetup.fresh_eq (same : s.SameSetup t) (story : Story) :
    t.fresh story = s.fresh story := by
  unfold fresh
  rw [same.story, same.config, same.handler, same.profile]

/-- Both start the same game, or neither starts one for the same reason. -/
theorem SameSetup.start (same : s.SameSetup t) :
    t.start.value.2 = s.start.value.2 ∧ t.start.notes = s.start.notes ∧
      (s.start.value.2 = .ok () → t.start = s.start) := by
  cases hs : s.story with
  | none =>
      rw [start_of_no_story hs, start_of_no_story (same.story.trans hs)]
      exact ⟨rfl, rfl, nofun⟩
  | some story =>
      have ht : t.story = some story := same.story.trans hs
      by_cases hm : Text.isBlank story.start = true ∨ story.scene? story.start = none
      · rw [start_of_missing hs hm, start_of_missing ht hm]
        exact ⟨rfl, rfl, nofun⟩
      · obtain ⟨hb, hn⟩ : Text.isBlank story.start = false ∧
            story.scene? story.start ≠ none := by simpa using hm
        obtain ⟨scene, hscene⟩ := Option.ne_none_iff_exists'.1 hn
        have alike : t.start = s.start := by
          rw [start_of_scene hs hb hscene, start_of_scene ht hb hscene, same.fresh_eq]
        rw [alike]
        exact ⟨rfl, rfl, fun _ => rfl⟩

theorem start_keeps (s : Session) :
    s.start.value.1.story = s.story ∧ s.start.value.1.profile = s.profile := by
  rcases s.start_cases with ⟨error, he⟩ | ⟨story, scene, -, -, he⟩
  · rw [he]
    exact ⟨rfl, rfl⟩
  · have entered := SamePlayer.enter (s.fresh story) false story.start
    rw [he]
    exact ⟨entered.story, entered.profile⟩

/-- Two sessions of the same setup answer alike when a game is to be started, whatever was played in
them before. If it is started then every step from there on has the same answer in both, the same
trace, and the same session after it. Starting a game changes neither the story nor the player. -/
theorem new_game_forgets (same : s.SameSetup t) :
    t.start.value.2 = s.start.value.2 ∧ t.start.notes = s.start.notes ∧
    (s.start.value.2 = .ok () →
      ∀ steps, t.history (.start :: steps) = s.history (.start :: steps)) ∧
    (s.start.value.1.story = s.story ∧ s.start.value.1.profile = s.profile) ∧
    t.start.value.1.story = t.story ∧ t.start.value.1.profile = t.profile := by
  obtain ⟨answer, trace, alike⟩ := same.start
  refine ⟨answer, trace, fun started steps => ?_, s.start_keeps, t.start_keeps⟩
  have first : t.step .start = s.step .start := by
    simp only [step, alike started]
  rw [history, history, first]

/-- A session that is about to take the ferry. -/
def boarding : Session := ((new {}).run [.bind Story.ferry]).value

theorem new_game_forgets_ferry :
    boarding.SameSetup ashore ∧
    (boarding.state = .idle ∧ ashore.state = .resolved ∧ ashore.hasItem "rope" = true) ∧
    ashore.history (.start :: lingering) = boarding.history (.start :: lingering) ∧
    ashore.start.value.1.hasItem "rope" = false := by
  have same : boarding.SameSetup ashore := ⟨rfl, rfl, rfl, rfl⟩
  have resolved : ashore.state = .resolved := by decide +kernel
  have roped : ashore.hasItem "rope" = true := by decide +kernel
  obtain ⟨-, -, forgets, -⟩ := new_game_forgets same
  exact ⟨same, ⟨rfl, resolved, roped⟩, forgets rfl lingering, by decide +kernel⟩

end Session

end VisualNovel
