import VisualNovel.Proofs.Region

/-!
# The parts of a session always agree

The bound story, the world and the cursor are stored apart from each other and changed by a dozen
steps, some of which break off half-way. Whatever the steps are, the player is in a scene of the
bound story, the cursor is in that scene's dialogue, and an outcome has been reached exactly if the
world names one, which is then defined. All that is asked of the stories is that their scenes are
filed by id, which loading sees to.
-/

namespace VisualNovel

/-- A step that binds a story binds one whose scenes are filed by id. -/
def SessionStep.Filed : SessionStep → Prop
  | .load loaded => ∀ story, loaded.result = .ok story → story.Filed
  | .bind story => story.Filed
  | _ => True

namespace Region

/-- The region that leaves nothing out. -/
def everything : Region where
  scene _ := True
  outcome _ := True
  aimless := True

theorem everything_choice (c : Choice) : everything.choice c := by
  unfold choice
  split
  · trivial
  · trivial
  · trivial

theorem everything_closed (story : Story) : everything.Closed story where
  start _ := trivial
  transition _ _ _ := trivial
  outcome _ _ _ := trivial
  choice _ _ _ := everything_choice _
  next _ _ _ := trivial

theorem everything_admits {step : SessionStep} (h : step.rebinds = false) :
    everything.Admits step := by
  cases step with
  | load | bind => cases h
  | makeChoice c => exact everything_choice c
  | start | setName | setPortrait | advance | goTo | choose | reset | continueOn | interact =>
      trivial

end Region

namespace Session

variable {s : Session}

/-- The invariant of all runs: the parts agree, and the bound story is filed by id. -/
structure Sound (s : Session) : Prop where
  coherent : s.Coherent
  filed : ∀ {story}, s.story = some story → story.Filed

theorem sound_new (config : Config) (handler : Handler) : (new config handler).Sound where
  coherent := by
    intro w hw
    cases hw
  filed := by
    intro story hs
    cases hs

theorem sound_bind (s : Session) {story : Story} (h : story.Filed) :
    (s.bind story).value.Sound := by
  obtain ⟨hs, hw, -⟩ := (s.bind_ensures story).value
  refine ⟨fun w hw' => ?_, fun hs' => ?_⟩
  · rw [hw] at hw'
    cases hw'
  · rw [hs] at hs'
    cases hs'
    exact h

/-- A coherent session is confined to everything in its story. One without a story plays any story
there is, for it has no world. -/
theorem Sound.confines (h : s.Sound) :
    ∃ story : Story, story.Filed ∧ Region.everything.Confines story s := by
  cases hs : s.story with
  | some story =>
      refine ⟨story, h.filed hs, .inl hs, fun hw => ?_, fun _ => trivial, fun _ _ => trivial⟩
      obtain ⟨story', hs', hin⟩ := h.coherent _ hw
      rw [hs] at hs'
      cases hs'
      exact hin
  | none =>
      have hw : s.world = none := by
        cases hw : s.world with
        | none => rfl
        | some w =>
            obtain ⟨story, hs', -⟩ := h.coherent w hw
            rw [hs] at hs'
            cases hs'
      exact ⟨Story.blank "" "", Story.filed_blank _ _ _, .of_no_world (.inr hs) hw⟩

theorem sound_of_confines {r : Region} {story : Story} (h : r.Confines story s)
    (filed : story.Filed) : s.Sound where
  coherent := h.coherent
  filed := by
    intro story' hs
    rw [h.story_unique hs]
    exact filed

theorem Sound.step (h : s.Sound) {step : SessionStep} (hf : step.Filed) :
    (s.step step).value.1.Sound := by
  cases hr : step.rebinds with
  | true =>
      cases step with
      | load loaded =>
          rcases s.load_value loaded with hv | ⟨story, hl, hv⟩
          · show (s.load loaded).value.1.Sound
            rw [hv]
            exact h
          · show (s.load loaded).value.1.Sound
            rw [hv]
            exact s.sound_bind (hf story hl)
      | bind story => exact s.sound_bind hf
      | start | setName | setPortrait | advance | goTo | makeChoice | choose | reset
      | continueOn | interact => cases hr
  | false =>
      obtain ⟨story, filed, hc⟩ := h.confines
      exact sound_of_confines (Region.step_ensures (Region.everything_closed story) filed hc
        (Region.everything_admits hr)).value filed

theorem Sound.run {steps : List SessionStep} (h : s.Sound)
    (hf : ∀ step ∈ steps, step.Filed) : (s.run steps).value.Sound :=
  (run_ensures (N := fun _ => True)
    (fun step hm _ ht => ⟨ht.step (hf step hm), fun _ _ => trivial⟩) h).value

/-- An outcome can be shown exactly if the session is resolved. -/
theorem Coherent.resolved_iff (h : s.Coherent) :
    s.state = .resolved ↔ s.outcome?.isSome = true := by
  rw [state_eq_resolved_iff]
  constructor
  · rintro ⟨w, hw, ht⟩
    obtain ⟨story, hs, hin⟩ := h w hw
    obtain ⟨id, ho⟩ := Option.isSome_iff_exists.1 (hin.terminal.1 ht)
    have hc := hin.outcome id ho
    rw [Catalog.contains_eq_isSome] at hc
    simpa [outcome?, Story.outcome?, hw, ho, hs] using hc
  · intro ho
    obtain ⟨outcome, ho⟩ := Option.isSome_iff_exists.1 ho
    obtain ⟨w, id, hw, hid, -⟩ := outcome?_eq_some ho
    obtain ⟨story, -, hin⟩ := h w hw
    exact ⟨w, hw, hin.terminal.2 (by rw [hid]; rfl)⟩

/-- In every session that is ever reached the bound story, the world and the cursor agree, and it is
resolved exactly if there is an outcome to show. -/
theorem run_coherent (config : Config) (handler : Handler) (steps : List SessionStep)
    (filed : ∀ step ∈ steps, step.Filed) :
    ((new config handler).run steps).value.Coherent ∧
      (((new config handler).run steps).value.state = .resolved ↔
        ((new config handler).run steps).value.outcome?.isSome = true) := by
  have sound := (sound_new config handler).run filed
  exact ⟨sound.coherent, sound.coherent.resolved_iff⟩

/-- A crossing that is started, finished and gone back on; then the player is sent to a scene that
is not there, strands, and is back on the quay in the end. -/
def wandering : List SessionStep :=
  [.bind Story.ferry, .start, .advance, .choose 0, .advance, .reset, .goTo "pier",
    .makeChoice { outcome := some "stranded" }, .continueOn, .interact "rope"]

theorem run_coherent_ferry :
    (∀ step ∈ wandering, step.Filed) ∧
      ((new {} .recording).run wandering).value.sceneId? = some "quay" ∧
      ((new {} .recording).run wandering).value.Coherent ∧
      (((new {} .recording).run wandering).value.state = .resolved ↔
        ((new {} .recording).run wandering).value.outcome?.isSome = true) := by
  have filed : ∀ step ∈ wandering, step.Filed := by
    simp [wandering, SessionStep.Filed, Story.ferry_filed]
  exact ⟨filed, by decide +kernel, run_coherent {} .recording _ filed⟩

end Session

end VisualNovel
