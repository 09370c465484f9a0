import VisualNovel.Proofs.Journey
import VisualNovel.Session.Step

/-!
# What each step of a session can do

A step is taken apart once, here, and every invariant is read off the pieces. Some steps never move
the session in its story: they change who the player is or what the player holds, and leave nothing
about scenes or outcomes in the trace (`Unmoved`). The others come down, case by case, to the
transitions of `Journey`; their case lemmas name every condition that is checked on the way.

A run takes any number of steps one after the other. What every step keeps, a run keeps
(`Session.run_ensures`), and that is the only induction over steps there is.
-/

namespace VisualNovel

open Traced (Ensures)

/-- Whether the note names a link of the story: a scene that is entered, or a link that cannot be
followed. -/
def Note.isLink : Note → Bool
  | .logged (.sceneEntered ..) | .logged (.sceneNotFound ..) | .logged (.nextSceneNotFound _)
  | .logged (.outcomeNotFound _) | .logged (.choiceLeadsNowhere ..) => true
  | _ => false

theorem Note.isLink_of_isEffect {note : Note} (h : note.isEffect = true) :
    note.isLink = false := by
  match note, h with
  | .handled _, _ | .logged (.actionApplied _), _ | .logged (.actionIgnored _), _
  | .logged (.removedItemNotHeld _), _ => rfl

theorem Note.isLink_of_isRest {event : Event} (h : event.isRest = true) :
    (Note.logged event).isLink = false := by
  match event, h with
  | .everyChoiceHidden _, _ | .waitingForChoice _, _ | .hopLimitReached .., _
  | .endReached _, _ | .deadEndReached _, _ => rfl

/-- Where a game stands in its story. -/
structure Place where
  scene : String
  terminal : Bool
  outcome : Option String

/-- Where the game stands in its story. -/
def World.place (w : World) : Place := ⟨w.scene, w.terminal, w.outcome⟩

theorem World.place_eq_iff {w w' : World} : w'.place = w.place ↔
    w'.scene = w.scene ∧ w'.terminal = w.terminal ∧ w'.outcome = w.outcome := by
  simp [place]

theorem World.Keeps.place_eq {w w' : World} (h : w.Keeps w') : w'.place = w.place := by
  obtain ⟨items, flags, rfl⟩ := h
  rfl

theorem World.place_rename (w : World) (name : String) : (w.rename name).place = w.place := rfl

theorem World.place_setPortrait (w : World) (portrait : Option String) :
    (w.setPortrait portrait).place = w.place := rfl

/-! ## The cursor -/

namespace Cursor

variable {c : Cursor}

theorem advance_scene (c : Cursor) : c.advance.1.scene = c.scene := by
  unfold advance
  split <;> rfl

theorem advance_lines (c : Cursor) : c.advance.1.lines = c.lines := by
  unfold advance
  split <;> rfl

/-- Reading on never goes back. -/
theorem advance_eq (c : Cursor) :
    ∃ position, c.position ≤ position ∧ c.advance.1 = { c with position } := by
  unfold advance
  split
  · exact ⟨c.position, Nat.le_refl _, rfl⟩
  · exact ⟨c.position + 1, Nat.le_succ _, rfl⟩

theorem advance_position_le (h : c.position ≤ c.lines.length) :
    c.advance.1.position ≤ c.lines.length := by
  unfold advance
  split
  · exact h
  · next he =>
      simp only [isExhausted, decide_eq_true_eq] at he
      exact Nat.lt_of_not_le he

/-- Reading on tells of the end of the dialogue just once: when it gets there. -/
theorem advance_snd (c : Cursor) :
    c.advance.2 = (!c.isExhausted && c.advance.1.isExhausted) := by
  unfold advance
  split
  · next he => simp [he]
  · next he =>
      simp only [isExhausted, decide_eq_true_eq] at he ⊢
      rw [Bool.eq_iff_iff]
      simp
      omega

end Cursor

namespace Session

variable {s t : Session} {w : World}

/-! ## Steps that do not move the session -/

/-- Another session differs from `s` at most in who the player is, what they hold and which objects
are used up. -/
structure Unmoved (s t : Session) : Prop where
  story : t.story = s.story
  config : t.config = s.config
  cursor : t.cursor = s.cursor
  world : t.world.map World.place = s.world.map World.place

namespace Unmoved

theorem refl (s : Session) : s.Unmoved s := ⟨rfl, rfl, rfl, rfl⟩

theorem symm (h : s.Unmoved t) : t.Unmoved s :=
  ⟨h.story.symm, h.config.symm, h.cursor.symm, h.world.symm⟩

theorem of_world {w w' : World} (hw : s.world = some w) (hp : w'.place = w.place) :
    s.Unmoved { s with world := some w' } :=
  ⟨rfl, rfl, rfl, by rw [hw, Option.map_some, Option.map_some, hp]⟩

theorem map_world (s : Session) (profile : Profile) {f : World → World}
    (hf : ∀ w, (f w).place = w.place) :
    s.Unmoved { s with profile, world := s.world.map f } := by
  refine ⟨rfl, rfl, rfl, ?_⟩
  rw [Option.map_map]
  exact congrArg (s.world.map ·) (funext hf)

theorem world_some {w' : World} (h : s.Unmoved t) (hw : t.world = some w') :
    ∃ w, s.world = some w ∧ w'.place = w.place := by
  have hm := h.world
  rw [hw, Option.map_some] at hm
  obtain ⟨w, hs, hp⟩ := Option.map_eq_some_iff.1 hm.symm
  exact ⟨w, hs, hp.symm⟩

end Unmoved

theorem applyAction?_unmoved (s : Session) (action : Option Action) :
    (s.applyAction? action).Ensures s.Unmoved (·.isLink = false) := by
  cases hw : s.world with
  | some w =>
      refine (applyAction?_ensures hw action).mono ?_ fun _ => Note.isLink_of_isEffect
      rintro t ⟨w', hk, rfl⟩
      exact .of_world hw hk.place_eq
  | none =>
      cases action with
      | none => exact .pure (.refl s)
      | some action =>
          simp only [applyAction?, applyAction, hw]
          exact .pure (.refl s)

theorem setName_unmoved (s : Session) (name : String) :
    (s.setName name).Ensures (fun r => s.Unmoved r.1) (·.isLink = false) := by
  unfold setName
  dsimp only
  split
  · exact .log rfl (.pure (.refl s))
  · split
    · exact .log rfl (.pure (.refl s))
    · exact .pure (Unmoved.map_world s _ fun w => w.place_rename _)

theorem setPortrait_unmoved (s : Session) (portrait : String) :
    s.Unmoved (s.setPortrait portrait) := by
  unfold setPortrait
  exact Unmoved.map_world s _ fun w => w.place_setPortrait _

theorem useObject_unmoved (hw : s.world = some w) (scene : Scene) (object : SceneObject) :
    (s.useObject scene object w).Ensures (fun r => s.Unmoved r.1) (·.isLink = false) := by
  unfold useObject
  cases object.action with
  | none =>
      refine .bind (P := fun w' => w'.place = w.place) (.pure rfl) fun w' hp => ?_
      cases object.yields <;> cases object.consumed <;>
        exact .log rfl (.pure (Unmoved.of_world hw hp))
  | some action =>
      refine .bind ((s.handler.apply_ensures action w).mono (fun _ => World.Keeps.place_eq)
        fun _ => Note.isLink_of_isEffect) fun w' hp => ?_
      cases object.yields <;> cases object.consumed <;>
        exact .log rfl (.pure (Unmoved.of_world hw hp))

theorem interact_unmoved (s : Session) (id : String) :
    (s.interact id).Ensures (fun r => s.Unmoved r.1) (·.isLink = false) := by
  unfold interact
  split
  · next w scene hw _ =>
      split
      · exact .pure (.refl s)
      · split
        · exact .log rfl (.pure (.refl s))
        · split
          · exact .pure (.refl s)
          · split
            · exact .log rfl (.pure (.refl s))
            · exact useObject_unmoved hw scene _
  · exact .pure (.refl s)

/-! ## Steps that may move the session -/

/-- Binding a story ends the game, and the player is nowhere in the new story. -/
theorem bind_ensures (s : Session) (story : Story) :
    (s.bind story).Ensures
      (fun t => t.story = some story ∧ t.world = none ∧ t.config = s.config)
      (·.isLink = false) := by
  refine .log rfl ?_
  dsimp only
  split
  · exact .log rfl (.pure ⟨rfl, rfl, rfl⟩)
  · exact .pure ⟨rfl, rfl, rfl⟩

theorem bind_cursor (s : Session) (story : Story) : (s.bind story).value.cursor = {} := by
  unfold bind
  dsimp only [Traced.value_bind]
  split <;> rfl

theorem load_value (s : Session) (loaded : Loaded) :
    (s.load loaded).value.1 = s ∨
    ∃ story, loaded.result = .ok story ∧ (s.load loaded).value.1 = (s.bind story).value := by
  unfold load
  cases hr : loaded.result with
  | error e => exact .inl rfl
  | ok story => exact .inr ⟨story, rfl, rfl⟩

/-- The session at the beginning of a new game, before its start scene is entered. -/
def fresh (s : Session) (story : Story) : Session :=
  { s with world := some (.begin story.start s.profile), cursor := {} }

theorem start_of_no_story (hs : s.story = none) :
    s.start = return (s, .error .noStory) := by
  simp [start, hs]

theorem start_of_missing {story : Story} (hs : s.story = some story)
    (hm : Text.isBlank story.start = true ∨ story.scene? story.start = none) :
    s.start = return (s, .error (.missingStartScene story.start)) := by
  rcases hm with hm | hm <;> simp [start, hs, hm]

theorem start_of_scene {story : Story} {scene : Scene} (hs : s.story = some story)
    (hb : Text.isBlank story.start = false) (hscene : story.scene? story.start = some scene) :
    s.start = (do
      Traced.log (.gameStarted story.title story.start)
      return (← (s.fresh story).enter false story.start, .ok ())) := by
  simp [start, hs, hb, hscene, fresh]

/-- A game is started exactly if there is a story whose start scene is there. -/
theorem start_cases (s : Session) :
    (∃ error, s.start = return (s, .error error)) ∨
    ∃ story scene, s.story = some story ∧ story.scene? story.start = some scene ∧
      s.start = (do
        Traced.log (.gameStarted story.title story.start)
        return (← (s.fresh story).enter false story.start, .ok ())) := by
  cases hs : s.story with
  | none => exact .inl ⟨_, start_of_no_story hs⟩
  | some story =>
      cases hb : Text.isBlank story.start with
      | true => exact .inl ⟨_, start_of_missing hs (.inl hb)⟩
      | false =>
          cases hscene : story.scene? story.start with
          | none => exact .inl ⟨_, start_of_missing hs (.inr hscene)⟩
          | some scene => exact .inr ⟨story, scene, rfl, hscene, start_of_scene hs hb hscene⟩

theorem advance_of_no_world (hw : s.world = none) :
    s.advance = (do Traced.log .noGame; return s) := by
  simp [advance, hw]

/-- Mostly reading on moves the cursor and does nothing else. -/
theorem advance_of_quiet (hw : s.world = some w)
    (hc : s.cursor.advance.2 = false ∨ s.isTerminal = true ∨
      s.storyScene? s.cursor.scene = none) :
    s.advance = (return { s with cursor := s.cursor.advance.1 }) := by
  have hn : s.world.isNone = false := by rw [hw]; rfl
  rw [← s.cursor.advance_scene] at hc
  rcases hc with hc | hc | hc
  · simp [advance, hn, hc]
  · simp [advance, hn, hc]
  · simp [advance, hn, hc]

theorem advance_of_exhausted {scene : Scene} (hp : s.state = .playing)
    (he : s.cursor.advance.2 = true) (hs : s.storyScene? s.cursor.scene = some scene) :
    s.advance = follow s.config.maxAutoHops scene { s with cursor := s.cursor.advance.1 } := by
  obtain ⟨w, hw, -⟩ := state_eq_playing_iff.1 hp
  rw [← s.cursor.advance_scene] at hs
  simp [advance, hw, he, hs, isTerminal_eq_false hp]

/-- The cursor moves if a game is running. What follows the dialogue comes only with its last line
and only while no outcome has been reached. -/
theorem advance_cases (s : Session) :
    s.world = none ∧ s.advance = (do Traced.log .noGame; return s) ∨
    (∃ w, s.world = some w) ∧
      (s.cursor.advance.2 = false ∨ s.isTerminal = true ∨
        s.storyScene? s.cursor.scene = none) ∧
      s.advance = (return { s with cursor := s.cursor.advance.1 }) ∨
    ∃ scene, s.state = .playing ∧ s.cursor.advance.2 = true ∧
      s.storyScene? s.cursor.scene = some scene ∧
      s.advance = follow s.config.maxAutoHops scene { s with cursor := s.cursor.advance.1 } := by
  rcases Option.eq_none_or_eq_some s.world with hw | ⟨w, hw⟩
  · exact .inl ⟨hw, advance_of_no_world hw⟩
  · refine .inr ?_
    by_cases hc : s.cursor.advance.2 = false ∨ s.isTerminal = true ∨
        s.storyScene? s.cursor.scene = none
    · exact .inl ⟨⟨w, hw⟩, hc, advance_of_quiet hw hc⟩
    · obtain ⟨he, ht, hs⟩ : s.cursor.advance.2 = true ∧ s.isTerminal = false ∧
          s.storyScene? s.cursor.scene ≠ none := by simpa using hc
      obtain ⟨scene, hs⟩ := Option.ne_none_iff_exists'.1 hs
      have hp := state_eq_playing hw ht
      exact .inr ⟨scene, hp, he, hs, advance_of_exhausted hp he hs⟩

theorem makeChoice_of_not_playing {choice : Choice} (hp : s.state ≠ .playing) :
    s.makeChoice choice = (do Traced.log (.choiceIgnored choice.text); return s) := by
  simp [makeChoice, hp]

theorem makeChoice_of_playing {choice : Choice} (hp : s.state = .playing) :
    s.makeChoice choice = (do
      Traced.log (.choiceMade choice.text)
      let t ← s.applyAction? choice.action
      match choice.outcome, choice.next with
      | some outcome, _ => t.resolve outcome
      | none, some next => t.goTo next
      | none, none =>
        Traced.log (.choiceLeadsNowhere choice.text t.sceneId?)
        return t) := by
  unfold makeChoice
  exact if_neg (by simp [hp])

theorem mem_visibleChoices {choice : Choice} (h : choice ∈ s.visibleChoices) :
    ∃ w scene, s.world = some w ∧ s.scene? = some scene ∧ choice ∈ scene.choices := by
  unfold visibleChoices at h
  split at h
  · next w scene hw hs => exact ⟨w, scene, hw, hs, (List.mem_filter.1 h).1⟩
  · cases h

theorem outcome?_eq_some {outcome : Outcome} (h : s.outcome? = some outcome) :
    ∃ w id, s.world = some w ∧ w.outcome = some id ∧
      s.story.bind (·.outcome? id) = some outcome := by
  unfold outcome? at h
  obtain ⟨w, hw, h⟩ := Option.bind_eq_some_iff.1 h
  obtain ⟨id, hid, h⟩ := Option.bind_eq_some_iff.1 h
  exact ⟨w, id, hw, hid, h⟩

theorem choose_cases (s : Session) (index : Nat) :
    s.choose index = (do Traced.log (.noVisibleChoice index); return (s, false)) ∨
    ∃ choice ∈ s.visibleChoices,
      s.choose index = (do return (← s.makeChoice choice, true)) := by
  unfold choose
  cases hc : s.visibleChoices[index]? with
  | none => exact .inl rfl
  | some choice => exact .inr ⟨choice, List.mem_of_getElem? hc, rfl⟩

theorem reset_of_not_resolved (hr : s.state ≠ .resolved) :
    s.reset = (do Traced.log .nothingToClear; return s) := by
  unfold reset
  cases hw : s.world with
  | none => rfl
  | some w =>
      have ht : ¬ w.terminal = true := fun ht => hr (state_eq_resolved_iff.2 ⟨w, hw, ht⟩)
      exact if_neg ht

theorem reset_of_terminal (hw : s.world = some w) (ht : w.terminal = true) :
    s.reset = (do
      Traced.log .outcomeCleared
      return { s with world := some w.leaveOutcome }) := by
  simp [reset, hw, ht]

theorem reset_cases (s : Session) :
    s.state ≠ .resolved ∧ s.reset = (do Traced.log .nothingToClear; return s) ∨
    ∃ w, s.world = some w ∧ w.terminal = true ∧ s.reset = (do
      Traced.log .outcomeCleared
      return { s with world := some w.leaveOutcome }) := by
  by_cases hr : s.state = .resolved
  · obtain ⟨w, hw, ht⟩ := state_eq_resolved_iff.1 hr
    exact .inr ⟨w, hw, ht, reset_of_terminal hw ht⟩
  · exact .inl ⟨hr, reset_of_not_resolved hr⟩

theorem continueOn_of_no_next (hn : s.outcome?.bind (·.next) = none) :
    s.continueOn = (return (s, false)) := by
  simp [continueOn, hn]

theorem continueOn_of_unknown {next : String} (hn : s.outcome?.bind (·.next) = some next)
    (hs : s.storyScene? next = none) :
    s.continueOn = (do Traced.log (.nextSceneNotFound next); return (s, false)) := by
  simp [continueOn, hn, hs]

theorem continueOn_of_scene {next : String} {scene : Scene}
    (hn : s.outcome?.bind (·.next) = some next) (hs : s.storyScene? next = some scene) :
    s.continueOn = (do
      let t ← (← s.reset).goTo next
      return (t, t.sceneId? == some next)) := by
  simp [continueOn, hn, hs]

/-- Going on needs an outcome that has been reached, and a scene behind it. -/
theorem continueOn_cases (s : Session) :
    s.continueOn = (return (s, false)) ∨
    ∃ outcome next, s.outcome? = some outcome ∧ outcome.next = some next ∧
      (s.storyScene? next = none ∧
        s.continueOn = (do Traced.log (.nextSceneNotFound next); return (s, false)) ∨
      ∃ scene, s.storyScene? next = some scene ∧ s.continueOn = (do
        let t ← (← s.reset).goTo next
        return (t, t.sceneId? == some next))) := by
  cases hn : s.outcome?.bind (·.next) with
  | none => exact .inl (continueOn_of_no_next hn)
  | some next =>
      obtain ⟨outcome, ho, hnext⟩ := Option.bind_eq_some_iff.1 hn
      refine .inr ⟨outcome, next, ho, hnext, ?_⟩
      cases hs : s.storyScene? next with
      | none => exact .inl ⟨rfl, continueOn_of_unknown hn hs⟩
      | some scene => exact .inr ⟨scene, rfl, continueOn_of_scene hn hs⟩

end Session

/-! ## Runs -/

namespace SessionStep

/-- Whether the step binds a story. -/
def rebinds : SessionStep → Bool
  | .load _ | .bind _ => true
  | _ => false

/-- Whether the step is one of a player who has nothing but the story that is bound. -/
def isPlay : SessionStep → Bool
  | .start | .setName _ | .setPortrait _ | .advance | .choose _ | .reset | .continueOn
  | .interact _ => true
  | .load _ | .bind _ | .goTo _ | .makeChoice _ => false

end SessionStep

namespace Session

/-- Takes some steps one after the other. -/
def run (s : Session) : List SessionStep → Traced Session
  | [] => return s
  | step :: steps => do
    let (s, _) ← s.step step
    s.run steps

theorem run_append (before after : List SessionStep) :
    ∀ s : Session, (s.run (before ++ after)).value = ((s.run before).value.run after).value := by
  induction before with
  | nil => exact fun _ => rfl
  | cons step before ih => exact fun s => ih (s.step step).value.1

/-- Binds a story and takes some steps in it. -/
def play (s : Session) (story : Story) (steps : List SessionStep) : Traced Session := do
  let s ← s.bind story
  s.run steps

/-- What every step of a run keeps holds at its end, and what every step may leave in the trace is
all that is left there. -/
theorem run_ensures {I : Session → Prop} {N : Note → Prop} {steps : List SessionStep}
    (hstep : ∀ step ∈ steps, ∀ s, I s → (s.step step).Ensures (fun r => I r.1) N) :
    ∀ {s : Session}, I s → (s.run steps).Ensures I N := by
  induction steps with
  | nil => exact fun h => .pure h
  | cons step steps ih =>
      intro s h
      rw [run]
      exact .bind (hstep step List.mem_cons_self s h) fun r hr =>
        ih (fun step hs => hstep step (List.mem_cons_of_mem _ hs)) hr

/-- The sessions that there can be: new ones, and what steps make of them. -/
inductive Reached : Session → Prop
  | new (config : Config) (handler : Handler) : Reached (.new config handler)
  | step {s : Session} (h : Reached s) (step : SessionStep) : Reached (s.step step).value.1

theorem Reached.run {s : Session} (h : Reached s) (steps : List SessionStep) :
    Reached (s.run steps).value :=
  (run_ensures (N := fun _ => True) (fun step _ _ ht => ⟨ht.step step, fun _ _ => trivial⟩) h).value

end Session

end VisualNovel
