import VisualNovel.Proofs.Filing
import VisualNovel.Proofs.Steps

/-!
# A game takes the same course whatever the player holds

Where a session goes depends on the story, on where it is and on what it is told. The player's items
and flags, the objects that are used up, who the player is and who carries out the actions have no
say in it, although every transition carries them along and hands them to the handler on the way.
So two sessions that stand at the same place (`Session.Abreast`) and are told the same come to the
same place, and they answer the same. Two things are up to what the player holds: which choice comes
to stand at which index, and what an object answers.

That is a statement about two runs. Each transition is taken by both sessions at once; the induction
is on the automatic transitions that are left, of which both have as many.
-/

namespace VisualNovel

open Traced (Ensures)

namespace Session

/-- Two sessions stand at the same place of the same story. -/
structure Abreast (s t : Session) : Prop where
  story : t.story = s.story
  hops : t.config.maxAutoHops = s.config.maxAutoHops
  cursor : t.cursor = s.cursor
  world : t.world.map World.place = s.world.map World.place

variable {s t u : Session} {w : World} {scene : Scene} {id : String} {eager : Bool} {hops : Nat}

theorem resolve_value (s : Session) (id : String) :
    (s.resolve id).value =
      if s.story.any (fun story => story.outcomes.contains id) then
        { s with world := s.world.map (·.reach id) }
      else s := by
  unfold resolve
  cases hk : s.story.any (fun story => story.outcomes.contains id) with
  | false => rfl
  | true =>
      cases hw : s.world with
      | none => exact congrArg (fun world => { s with world }) hw
      | some w => rfl

namespace Abreast

theorem symm (h : s.Abreast t) : t.Abreast s :=
  ⟨h.story.symm, h.hops.symm, h.cursor.symm, h.world.symm⟩

theorem trans (h : s.Abreast t) (h' : t.Abreast u) : s.Abreast u :=
  ⟨h'.story.trans h.story, h'.hops.trans h.hops, h'.cursor.trans h.cursor,
    h'.world.trans h.world⟩

end Abreast

theorem Unmoved.abreast (h : s.Unmoved t) : s.Abreast t :=
  ⟨h.story, congrArg Config.maxAutoHops h.config, h.cursor, h.world⟩

/-! ## What can be seen from a place -/

namespace Abreast

variable (h : s.Abreast t)

include h

/-- Steps that do not move the sessions leave them abreast. -/
theorem unmoved {s' t' : Session} (hs : s.Unmoved s') (ht : t.Unmoved t') : s'.Abreast t' :=
  hs.abreast.symm.trans (h.trans ht.abreast)

theorem world_some (hw : s.world = some w) : ∃ w', t.world = some w' ∧ w'.place = w.place := by
  have hm := h.world
  rw [hw, Option.map_some] at hm
  exact Option.map_eq_some_iff.1 hm

theorem world_none (hw : s.world = none) : t.world = none := by
  have hm := h.world
  rw [hw, Option.map_none] at hm
  exact Option.map_eq_none_iff.1 hm

theorem state_eq : t.state = s.state := by
  cases hw : s.world with
  | none => rw [state, state, hw, h.world_none hw]
  | some w =>
      obtain ⟨w', hw', hp⟩ := h.world_some hw
      rw [state, state, hw, hw']
      dsimp only
      rw [(World.place_eq_iff.1 hp).2.1]

theorem isTerminal_eq : t.isTerminal = s.isTerminal := by
  rw [isTerminal, isTerminal, h.state_eq]

theorem sceneId?_eq : t.sceneId? = s.sceneId? := by
  have hm := congrArg (Option.map Place.scene) h.world
  rwa [Option.map_map, Option.map_map] at hm

theorem storyScene?_eq : t.storyScene? = s.storyScene? := by
  funext id
  rw [storyScene?, storyScene?, h.story]

theorem scene?_eq : t.scene? = s.scene? := by
  rw [scene?, scene?, h.sceneId?_eq, h.storyScene?_eq]

theorem placeholder_eq : t.placeholder = s.placeholder := by
  rw [placeholder, placeholder, h.story]

theorem outcome?_eq : t.outcome? = s.outcome? := by
  cases hw : s.world with
  | none =>
      simp only [outcome?, hw, h.world_none hw]
      rfl
  | some w =>
      obtain ⟨w', hw', hp⟩ := h.world_some hw
      have ho := (World.place_eq_iff.1 hp).2.2
      simp only [outcome?, hw, hw', h.story, Option.bind_eq_bind, Option.bind_some, ho]

end Abreast

/-! ## Transitions taken side by side -/

namespace Abreast

theorem resolve (h : s.Abreast t) (id : String) :
    (s.resolve id).value.Abreast (t.resolve id).value := by
  have hk : t.story.any (fun story => story.outcomes.contains id) =
      s.story.any (fun story => story.outcomes.contains id) := by rw [h.story]
  rw [resolve_value, resolve_value, hk]
  split
  · refine ⟨h.story, h.hops, h.cursor, ?_⟩
    cases hw : s.world with
    | none => simp only [h.world_none hw, Option.map_none]
    | some w =>
        obtain ⟨w', hw', hp⟩ := h.world_some hw
        have hscene := (World.place_eq_iff.1 hp).1
        simp only [hw', Option.map_some, World.reach, World.place, hscene]
  · exact h

theorem arrive (h : s.Abreast t) (hw : s.world = some w) (scene : Scene) :
    (s.arrive scene).value.Abreast (t.arrive scene).value := by
  obtain ⟨v, hv, hp⟩ := h.world_some hw
  obtain ⟨w', hk, hs⟩ := (arrive_ensures hw scene).value
  obtain ⟨v', hk', ht⟩ := (arrive_ensures hv scene).value
  rw [hs, ht]
  refine ⟨h.story, h.hops, rfl, ?_⟩
  obtain ⟨-, hterminal, houtcome⟩ := World.place_eq_iff.1 hp
  show some v'.place = some w'.place
  rw [hk.place_eq, hk'.place_eq]
  simp only [World.moveTo, World.place, hterminal, houtcome]

theorem enterWith (h : s.Abreast t) {go go' : Scene → Session → Traced Session}
    (hgo : ∀ {scene s t}, s.Abreast t → s.state = .playing →
      (go scene s).value.Abreast (go' scene t).value) :
    (enterWith go eager id s).value.Abreast (enterWith go' eager id t).value := by
  by_cases hp : s.state = .playing
  · have hp' : t.state = .playing := h.state_eq.trans hp
    cases hs : s.storyScene? id with
    | none =>
        have hs' : t.storyScene? id = none := by rw [h.storyScene?_eq, hs]
        rw [(enterWith_of_unknown hp hs).value, (enterWith_of_unknown hp' hs').value]
        exact h
    | some scene =>
        have hs' : t.storyScene? id = some scene := by rw [h.storyScene?_eq, hs]
        obtain ⟨w, hw, -⟩ := state_eq_playing_iff.1 hp
        have arrived := h.arrive hw scene
        have playing := arrive_state hp scene
        rw [enterWith_of_scene hp hs, enterWith_of_scene hp' hs', Traced.value_bind,
          Traced.value_bind]
        split
        · exact arrived.resolve _
        · split
          · exact hgo arrived playing
          · exact arrived
  · have hp' : t.state ≠ .playing := fun hn => hp (h.state_eq.symm.trans hn)
    rw [enterWith_of_not_playing hp, enterWith_of_not_playing hp']
    exact h

/-- A continuation that leads into no further scene. -/
theorem rest (h : s.Abreast t) (hp : s.state = .playing)
    (hn : ∀ next, scene.continuation = .autoTransition next → hops = 0) :
    (Session.follow hops scene s).value.Abreast (Session.follow hops scene t).value := by
  have hp' : t.state = .playing := h.state_eq.trans hp
  by_cases ho : ∃ id, scene.continuation = .outcome id
  · obtain ⟨id, hc⟩ := ho
    rw [follow_of_outcome hp hc, follow_of_outcome hp' hc]
    exact h.resolve id
  · have ho' : ∀ id, scene.continuation ≠ .outcome id := fun id hc => ho ⟨id, hc⟩
    obtain ⟨event, -, hf⟩ := follow_of_rest hp hn ho'
    obtain ⟨event', -, hf'⟩ := follow_of_rest hp' hn ho'
    rw [hf, hf']
    exact h

theorem follow (hops : Nat) : ∀ {scene s t}, s.Abreast t → s.state = .playing →
    (Session.follow hops scene s).value.Abreast (Session.follow hops scene t).value := by
  induction hops with
  | zero => exact fun h hp => h.rest hp fun _ _ => rfl
  | succ hops ih =>
      intro scene s t h hp
      by_cases hn : ∃ next, scene.continuation = .autoTransition next
      · obtain ⟨next, hc⟩ := hn
        rw [follow_of_autoTransition hp hc, follow_of_autoTransition (h.state_eq.trans hp) hc]
        exact h.enterWith ih
      · exact h.rest hp fun next hc => absurd ⟨next, hc⟩ hn

theorem enter (h : s.Abreast t) (eager : Bool) (id : String) :
    (s.enter eager id).value.Abreast (t.enter eager id).value := by
  rw [Session.enter, Session.enter, h.hops]
  exact h.enterWith (follow _)

/-! ## Steps taken side by side -/

theorem start (h : s.Abreast t) :
    s.start.value.1.Abreast t.start.value.1 ∧ t.start.value.2 = s.start.value.2 := by
  cases hs : s.story with
  | none =>
      rw [start_of_no_story hs, start_of_no_story (h.story.trans hs)]
      exact ⟨h, rfl⟩
  | some story =>
      have hs' : t.story = some story := h.story.trans hs
      by_cases hm : Text.isBlank story.start = true ∨ story.scene? story.start = none
      · rw [start_of_missing hs hm, start_of_missing hs' hm]
        exact ⟨h, rfl⟩
      · obtain ⟨hb, hscene⟩ : Text.isBlank story.start = false ∧
            story.scene? story.start ≠ none := by simpa using hm
        obtain ⟨scene, hscene⟩ := Option.ne_none_iff_exists'.1 hscene
        have hf : (s.fresh story).Abreast (t.fresh story) := ⟨h.story, h.hops, rfl, rfl⟩
        rw [start_of_scene hs hb hscene, start_of_scene hs' hb hscene]
        exact ⟨hf.enter false story.start, rfl⟩

theorem bind (h : s.Abreast t) (story : Story) :
    (s.bind story).value.Abreast (t.bind story).value := by
  obtain ⟨hs, hw, hc⟩ := (s.bind_ensures story).value
  obtain ⟨hs', hw', hc'⟩ := (t.bind_ensures story).value
  refine ⟨hs'.trans hs.symm, ?_, ?_, ?_⟩
  · rw [hc, hc', h.hops]
  · rw [s.bind_cursor, t.bind_cursor]
  · rw [hw, hw']

theorem load (h : s.Abreast t) (loaded : Loaded) :
    (s.load loaded).value.1.Abreast (t.load loaded).value.1 ∧
      (t.load loaded).value.2 = (s.load loaded).value.2 := by
  unfold Session.load
  cases loaded.result with
  | error e => exact ⟨h, rfl⟩
  | ok story => exact ⟨h.bind story, rfl⟩

theorem advance (h : s.Abreast t) : s.advance.value.Abreast t.advance.value := by
  have moved : Abreast { s with cursor := s.cursor.advance.1 }
      { t with cursor := t.cursor.advance.1 } :=
    ⟨h.story, h.hops, congrArg (·.advance.1) h.cursor, h.world⟩
  rcases s.advance_cases with ⟨hw, he⟩ | ⟨⟨w, hw⟩, hc, he⟩ | ⟨scene, hp, hc, hs, he⟩
  · rw [he, advance_of_no_world (h.world_none hw)]
    exact h
  · obtain ⟨w', hw', -⟩ := h.world_some hw
    rw [← h.cursor, ← h.isTerminal_eq, ← h.storyScene?_eq] at hc
    rw [he, advance_of_quiet hw' hc]
    exact moved
  · have hp' : t.state = .playing := h.state_eq.trans hp
    rw [← h.cursor] at hc
    rw [← h.cursor, ← h.storyScene?_eq] at hs
    rw [he, advance_of_exhausted hp' hc hs, h.hops]
    exact moved.follow _ hp

theorem makeChoice (h : s.Abreast t) (choice : Choice) :
    (s.makeChoice choice).value.Abreast (t.makeChoice choice).value := by
  by_cases hp : s.state = .playing
  · rw [makeChoice_of_playing hp, makeChoice_of_playing (h.state_eq.trans hp)]
    -- The handlers may do different things with the action, but neither moves its session.
    have applied := h.unmoved (s.applyAction?_unmoved choice.action).value
      (t.applyAction?_unmoved choice.action).value
    simp only [Traced.value_bind]
    split
    · exact applied.resolve _
    · exact applied.enter true _
    · exact applied
  · rw [makeChoice_of_not_playing hp,
      makeChoice_of_not_playing fun hn => hp (h.state_eq.symm.trans hn)]
    exact h

theorem reset (h : s.Abreast t) : s.reset.value.Abreast t.reset.value := by
  rcases s.reset_cases with ⟨hr, he⟩ | ⟨w, hw, ht, he⟩
  · rw [he, reset_of_not_resolved fun hn => hr (h.state_eq.symm.trans hn)]
    exact h
  · obtain ⟨w', hw', hp⟩ := h.world_some hw
    obtain ⟨hscene, hterminal, -⟩ := World.place_eq_iff.1 hp
    rw [he, reset_of_terminal hw' (hterminal.trans ht)]
    refine ⟨h.story, h.hops, h.cursor, ?_⟩
    exact congrArg some (World.place_eq_iff.2 ⟨hscene, rfl, rfl⟩)

theorem continueOn (h : s.Abreast t) :
    s.continueOn.value.1.Abreast t.continueOn.value.1 ∧
      t.continueOn.value.2 = s.continueOn.value.2 := by
  have ho : t.outcome?.bind (·.next) = s.outcome?.bind (·.next) := by rw [h.outcome?_eq]
  cases hn : s.outcome?.bind (·.next) with
  | none =>
      rw [continueOn_of_no_next hn, continueOn_of_no_next (ho.trans hn)]
      exact ⟨h, rfl⟩
  | some next =>
      cases hs : s.storyScene? next with
      | none =>
          have hs' : t.storyScene? next = none := by rw [h.storyScene?_eq, hs]
          rw [continueOn_of_unknown hn hs, continueOn_of_unknown (ho.trans hn) hs']
          exact ⟨h, rfl⟩
      | some scene =>
          have hs' : t.storyScene? next = some scene := by rw [h.storyScene?_eq, hs]
          have went := h.reset.enter true next
          rw [continueOn_of_scene hn hs, continueOn_of_scene (ho.trans hn) hs']
          exact ⟨went, congrArg (· == some next) went.sceneId?_eq⟩

theorem setName (h : s.Abreast t) (name : String) :
    (s.setName name).value.1.Abreast (t.setName name).value.1 ∧
      (t.setName name).value.2 = (s.setName name).value.2 := by
  refine ⟨h.unmoved (s.setName_unmoved name).value (t.setName_unmoved name).value, ?_⟩
  unfold Session.setName
  rw [h.placeholder_eq]
  dsimp only
  split
  · rfl
  · split <;> rfl

end Abreast

end Session

/-! ## Runs taken side by side -/

/-- Whether the step goes by the place of a choice among those that are offered. -/
def SessionStep.picks : SessionStep → Bool
  | .choose _ => true
  | _ => false

/-- The answer, unless it is an object's. -/
def SessionAnswer.ofSession : SessionAnswer → Option SessionAnswer
  | .interaction _ => none
  | answer => some answer

/-- What shows after a step of where the session is, and what it answered. -/
structure Waypoint where
  place : Option Place
  cursor : Cursor
  answer : Option SessionAnswer

namespace Session

variable {s t : Session}

/-- The course that some steps take, one waypoint for each. -/
def course (s : Session) : List SessionStep → List Waypoint
  | [] => []
  | step :: steps =>
      let (t, answer) := (s.step step).value
      ⟨t.world.map World.place, t.cursor, answer.ofSession⟩ :: t.course steps

/-- One step taken by both. -/
theorem Abreast.step (h : s.Abreast t) {step : SessionStep} (hp : step.picks = false) :
    (s.step step).value.1.Abreast (t.step step).value.1 ∧
      (t.step step).value.2.ofSession = (s.step step).value.2.ofSession := by
  cases step with
  | load loaded =>
      obtain ⟨there, answer⟩ := h.load loaded
      simp only [Session.step, Traced.value_bind, Traced.value_pure, answer]
      exact ⟨there, trivial⟩
  | bind story => exact ⟨h.bind story, rfl⟩
  | start =>
      obtain ⟨there, answer⟩ := h.start
      simp only [Session.step, Traced.value_bind, Traced.value_pure, answer]
      exact ⟨there, trivial⟩
  | setName name =>
      obtain ⟨there, answer⟩ := h.setName name
      simp only [Session.step, Traced.value_bind, Traced.value_pure, answer]
      exact ⟨there, trivial⟩
  | setPortrait portrait =>
      exact ⟨h.unmoved (s.setPortrait_unmoved portrait) (t.setPortrait_unmoved portrait), rfl⟩
  | advance => exact ⟨h.advance, rfl⟩
  | goTo scene => exact ⟨h.enter true scene, rfl⟩
  | makeChoice choice => exact ⟨h.makeChoice choice, rfl⟩
  | choose index => cases hp
  | reset => exact ⟨h.reset, rfl⟩
  | continueOn =>
      obtain ⟨there, answer⟩ := h.continueOn
      simp only [Session.step, Traced.value_bind, Traced.value_pure, answer]
      exact ⟨there, trivial⟩
  | interact object =>
      exact ⟨h.unmoved (s.interact_unmoved object).value (t.interact_unmoved object).value, rfl⟩

theorem Abreast.course (h : s.Abreast t) {steps : List SessionStep}
    (hp : ∀ step ∈ steps, step.picks = false) : t.course steps = s.course steps := by
  induction steps generalizing s t with
  | nil => rfl
  | cons step steps ih =>
      obtain ⟨there, answer⟩ := h.step (hp step List.mem_cons_self)
      have rest := ih there fun step hs => hp step (List.mem_cons_of_mem _ hs)
      rw [Session.course, Session.course]
      dsimp only
      rw [there.world, there.cursor, answer, rest]

/-! ## Where no game is running -/

/-- Without a game there is no dialogue either. -/
def Tidy (s : Session) : Prop := s.world = none → s.cursor = {}

theorem tidy_of_world {w : World} (hw : s.world = some w) : s.Tidy := by
  intro hn
  rw [hw] at hn
  cases hn

theorem Unmoved.tidy (h : s.Unmoved t) (hs : s.Tidy) : t.Tidy := by
  intro hn
  rw [h.cursor, hs (h.symm.abreast.world_none hn)]

theorem Tidy.resolve (h : s.Tidy) (id : String) : (s.resolve id).value.Tidy := by
  rw [resolve_value]
  split
  · exact fun hn => h (Option.map_eq_none_iff.1 hn)
  · exact h

theorem tidy_journey :
    Journey (fun s _ => s.Tidy) (fun _ s => s.Tidy) Tidy (fun _ => True) where
  lost h _ := ⟨h, trivial⟩
  arrives _ hp _ := by
    obtain ⟨w, hw, -⟩ := state_eq_playing_iff.1 hp
    refine (arrive_ensures hw _).mono ?_ fun _ _ => trivial
    rintro _ ⟨w', -, rfl⟩
    exact tidy_of_world rfl
  resolves h _ _ := ⟨h.resolve _, fun _ _ => trivial⟩
  leads h _ _ := h
  rests h _ := h
  quiet _ := trivial

theorem Tidy.enter (h : s.Tidy) (eager : Bool) (id : String) : (s.enter eager id).value.Tidy := by
  by_cases hp : s.state = .playing
  · exact (tidy_journey.enter h hp).value
  · rw [enter_of_not_playing hp]
    exact h

theorem Tidy.start (h : s.Tidy) : s.start.value.1.Tidy := by
  rcases s.start_cases with ⟨error, he⟩ | ⟨story, scene, -, -, he⟩
  · rw [he]
    exact h
  · have fresh : (s.fresh story).Tidy := tidy_of_world rfl
    rw [he]
    exact fresh.enter false story.start

theorem tidy_bind (s : Session) (story : Story) : (s.bind story).value.Tidy :=
  fun _ => s.bind_cursor story

theorem Tidy.advance (h : s.Tidy) : s.advance.value.Tidy := by
  rcases s.advance_cases with ⟨-, he⟩ | ⟨⟨w, hw⟩, -, he⟩ | ⟨scene, hp, -, -, he⟩
  · rw [he]
    exact h
  · rw [he]
    exact tidy_of_world hw
  · obtain ⟨w, hw, -⟩ := state_eq_playing_iff.1 hp
    have moved : Tidy { s with cursor := s.cursor.advance.1 } := tidy_of_world hw
    rw [he]
    exact (tidy_journey.follow _ moved hp).value

theorem Tidy.makeChoice (h : s.Tidy) (choice : Choice) : (s.makeChoice choice).value.Tidy := by
  by_cases hp : s.state = .playing
  · have applied := (s.applyAction?_unmoved choice.action).value.tidy h
    rw [makeChoice_of_playing hp]
    simp only [Traced.value_bind]
    split
    · exact applied.resolve _
    · exact applied.enter true _
    · exact applied
  · rw [makeChoice_of_not_playing hp]
    exact h

theorem Tidy.reset (h : s.Tidy) : s.reset.value.Tidy := by
  rcases s.reset_cases with ⟨-, he⟩ | ⟨w, -, -, he⟩
  · rw [he]
    exact h
  · rw [he]
    exact tidy_of_world rfl

theorem Tidy.continueOn (h : s.Tidy) : s.continueOn.value.1.Tidy := by
  rcases s.continueOn_cases with he | ⟨_, next, -, -, ⟨-, he⟩ | ⟨_, -, he⟩⟩
  · rw [he]
    exact h
  · rw [he]
    exact h
  · rw [he]
    exact h.reset.enter true next

theorem Tidy.step (h : s.Tidy) (step : SessionStep) : (s.step step).value.1.Tidy := by
  cases step with
  | load loaded =>
      show (s.load loaded).value.1.Tidy
      rcases s.load_value loaded with hv | ⟨story, -, hv⟩
      · rw [hv]
        exact h
      · rw [hv]
        exact s.tidy_bind story
  | bind story => exact s.tidy_bind story
  | start => exact h.start
  | setName name =>
      simp only [Session.step, Traced.value_bind, Traced.value_pure]
      exact (s.setName_unmoved name).value.tidy h
  | setPortrait portrait => exact (s.setPortrait_unmoved portrait).tidy h
  | advance => exact h.advance
  | goTo scene => exact h.enter true scene
  | makeChoice choice => exact h.makeChoice choice
  | choose index =>
      show (s.choose index).value.1.Tidy
      rcases s.choose_cases index with he | ⟨choice, -, he⟩
      · rw [he]
        exact h
      · rw [he]
        exact h.makeChoice choice
  | reset => exact h.reset
  | continueOn => exact h.continueOn
  | interact object => exact (s.interact_unmoved object).value.tidy h

theorem Reached.tidy (h : Reached s) : s.Tidy := by
  induction h with
  | new => exact fun _ => rfl
  | step _ step ih => exact ih.step step

/-- Two sessions in which no game is running are abreast if they have bound the same story. -/
theorem Reached.abreast (hs : Reached s) (ht : Reached t) (story : t.story = s.story)
    (hops : t.config.maxAutoHops = s.config.maxAutoHops) (hi : s.state = .idle)
    (hi' : t.state = .idle) : s.Abreast t := by
  have hw := state_eq_idle_iff.1 hi
  have hw' := state_eq_idle_iff.1 hi'
  exact ⟨story, hops, by rw [hs.tidy hw, ht.tidy hw'], by rw [hw, hw']⟩

/-- Two sessions that stand at the same place take the same course, unless a choice is picked by its
place among those that are offered. What the players hold and who they are, how names are shown and
who carries out the actions may differ. -/
theorem same_course (hs : Reached s) (ht : Reached t) (story : t.story = s.story)
    (hops : t.config.maxAutoHops = s.config.maxAutoHops)
    (here : (t.cursor = s.cursor ∧ t.world.map World.place = s.world.map World.place) ∨
      (s.state = .idle ∧ t.state = .idle))
    {steps : List SessionStep} (hp : ∀ step ∈ steps, step.picks = false) :
    t.course steps = s.course steps := by
  rcases here with ⟨cursor, world⟩ | ⟨hi, hi'⟩
  · exact Abreast.course ⟨story, hops, cursor, world⟩ hp
  · exact (hs.abreast ht story hops hi hi').course hp

/-- A session that has just crossed over with the ferry. -/
def landed (config : Config) (handler : Handler) : Session :=
  ((new config handler).run [.bind Story.ferry, .start, .advance, .choose 0]).value

theorem landed_reached (config : Config) (handler : Handler) : Reached (landed config handler) :=
  (Reached.new config handler).run _

/-- From there to the end, back to the quay and into the other outcome. -/
def landing : List SessionStep :=
  [.advance, .continueOn, .reset, .goTo "quay", .interact "rope", .setName "Bo", .advance,
    .makeChoice { text := "Wait", outcome := some "stranded" }, .continueOn]

theorem same_course_ferry :
    (landed {} .builtin).hasItem "ticket" = true ∧
      (landed { defaultName := "Ann" } .dropping).hasItem "ticket" = false ∧
      (landed { defaultName := "Ann" } .dropping).course landing =
        (landed {} .builtin).course landing :=
  ⟨by decide +kernel, by decide +kernel,
    same_course (landed_reached _ _) (landed_reached _ _) rfl rfl (.inl ⟨rfl, rfl⟩) (by decide)⟩

end Session

end VisualNovel
