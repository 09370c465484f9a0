import VisualNovel.Proofs.Filing
import VisualNovel.Proofs.Steps

/-!
# Regions of a story that a session never leaves

A session stores three things apart from each other: the story that is bound, the world of the
running game, and the place in the dialogue. They agree (`Session.Coherent`), and they do so because
every step that moves the world moves the cursor along with it and looks every id up before it is
used. That argument says at the same time where the ids come from. So it is made for a `Region`, a
set of scenes and of outcomes that is closed under the links a session follows: a session that
follows links of the region only stays in the region, and every broken link that it logs is one of
the region's.

With everything in the region this is coherence alone. With the scenes that are defined it says
which broken links can show up, and with the scenes that can be reached it says where a player gets.
-/

namespace VisualNovel

open Traced (Ensures)
open Session (Journey)

/-- The world and the cursor of a running game agree with each other and with the story. -/
structure InStep (story : Story) (w : World) (c : Cursor) : Prop where
  /-- The player is in a scene of the story, and the cursor is in the dialogue of that scene. -/
  scene : ∃ scene, story.scene? w.scene = some scene ∧ c.scene = w.scene ∧
    c.lines = scene.dialogue
  position : c.position ≤ c.lines.length
  terminal : w.terminal = true ↔ w.outcome.isSome = true
  outcome : ∀ id, w.outcome = some id → story.outcomes.contains id = true

namespace InStep

variable {story : Story} {w w' : World} {c : Cursor}

theorem of_place (h : InStep story w c) (hp : w'.place = w.place) : InStep story w' c := by
  obtain ⟨hscene, hterminal, houtcome⟩ := World.place_eq_iff.1 hp
  exact ⟨hscene ▸ h.scene, h.position, hterminal ▸ houtcome ▸ h.terminal,
    houtcome ▸ h.outcome⟩

theorem advance (h : InStep story w c) : InStep story w c.advance.1 := by
  refine ⟨?_, ?_, h.terminal, h.outcome⟩
  · rw [c.advance_scene, c.advance_lines]
    exact h.scene
  · rw [c.advance_lines]
    exact c.advance_position_le h.position

end InStep

/-- A running game is one of the bound story, and its parts agree. -/
def Session.Coherent (s : Session) : Prop :=
  ∀ w, s.world = some w → ∃ story, s.story = some story ∧ InStep story w s.cursor

/-- A set of scenes and a set of outcomes, each given by ids, defined or not. -/
structure Region where
  scene : String → Prop
  outcome : String → Prop
  /-- Whether a choice without a target belongs to the region. -/
  aimless : Prop

namespace Region

/-- Whether what comes of a choice is in the region. -/
def choice (r : Region) (c : Choice) : Prop :=
  match c.outcome, c.next with
  | some id, _ => r.outcome id
  | none, some id => r.scene id
  | none, none => r.aimless

/-- No link that a session follows leads out of the region. -/
structure Closed (r : Region) (story : Story) : Prop where
  start : ∀ {scene}, story.scene? story.start = some scene → r.scene story.start
  transition : ∀ {scene next}, r.scene scene.id → story.scene? scene.id = some scene →
    scene.continuation = .autoTransition next → r.scene next
  outcome : ∀ {scene id}, r.scene scene.id → story.scene? scene.id = some scene →
    scene.continuation = .outcome id → r.outcome id
  choice : ∀ {scene c}, r.scene scene.id → story.scene? scene.id = some scene →
    c ∈ scene.choices → r.choice c
  next : ∀ {id outcome next}, r.outcome id → story.outcome? id = some outcome →
    outcome.next = some next → r.scene next

/-- What a session in the region may leave in its trace: it enters scenes of the region, and the
links it finds broken are links of the region that are broken. -/
def Allows (r : Region) (story : Story) : Note → Prop
  | .logged (.sceneEntered id _) => r.scene id ∧ story.scenes.contains id = true
  | .logged (.sceneNotFound id _) | .logged (.nextSceneNotFound id) =>
    r.scene id ∧ story.scene? id = none
  | .logged (.outcomeNotFound id) => r.outcome id ∧ story.outcomes.contains id = false
  | .logged (.choiceLeadsNowhere ..) => r.aimless
  | _ => True

/-- Whether the step, if it is told where to go, is told to stay in the region. Binding another
story is left out. -/
def Admits (r : Region) : SessionStep → Prop
  | .load _ | .bind _ => False
  | .goTo id => r.scene id
  | .makeChoice c => r.choice c
  | _ => True

theorem admits_of_isPlay {r : Region} {step : SessionStep} (h : step.isPlay = true) :
    r.Admits step := by
  cases step with
  | load | bind | goTo | makeChoice => cases h
  | start | setName | setPortrait | advance | choose | reset | continueOn | interact => trivial

/-- The session plays the story, if any, and its parts agree and are in the region. -/
structure Confines (r : Region) (story : Story) (s : Session) : Prop where
  bound : s.story = some story ∨ s.story = none ∧ s.world = none
  inStep : ∀ {w}, s.world = some w → InStep story w s.cursor
  scene : ∀ {w}, s.world = some w → r.scene w.scene
  outcome : ∀ {w id}, s.world = some w → w.outcome = some id → r.outcome id

variable {r : Region} {story : Story} {s : Session} {w : World}

/-! ## Stating and reading the invariant -/

theorem Confines.of_world (hs : s.story = some story) (hw : s.world = some w)
    (hin : InStep story w s.cursor) (hr : r.scene w.scene)
    (ho : ∀ id, w.outcome = some id → r.outcome id) : r.Confines story s := by
  refine ⟨.inl hs, ?_, ?_, ?_⟩
  · intro w' hw'
    rw [hw] at hw'
    cases hw'
    exact hin
  · intro w' hw'
    rw [hw] at hw'
    cases hw'
    exact hr
  · intro w' id hw'
    rw [hw] at hw'
    cases hw'
    exact ho id

/-- Without a game there is nothing to confine. -/
theorem Confines.of_no_world (hs : s.story = some story ∨ s.story = none)
    (hw : s.world = none) : r.Confines story s := by
  refine ⟨hs.imp_right fun hn => ⟨hn, hw⟩, ?_, ?_, ?_⟩
  · intro w hw'
    rw [hw] at hw'
    cases hw'
  · intro w hw'
    rw [hw] at hw'
    cases hw'
  · intro w id hw'
    rw [hw] at hw'
    cases hw'

theorem Confines.story_eq (h : r.Confines story s) (hw : s.world = some w) :
    s.story = some story :=
  h.bound.resolve_right fun hn => by rw [hw] at hn; cases hn.2

theorem Confines.story_unique {story' : Story} (h : r.Confines story s)
    (hs : s.story = some story') : story' = story := by
  rcases h.bound with hs' | ⟨hs', -⟩
  · exact Option.some.inj (hs.symm.trans hs')
  · rw [hs'] at hs
    cases hs

theorem Confines.coherent (h : r.Confines story s) : s.Coherent :=
  fun _ hw => ⟨story, h.story_eq hw, h.inStep hw⟩

theorem Confines.outcome_eq_none (h : r.Confines story s) (hw : s.world = some w)
    (ht : w.terminal = false) : w.outcome = none := by
  cases ho : w.outcome with
  | none => rfl
  | some id =>
      have := (h.inStep hw).terminal.2 (by rw [ho]; rfl)
      rw [ht] at this
      cases this

theorem storyScene?_eq (hs : s.story = some story) (id : String) :
    s.storyScene? id = story.scene? id := by
  rw [Session.storyScene?, hs]
  rfl

theorem Confines.storyScene?_cursor (h : r.Confines story s) (hw : s.world = some w) :
    s.storyScene? s.cursor.scene = story.scene? w.scene := by
  obtain ⟨_, _, hc, _⟩ := (h.inStep hw).scene
  rw [storyScene?_eq (h.story_eq hw), hc]

theorem allows_of_not_isLink {note : Note} (h : note.isLink = false) :
    r.Allows story note := by
  unfold Allows
  split
  · cases h
  · cases h
  · cases h
  · cases h
  · cases h
  · trivial

/-! ## Journeys stay in the region -/

/-- A game of the story is being played and has reached no outcome; the player may not have been
put into a scene yet. -/
def Ready (story : Story) (s : Session) : Prop :=
  s.story = some story ∧ ∃ w, s.world = some w ∧ w.terminal = false ∧ w.outcome = none

theorem Confines.ready (h : r.Confines story s) (hp : s.state = .playing) : Ready story s := by
  obtain ⟨w, hw, ht⟩ := Session.state_eq_playing_iff.1 hp
  exact ⟨h.story_eq hw, w, hw, ht, h.outcome_eq_none hw ht⟩

/-- Arriving in a scene of the region puts all parts of the session in step. -/
theorem confines_arrived {scene : Scene} {w' : World} (hs : s.story = some story)
    (hscene : story.scene? scene.id = some scene) (hr : r.scene scene.id)
    (ht : w.terminal = false) (ho : w.outcome = none) (hk : (w.moveTo scene.id).Keeps w') :
    r.Confines story { s with world := some w', cursor := .start scene } := by
  obtain ⟨items, flags, rfl⟩ := hk
  refine .of_world hs rfl ⟨⟨scene, hscene, rfl, rfl⟩, Nat.zero_le _, ?_, ?_⟩ hr ?_
  · simp [World.moveTo, ht, ho]
  · intro id h
    simp [World.moveTo, ho] at h
  · intro id h
    simp [World.moveTo, ho] at h

theorem resolve_ensures {id : String} (h : r.Confines story s) (hw : s.world = some w)
    (ho : r.outcome id) : (s.resolve id).Ensures (r.Confines story) (r.Allows story) := by
  have hs := h.story_eq hw
  cases hc : story.outcomes.contains id with
  | false =>
      rw [Session.resolve_of_unknown hs hc]
      exact .log ⟨ho, hc⟩ (.pure h)
  | true =>
      rw [Session.resolve_of_known hs hw hc]
      refine .log trivial (.pure (.of_world hs rfl
        ⟨(h.inStep hw).scene, (h.inStep hw).position, ?_, ?_⟩ (h.scene hw :) ?_))
      · simp [World.reach]
      · intro id' h'
        cases h'
        exact hc
      · intro id' h'
        cases h'
        exact ho

theorem journey (closed : r.Closed story) (filed : story.Filed) :
    Journey
      (fun s id => Ready story s ∧ r.scene id ∧ (story.scene? id = none → r.Confines story s))
      (fun scene s => r.Confines story s ∧ r.scene scene.id ∧
        story.scene? scene.id = some scene)
      (r.Confines story) (r.Allows story) where
  lost := by
    rintro s id ⟨⟨hs, -⟩, hr, hc⟩ hn
    rw [storyScene?_eq hs] at hn
    exact ⟨hc hn, hr, hn⟩
  arrives := by
    rintro s id scene ⟨⟨hs, w, hw, ht, ho⟩, hr, -⟩ - hscene
    rw [storyScene?_eq hs] at hscene
    have hid : scene.id = id := filed hscene
    rw [← hid] at hscene hr
    refine (Session.arrive_ensures hw scene).mono ?_ ?_
    · rintro t ⟨w', hk, rfl⟩
      exact ⟨confines_arrived hs hscene hr ht ho hk, hr, hscene⟩
    · rintro note (rfl | hn)
      · exact ⟨hr, Story.contains_of_scene? hscene⟩
      · exact allows_of_not_isLink (Note.isLink_of_isEffect hn)
  resolves := by
    rintro s scene id ⟨h, hr, hscene⟩ hp hc
    obtain ⟨w, hw, -⟩ := Session.state_eq_playing_iff.1 hp
    exact resolve_ensures h hw (closed.outcome hr hscene hc)
  leads := by
    rintro s scene next ⟨h, hr, hscene⟩ hp hc
    exact ⟨h.ready hp, closed.transition hr hscene hc, fun _ => h⟩
  rests := fun h _ => h.1
  quiet := fun he => allows_of_not_isLink (Note.isLink_of_isRest he)

/-! ## Steps stay in the region -/

theorem scene?_eq (hs : s.story = some story) (hw : s.world = some w) :
    s.scene? = story.scene? w.scene := by
  rw [Session.scene?, Session.sceneId?, hw]
  exact storyScene?_eq hs w.scene

theorem Confines.unmoved {t : Session} (h : r.Confines story s) (hp : s.Unmoved t) :
    r.Confines story t := by
  cases hw' : t.world with
  | none =>
      refine .of_no_world ?_ hw'
      rw [hp.story]
      exact h.bound.imp_right And.left
  | some w' =>
      obtain ⟨w, hw, he⟩ := hp.world_some hw'
      obtain ⟨hscene, -, houtcome⟩ := World.place_eq_iff.1 he
      refine .of_world (hp.story.trans (h.story_eq hw)) hw' ?_ ?_ ?_
      · rw [hp.cursor]
        exact (h.inStep hw).of_place he
      · rw [hscene]
        exact h.scene hw
      · intro id ho
        rw [houtcome] at ho
        exact h.outcome hw ho

theorem Confines.advanceCursor (h : r.Confines story s) :
    r.Confines story { s with cursor := s.cursor.advance.1 } :=
  ⟨h.bound, fun hw => (h.inStep hw).advance, h.scene, h.outcome⟩

theorem Confines.leaveOutcome (h : r.Confines story s) (hw : s.world = some w) :
    r.Confines story { s with world := some w.leaveOutcome } := by
  refine .of_world (h.story_eq hw) rfl
    ⟨(h.inStep hw).scene, (h.inStep hw).position, ?_, ?_⟩ (h.scene hw :) ?_
  · simp [World.leaveOutcome]
  · intro id ho
    cases ho
  · intro id ho
    cases ho

section Steps

variable (closed : r.Closed story) (filed : story.Filed)

include closed filed

theorem goTo_ensures {id : String} (h : r.Confines story s) (hr : r.scene id) :
    (s.goTo id).Ensures (r.Confines story) (r.Allows story) := by
  by_cases hp : s.state = .playing
  · exact (journey closed filed).enter ⟨h.ready hp, hr, fun _ => h⟩ hp
  · rw [Session.goTo, Session.enter_of_not_playing hp]
    exact .log trivial (.pure h)

theorem start_ensures (h : r.Confines story s) :
    s.start.Ensures (fun t => r.Confines story t.1) (r.Allows story) := by
  rcases s.start_cases with ⟨error, he⟩ | ⟨story', scene, hs, hscene, he⟩
  · rw [he]
    exact .pure h
  · obtain rfl : story' = story := h.story_unique hs
    have ready : Ready story' (s.fresh story') := ⟨hs, _, rfl, rfl, rfl⟩
    rw [he]
    refine .log trivial (.bind ((journey closed filed).enter
      ⟨ready, closed.start hscene, fun hn => ?_⟩ rfl) fun t ht => .pure ht)
    rw [hscene] at hn
    cases hn

theorem advance_ensures (h : r.Confines story s) :
    s.advance.Ensures (r.Confines story) (r.Allows story) := by
  rcases s.advance_cases with ⟨-, he⟩ | ⟨-, -, he⟩ | ⟨scene, hp, -, hscene, he⟩
  · rw [he]
    exact .log trivial (.pure h)
  · rw [he]
    exact .pure h.advanceCursor
  · rw [he]
    obtain ⟨w, hw, -⟩ := Session.state_eq_playing_iff.1 hp
    rw [h.storyScene?_cursor hw] at hscene
    have hid : scene.id = w.scene := filed hscene
    rw [← hid] at hscene
    exact (journey closed filed).follow _
      ⟨h.advanceCursor, hid ▸ h.scene hw, hscene⟩ hp

theorem makeChoice_ensures {choice : Choice} (h : r.Confines story s)
    (hc : r.choice choice) :
    (s.makeChoice choice).Ensures (r.Confines story) (r.Allows story) := by
  by_cases hp : s.state = .playing
  · rw [Session.makeChoice_of_playing hp]
    refine .log trivial (.bind ((s.applyAction?_unmoved choice.action).mono
      (fun _ same => same) fun _ => allows_of_not_isLink) fun t same => ?_)
    have ht := h.unmoved same
    unfold Region.choice at hc
    split
    · next id _ ho =>
        obtain ⟨w, hw, -⟩ := Session.state_eq_playing_iff.1 hp
        obtain ⟨w', hw', -⟩ := same.symm.world_some hw
        rw [ho] at hc
        exact resolve_ensures ht hw' hc
    · next id ho hn =>
        rw [ho, hn] at hc
        exact goTo_ensures closed filed ht hc
    · next ho hn =>
        rw [ho, hn] at hc
        exact .log hc (.pure ht)
  · rw [Session.makeChoice_of_not_playing hp]
    exact .log trivial (.pure h)

theorem choose_ensures (h : r.Confines story s) (index : Nat) :
    (s.choose index).Ensures (fun t => r.Confines story t.1) (r.Allows story) := by
  rcases s.choose_cases index with he | ⟨choice, hm, he⟩
  · rw [he]
    exact .log trivial (.pure h)
  · rw [he]
    obtain ⟨w, scene, hw, hscene, hm⟩ := Session.mem_visibleChoices hm
    rw [scene?_eq (h.story_eq hw) hw] at hscene
    have hid : scene.id = w.scene := filed hscene
    rw [← hid] at hscene
    have hc := closed.choice (hid ▸ h.scene hw) hscene hm
    exact .bind (makeChoice_ensures closed filed h hc) fun t ht => .pure ht

omit closed filed in
theorem reset_ensures (h : r.Confines story s) :
    s.reset.Ensures (r.Confines story) (r.Allows story) := by
  rcases s.reset_cases with ⟨-, he⟩ | ⟨w, hw, -, he⟩
  · rw [he]
    exact .log trivial (.pure h)
  · rw [he]
    exact .log trivial (.pure (h.leaveOutcome hw))

theorem continueOn_ensures (h : r.Confines story s) :
    s.continueOn.Ensures (fun t => r.Confines story t.1) (r.Allows story) := by
  rcases s.continueOn_cases with he | ⟨outcome, next, ho, hn, hcases⟩
  · rw [he]
    exact .pure h
  · obtain ⟨w, id, hw, hid, hid'⟩ := Session.outcome?_eq_some ho
    rw [h.story_eq hw] at hid'
    have hr : r.scene next := closed.next (h.outcome hw hid) hid' hn
    rcases hcases with ⟨hs, he⟩ | ⟨scene, -, he⟩
    · rw [he]
      rw [storyScene?_eq (h.story_eq hw)] at hs
      exact .log ⟨hr, hs⟩ (.pure h)
    · rw [he]
      exact .bind (reset_ensures h) fun t ht =>
        .bind (goTo_ensures closed filed ht hr) fun u hu => .pure hu

/-- No step that stays with the story leaves the region. -/
theorem step_ensures (h : r.Confines story s) {step : SessionStep} (hs : r.Admits step) :
    (s.step step).Ensures (fun t => r.Confines story t.1) (r.Allows story) := by
  cases step with
  | load | bind => exact False.elim hs
  | start => exact .bind (start_ensures closed filed h) fun t ht => .pure ht
  | setName name =>
      exact .bind ((s.setName_unmoved name).mono (fun _ same => h.unmoved same)
        fun _ => allows_of_not_isLink) fun t ht => .pure ht
  | setPortrait portrait => exact .pure (h.unmoved (s.setPortrait_unmoved portrait))
  | advance => exact .bind (advance_ensures closed filed h) fun t ht => .pure ht
  | goTo id => exact .bind (goTo_ensures closed filed h hs) fun t ht => .pure ht
  | makeChoice choice => exact .bind (makeChoice_ensures closed filed h hs) fun t ht => .pure ht
  | choose index => exact .bind (choose_ensures closed filed h index) fun t ht => .pure ht
  | reset => exact .bind (reset_ensures h) fun t ht => .pure ht
  | continueOn => exact .bind (continueOn_ensures closed filed h) fun t ht => .pure ht
  | interact id =>
      exact .bind ((s.interact_unmoved id).mono (fun _ same => h.unmoved same)
        fun _ => allows_of_not_isLink) fun t ht => .pure ht

/-- A session that plays a story and is told to go nowhere outside a region of it stays there, and
finds no links broken but those of the region. -/
theorem run_ensures {steps : List SessionStep} (hs : ∀ step ∈ steps, r.Admits step)
    (h : r.Confines story s) :
    (s.run steps).Ensures (r.Confines story) (r.Allows story) :=
  Session.run_ensures (fun step hm _ ht => step_ensures closed filed ht (hs step hm)) h

end Steps

/-- Binding a story brings a session into every region of it, for no game is running. -/
theorem confines_bind (r : Region) (s : Session) (story : Story) :
    (s.bind story).Ensures (r.Confines story) (r.Allows story) := by
  refine (s.bind_ensures story).mono ?_ fun _ => allows_of_not_isLink
  rintro t ⟨hs, hw, -⟩
  exact .of_no_world (.inl hs) hw

/-- What is played of a story from the moment it is bound. -/
theorem play_ensures (closed : r.Closed story) (filed : story.Filed) (s : Session)
    {steps : List SessionStep} (hs : ∀ step ∈ steps, step.isPlay = true) :
    (s.play story steps).Ensures (r.Confines story) (r.Allows story) :=
  .bind (confines_bind r s story) fun _ h =>
    run_ensures closed filed (fun step hm => admits_of_isPlay (hs step hm)) h

end Region

/-- In `Story.ferry`: a player who stays ashore at first is brought back by the outcome of that,
and crosses over. -/
def SessionStep.crossing : List SessionStep :=
  [.start, .advance, .choose 1, .continueOn, .advance, .choose 0]

theorem SessionStep.crossing_isPlay : ∀ step ∈ crossing, step.isPlay = true := by decide

end VisualNovel
