import VisualNovel.Proofs.BrokenLinks
import VisualNovel.Proofs.Coherence
import VisualNovel.Proofs.Course

/-!
# A session rests only in scenes to rest in

The continuation of a scene runs once: on the step that reads its last line or, if there is nothing
to read, on the step that enters it. Were it forgotten on any of the ways into a scene, the player
would sit in a scene that has been read to its end, and reading on would do nothing. In a story
without errors this never happens. A session that is playing and has nothing left to read waits for
a choice, has come to an end, or has used up its automatic transitions in a chain of scenes without
dialogue.

Clearing an outcome is the one step to break this, for it leaves the player in the scene that the
outcome was reached from. Going on after an outcome clears it as well, but enters the scene behind
the outcome at once, and that is why the invariant is not asked of the session in between.
-/

namespace VisualNovel

open Traced (Ensures)
open Region (Ready)
open Session (Journey)

/-- Whether a player who has nothing left to read in the scene may stay in it. -/
def Scene.MayRest (s : Scene) : Prop :=
  match s.continuation with
  | .choices _ | .ending | .deadEnd => True
  | .autoTransition _ => s.dialogue = []
  | .outcome _ => False

theorem Scene.mayRest_of_dialogue {s : Scene} (hd : s.dialogue = [])
    (ho : ∀ id, s.continuation ≠ .outcome id) : s.MayRest := by
  unfold MayRest
  split
  · trivial
  · trivial
  · trivial
  · exact hd
  · next id hc => exact ho id hc

/-- Whether the step clears an outcome and does nothing else. -/
def SessionStep.clears : SessionStep → Bool
  | .reset => true
  | _ => false

/-- A session that is playing and has nothing left to read is in a scene to rest in. -/
def Session.Waits (s : Session) : Prop :=
  s.state = .playing → s.cursor.isExhausted = true →
    ∃ scene, s.scene? = some scene ∧ scene.MayRest

/-- The session plays the story, if any, and rests only where it may. -/
structure Moving (story : Story) (s : Session) : Prop where
  confined : Region.everything.Confines story s
  hops : 1 ≤ s.config.maxAutoHops
  waits : s.Waits

namespace Session

variable {s t : Session} {w : World}

theorem Unmoved.waits (h : s.Unmoved t) (hw : s.Waits) : t.Waits := by
  intro hp he
  rw [h.abreast.scene?_eq]
  rw [h.abreast.state_eq] at hp
  rw [h.cursor] at he
  exact hw hp he

end Session

namespace Moving

variable {story : Story} {s t : Session} {w : World} {id : String} {eager : Bool}

theorem unmoved (h : Moving story s) (same : s.Unmoved t) : Moving story t where
  confined := h.confined.unmoved same
  hops := by
    rw [same.config]
    exact h.hops
  waits := same.waits h.waits

/-- In a session that is not playing nothing has to be shown of its rest. -/
theorem of_resolved (hc : Region.everything.Confines story s) (hh : 1 ≤ s.config.maxAutoHops)
    (hr : s.state = .resolved) : Moving story s :=
  ⟨hc, hh, fun hp => by rw [hr] at hp; cases hp⟩

theorem bind (s : Session) (story : Story) (hh : 1 ≤ s.config.maxAutoHops) :
    (s.bind story).Ensures (Moving story) fun _ => True := by
  obtain ⟨-, hw, hc⟩ := (s.bind_ensures story).value
  refine ⟨⟨(Region.confines_bind _ s story).value, ?_, fun hp => ?_⟩, fun _ _ => trivial⟩
  · rw [hc]
    exact hh
  · obtain ⟨w, hw', -⟩ := Session.state_eq_playing_iff.1 hp
    rw [hw] at hw'
    cases hw'

/-- Reaching an outcome. If it is not there, the session has to be at rest already. -/
theorem resolve (h : Region.everything.Confines story s) (hh : 1 ≤ s.config.maxAutoHops)
    (hw : s.world = some w) (hk : story.outcomes.contains id = false → Moving story s) :
    (s.resolve id).Ensures (Moving story) fun _ => True := by
  have confined : Region.everything.Confines story (s.resolve id).value :=
    (Region.resolve_ensures h hw trivial).value
  cases hc : story.outcomes.contains id with
  | false =>
      rw [Session.resolve_of_unknown (h.story_eq hw) hc]
      exact .log trivial (.pure (hk hc))
  | true =>
      rw [Session.resolve_of_known (h.story_eq hw) hw hc] at confined ⊢
      exact .log trivial (.pure (of_resolved confined hh
        (Session.state_eq_resolved_iff.2 ⟨_, rfl, rfl⟩)))

section Clean

variable (clean : story.Clean) (filed : story.Filed)

include clean

theorem scene?_ne_none {scene : Scene} (hs : story.scene? scene.id = some scene)
    (hc : scene.continuation = .autoTransition id) : story.scene? id ≠ none := by
  have hk := clean.transition hs (Scene.autoTransition_of_continuation hc)
  rw [Catalog.contains_eq_isSome] at hk
  exact Option.isSome_iff_ne_none.1 hk

theorem resolve_scene {scene : Scene} (h : Region.everything.Confines story s)
    (hh : 1 ≤ s.config.maxAutoHops) (hp : s.state = .playing)
    (hs : story.scene? scene.id = some scene) (hc : scene.continuation = .outcome id) :
    (s.resolve id).Ensures (Moving story) fun _ => True := by
  obtain ⟨w, hw, -⟩ := Session.state_eq_playing_iff.1 hp
  refine resolve h hh hw fun hn => ?_
  rw [clean.outcome hs (Scene.outcome_of_continuation hc)] at hn
  cases hn

include filed

/-- On arrival the cursor is at the start, so there is nothing left to read just in a scene without
dialogue. Such a scene is rested in only if its continuation has been run. -/
theorem journey :
    Journey
      (fun s id => Ready story s ∧ 1 ≤ s.config.maxAutoHops ∧
        (story.scene? id = none → Moving story s))
      (fun scene s => Region.everything.Confines story s ∧ 1 ≤ s.config.maxAutoHops ∧
        story.scene? scene.id = some scene ∧ s.scene? = some scene ∧ s.cursor = .start scene)
      (Moving story) (fun _ => True) where
  lost := by
    rintro s id ⟨⟨hs, -⟩, -, hm⟩ hn
    rw [Region.storyScene?_eq hs] at hn
    exact ⟨hm hn, trivial⟩
  arrives := by
    rintro s id scene ⟨⟨hs, w, hw, ht, ho⟩, hh, -⟩ - hscene
    rw [Region.storyScene?_eq hs] at hscene
    have hscene := filed.scene?_id hscene
    refine (Session.arrive_ensures hw scene).mono ?_ fun _ _ => trivial
    rintro t ⟨w', hk, rfl⟩
    refine ⟨Region.confines_arrived hs hscene trivial ht ho hk, hh, hscene, ?_, rfl⟩
    obtain ⟨items, flags, rfl⟩ := hk
    refine (Region.scene?_eq ?_ rfl).trans hscene
    exact hs
  resolves := by
    rintro s scene id ⟨h, hh, hscene, -, -⟩ hp hc
    exact resolve_scene clean h hh hp hscene hc
  leads := by
    rintro s scene id ⟨h, hh, hscene, -, -⟩ hp hc
    exact ⟨h.ready hp, hh, fun hn => absurd hn (scene?_ne_none clean hscene hc)⟩
  rests := by
    rintro s scene ⟨h, hh, -, hscene, hcursor⟩ ho
    refine ⟨h, hh, fun _ he => ⟨scene, hscene, ?_⟩⟩
    have hd : scene.dialogue = [] := by
      rw [hcursor] at he
      simpa [Cursor.isExhausted, Cursor.start] using he
    exact Scene.mayRest_of_dialogue hd (ho hd)
  quiet _ := trivial

/-- Entering a scene. If it is not there, the session has to be at rest already. -/
theorem enter (hr : Ready story s) (hh : 1 ≤ s.config.maxAutoHops)
    (hk : story.scene? id = none → Moving story s) :
    (s.enter eager id).Ensures (Moving story) fun _ => True := by
  have ⟨_, w, hw, ht, _⟩ := hr
  exact (journey clean filed).enter ⟨hr, hh, hk⟩ (Session.state_eq_playing_iff.2 ⟨w, hw, ht⟩)

theorem goTo (h : Moving story s) (id : String) :
    (s.goTo id).Ensures (Moving story) fun _ => True := by
  by_cases hp : s.state = .playing
  · exact enter clean filed (h.confined.ready hp) h.hops fun _ => h
  · rw [Session.goTo, Session.enter_of_not_playing hp]
    exact .log trivial (.pure h)

theorem start (h : Moving story s) :
    s.start.Ensures (fun t => Moving story t.1) fun _ => True := by
  rcases s.start_cases with ⟨error, he⟩ | ⟨story', scene, hs, hscene, he⟩
  · rw [he]
    exact .pure h
  · obtain rfl : story' = story := h.confined.story_unique hs
    have hr : Ready story' (s.fresh story') := ⟨hs, _, rfl, rfl, rfl⟩
    have hk : story'.scene? story'.start = none → Moving story' (s.fresh story') := by
      intro hn
      rw [hscene] at hn
      cases hn
    rw [he]
    exact .log trivial (.bind (enter clean filed hr h.hops hk) fun t ht => .pure ht)

/-- The last line is read: the continuation runs, and what it does not lead on from is a scene to
rest in. -/
theorem follow {scene : Scene} (h : Region.everything.Confines story s)
    (hh : 1 ≤ s.config.maxAutoHops) (hp : s.state = .playing)
    (hscene : story.scene? scene.id = some scene) (hs : s.scene? = some scene) :
    (Session.follow s.config.maxAutoHops scene s).Ensures (Moving story) fun _ => True := by
  cases hc : scene.continuation with
  | outcome id =>
      rw [Session.follow_of_outcome hp hc]
      exact resolve_scene clean h hh hp hscene hc
  | autoTransition next =>
      -- There is a transition left, so the hop limit cannot cut this one.
      obtain ⟨hops, he⟩ := Nat.exists_eq_add_of_le' hh
      have known : story.scene? next ≠ none := scene?_ne_none clean hscene hc
      have j := journey clean filed
      rw [he, Session.follow_of_autoTransition hp hc]
      exact j.enterWith (j.follow hops) ⟨h.ready hp, hh, fun hn => absurd hn known⟩ hp
  | choices | ending | deadEnd =>
      obtain ⟨event, -, hf⟩ : ∃ event : Event, event.isRest = true ∧
          Session.follow s.config.maxAutoHops scene s = (do Traced.log event; return s) :=
        Session.follow_of_rest hp (fun next h => by rw [hc] at h; cases h)
          (fun id h => by rw [hc] at h; cases h)
      have rest : scene.MayRest := by
        rw [Scene.MayRest, hc]
        trivial
      rw [hf]
      exact .log trivial (.pure ⟨h, hh, fun _ _ => ⟨scene, hs, rest⟩⟩)

/-- Reading on past the last line does nothing, and there the session has been at rest before. -/
theorem advance (h : Moving story s) :
    s.advance.Ensures (Moving story) fun _ => True := by
  have confined := h.confined.advanceCursor
  rcases s.advance_cases with ⟨-, he⟩ | ⟨⟨w, hw⟩, hc, he⟩ | ⟨scene, hp, -, hscene, he⟩
  · rw [he]
    exact .log trivial (.pure h)
  · rw [he]
    refine .pure ⟨confined, h.hops, fun hp hx => ?_⟩
    rcases hc with hc | hc | hc
    · -- The cursor was at the end already, and has not moved.
      have hx' : s.cursor.isExhausted = true := by
        rw [Cursor.advance_snd, hx, Bool.and_true, Bool.not_eq_false'] at hc
        exact hc
      exact h.waits hp hx'
    · rw [Session.isTerminal_eq_false (s := s) hp] at hc
      cases hc
    · obtain ⟨scene, hscene, -⟩ := (h.confined.inStep hw).scene
      rw [h.confined.storyScene?_cursor hw, hscene] at hc
      cases hc
  · obtain ⟨w, hw, -⟩ := Session.state_eq_playing_iff.1 hp
    rw [h.confined.storyScene?_cursor hw] at hscene
    rw [he]
    refine follow clean filed confined h.hops hp (filed.scene?_id hscene) ?_
    exact (Region.scene?_eq (h.confined.story_eq hw) hw).trans hscene

theorem makeChoice (h : Moving story s) (choice : Choice) :
    (s.makeChoice choice).Ensures (Moving story) fun _ => True := by
  by_cases hp : s.state = .playing
  · obtain ⟨w, hw, -⟩ := Session.state_eq_playing_iff.1 hp
    rw [Session.makeChoice_of_playing hp]
    refine .log trivial (.bind ((s.applyAction?_unmoved choice.action).mono
      (fun _ same => same) fun _ _ => trivial) fun t same => ?_)
    have ht := h.unmoved same
    obtain ⟨w', hw', -⟩ := same.symm.world_some hw
    split
    · next id _ _ => exact resolve ht.confined ht.hops hw' fun _ => ht
    · next id _ _ => exact ht.goTo clean filed id
    · exact .log trivial (.pure ht)
  · rw [Session.makeChoice_of_not_playing hp]
    exact .log trivial (.pure h)

theorem choose (h : Moving story s) (index : Nat) :
    (s.choose index).Ensures (fun t => Moving story t.1) fun _ => True := by
  rcases s.choose_cases index with he | ⟨choice, -, he⟩
  · rw [he]
    exact .log trivial (.pure h)
  · rw [he]
    exact .bind (h.makeChoice clean filed choice) fun t ht => .pure ht

theorem continueOn (h : Moving story s) :
    s.continueOn.Ensures (fun t => Moving story t.1) fun _ => True := by
  rcases s.continueOn_cases with he | ⟨outcome, next, ho, -, hcases⟩
  · rw [he]
    exact .pure h
  · rcases hcases with ⟨-, he⟩ | ⟨scene, hscene, he⟩
    · rw [he]
      exact .log trivial (.pure h)
    · obtain ⟨w, id, hw, hid, -⟩ := Session.outcome?_eq_some ho
      have hs := h.confined.story_eq hw
      have terminal : w.terminal = true := (h.confined.inStep hw).terminal.2 (by rw [hid]; rfl)
      have cleared : s.reset.Ensures
          (fun t => Ready story t ∧ 1 ≤ t.config.maxAutoHops) fun _ => True := by
        rcases s.reset_cases with ⟨hr, -⟩ | ⟨w, -, -, hr⟩
        · exact absurd (Session.state_eq_resolved_iff.2 ⟨w, hw, terminal⟩) hr
        · rw [hr]
          exact .log trivial (.pure ⟨⟨hs, _, rfl, rfl, rfl⟩, h.hops⟩)
      rw [Region.storyScene?_eq hs] at hscene
      rw [he]
      refine .bind cleared fun t ht => .bind (P := Moving story) ?_ fun u hu => .pure hu
      refine enter clean filed ht.1 ht.2 fun hn => ?_
      rw [hscene] at hn
      cases hn

/-- Every step but binding another story and clearing an outcome. -/
theorem step (h : Moving story s) {step : SessionStep} (hr : step.rebinds = false)
    (hc : step.clears = false) :
    (s.step step).Ensures (fun t => Moving story t.1) fun _ => True := by
  cases step with
  | load | bind => cases hr
  | reset => cases hc
  | start => exact .bind (h.start clean filed) fun t ht => .pure ht
  | setName name =>
      exact .bind ((s.setName_unmoved name).mono (fun _ same => h.unmoved same)
        fun _ _ => trivial) fun t ht => .pure ht
  | setPortrait portrait => exact .pure (h.unmoved (s.setPortrait_unmoved portrait))
  | advance => exact .bind (h.advance clean filed) fun t ht => .pure ht
  | goTo id => exact .bind (h.goTo clean filed id) fun t ht => .pure ht
  | makeChoice choice => exact .bind (h.makeChoice clean filed choice) fun t ht => .pure ht
  | choose index => exact .bind (h.choose clean filed index) fun t ht => .pure ht
  | continueOn => exact .bind (h.continueOn clean filed) fun t ht => .pure ht
  | interact id =>
      exact .bind ((s.interact_unmoved id).mono (fun _ same => h.unmoved same)
        fun _ _ => trivial) fun t ht => .pure ht

theorem run {steps : List SessionStep}
    (hs : ∀ step ∈ steps, step.rebinds = false ∧ step.clears = false) (h : Moving story s) :
    (s.run steps).Ensures (Moving story) fun _ => True :=
  Session.run_ensures (fun step hm _ ht => ht.step clean filed (hs step hm).1 (hs step hm).2) h

end Clean

end Moving

/-- In a story without errors nobody who is playing and has read all there is gets stuck: the scene
is one to rest in, and never one that stands for an outcome. -/
theorem Session.play_rests_in_place (story : Story) (filed : story.Filed) (clean : story.Clean)
    (s : Session) (hops : 1 ≤ s.config.maxAutoHops) (steps : List SessionStep)
    (stay : ∀ step ∈ steps, step.rebinds = false ∧ step.clears = false)
    (playing : (s.play story steps).value.state = .playing)
    (read : (s.play story steps).value.cursor.isExhausted = true) :
    (∃ scene, (s.play story steps).value.scene? = some scene ∧ scene.MayRest) ∧
      ∀ id, (s.play story steps).value.continuation? ≠ some (.outcome id) := by
  have moving : (s.play story steps).Ensures (Moving story) fun _ => True :=
    .bind (Moving.bind s story hops) fun _ h => Moving.run clean filed stay h
  obtain ⟨scene, hscene, rest⟩ := moving.value.waits playing read
  refine ⟨⟨scene, hscene, rest⟩, fun id hc => ?_⟩
  rw [continuation?, hscene, Option.map_some, Option.some.injEq] at hc
  rw [Scene.MayRest, hc] at rest
  exact rest

/-- The session that crosses over with the ferry, before its last choice. -/
def Session.onQuay : Session :=
  ((new {} .recording).play Story.ferry SessionStep.crossing.dropLast).value

theorem Session.play_rests_in_place_ferry :
    onQuay.state = .playing ∧ onQuay.cursor.isExhausted = true ∧
      (∃ scene, onQuay.scene? = some scene ∧ scene.MayRest) ∧
      ∀ id, onQuay.continuation? ≠ some (.outcome id) := by
  have playing : onQuay.state = .playing := by decide +kernel
  have read : onQuay.cursor.isExhausted = true := by decide +kernel
  exact ⟨playing, read, play_rests_in_place _ Story.ferry_filed Story.ferry_clean _ (by decide) _
    (by decide) playing read⟩

end VisualNovel
