import VisualNovel.Proofs.Course

/-!
# World and cursor move together

Coherence speaks of stories that are filed by id. Part of it has nothing to do with filing: the
world and the cursor are set by the same arrival, from the same scene, so they name the same scene
whatever key it was found under, and whoever clears an outcome or reaches one sets both halves of
it. This is what the transitions rely on when they look the scene of the cursor up again.

Every invariant of reached sessions needs one line for each step, and so does this one. The line
with something in it is the arrival (`aligned_journey`); a game that is about to begin is not
aligned, which is why the journey asks for alignment only where the scene is missing.
-/

namespace VisualNovel

open Traced (Ensures)

/-- The game has an outcome exactly if it is over. -/
def World.Decided (w : World) : Prop := w.terminal = w.outcome.isSome

theorem World.Decided.of_place {w w' : World} (h : w.Decided) (hp : w'.place = w.place) :
    w'.Decided := by
  obtain ⟨-, hterminal, houtcome⟩ := World.place_eq_iff.1 hp
  rw [Decided, hterminal, houtcome]
  exact h

/-- The world and the cursor are in one scene, which is filed in the story under some key. -/
structure AlignedWith (find : String → Option Scene) (c : Cursor) (w : World) : Prop where
  scene : ∃ key scene, find key = some scene ∧ w.scene = scene.id ∧ c.scene = scene.id ∧
    c.lines = scene.dialogue
  position : c.position ≤ c.lines.length
  decided : w.Decided

namespace AlignedWith

variable {find : String → Option Scene} {c : Cursor} {w w' : World}

theorem cursor_scene (h : AlignedWith find c w) : c.scene = w.scene := by
  obtain ⟨_, _, -, hw, hc, -⟩ := h.scene
  rw [hw, hc]

theorem of_scene (h : AlignedWith find c w) (hs : w'.scene = w.scene) (hd : w'.Decided) :
    AlignedWith find c w' :=
  ⟨by rw [hs]; exact h.scene, h.position, hd⟩

theorem advance (h : AlignedWith find c w) : AlignedWith find c.advance.1 w := by
  refine ⟨?_, ?_, h.decided⟩
  · rw [c.advance_scene, c.advance_lines]
    exact h.scene
  · rw [c.advance_lines]
    exact c.advance_position_le h.position

end AlignedWith

namespace Session

variable {s t : Session} {w : World} {id : String} {eager : Bool}

/-- If a game is running, its world and the cursor are in one scene of the story. -/
def Aligned (s : Session) : Prop :=
  ∀ w, s.world = some w → AlignedWith s.storyScene? s.cursor w

theorem aligned_of_no_world (hw : s.world = none) : s.Aligned := by
  intro w hw'
  rw [hw] at hw'
  cases hw'

theorem Unmoved.aligned (same : s.Unmoved t) (h : s.Aligned) : t.Aligned := by
  intro w hw
  obtain ⟨v, hv, hp⟩ := same.world_some hw
  have := h v hv
  rw [same.cursor, same.abreast.storyScene?_eq]
  exact this.of_scene (World.place_eq_iff.1 hp).1 (this.decided.of_place hp)

theorem Aligned.resolve (h : s.Aligned) (id : String) : (s.resolve id).value.Aligned := by
  rw [resolve_value]
  split
  · intro w hw
    obtain ⟨v, hv, rfl⟩ := Option.map_eq_some_iff.1 hw
    exact (h v hv).of_scene rfl rfl
  · exact h

/-- A game that is not over has no outcome. -/
def Decided (s : Session) : Prop := ∀ w, s.world = some w → w.Decided

theorem Aligned.toDecided (h : s.Aligned) : s.Decided := fun w hw => (h w hw).decided

theorem aligned_journey :
    Journey (fun s id => s.Decided ∧ (s.storyScene? id = none → s.Aligned)) (fun _ s => s.Aligned)
      Aligned (fun _ => True) where
  lost h hn := ⟨h.2 hn, trivial⟩
  arrives {s id scene} h hp hs := by
    obtain ⟨w, hw, ht⟩ := state_eq_playing_iff.1 hp
    refine (arrive_ensures hw scene).mono ?_ fun _ _ => trivial
    rintro _ ⟨_, ⟨items, flags, rfl⟩, rfl⟩ w' hw'
    cases hw'
    exact ⟨⟨id, scene, hs, rfl, rfl, rfl⟩, Nat.zero_le _, h.1 w hw⟩
  resolves h _ _ := ⟨h.resolve _, fun _ _ => trivial⟩
  leads h _ _ := ⟨h.toDecided, fun _ => h⟩
  rests h _ := h
  quiet _ := trivial

theorem Aligned.goTo (h : s.Aligned) (id : String) : (s.goTo id).value.Aligned := by
  by_cases hp : s.state = .playing
  · exact (aligned_journey.enter ⟨h.toDecided, fun _ => h⟩ hp).value
  · rw [Session.goTo, enter_of_not_playing hp]
    exact h

theorem Aligned.start (h : s.Aligned) : s.start.value.1.Aligned := by
  rcases s.start_cases with ⟨error, he⟩ | ⟨story, scene, hs, hscene, he⟩
  · rw [he]
    exact h
  · have found : (s.fresh story).storyScene? story.start = some scene := by
      rw [storyScene?, fresh, hs]
      exact hscene
    have decided : (s.fresh story).Decided := by
      intro w hw
      cases hw
      rfl
    rw [he]
    refine (aligned_journey.enter ⟨decided, fun hn => ?_⟩ rfl).value
    rw [found] at hn
    cases hn

theorem aligned_bind (s : Session) (story : Story) : (s.bind story).value.Aligned :=
  aligned_of_no_world (s.bind_ensures story).value.2.1

theorem Aligned.advanceCursor (h : s.Aligned) :
    Aligned { s with cursor := s.cursor.advance.1 } := fun w hw => (h w hw).advance

theorem Aligned.advance (h : s.Aligned) : s.advance.value.Aligned := by
  rcases s.advance_cases with ⟨-, he⟩ | ⟨-, -, he⟩ | ⟨scene, hp, -, -, he⟩
  · rw [he]
    exact h
  · rw [he]
    exact h.advanceCursor
  · rw [he]
    exact (aligned_journey.follow _ h.advanceCursor hp).value

theorem Aligned.makeChoice (h : s.Aligned) (choice : Choice) :
    (s.makeChoice choice).value.Aligned := by
  by_cases hp : s.state = .playing
  · have applied := (s.applyAction?_unmoved choice.action).value.aligned h
    rw [makeChoice_of_playing hp]
    simp only [Traced.value_bind]
    split
    · exact applied.resolve _
    · exact applied.goTo _
    · exact applied
  · rw [makeChoice_of_not_playing hp]
    exact h

theorem Aligned.leaveOutcome (h : s.Aligned) (hw : s.world = some w) :
    Aligned { s with world := some w.leaveOutcome } := by
  intro w' hw'
  cases hw'
  exact (h w hw).of_scene rfl rfl

theorem Aligned.reset (h : s.Aligned) : s.reset.value.Aligned := by
  rcases s.reset_cases with ⟨-, he⟩ | ⟨w, hw, -, he⟩
  · rw [he]
    exact h
  · rw [he]
    exact h.leaveOutcome hw

theorem Aligned.step (h : s.Aligned) (step : SessionStep) : (s.step step).value.1.Aligned := by
  cases step with
  | load loaded =>
      show (s.load loaded).value.1.Aligned
      rcases s.load_value loaded with hv | ⟨story, -, hv⟩
      · rw [hv]
        exact h
      · rw [hv]
        exact s.aligned_bind story
  | bind story => exact s.aligned_bind story
  | start => exact h.start
  | setName name =>
      simp only [Session.step, Traced.value_bind, Traced.value_pure]
      exact (s.setName_unmoved name).value.aligned h
  | setPortrait portrait => exact (s.setPortrait_unmoved portrait).aligned h
  | advance => exact h.advance
  | goTo scene => exact h.goTo scene
  | makeChoice choice => exact h.makeChoice choice
  | choose index =>
      show (s.choose index).value.1.Aligned
      rcases s.choose_cases index with he | ⟨choice, -, he⟩
      · rw [he]
        exact h
      · rw [he]
        exact h.makeChoice choice
  | reset => exact h.reset
  | continueOn =>
      show s.continueOn.value.1.Aligned
      rcases s.continueOn_cases with he | ⟨_, next, -, -, ⟨-, he⟩ | ⟨_, -, he⟩⟩
      · rw [he]
        exact h
      · rw [he]
        exact h
      · rw [he]
        exact h.reset.goTo next
  | interact object => exact (s.interact_unmoved object).value.aligned h

theorem Reached.aligned (h : Reached s) : s.Aligned := by
  induction h with
  | new => exact aligned_of_no_world rfl
  | step _ step ih => exact ih.step step

/-- The player is in the scene of the cursor. -/
theorem Aligned.scene?_eq (h : s.Aligned) (hw : s.world = some w) :
    s.scene? = s.storyScene? s.cursor.scene := by
  rw [(h w hw).cursor_scene, scene?, sceneId?, hw]
  rfl

theorem Aligned.outcome_eq_none (h : s.Aligned) (hw : s.world = some w)
    (ht : w.terminal = false) : w.outcome = none := by
  have decided := (h w hw).decided
  rw [World.Decided, ht] at decided
  exact Option.isSome_eq_false_iff.1 decided.symm |> Option.isNone_iff_eq_none.1

/-- In a story that is filed by id the cursor has the lines of the scene that the player is in. -/
theorem Aligned.lines_eq (h : s.Aligned) {scene : Scene} (hw : s.world = some w)
    (filed : ∀ {key scene}, s.storyScene? key = some scene → scene.id = key)
    (hs : s.scene? = some scene) : s.cursor.lines = scene.dialogue := by
  obtain ⟨key, found, hf, -, hc, hl⟩ := (h w hw).scene
  rw [h.scene?_eq hw, hc, filed hf, hf] at hs
  cases hs
  exact hl

end Session

end VisualNovel
