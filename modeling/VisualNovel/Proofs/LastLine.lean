import VisualNovel.Proofs.Alignment
import VisualNovel.Proofs.Reading
import VisualNovel.Proofs.Region

/-!
# What reading the last line leads to

Reading on moves the cursor, and on the step that reads the last line the continuation of the scene
runs. The lines are kept in the cursor and the continuation is looked up by the id there; that both
belong to the scene that the player is in is what alignment says.

A transition from the last line counts against the limit like any other. So the scene behind it is
entered as it would be with a limit of one less, and to say this a session is compared with one that
allows less. On the way nothing reads the limit except to log it, so entering a scene commutes with
changing it (`follow_allowing`), by induction on the transitions that are left.
-/

namespace VisualNovel

/-- A story that leads on by itself from its first line. -/
def Story.spire : Story :=
  (blank "The spire" "stairs")
    |>.addScene
      { id := "stairs"
        dialogue := [{ text := "Two hundred steps." }]
        autoTransition := some "gallery" }
    |>.addScene { id := "gallery", autoTransition := some "bells" }
    |>.addScene { id := "bells", dialogue := [{ text := "One of them is cracked." }] }

namespace Scene

variable {s : Scene}

theorem continuation_of_choices (h : s.choices ≠ []) : s.continuation = .choices s.choices := by
  simp [continuation, h]

theorem continuation_of_autoTransition {next : String} (hc : s.choices = [])
    (ht : s.autoTransition = some next) : s.continuation = .autoTransition next := by
  simp [continuation, hc, ht]

theorem continuation_of_outcome {id : String} (hc : s.choices = [])
    (ht : s.autoTransition = none) (ho : s.outcome = some id) : s.continuation = .outcome id := by
  simp [continuation, hc, ht, ho]

theorem continuation_of_none (hc : s.choices = []) (ht : s.autoTransition = none)
    (ho : s.outcome = none) :
    (∀ next, s.continuation ≠ .autoTransition next) ∧ ∀ id, s.continuation ≠ .outcome id := by
  grind [continuation]

end Scene

namespace Session

variable {s : Session} {w : World} {scene found : Scene} {id next : String} {eager : Bool}

/-! ## Sessions that allow more or less -/

/-- The session with another limit on automatic transitions. -/
def allowing (s : Session) (hops : Nat) : Session :=
  { s with config := { s.config with maxAutoHops := hops } }

theorem resolve_allowing (s : Session) (id : String) (n : Nat) :
    ((s.allowing n).resolve id).value = (s.resolve id).value.allowing n := by
  rw [resolve_value, resolve_value, apply_ite (fun t : Session => t.allowing n)]
  rfl

theorem arrive_allowing (s : Session) (scene : Scene) (n : Nat) :
    ((s.allowing n).arrive scene).value = (s.arrive scene).value.allowing n := by
  unfold arrive
  simp only [Traced.value_bind]
  cases scene.action with
  | none => rfl
  | some action =>
      simp only [applyAction?, applyAction, allowing]
      cases s.world <;> rfl

theorem enterWith_allowing {go : Scene → Session → Traced Session} {n : Nat}
    (hgo : ∀ {scene s}, s.state = .playing →
      (go scene (s.allowing n)).value = (go scene s).value.allowing n)
    (hp : s.state = .playing) :
    (enterWith go eager id (s.allowing n)).value =
      (enterWith go eager id s).value.allowing n := by
  have hp' : (s.allowing n).state = .playing := hp
  cases hs : s.storyScene? id with
  | none =>
      have hs' : (s.allowing n).storyScene? id = none := hs
      rw [(enterWith_of_unknown hp' hs').value, (enterWith_of_unknown hp hs).value]
  | some scene =>
      have hs' : (s.allowing n).storyScene? id = some scene := hs
      rw [enterWith_of_scene hp' hs', enterWith_of_scene hp hs]
      simp only [Traced.value_bind, arrive_allowing]
      split
      · exact resolve_allowing _ _ n
      · split
        · exact hgo (arrive_state hp scene)
        · rfl

theorem follow_allowing_of_rest {hops : Nat} (hp : s.state = .playing)
    (ht : ∀ next, scene.continuation = .autoTransition next → hops = 0) (n : Nat) :
    (follow hops scene (s.allowing n)).value = (follow hops scene s).value.allowing n := by
  have hp' : (s.allowing n).state = .playing := hp
  by_cases ho : ∃ id, scene.continuation = .outcome id
  · obtain ⟨id, hc⟩ := ho
    rw [follow_of_outcome hp' hc, follow_of_outcome hp hc]
    exact resolve_allowing s id n
  · have ho : ∀ id, scene.continuation ≠ .outcome id := fun id hc => ho ⟨id, hc⟩
    obtain ⟨_, -, he⟩ := follow_of_rest hp ht ho
    obtain ⟨_, -, he'⟩ := follow_of_rest hp' ht ho
    rw [he, he']
    rfl

theorem follow_allowing (hops n : Nat) :
    ∀ {scene s}, s.state = .playing →
      (follow hops scene (s.allowing n)).value = (follow hops scene s).value.allowing n := by
  induction hops with
  | zero => exact fun hp => follow_allowing_of_rest hp (fun _ _ => rfl) n
  | succ hops ih =>
      intro scene s hp
      have hp' : (s.allowing n).state = .playing := hp
      by_cases hn : ∃ next, scene.continuation = .autoTransition next
      · obtain ⟨next, hc⟩ := hn
        rw [follow_of_autoTransition hp' hc, follow_of_autoTransition hp hc]
        exact enterWith_allowing ih hp
      · exact follow_allowing_of_rest hp (fun next hc => absurd ⟨next, hc⟩ hn) n

/-! ## The last line -/

/-- The session with one more line read. -/
def oneLineOn (s : Session) : Session :=
  { s with cursor := { s.cursor with position := s.cursor.position + 1 } }

theorem enterWith_oneLineOn {go : Scene → Session → Traced Session} (hp : s.state = .playing)
    (hs : s.storyScene? id = some scene) :
    enterWith go eager id s.oneLineOn = enterWith go eager id s := by
  have hp' : s.oneLineOn.state = .playing := hp
  have hs' : s.oneLineOn.storyScene? id = some scene := hs
  rw [enterWith_of_scene hp' hs', enterWith_of_scene hp hs]
  rfl

section

variable (hw : s.world = some w)

include hw

theorem advance_of_read (h : s.cursor.position = s.cursor.lines.length) :
    s.advance = return s := by
  have rests := Cursor.advance_of_read (Nat.le_of_eq h.symm)
  rw [advance_of_quiet hw (.inl (by rw [rests])), rests]

theorem advance_of_line (h : s.cursor.position + 1 < s.cursor.lines.length) :
    s.advance = return s.oneLineOn := by
  have moves := Cursor.advance_of_line h
  rw [advance_of_quiet hw (.inl (by rw [moves])), moves]
  rfl

theorem advance_of_resolved (h : s.cursor.position + 1 = s.cursor.lines.length)
    (hr : s.state = .resolved) : s.advance = return s.oneLineOn := by
  have terminal : s.isTerminal = true := by rw [isTerminal, hr]; rfl
  rw [advance_of_quiet hw (.inr (.inl terminal)), Cursor.advance_of_last h]
  rfl

end

theorem advance_of_last (h : s.cursor.position + 1 = s.cursor.lines.length)
    (hp : s.state = .playing) (hs : s.storyScene? s.cursor.scene = some scene) :
    s.advance = follow s.config.maxAutoHops scene s.oneLineOn := by
  have moves := Cursor.advance_of_last h
  rw [advance_of_exhausted hp (by rw [moves]) hs, moves]
  rfl

section

variable (hp : s.state = .playing)

include hp

/-- Nothing happens behind the last line unless a transition is made or an outcome is reached. -/
theorem follow_oneLineOn_of_rest {hops : Nat}
    (ht : ∀ next, scene.continuation = .autoTransition next → hops = 0)
    (ho : ∀ id, scene.continuation ≠ .outcome id) :
    (follow hops scene s.oneLineOn).value = s.oneLineOn := by
  have hp' : s.oneLineOn.state = .playing := hp
  obtain ⟨_, -, he⟩ := follow_of_rest hp' ht ho
  rw [he]
  rfl

theorem follow_oneLineOn_of_unknown {hops : Nat} (hc : scene.continuation = .autoTransition next)
    (hs : s.storyScene? next = none) :
    (follow (hops + 1) scene s.oneLineOn).value = s.oneLineOn := by
  have hp' : s.oneLineOn.state = .playing := hp
  have hs' : s.oneLineOn.storyScene? next = none := hs
  rw [follow_of_autoTransition hp' hc]
  exact (enterWith_of_unknown hp' hs').value

/-- A transition from the last line leads where moving to the scene would, had the session one
transition less. -/
theorem follow_oneLineOn_of_scene {hops : Nat} (hc : scene.continuation = .autoTransition next)
    (hs : s.storyScene? next = some found) :
    (follow (hops + 1) scene s.oneLineOn).value =
      ((s.allowing hops).goTo next).value.allowing s.config.maxAutoHops := by
  have hp' : s.oneLineOn.state = .playing := hp
  have fewer : (s.allowing hops).state = .playing := hp
  rw [follow_of_autoTransition hp' hc, enterWith_oneLineOn hp hs]
  exact enterWith_allowing (follow_allowing hops s.config.maxAutoHops) fewer

theorem follow_oneLineOn_of_outcome {hops : Nat} (hw : s.world = some w)
    (hc : scene.continuation = .outcome id) :
    (follow hops scene s.oneLineOn).value =
      if s.story.any (fun story => story.outcomes.contains id) then
        { s.oneLineOn with world := some (w.reach id) }
      else s.oneLineOn := by
  have hp' : s.oneLineOn.state = .playing := hp
  have reached : s.oneLineOn.world.map (·.reach id) = some (w.reach id) :=
    congrArg (Option.map (·.reach id)) hw
  rw [follow_of_outcome hp' hc, resolve_value, reached]
  rfl

end

/-- What reading on does, line by line. Behind the last line come the choices, or the transition,
or the outcome, whichever the scene has first; but nothing does once an outcome is reached. -/
theorem advance_reads_to_the_end {story : Story} (reached : Reached s)
    (bound : s.story = some story) (hw : s.world = some w) :
    s.cursor.position ≤ s.cursor.lines.length ∧
    (s.cursor.position = s.cursor.lines.length → s.advance = return s) ∧
    (s.cursor.position + 1 < s.cursor.lines.length → s.advance = return s.oneLineOn) ∧
    (s.cursor.position + 1 = s.cursor.lines.length → s.state = .resolved →
      s.advance = return s.oneLineOn) ∧
    ∀ scene, s.scene? = some scene →
      (story.Filed → s.cursor.lines = scene.dialogue) ∧
      (s.cursor.position + 1 = s.cursor.lines.length → s.state = .playing →
        (scene.choices ≠ [] → s.advance.value = s.oneLineOn) ∧
        (scene.choices = [] → ∀ next, scene.autoTransition = some next →
          (story.scene? next = none ∨ s.config.maxAutoHops = 0 →
            s.advance.value = s.oneLineOn) ∧
          (story.scene? next ≠ none → ∀ hops, s.config.maxAutoHops = hops + 1 →
            s.advance.value =
              ((s.allowing hops).goTo next).value.allowing s.config.maxAutoHops)) ∧
        (scene.choices = [] → scene.autoTransition = none → ∀ id, scene.outcome = some id →
          (story.outcomes.contains id = true →
            s.advance.value = { s.oneLineOn with
              world := some { w with terminal := true, outcome := some id } }) ∧
          (story.outcomes.contains id = false → s.advance.value = s.oneLineOn)) ∧
        (scene.choices = [] → scene.autoTransition = none → scene.outcome = none →
          s.advance.value = s.oneLineOn)) := by
  have aligned := reached.aligned
  have found := Region.storyScene?_eq bound
  have filed (h : story.Filed) {key scene} (hs : s.storyScene? key = some scene) :
      scene.id = key := h ((found key).symm.trans hs)
  refine ⟨(aligned w hw).position, advance_of_read hw, advance_of_line hw,
    advance_of_resolved hw, fun scene here =>
      ⟨fun h => aligned.lines_eq hw (filed h) here, fun last playing => ?_⟩⟩
  rw [aligned.scene?_eq hw] at here
  rw [advance_of_last last playing here]
  refine ⟨fun hc => ?_, fun hc next ht => ⟨fun stays => ?_, fun there hops hm => ?_⟩,
    fun hc ht id ho => ?_, fun hc ht ho => ?_⟩
  · have chooses := Scene.continuation_of_choices hc
    exact follow_oneLineOn_of_rest playing (by simp [chooses]) (by simp [chooses])
  · have leads := Scene.continuation_of_autoTransition hc ht
    cases hm : s.config.maxAutoHops with
    | zero => exact follow_oneLineOn_of_rest playing (fun _ _ => rfl) (by simp [leads])
    | succ hops =>
        have lost : story.scene? next = none := stays.resolve_right (by simp [hm])
        exact follow_oneLineOn_of_unknown playing leads ((found next).trans lost)
  · have leads := Scene.continuation_of_autoTransition hc ht
    obtain ⟨target, there⟩ := Option.ne_none_iff_exists'.1 there
    rw [hm, follow_oneLineOn_of_scene playing leads ((found next).trans there), hm]
  · have settles := Scene.continuation_of_outcome hc ht ho
    rw [follow_oneLineOn_of_outcome playing hw settles, bound, Option.any_some]
    exact ⟨fun known => if_pos known, fun unknown => if_neg (by simp [unknown])⟩
  · have rests := Scene.continuation_of_none hc ht ho
    exact follow_oneLineOn_of_rest playing (fun next he => absurd he (rests.1 next)) rests.2

/-- A session at the foot of a spire, which may make one transition at a time. -/
def atSpire : Session :=
  ((new { maxAutoHops := 1 }).run [.bind Story.spire, .start]).value

theorem advance_reads_to_the_end_spire :
    atSpire.state = .playing ∧ atSpire.cursor.position = 0 ∧
      atSpire.advance.value =
        ((atSpire.allowing 0).goTo "gallery").value.allowing 1 ∧
      atSpire.advance.value.sceneId? = some "gallery" := by
  have reached : Reached atSpire := (Reached.new _ _).run _
  have playing : atSpire.state = .playing := by decide +kernel
  obtain ⟨w, hw, -⟩ := state_eq_playing_iff.1 playing
  obtain ⟨-, -, -, -, behind⟩ := advance_reads_to_the_end reached rfl hw
  obtain ⟨-, climb, -⟩ := (behind _ rfl).2 rfl playing
  have leads := (climb rfl "gallery" rfl).2 (by decide) 0 rfl
  exact ⟨playing, rfl, leads, by decide +kernel⟩

end Session

end VisualNovel
