import VisualNovel.Proofs.Chain

/-!
# Going on after an outcome

A session that goes on leaves the outcome, moves to the scene behind it, and then compares the scene
it is in with the one it moved to. The move leads through a whole chain of scenes, so the comparison
is one with the last of them. Where nothing stops the chain at its first scene, the answer is that
the session has not gone on, although the outcome is gone and the player is somewhere else
(`continueOn_false_on_the_way`). Where there is nothing to go on to, the answer is the same and the
session is as it was.
-/

namespace VisualNovel

/-- A story in which whoever misses the ferry waits through the night for the next one. -/
def Story.nightFerry : Story :=
  (blank "The night ferry" "quay")
    |>.addScene
      { id := "quay"
        dialogue := [{ text := "The last ferry of the day." }]
        choices := [{ text := "Wait", outcome := some "stranded" }] }
    |>.addScene (.passing "night" "morning")
    |>.addScene { id := "morning", dialogue := [{ text := "Another ferry comes in." }] }
    |>.addOutcome "stranded" { message := "Too late.", next := some "night" }

namespace Session

variable {s : Session} {story : Story} {first : Scene} {next : String}

/-- A session that has reached an outcome is resolved. -/
theorem Aligned.terminal_of_outcome? (h : s.Aligned) {outcome : Outcome}
    (ho : s.outcome? = some outcome) : ∃ w, s.world = some w ∧ w.terminal = true := by
  obtain ⟨w, id, hw, hid, -⟩ := outcome?_eq_some ho
  refine ⟨w, hw, ?_⟩
  rw [(h w hw).decided, hid]
  rfl

theorem continueOn_value {w : World} {scene : Scene} (hw : s.world = some w)
    (ht : w.terminal = true) (hn : s.outcome?.bind (·.next) = some next)
    (hs : s.storyScene? next = some scene) :
    s.continueOn.value =
      let t := (goTo { s with world := some w.leaveOutcome } next).value
      (t, t.sceneId? == some next) := by
  rw [continueOn_of_scene hn hs, reset_of_terminal hw ht]
  rfl

/-- Going on leads through the chain that begins in the scene behind the outcome, and the answer is
whether the chain ends in the scene that was asked for. -/
theorem continueOn_answers (reached : Reached s) (bound : s.story = some story) :
    (s.outcome?.bind (·.next) = none → s.continueOn.value = (s, false)) ∧
    ∀ next, s.outcome?.bind (·.next) = some next →
      (story.scene? next = none → s.continueOn.value = (s, false)) ∧
      ∀ first, story.scene? next = some first →
        ∃ w path last, s.world = some w ∧ w.terminal = true ∧
          story.Chain s.config.maxAutoHops first path ∧ path.getLast? = some last ∧
          s.continueOn.value.1 =
            (goTo { s with world := some { w with terminal := false, outcome := none } }
              next).value ∧
          s.continueOn.value.1.cursor = .start last ∧
          s.continueOn.value.1.world.map World.place =
            some ⟨last.id, (story.settles? last).isSome, story.settles? last⟩ ∧
          (s.continueOn.value.2 = true ↔ last.id = next) := by
  refine ⟨fun hn => by rw [continueOn_of_no_next hn]; rfl, fun next hn => ⟨fun hs => ?_,
    fun first hs => ?_⟩⟩
  · rw [continueOn_of_unknown hn ((Region.storyScene?_eq bound next).trans hs)]
    rfl
  · obtain ⟨outcome, ho, -⟩ := Option.bind_eq_some_iff.1 hn
    obtain ⟨w, hw, ht⟩ := reached.aligned.terminal_of_outcome? ho
    have playing : state { s with world := some w.leaveOutcome } = .playing :=
      state_eq_playing_iff.2 ⟨_, rfl, rfl⟩
    obtain ⟨stands, -⟩ := goTo_chain ((reached.aligned.leaveOutcome hw).ready bound playing) hs
    rw [continueOn_value hw ht hn ((Region.storyScene?_eq bound next).trans hs)]
    refine ⟨w, _, _, hw, ht, story.chain_spec _ first, story.getLast?_chain _ first, rfl,
      stands.cursor, stands.place, ?_⟩
    show (sceneId? _ == some next) = true ↔ _
    rw [stands.sceneId?_eq, beq_iff_eq, Option.some_inj]

/-- A session that has missed the last ferry of the day. -/
def strandedAtNight : Session :=
  ((new {}).run [.bind Story.nightFerry, .start, .choose 0]).value

theorem continueOn_answers_nightFerry :
    strandedAtNight.state = .resolved ∧
      strandedAtNight.continueOn.value.1.cursor.scene = "morning" ∧
      ¬ strandedAtNight.continueOn.value.2 = true := by
  have reached : Reached strandedAtNight := (Reached.new _ _).run _
  obtain ⟨-, goesOn⟩ := continueOn_answers reached rfl
  obtain ⟨w, path, last, hw, ht, chain, hlast, -, cursor, -, answer⟩ :=
    (goesOn "night" rfl).2 _ rfl
  rw [chain.eq] at hlast
  cases hlast
  refine ⟨state_eq_resolved_iff.2 ⟨w, hw, ht⟩, by rw [cursor]; rfl, fun h => ?_⟩
  exact absurd (answer.1 h) (by decide)

/-- The answer may be that the session has not gone on when it is in fact playing on. -/
theorem continueOn_false_on_the_way :
    ∃ s next scene, Reached s ∧ s.state = .resolved ∧ s.outcome?.bind (·.next) = some next ∧
      s.storyScene? next = some scene ∧ s.continueOn.value.2 = false ∧
      s.continueOn.value.1.state = .playing ∧ s.continueOn.value.1 ≠ s := by
  refine ⟨strandedAtNight, "night", _, (Reached.new _ _).run _, by decide +kernel, rfl, rfl,
    by decide +kernel, by decide +kernel, fun same => ?_⟩
  have state := congrArg Session.state same
  exact absurd state (by decide +kernel)

end Session

end VisualNovel
