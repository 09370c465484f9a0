import Mathlib.Data.List.Chain
import VisualNovel.Proofs.Alignment
import VisualNovel.Proofs.Coherence

/-!
# Where a session comes to through scenes without dialogue

Entering a scene and running its continuation call each other, with the transitions that are left
handed on from call to call. What that comes to can be said without them. A scene with nothing to
read passes on to the scene it leads to, if that is there (`Story.passesTo?`). From the scene that
is entered first one follows these links, at most as many as there are transitions allowed, in
circles if need be (`Story.Chain`). The session enters the scenes of this chain in their order and
is in the last of them in the end.

The chain is unique, so it can be computed by recursion on the transitions left, which is the
recursion of the session as well (`enterWith_chain`). Two places want care. A transition that is
left over at the limit is logged even where it leads nowhere, for the limit is looked at first. And
a scene that stands for an outcome reaches it on arrival, dialogue or not.
-/

namespace VisualNovel

open Traced (Ensures)

/-! ## Chains of scenes -/

/-- A scene with nothing in it but the way on. -/
def Scene.passing (id next : String) : Scene := { id, autoTransition := some next }

namespace Story

variable {story : Story} {hops : Nat} {first scene : Scene} {path : List Scene}

/-- The scene that takes over at once from a scene with nothing to read. -/
def passesTo? (story : Story) (scene : Scene) : Option Scene :=
  match scene.dialogue, scene.continuation with
  | [], .autoTransition next => story.scene? next
  | _, _ => none

/-- What one comes through from a scene on with at most `hops` transitions. -/
structure Chain (story : Story) (hops : Nat) (first : Scene) (path : List Scene) : Prop where
  head : path.head? = some first
  linked : path.IsChain fun a b => story.passesTo? a = some b
  length_le : path.length ≤ hops + 1
  /-- It breaks off only where no transition is left. -/
  ends : ∀ last ∈ path.getLast?, path.length ≤ hops → story.passesTo? last = none

/-- The chain, one transition at a time. -/
def chain (story : Story) : Nat → Scene → List Scene
  | 0, scene => [scene]
  | hops + 1, scene =>
    match story.passesTo? scene with
    | none => [scene]
    | some next => scene :: story.chain hops next

/-- The last scene of the chain. -/
def chainEnd (story : Story) : Nat → Scene → Scene
  | 0, scene => scene
  | hops + 1, scene =>
    match story.passesTo? scene with
    | none => scene
    | some next => story.chainEnd hops next

/-- Two scenes without dialogue that pass on to each other. -/
def carousel : Story :=
  (blank "The carousel" "gate")
    |>.addScene { id := "gate", dialogue := [{ text := "Round and round it goes." }] }
    |>.addScene (.passing "horse" "swan")
    |>.addScene (.passing "swan" "horse")

theorem chain_of_ends (h : story.passesTo? scene = none) (hops : Nat) :
    story.chain hops scene = [scene] ∧ story.chainEnd hops scene = scene := by
  cases hops with
  | zero => exact ⟨rfl, rfl⟩
  | succ hops => simp [chain, chainEnd, h]

theorem chain_of_passes {next : Scene} (h : story.passesTo? scene = some next) (hops : Nat) :
    story.chain (hops + 1) scene = scene :: story.chain hops next ∧
      story.chainEnd (hops + 1) scene = story.chainEnd hops next := by
  simp [chain, chainEnd, h]

theorem exists_chain_eq_cons (story : Story) (hops : Nat) (scene : Scene) :
    ∃ rest, story.chain hops scene = scene :: rest := by
  cases hops with
  | zero => exact ⟨[], rfl⟩
  | succ hops =>
      cases h : story.passesTo? scene with
      | none => exact ⟨[], (chain_of_ends h _).1⟩
      | some next => exact ⟨_, (chain_of_passes h hops).1⟩

theorem getLast?_chain (story : Story) (hops : Nat) (scene : Scene) :
    (story.chain hops scene).getLast? = some (story.chainEnd hops scene) := by
  induction hops generalizing scene with
  | zero => rfl
  | succ hops ih =>
      cases h : story.passesTo? scene with
      | none =>
          obtain ⟨hc, he⟩ := chain_of_ends h (hops + 1)
          rw [hc, he]
          rfl
      | some next =>
          obtain ⟨hc, he⟩ := chain_of_passes h hops
          obtain ⟨rest, hr⟩ := story.exists_chain_eq_cons hops next
          rw [hc, he, ← ih next, hr, List.getLast?_cons_cons]

theorem chain_spec (story : Story) (hops : Nat) (scene : Scene) :
    story.Chain hops scene (story.chain hops scene) := by
  induction hops generalizing scene with
  | zero => exact ⟨rfl, .singleton _, Nat.le_refl _, fun _ _ h => absurd h (by simp [chain])⟩
  | succ hops ih =>
      cases h : story.passesTo? scene with
      | none =>
          rw [(chain_of_ends h _).1]
          refine ⟨rfl, .singleton _, by simp, fun last hl _ => ?_⟩
          cases hl
          exact h
      | some next =>
          obtain ⟨-, linked, length, ends⟩ := ih next
          obtain ⟨rest, hr⟩ := story.exists_chain_eq_cons hops next
          rw [(chain_of_passes h hops).1]
          rw [hr] at linked length ends ⊢
          refine ⟨rfl, List.isChain_cons_cons.2 ⟨h, linked⟩, by simpa using length, ?_⟩
          intro last hl hle
          rw [List.getLast?_cons_cons] at hl
          exact ends last hl (Nat.le_of_succ_le_succ hle)

theorem exists_key_of_passesTo? {next : Scene} (h : story.passesTo? scene = some next) :
    ∃ key, story.scene? key = some next := by
  unfold passesTo? at h
  split at h
  · exact ⟨_, h⟩
  · cases h

/-- A chain leads through the story that it begins in. -/
theorem exists_key_chainEnd {key : String} (hops : Nat) (hs : story.scene? key = some scene) :
    ∃ key, story.scene? key = some (story.chainEnd hops scene) := by
  induction hops generalizing key scene with
  | zero => exact ⟨key, hs⟩
  | succ hops ih =>
      cases h : story.passesTo? scene with
      | none =>
          rw [(chain_of_ends h _).2]
          exact ⟨key, hs⟩
      | some next =>
          rw [(chain_of_passes h hops).2]
          obtain ⟨key, hk⟩ := exists_key_of_passesTo? h
          exact ih hk

theorem Chain.eq (h : story.Chain hops first path) : path = story.chain hops first := by
  induction hops generalizing first path with
  | zero =>
      match path, h with
      | [a], h =>
          cases h.head
          rfl
      | _ :: _ :: _, h =>
          have := h.length_le
          simp at this
      | [], h => cases h.head
  | succ hops ih =>
      match path, h with
      | [], h => cases h.head
      | [a], h =>
          cases h.head
          exact (chain_of_ends (h.ends first rfl (by simp)) _).1.symm
      | a :: b :: path, h =>
          cases h.head
          obtain ⟨passes, linked⟩ := List.isChain_cons_cons.1 h.linked
          have rest : story.Chain hops b (b :: path) := by
            refine ⟨rfl, linked, Nat.le_of_succ_le_succ h.length_le, fun last hl hle => ?_⟩
            exact h.ends last (List.getLast?_cons_cons.trans hl) (Nat.succ_le_succ hle)
          rw [(chain_of_passes passes hops).1, ih rest]

end Story

/-! ## What a chain comes to -/

namespace Scene

variable {s : Scene}

/-- Whether there is nothing to read and a transition to be made, wherever it leads. -/
def passesOn (s : Scene) : Bool :=
  match s.dialogue, s.continuation with
  | [], .autoTransition _ => true
  | _, _ => false

theorem passesOn_iff :
    s.passesOn = true ↔ s.dialogue = [] ∧ ∃ next, s.continuation = .autoTransition next := by
  unfold passesOn
  split
  · next hd hc => simp [hd, hc]
  · next hn => exact ⟨nofun, fun ⟨hd, next, hc⟩ => (hn next hd hc).elim⟩

theorem passesOn_eq_false (h : ∀ next, s.dialogue = [] → s.continuation ≠ .autoTransition next) :
    s.passesOn = false := by
  rw [← Bool.not_eq_true, passesOn_iff]
  rintro ⟨hd, next, hc⟩
  exact h next hd hc

end Scene

/-- The event of entering the scene. -/
def Scene.entry (s : Scene) : Event := .sceneEntered s.id s.dialogue.length

namespace Story

variable {story : Story} {limit hops : Nat} {scene next : Scene}

theorem passesTo?_of_transition (story : Story) {id : String} (hd : scene.dialogue = [])
    (hc : scene.continuation = .autoTransition id) : story.passesTo? scene = story.scene? id := by
  simp [passesTo?, hd, hc]

theorem passesTo?_eq_none (h : scene.passesOn = false) : story.passesTo? scene = none := by
  unfold passesTo?
  split
  · next hd hc => rw [Scene.passesOn_iff.2 ⟨hd, _, hc⟩] at h; cases h
  · rfl

/-- The outcome that is reached on arrival in the scene. -/
def settles? (story : Story) (scene : Scene) : Option String :=
  match scene.continuation with
  | .outcome id => if story.outcomes.contains id then some id else none
  | _ => none

theorem settles?_eq_some_iff {id : String} : story.settles? scene = some id ↔
    scene.continuation = .outcome id ∧ story.outcomes.contains id = true := by
  unfold settles?
  split
  · next id' hc => grind
  · next hn => exact ⟨nofun, fun ⟨hc, _⟩ => (hn id hc).elim⟩

theorem settles?_eq_none (h : ∀ id, scene.continuation ≠ .outcome id) :
    story.settles? scene = none :=
  Option.eq_none_iff_forall_ne_some.2 fun id hs => h id (settles?_eq_some_iff.1 hs).1

/-- The marks that the way through a chain leaves: one for each scene, and one for the limit if
there is a transition left to make where none is allowed any more. -/
def chainMarks (story : Story) (limit hops : Nat) (first : Scene) : List Event :=
  (story.chain hops first).map Scene.entry ++
    if (story.chain hops first).length = hops + 1 ∧ (story.chainEnd hops first).passesOn = true then
      [.hopLimitReached (story.chainEnd hops first).id limit]
    else []

theorem chainMarks_of_ends (h : story.passesTo? scene = none)
    (ho : hops = 0 → scene.passesOn = false) :
    story.chainMarks limit hops scene = [scene.entry] := by
  obtain ⟨hc, he⟩ := chain_of_ends h hops
  unfold chainMarks
  rw [hc, he, if_neg, List.append_nil]
  · rfl
  · rintro ⟨hl, hp⟩
    rw [ho (by simpa using hl.symm)] at hp
    cases hp

/-- A scene that passes on to none is a chain by itself. -/
theorem chain_of_not_passesOn (story : Story) (h : scene.passesOn = false) (limit hops : Nat) :
    story.chainEnd hops scene = scene ∧ story.chainMarks limit hops scene = [scene.entry] :=
  ⟨(chain_of_ends (passesTo?_eq_none h) hops).2,
    chainMarks_of_ends (passesTo?_eq_none h) fun _ => h⟩

theorem chainMarks_zero (h : scene.passesOn = true) :
    story.chainMarks limit 0 scene = [scene.entry, .hopLimitReached scene.id limit] := by
  simp [chainMarks, chain, chainEnd, h]

theorem chainMarks_of_passes (h : story.passesTo? scene = some next) :
    story.chainMarks limit (hops + 1) scene = scene.entry :: story.chainMarks limit hops next := by
  obtain ⟨hc, he⟩ := chain_of_passes h hops
  simp [chainMarks, hc, he]

end Story

/-! ## Marks in the trace -/

/-- Whether the event marks the way through a chain: a scene that is entered, or the limit. -/
def Event.isMark : Event → Bool
  | .sceneEntered .. | .hopLimitReached .. => true
  | _ => false

theorem Event.isMark_of_isEffect {event : Event} (h : (Note.logged event).isEffect = true) :
    event.isMark = false := by
  cases event with
  | actionApplied | actionIgnored | removedItemNotHeld => rfl
  | _ => cases h

namespace Traced

variable {α β : Type}

/-- The marks of the way in a trace. -/
def marks (t : Traced α) : List Event := t.events.filter Event.isMark

@[simp] theorem marks_pure (a : α) : (pure a : Traced α).marks = [] := rfl

@[simp] theorem marks_bind (x : Traced α) (f : α → Traced β) :
    (x >>= f).marks = x.marks ++ (f x.value).marks := by
  rw [marks, events_bind, List.filter_append]
  rfl

theorem marks_log (event : Event) : (log event).marks = [event].filter Event.isMark := rfl

theorem marks_eq_nil {t : Traced α} (h : ∀ event, .logged event ∈ t.notes → event.isMark = false) :
    t.marks = [] := by
  rw [marks, List.filter_eq_nil_iff]
  intro event he
  rw [h event (mem_events.1 he)]
  exact Bool.false_ne_true

end Traced

namespace Session

open Region (Ready)

variable {s t : Session} {w : World} {story : Story} {scene first : Scene} {id : String}
  {hops : Nat}

/-! ## One leg -/

theorem applyAction?_marks (hw : s.world = some w) (action : Option Action) :
    (s.applyAction? action).marks = [] :=
  Traced.marks_eq_nil fun _ hn =>
    Event.isMark_of_isEffect ((applyAction?_ensures hw action).notes _ hn)

theorem arrive_marks (hw : s.world = some w) (scene : Scene) :
    (s.arrive scene).marks = [scene.entry] := by
  unfold arrive
  dsimp only
  rw [Traced.marks_bind, Traced.marks_log, applyAction?_marks]
  · rfl
  · exact congrArg (Option.map (·.moveTo scene.id)) hw

theorem resolve_marks (s : Session) (id : String) : (s.resolve id).marks = [] := by
  unfold resolve
  split
  · rfl
  · split <;> rfl

theorem follow_of_cut (hp : s.state = .playing) (hc : scene.continuation = .autoTransition id) :
    follow 0 scene s = (do
      Traced.log (.hopLimitReached scene.id s.config.maxAutoHops)
      return s) := by
  rw [follow.eq_def]
  simp only [isTerminal_eq_false hp, hc, Bool.false_eq_true, if_false]

/-- Where there is neither a scene nor an outcome to go on to, following leaves no mark. -/
theorem follow_of_still (hops : Nat) (hp : s.state = .playing)
    (ht : ∀ next, scene.continuation ≠ .autoTransition next)
    (ho : ∀ id, scene.continuation ≠ .outcome id) :
    (follow hops scene s).value = s ∧ (follow hops scene s).marks = [] := by
  rw [follow.eq_def]
  simp only [isTerminal_eq_false hp, Bool.false_eq_true, if_false]
  cases hc : scene.continuation with
  | choices offered =>
      by_cases hv : s.visibleChoices.isEmpty = true <;>
        simp [hv, Traced.marks_log, Event.isMark]
  | autoTransition next => exact absurd hc (ht next)
  | outcome id => exact absurd hc (ho id)
  | ending | deadEnd => exact ⟨rfl, rfl⟩

/-- The session stands at the start of a scene, and has reached this outcome, if any. -/
structure StandsIn (story : Story) (scene : Scene) (outcome : Option String) (s : Session) :
    Prop where
  story : s.story = some story
  cursor : s.cursor = .start scene
  place : s.world.map World.place = some ⟨scene.id, outcome.isSome, outcome⟩

theorem StandsIn.ready (h : s.StandsIn story scene none) : Ready story s := by
  obtain ⟨w, hw, hp⟩ := Option.map_eq_some_iff.1 h.place
  exact ⟨h.story, w, hw, congrArg Place.terminal hp, congrArg Place.outcome hp⟩

theorem StandsIn.playing (h : s.StandsIn story scene none) : s.state = .playing := by
  obtain ⟨-, w, hw, ht, -⟩ := h.ready
  exact state_eq_playing_iff.2 ⟨w, hw, ht⟩

theorem StandsIn.sceneId?_eq {outcome : Option String} (h : s.StandsIn story scene outcome) :
    s.sceneId? = some scene.id := by
  obtain ⟨w, hw, hp⟩ := Option.map_eq_some_iff.1 h.place
  rw [sceneId?, hw]
  exact congrArg (fun place => some place.scene) hp

theorem standsIn_arrive (h : Ready story s) (scene : Scene) :
    (s.arrive scene).value.StandsIn story scene none ∧
      (s.arrive scene).value.config = s.config := by
  obtain ⟨hs, w, hw, ht, ho⟩ := h
  obtain ⟨_, ⟨items, flags, rfl⟩, he⟩ := (arrive_ensures hw scene).value
  rw [he]
  refine ⟨⟨hs, rfl, ?_⟩, rfl⟩
  simp [World.place, World.moveTo, ht, ho]

theorem StandsIn.resolve (h : s.StandsIn story scene none)
    (hc : scene.continuation = .outcome id) :
    (s.resolve id).value.StandsIn story scene (story.settles? scene) := by
  have known : s.story.any (fun story => story.outcomes.contains id) =
      story.outcomes.contains id := by rw [h.story, Option.any_some]
  have settles : story.settles? scene =
      if story.outcomes.contains id then some id else none := by rw [Story.settles?, hc]
  rw [resolve_value, known, settles]
  split
  · obtain ⟨w, hw, hp⟩ := Option.map_eq_some_iff.1 h.place
    have here : w.scene = scene.id := congrArg Place.scene hp
    refine ⟨h.story, h.cursor, ?_⟩
    simp [hw, World.place, World.reach, here]
  · exact h

/-- Where there is neither a scene nor an outcome to go on to, the chain is at its end. -/
theorem StandsIn.still (h : s.StandsIn story scene none)
    (ht : ∀ next, scene.continuation ≠ .autoTransition next)
    (ho : ∀ id, scene.continuation ≠ .outcome id) :
    (follow hops scene s).value.StandsIn story (story.chainEnd hops scene)
        (story.settles? (story.chainEnd hops scene)) ∧
      scene.entry :: (follow hops scene s).marks =
        story.chainMarks s.config.maxAutoHops hops scene := by
  obtain ⟨value, marks⟩ := follow_of_still hops h.playing ht ho
  obtain ⟨last, only⟩ := story.chain_of_not_passesOn
    (Scene.passesOn_eq_false fun next _ => ht next) s.config.maxAutoHops hops
  rw [last, only, value, marks, Story.settles?_eq_none ho]
  exact ⟨h, rfl⟩

/-! ## The whole chain -/

/-- What following comes to behind a scene that has been arrived at. -/
def Follows (story : Story) (hops : Nat) : Prop :=
  ∀ {scene s}, s.StandsIn story scene none → scene.dialogue = [] →
    (∀ id, scene.continuation ≠ .outcome id) →
    (follow hops scene s).value.StandsIn story (story.chainEnd hops scene)
        (story.settles? (story.chainEnd hops scene)) ∧
      scene.entry :: (follow hops scene s).marks = story.chainMarks s.config.maxAutoHops hops scene

/-- A scene that is there is entered, and so are those that it passes on to. -/
theorem enterWith_chain (hf : Follows story hops) (hr : Ready story s)
    (hs : story.scene? id = some first) :
    (enterWith (follow hops) true id s).value.StandsIn story (story.chainEnd hops first)
        (story.settles? (story.chainEnd hops first)) ∧
      (enterWith (follow hops) true id s).marks =
        story.chainMarks s.config.maxAutoHops hops first := by
  have ⟨hstory, w, hw, ht, _⟩ := hr
  have hp : s.state = .playing := state_eq_playing_iff.2 ⟨w, hw, ht⟩
  have found : s.storyScene? id = some first := (Region.storyScene?_eq hstory id).trans hs
  obtain ⟨stands, config⟩ := standsIn_arrive hr first
  rw [enterWith_of_scene hp found, Traced.value_bind, Traced.marks_bind, arrive_marks hw]
  split
  · next outcome hc _ =>
      have only : first.passesOn = false := Scene.passesOn_eq_false fun _ _ h => by
        rw [hc] at h
        cases h
      obtain ⟨last, marks⟩ := story.chain_of_not_passesOn only _ hops
      rw [last, marks, resolve_marks]
      exact ⟨stands.resolve hc, rfl⟩
  · next ho =>
      have ho : ∀ id, first.continuation ≠ .outcome id := fun id hc => ho id hc rfl
      split
      · next hd =>
          rw [← config]
          exact hf stands (List.isEmpty_iff.1 hd) ho
      · next hd =>
          have only : first.passesOn = false := Scene.passesOn_eq_false fun _ h =>
            absurd (List.isEmpty_iff.2 h) hd
          obtain ⟨last, marks⟩ := story.chain_of_not_passesOn only _ hops
          rw [last, marks, Story.settles?_eq_none ho]
          exact ⟨stands, rfl⟩

/-- By induction on the transitions that are left. -/
theorem follows_chain (story : Story) (hops : Nat) : Follows story hops := by
  induction hops with
  | zero =>
      intro scene s h hd ho
      by_cases hn : ∃ next, scene.continuation = .autoTransition next
      · obtain ⟨next, hc⟩ := hn
        have passes : scene.passesOn = true := Scene.passesOn_iff.2 ⟨hd, next, hc⟩
        rw [follow_of_cut h.playing hc, Story.chainMarks_zero passes, Story.chainEnd,
          Story.settles?_eq_none ho]
        exact ⟨h, rfl⟩
      · exact h.still (fun next hc => hn ⟨next, hc⟩) ho
  | succ hops ih =>
      intro scene s h hd ho
      by_cases hn : ∃ next, scene.continuation = .autoTransition next
      · obtain ⟨next, hc⟩ := hn
        have passes := story.passesTo?_of_transition hd hc
        rw [follow_of_autoTransition h.playing hc]
        cases hs : story.scene? next with
        | none =>
            rw [hs] at passes
            have lost : (enterWith (follow hops) true next s).Ensures (· = s)
                (· = .logged (.sceneNotFound next s.sceneId?)) :=
              enterWith_of_unknown h.playing ((Region.storyScene?_eq h.story next).trans hs)
            have quiet : (enterWith (follow hops) true next s).marks = [] :=
              Traced.marks_eq_nil fun event hm => by
                cases lost.notes _ hm
                rfl
            have alone : hops + 1 = 0 → scene.passesOn = false := nofun
            rw [lost.value, quiet, (Story.chain_of_ends passes _).2,
              Story.chainMarks_of_ends passes alone, Story.settles?_eq_none ho]
            exact ⟨h, rfl⟩
        | some b =>
            rw [hs] at passes
            obtain ⟨stands, marks⟩ := enterWith_chain ih h.ready hs
            rw [(Story.chain_of_passes passes hops).2, Story.chainMarks_of_passes passes, marks]
            exact ⟨stands, rfl⟩
      · exact h.still (fun next hc => hn ⟨next, hc⟩) ho

theorem Aligned.ready (h : s.Aligned) (hs : s.story = some story) (hp : s.state = .playing) :
    Ready story s := by
  obtain ⟨w, hw, ht⟩ := state_eq_playing_iff.1 hp
  exact ⟨hs, w, hw, ht, h.outcome_eq_none hw ht⟩

/-- Moving to a scene that is there, as far as the chain behind it leads. -/
theorem goTo_chain (hr : Ready story s) (hs : story.scene? id = some first) :
    (s.goTo id).value.StandsIn story (story.chainEnd s.config.maxAutoHops first)
        (story.settles? (story.chainEnd s.config.maxAutoHops first)) ∧
      (s.goTo id).marks = story.chainMarks s.config.maxAutoHops s.config.maxAutoHops first :=
  enterWith_chain (follows_chain story _) hr hs

/-- Moving to a scene leads through the one chain that begins there, circles or not. Its scenes are
entered in order; the session is at the start of the last one, and has reached an outcome exactly
if that scene stands for one that is defined. The limit shows in the trace exactly if it has been
reached and a transition was still to be made. -/
theorem goTo_follows_chain (reached : Reached s) (playing : s.state = .playing)
    (bound : s.story = some story) (found : story.scene? id = some first) :
    ∃ path last, story.Chain s.config.maxAutoHops first path ∧
      (∀ other, story.Chain s.config.maxAutoHops first other → other = path) ∧
      path.getLast? = some last ∧
      ((s.goTo id).value.sceneId? = some last.id ∧
        (story.Filed → (s.goTo id).value.scene? = some last) ∧
        (s.goTo id).value.cursor = .start last) ∧
      (∀ o, last.continuation = .outcome o → story.outcomes.contains o = true →
        (s.goTo id).value.state = .resolved ∧
          (s.goTo id).value.world.bind (·.outcome) = some o) ∧
      ((¬ ∃ o, last.continuation = .outcome o ∧ story.outcomes.contains o = true) →
        (s.goTo id).value.state = .playing ∧ (s.goTo id).value.world.bind (·.outcome) = none) ∧
      ((path.length = s.config.maxAutoHops + 1 ∧ last.dialogue = [] ∧
          ∃ next, last.continuation = .autoTransition next) →
        (s.goTo id).marks =
          path.map Scene.entry ++ [.hopLimitReached last.id s.config.maxAutoHops]) ∧
      ((¬ (path.length = s.config.maxAutoHops + 1 ∧ last.dialogue = [] ∧
          ∃ next, last.continuation = .autoTransition next)) →
        (s.goTo id).marks = path.map Scene.entry) := by
  obtain ⟨stands, marks⟩ := goTo_chain (reached.aligned.ready bound playing) found
  generalize hlast : story.chainEnd s.config.maxAutoHops first = last at stands
  obtain ⟨w, hw, hp⟩ := Option.map_eq_some_iff.1 stands.place
  obtain ⟨-, hterminal, houtcome⟩ : w.scene = last.id ∧
      w.terminal = (story.settles? last).isSome ∧ w.outcome = story.settles? last :=
    Place.mk.inj hp
  have here := stands.sceneId?_eq
  refine ⟨story.chain s.config.maxAutoHops first, last, story.chain_spec _ _,
    fun other h => h.eq, hlast ▸ story.getLast?_chain _ _, ⟨here, fun filed => ?_, stands.cursor⟩,
    fun o hc hk => ?_, fun hn => ?_, fun cut => ?_, fun free => ?_⟩
  · obtain ⟨key, hkey⟩ := Story.exists_key_chainEnd s.config.maxAutoHops found
    rw [hlast] at hkey
    rw [scene?, here, Option.bind_some, Region.storyScene?_eq stands.story]
    exact filed.scene?_id hkey
  · have settled : story.settles? last = some o := Story.settles?_eq_some_iff.2 ⟨hc, hk⟩
    rw [settled] at hterminal houtcome
    exact ⟨state_eq_resolved_iff.2 ⟨w, hw, hterminal⟩, by rw [hw]; exact houtcome⟩
  · have unsettled : story.settles? last = none :=
      Option.eq_none_iff_forall_ne_some.2 fun o h => hn ⟨o, Story.settles?_eq_some_iff.1 h⟩
    rw [unsettled] at hterminal houtcome
    exact ⟨state_eq_playing_iff.2 ⟨w, hw, hterminal⟩, by rw [hw]; exact houtcome⟩
  · rw [marks, Story.chainMarks, hlast, if_pos ⟨cut.1, Scene.passesOn_iff.2 cut.2⟩]
  · rw [marks, Story.chainMarks, hlast, if_neg, List.append_nil]
    exact fun cut => free ⟨cut.1, Scene.passesOn_iff.1 cut.2⟩

/-- A session in front of a carousel, which it may ride for three transitions. -/
def atCarousel : Session :=
  ((new { maxAutoHops := 3 }).run [.bind Story.carousel, .start]).value

theorem goTo_follows_chain_carousel :
    atCarousel.state = .playing ∧
      (atCarousel.goTo "horse").value.sceneId? = some "swan" ∧
      (atCarousel.goTo "horse").value.state = .playing ∧
      (atCarousel.goTo "horse").marks = [.sceneEntered "horse" 0, .sceneEntered "swan" 0,
        .sceneEntered "horse" 0, .sceneEntered "swan" 0, .hopLimitReached "swan" 3] := by
  have reached : Reached atCarousel := (Reached.new _ _).run _
  have playing : atCarousel.state = .playing := by decide +kernel
  have ride : Story.carousel.Chain 3 (.passing "horse" "swan") [.passing "horse" "swan",
      .passing "swan" "horse", .passing "horse" "swan", .passing "swan" "horse"] := by
    refine ⟨rfl, ?_, by decide, fun _ _ h => absurd h (by decide)⟩
    simp only [List.isChain_cons_cons, List.isChain_singleton]
    exact ⟨rfl, rfl, rfl, trivial⟩
  have mounts : Story.carousel.scene? "horse" = some (.passing "horse" "swan") := rfl
  obtain ⟨path, last, -, only, hlast, ⟨here, -, -⟩, -, unsettled, cut, -⟩ :=
    goTo_follows_chain reached playing rfl mounts
  cases only _ ride
  cases hlast
  refine ⟨playing, here, (unsettled ?_).1, cut ⟨rfl, rfl, _, rfl⟩⟩
  rintro ⟨o, hc, -⟩
  cases hc

end Session

end VisualNovel
