import VisualNovel.Proofs.Interaction
import VisualNovel.Session.Roster

/-!
# What is refused leaves no mark

A session refuses a step by its answer, by a word in the log, or by doing nothing at all. Each step
has its own tests for that, some of them several look-ups deep, and each has to make them before it
changes anything. It does: after a refusal the session is the very same, player, world, cursor and
all, and no action has been handed over.

One step cannot be refused as a whole. A choice has its action carried out before its target is
looked up, so when the target is not there, what the action did to the player's items and flags
stays; nothing else has changed.
-/

namespace VisualNovel

open Traced (Ensures)

namespace Session

variable {s : Session}

/-- The step is one that the session refuses. -/
def Refuses (s : Session) : SessionStep → Prop
  | .load loaded => ∃ error, (s.load loaded).value.2 = .error error
  | .start => ∃ error, s.start.value.2 = .error error
  | .setName name => (s.setName name).value.2 = false
  | .choose index => (s.choose index).value.2 = false
  | .goTo id => s.storyScene? id = none ∨ s.state ≠ .playing
  | .makeChoice _ => s.state ≠ .playing
  | .interact id =>
    (∃ required, (s.interact id).value.2 = .locked required) ∨
      (s.interact id).value.2 = .unavailable
  | .reset => s.state ≠ .resolved
  | .advance => s.world = none ∨ s.cursor.isExhausted = true
  | .bind _ | .setPortrait _ | .continueOn => False

/-- What a choice leads to is not there: its outcome is not defined, or it has none and its next
scene is not defined, or it has neither. -/
def Lost (s : Session) (choice : Choice) : Prop :=
  match choice.outcome, choice.next with
  | some outcome, _ => s.story.bind (·.outcome? outcome) = none
  | none, some next => s.storyScene? next = none
  | none, none => True

/-! ## Refusals one by one -/

theorem load_of_refused {loaded : Loaded} {error : SessionError}
    (h : (s.load loaded).value.2 = .error error) :
    (s.load loaded).Ensures (·.1 = s) (·.isLogged) := by
  unfold load at h ⊢
  cases hr : loaded.result with
  | error e =>
      refine .bind (P := fun _ => True) ⟨trivial, ?_⟩ fun _ _ => .pure rfl
      simp [Traced.logAll, Note.isLogged]
  | ok story =>
      rw [hr] at h
      cases h

theorem start_of_refused {error : SessionError} (h : s.start.value.2 = .error error) :
    s.start.Ensures (·.1 = s) (·.isLogged) := by
  rcases s.start_cases with ⟨error, he⟩ | ⟨story, scene, -, -, he⟩
  · rw [he]
    exact .pure rfl
  · rw [he] at h
    cases h

theorem setName_of_refused {name : String} (h : (s.setName name).value.2 = false) :
    (s.setName name).Ensures (·.1 = s) (·.isLogged) := by
  unfold setName at h ⊢
  dsimp only at h ⊢
  split
  · exact .log rfl (.pure rfl)
  · next hb =>
      rw [if_neg hb] at h
      split
      · exact .log rfl (.pure rfl)
      · next hc =>
          rw [if_neg hc] at h
          cases h

theorem choose_of_refused {index : Nat} (h : (s.choose index).value.2 = false) :
    (s.choose index).Ensures (·.1 = s) (·.isLogged) := by
  rcases s.choose_cases index with he | ⟨choice, -, he⟩
  · rw [he]
    exact .log rfl (.pure rfl)
  · rw [he] at h
    cases h

theorem goTo_of_refused {id : String} (h : s.storyScene? id = none ∨ s.state ≠ .playing) :
    (s.goTo id).Ensures (· = s) (·.isLogged) := by
  by_cases hp : s.state = .playing
  · have lost : s.storyScene? id = none := h.resolve_right fun hn => hn hp
    refine (enterWith_of_unknown hp lost).mono (fun _ h => h) fun note hn => ?_
    rw [hn]
    rfl
  · rw [goTo, enter_of_not_playing hp]
    exact .log rfl (.pure rfl)

theorem makeChoice_of_refused (h : s.state ≠ .playing) (choice : Choice) :
    (s.makeChoice choice).Ensures (· = s) (·.isLogged) := by
  rw [makeChoice_of_not_playing h]
  exact .log rfl (.pure rfl)

theorem interact_of_refused {id : String}
    (h : ∀ yielded, (s.interact id).value.2 ≠ .done yielded) :
    (s.interact id).Ensures (·.1 = s) (·.isLogged) := by
  rcases s.interact_cases id with refused | ⟨w, scene, object, -, -, -, -, -, he⟩
  · exact refused.mono (fun _ h => h.1) fun _ h => h
  · rw [he, useObject_value] at h
    exact absurd rfl (h _)

theorem reset_of_refused (h : s.state ≠ .resolved) : s.reset.Ensures (· = s) (·.isLogged) := by
  rw [reset_of_not_resolved h]
  exact .log rfl (.pure rfl)

theorem advance_of_refused (h : s.world = none ∨ s.cursor.isExhausted = true) :
    s.advance.Ensures (· = s) (·.isLogged) := by
  cases hw : s.world with
  | none =>
      rw [advance_of_no_world hw]
      exact .log rfl (.pure rfl)
  | some w =>
      have exhausted : s.cursor.isExhausted = true := h.resolve_left (by simp [hw])
      have rests : s.cursor.advance = (s.cursor, false) := if_pos exhausted
      rw [advance_of_quiet hw (.inl (by rw [rests])), rests]
      exact .pure rfl

theorem applyTo_of_refused {r : Roster} (h : (r.applyTo s).value.2 = false) :
    (r.applyTo s).Ensures (·.1 = s) (·.isLogged) := by
  have refused : (s.setName r.current.name).value.2 = false := by
    unfold Roster.applyTo at h
    rw [Traced.value_bind] at h
    generalize (s.setName r.current.name).value = taken at h
    obtain ⟨t, _ | _⟩ := taken
    · rfl
    · cases h
  unfold Roster.applyTo
  refine .bind ((setName_of_refused refused).and_value (Q := (·.2 = false)) refused) ?_
  rintro ⟨t, accepted⟩ ⟨same, rfl⟩
  exact .pure same

/-- One step. -/
theorem step_of_refused {step : SessionStep} (h : s.Refuses step) :
    (s.step step).Ensures (·.1 = s) (·.isLogged) := by
  cases step with
  | load loaded =>
      obtain ⟨error, h⟩ := h
      exact .bind (load_of_refused h) fun _ h => .pure h
  | bind | setPortrait | continueOn => cases h
  | start =>
      obtain ⟨error, h⟩ := h
      exact .bind (start_of_refused h) fun _ h => .pure h
  | setName name => exact .bind (setName_of_refused h) fun _ h => .pure h
  | advance => exact .bind (advance_of_refused h) fun _ h => .pure h
  | goTo scene => exact .bind (goTo_of_refused h) fun _ h => .pure h
  | makeChoice choice => exact .bind (makeChoice_of_refused h choice) fun _ h => .pure h
  | choose index => exact .bind (choose_of_refused h) fun _ h => .pure h
  | reset => exact .bind (reset_of_refused h) fun _ h => .pure h
  | interact object =>
      refine .bind (interact_of_refused fun yielded hd => ?_) fun _ h => .pure h
      rcases h with ⟨required, h⟩ | h
      · rw [hd] at h
        cases h
      · rw [hd] at h
        cases h

/-! ## Choices without a target -/

theorem resolve_of_undefined {id : String} (h : s.story.bind (·.outcome? id) = none) :
    s.resolve id = (do Traced.log (.outcomeNotFound id); return s) := by
  cases hs : s.story with
  | none => simp [resolve, hs]
  | some story =>
      rw [hs] at h
      refine resolve_of_unknown hs ?_
      rw [Catalog.contains_eq_isSome]
      exact congrArg Option.isSome h

/-- All that comes of a choice without a target is what comes of its action. -/
theorem makeChoice_of_lost {choice : Choice} (hp : s.state = .playing) (hl : s.Lost choice) :
    (s.makeChoice choice).value = (s.applyAction? choice.action).value := by
  have story := (s.applyAction?_unmoved choice.action).value.story
  rw [makeChoice_of_playing hp, Traced.value_bind, Traced.value_bind]
  cases ho : choice.outcome with
  | some outcome =>
      simp only [Lost, ho] at hl
      rw [← story] at hl
      exact congrArg (·.value) (resolve_of_undefined hl)
  | none =>
      cases hn : choice.next with
      | some next =>
          simp only [Lost, ho, hn, storyScene?] at hl
          rw [← story] at hl
          exact (goTo_of_refused (.inl hl)).value
      | none => rfl

/-- Whatever a session refuses leaves it as it is and calls no handler: a step, or a character of a
roster that is to become the player. Of a choice whose target is not there nothing stays but what
its action did to the player's items and flags. -/
theorem refused_changes_nothing (s : Session) :
    (∀ step, s.Refuses step → (s.step step).value.1 = s ∧ (s.step step).actions = []) ∧
    (∀ r : Roster, (r.applyTo s).value.2 = false →
      (r.applyTo s).value.1 = s ∧ (r.applyTo s).actions = []) ∧
    ∀ choice, s.state = .playing → s.Lost choice →
      ∃ w items flags, s.world = some w ∧
        (s.applyAction? choice.action).value = { s with world := some { w with items, flags } } ∧
        (s.makeChoice choice).value = (s.applyAction? choice.action).value := by
  refine ⟨fun step h => ?_, fun r h => ?_, fun choice hp hl => ?_⟩
  · have refused := step_of_refused h
    exact ⟨refused.value, Traced.actions_eq_nil_of_isLogged refused.notes⟩
  · have refused := applyTo_of_refused h
    exact ⟨refused.value, Traced.actions_eq_nil_of_isLogged refused.notes⟩
  · obtain ⟨w, hw, -⟩ := state_eq_playing_iff.1 hp
    obtain ⟨-, ⟨items, flags, rfl⟩, ha⟩ := (applyAction?_ensures hw choice.action).value
    exact ⟨w, items, flags, hw, ha, makeChoice_of_lost hp hl⟩

/-- A session whose player has just landed at the lighthouse. -/
def onShore : Session := ((new {}).run [.bind Story.lighthouse, .start]).value

/-- Things to try in vain on the shore: the door is locked, there is nothing to read, and so on. -/
def vain : List SessionStep :=
  [.interact "door", .interact "oar", .advance, .choose 1, .goTo "cellar", .reset, .setName " "]

theorem vain_refused : ∀ step ∈ vain, onShore.Refuses step := by
  simp only [vain, List.forall_mem_cons, Refuses]
  exact ⟨.inl ⟨"key", by decide +kernel⟩, .inr (by decide +kernel), .inr (by decide +kernel),
    by decide +kernel, .inl (by decide +kernel), by decide +kernel, by decide +kernel, nofun⟩

theorem refused_changes_nothing_lighthouse :
    (∀ step ∈ vain, onShore.Refuses step ∧ (onShore.step step).value.1 = onShore ∧
      (onShore.step step).actions = []) ∧
    onShore.Lost { action := some (.addItem "oar"), next := some "cellar" } ∧
    ∃ w items flags, onShore.world = some w ∧
      (onShore.makeChoice { action := some (.addItem "oar"), next := some "cellar" }).value =
        { onShore with world := some { w with items, flags } } := by
  obtain ⟨refused, -, lost⟩ := refused_changes_nothing onShore
  have nowhere : onShore.Lost { action := some (.addItem "oar"), next := some "cellar" } := by
    show onShore.storyScene? "cellar" = none
    decide +kernel
  obtain ⟨w, items, flags, hw, ha, he⟩ := lost _ (by decide +kernel) nowhere
  exact ⟨fun step hm => ⟨vain_refused step hm, refused step (vain_refused step hm)⟩, nowhere,
    w, items, flags, hw, he.trans ha⟩

end Session

end VisualNovel
