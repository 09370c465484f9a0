import VisualNovel.Session.Transition

/-!
# What a result and its trace are known to satisfy

Most of what is proved about sessions has the same two halves: something holds of the session that
comes out, and nothing of some kind stands in the trace. `Traced.Ensures` states both at once, and
the rules here carry the pair through a sequence of effects, so that a proof about a step follows
the text of that step and never looks at how traces are joined.

The effect that every handler shares is worked out first: whatever an action does, it touches the
player's items and flags and nothing else, and it leaves only notes about itself.
-/

namespace VisualNovel

namespace Traced

variable {α β : Type}

theorem mem_events {t : Traced α} {event : Event} :
    event ∈ t.events ↔ .logged event ∈ t.notes := by
  rw [events, List.mem_filterMap]
  constructor
  · rintro ⟨note, hn, he⟩
    split at he
    · cases he
      exact hn
    · cases he
  · exact fun h => ⟨_, h, rfl⟩

theorem actions_eq_nil {t : Traced α} (h : ∀ action, .handled action ∉ t.notes) :
    t.actions = [] := by
  rw [actions, List.filterMap_eq_nil_iff]
  intro note hn
  cases note with
  | logged event => rfl
  | handled action => exact absurd hn (h action)

/-- The result satisfies `P`, and everything in the trace satisfies `N`. -/
structure Ensures (t : Traced α) (P : α → Prop) (N : Note → Prop) : Prop where
  value : P t.value
  notes : ∀ note ∈ t.notes, N note

namespace Ensures

variable {P Q : α → Prop} {R : β → Prop} {N M : Note → Prop}

theorem pure {a : α} (h : P a) : (pure a : Traced α).Ensures P N :=
  ⟨h, fun _ hn => absurd hn List.not_mem_nil⟩

theorem bind {x : Traced α} {f : α → Traced β} (hx : x.Ensures P N)
    (hf : ∀ a, P a → (f a).Ensures R N) : (x >>= f).Ensures R N := by
  refine ⟨(hf x.value hx.value).value, fun note hn => ?_⟩
  rw [notes_bind] at hn
  rcases List.mem_append.1 hn with hn | hn
  · exact hx.notes note hn
  · exact (hf x.value hx.value).notes note hn

theorem mono {x : Traced α} (hx : x.Ensures P N) (hv : ∀ a, P a → Q a)
    (hn : ∀ note, N note → M note) : x.Ensures Q M :=
  ⟨hv _ hx.value, fun note h => hn note (hx.notes note h)⟩

/-- What is known of the value alone can be added to what is known of both. -/
theorem and_value {x : Traced α} (hx : x.Ensures P N) (hv : Q x.value) :
    x.Ensures (fun a => P a ∧ Q a) N :=
  ⟨⟨hx.value, hv⟩, hx.notes⟩

/-- An event is logged, and then something else happens. -/
theorem log {event : Event} {k : Unit → Traced α} (h : N (.logged event))
    (hk : (k ()).Ensures P N) : (Traced.log event >>= k).Ensures P N := by
  refine bind (P := fun _ => True) ⟨trivial, fun note hn => ?_⟩ (fun _ _ => hk)
  rw [List.mem_singleton.1 hn]
  exact h

end Ensures

end Traced

/-! ## Carrying out actions -/

/-- Whether the note is about carrying out an action. -/
def Note.isEffect : Note → Bool
  | .handled _ => true
  | .logged (.actionApplied _) | .logged (.actionIgnored _)
  | .logged (.removedItemNotHeld _) => true
  | .logged _ => false

/-- Another world differs from `w` in the player's items and flags at most. -/
def World.Keeps (w other : World) : Prop :=
  ∃ items flags, other = { w with items, flags }

theorem World.Keeps.refl (w : World) : w.Keeps w := ⟨w.items, w.flags, rfl⟩

open Traced (Ensures)

theorem World.apply_ensures (w : World) (action : Action) :
    (w.apply action).Ensures w.Keeps (·.isEffect) := by
  cases action with
  | addItem item => exact .log rfl (.pure ⟨w.items.add item, w.flags, rfl⟩)
  | removeItem item =>
      have applied : (Traced.log (.actionApplied (Action.removeItem item).token) >>=
          fun _ => pure (w.removeItem item)).Ensures w.Keeps (·.isEffect) :=
        .log rfl (.pure ⟨w.items.erase item, w.flags, rfl⟩)
      simp only [World.apply]
      split
      · exact .log rfl applied
      · exact applied
  | setFlag flag => exact .log rfl (.pure ⟨w.items, w.flags.add flag, rfl⟩)
  | clearFlag flag => exact .log rfl (.pure ⟨w.items, w.flags.erase flag, rfl⟩)
  | custom token => exact .log rfl (.pure (.refl w))

/-- No handler touches more than items and flags. -/
theorem Handler.apply_ensures (h : Handler) (action : Action) (w : World) :
    (h.apply action w).Ensures w.Keeps (·.isEffect) := by
  refine .bind (P := fun _ => True) ⟨trivial, ?_⟩ fun _ _ => ?_
  · simp [Traced.hand, Note.isEffect]
  · match h, action with
    | .builtin, action => exact w.apply_ensures action
    | .recording, .custom token =>
        exact .pure ⟨w.items, w.flags.add (seenFlag token), rfl⟩
    | .recording, .addItem _ | .recording, .removeItem _
    | .recording, .setFlag _ | .recording, .clearFlag _ =>
        exact w.apply_ensures _
    | .dropping, _ => exact .pure (.refl w)

namespace Session

theorem applyAction?_ensures {s : Session} {w : World} (hw : s.world = some w)
    (action : Option Action) :
    (s.applyAction? action).Ensures
      (fun t => ∃ w', w.Keeps w' ∧ t = { s with world := some w' }) (·.isEffect) := by
  cases action with
  | none => exact .pure ⟨w, .refl w, by rw [← hw]⟩
  | some action =>
      simp only [applyAction?, applyAction, hw]
      exact .bind (s.handler.apply_ensures action w) fun w' hk => .pure ⟨w', hk, rfl⟩

end Session

end VisualNovel
