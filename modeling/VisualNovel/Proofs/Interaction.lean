import VisualNovel.Proofs.HandedActions

/-!
# What comes of interacting with an object

An object is looked for in the current scene, where the first one with the id counts. It may not be
there, it may be used up, and it may ask for an item that the player lacks; otherwise it is used.
`Session.interact_cases` says so once, and whatever is claimed of interactions is read off it.

What a player sees of the objects goes another way: of all objects in the scene those are left out
whose ids are used up. The two agree all the same, also where several objects share an id, for an
object is used up by the ids of its scene and its own and not by its place.
-/

namespace VisualNovel

/-- Whether the note is a word in the log and no action. -/
def Note.isLogged : Note → Bool
  | .logged _ => true
  | .handled _ => false

theorem Traced.actions_eq_nil_of_isLogged {α : Type} {t : Traced α}
    (h : ∀ note ∈ t.notes, note.isLogged = true) : t.actions = [] :=
  actions_eq_nil fun _ hm => absurd (h _ hm) Bool.false_ne_true

/-- The world after an action has been carried out, if there is one. -/
def Handler.act (h : Handler) (action : Option Action) (w : World) : World :=
  action.elim w fun action => (h.apply action w).value

theorem Handler.act_keeps (h : Handler) (action : Option Action) (w : World) :
    w.Keeps (h.act action w) := by
  cases action with
  | none => exact .refl w
  | some action => exact (h.apply_ensures action w).value

/-- The world after an object of a scene has been used. Its action comes first, and then what it
yields; it is used up if it is there for one interaction. -/
def World.afterUse (w : World) (h : Handler) (scene : String) (object : SceneObject) : World :=
  let acted := h.act object.action w
  { object.yields.elim acted acted.addItem with
    usedUp := if object.consumed then (scene, object.id) :: acted.usedUp else acted.usedUp }

/-- Nothing but the player's items and flags and the objects that are used up has changed. -/
theorem World.afterUse_eq (w : World) (h : Handler) (scene : String) (object : SceneObject) :
    ∃ items flags, w.afterUse h scene object = { w with
      items, flags
      usedUp := if object.consumed then (scene, object.id) :: w.usedUp else w.usedUp } := by
  obtain ⟨items, flags, hk⟩ := h.act_keeps object.action w
  unfold afterUse
  rw [hk]
  cases object.yields with
  | none => exact ⟨items, flags, rfl⟩
  | some item => exact ⟨items.add item, flags, rfl⟩

namespace Session

variable {s : Session} {w : World} {scene : Scene} {object : SceneObject} {id : String}

theorem interact_of_no_scene (hs : s.scene? = none) :
    s.interact id = (return (s, .unavailable)) := by
  unfold interact
  rw [hs]
  cases s.world <;> rfl

section Playing

variable (hw : s.world = some w) (ht : w.terminal = false) (hs : s.scene? = some scene)

include hw ht hs

theorem interact_of_unknown (ho : scene.object? id = none) :
    s.interact id = (do
      Traced.log (.noSuchObject scene.id id)
      return (s, .unavailable)) := by
  simp [interact, hw, hs, ht, ho]

theorem interact_of_usedUp (ho : scene.object? id = some object)
    (hu : w.isUsedUp scene.id object.id = true) : s.interact id = (return (s, .unavailable)) := by
  simp [interact, hw, hs, ht, ho, hu]

theorem interact_of_locked {required : String} (ho : scene.object? id = some object)
    (hu : w.isUsedUp scene.id object.id = false)
    (hl : object.requiredItem.filter (!w.hasItem ·) = some required) :
    s.interact id = (do
      Traced.log (.objectLocked id required)
      return (s, .locked required)) := by
  simp [interact, hw, hs, ht, ho, hu, hl]

theorem interact_of_open (ho : scene.object? id = some object)
    (hu : w.isUsedUp scene.id object.id = false)
    (hl : object.requiredItem.filter (!w.hasItem ·) = none) :
    s.interact id = s.useObject scene object w := by
  simp [interact, hw, hs, ht, ho, hu, hl]

end Playing

theorem id_of_object? (ho : scene.object? id = some object) : object.id = id := by
  simpa using List.find?_some ho

/-- Either an object is used that is there, not used up and not locked, or nothing comes of it. -/
theorem interact_cases (s : Session) (id : String) :
    (s.interact id).Ensures (fun r => r.1 = s ∧ ∀ yielded, r.2 ≠ .done yielded) (·.isLogged) ∨
    ∃ w scene object, s.world = some w ∧ w.terminal = false ∧ s.scene? = some scene ∧
      scene.object? id = some object ∧ w.isUsedUp scene.id object.id = false ∧
      s.interact id = s.useObject scene object w := by
  unfold interact
  split
  · next w scene hw hs =>
      cases ht : w.terminal with
      | true => exact .inl (.pure ⟨rfl, nofun⟩)
      | false =>
          rw [if_neg Bool.false_ne_true]
          cases ho : scene.object? id with
          | none => exact .inl (.log rfl (.pure ⟨rfl, nofun⟩))
          | some object =>
              dsimp only
              cases hu : w.isUsedUp scene.id object.id with
              | true => exact .inl (.pure ⟨rfl, nofun⟩)
              | false =>
                  cases object.requiredItem.filter (!w.hasItem ·) with
                  | some required => exact .inl (.log rfl (.pure ⟨rfl, nofun⟩))
                  | none => exact .inr ⟨w, scene, object, hw, ht, hs, ho, hu, rfl⟩
  · exact .inl (.pure ⟨rfl, nofun⟩)

theorem step_interact_value (s : Session) (id : String) : (s.step (.interact id)).value =
    ((s.interact id).value.1, .interaction (s.interact id).value.2) := by
  simp [step]

theorem step_interact_actions (s : Session) (id : String) :
    (s.step (.interact id)).actions = (s.interact id).actions := by
  simp [step]

theorem useObject_value (s : Session) (scene : Scene) (object : SceneObject) (w : World) :
    (s.useObject scene object w).value =
      ({ s with world := some (w.afterUse s.handler scene.id object) }, .done object.yields) := by
  unfold useObject World.afterUse
  cases object.action <;> cases object.yields <;> cases object.consumed <;> rfl

/-! ## The objects that can be seen -/

theorem mem_visibleObjects_iff {o : SceneObject} : o ∈ s.visibleObjects ↔
    ∃ w scene, s.world = some w ∧ s.scene? = some scene ∧ o ∈ scene.objects ∧
      w.isUsedUp scene.id o.id = false := by
  unfold visibleObjects
  constructor
  · intro h
    split at h
    · next w scene hw hs =>
        obtain ⟨hm, hu⟩ := List.mem_filter.1 h
        exact ⟨w, scene, hw, hs, hm, by simpa using hu⟩
    · cases h
  · rintro ⟨w, scene, hw, hs, hm, hu⟩
    rw [hw, hs]
    exact List.mem_filter.2 ⟨hm, by simp [hu]⟩

/-- While a game is played, an object is unavailable exactly if none with its id can be seen. -/
theorem interact_unavailable_iff (hp : s.state = .playing) (id : String) :
    (s.interact id).value.2 = .unavailable ↔ ∀ o ∈ s.visibleObjects, o.id ≠ id := by
  obtain ⟨w, hw, ht⟩ := state_eq_playing_iff.1 hp
  cases hs : s.scene? with
  | none =>
      rw [interact_of_no_scene hs]
      refine iff_of_true rfl fun o hm => ?_
      obtain ⟨-, scene, -, hs', -⟩ := mem_visibleObjects_iff.1 hm
      rw [hs] at hs'
      cases hs'
  | some scene =>
      have visible : ∀ o, o ∈ s.visibleObjects ↔
          o ∈ scene.objects ∧ w.isUsedUp scene.id o.id = false := by
        intro o
        rw [mem_visibleObjects_iff, hw, hs]
        simp
      cases ho : scene.object? id with
      | none =>
          rw [interact_of_unknown hw ht hs ho]
          refine iff_of_true rfl fun o hm => ?_
          simpa using List.find?_eq_none.1 ho o ((visible o).1 hm).1
      | some object =>
          obtain rfl := id_of_object? ho
          cases hu : w.isUsedUp scene.id object.id with
          | true =>
              rw [interact_of_usedUp hw ht hs ho hu]
              refine iff_of_true rfl fun o hm he => ?_
              rw [← he, ((visible o).1 hm).2] at hu
              cases hu
          | false =>
              have seen := (visible object).2 ⟨List.mem_of_find?_eq_some ho, hu⟩
              refine iff_of_false ?_ fun hn => hn object seen rfl
              cases hl : object.requiredItem.filter (!w.hasItem ·) with
              | none =>
                  rw [interact_of_open hw ht hs ho hu hl, useObject_value]
                  exact nofun
              | some required =>
                  rw [interact_of_locked hw ht hs ho hu hl]
                  exact nofun

end Session

end VisualNovel
