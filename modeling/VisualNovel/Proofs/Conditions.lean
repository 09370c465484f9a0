import Mathlib.Data.List.Basic
import VisualNovel.Proofs.Game

/-!
# What a condition asks for

A condition may have conditions inside it to any depth, and it asks for all that is named at its
leaves. So it holds in a world exactly if every flag that is named somewhere in it is set there and
every item is held (`Condition.holds_iff`). The proof goes over conditions and lists of conditions
together, since they are made of each other.

No condition asks that something be missing. A player who has more is therefore never offered less:
whether a choice is offered is a condition made of what the choice asks for, and a list that is
filtered by a weaker test keeps what it had, in its order.
-/

namespace VisualNovel

namespace Condition

/-- The flag or the item is named somewhere in the condition. -/
inductive Asks : Condition → Belonging → Prop
  | hasFlag (flag : String) : Asks (.hasFlag flag) (.flag flag)
  | hasItem (item : String) : Asks (.hasItem item) (.item item)
  | all {conditions : List Condition} {c : Condition} {b : Belonging} (mem : c ∈ conditions)
    (asks : c.Asks b) : Asks (.all conditions) b

variable {flag item : String} {conditions : List Condition} {b : Belonging} {w w' : World}

@[simp] theorem not_asks_always : ¬ always.Asks b := nofun

@[simp] theorem asks_hasFlag_iff : (hasFlag flag).Asks b ↔ b = .flag flag := by
  constructor
  · rintro ⟨⟩
    rfl
  · rintro rfl
    exact .hasFlag flag

@[simp] theorem asks_hasItem_iff : (hasItem item).Asks b ↔ b = .item item := by
  constructor
  · rintro ⟨⟩
    rfl
  · rintro rfl
    exact .hasItem item

@[simp] theorem asks_all_iff : (all conditions).Asks b ↔ ∃ c ∈ conditions, c.Asks b := by
  constructor
  · rintro ⟨⟩
    next c mem asks => exact ⟨c, mem, asks⟩
  · rintro ⟨c, mem, asks⟩
    exact .all mem asks

mutual

/-- A condition holds exactly if all is there that it asks for. -/
theorem holds_iff (w : World) :
    ∀ c : Condition, c.holds w = true ↔ ∀ b, c.Asks b → w.has b = true
  | .always => by
      rw [holds]
      exact iff_of_true rfl fun _ asks => absurd asks not_asks_always
  | .hasFlag flag => by
      simp only [holds, asks_hasFlag_iff, forall_eq, World.has]
  | .hasItem item => by
      simp only [holds, asks_hasItem_iff, forall_eq, World.has]
  | .all conditions => by
      rw [holds, allHold_iff w conditions]
      simp only [asks_all_iff]
      exact ⟨fun h b ⟨c, mem, asks⟩ => h c mem b asks,
        fun h c mem b asks => h b ⟨c, mem, asks⟩⟩

theorem allHold_iff (w : World) :
    ∀ conditions : List Condition,
      allHold w conditions = true ↔ ∀ c ∈ conditions, ∀ b, c.Asks b → w.has b = true
  | [] => by
      rw [allHold]
      exact iff_of_true rfl nofun
  | c :: cs => by
      rw [allHold, Bool.and_eq_true, holds_iff w c, allHold_iff w cs, List.forall_mem_cons]

end

/-- Who has more fulfils more. -/
theorem holds_mono (more : ∀ b, w.has b = true → w'.has b = true) {c : Condition}
    (h : c.holds w = true) : c.holds w' = true := by
  rw [holds_iff] at h ⊢
  exact fun b asks => more b (h b asks)

end Condition

/-! ## Choices -/

namespace Choice

variable {c : Choice} {b : Belonging} {w : World}

/-- What the choice asks for. -/
def needs (c : Choice) : List Belonging :=
  c.requiredFlag.toList.map .flag ++ c.requiredItem.toList.map .item

/-- However many things a choice asks for, its condition asks for these and for nothing else. -/
theorem condition_asks_iff : c.condition.Asks b ↔ b ∈ c.needs := by
  unfold condition needs
  cases c.requiredFlag <;> cases c.requiredItem <;> simp

theorem isVisible_iff : c.isVisible w = true ↔ ∀ b ∈ c.needs, w.has b = true := by
  rw [isVisible, Condition.holds_iff]
  simp only [condition_asks_iff]

end Choice

/-! ## Having more -/

section More

variable {w w' : World} {s s' : Session}

/-- Who has more sees all the choices that they saw before, in the same order. -/
theorem Scene.visible_sublist (more : ∀ b, w.has b = true → w'.has b = true) (scene : Scene) :
    (scene.choices.filter (·.isVisible w)).Sublist (scene.choices.filter (·.isVisible w')) :=
  List.monotone_filter_right _ fun _ => Condition.holds_mono more

theorem Session.visibleChoices_of_scene {scene : Scene} (hw : s.world = some w)
    (hs : s.scene? = some scene) : s.visibleChoices = scene.choices.filter (·.isVisible w) := by
  rw [visibleChoices, hw, hs]

theorem Session.visibleChoices_sublist (more : ∀ b, w.has b = true → w'.has b = true)
    (hw : s.world = some w) (hw' : s'.world = some w') (same : s.scene? = s'.scene?) :
    s.visibleChoices.Sublist s'.visibleChoices := by
  cases hs : s.scene? with
  | none =>
      have nothing : s.visibleChoices = [] := by rw [visibleChoices, hw, hs]
      rw [nothing]
      exact List.nil_sublist _
  | some scene =>
      rw [visibleChoices_of_scene hw hs, visibleChoices_of_scene hw' (same ▸ hs)]
      exact scene.visible_sublist more

/-- A condition holds exactly if each flag is set and each item held that is named anywhere in it.
So all that holds in a world holds in one where the player has at least as much, and there the
player is offered at least the same choices of a scene, in the same order. -/
theorem having_more_offers_more :
    (∀ (c : Condition) (w : World), c.holds w = true ↔
      (∀ flag, c.Asks (.flag flag) → w.hasFlag flag = true) ∧
      ∀ item, c.Asks (.item item) → w.hasItem item = true) ∧
    ∀ w w' : World,
      (∀ flag, w.hasFlag flag = true → w'.hasFlag flag = true) →
      (∀ item, w.hasItem item = true → w'.hasItem item = true) →
      (∀ c : Condition, c.holds w = true → c.holds w' = true) ∧
      (∀ scene : Scene, (scene.choices.filter (·.isVisible w)).Sublist
        (scene.choices.filter (·.isVisible w'))) ∧
      ∀ s s' : Session, s.world = some w → s'.world = some w' → s.scene? = s'.scene? →
        s.visibleChoices.Sublist s'.visibleChoices := by
  constructor
  · intro c w
    rw [Condition.holds_iff]
    constructor
    · intro h
      exact ⟨fun flag => h (.flag flag), fun item => h (.item item)⟩
    · rintro ⟨flags, items⟩ (item | flag) asks
      · exact items item asks
      · exact flags flag asks
  · intro w w' flags items
    have more : ∀ b, w.has b = true → w'.has b = true
      | .item item => items item
      | .flag flag => flags flag
    exact ⟨fun _ => Condition.holds_mono more, Scene.visible_sublist more,
      fun _ _ => Session.visibleChoices_sublist more⟩

end More

/-- What it takes to be let into the museum. -/
def Condition.admission : Condition :=
  .all [.hasFlag "open", .all [.always, .all [.hasItem "ticket"]], .all []]

/-- A story that begins at the gate of a museum. -/
def Story.museum : Story :=
  (blank "The museum" "gate")
    |>.addScene
      { id := "gate"
        choices := [
          { text := "Enter"
            next := some "hall"
            requiredFlag := some "open"
            requiredItem := some "ticket" },
          { text := "Ring the bell", next := some "gate" },
          { text := "Show the ticket", next := some "gate", requiredItem := some "ticket" }] }
    |>.addScene { id := "hall" }

/-- The gate is open, and the player has nothing yet. -/
def World.atGate : World := (begin "gate" { name := "Ann" }).setFlag "open"

/-- A session of the museum. -/
def Session.ofMuseum (w : World) : Session := { new {} with story := some .museum, world := some w }

theorem having_more_offers_more_museum :
    (∀ flag, World.atGate.hasFlag flag = true →
      (World.atGate.addItem "ticket").hasFlag flag = true) ∧
    (∀ item, World.atGate.hasItem item = true →
      (World.atGate.addItem "ticket").hasItem item = true) ∧
    ¬ Condition.admission.holds .atGate = true ∧
    Condition.admission.holds (World.atGate.addItem "ticket") = true ∧
    (Session.ofMuseum .atGate).visibleChoices.map (·.text) = ["Ring the bell"] ∧
    (Session.ofMuseum .atGate).visibleChoices.Sublist
      (Session.ofMuseum (World.atGate.addItem "ticket")).visibleChoices := by
  have flags : ∀ flag, World.atGate.hasFlag flag = true →
      (World.atGate.addItem "ticket").hasFlag flag = true := fun _ => id
  have items : ∀ item, World.atGate.hasItem item = true →
      (World.atGate.addItem "ticket").hasItem item = true := nofun
  obtain ⟨named, more⟩ := having_more_offers_more
  obtain ⟨-, -, offered⟩ := more .atGate (World.atGate.addItem "ticket") flags items
  refine ⟨flags, items, fun h => ?_, by decide, by decide,
    offered (.ofMuseum .atGate) (.ofMuseum (World.atGate.addItem "ticket")) rfl rfl rfl⟩
  have asks : Condition.admission.Asks (.item "ticket") :=
    .all (.tail _ (.head _)) (.all (.tail _ (.head _)) (.all (.head _) (.hasItem "ticket")))
  have held := ((named _ _).1 h).2 "ticket" asks
  cases held

end VisualNovel
