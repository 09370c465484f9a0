import VisualNovel.Proofs.SingleUse

/-!
# What the player has is what last came to it

Whether a player holds an item or a flag is set, is said by the last word about it: the last action
of a scene, a choice or an object that gave or took it, or the last object that handed it over.
There is nothing else that gives or takes, and nothing is forgotten along the way.

An object that is used has two words to say. Its action comes first and what it yields second, so an
object whose action takes the item that it yields leaves the player with it. All that an interaction
makes of a game are these words, one by one, and the object that is used up.
-/

namespace VisualNovel

/-- What comes to the player by the answer to a step: an object that is used may hand them an
item. -/
def SessionAnswer.yields : SessionAnswer → List Change
  | .interaction (.done yielded) => yielded.toList.map fun item => ⟨.item item, true⟩
  | _ => []

theorem SessionAnswer.yields_eq_nil {i : Interaction} (h : ∀ yielded, i ≠ .done yielded) :
    (interaction i).yields = [] := by
  cases i with
  | done yielded => exact absurd rfl (h yielded)
  | locked | unavailable => rfl

/-- All that the built-in handler makes of an object is what its action says, then what it
yields. -/
theorem World.afterUse_builtin (w : World) (scene : String) (object : SceneObject) :
    w.afterUse .builtin scene object = {
      (object.action.toList.filterMap (·.change?) ++
        (SessionAnswer.interaction (.done object.yields)).yields).foldl undergo w with
      usedUp := (if object.consumed then [(scene, object.id)] else []) ++ w.usedUp } := by
  obtain ⟨items, flags, kept⟩ := Handler.builtin.act_keeps object.action w
  have usedUp : (Handler.builtin.act object.action w).usedUp = w.usedUp := by rw [kept]
  rw [List.foldl_append, ← act_builtin, ← usedUp, afterUse]
  cases object.yields <;> cases object.consumed <;> rfl

/-- What concerns an item leaves all but the items as it is. -/
theorem World.undergo_item (w : World) (item : String) (given : Bool) :
    ∃ items, w.undergo ⟨.item item, given⟩ = { w with items } := by
  cases given <;> exact ⟨_, rfl⟩

/-- What concerns a flag leaves all but the flags as it is. -/
theorem World.undergo_flag (w : World) (flag : String) (given : Bool) :
    ∃ flags, w.undergo ⟨.flag flag, given⟩ = { w with flags } := by
  cases given <;> exact ⟨_, rfl⟩

namespace Session

variable {s u : Session} {w : World} {steps : List SessionStep} {id : String}

/-- What a step gives to the player or takes away, in order: by the actions that it hands over, and
by its answer. -/
def changes (s : Session) (step : SessionStep) : List Change :=
  (s.step step).actions.filterMap (·.change?) ++ (s.step step).value.2.yields

/-- All that comes of an interaction is what it gives and takes, and the object that it uses up. -/
theorem interact_builtin (builtin : s.handler = .builtin) (hw : s.world = some w) (id : String) :
    (s.step (.interact id)).value.1 = { s with world := some {
      (s.changes (.interact id)).foldl World.undergo w with
      usedUp := s.spentBy (.interact id) ++ w.usedUp } } := by
  rw [changes, step_interact_value, step_interact_actions]
  rcases s.interact_cases id with refused | ⟨w₀, scene, object, hw₀, -, hs, ho, -, he⟩
  · obtain ⟨unchanged, answer⟩ := refused.value
    rw [Traced.actions_eq_nil_of_isLogged refused.notes, SessionAnswer.yields_eq_nil answer,
      spentBy_of_refused answer, unchanged]
    exact congrArg (fun world => { s with world }) hw
  · obtain rfl : w₀ = w := Option.some.inj (hw₀.symm.trans hw)
    rw [spentBy_of_used hs ho he, he, useObject_value, useObject_actions, builtin,
      World.afterUse_builtin]

theorem yields_of_not_interact {step : SessionStep} (hi : ∀ id, step ≠ .interact id) :
    (s.step step).value.2.yields = [] := by
  cases step with
  | interact id => exact absurd rfl (hi id)
  | _ => rfl

/-- One step. -/
theorem step_has (builtin : s.handler = .builtin) (hw : s.world = some w) {step : SessionStep}
    (kept : step.keepsGame = true) :
    (s.step step).value.1.handler = .builtin ∧ ∃ w', (s.step step).value.1.world = some w' ∧
      ∀ b, w'.has b = (b.last (s.changes step)).getD (w.has b) := by
  by_cases hi : ∃ id, step = .interact id
  · obtain ⟨id, rfl⟩ := hi
    rw [interact_builtin builtin hw]
    refine ⟨builtin, _, rfl, fun b => ?_⟩
    rw [← World.has_foldl_undergo]
    cases b <;> rfl
  · have other : ∀ id, step ≠ .interact id := fun id h => hi ⟨id, h⟩
    have accounts := step_accounts (s := s) kept other
    obtain ⟨w', hw', -, hb⟩ := accounts.world hw
    refine ⟨accounts.handler.trans builtin, w', hw', fun b => ?_⟩
    rw [hb builtin, changes, yields_of_not_interact other, List.append_nil]

/-- The whole game. -/
theorem run_has (builtin : u.handler = .builtin) (started : u.start.value.2 = .ok ())
    (kept : ∀ step ∈ steps, step.keepsGame = true) :
    ∃ w, (u.run (.start :: steps)).value.world = some w ∧
      ∀ b, w.has b = (b.last (u.gather changes (.start :: steps))).getD false := by
  refine (game_gather started kept
    (I := fun told s => s.handler = .builtin ∧
      ∃ w, s.world = some w ∧ ∀ b, w.has b = (b.last told).getD false)
    (fun story accounts => ?_) fun step kept told s => ?_).2
  · obtain ⟨w, hw, -, hb⟩ := accounts.world rfl
    refine ⟨accounts.handler.trans builtin, w, hw, fun b => ?_⟩
    rw [hb builtin, changes, yields_of_not_interact (by simp), List.append_nil]
    cases b <;> rfl
  · rintro ⟨builtin, w, hw, hb⟩
    obtain ⟨builtin', w', hw', hb'⟩ := step_has builtin hw kept
    refine ⟨builtin', w', hw', fun b => ?_⟩
    rw [hb', hb, Belonging.last_append, Option.getD_or]

/-- At any time in a game under the built-in handler, an item is held or a flag set exactly if the
last change that concerns it is that it was given. An action changes nothing but what it gives or
takes, and that is either an item or a flag or, if it is a custom one, nothing at all. An
interaction carries the changes out in order, the action's before the yield, and uses its object up
if it is there for one interaction. In a sound session the actions are those of the scenes that are
entered, of the choice that is made and of the object that is used. -/
theorem has_iff_last_given (builtin : u.handler = .builtin) (started : u.start.value.2 = .ok ())
    (kept : ∀ step ∈ steps, step.keepsGame = true) :
    (∃ w, (u.run (.start :: steps)).value.world = some w ∧
      (∀ item, w.hasItem item = true ↔
        (Belonging.item item).last (u.gather changes (.start :: steps)) = some true) ∧
      ∀ flag, w.hasFlag flag = true ↔
        (Belonging.flag flag).last (u.gather changes (.start :: steps)) = some true) ∧
    (∀ (w : World) action,
      (Handler.builtin.apply action w).value = action.change?.elim w w.undergo) ∧
    (∀ (w : World) item given, ∃ items, w.undergo ⟨.item item, given⟩ = { w with items }) ∧
    (∀ (w : World) flag given, ∃ flags, w.undergo ⟨.flag flag, given⟩ = { w with flags }) ∧
    (∀ (s : Session) (w : World) id, s.handler = .builtin → s.world = some w →
      (s.step (.interact id)).value.1 = { s with world := some {
        (s.changes (.interact id)).foldl World.undergo w with
        usedUp := s.spentBy (.interact id) ++ w.usedUp } }) ∧
    ∀ (s : Session) step, s.Sound → (s.step step).actions = s.owed step (s.step step) := by
  obtain ⟨w, hw, hb⟩ := run_has builtin started kept
  have given (b : Belonging) : w.has b = true ↔
      b.last (u.gather changes (.start :: steps)) = some true := by
    rw [hb]
    cases b.last (u.gather changes (.start :: steps)) <;> simp
  exact ⟨⟨w, hw, fun item => given (.item item), fun flag => given (.flag flag)⟩,
    World.apply_value, World.undergo_item, World.undergo_flag,
    fun s w id builtin hw => interact_builtin builtin hw id,
    fun s step sound => step_actions sound.scene_id step⟩

theorem has_iff_last_given_chests :
    inHall.gather changes (.start :: SessionStep.rummage) =
      [⟨.flag "open", true⟩, ⟨.item "coin", true⟩, ⟨.item "coin", false⟩, ⟨.item "coin", false⟩] ∧
    ∃ w, (inHall.run (.start :: SessionStep.rummage)).value.world = some w ∧
      w.hasItem "coin" = false ∧ w.hasFlag "open" = true := by
  have started : inHall.start.value.2 = .ok () := rfl
  have kept : ∀ step ∈ SessionStep.rummage, step.keepsGame = true := by decide
  have told : inHall.gather changes (.start :: SessionStep.rummage) =
      [⟨.flag "open", true⟩, ⟨.item "coin", true⟩, ⟨.item "coin", false⟩,
        ⟨.item "coin", false⟩] := by decide +kernel
  obtain ⟨⟨w, hw, items, flags⟩, -⟩ := has_iff_last_given rfl started kept
  rw [told] at items flags
  refine ⟨told, w, hw, ?_, (flags "open").2 (by decide)⟩
  rw [Bool.eq_false_iff, Ne, items "coin"]
  decide

end Session

end VisualNovel
