import VisualNovel.Proofs.Game

/-!
# An object that is there for one interaction is used once

The first object with an id in a scene answers to it, and if it is there for one interaction then
nothing in the scene answers to that id any more. That holds until the end of the game, wherever the
player goes in between, and it holds for the objects behind it too: several may have the same id in
one scene, and all of them go when the first is used up. An object of the same id in another scene
stays.

The steps of a game tell what they use up (`Session.spentBy`). What they have told altogether is
what the world has kept, only the other way round, so no pair of ids occurs twice in it, and what
can be seen in a scene is whatever is not in it.
-/

namespace VisualNovel

namespace Session

variable {s u : Session} {w : World} {steps : List SessionStep} {id : String}

/-- The object that a step uses up, by the id of its scene and its own: the step is an interaction
that is done, and the object that answers to it is there for only one. -/
def spentBy (s : Session) : SessionStep → List (String × String)
  | .interact id =>
    match s.scene?, (s.interact id).value.2 with
    | some scene, .done _ =>
      if (scene.object? id).any (·.consumed) then [(scene.id, id)] else []
    | _, _ => []
  | _ => []

theorem spentBy_of_refused (h : ∀ yielded, (s.interact id).value.2 ≠ .done yielded) :
    s.spentBy (.interact id) = [] := by
  simp only [spentBy]
  split
  · next hd => exact absurd hd (h _)
  · rfl

theorem spentBy_of_used {scene : Scene} {object : SceneObject} (hs : s.scene? = some scene)
    (ho : scene.object? id = some object) (he : s.interact id = s.useObject scene object w) :
    s.spentBy (.interact id) = if object.consumed then [(scene.id, object.id)] else [] := by
  obtain rfl := id_of_object? ho
  simp [spentBy, hs, he, useObject_value, ho]

/-- A step either leaves the objects that are used up as they are or adds the one it tells of, which
is not among them. -/
theorem step_usedUp (hw : s.world = some w) {step : SessionStep} (kept : step.keepsGame = true) :
    ∃ w', (s.step step).value.1.world = some w' ∧
      (s.spentBy step = [] ∧ w'.usedUp = w.usedUp ∨
        ∃ p, p ∉ w.usedUp ∧ s.spentBy step = [p] ∧ w'.usedUp = p :: w.usedUp) := by
  by_cases hi : ∃ id, step = .interact id
  · obtain ⟨id, rfl⟩ := hi
    rw [step_interact_value]
    rcases s.interact_cases id with refused | ⟨w₀, scene, object, hw₀, -, hs, ho, hu, he⟩
    · obtain ⟨unchanged, answer⟩ := refused.value
      rw [unchanged]
      exact ⟨w, hw, .inl ⟨spentBy_of_refused answer, rfl⟩⟩
    · obtain rfl : w₀ = w := Option.some.inj (hw₀.symm.trans hw)
      rw [spentBy_of_used hs ho he, he, useObject_value]
      obtain ⟨items, flags, hafter⟩ := w₀.afterUse_eq s.handler scene.id object
      refine ⟨_, rfl, ?_⟩
      rw [hafter]
      cases object.consumed with
      | false => exact .inl ⟨rfl, rfl⟩
      | true => exact .inr ⟨_, by simpa [World.isUsedUp] using hu, rfl, rfl⟩
  · obtain ⟨w', hw', hu, -⟩ := (step_accounts kept fun id h => hi ⟨id, h⟩).world hw
    refine ⟨w', hw', .inl ⟨?_, hu⟩⟩
    cases step with
    | interact id => exact absurd ⟨id, rfl⟩ hi
    | _ => rfl

/-- The world of a game has kept what the steps of the game have told, each object once. -/
theorem run_usedUp (started : u.start.value.2 = .ok ())
    (kept : ∀ step ∈ steps, step.keepsGame = true) :
    ∃ w, (u.run (.start :: steps)).value.world = some w ∧ w.usedUp.Nodup ∧
      w.usedUp = (u.gather spentBy (.start :: steps)).reverse := by
  refine game_gather started kept
    (I := fun told s => ∃ w, s.world = some w ∧ w.usedUp.Nodup ∧ w.usedUp = told.reverse)
    (fun story accounts => ?_) fun step kept told s => ?_
  · obtain ⟨w, hw, hu, -⟩ := accounts.world rfl
    exact ⟨w, hw, hu ▸ .nil, hu⟩
  · rintro ⟨w, hw, once, hu⟩
    obtain ⟨w', hw', ⟨hs, hu'⟩ | ⟨p, hp, hs, hu'⟩⟩ := step_usedUp hw kept
    · exact ⟨w', hw', hu' ▸ once, by rw [hs, hu', hu, List.append_nil]⟩
    · refine ⟨w', hw', hu' ▸ List.nodup_cons.2 ⟨hp, once⟩, ?_⟩
      rw [hs, hu', hu, List.reverse_append, List.reverse_singleton, List.singleton_append]

/-- From its start on a game uses up no object twice. Of the scene that the player is in they see
the objects that have not been used up there, and while they play these are the ones that answer: an
object is unavailable exactly if none with its id can be seen. -/
theorem used_up_once_and_out_of_sight (started : u.start.value.2 = .ok ())
    (kept : ∀ step ∈ steps, step.keepsGame = true) :
    (u.gather spentBy (.start :: steps)).Nodup ∧
    (∀ scene, (u.run (.start :: steps)).value.scene? = some scene →
      (u.run (.start :: steps)).value.visibleObjects =
        scene.objects.filter fun o => (scene.id, o.id) ∉ u.gather spentBy (.start :: steps)) ∧
    ((u.run (.start :: steps)).value.state = .playing → ∀ id,
      (((u.run (.start :: steps)).value.interact id).value.2 = .unavailable ↔
        ∀ o ∈ (u.run (.start :: steps)).value.visibleObjects, o.id ≠ id)) := by
  obtain ⟨w, hw, once, hu⟩ := run_usedUp started kept
  have spent : (u.gather spentBy (.start :: steps)).Nodup :=
    (List.reverse_perm _).nodup_iff.1 (hu ▸ once)
  refine ⟨spent, fun scene hs => ?_, interact_unavailable_iff⟩
  simp only [visibleObjects, hw, hs]
  refine List.filter_congr fun o _ => ?_
  simp [World.isUsedUp, hu]

end Session

/-- A story with a chest to be opened once, an empty one next to it, and one upstairs to put back
what was found. -/
def Story.chests : Story :=
  (blank "Three chests" "hall")
    |>.addScene
      { id := "hall"
        choices := [{ text := "Up", next := some "attic" }]
        objects := [
          { id := "chest"
            action := some (.setFlag "open")
            yields := some "coin"
            consumed := true },
          { id := "chest" }, { id := "table" }] }
    |>.addScene
      { id := "attic"
        choices := [{ text := "Down", next := some "hall" }]
        objects := [{ id := "chest", action := some (.removeItem "coin") }] }

/-- A session that is about to look into the chests. -/
def Session.inHall : Session := ((new {}).run [.bind Story.chests]).value

/-- The chest in the hall is tried twice and then, by way of the attic, once more. -/
def SessionStep.rummage : List SessionStep :=
  [.interact "chest", .interact "chest", .choose 0, .interact "chest", .interact "chest", .choose 0,
    .interact "chest"]

theorem Session.used_up_once_and_out_of_sight_chests :
    inHall.gather spentBy (.start :: SessionStep.rummage) = [("hall", "chest")] ∧
      (inHall.run (.start :: SessionStep.rummage)).value.visibleObjects = [{ id := "table" }] ∧
      ((inHall.run (.start :: SessionStep.rummage)).value.interact "chest").value.2 =
        .unavailable := by
  have started : inHall.start.value.2 = .ok () := rfl
  have kept : ∀ step ∈ SessionStep.rummage, step.keepsGame = true := by decide
  have spent : inHall.gather spentBy (.start :: SessionStep.rummage) = [("hall", "chest")] := by
    decide +kernel
  have playing : (inHall.run (.start :: SessionStep.rummage)).value.state = .playing := by
    decide +kernel
  have hall : (inHall.run (.start :: SessionStep.rummage)).value.scene? =
      Story.chests.scene? "hall" := by decide +kernel
  obtain ⟨-, seen, answer⟩ := used_up_once_and_out_of_sight started kept
  have table := seen _ hall
  rw [spent] at table
  exact ⟨spent, table, (answer playing "chest").2 (by rw [table]; decide)⟩

end VisualNovel
