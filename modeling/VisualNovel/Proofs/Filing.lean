import VisualNovel.Story.Loading

/-!
# Stories are filed by id

A scene carries its id with it and is filed under an id, and sessions use now the one and now the
other. In every story that has been loaded or put together scene by scene the two are the same:
loading gives a scene the id that it is filed under, whatever id stands in its record.
-/

namespace VisualNovel

/-- A computation that succeeds has succeeded in each of its steps. -/
theorem exists_of_bind_eq_ok {ε α β : Type} {x : Except ε α} {f : α → Except ε β} {b : β}
    (h : (x >>= f) = .ok b) : ∃ a, x = .ok a ∧ f a = .ok b := by
  cases x with
  | error e => cases h
  | ok a => exact ⟨a, rfl, h⟩

namespace Catalog

variable {α β ε : Type} {key : String}

theorem exists_lookup_of_makeEntries {f : String → α → Except ε β} {value : β} :
    ∀ {es : List (String × α)} {made}, makeEntries f es = .ok made →
      made.1.lookup key = some value →
      ∃ old, es.lookup key = some old ∧ f key old = .ok value := by
  intro es
  induction es with
  | nil =>
      intro made hm hv
      cases hm
      cases hv
  | cons e es ih =>
      intro made hm hv
      rw [makeEntries] at hm
      obtain ⟨new, hf, hm⟩ := exists_of_bind_eq_ok hm
      obtain ⟨rest, hr, hm⟩ := exists_of_bind_eq_ok hm
      cases hm
      simp only [lookup_cons_eq_ite] at hv ⊢
      split at hv
      · next hk =>
          rw [if_pos hk]
          exact ⟨e.2, rfl, by rw [hk, hf, Option.some.inj hv]⟩
      · next hk =>
          rw [if_neg hk]
          exact ih hr hv

/-- Whatever is found in a catalog that was made from another comes from the entry under the same
key. -/
theorem get?_make {c : Catalog α} {f : String → α → Except ε β} {made : Catalog β} {value : β}
    (h : c.make f = .ok made) (hv : made.get? key = some value) :
    ∃ old, c.get? key = some old ∧ f key old = .ok value := by
  unfold make at h
  cases hm : makeEntries f c.entries with
  | error x =>
      rw [hm] at h
      cases h
  | ok entries =>
      rw [hm] at h
      cases h
      exact exists_lookup_of_makeEntries hm hv

end Catalog

/-- Every scene is filed under the id it knows itself by. -/
def Story.Filed (s : Story) : Prop :=
  ∀ ⦃key scene⦄, s.scene? key = some scene → scene.id = key

namespace Story

theorem contains_of_scene? {s : Story} {id : String} {scene : Scene}
    (h : s.scene? id = some scene) : s.scenes.contains id = true := by
  rw [Catalog.contains_eq_isSome, ← scene?, h]
  rfl

theorem Filed.scene?_id {s : Story} {id : String} {scene : Scene} (h : s.Filed)
    (hs : s.scene? id = some scene) : s.scene? scene.id = some scene := by
  rw [h hs]
  exact hs

theorem filed_blank (title start placeholder : String) :
    (blank title start placeholder).Filed := by
  intro key scene h
  cases h

theorem Filed.addScene {s : Story} (h : s.Filed) (scene : Scene) : (s.addScene scene).Filed := by
  intro key found hf
  rw [scene?, Story.addScene, Catalog.get?_insert] at hf
  split at hf
  · next hk =>
      cases hf
      exact hk.symm
  · exact h hf

theorem Filed.addOutcome {s : Story} (h : s.Filed) (id : String) (outcome : Outcome) :
    (s.addOutcome id outcome).Filed := fun _ _ hf => h hf

/-- A story with every kind of link: choices to a scene and to an outcome, a scene that is passed
through, a scene that is an outcome, and an outcome that leads back. -/
def ferry : Story :=
  (blank "The ferry" "quay")
    |>.addScene
      { id := "quay"
        dialogue := [{ text := "The ferry is about to leave." }]
        choices := [{ text := "Board", next := some "deck", action := some (.addItem "ticket") },
          { text := "Wait", outcome := some "stranded" }]
        objects := [{ id := "rope", yields := some "rope", consumed := true }] }
    |>.addScene { id := "deck", autoTransition := some "island" }
    |>.addScene
      { id := "island"
        dialogue := [{ text := "You made it." }]
        outcome := some "arrived" }
    |>.addOutcome "arrived" { message := "Welcome ashore." }
    |>.addOutcome "stranded" { message := "Too late.", next := some "quay" }

theorem ferry_filed : ferry.Filed :=
  ((((filed_blank _ _ _).addScene _).addScene _).addScene _).addOutcome _ _ |>.addOutcome _ _

end Story

/-! ## Loaded stories -/

theorem SceneRecord.toScene_id {mode : Strictness} {id : String} {r : SceneRecord}
    {scene : Scene} (h : r.toScene mode id = .ok scene) : scene.id = id := by
  unfold SceneRecord.toScene at h
  obtain ⟨action, -, h⟩ := exists_of_bind_eq_ok h
  obtain ⟨choices, -, h⟩ := exists_of_bind_eq_ok h
  obtain ⟨objects, -, h⟩ := exists_of_bind_eq_ok h
  cases h
  rfl

theorem StoryRecord.toStory_filed {mode : Strictness} {r : StoryRecord} {story : Story}
    (h : r.toStory mode = .ok story) : story.Filed := by
  unfold StoryRecord.toStory at h
  split at h
  · obtain ⟨scenes, hs, h⟩ := exists_of_bind_eq_ok h
    split at h
    · cases h
    · cases h
      intro key scene hf
      obtain ⟨record, -, hr⟩ := Catalog.get?_make hs hf
      exact SceneRecord.toScene_id hr
  · cases h

theorem Loaded.ofDocument_filed {mode : Strictness} {document : Json.Document} {story : Story}
    (h : (ofDocument mode document).result = .ok story) : story.Filed := by
  unfold ofDocument at h
  split at h
  · exact StoryRecord.toStory_filed h
  · cases h

/-- Whatever a file holds, a story loaded from it is filed by id. -/
theorem Loaded.ofFile_filed {mode : Strictness} {path : String}
    {contents : Except ReadFailure ByteArray} {story : Story}
    (h : (ofFile mode path contents).result = .ok story) : story.Filed := by
  unfold ofFile at h
  split at h
  · cases h
  · split at h
    · exact ofDocument_filed h
    · cases h

end VisualNovel
