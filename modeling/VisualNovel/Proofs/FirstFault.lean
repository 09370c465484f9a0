import VisualNovel.Proofs.PartByPart
import VisualNovel.Proofs.Tokens

/-!
# The fault that a load reports

A document may have several faults at once: no start scene is named, tokens are not understood, the
start scene is not there. A load ends with the first fault it comes by. It asks for the name of the
start scene before it looks at any scene, and for the start scene after it has looked at all of
them, so an unknown token hides a missing start scene and is hidden by a missing name.

Each of the four ways in which a load may end is characterised here by the document alone. The one
that needs an argument is the refusal of a token, for there the loading of all scenes is left in the
middle. `Screened` has followed it through the document, and what remains is to put the three
stages of a load in their order.
-/

namespace VisualNovel

open Text (nonBlank)

/-- No text is given, or a blank one. -/
theorem Text.nonBlank_eq_none_iff {s : Option String} :
    nonBlank s = none ↔ ∀ raw ∈ s, isBlank raw = true := by
  rw [Option.eq_none_iff_forall_ne_some]
  simp only [ne_eq, nonBlank_eq_some_iff, not_exists, not_and, Option.mem_def]
  constructor
  · intro h raw hs
    rw [← Bool.not_eq_false]
    exact fun hb => h _ raw hs hb rfl
  · intro h _ raw hs hb
    rw [h raw hs] at hb
    cases hb

/-- A foreign token is one that something is written in and that names no built-in action. -/
theorem PlacedToken.isForeign_iff {t : PlacedToken} : t.isForeign = true ↔
    ∃ raw, t.token = some raw ∧ Text.isBlank raw = false ∧ Action.parse? raw = none := by
  rw [isForeign, Option.any_eq_true]
  simp only [Text.nonBlank_eq_some_iff, Option.isNone_iff_eq_none]
  constructor
  · rintro ⟨_, ⟨raw, written, notBlank, rfl⟩, unknown⟩
    exact ⟨raw, written, notBlank, (Action.parse?_trim raw).symm.trans unknown⟩
  · rintro ⟨raw, written, notBlank, unknown⟩
    exact ⟨_, ⟨raw, written, notBlank, rfl⟩, (Action.parse?_trim raw).trans unknown⟩

namespace StoryRecord

variable {mode : Strictness} {r : StoryRecord}

theorem toStory_eq_noStartScene_iff :
    r.toStory mode = .error .noStartScene ↔ nonBlank r.start = none := by
  unfold toStory
  cases nonBlank r.start with
  | none => exact iff_of_true rfl rfl
  | some start =>
      refine iff_of_false (fun h => ?_) (Option.some_ne_none start)
      cases hs : r.scenes.make (fun id scene => scene.toScene mode id) with
      | error e =>
          obtain ⟨location, token, rfl⟩ := r.scenes_screened.refusing e hs
          rw [hs] at h
          cases h
      | ok scenes =>
          rw [hs] at h
          dsimp only [bind, Except.bind] at h
          split at h <;> cases h

/-- A token is refused exactly if it is while the scenes are loaded, and they are loaded if a start
scene is named. -/
theorem toStory_eq_invalidAction_iff {location : Location} {token : String} :
    r.toStory mode = .error (.invalidAction location token) ↔ nonBlank r.start ≠ none ∧
      r.scenes.make (fun id scene => scene.toScene mode id) =
        .error (.invalidAction location token) := by
  unfold toStory
  cases nonBlank r.start with
  | none =>
      refine iff_of_false (fun h => ?_) fun h => h.1 rfl
      cases h
  | some start =>
      rw [and_iff_right (Option.some_ne_none start)]
      cases r.scenes.make (fun id scene => scene.toScene mode id) with
      | error e => exact Iff.of_eq (by simp [bind, Except.bind])
      | ok scenes =>
          refine iff_of_false (fun h => ?_) fun h => by cases h
          dsimp only [bind, Except.bind] at h
          split at h <;> cases h

/-- The token that is refused is the first foreign one, and it is told of without the blanks around
it. -/
theorem scenes_eq_invalidAction_iff {location : Location} {token : String} :
    r.scenes.make (fun id scene => scene.toScene mode id) =
        .error (.invalidAction location token) ↔
      mode = .strict ∧ ∃ raw, r.tokens.find? (·.isForeign) = some ⟨location, some raw⟩ ∧
        token = Text.trim raw := by
  rw [r.scenes_screened.error_iff]
  refine and_congr_right fun _ => ⟨?_, ?_⟩
  · rintro ⟨t, _, first, written, he⟩
    cases he
    obtain ⟨raw, hraw, -, rfl⟩ := Text.nonBlank_eq_some_iff.1 written
    refine ⟨raw, ?_, rfl⟩
    rw [first, ← hraw]
  · rintro ⟨raw, first, rfl⟩
    obtain ⟨_, hraw, notBlank, -⟩ := PlacedToken.isForeign_iff.1 (List.find?_some first)
    cases hraw
    exact ⟨_, _, first, Text.nonBlank_eq_some_iff.2 ⟨raw, rfl, notBlank, rfl⟩, rfl⟩

theorem exists_toStory_eq_ok_iff : (∃ story, r.toStory mode = .ok story) ↔
    (∃ scenes, r.scenes.make (fun id scene => scene.toScene mode id) = .ok scenes) ∧
      ∃ start, nonBlank r.start = some start ∧ r.scenes.contains start = true := by
  simp only [toStory_eq_ok_iff]
  constructor
  · rintro ⟨_, start, scenes, hstart, hs, hc, -⟩
    exact ⟨⟨scenes, hs⟩, start, hstart, (Catalog.contains_of_make hs start).symm.trans hc⟩
  · rintro ⟨⟨scenes, hs⟩, start, hstart, hc⟩
    exact ⟨_, start, scenes, hstart, hs, (Catalog.contains_of_make hs start).trans hc, rfl⟩

/-- How a load ends. No start scene is named exactly if nothing but blanks is given for it. Else a
strict load ends at the first foreign token, if there is one: the scenes in the order of their ids,
and in each its own token, those of its choices counted from one, and those of its objects. Else
the start scene is missing, or there is a story. -/
theorem toStory_ends (mode : Strictness) (r : StoryRecord) :
    (r.toStory mode = .error .noStartScene ↔ ∀ raw ∈ r.start, Text.isBlank raw = true) ∧
    (∀ location token, r.toStory mode = .error (.invalidAction location token) ↔
      (∃ raw ∈ r.start, Text.isBlank raw = false) ∧ mode = .strict ∧
        ∃ raw, r.tokens.find? (·.isForeign) = some ⟨location, some raw⟩ ∧
          token = Text.trim raw) ∧
    (∀ id, r.toStory mode = .error (.undefinedStartScene id) ↔
      (∃ raw ∈ r.start, Text.isBlank raw = false ∧ Text.trim raw = id) ∧
        (mode = .strict → ∀ t ∈ r.tokens, t.isForeign = false) ∧
        r.scenes.contains id = false) ∧
    ((∃ story, r.toStory mode = .ok story) ↔
      (∃ raw ∈ r.start, Text.isBlank raw = false ∧ r.scenes.contains (Text.trim raw) = true) ∧
        (mode = .strict → ∀ t ∈ r.tokens, t.isForeign = false)) ∧
    LoadError.noStartScene.message = "invalid story: startScene is missing or empty" ∧
    ∀ id, (LoadError.undefinedStartScene id).message =
      "invalid story: start scene \"" ++ id ++ "\" is not defined" := by
  have screened : Screened mode r.tokens
      (r.scenes.make fun id scene => scene.toScene mode id) := r.scenes_screened
  refine ⟨toStory_eq_noStartScene_iff.trans Text.nonBlank_eq_none_iff, fun location token => ?_,
    fun id => ?_, ?_, rfl, fun _ => rfl⟩
  · rw [toStory_eq_invalidAction_iff, scenes_eq_invalidAction_iff, ne_eq, Text.nonBlank_eq_none_iff]
    simp
  · rw [toStory_eq_undefined_iff, screened.ok_iff, Text.nonBlank_eq_some_iff]
    simp only [Option.mem_def]
    rw [and_comm (a := r.scenes.contains id = false)]
  · rw [exists_toStory_eq_ok_iff, screened.ok_iff, and_comm]
    simp only [Text.nonBlank_eq_some_iff, Option.mem_def]
    refine and_congr_left fun _ => ⟨?_, ?_⟩
    · rintro ⟨_, ⟨raw, given, notBlank, rfl⟩, hc⟩
      exact ⟨raw, given, notBlank, hc⟩
    · rintro ⟨raw, given, notBlank, hc⟩
      exact ⟨_, ⟨raw, given, notBlank, rfl⟩, hc⟩

/-- A document with a foreign token in each kind of place, and without the scene it starts in. -/
def cavern : StoryRecord :=
  { start := some " nowhere "
    scenes := .ofList
      [("tower", { action := some "JUMP" }),
        ("cave", {
          choices := [{ action := some "SET_FLAG_wet" }, { action := some " DANCE " }]
          objects := [{ id := "lamp", action := some "LIGHT" }] })] }

example : cavern.toStory .strict = .error (.invalidAction (.choice 2 "cave") "DANCE") ∧
    cavern.toStory .lenient = .error (.undefinedStartScene "nowhere") := ⟨rfl, rfl⟩

end StoryRecord

end VisualNovel
