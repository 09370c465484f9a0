import VisualNovel.Proofs.Entrances
import VisualNovel.Proofs.Members

/-!
# Only well-formed documents are read

A decoder reads less than there is: it passes over the members that nobody asked for. But it passes
over them, and it walks through everything else. So a value that a decoder reads could be passed
over as a whole (`Thorough`). This goes from the decoders of texts and numbers to those of lists,
catalogs and records, and so a text that is loaded is written by the grammar.
-/

namespace VisualNovel

namespace Json

variable {α ρ : Type}

/-- Nothing is wrong with what the decoder reads. -/
def Thorough (decoder : Decoder α) : Prop := ∀ v a, decoder v = .ok a → v.skip = .ok ()

theorem ending_of_decodePieces {ending : TextEnd} {bytes out : ByteArray} {ps : List Piece}
    (h : RawText.decodePieces ending bytes ps = .ok out) : ending = .closed := by
  revert h
  fun_induction RawText.decodePieces ending bytes ps
  all_goals first
    | assumption
    | exact fun _ => ‹ending = .closed›
    | (intro h; cases h)

theorem RawText.skip_of_decode {t : RawText} {s : String} (h : t.decode = .ok s) :
    t.skip = .ok () := by
  obtain ⟨bytes, hb, -⟩ := bind_eq_ok_iff.1 h
  exact skip_eq_ok_iff.2 (ending_of_decodePieces hb)

@[simp] theorem thorough_text : Thorough Decoder.text := by
  intro v s h
  cases v with
  | text t => exact RawText.skip_of_decode h
  | _ => cases h

@[simp] theorem thorough_boolean : Thorough Decoder.boolean := by
  intro v b h
  cases v with
  | boolean => rfl
  | _ => cases h

@[simp] theorem thorough_int32 : Thorough Decoder.int32 := by
  intro v i h
  cases v with
  | number n =>
      cases n with
      | numeral n => rfl
      | _ => cases h
  | _ => cases h

@[simp] theorem thorough_optional {decoder : Decoder α} (h : Thorough decoder) :
    Thorough (.optional decoder) := by
  intro v a ok
  unfold Decoder.optional at ok
  split at ok
  · rfl
  · obtain ⟨a, read, -⟩ := map_eq_ok_iff.1 ok
    exact h v a read

theorem forall_mem_of_mapM {ε β γ : Type} {f : β → Except ε γ} {P : β → Prop}
    (h : ∀ x y, f x = .ok y → P x) {xs : List β} {ys : List γ} (ok : xs.mapM f = .ok ys) :
    ∀ x ∈ xs, P x := by
  rw [mapM_eq_ok_iff] at ok
  induction ok with
  | nil => exact List.forall_mem_nil _
  | cons first _ ih => exact List.forall_mem_cons.2 ⟨h _ _ first, ih⟩

theorem closed_of_ofList {e : Ending} (h : e.ofList = .ok ()) : e = .closed := by
  cases e with
  | closed => rfl
  | _ => cases h

theorem closed_of_ofMap {e : Ending} (h : e.ofMap = .ok ()) : e = .closed := by
  cases e with
  | closed => rfl
  | _ => cases h

@[simp] theorem thorough_list {decoder : Decoder α} (h : Thorough decoder) :
    Thorough (.list decoder) := by
  intro v as ok
  cases v with
  | list items ending =>
      obtain ⟨read, hr, ok⟩ := bind_eq_ok_iff.1 ok
      obtain ⟨_, he, -⟩ := bind_eq_ok_iff.1 ok
      exact Value.skip_list_eq_ok_iff.2 ⟨forall_mem_of_mapM h hr, closed_of_ofList he⟩
  | _ => cases ok

@[simp] theorem thorough_catalog {decoder : Decoder α} (h : Thorough decoder) :
    Thorough (.catalog decoder) := by
  intro v c ok
  cases v with
  | map members ending =>
      obtain ⟨entries, hr, ok⟩ := bind_eq_ok_iff.1 ok
      obtain ⟨_, he, -⟩ := bind_eq_ok_iff.1 ok
      have entry : ∀ m e, Decoder.entry decoder m = .ok e →
          m.1.skip = .ok () ∧ m.2.skip = .ok () := by
        intro m e hm
        obtain ⟨named, read⟩ := entry_eq_ok_iff.1 hm
        exact ⟨RawText.skip_of_decode named, h _ _ read⟩
      exact Value.skip_map_eq_ok_iff.2 ⟨forall_mem_of_mapM entry hr, closed_of_ofMap he⟩
  | _ => cases ok

@[simp] theorem Field.thorough_of {name : String} {decoder : Decoder α} {set : α → ρ → ρ}
    {aliases : List String} (h : Thorough decoder) :
    Thorough (Field.of name decoder set aliases).read := by
  intro v update ok
  obtain ⟨a, read, -⟩ := map_eq_ok_iff.1 ok
  exact h v a read

namespace Format

variable {format : Format ρ}

theorem ReadsMember.skip_eq (fields : ∀ f ∈ format.fields, Thorough f.read)
    {m : RawText × Value} {s s' : List String × ρ} (h : format.ReadsMember m s s') :
    m.1.skip = .ok () ∧ m.2.skip = .ok () := by
  cases h with
  | skipped named unknown skip => exact ⟨RawText.skip_of_decode named, skip⟩
  | read named found fresh read =>
      exact ⟨RawText.skip_of_decode named, fields _ (List.mem_of_find?_eq_some found) _ _ read⟩

theorem skip_of_readOn (fields : ∀ f ∈ format.fields, Thorough f.read)
    {members : List (RawText × Value)} {s out : List String × ρ}
    (ok : format.readOn members s = .ok out) :
    ∀ m ∈ members, m.1.skip = .ok () ∧ m.2.skip = .ok () := by
  induction members generalizing s with
  | nil => exact List.forall_mem_nil _
  | cons m members ih =>
      obtain ⟨s', first, rest⟩ := readOn_cons_eq_ok_iff.1 ok
      exact List.forall_mem_cons.2 ⟨first.skip_eq fields, ih rest⟩

theorem skip_of_readItems {ending : Ending} {fs : List (Field ρ)}
    (fields : ∀ f ∈ fs, Thorough f.read) {items : List Value} {record out : ρ}
    (ok : readItems ending fs items record = .ok out) :
    (∀ v ∈ items, v.skip = .ok ()) ∧ ending = .closed := by
  induction fs generalizing items record with
  | nil =>
      obtain ⟨_, full, -⟩ := bind_eq_ok_iff.1 ok
      cases items with
      | nil =>
          refine ⟨List.forall_mem_nil _, ?_⟩
          cases ending with
          | closed => rfl
          | _ => cases full
      | cons v items => cases full
  | cons f fs ih =>
      cases items with
      | nil =>
          obtain ⟨_, ended, -⟩ := bind_eq_ok_iff.1 ok
          exact ⟨List.forall_mem_nil _, closed_of_ofList ended⟩
      | cons v items =>
          obtain ⟨first, others⟩ := List.forall_mem_cons.1 fields
          obtain ⟨update, read, ok⟩ := bind_eq_ok_iff.1 ok
          obtain ⟨rest, closed⟩ := ih others ok
          exact ⟨List.forall_mem_cons.2 ⟨first v update read, rest⟩, closed⟩

theorem thorough (fields : ∀ f ∈ format.fields, Thorough f.read) : Thorough format.decode := by
  intro v record ok
  cases v with
  | map members ending =>
      obtain ⟨s, read, ok⟩ := bind_eq_ok_iff.1 ok
      obtain ⟨_, ended, -⟩ := bind_eq_ok_iff.1 ok
      have read : format.readOn members ([], format.blank) = .ok s := read
      exact Value.skip_map_eq_ok_iff.2 ⟨skip_of_readOn fields read, closed_of_ofMap ended⟩
  | list items ending =>
      obtain ⟨r, read, -⟩ := bind_eq_ok_iff.1 ok
      exact Value.skip_list_eq_ok_iff.2 (skip_of_readItems fields read)
  | _ => cases ok

end Format

end Json

open Json (Format Thorough)

theorem LineRecord.thorough : Thorough format.decode := Format.thorough (by simp [format])

theorem ChoiceRecord.thorough : Thorough format.decode := Format.thorough (by simp [format])

theorem ObjectRecord.thorough : Thorough format.decode := Format.thorough (by simp [format])

theorem OutcomeRecord.thorough : Thorough format.decode := Format.thorough (by simp [format])

theorem SceneRecord.thorough : Thorough format.decode := by
  have choices := Json.thorough_optional (Json.thorough_list ChoiceRecord.thorough)
  exact Format.thorough (by simp [format, LineRecord.thorough, choices, ObjectRecord.thorough])

theorem StoryRecord.thorough : Thorough format.decode :=
  Format.thorough (by simp [format, SceneRecord.thorough, OutcomeRecord.thorough])

namespace Loaded

variable {mode : Strictness} {text : String}

theorem ofDocument_of_decode {v : Json.Value} {record : StoryRecord}
    (h : StoryRecord.format.decode v = .ok record) :
    ofDocument mode ⟨v, false⟩ = ⟨record.toStory mode, record.events mode⟩ := by
  unfold ofDocument Json.Document.decode
  rw [h]
  rfl

theorem ofText_of_writes {v : Json.Value} (h : v.Writes text.toUTF8.toList) :
    ofText mode text = ofDocument mode ⟨v, false⟩ := by
  rw [ofText_eq_ofBytes, ofBytes, Json.Document.ofBytes_writes h]

theorem ofText_of_decode {v : Json.Value} {record : StoryRecord}
    (writes : v.Writes text.toUTF8.toList) (read : StoryRecord.format.decode v = .ok record) :
    ofText mode text = ⟨record.toStory mode, record.events mode⟩ := by
  rw [ofText_of_writes writes, ofDocument_of_decode read]

/-- A text that is loaded is a well-formed document, and all of it has been read. -/
theorem exists_decode_of_ofText {story : Story} (h : (ofText mode text).result = .ok story) :
    ∃ v record, v.Writes text.toUTF8.toList ∧ StoryRecord.format.decode v = .ok record := by
  have loaded : (ofDocument mode (.ofBytes text.toUTF8.toList)).result = .ok story := by
    rw [← h, ofText_eq_ofBytes, ofBytes]
  cases hd : Json.Document.ofBytes text.toUTF8.toList with
  | mk v trailing =>
      rw [hd] at loaded
      unfold ofDocument at loaded
      split at loaded
      · next record read =>
          obtain ⟨_, read, whole⟩ := bind_eq_ok_iff.1 read
          have whole : trailing = false := by
            cases trailing with
            | false => rfl
            | true => cases whole
          rw [whole] at hd
          have skip := StoryRecord.thorough v _ read
          exact ⟨v, _, Json.Value.writes_iff.2 ⟨hd, skip⟩, read⟩
      · cases loaded

end Loaded

end VisualNovel
