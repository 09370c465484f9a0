import VisualNovel.Proofs.Unsplit
import VisualNovel.Story.Loading

/-!
# However a story is loaded

A story is loaded from a text, from bytes or from a file. A file has to be a text as a whole. Bytes
need not be: whether they are UTF-8 is checked for one string of the document after the other, when
the string is read, and never for a string that is passed over. A reader that has been given a text
checks nothing, since all of it is known to be UTF-8.

The two readers load the same from a text, and fail alike, whatever the one that does not check
would make of strings that are not UTF-8 (`Loaded.ofTextUnchecked_eq_ofBytes`). The reason is that no
string in a text is such a string, and this holds of every string, wherever in the document it stands
and whatever is wrong around it.
-/

namespace VisualNovel

theorem fromUTF8?_toUTF8 (s : String) : String.fromUTF8? s.toUTF8 = some s := by
  rw [String.fromUTF8?, String.toUTF8_eq_toByteArray, dif_pos s.isValidUTF8]
  rfl

namespace Json

variable {stray : ByteArray → String}

theorem RawText.unchecked_of_unsplit {t : RawText} (h : Unsplit t.pieces) :
    t.unchecked stray = t := by
  unfold unchecked
  split
  · next bytes hb =>
      have valid := isValidUTF8_of_unsplit h hb
      exact if_pos (by rw [String.fromUTF8?, dif_pos valid]; rfl)
  · rfl

theorem Token.unchecked_of_unsplit {t : Token} (h : t.Unsplit) :
    t.unchecked stray = t := by
  cases t with
  | text t => exact congrArg Token.text (RawText.unchecked_of_unsplit h)
  | _ => rfl

theorem Document.ofUnchecked_of_encoded (stray : ByteArray → String) {bs : List UInt8}
    (h : Encoded bs) : ofUnchecked stray bs = ofBytes bs := by
  have same : (tokens bs).map (·.unchecked stray) = (tokens bs).map id :=
    List.map_congr_left fun t ht => Token.unchecked_of_unsplit (h.tokens t ht)
  rw [ofUnchecked, same, List.map_id, ofBytes]

end Json

namespace Loaded

theorem ofTextUnchecked_eq_ofBytes (stray : ByteArray → String) (mode : Strictness)
    (text : String) : ofTextUnchecked stray mode text = ofBytes mode text.toUTF8 := by
  rw [ofTextUnchecked, Json.Document.ofUnchecked_of_encoded stray (Json.encoded_toUTF8 text)]
  rfl

theorem ofText_eq_ofBytes (mode : Strictness) (text : String) :
    ofText mode text = ofBytes mode text.toUTF8 := ofTextUnchecked_eq_ofBytes _ mode text

/-- A text is loaded alike as it is, as its bytes and from a file that holds them, checked or not.
Only the file is announced. -/
theorem loads_alike (stray : ByteArray → String) (mode : Strictness) (path text : String) :
    ofTextUnchecked stray mode text = ofBytes mode text.toUTF8 ∧
      ofText mode text = ofBytes mode text.toUTF8 ∧
      (ofFile mode path (.ok text.toUTF8)).result = (ofBytes mode text.toUTF8).result ∧
      (ofFile mode path (.ok text.toUTF8)).events =
        .readingResource path :: (ofBytes mode text.toUTF8).events := by
  refine ⟨ofTextUnchecked_eq_ofBytes stray mode text, ofText_eq_ofBytes mode text, ?_, ?_⟩
  · simp only [ofFile, fromUTF8?_toUTF8, ofText_eq_ofBytes]
  · simp only [ofFile, fromUTF8?_toUTF8, ofText_eq_ofBytes]

/-- The document of a hall. There is an escape in a text that is read, and half a character in one
that is passed over. -/
def escapedHallText : String :=
  "\x7b\"startScene\":\"h\\u0061ll\",\"mood\":[\"\\ud800\"]," ++
    "\"scenes\":\x7b\"hall\":\x7b\x7d\x7d\x7d"

example : (ofText .strict escapedHallText).result.toOption.map (·.start) = some "hall" ∧
    (ofBytes .strict escapedHallText.toUTF8).result.toOption.map (·.start) = some "hall" ∧
    (ofFile .strict "hall" (.ok escapedHallText.toUTF8)).events =
      [.readingResource "hall", .storyLoaded "" 1 0] := by decide +kernel

end Loaded

end VisualNovel
