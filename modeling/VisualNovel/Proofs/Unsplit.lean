import VisualNovel.Proofs.SpelledBack

/-!
# The texts in an encoded document are encoded

Whether the bytes of a text are UTF-8 is checked when the text is read. In a document that is UTF-8
as a whole the check cannot fail, though nothing ever looks at the document as a whole: the scanner
cuts it up byte by byte.

It cuts at ASCII bytes only, and an ASCII byte stands for itself wherever it stands, so no cut goes
through a character. The invariant is `Unsplit`: what has been scanned of a text, and behind it the
bytes that have not been, is a sequence of whole characters and of units. A byte that is taken over
into the text changes nothing about that sequence, and every other byte is ASCII and splits it into
two such sequences (`Unsplit.split`).
-/

namespace VisualNovel.Json

open String (utf8EncodeChar)

/-! ## Whole characters -/

/-- Every byte of an encoding of several bytes has its highest bit set. -/
theorem eq_singleton_of_mem_utf8EncodeChar {b : UInt8} {c : Char} (hb : b ∈ utf8EncodeChar c)
    (ascii : b.toNat < 0x80) : utf8EncodeChar c = [b] := by
  grind [utf8EncodeChar, UInt8.toNat_ofNat']

/-- The pieces are characters, none of which is split, and units. -/
inductive Unsplit : List Piece → Prop
  | nil : Unsplit []
  | char (c : Char) {ps : List Piece} (h : Unsplit ps) :
    Unsplit ((utf8EncodeChar c).map .byte ++ ps)
  | unit (u : Nat) {ps : List Piece} (h : Unsplit ps) : Unsplit (.unit u :: ps)

/-- The bytes are those of whole characters. -/
def Encoded (bs : List UInt8) : Prop := Unsplit (bs.map .byte)

/-- If the token is a text, none of its characters is split. -/
def Token.Unsplit : Token → Prop
  | .text t => Json.Unsplit t.pieces
  | _ => True

namespace Unsplit

variable {ps qs : List Piece} {b : UInt8}

theorem append (h : Unsplit ps) (h' : Unsplit qs) : Unsplit (ps ++ qs) := by
  induction h with
  | nil => exact h'
  | char c _ ih =>
      rw [List.append_assoc]
      exact .char c ih
  | unit u _ ih => exact .unit u ih

/-- An ASCII byte stands between characters, not inside of one. -/
theorem split (h : Unsplit (ps ++ .byte b :: qs)) (ascii : b.toNat < 0x80) :
    Unsplit ps ∧ Unsplit qs := by
  generalize hall : ps ++ .byte b :: qs = all at h
  induction h generalizing ps with
  | nil => cases ps <;> cases hall
  | char c h ih =>
      rcases List.append_eq_append_iff.1 hall with ⟨as, he, hq⟩ | ⟨as, rfl, hr⟩
      · cases as with
        -- The byte stands right behind the character, or it is the character.
        | nil =>
            rw [List.append_nil] at he
            obtain ⟨-, rest⟩ := @ih [] hq
            rw [← he, ← List.append_nil (List.map _ _)]
            exact ⟨.char c .nil, rest⟩
        | cons a as =>
            obtain ⟨rfl, rfl⟩ := List.cons.inj hq
            have hb : Piece.byte b ∈ (utf8EncodeChar c).map .byte := by simp [he]
            rw [List.mem_map_of_injective (fun _ _ => Piece.byte.inj)] at hb
            rw [eq_singleton_of_mem_utf8EncodeChar hb ascii] at he
            obtain ⟨rfl, rfl⟩ : ps = [] ∧ as = [] := by
              cases ps <;> simp_all
            exact ⟨.nil, h⟩
      · obtain ⟨first, rest⟩ := ih hr.symm
        exact ⟨.char c first, rest⟩
  | unit u h ih =>
      cases ps with
      | nil => cases hall
      | cons p ps =>
          obtain ⟨rfl, hr⟩ := List.cons.inj hall
          obtain ⟨first, rest⟩ := ih hr
          exact ⟨.unit u first, rest⟩

end Unsplit

namespace Encoded

variable {bs : List UInt8} {b : UInt8}

theorem nil : Encoded [] := Unsplit.nil

theorem of_chars (cs : List Char) : Encoded (cs.flatMap utf8EncodeChar) := by
  induction cs with
  | nil => exact nil
  | cons c cs ih =>
      rw [Encoded, List.flatMap_cons, List.map_append]
      exact .char c ih

theorem tail (h : Encoded (b :: bs)) (ascii : b.toNat < 0x80) : Encoded bs :=
  (@Unsplit.split [] _ _ h ascii).2

theorem singleton (ascii : b.toNat < 0x80) : Encoded [b] := by
  have char : utf8EncodeChar (Char.ofNat b.toNat) = [b] := by
    have valid : b.toNat.isValidChar := .inl (Nat.lt_trans b.toNat_lt (by decide))
    have value : (Char.ofNat b.toNat).val.toNat = b.toNat := by
      rw [Char.ofNat, dif_pos valid]
      rfl
    rw [utf8EncodeChar, value, if_pos (Nat.le_of_lt_succ ascii), UInt8.ofNat_toNat]
  have encoded := of_chars [Char.ofNat b.toNat]
  rw [List.flatMap_singleton, char] at encoded
  exact encoded

theorem drop {ps : List UInt8} (h : Encoded (ps ++ bs)) (ascii : ∀ b ∈ ps, b.toNat < 0x80) :
    Encoded bs := by
  induction ps with
  | nil => exact h
  | cons b ps ih =>
      exact ih (h.tail (ascii b List.mem_cons_self)) fun b hb => ascii b (List.mem_cons_of_mem _ hb)

theorem dropWhile (h : Encoded bs) {f : UInt8 → Bool} (ascii : ∀ b, f b = true → b.toNat < 0x80) :
    Encoded (bs.dropWhile f) := by
  rw [← bs.takeWhile_append_dropWhile (p := f)] at h
  exact h.drop fun b hb => ascii b (List.mem_takeWhile_imp hb)

end Encoded

/-! ## Cutting a document up -/

section Scanning

variable {bs : List UInt8} {b : UInt8}

theorem toNat_lt_of_isDigit (h : Numeral.isDigit b = true) : b.toNat < 0x80 := by
  simp only [Numeral.isDigit, Bool.and_eq_true, decide_eq_true_eq] at h
  omega

theorem toNat_lt_of_blank (h : b ∈ [0x20, 0x09, 0x0A, 0x0D]) : b.toNat < 0x80 := by
  have ascii : ([0x20, 0x09, 0x0A, 0x0D] : List UInt8).all (·.toNat < 0x80) = true := rfl
  exact of_decide_eq_true (List.all_eq_true.1 ascii b h)

theorem Encoded.afterDigits (h : Encoded bs) : Encoded (Numeral.afterDigits bs) :=
  h.dropWhile fun _ => toNat_lt_of_isDigit

/-- A sign may be passed over, if one is there. -/
theorem Encoded.afterSign (h : Encoded bs) : Encoded
    (if bs.head? == some '-'.toUInt8 || bs.head? == some '+'.toUInt8 then bs.tail else bs) := by
  split
  · next sign =>
      cases bs with
      | nil => exact nil
      | cons b bs =>
          refine h.tail ?_
          rcases Bool.or_eq_true_iff.1 sign with sign | sign
          all_goals
            cases beq_iff_eq.1 sign
            decide
  · exact h

theorem Encoded.scanExponent (h : Encoded bs) (negative : Bool) (whole fraction : List Nat) :
    Encoded (Numeral.scanExponent negative whole fraction bs).2 := by
  unfold Numeral.scanExponent
  split
  · next e rest =>
      split
      · next mark =>
          have ascii : e.toNat < 0x80 := by
            rcases Bool.or_eq_true_iff.1 mark with mark | mark
            all_goals
              rw [beq_iff_eq.1 mark]
              decide
          have unsigned := (h.tail ascii).afterSign
          dsimp only
          generalize (if rest.head? == some '-'.toUInt8 || rest.head? == some '+'.toUInt8 then
            rest.tail else rest) = digits at unsigned ⊢
          split
          · exact nil
          · exact unsigned.afterDigits
      · exact h
  · exact h

theorem Encoded.scanFraction (h : Encoded bs) (negative : Bool) (whole : List Nat) :
    Encoded (Numeral.scanFraction negative whole bs).2 := by
  unfold Numeral.scanFraction
  split
  · next point rest =>
      split
      · next mark =>
          have ascii : point.toNat < 0x80 := by
            rw [beq_iff_eq.1 mark]
            decide
          split
          · exact nil
          · exact (h.tail ascii).afterDigits.scanExponent _ _ _
      · exact h.scanExponent _ _ _
  · exact h.scanExponent _ _ _

theorem Encoded.scanNumeral (h : Encoded bs) (negative : Bool) :
    Encoded (Numeral.scan negative bs).2 := by
  unfold Numeral.scan
  split
  · exact nil
  · exact nil
  · exact h.afterDigits.scanFraction _ _

theorem Encoded.scanWord {meant : Token} {cs : List Char} (h : Encoded bs)
    (ascii : cs.all (·.toUInt8.toNat < 0x80) = true) (hm : meant.Unsplit) :
    (Token.scanWord meant cs bs).1.Unsplit ∧ Encoded (Token.scanWord meant cs bs).2 := by
  induction cs generalizing bs with
  | nil => exact ⟨hm, h⟩
  | cons c cs ih =>
      cases bs with
      | nil => exact ⟨trivial, nil⟩
      | cons b bs =>
          rw [List.all_cons, Bool.and_eq_true, decide_eq_true_eq] at ascii
          rw [Token.scanWord]
          split
          · next same =>
              rw [beq_iff_eq.1 same] at h
              exact ih (h.tail ascii.1) ascii.2
          · exact ⟨trivial, nil⟩

theorem toNat_lt_of_hexDigit? {n : Nat} (h : hexDigit? b = some n) : b.toNat < 0x80 := by
  grind [hexDigit?]

theorem toNat_lt_of_hexDigits {ds : List UInt8} {n u : Nat}
    (h : ds.foldlM (fun n b => (hexDigit? b).map (16 * n + ·)) n = some u) :
    ∀ b ∈ ds, b.toNat < 0x80 := by
  induction ds generalizing n with
  | nil => exact fun _ hb => absurd hb List.not_mem_nil
  | cons d ds ih =>
      rw [List.foldlM_cons] at h
      obtain ⟨m, hd, h⟩ := Option.bind_eq_some_iff.1 h
      obtain ⟨digit, hd, -⟩ := Option.map_eq_some_iff.1 hd
      exact List.forall_mem_cons.2 ⟨toNat_lt_of_hexDigit? hd, ih h⟩

theorem toNat_lt_of_shortEscape? {c : UInt8} (h : shortEscape? b = some c) :
    b.toNat < 0x80 ∧ c.toNat < 0x80 := by
  unfold shortEscape? at h
  split at h
  case h_9 => cases h
  all_goals
    next hc =>
      cases h
      rw [eq_of_char hc]
      decide

/-- What has been scanned of a text is not split, nor is what has not. -/
theorem scanText_unsplit (before : List Piece)
    (h : Unsplit (before.reverse ++ bs.map .byte)) :
    Unsplit (scanText before bs).1.pieces ∧ Encoded (scanText before bs).2 := by
  fun_induction scanText before bs with
  | case1 before =>
      rw [List.map_nil, List.append_nil] at h
      exact ⟨h, .nil⟩
  | case2 before b bs quote =>
      rw [beq_iff_eq.1 quote] at h
      exact h.split (by decide)
  | case3 before b quote backslash | case4 before b quote backslash
  | case6 before b quote backslash | case8 before b quote backslash =>
      rw [beq_iff_eq.1 backslash] at h
      exact ⟨(h.split (by decide)).1, .nil⟩
  | case5 before b quote backslash e rest unicode long u hex ih =>
      rw [beq_iff_eq.1 backslash, beq_iff_eq.1 unicode] at h
      obtain ⟨scanned, behind⟩ := h.split (by decide)
      have digits : Encoded (rest.take 4 ++ rest.drop 4) := by
        rw [List.take_append_drop]
        exact Encoded.tail behind (by decide)
      refine ih ?_
      rw [List.reverse_cons, List.append_assoc]
      exact scanned.append (.unit u (digits.drop (toNat_lt_of_hexDigits hex)))
  | case7 before b quote backslash e rest unicode c escape ih =>
      rw [beq_iff_eq.1 backslash] at h
      obtain ⟨scanned, behind⟩ := h.split (by decide)
      obtain ⟨he, hc⟩ := toNat_lt_of_shortEscape? escape
      refine ih ?_
      rw [List.reverse_cons, List.append_assoc]
      exact scanned.append ((Encoded.singleton hc).append (Encoded.tail behind he))
  | case9 before b bs quote backslash control =>
      exact ⟨(h.split (Nat.lt_trans control (by decide))).1, .nil⟩
  | case10 before b bs quote backslash printed ih =>
      refine ih ?_
      rw [List.reverse_cons, List.append_assoc]
      exact h

theorem Encoded.scan (h : Encoded (b :: bs)) :
    (Token.scan b bs).1.Unsplit ∧ Encoded (Token.scan b bs).2 := by
  have first {c : Char} (hb : Char.ofNat b.toNat = c) (ascii : c.toUInt8.toNat < 0x80) :
      Encoded bs := by
    rw [eq_of_char hb] at h
    exact h.tail ascii
  fun_cases Token.scan b bs
  case case1 hb | case2 hb | case3 hb | case4 hb | case5 hb | case6 hb =>
    exact ⟨trivial, first hb (by decide)⟩
  case case7 hb | case8 hb | case9 hb =>
    exact (first hb (by decide)).scanWord rfl trivial
  case case10 hb t rest scanned =>
    have cut := scanText_unsplit [] (first hb (by decide))
    rw [scanned] at cut
    exact cut
  case case11 hb n rest scanned =>
    have behind := (first hb (by decide)).scanNumeral true
    rw [scanned] at behind
    exact ⟨trivial, behind⟩
  case case12 n rest scanned _ _ _ _ _ _ _ _ _ _ _ =>
    have behind := h.scanNumeral false
    rw [scanned] at behind
    exact ⟨trivial, behind⟩
  case case13 => exact ⟨trivial, .nil⟩

/-- By induction on the number of bytes, a token at a time. -/
theorem Encoded.tokens (h : Encoded bs) : ∀ t ∈ tokens bs, t.Unsplit := by
  induction hn : bs.length using Nat.strongRecOn generalizing bs with
  | ind n ih =>
      rcases tokens_cases bs with ⟨-, none⟩ | ⟨blanks, b, rest, hb, rfl, cons⟩
      · rw [none]
        exact fun _ ht => absurd ht List.not_mem_nil
      · have ascii : ∀ b ∈ blanks, b.toNat < 0x80 := fun b hm => toNat_lt_of_blank (hb b hm)
        obtain ⟨first, behind⟩ := (h.drop ascii).scan
        have shorter : (Token.scan b rest).2.length < n := by
          have scanned := Token.length_scan b rest
          rw [List.length_append, List.length_cons] at hn
          omega
        rw [cons]
        exact List.forall_mem_cons.2 ⟨first, ih _ shorter behind rfl⟩

end Scanning

/-! ## Reading the texts -/

namespace RawText

theorem decodePieces_bytes (ending : TextEnd) (ps : List Piece) (bs : List UInt8) :
    ∀ read : ByteArray, decodePieces ending read (bs.map .byte ++ ps) =
      decodePieces ending (read ++ bs.toByteArray) ps := by
  induction bs with
  | nil => exact fun _ => by rw [List.toByteArray_nil, ByteArray.append_empty]; rfl
  | cons b bs ih =>
      intro read
      have pushed : read.push b ++ bs.toByteArray = read ++ (b :: bs).toByteArray := by
        apply ByteArray.ext
        simp [ByteArray.data_append]
      exact (ih _).trans (by rw [pushed])

theorem isValidUTF8_pushChar {read : ByteArray} (h : read.IsValidUTF8) (c : Char) :
    (pushChar read c).IsValidUTF8 := by
  rw [pushChar, String.toUTF8_eq_toByteArray]
  exact h.append c.toString.isValidUTF8

/-- Reading the pieces keeps to UTF-8. -/
def Keeps (ending : TextEnd) (ps : List Piece) : Prop :=
  ∀ {read bytes : ByteArray}, read.IsValidUTF8 → decodePieces ending read ps = .ok bytes →
    bytes.IsValidUTF8

/-- A pair of surrogates takes two units at once, so the claim is made of what follows a first unit
as well. -/
theorem keeps_of_unsplit {ps : List Piece} (h : Unsplit ps) (ending : TextEnd) :
    Keeps ending ps ∧ ∀ u qs, ps = .unit u :: qs → Keeps ending qs := by
  induction h with
  | nil =>
      refine ⟨fun {read bytes} valid h => ?_, nofun⟩
      cases ending <;> cases h
      exact valid
  | char c h ih =>
      refine ⟨fun valid h => ?_, fun u qs he => ?_⟩
      · rw [decodePieces_bytes] at h
        exact ih.1 (valid.append ⟨[c], List.utf8Encode_singleton.symm⟩) h
      · cases hc : utf8EncodeChar c with
        | nil => exact absurd hc String.utf8EncodeChar_ne_nil
        | cons b bs =>
            rw [hc] at he
            cases he
  | @unit u ps _ ih =>
      refine ⟨fun valid h => ?_, fun v qs he => ?_⟩
      · rw [decodePieces.eq_def] at h
        dsimp only at h
        split at h
        · cases h
        · split at h
          · split at h
            · cases h
            · cases h
            · next v rest _ =>
                split at h
                · exact ih.2 v rest rfl (isValidUTF8_pushChar valid _) h
                · cases h
          · exact ih.1 (isValidUTF8_pushChar valid _) h
      · cases he
        exact ih.1

/-- Where the bytes of a text can be read at all, they are UTF-8. -/
theorem isValidUTF8_of_unsplit {t : RawText} (h : Unsplit t.pieces) {bytes : ByteArray}
    (hb : decodePieces t.ending .empty t.pieces = .ok bytes) : bytes.IsValidUTF8 :=
  (keeps_of_unsplit h t.ending).1 ByteArray.isValidUTF8_empty hb

end RawText

/-- The bytes of a text. -/
theorem encoded_toUTF8 (text : String) : Encoded text.toUTF8.toList := by
  obtain ⟨cs, he⟩ := text.isValidUTF8
  have bytes : text.toUTF8.toList = cs.flatMap utf8EncodeChar := by
    rw [toList_eq_data_toList, String.toUTF8_eq_toByteArray, he, List.utf8Encode,
      List.data_toByteArray]
  rw [bytes]
  exact .of_chars cs

end VisualNovel.Json
