import Mathlib.Data.List.Chain
import Mathlib.Data.List.TakeWhile
import VisualNovel.Proofs.WellFormed

/-!
# Documents are what has been written

The scanner is put beside the grammar once more, in the other direction: whatever it scans without
finding fault has been spelled by the bytes that it consumed. A number might have been cut short,
for it goes on as long as it can; that it has not been does not show in the number itself, but in
what can follow a number among the tokens of a value (`Token.Apart`).

With what is known about values without a fault this makes the grammar and the reader agree. A value
is written by just those documents that come to it when it can be passed over
(`Value.writes_iff`).
-/

namespace VisualNovel.Json

/-! ## Spelling back what is scanned -/

section Digits

variable {bs : List UInt8}

theorem digitByte_of_isDigit {b : UInt8} (h : Numeral.isDigit b = true) :
    b.toNat - 0x30 < 10 ∧ digitByte (b.toNat - 0x30) = b := by
  obtain ⟨low, high⟩ : 0x30 ≤ b.toNat ∧ b.toNat ≤ 0x39 := by simpa [Numeral.isDigit] using h
  have small : b.toNat - 0x30 < 10 := by omega
  refine ⟨small, UInt8.toNat_inj.1 ?_⟩
  rw [toNat_digitByte small]
  omega

theorem digits_lt (bs : List UInt8) : ∀ d ∈ Numeral.digits bs, d < 10 := by
  intro d hd
  obtain ⟨b, hb, rfl⟩ := List.mem_map.1 hd
  exact (digitByte_of_isDigit (List.mem_takeWhile_imp hb)).1

theorem digits_append_afterDigits (bs : List UInt8) :
    (Numeral.digits bs).map digitByte ++ Numeral.afterDigits bs = bs := by
  have back : (Numeral.digits bs).map digitByte = bs.takeWhile Numeral.isDigit := by
    rw [Numeral.digits, List.map_map]
    refine (List.map_congr_left fun b hb => ?_).trans (List.map_id _)
    exact (digitByte_of_isDigit (List.mem_takeWhile_imp hb)).2
  rw [back]
  exact List.takeWhile_append_dropWhile

theorem digits_of_not_isEmpty (h : ¬ (Numeral.digits bs).isEmpty = true) :
    Digits (Numeral.digits bs) :=
  ⟨fun he => h (List.isEmpty_iff.2 he), digits_lt bs⟩

end Digits

section Numbers

variable {negative : Bool} {whole fraction : List Nat} {bs rest : List UInt8} {n : Numeral}

theorem missingDigit_ne (bs : List UInt8) (n : Numeral) :
    Numeral.missingDigit bs ≠ .numeral n := by
  unfold Numeral.missingDigit
  split <;> exact nofun

theorem eq_cons_of_head? {b : UInt8} (h : (bs.head? == some b) = true) : bs = b :: bs.tail := by
  cases bs with
  | nil => cases h
  | cons c bs => rw [Option.some.inj (beq_iff_eq.1 h), List.tail_cons]

/-- Where digits are needed they stand, since otherwise there is no number. -/
theorem digits_of_some {m : Numeral} (h : (if (Numeral.digits bs).isEmpty = true then
      (Numeral.missingDigit bs, []) else (.numeral m, Numeral.afterDigits bs)) =
        (ScannedNumeral.numeral n, rest)) :
    n = m ∧ Digits (Numeral.digits bs) ∧ bs = (Numeral.digits bs).map digitByte ++ rest := by
  split at h
  · exact absurd (congrArg Prod.fst h) (missingDigit_ne _ _)
  · next some =>
      cases h
      exact ⟨rfl, digits_of_not_isEmpty some, (digits_append_afterDigits bs).symm⟩

theorem spelled_of_scanExponent
    (h : Numeral.scanExponent negative whole fraction bs = (.numeral n, rest)) :
    ∃ exponent e, n = ⟨negative, whole, fraction, exponent⟩ ∧ ExponentSpelling exponent e ∧
      bs = e ++ rest := by
  unfold Numeral.scanExponent at h
  split at h
  · next e behind =>
      split at h
      · next mark =>
          have mark : e = 0x65 ∨ e = 0x45 :=
            (Bool.or_eq_true_iff.1 mark).imp beq_iff_eq.1 beq_iff_eq.1
          dsimp only at h
          -- The sign decides from where the digits are read.
          cases minus : behind.head? == some '-'.toUInt8 with
          | true =>
              rw [minus, Bool.true_or, if_pos rfl] at h
              obtain ⟨rfl, digits, all⟩ := digits_of_some h
              refine ⟨_, _, rfl, .minus mark digits, congrArg (e :: ·) ?_⟩
              exact (eq_cons_of_head? minus).trans (congrArg _ all)
          | false =>
              cases plus : behind.head? == some '+'.toUInt8 with
              | true =>
                  rw [minus, plus, Bool.or_true, if_pos rfl] at h
                  obtain ⟨rfl, digits, all⟩ := digits_of_some h
                  refine ⟨_, _, rfl, .plus mark digits, congrArg (e :: ·) ?_⟩
                  exact (eq_cons_of_head? plus).trans (congrArg _ all)
              | false =>
                  rw [minus, plus, Bool.or_self, if_neg Bool.false_ne_true] at h
                  obtain ⟨rfl, digits, all⟩ := digits_of_some h
                  exact ⟨_, _, rfl, .unsigned mark digits, congrArg (e :: ·) all⟩
      · cases h
        exact ⟨none, [], rfl, .none, rfl⟩
  · cases h
    exact ⟨none, [], rfl, .none, rfl⟩

theorem spelled_of_scanFraction (h : Numeral.scanFraction negative whole bs = (.numeral n, rest)) :
    ∃ fraction exponent f e, n = ⟨negative, whole, fraction, exponent⟩ ∧
      FractionSpelling fraction f ∧ ExponentSpelling exponent e ∧ bs = f ++ e ++ rest := by
  unfold Numeral.scanFraction at h
  split at h
  · next point behind =>
      split at h
      · next mark =>
          split at h
          · exact absurd (congrArg Prod.fst h) (missingDigit_ne _ _)
          · next some =>
              obtain ⟨exponent, e, rfl, he, all⟩ := spelled_of_scanExponent h
              refine ⟨_, exponent, _, e, rfl, .some (digits_of_not_isEmpty some), he, ?_⟩
              rw [beq_iff_eq.1 mark, List.cons_append, List.cons_append, List.append_assoc, ← all,
                digits_append_afterDigits]
              rfl
      · obtain ⟨exponent, e, rfl, he, all⟩ := spelled_of_scanExponent h
        exact ⟨[], exponent, [], e, rfl, .none, he, all⟩
  · obtain ⟨exponent, e, rfl, he, all⟩ := spelled_of_scanExponent h
    exact ⟨[], exponent, [], e, rfl, .none, he, all⟩

theorem spelled_of_scanNumber (h : Numeral.scan negative bs = (.numeral n, rest)) :
    ∃ s, MagnitudeSpelling n s ∧ n.negative = negative ∧ bs = s ++ rest := by
  unfold Numeral.scan at h
  split at h
  · exact absurd (congrArg Prod.fst h) (missingDigit_ne _ _)
  · cases h
  · next some leading =>
      obtain ⟨fraction, exponent, f, e, rfl, hf, he, all⟩ := spelled_of_scanFraction h
      refine ⟨_, .mk ⟨some, digits_lt bs⟩ (fun zero => ?_) hf he, rfl, ?_⟩
      · cases hd : Numeral.digits bs with
        | nil => exact absurd hd some
        | cons d ds =>
            rw [hd] at zero
            cases zero
            cases ds with
            | nil => rfl
            | cons d ds => exact absurd hd (leading d ds)
      · rw [List.append_assoc, List.append_assoc, ← List.append_assoc f, ← all,
          digits_append_afterDigits]

end Numbers

/-- The number of four hexadecimal digits is asked for only where there are four bytes. -/
theorem exists_four {bs : List UInt8} (h : ¬ bs.length < 4) :
    ∃ a b c d rest, bs = a :: b :: c :: d :: rest := by
  match bs with
  | [] | [_] | [_, _] | [_, _, _] => exact absurd (by simp) h
  | a :: b :: c :: d :: rest => exact ⟨a, b, c, d, rest, rfl⟩

/-- The text from some place on is spelled by these bytes, up to its closing quote. -/
def TextBehind (before ps : List Piece) (bs rest : List UInt8) : Prop :=
  ∃ ps' s, ps = before.reverse ++ ps' ∧ PiecesSpelling ps' s ∧ bs = s ++ 0x22 :: rest

theorem TextBehind.cons {before ps : List Piece} {s bs rest : List UInt8} {p : Piece}
    (first : p.Spelling s) (h : TextBehind (p :: before) ps bs rest) :
    TextBehind before ps (s ++ bs) rest := by
  obtain ⟨ps', s', rfl, more, rfl⟩ := h
  refine ⟨p :: ps', s ++ s', ?_, .cons first more, (List.append_assoc _ _ _).symm⟩
  rw [List.reverse_cons, List.append_assoc, List.singleton_append]

theorem textBehind_of_scanText {before : List Piece} {bs : List UInt8} :
    ∀ {ps rest}, scanText before bs = (⟨ps, .closed⟩, rest) → TextBehind before ps bs rest := by
  fun_induction scanText before bs with
  | case1 | case3 | case4 | case6 | case8 | case9 => exact fun h => by cases h
  | case2 before b bs quote =>
      intro ps rest h
      cases h
      refine ⟨[], [], (List.append_nil _).symm, .nil, ?_⟩
      rw [beq_iff_eq.1 quote]
      rfl
  | case5 before b quote backslash e behind unicode long u hex ih =>
      intro ps rest h
      obtain ⟨i, j, k, l, behind, rfl⟩ := exists_four long
      rw [beq_iff_eq.1 backslash, beq_iff_eq.1 unicode]
      exact .cons (.hex hex) (ih h)
  | case7 before b quote backslash e behind short c escape ih =>
      intro ps rest h
      rw [beq_iff_eq.1 backslash]
      exact .cons (.short escape) (ih h)
  | case10 before b behind quote backslash printed ih =>
      intro ps rest h
      have plain : (Piece.byte b).Spelling [b] :=
        .plain (Nat.le_of_not_lt printed) (fun he => quote (beq_iff_eq.2 he))
          fun he => backslash (beq_iff_eq.2 he)
      exact .cons plain (ih h)

/-! ## Spelling back the tokens -/

/-- Nothing is wrong with the token. -/
def Token.Whole : Token → Prop
  | .number (.numeral _) => True
  | .number _ | .badWord _ | .stray => False
  | .text t => t.ending = .closed
  | _ => True

theorem eq_of_char {b : UInt8} {c : Char} (h : Char.ofNat b.toNat = c) : b = c.toUInt8 := by
  subst h
  have valid : b.toNat.isValidChar := .inl (Nat.lt_trans b.toNat_lt (by decide))
  rw [Char.ofNat, dif_pos valid]
  refine UInt8.toNat_inj.1 ?_
  rw [Char.toUInt8, UInt32.toNat_toUInt8]
  exact (Nat.mod_eq_of_lt b.toNat_lt).symm

theorem spelled_of_scanWord {t meant : Token} {cs : List Char} {bs rest : List UInt8}
    (whole : t.Whole) (h : Token.scanWord meant cs bs = (t, rest)) :
    t = meant ∧ bs = cs.map Char.toUInt8 ++ rest := by
  induction cs generalizing bs with
  | nil =>
      rw [Token.scanWord] at h
      cases h
      exact ⟨rfl, rfl⟩
  | cons c cs ih =>
      cases bs with
      | nil =>
          cases h
          cases whole
      | cons b bs =>
          rw [Token.scanWord] at h
          split at h
          · next same =>
              obtain ⟨rfl, rfl⟩ := ih h
              rw [beq_iff_eq.1 same]
              exact ⟨rfl, rfl⟩
          · cases h
            cases whole

theorem spelled_of_number {negative : Bool} {n : ScannedNumeral} {bs rest : List UInt8}
    (whole : (Token.number n).Whole) (h : Numeral.scan negative bs = (n, rest)) :
    ∃ n' s, n = .numeral n' ∧ n'.negative = negative ∧ MagnitudeSpelling n' s ∧ bs = s ++ rest := by
  cases n with
  | numeral n =>
      obtain ⟨s, hs, sign, all⟩ := spelled_of_scanNumber h
      exact ⟨n, s, rfl, sign, hs, all⟩
  | malformed => cases whole
  | cutOff => cases whole

theorem Token.spelled_of_scan {t : Token} {b : UInt8} {bs rest : List UInt8} (whole : t.Whole) :
    Token.scan b bs = (t, rest) → ∃ s, t.Spelling s ∧ b :: bs = s ++ rest := by
  fun_cases Token.scan b bs
  case case1 hb | case2 hb | case3 hb | case4 hb | case5 hb | case6 hb =>
    intro h
    cases h
    rw [eq_of_char hb]
    exact ⟨_, by constructor, rfl⟩
  case case7 hb | case8 hb | case9 hb =>
    intro h
    obtain ⟨rfl, rfl⟩ := spelled_of_scanWord whole h
    rw [eq_of_char hb]
    exact ⟨_, by constructor, rfl⟩
  case case10 hb t rest scanned =>
    intro h
    cases h
    obtain ⟨ps, ending⟩ := t
    obtain rfl : ending = .closed := whole
    obtain ⟨ps, s, rfl, spelled, rfl⟩ := textBehind_of_scanText scanned
    rw [eq_of_char hb]
    exact ⟨0x22 :: s ++ [0x22], .text spelled, by simp; rfl⟩
  case case11 hb n rest scanned =>
    intro h
    cases h
    obtain ⟨n, s, rfl, sign, spelled, rfl⟩ := spelled_of_number whole scanned
    rw [eq_of_char hb]
    exact ⟨0x2D :: s, .negative sign spelled, rfl⟩
  case case12 n rest scanned _ _ _ _ _ _ _ _ _ _ _ =>
    intro h
    cases h
    obtain ⟨n, s, rfl, sign, spelled, all⟩ := spelled_of_number whole scanned
    exact ⟨s, .positive sign spelled, all⟩
  case case13 =>
    intro h
    cases h
    cases whole

/-- Behind a number comes a comma or a closing bracket, if anything. -/
def Token.Apart (t t' : Token) : Prop :=
  ∀ n, t = .number n → t' = .comma ∨ t' = .closeList ∨ t' = .closeMap

theorem isChain_cons_of_ne {t : Token} {ts : List Token} (ne : ∀ n, t ≠ .number n)
    (h : ts.IsChain Token.Apart) : (t :: ts).IsChain Token.Apart :=
  List.isChain_cons.2 ⟨fun _ _ n he => absurd he (ne n), h⟩

theorem isChain_append_cons {t : Token} {ts ts' : List Token}
    (ends : t = .comma ∨ t = .closeList ∨ t = .closeMap) (h : ts.IsChain Token.Apart)
    (h' : ts'.IsChain Token.Apart) : (ts ++ t :: ts').IsChain Token.Apart := by
  refine List.isChain_append.2 ⟨h, isChain_cons_of_ne ?_ h', ?_⟩
  · rcases ends with rfl | rfl | rfl <;> exact nofun
  · intro _ _ t' ht'
    cases ht'
    exact fun _ _ => ends

mutual

theorem Value.Tokens.isChain {v : Value} {ts : List Token} (h : v.Tokens ts) :
    ts.IsChain Token.Apart := by
  match h with
  | .null | .boolean _ | .number _ | .text _ => exact .singleton _
  | .emptyList | .emptyMap => exact isChain_cons_of_ne nofun (.singleton _)
  | .list h =>
      exact isChain_cons_of_ne nofun (isChain_append_cons (.inr (.inl rfl)) h.isChain .nil)
  | .map h =>
      exact isChain_cons_of_ne nofun (isChain_append_cons (.inr (.inr rfl)) h.isChain .nil)

theorem ItemTokens.isChain {vs : List Value} {ts : List Token} (h : ItemTokens vs ts) :
    ts.IsChain Token.Apart := by
  match h with
  | .last h => exact h.isChain
  | .more h rest => exact isChain_append_cons (.inl rfl) h.isChain rest.isChain

theorem MemberTokens.isChain {members : List (RawText × Value)} {ts : List Token}
    (h : MemberTokens members ts) : ts.IsChain Token.Apart := by
  match h with
  | .last h => exact isChain_cons_of_ne nofun (isChain_cons_of_ne nofun h.isChain)
  | .more h rest =>
      exact isChain_cons_of_ne nofun (isChain_cons_of_ne nofun
        (isChain_append_cons (.inl rfl) h.isChain rest.isChain))

end

mutual

theorem Value.Tokens.whole {v : Value} {ts : List Token} (h : v.Tokens ts) :
    ∀ t ∈ ts, t.Whole := by
  match h with
  | .null | .boolean _ | .number _ => exact List.forall_mem_singleton.2 trivial
  | .text _ => exact List.forall_mem_singleton.2 rfl
  | .emptyList | .emptyMap =>
      exact List.forall_mem_cons.2 ⟨trivial, List.forall_mem_singleton.2 trivial⟩
  | .list h | .map h =>
      exact List.forall_mem_cons.2 ⟨trivial, List.forall_mem_append.2
        ⟨h.whole, List.forall_mem_singleton.2 trivial⟩⟩

theorem ItemTokens.whole {vs : List Value} {ts : List Token} (h : ItemTokens vs ts) :
    ∀ t ∈ ts, t.Whole := by
  match h with
  | .last h => exact h.whole
  | .more h rest =>
      exact List.forall_mem_append.2 ⟨h.whole, List.forall_mem_cons.2 ⟨trivial, rest.whole⟩⟩

theorem MemberTokens.whole {members : List (RawText × Value)} {ts : List Token}
    (h : MemberTokens members ts) : ∀ t ∈ ts, t.Whole := by
  match h with
  | .last h => exact List.forall_mem_cons.2 ⟨rfl, List.forall_mem_cons.2 ⟨trivial, h.whole⟩⟩
  | .more h rest =>
      exact List.forall_mem_cons.2 ⟨rfl, List.forall_mem_cons.2 ⟨trivial, List.forall_mem_append.2
        ⟨h.whole, List.forall_mem_cons.2 ⟨trivial, rest.whole⟩⟩⟩⟩

end

theorem tokensBehind_of_blank (before : List Token) {bs : List UInt8}
    (h : bs.dropWhile Token.isSpace = []) : tokensBehind before bs = before.reverse := by
  rw [tokensBehind.eq_def]
  split
  · rfl
  · next he =>
      rw [h] at he
      cases he

theorem tokensBehind_of_solid (before : List Token) {bs : List UInt8} {b : UInt8}
    {rest : List UInt8} (h : bs.dropWhile Token.isSpace = b :: rest) :
    tokensBehind before bs =
      tokensBehind ((Token.scan b rest).1 :: before) (Token.scan b rest).2 := by
  rw [tokensBehind.eq_def]
  split
  · next he =>
      rw [h] at he
      cases he
  · next he =>
      rw [h] at he
      cases he
      rfl

/-- What has been scanned before stays before. -/
theorem tokensBehind_eq_append (before : List Token) (bs : List UInt8) :
    tokensBehind before bs = before.reverse ++ tokens bs := by
  induction hn : bs.length using Nat.strongRecOn generalizing before bs with
  | ind n ih =>
      cases hd : bs.dropWhile Token.isSpace with
      | nil =>
          rw [tokensBehind_of_blank before hd, tokens, tokensBehind_of_blank [] hd]
          exact (List.append_nil _).symm
      | cons b rest =>
          have shorter : (Token.scan b rest).2.length < n := by
            have dropped := (List.dropWhile_sublist (l := bs) Token.isSpace).length_le
            have scanned := Token.length_scan b rest
            rw [hd, List.length_cons] at dropped
            omega
          rw [tokensBehind_of_solid before hd, tokens, tokensBehind_of_solid [] hd,
            ih _ shorter _ _ rfl, ih _ shorter _ _ rfl]
          simp

theorem mem_blank_of_isSpace {b : UInt8} (h : Token.isSpace b = true) :
    b ∈ [0x20, 0x09, 0x0A, 0x0D] := by
  simp only [Token.isSpace, Bool.or_eq_true, beq_iff_eq] at h
  rcases h with ((rfl | rfl) | rfl) | rfl <;> simp

/-- A document either is blank, or it begins with a token behind some blanks. -/
theorem tokens_cases (bs : List UInt8) : (Blanks bs ∧ tokens bs = []) ∨
    ∃ blanks b rest, Blanks blanks ∧ bs = blanks ++ b :: rest ∧
      tokens bs = (Token.scan b rest).1 :: tokens (Token.scan b rest).2 := by
  have blanks : Blanks (bs.takeWhile Token.isSpace) := fun b hb =>
    mem_blank_of_isSpace (List.mem_takeWhile_imp hb)
  have split : bs.takeWhile Token.isSpace ++ bs.dropWhile Token.isSpace = bs :=
    List.takeWhile_append_dropWhile
  cases hd : bs.dropWhile Token.isSpace with
  | nil =>
      rw [hd, List.append_nil] at split
      exact .inl ⟨split ▸ blanks, tokensBehind_of_blank [] hd⟩
  | cons b rest =>
      rw [hd] at split
      refine .inr ⟨_, b, rest, blanks, split.symm, ?_⟩
      rw [tokens, tokensBehind_of_solid [] hd, tokensBehind_eq_append]
      rfl

theorem Spelled.numberEnds {ts : List Token} {bs : List UInt8} (h : Spelled ts bs)
    (apart : ∀ t ∈ ts.head?, t = .comma ∨ t = .closeList ∨ t = .closeMap) : NumberEnds bs := by
  have blank : ∀ b ∈ ([0x20, 0x09, 0x0A, 0x0D] : List UInt8),
      b ∈ ([0x20, 0x09, 0x0A, 0x0D, 0x2C, 0x5D, 0x7D] : List UInt8) := by
    intro b hb
    exact List.mem_append_left [0x2C, 0x5D, 0x7D] hb
  intro b hb
  cases h with
  | nil h => exact blank b (h b (List.mem_of_head? hb))
  | @cons blanks s rest t ts h first ends more =>
      cases blanks with
      | cons b' blanks =>
          cases hb
          exact blank b (h b List.mem_cons_self)
      | nil =>
          rcases apart t rfl with rfl | rfl | rfl
          all_goals
            cases first
            cases hb
            simp

theorem spelled_tokens (bs : List UInt8) (whole : ∀ t ∈ tokens bs, t.Whole)
    (apart : (tokens bs).IsChain Token.Apart) : Spelled (tokens bs) bs := by
  induction hn : bs.length using Nat.strongRecOn generalizing bs with
  | ind n ih =>
      rcases tokens_cases bs with ⟨blanks, none⟩ | ⟨blanks, b, behind, hb, rfl, some⟩
      · rw [none]
        exact .nil blanks
      · rw [some] at whole apart ⊢
        obtain ⟨first, others⟩ := List.forall_mem_cons.1 whole
        obtain ⟨next, chain⟩ := List.isChain_cons.1 apart
        obtain ⟨s, spelling, split⟩ := Token.spelled_of_scan first rfl
        have shorter : (Token.scan b behind).2.length < n := by
          have scanned := Token.length_scan b behind
          rw [List.length_append, List.length_cons] at hn
          omega
        have more := ih _ shorter _ others chain rfl
        rw [split, ← List.append_assoc]
        refine .cons hb spelling (fun m hm => more.numberEnds fun t ht => ?_) more
        exact next t ht m hm

/-- A value is written by just those documents that come to it and to nothing else, provided that
nothing is wrong with it. -/
theorem Value.writes_iff {v : Value} {bs : List UInt8} :
    v.Writes bs ↔ Document.ofBytes bs = ⟨v, false⟩ ∧ v.skip = .ok () := by
  constructor
  · rintro ⟨ts, tokens, spelled⟩
    exact ⟨Document.ofBytes_writes ⟨ts, tokens, spelled⟩, tokens.skip_eq⟩
  · rintro ⟨read, skip⟩
    have read : Document.ofTokens (tokens bs) = ⟨v, false⟩ := read
    have passes : (Document.ofTokens (tokens bs)).Passes := by
      rw [read]
      exact ⟨skip, rfl⟩
    have made := Document.tokens_of_passes passes
    rw [read] at made
    exact ⟨tokens bs, made, spelled_tokens bs made.whole made.isChain⟩

/-- A document writes one value only. -/
theorem Value.Writes.unique {v v' : Value} {bs : List UInt8} (h : v.Writes bs)
    (h' : v'.Writes bs) : v = v' := by
  have read := (writes_iff.1 h).1.symm.trans (writes_iff.1 h').1
  exact congrArg Document.value read

end VisualNovel.Json
