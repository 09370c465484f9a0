import VisualNovel.Json.Value

/-!
# How documents are written

A document is written as a sequence of tokens, with blanks between them wherever one likes. Here is
the grammar: how each token is spelled (`Token.Spelling`), which tokens make up a value
(`Value.Tokens`), and which bytes write it therefore (`Value.Writes`). It does not mention the
scanner. That the scanner and what puts its tokens together get every written value back is the
point of this file (`Document.ofBytes_writes`).

Nearly every token shows by itself where it ends. A number does not: it goes on as long as it can.
So the grammar says what may stand behind one, and the scanner has to stop there and not before.
-/

namespace VisualNovel.Json

/-! ## The spelling of tokens -/

/-- Bytes that may stand between tokens. -/
def Blanks (bs : List UInt8) : Prop := ∀ b ∈ bs, b ∈ [0x20, 0x09, 0x0A, 0x0D]

/-- A decimal digit. -/
def digitByte (d : Nat) : UInt8 := UInt8.ofNat (0x30 + d)

/-- Digits of a number; there is at least one. -/
def Digits (ds : List Nat) : Prop := ds ≠ [] ∧ ∀ d ∈ ds, d < 10

/-- How a fraction is spelled, if there is one. -/
inductive FractionSpelling : List Nat → List UInt8 → Prop
  | none : FractionSpelling [] []
  | some {ds : List Nat} (digits : Digits ds) : FractionSpelling ds (0x2E :: ds.map digitByte)

/-- How an exponent is spelled, if there is one. -/
inductive ExponentSpelling : Option Exponent → List UInt8 → Prop
  | none : ExponentSpelling none []
  | unsigned {e : UInt8} {ds : List Nat} (mark : e = 0x65 ∨ e = 0x45) (digits : Digits ds) :
    ExponentSpelling (some ⟨false, ds⟩) (e :: ds.map digitByte)
  | plus {e : UInt8} {ds : List Nat} (mark : e = 0x65 ∨ e = 0x45) (digits : Digits ds) :
    ExponentSpelling (some ⟨false, ds⟩) (e :: 0x2B :: ds.map digitByte)
  | minus {e : UInt8} {ds : List Nat} (mark : e = 0x65 ∨ e = 0x45) (digits : Digits ds) :
    ExponentSpelling (some ⟨true, ds⟩) (e :: 0x2D :: ds.map digitByte)

/-- How a number without its sign is spelled. Only zero itself begins with a zero. -/
inductive MagnitudeSpelling : Numeral → List UInt8 → Prop
  | mk {negative : Bool} {whole fraction : List Nat} {exponent : Option Exponent}
    {f e : List UInt8} (digits : Digits whole) (leading : whole.head? = some 0 → whole = [0])
    (hf : FractionSpelling fraction f) (he : ExponentSpelling exponent e) :
    MagnitudeSpelling ⟨negative, whole, fraction, exponent⟩ (whole.map digitByte ++ f ++ e)

/-- How a part of a text is spelled. -/
inductive Piece.Spelling : Piece → List UInt8 → Prop
  /-- Neither a control character nor a quote or a backslash. -/
  | plain {b : UInt8} (printed : 0x20 ≤ b.toNat) (quote : b ≠ 0x22) (backslash : b ≠ 0x5C) :
    Piece.Spelling (.byte b) [b]
  | short {e b : UInt8} (h : shortEscape? e = some b) : Piece.Spelling (.byte b) [0x5C, e]
  | hex {a b c d : UInt8} {u : Nat} (h : hexNumber? [a, b, c, d] = some u) :
    Piece.Spelling (.unit u) [0x5C, 0x75, a, b, c, d]

/-- How the parts of a text are spelled, one after the other. -/
inductive PiecesSpelling : List Piece → List UInt8 → Prop
  | nil : PiecesSpelling [] []
  | cons {p : Piece} {ps : List Piece} {s s' : List UInt8} (first : p.Spelling s)
    (rest : PiecesSpelling ps s') : PiecesSpelling (p :: ps) (s ++ s')

/-- How a token is spelled. -/
inductive Token.Spelling : Token → List UInt8 → Prop
  | openList : Token.Spelling .openList [0x5B]
  | closeList : Token.Spelling .closeList [0x5D]
  | openMap : Token.Spelling .openMap [0x7B]
  | closeMap : Token.Spelling .closeMap [0x7D]
  | comma : Token.Spelling .comma [0x2C]
  | colon : Token.Spelling .colon [0x3A]
  | null : Token.Spelling .null [0x6E, 0x75, 0x6C, 0x6C]
  | yes : Token.Spelling (.boolean true) [0x74, 0x72, 0x75, 0x65]
  | no : Token.Spelling (.boolean false) [0x66, 0x61, 0x6C, 0x73, 0x65]
  | positive {n : Numeral} {s : List UInt8} (sign : n.negative = false)
    (h : MagnitudeSpelling n s) : Token.Spelling (.number (.numeral n)) s
  | negative {n : Numeral} {s : List UInt8} (sign : n.negative = true)
    (h : MagnitudeSpelling n s) : Token.Spelling (.number (.numeral n)) (0x2D :: s)
  | text {ps : List Piece} {s : List UInt8} (h : PiecesSpelling ps s) :
    Token.Spelling (.text ⟨ps, .closed⟩) (0x22 :: s ++ [0x22])

/-- A number ends where the document does, or before a blank, a comma or a closing bracket. -/
def NumberEnds (rest : List UInt8) : Prop :=
  ∀ b ∈ rest.head?, b ∈ [0x20, 0x09, 0x0A, 0x0D, 0x2C, 0x5D, 0x7D]

/-- Some tokens, spelled one after the other, with blanks before, between and behind them. -/
inductive Spelled : List Token → List UInt8 → Prop
  | nil {blanks : List UInt8} (h : Blanks blanks) : Spelled [] blanks
  | cons {blanks s rest : List UInt8} {t : Token} {ts : List Token} (h : Blanks blanks)
    (first : t.Spelling s) (ends : ∀ n, t = .number n → NumberEnds rest)
    (more : Spelled ts rest) : Spelled (t :: ts) (blanks ++ s ++ rest)

/-! ## The tokens of values -/

mutual

/-- The tokens that make up a value. -/
inductive Value.Tokens : Value → List Token → Prop
  | null : Value.Tokens .null [.null]
  | boolean (b : Bool) : Value.Tokens (.boolean b) [.boolean b]
  | number (n : Numeral) : Value.Tokens (.number (.numeral n)) [.number (.numeral n)]
  | text (ps : List Piece) : Value.Tokens (.text ⟨ps, .closed⟩) [.text ⟨ps, .closed⟩]
  | emptyList : Value.Tokens (.list [] .closed) [.openList, .closeList]
  | list {items : List Value} {ts : List Token} (h : ItemTokens items ts) :
    Value.Tokens (.list items .closed) (.openList :: (ts ++ [.closeList]))
  | emptyMap : Value.Tokens (.map [] .closed) [.openMap, .closeMap]
  | map {members : List (RawText × Value)} {ts : List Token} (h : MemberTokens members ts) :
    Value.Tokens (.map members .closed) (.openMap :: (ts ++ [.closeMap]))

/-- The tokens that make up the entries of a list. -/
inductive ItemTokens : List Value → List Token → Prop
  | last {v : Value} {ts : List Token} (h : v.Tokens ts) : ItemTokens [v] ts
  | more {v : Value} {vs : List Value} {ts ts' : List Token} (h : v.Tokens ts)
    (rest : ItemTokens vs ts') : ItemTokens (v :: vs) (ts ++ .comma :: ts')

/-- The tokens that make up the members of a map. -/
inductive MemberTokens : List (RawText × Value) → List Token → Prop
  | last {ps : List Piece} {v : Value} {ts : List Token} (h : v.Tokens ts) :
    MemberTokens [(⟨ps, .closed⟩, v)] (.text ⟨ps, .closed⟩ :: .colon :: ts)
  | more {ps : List Piece} {v : Value} {members : List (RawText × Value)} {ts ts' : List Token}
    (h : v.Tokens ts) (rest : MemberTokens members ts') :
    MemberTokens ((⟨ps, .closed⟩, v) :: members)
      (.text ⟨ps, .closed⟩ :: .colon :: (ts ++ .comma :: ts'))

end

/-- The bytes write the value. -/
def Value.Writes (v : Value) (bs : List UInt8) : Prop := ∃ ts, v.Tokens ts ∧ Spelled ts bs

/-! ## Putting the tokens of a value together -/

namespace Progress

/-- Takes some tokens. -/
def feed (p : Progress) (ts : List Token) : Progress := ts.foldl next p

@[simp] theorem feed_nil (p : Progress) : p.feed [] = p := rfl

@[simp] theorem feed_cons (p : Progress) (t : Token) (ts : List Token) :
    p.feed (t :: ts) = (p.next t).feed ts := rfl

@[simp] theorem feed_append (p : Progress) (ts ts' : List Token) :
    p.feed (ts ++ ts') = (p.feed ts).feed ts' := List.foldl_append

end Progress

theorem Value.Tokens.exists_cons {v : Value} {ts : List Token} (h : v.Tokens ts) :
    ∃ t ts', ts = t :: ts' ∧ t ≠ .closeList := by
  cases h <;> exact ⟨_, _, rfl, nofun⟩

theorem ItemTokens.exists_cons {vs : List Value} {ts : List Token} (h : ItemTokens vs ts) :
    ∃ t ts', ts = t :: ts' ∧ t ≠ .closeList := by
  cases h with
  | last h => exact h.exists_cons
  | more h rest =>
      obtain ⟨t, ts', rfl, ht⟩ := h.exists_cons
      exact ⟨t, _, rfl, ht⟩

/-- Behind an opening bracket or a comma an entry may come as it would anywhere. -/
theorem ItemTokens.feed_opened {vs : List Value} {ts : List Token} (h : ItemTokens vs ts)
    (frames : List Frame) :
    (Progress.listOpened frames).feed ts = (Progress.due (.list [] :: frames)).feed ts := by
  obtain ⟨t, ts', rfl, ht⟩ := h.exists_cons
  cases t <;> first | rfl | exact absurd rfl ht

theorem ItemTokens.feed_comma {vs : List Value} {ts : List Token} (h : ItemTokens vs ts)
    (items : List Value) (frames : List Frame) :
    (Progress.listComma items frames).feed ts = (Progress.due (.list items :: frames)).feed ts := by
  obtain ⟨t, ts', rfl, ht⟩ := h.exists_cons
  cases t <;> first | rfl | exact absurd rfl ht

/-- Members begin with a key, whether they stand behind an opening bracket or a comma. -/
theorem MemberTokens.exists_key {members : List (RawText × Value)} {ts : List Token}
    (h : MemberTokens members ts) : ∃ key ts', ts = .text key :: ts' := by
  cases h <;> exact ⟨_, _, rfl⟩

theorem MemberTokens.feed_opened {members : List (RawText × Value)} {ts : List Token}
    (h : MemberTokens members ts) (frames : List Frame) :
    (Progress.mapOpened frames).feed ts = (Progress.mapComma [] frames).feed ts := by
  obtain ⟨key, ts', rfl⟩ := h.exists_key
  rfl

mutual

theorem Value.Tokens.feed_due {v : Value} {ts : List Token} (h : v.Tokens ts)
    (frames : List Frame) : (Progress.due frames).feed ts = .complete v frames := by
  match h with
  | .null => rfl
  | .boolean b => rfl
  | .number n => rfl
  | .text ps => rfl
  | .emptyList => rfl
  | .list h =>
      show (Progress.listOpened frames).feed (_ ++ _) = _
      rw [Progress.feed_append, h.feed_opened, ← Progress.feed_append, h.feed_items]
      rfl
  | .emptyMap => rfl
  | .map h =>
      show (Progress.mapOpened frames).feed (_ ++ _) = _
      rw [Progress.feed_append, h.feed_opened, ← Progress.feed_append, h.feed_members]
      rfl

theorem ItemTokens.feed_items {vs : List Value} {ts : List Token} (h : ItemTokens vs ts)
    (before : List Value) (frames : List Frame) :
    (Progress.due (.list before :: frames)).feed (ts ++ [.closeList]) =
      .complete (.list (before.reverse ++ vs) .closed) frames := by
  match h with
  | .last h =>
      rw [Progress.feed_append, h.feed_due, ← List.reverse_cons]
      rfl
  | @ItemTokens.more v _ _ _ h rest =>
      rw [List.append_assoc, Progress.feed_append, h.feed_due, List.cons_append]
      show (Progress.listComma (v :: before) frames).feed (_ ++ _) = _
      rw [Progress.feed_append, rest.feed_comma, ← Progress.feed_append, rest.feed_items,
        List.reverse_cons, List.append_assoc]
      rfl

theorem MemberTokens.feed_members {members : List (RawText × Value)} {ts : List Token}
    (h : MemberTokens members ts) (before : List (RawText × Value)) (frames : List Frame) :
    (Progress.mapComma before frames).feed (ts ++ [.closeMap]) =
      .complete (.map (before.reverse ++ members) .closed) frames := by
  match h with
  | @MemberTokens.last ps _ _ h =>
      show (Progress.due (.map before ⟨ps, .closed⟩ :: frames)).feed (_ ++ _) = _
      rw [Progress.feed_append, h.feed_due, ← List.reverse_cons]
      rfl
  | @MemberTokens.more ps v _ _ _ h rest =>
      show (Progress.due (.map before ⟨ps, .closed⟩ :: frames)).feed ((_ ++ _) ++ _) = _
      rw [List.append_assoc, Progress.feed_append, h.feed_due]
      show (Progress.mapComma ((⟨ps, .closed⟩, v) :: before) frames).feed (_ ++ _) = _
      rw [rest.feed_members, List.reverse_cons, List.append_assoc]
      rfl

end

theorem Value.Tokens.ofTokens {v : Value} {ts : List Token} (h : v.Tokens ts) :
    Document.ofTokens ts = ⟨v, false⟩ :=
  congrArg Progress.finish (h.feed_due [])

/-! ## Scanning what is spelled -/

theorem toNat_digitByte {d : Nat} (h : d < 10) : (digitByte d).toNat = 0x30 + d := by
  rw [digitByte, UInt8.toNat_ofNat']
  omega

theorem isDigit_digitByte {d : Nat} (h : d < 10) : Numeral.isDigit (digitByte d) = true := by
  rw [Numeral.isDigit, toNat_digitByte h]
  simp
  omega

section Digits

variable {ds : List Nat} {rest : List UInt8}

/-- No digit follows. -/
def NoDigit (rest : List UInt8) : Prop := ∀ b ∈ rest.head?, Numeral.isDigit b = false

theorem digits_append (h : ∀ d ∈ ds, d < 10) (ends : NoDigit rest) :
    Numeral.digits (ds.map digitByte ++ rest) = ds := by
  have none : rest.takeWhile Numeral.isDigit = [] := by
    cases rest with
    | nil => rfl
    | cons b rest => exact List.takeWhile_cons_of_neg (by simp [ends b rfl])
  have all : ∀ b ∈ ds.map digitByte, Numeral.isDigit b = true := by
    intro b hb
    obtain ⟨d, hd, rfl⟩ := List.mem_map.1 hb
    exact isDigit_digitByte (h d hd)
  rw [Numeral.digits, List.takeWhile_append_of_pos all, none, List.append_nil, List.map_map]
  refine (List.map_congr_left fun d hd => ?_).trans (List.map_id ds)
  rw [Function.comp_apply, toNat_digitByte (h d hd), Nat.add_sub_cancel_left]
  rfl

theorem afterDigits_append (h : ∀ d ∈ ds, d < 10) (ends : NoDigit rest) :
    Numeral.afterDigits (ds.map digitByte ++ rest) = rest := by
  have all : ∀ b ∈ ds.map digitByte, Numeral.isDigit b = true := by
    intro b hb
    obtain ⟨d, hd, rfl⟩ := List.mem_map.1 hb
    exact isDigit_digitByte (h d hd)
  rw [Numeral.afterDigits, List.dropWhile_append_of_pos all]
  cases rest with
  | nil => rfl
  | cons b rest => exact List.dropWhile_cons_of_neg (by simp [ends b rfl])

end Digits

theorem eq_false_of_all {p : UInt8 → Bool} {bs : List UInt8} (h : bs.all (!p ·) = true) {b : UInt8}
    (hb : b ∈ bs) : p b = false := by
  simpa using List.all_eq_true.1 h b hb

/-- What may stand behind a number is no part of one. -/
theorem NumberEnds.head?_eq_false {rest : List UInt8} (ends : NumberEnds rest) {p : UInt8 → Bool}
    (h : [0x20, 0x09, 0x0A, 0x0D, 0x2C, 0x5D, 0x7D].all (!p ·) = true) :
    ∀ b ∈ rest.head?, p b = false := fun b hb => eq_false_of_all h (ends b hb)

theorem NumberEnds.noDigit {rest : List UInt8} (ends : NumberEnds rest) : NoDigit rest :=
  ends.head?_eq_false rfl

theorem digitByte_ne {d : Nat} (h : d < 10) {b : UInt8} (hb : b.toNat < 0x30) :
    digitByte d ≠ b := by
  rintro rfl
  rw [toNat_digitByte h] at hb
  omega

theorem isEmpty_eq_false_of_digits {ds : List Nat} (h : Digits ds) : ds.isEmpty = false :=
  List.isEmpty_eq_false_iff.2 h.1

/-- The sign is told from the first digit, and read over if there is one. -/
theorem head?_digits {ds : List Nat} (h : Digits ds) (rest : List UInt8) {b : UInt8}
    (hb : b.toNat < 0x30) : ((ds.map digitByte ++ rest).head? == some b) = false := by
  obtain ⟨ne, all⟩ := h
  cases ds with
  | nil => exact absurd rfl ne
  | cons d ds => exact beq_eq_false_iff_ne.2 fun he =>
      digitByte_ne (all d List.mem_cons_self) hb (Option.some.inj he)

theorem scanExponent_append {exponent : Option Exponent} {e rest : List UInt8}
    (he : ExponentSpelling exponent e) (ends : NumberEnds rest) (negative : Bool)
    (whole fraction : List Nat) : Numeral.scanExponent negative whole fraction (e ++ rest) =
      (.numeral ⟨negative, whole, fraction, exponent⟩, rest) := by
  have marked : ∀ {e : UInt8}, e = 0x65 ∨ e = 0x45 →
      (e == 'e'.toUInt8 || e == 'E'.toUInt8) = true := by
    rintro _ (rfl | rfl) <;> rfl
  cases he with
  | none =>
      cases rest with
      | nil => rfl
      | cons b rest =>
          have other : (b == 'e'.toUInt8 || b == 'E'.toUInt8) = false :=
            ends.head?_eq_false (p := fun b => b == 'e'.toUInt8 || b == 'E'.toUInt8) rfl b rfl
          rw [List.nil_append, Numeral.scanExponent, other]
          rfl
  | unsigned mark digits =>
      have minus := head?_digits digits rest (b := '-'.toUInt8) (by decide)
      have plus := head?_digits digits rest (b := '+'.toUInt8) (by decide)
      rw [List.cons_append, Numeral.scanExponent, if_pos (marked mark)]
      simp only [minus, plus, digits_append digits.2 ends.noDigit,
        afterDigits_append digits.2 ends.noDigit, isEmpty_eq_false_of_digits digits, Bool.or_self,
        Bool.false_eq_true, if_false]
  | plus mark digits =>
      have minus : (some (0x2B : UInt8) == some '-'.toUInt8) = false := by decide
      have plus : (some (0x2B : UInt8) == some '+'.toUInt8) = true := by decide
      rw [List.cons_append, List.cons_append, Numeral.scanExponent, if_pos (marked mark)]
      simp only [List.head?_cons, List.tail_cons, minus, plus, digits_append digits.2 ends.noDigit,
        afterDigits_append digits.2 ends.noDigit, isEmpty_eq_false_of_digits digits, Bool.or_true,
        Bool.false_eq_true, if_true, if_false]
  | minus mark digits =>
      have minus : (some (0x2D : UInt8) == some '-'.toUInt8) = true := by decide
      rw [List.cons_append, List.cons_append, Numeral.scanExponent, if_pos (marked mark)]
      simp only [List.head?_cons, List.tail_cons, minus, digits_append digits.2 ends.noDigit,
        afterDigits_append digits.2 ends.noDigit, isEmpty_eq_false_of_digits digits, Bool.true_or,
        Bool.false_eq_true, if_true, if_false]

/-- Behind the digits of a number comes the mark of an exponent, or what may stand behind the
number. -/
theorem ExponentSpelling.head?_eq_false {exponent : Option Exponent} {e rest : List UInt8}
    (he : ExponentSpelling exponent e) (ends : NumberEnds rest) {p : UInt8 → Bool}
    (h : [0x65, 0x45, 0x20, 0x09, 0x0A, 0x0D, 0x2C, 0x5D, 0x7D].all (!p ·) = true) :
    ∀ b ∈ (e ++ rest).head?, p b = false := by
  intro b hb
  refine eq_false_of_all h ?_
  cases he with
  | none => exact List.mem_cons_of_mem _ (List.mem_cons_of_mem _ (ends b hb))
  | unsigned mark | plus mark | minus mark =>
      cases hb
      rcases mark with rfl | rfl <;> simp

theorem scanFraction_append {fraction : List Nat} {exponent : Option Exponent}
    {f e rest : List UInt8} (hf : FractionSpelling fraction f) (he : ExponentSpelling exponent e)
    (ends : NumberEnds rest) (negative : Bool) (whole : List Nat) :
    Numeral.scanFraction negative whole (f ++ (e ++ rest)) =
      (.numeral ⟨negative, whole, fraction, exponent⟩, rest) := by
  have behind := scanExponent_append he ends negative whole
  cases hf with
  | none =>
      have other := he.head?_eq_false ends (p := (· == '.'.toUInt8)) rfl
      rw [List.nil_append, ← behind]
      generalize e ++ rest = bs at other
      cases bs with
      | nil => rfl
      | cons b bs =>
          rw [Numeral.scanFraction, other b rfl]
          rfl
  | some digits =>
      have next : NoDigit (e ++ rest) := he.head?_eq_false ends rfl
      rw [List.cons_append, Numeral.scanFraction, if_pos (by rfl), digits_append digits.2 next,
        afterDigits_append digits.2 next, isEmpty_eq_false_of_digits digits]
      exact behind _

theorem scan_append {n : Numeral} {s rest : List UInt8} (h : MagnitudeSpelling n s)
    (ends : NumberEnds rest) : Numeral.scan n.negative (s ++ rest) = (.numeral n, rest) := by
  obtain @⟨negative, whole, fraction, exponent, f, e, digits, leading, hf, he⟩ := h
  have next : NoDigit (f ++ (e ++ rest)) := by
    cases hf with
    | none => exact he.head?_eq_false ends rfl
    | some digits =>
        rintro b hb
        cases hb
        rfl
  have behind := scanFraction_append hf he ends negative whole
  rw [List.append_assoc, List.append_assoc, Numeral.scan, digits_append digits.2 next,
    afterDigits_append digits.2 next]
  cases whole with
  | nil => exact absurd rfl digits.1
  | cons d ds =>
      cases d with
      | succ d => exact behind
      | zero =>
          cases ds with
          | nil => exact behind
          | cons d ds => cases leading rfl

/-! ## Texts -/

theorem scanText_append {ps : List Piece} {s : List UInt8} (h : PiecesSpelling ps s)
    (rest : List UInt8) (before : List Piece) : scanText before (s ++ 0x22 :: rest) =
      (⟨before.reverse ++ ps, .closed⟩, rest) := by
  induction h generalizing before with
  | nil =>
      rw [List.nil_append, scanText.eq_def]
      dsimp only
      rw [if_pos (by decide), List.append_nil]
  | @cons p ps s s' first more ih =>
      have next := ih (p :: before)
      rw [List.reverse_cons, List.append_assoc, List.singleton_append] at next
      rw [List.append_assoc, ← next]
      cases first with
      | @plain b printed quote backslash =>
          have isQuote : ¬ (b == '"'.toUInt8) = true := fun h => quote (beq_iff_eq.1 h)
          have isBackslash : ¬ (b == '\\'.toUInt8) = true := fun h => backslash (beq_iff_eq.1 h)
          rw [List.singleton_append, scanText.eq_def]
          dsimp only
          rw [if_neg isQuote, if_neg isBackslash, if_neg (by omega)]
      | @short e b h =>
          have other : ¬ (e == 'u'.toUInt8) = true := by
            intro he
            rw [beq_iff_eq.1 he] at h
            cases h
          rw [List.cons_append, List.singleton_append, scanText.eq_def]
          dsimp only
          rw [if_neg (by decide), if_pos (by decide), if_neg other, h]
      | @hex a b c d u h =>
          simp only [List.cons_append, List.nil_append]
          rw [scanText.eq_def]
          dsimp only
          have four : (a :: b :: c :: d :: (s' ++ 0x22 :: rest)).take 4 = [a, b, c, d] := rfl
          rw [if_neg (by decide), if_pos (by decide), if_pos (by decide), if_neg (by simp), four, h]
          rfl

/-! ## Tokens -/

/-- A digit begins a number. -/
theorem scan_digitByte {d : Nat} (h : d < 10) (bs : List UInt8) :
    Token.isSpace (digitByte d) = false ∧ Token.scan (digitByte d) bs =
      (Numeral.scan false (digitByte d :: bs)).map Token.number id := by
  match d, h with
  | 0, _ | 1, _ | 2, _ | 3, _ | 4, _ | 5, _ | 6, _ | 7, _ | 8, _ | 9, _ => exact ⟨rfl, rfl⟩

/-- The first byte of a token is no blank, and from it on the token is scanned as far as it goes. -/
theorem Token.Spelling.scan_append {t : Token} {s rest : List UInt8} (h : t.Spelling s)
    (ends : ∀ n, t = .number n → NumberEnds rest) : ∃ b bs, s ++ rest = b :: bs ∧
      Token.isSpace b = false ∧ Token.scan b bs = (t, rest) := by
  cases h with
  | openList | closeList | openMap | closeMap | comma | colon => exact ⟨_, _, rfl, rfl, rfl⟩
  | null | yes | no => exact ⟨_, _, rfl, rfl, rfl⟩
  | @text ps s h =>
      refine ⟨0x22, s ++ 0x22 :: rest, by simp, rfl, ?_⟩
      show (scanText [] (s ++ 0x22 :: rest)).map Token.text id = _
      rw [scanText_append h]
      rfl
  | @negative n s sign h =>
      refine ⟨0x2D, s ++ rest, rfl, rfl, ?_⟩
      have scanned := Json.scan_append h (ends _ rfl)
      rw [sign] at scanned
      show (Numeral.scan true (s ++ rest)).map Token.number id = _
      rw [scanned]
      rfl
  | @positive n s sign h =>
      have scanned := Json.scan_append h (ends _ rfl)
      rw [sign] at scanned
      obtain ⟨d, bs, he, hd⟩ : ∃ d bs, s = digitByte d :: bs ∧ d < 10 := by
        obtain @⟨negative, whole, fraction, exponent, f, e, digits, leading, hf, he⟩ := h
        cases whole with
        | nil => exact absurd rfl digits.1
        | cons d ds => exact ⟨d, _, rfl, digits.2 d List.mem_cons_self⟩
      obtain ⟨solid, digit⟩ := scan_digitByte hd (bs ++ rest)
      rw [he, List.cons_append] at scanned
      refine ⟨digitByte d, bs ++ rest, by rw [he]; rfl, solid, ?_⟩
      rw [digit, scanned]
      rfl

/-- Blanks are passed over. -/
theorem dropWhile_blanks {blanks : List UInt8} (h : Blanks blanks) (rest : List UInt8) :
    (blanks ++ rest).dropWhile Token.isSpace = rest.dropWhile Token.isSpace := by
  have space : [0x20, 0x09, 0x0A, 0x0D].all Token.isSpace = true := rfl
  exact List.dropWhile_append_of_pos fun b hb => List.all_eq_true.1 space b (h b hb)

/-- The tokens are got back that have been spelled. -/
theorem Spelled.tokensBehind_eq {ts : List Token} {bs : List UInt8} (h : Spelled ts bs)
    (before : List Token) : tokensBehind before bs = before.reverse ++ ts := by
  induction h generalizing before with
  | @nil blanks h =>
      have passed := dropWhile_blanks h []
      rw [List.append_nil, List.dropWhile_nil] at passed
      rw [tokensBehind.eq_def]
      split
      · rw [List.append_nil]
      · next he =>
          rw [passed] at he
          cases he
  | @cons blanks s rest t ts h first ends more ih =>
      obtain ⟨b, bs, he, solid, scanned⟩ := first.scan_append ends
      have behind : (blanks ++ s ++ rest).dropWhile Token.isSpace = b :: bs := by
        rw [List.append_assoc, dropWhile_blanks h, he]
        exact List.dropWhile_cons_of_neg (by simp [solid])
      rw [tokensBehind.eq_def]
      split
      · next none =>
          rw [behind] at none
          cases none
      · next b' bs' some =>
          rw [behind] at some
          cases some
          rw [scanned, ih, List.reverse_cons, List.append_assoc, List.singleton_append]

/-- A document that writes a value is read as that value. -/
theorem Document.ofBytes_writes {v : Value} {bs : List UInt8} (h : v.Writes bs) :
    Document.ofBytes bs = ⟨v, false⟩ := by
  obtain ⟨ts, tokens, spelled⟩ := h
  rw [Document.ofBytes, Json.tokens, spelled.tokensBehind_eq, List.reverse_nil, List.nil_append]
  exact tokens.ofTokens

/-! ## One way to spell tokens

To write a document down one needs one spelling for each token. Numbers are left out here, so
nothing has to be said about what stands behind a token, and no blanks are needed. -/

/-- A hexadecimal digit. -/
def hexByte (n : Nat) : UInt8 := UInt8.ofNat (if n < 10 then 0x30 + n else 0x57 + n)

/-- A spelling of a part of a text, as an escape where it is a UTF-16 unit. -/
def Piece.spelling? : Piece → Option (List UInt8)
  | .byte b => if 0x20 ≤ b.toNat ∧ b ≠ 0x22 ∧ b ≠ 0x5C then some [b] else none
  | .unit u =>
    let (a, b, c, d) := (hexByte (u / 0x1000), hexByte (u / 0x100 % 16), hexByte (u / 0x10 % 16),
      hexByte (u % 16))
    if hexNumber? [a, b, c, d] = some u then some [0x5C, 0x75, a, b, c, d] else none

/-- A spelling of a token. -/
def Token.spelling? : Token → Option (List UInt8)
  | .openList => some [0x5B]
  | .closeList => some [0x5D]
  | .openMap => some [0x7B]
  | .closeMap => some [0x7D]
  | .comma => some [0x2C]
  | .colon => some [0x3A]
  | .null => some [0x6E, 0x75, 0x6C, 0x6C]
  | .boolean true => some [0x74, 0x72, 0x75, 0x65]
  | .boolean false => some [0x66, 0x61, 0x6C, 0x73, 0x65]
  | .text ⟨ps, .closed⟩ => (ps.mapM Piece.spelling?).map fun ss => 0x22 :: ss.flatten ++ [0x22]
  | _ => none

theorem Piece.spelling_of {p : Piece} {s : List UInt8} (h : p.spelling? = some s) :
    p.Spelling s := by
  cases p with
  | byte b =>
      obtain ⟨⟨printed, quote, backslash⟩, h⟩ := Option.ite_none_right_eq_some.1 h
      cases h
      exact .plain printed quote backslash
  | unit u =>
      obtain ⟨hex, h⟩ := Option.ite_none_right_eq_some.1 h
      cases h
      exact .hex hex

theorem mapM_cons_eq_some_iff {α β : Type} {f : α → Option β} {a : α} {as : List α} {bs : List β} :
    (a :: as).mapM f = some bs ↔ ∃ b bs', f a = some b ∧ as.mapM f = some bs' ∧ b :: bs' = bs := by
  simp [List.mapM_cons, Option.bind_eq_some_iff]

theorem piecesSpelling_of {ps : List Piece} {ss : List (List UInt8)}
    (h : ps.mapM Piece.spelling? = some ss) : PiecesSpelling ps ss.flatten := by
  induction ps generalizing ss with
  | nil =>
      cases h
      exact .nil
  | cons p ps ih =>
      obtain ⟨s, ss, first, rest, rfl⟩ := mapM_cons_eq_some_iff.1 h
      exact .cons (Piece.spelling_of first) (ih rest)

theorem Token.spelling_of {t : Token} {s : List UInt8} (h : t.spelling? = some s) :
    t.Spelling s ∧ ∀ n, t ≠ .number n := by
  unfold spelling? at h
  split at h
  · cases h; exact ⟨.openList, nofun⟩
  · cases h; exact ⟨.closeList, nofun⟩
  · cases h; exact ⟨.openMap, nofun⟩
  · cases h; exact ⟨.closeMap, nofun⟩
  · cases h; exact ⟨.comma, nofun⟩
  · cases h; exact ⟨.colon, nofun⟩
  · cases h; exact ⟨.null, nofun⟩
  · cases h; exact ⟨.yes, nofun⟩
  · cases h; exact ⟨.no, nofun⟩
  · obtain ⟨ss, hs, rfl⟩ := Option.map_eq_some_iff.1 h
    exact ⟨.text (piecesSpelling_of hs), nofun⟩
  · cases h

theorem spelled_of {ts : List Token} {ss : List (List UInt8)}
    (h : ts.mapM Token.spelling? = some ss) : Spelled ts ss.flatten := by
  have none : Blanks [] := List.forall_mem_nil _
  induction ts generalizing ss with
  | nil =>
      cases h
      exact .nil none
  | cons t ts ih =>
      obtain ⟨s, ss, first, rest, rfl⟩ := mapM_cons_eq_some_iff.1 h
      obtain ⟨spelling, ne⟩ := Token.spelling_of first
      exact .cons none spelling (fun n he => absurd he (ne n)) (ih rest)

theorem toList_loop_eq (bytes : ByteArray) (i : Nat) (before : List UInt8) :
    ByteArray.toList.loop bytes i before = before.reverse ++ bytes.data.toList.drop i := by
  fun_induction ByteArray.toList.loop bytes i before with
  | case1 i before more ih =>
      have here : bytes.data.toList.drop i = bytes.get! i :: bytes.data.toList.drop (i + 1) := by
        rw [List.drop_eq_getElem_cons more]
        simp [ByteArray.get!, getElem!_pos bytes.data i more]
      rw [ih, here, List.reverse_cons, List.append_assoc, List.singleton_append]
  | case2 i before done =>
      rw [List.drop_eq_nil_of_le (Nat.le_of_not_lt done), List.append_nil]

theorem toList_eq_data_toList (bytes : ByteArray) : bytes.toList = bytes.data.toList :=
  toList_loop_eq bytes 0 []

theorem Value.Tokens.writes {v : Value} {ts : List Token} (tokens : v.Tokens ts) {bs : List UInt8}
    (h : (ts.mapM Token.spelling?).map List.flatten = some bs) : v.Writes bs := by
  obtain ⟨ss, hs, rfl⟩ := Option.map_eq_some_iff.1 h
  exact ⟨ts, tokens, spelled_of hs⟩

end VisualNovel.Json
