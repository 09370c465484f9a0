import VisualNovel.Json.Fault

/-!
# Numbers as a document writes them

A numeral is kept by its digits. Its value is an integer when it has neither fraction nor exponent
and fits into 64 bits; else it is a double, made from the leading digits that fit into 64 bits and
one multiplication or division by a power of ten. That is not always the nearest double, so the
steps are part of the rule.
-/

namespace VisualNovel.Json

/-- An exponent: its sign and its digits, the first one first. -/
structure Exponent where
  negative : Bool
  digits : List Nat

/-- A number as it is written, each part by its digits, the first one first. -/
structure Numeral where
  negative : Bool
  whole : List Nat
  fraction : List Nat
  exponent : Option Exponent

/-- What scanning a numeral comes to. -/
inductive ScannedNumeral
  | numeral (n : Numeral)
  /-- A digit is missing, or one follows a leading zero. -/
  | malformed
  /-- A digit is missing where the document breaks off. -/
  | cutOff

namespace Numeral

/-- Whether a byte is a decimal digit. -/
def isDigit (b : UInt8) : Bool := 0x30 ≤ b.toNat && b.toNat ≤ 0x39

/-- The digits that some bytes begin with. -/
def digits (bs : List UInt8) : List Nat := (bs.takeWhile isDigit).map (·.toNat - 0x30)

/-- What stands behind the digits. -/
def afterDigits (bs : List UInt8) : List UInt8 := bs.dropWhile isDigit

theorem length_afterDigits (bs : List UInt8) : (afterDigits bs).length ≤ bs.length :=
  (List.dropWhile_sublist _).length_le

/-- A digit is missing at the start of some bytes. -/
def missingDigit (bs : List UInt8) : ScannedNumeral :=
  if bs.isEmpty then .cutOff else .malformed

/-- Scans an exponent, if one is there, and puts the numeral together. -/
def scanExponent (negative : Bool) (whole fraction : List Nat) (bs : List UInt8) :
    ScannedNumeral × List UInt8 :=
  match bs with
  | e :: rest =>
    if e == 'e'.toUInt8 || e == 'E'.toUInt8 then
      let minus := rest.head? == some '-'.toUInt8
      let rest := if minus || rest.head? == some '+'.toUInt8 then rest.tail else rest
      if (digits rest).isEmpty then (missingDigit rest, [])
      else (.numeral ⟨negative, whole, fraction, some ⟨minus, digits rest⟩⟩, afterDigits rest)
    else (.numeral ⟨negative, whole, fraction, none⟩, bs)
  | [] => (.numeral ⟨negative, whole, fraction, none⟩, bs)

/-- Scans a fraction and an exponent, if they are there. -/
def scanFraction (negative : Bool) (whole : List Nat) (bs : List UInt8) :
    ScannedNumeral × List UInt8 :=
  match bs with
  | point :: rest =>
    if point == '.'.toUInt8 then
      if (digits rest).isEmpty then (missingDigit rest, [])
      else scanExponent negative whole (digits rest) (afterDigits rest)
    else scanExponent negative whole [] bs
  | [] => scanExponent negative whole [] bs

/-- Scans a numeral from behind its sign. -/
def scan (negative : Bool) (bs : List UInt8) : ScannedNumeral × List UInt8 :=
  match digits bs with
  | [] => (missingDigit bs, [])
  | 0 :: _ :: _ => (.malformed, [])
  | whole => scanFraction negative whole (afterDigits bs)

theorem length_scanExponent (negative : Bool) (whole fraction : List Nat) (bs : List UInt8) :
    (scanExponent negative whole fraction bs).2.length ≤ bs.length := by
  unfold scanExponent
  split
  · next e rest =>
    have := length_afterDigits
      (if rest.head? == some '-'.toUInt8 || rest.head? == some '+'.toUInt8 then rest.tail else rest)
    grind
  · simp

theorem length_scanFraction (negative : Bool) (whole : List Nat) (bs : List UInt8) :
    (scanFraction negative whole bs).2.length ≤ bs.length := by
  unfold scanFraction
  split
  · next point rest =>
    have := length_afterDigits rest
    have := length_scanExponent negative whole (digits rest) (afterDigits rest)
    have := length_scanExponent negative whole [] (point :: rest)
    grind
  · exact length_scanExponent negative whole [] []

/-- Scanning gets at least past the first digits. -/
theorem length_scan_le_afterDigits (negative : Bool) (bs : List UInt8) :
    (scan negative bs).2.length ≤ (afterDigits bs).length := by
  unfold scan
  split
  · simp
  · simp
  · exact length_scanFraction negative _ _

theorem length_scan (negative : Bool) (bs : List UInt8) :
    (scan negative bs).2.length ≤ bs.length :=
  Nat.le_trans (length_scan_le_afterDigits negative bs) (length_afterDigits bs)

theorem length_scan_cons (negative : Bool) {b : UInt8} (bs : List UInt8) (h : isDigit b = true) :
    (scan negative (b :: bs)).2.length ≤ bs.length := by
  have first := length_scan_le_afterDigits negative (b :: bs)
  have rest := length_afterDigits bs
  rw [show afterDigits (b :: bs) = afterDigits bs by simp [afterDigits, h]] at first
  exact Nat.le_trans first rest

/-- Appends digits to a number as long as it fits into 64 bits: the number, and the digits that
are left. -/
def gather (n : Nat) : List Nat → Nat × List Nat
  | [] => (n, [])
  | d :: ds => if 10 * n + d < UInt64.size then gather (10 * n + d) ds else (n, d :: ds)

/-- The number that digits write. -/
def ofDigits (ds : List Nat) : Nat := ds.foldl (10 * · + ·) 0

/-- A power of ten as a double. -/
def tenTo (n : Nat) : Float := Float.ofScientific 1 false n

/-- Divides by `10 ^ shift`, by at most `10 ^ 308` at a time. -/
def divide (f : Float) (shift : Nat) : Float :=
  if shift ≤ 308 then f / tenTo shift
  else if f == 0.0 then f
  else divide (f / tenTo 308) (shift - 308)
termination_by shift

/-- The double `significand * 10 ^ exponent`. -/
def scale (significand : Nat) (exponent : Int) : Except Fault Float :=
  let f := significand.toUInt64.toFloat
  if exponent < 0 then .ok (divide f exponent.natAbs)
  else if exponent ≤ 308 then
    let f := f * tenTo exponent.toNat
    if f.isInf then .error .numberOutOfRange else .ok f
  else if significand = 0 then .ok f
  else .error .numberOutOfRange

/-- The largest exponent that is reckoned with; beyond it only the sign of the exponent counts. -/
def maxExponent : Nat := 2147483647

/-- The magnitude of a numeral as a double. -/
def magnitude (n : Numeral) : Except Fault Float :=
  let (significand, dropped) := gather 0 n.whole
  let (significand, ignored) := gather significand n.fraction
  let shift : Int := dropped.length - (n.fraction.length - ignored.length : Nat)
  match n.exponent with
  | none => scale significand shift
  | some e =>
    let power : Int := if e.negative then -ofDigits e.digits else ofDigits e.digits
    if ofDigits e.digits ≤ maxExponent then scale significand (shift + power)
    else if significand ≠ 0 && !e.negative then .error .numberOutOfRange
    else .ok 0.0

/-- The integer of a numeral that has neither fraction nor exponent, if it fits into 64 bits. A
negative zero is none. -/
def integer? (n : Numeral) : Option Int :=
  if n.fraction.isEmpty && n.exponent.isNone then
    let m := ofDigits n.whole
    if n.negative then if 0 < m && 2 * m ≤ UInt64.size then some (-m) else none
    else if m < UInt64.size then some m else none
  else none

/-- What a numeral stands for: an integer or a double. -/
def found (n : Numeral) : Except Fault Found :=
  match n.integer? with
  | some i => .ok (.integer i)
  | none => n.magnitude.map fun f => .float (if n.negative then -f else f)

end Numeral

end VisualNovel.Json
