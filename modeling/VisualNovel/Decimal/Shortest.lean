/-!
# The shortest decimal that reads back as a double

A finite double is `m * 2 ^ q`, and every real number nearer to it than to its neighbours reads as
that double; the two ends of the interval do so when `m` is even. Of all decimals in the interval
the one with the fewest digits is chosen, and of those the one nearest to the double. Everything
is exact arithmetic on natural numbers.
-/

namespace VisualNovel

/-- The decimal `digits * 10 ^ exponent`. -/
structure Decimal where
  digits : Nat
  exponent : Int
  deriving DecidableEq

namespace Decimal

/-- A positive double and the reals that read as it, as fractions over one denominator. -/
structure Interval where
  low : Nat
  value : Nat
  high : Nat
  denominator : Nat
  /-- Whether the two ends read as the double too. -/
  closed : Bool

/-- The interval of `m * 2 ^ q`. Below a power of two the doubles lie twice as close, unless the
double is among the smallest ones. -/
def Interval.ofParts (m : Nat) (q : Int) (closerBelow : Bool) : Interval :=
  let shift := (q - 2).toNat
  { low := (4 * m - if closerBelow then 1 else 2) <<< shift
    value := (4 * m) <<< shift
    high := (4 * m + 2) <<< shift
    denominator := 1 <<< (2 - q).toNat
    closed := m % 2 = 0 }

/-- The power of ten of the first digit of `value / denominator`. -/
def leadingPower (value denominator : Nat) : Int :=
  if denominator ≤ value then (Nat.toDigits 10 (value / denominator)).length - 1
  else
    match (List.range 400).find? fun k => denominator ≤ value * Nat.pow 10 k with
    | some k => -(k : Int)
    | none => 0

/-- Compares `digits * 10 ^ exponent` with `x / denominator`. -/
def compareWith (d : Decimal) (x denominator : Nat) : Ordering :=
  compare (d.digits * Nat.pow 10 d.exponent.toNat * denominator)
    (x * Nat.pow 10 (-d.exponent).toNat)

/-- Whether a decimal reads as the double of the interval. -/
def Interval.holds (i : Interval) (d : Decimal) : Bool :=
  match compareWith d i.low i.denominator, compareWith d i.high i.denominator with
  | .gt, .lt => true
  | .eq, _ => i.closed
  | _, .eq => i.closed
  | _, _ => false

/-- The decimal with its last digit at `10 ^ exponent` that is nearest to the double and reads as
it, if one does. -/
def Interval.onGrid (i : Interval) (exponent : Int) : Option Decimal :=
  let numerator := i.value * Nat.pow 10 (-exponent).toNat
  let step := i.denominator * Nat.pow 10 exponent.toNat
  let below : Decimal := ⟨numerator / step, exponent⟩
  let above : Decimal := ⟨numerator / step + 1, exponent⟩
  let rest := numerator % step
  let nearer := if 2 * rest < step || (2 * rest = step && below.digits % 2 = 0)
    then [below, above] else [above, below]
  nearer.find? fun d => d.digits ≠ 0 && i.holds d

/-- The shortest decimal that reads as the double of the interval. Seventeen digits are always
enough. -/
def Interval.shortest (i : Interval) : Decimal :=
  let power := leadingPower i.value i.denominator
  ((List.range 17).findSome? fun (n : Nat) => i.onGrid (power - n)).getD ⟨0, 0⟩

/-- The shortest decimal that reads as the magnitude of a finite double other than zero. -/
def ofBits (bits : UInt64) : Decimal :=
  let fraction := (bits &&& 0xFFFFFFFFFFFFF).toNat
  let exponent := (bits >>> 52 &&& 0x7FF).toNat
  let interval :=
    if exponent = 0 then Interval.ofParts fraction (-1074) false
    else Interval.ofParts (1 <<< 52 + fraction) (exponent - 1075) (fraction = 0 && 1 < exponent)
  interval.shortest

end Decimal

end VisualNovel
