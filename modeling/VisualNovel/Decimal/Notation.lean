import VisualNovel.Decimal.Shortest

/-!
# Doubles in writing

A double is written with the fewest digits that read back as it. From 10^-5 up to below 10^16 it
is positional and has at least one digit after the point; beyond, it has an exponent, which always
shows its sign.
-/

namespace VisualNovel.Decimal

/-- The powers of ten of the first digit for which a number is written without an exponent. -/
def positional (power : Int) : Bool := -5 ≤ power && power ≤ 15

/-- A positive decimal in writing. -/
def chars (d : Decimal) : List Char :=
  let all := Nat.toDigits 10 d.digits
  let power := d.exponent + all.length - 1
  let digits := (all.reverse.dropWhile (· == '0')).reverse
  let fraction (cs : List Char) := if cs.isEmpty then ['0'] else cs
  if positional power then
    if power < 0 then
      ['0', '.'] ++ List.replicate (-power - 1).toNat '0' ++ digits
    else
      let whole := power.toNat + 1
      digits.take whole ++ List.replicate (whole - digits.length) '0' ++ ['.']
        ++ fraction (digits.drop whole)
  else
    digits.take 1 ++ (if 1 < digits.length then '.' :: digits.drop 1 else [])
      ++ ['e', if power < 0 then '-' else '+'] ++ Nat.toDigits 10 power.natAbs

/-- A finite double in writing. -/
def textOf (f : Float) : String :=
  let bits := f.toBits
  let sign := if bits >>> 63 = 0 then [] else ['-']
  let magnitude := if bits <<< 1 = 0 then ['0', '.', '0'] else (ofBits bits).chars
  String.ofList (sign ++ magnitude)

end VisualNovel.Decimal
