/-!
# How alike two texts are

The Jaro-Winkler similarity, between 0 and 1. Two characters match when they are equal and stand
not too far apart; the share of matching characters in each text and of those in the same order
give the Jaro similarity, and a common beginning raises it further. The value is a double, and the
operations are carried out in the order written here, so that equal inputs give equal bits.
-/

namespace VisualNovel.Text

/-- Marks the first unused character equal to `c` at a position from `low` to `high` as used, if
there is one; `here` is the position of the head. -/
def claim (c : Char) (low high : Nat) (here : Nat) :
    List (Char × Bool) → Option (List (Char × Bool))
  | [] => none
  | (d, used) :: rest =>
    if low ≤ here && here ≤ high && !used && c == d then some ((d, true) :: rest)
    else (claim c low high (here + 1) rest).map ((d, used) :: ·)

/-- Goes through the characters of the first text from position `here` on and claims for each its
match in the second one: the characters that found one, and the second text with its marks. -/
def matchUp (range here : Nat) :
    List Char → List (Char × Bool) → List Char × List (Char × Bool)
  | [], others => ([], others)
  | c :: cs, others =>
    match claim c (here - range) (here + range) 0 others with
    | none => matchUp range (here + 1) cs others
    | some others =>
      let rest := matchUp range (here + 1) cs others
      (c :: rest.1, rest.2)

/-- The Jaro similarity. -/
def jaro (a b : List Char) : Float :=
  if a.isEmpty && b.isEmpty then 1.0
  else if a.isEmpty || b.isEmpty then 0.0
  else
    let range := max a.length b.length / 2 - 1
    let (fromA, marked) := matchUp range 0 a (b.map (·, false))
    let fromB := (marked.filter (·.2)).map (·.1)
    let common := fromA.length
    if common == 0 then 0.0
    else
      let displaced := (List.zip fromA fromB).countP (fun p => p.1 != p.2) / 2
      let m := Float.ofNat common
      ((m / Float.ofNat a.length + m / Float.ofNat b.length)
        + Float.ofNat (common - displaced) / m) / 3.0

/-- How many characters two texts have in common from the start. -/
def commonStart : List Char → List Char → Nat
  | a :: as, b :: bs => if a == b then commonStart as bs + 1 else 0
  | _, _ => 0

/-- The Jaro-Winkler similarity: a common beginning of up to four characters counts extra once the
texts are alike to begin with. -/
def jaroWinkler (a b : List Char) : Float :=
  let sim := jaro a b
  if sim > 0.7 then
    let start := Float.ofNat (min (commonStart a b) 4)
    sim + ((0.1 * start) * (1.0 - sim))
  else sim

end VisualNovel.Text
