import VisualNovel.Text.Ranges
import VisualNovel.Text.Lowercase.Table

/-!
# Lower case

The full Unicode lower case of a text. Two letters need more than a table of single characters:
the dotted capital I becomes two characters, and a capital sigma becomes the final sigma where a
word ends with it.
-/

namespace VisualNovel.Text

namespace Lowercase

/-- The lower case of a character by itself. -/
def lowerChar (c : Char) : Char :=
  let covers (run : Nat × Nat × Nat × Int) : Bool :=
    run.1 ≤ c.toNat && c.toNat ≤ run.2.1 && (c.toNat - run.1) % run.2.2.1 == 0
  match shifts.find? covers with
  | some run => Char.ofNat (Int.ofNat c.toNat + run.2.2.2).toNat
  | none => c

/-- Whether the first character that is not ignored for case is a cased one. -/
def meetsCased (cs : List Char) : Bool :=
  match cs.dropWhile (inRanges caseIgnorable) with
  | [] => false
  | c :: _ => inRanges cased c

/-- The lower case of a text, of which `before` has been read already, last character first. -/
def lowerChars (before : List Char) : List Char → List Char
  | [] => []
  | c :: cs =>
    let here :=
      if c == 'Σ' then [if meetsCased before && !meetsCased cs then 'ς' else 'σ']
      else if c == 'İ' then ['i', '\u0307']
      else [lowerChar c]
    here ++ lowerChars (c :: before) cs

end Lowercase

/-- The text in lower case. -/
def lowercase (s : String) : List Char := Lowercase.lowerChars [] s.toList

end VisualNovel.Text
