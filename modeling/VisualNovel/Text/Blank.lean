/-!
# Blank characters and trimmed text

Names, ids and action tokens are compared and stored without the blank characters around them,
and a text that holds nothing else counts as missing. The characters meant are those of the
Unicode property White_Space: a wider set than the ASCII blanks, and a narrower one than "prints
as nothing", for a zero-width space is no blank.
-/

namespace VisualNovel.Text

/-- A character with the Unicode property White_Space. -/
def isBlankChar (c : Char) : Bool :=
  let n := c.toNat
  (9 ≤ n && n ≤ 13) || n == 0x20 || n == 0x85 || n == 0xA0 || n == 0x1680 ||
    (0x2000 ≤ n && n ≤ 0x200A) || n == 0x2028 || n == 0x2029 || n == 0x202F || n == 0x205F ||
    n == 0x3000

/-- The characters without the blank ones at either end. -/
def trimChars (cs : List Char) : List Char :=
  ((cs.dropWhile isBlankChar).reverse.dropWhile isBlankChar).reverse

/-- The text without the blank characters at either end. -/
def trim (s : String) : String := String.ofList (trimChars s.toList)

/-- A text is blank when only blank characters, or none, are in it. -/
def isBlank (s : String) : Bool := (trim s).isEmpty

/-- An optional text, trimmed; a blank one counts as missing. -/
def nonBlank (s : Option String) : Option String :=
  s.bind fun t => if isBlank t then none else some (trim t)

/-- Two texts that differ at most in the case of ASCII letters. -/
def sameIgnoringAsciiCase (s t : String) : Bool :=
  s.toList.map Char.toLower == t.toList.map Char.toLower

end VisualNovel.Text
