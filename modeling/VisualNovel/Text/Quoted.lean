import VisualNovel.Text.Ranges
import VisualNovel.Text.Quoted.Table

/-!
# Quoted texts

Texts in error messages and in the log stand between double quotes with what could not be read
escaped: the quote and the backslash, the usual control characters, and in hexadecimal every
character that nothing is drawn for or that would merge with the one before it.
-/

namespace VisualNovel.Text

namespace Quoted

/-- The digits of `n` to base sixteen, in lower case. -/
def hexDigits (n : Nat) : List Char := Nat.toDigits 16 n

/-- A character by its code point, such as `\u{301}`. -/
def byCodePoint (c : Char) : List Char :=
  ['\\', 'u', '\x7b'] ++ hexDigits c.toNat ++ ['\x7d']

/-- Whether nothing is drawn for a character beyond ASCII, or it would merge with the one before. -/
def isHidden (c : Char) : Bool :=
  inRanges extending c || inRanges fillers c || inRanges unprintable c

/-- A character as it stands between double quotes. -/
def encodeChar (c : Char) : List Char :=
  match c with
  | '\x00' => ['\\', '0']
  | '\t' => ['\\', 't']
  | '\n' => ['\\', 'n']
  | '\r' => ['\\', 'r']
  | '"' => ['\\', '"']
  | '\\' => ['\\', '\\']
  | c =>
    if 0x20 ≤ c.toNat && c.toNat ≤ 0x7E then [c]
    else if c.toNat < 0x80 || isHidden c then byCodePoint c
    else [c]

end Quoted

/-- The text between double quotes. -/
def quoted (s : String) : String :=
  String.ofList ('"' :: s.toList.flatMap Quoted.encodeChar ++ ['"'])

end VisualNovel.Text
