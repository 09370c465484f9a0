import VisualNovel.Json.RawText
import VisualNovel.Json.Numeral

/-!
# The tokens of a document

A document is a sequence of bytes, cut into tokens without regard to what is asked for. A token
that is malformed is kept as such and is the last one: whoever comes to it finds the fault, and
nobody gets past it.
-/

namespace VisualNovel.Json

/-- A token of a document. -/
inductive Token
  | openList
  | closeList
  | openMap
  | closeMap
  | comma
  | colon
  | null
  | boolean (b : Bool)
  | number (n : ScannedNumeral)
  | text (t : RawText)
  /-- A word that begins like `null`, `true` or `false` and goes on otherwise, or breaks off. -/
  | badWord (cutOff : Bool)
  /-- A byte that begins no token. -/
  | stray

namespace Token

/-- A byte that may stand between tokens. -/
def isSpace (b : UInt8) : Bool := b == 0x20 || b == 0x0A || b == 0x0D || b == 0x09

/-- The rest of a word, from behind its first letter, and the bytes behind it. -/
def scanWord (meant : Token) : List Char → List UInt8 → Token × List UInt8
  | [], bs => (meant, bs)
  | _ :: _, [] => (badWord true, [])
  | c :: cs, b :: bs => if b == c.toUInt8 then scanWord meant cs bs else (badWord false, [])

/-- The token that begins with `b`, and the bytes behind it. -/
def scan (b : UInt8) (bs : List UInt8) : Token × List UInt8 :=
  match Char.ofNat b.toNat with
  | '[' => (openList, bs)
  | ']' => (closeList, bs)
  | '\x7b' => (openMap, bs)
  | '\x7d' => (closeMap, bs)
  | ',' => (comma, bs)
  | ':' => (colon, bs)
  | 'n' => scanWord null ['u', 'l', 'l'] bs
  | 't' => scanWord (boolean true) ['r', 'u', 'e'] bs
  | 'f' => scanWord (boolean false) ['a', 'l', 's', 'e'] bs
  | '"' =>
    let (t, rest) := scanText [] bs
    (text t, rest)
  | '-' =>
    let (n, rest) := Numeral.scan true bs
    (number n, rest)
  | _ =>
    if Numeral.isDigit b then
      let (n, rest) := Numeral.scan false (b :: bs)
      (number n, rest)
    else (stray, [])

theorem length_scanWord (meant : Token) (cs : List Char) (bs : List UInt8) :
    (scanWord meant cs bs).2.length ≤ bs.length := by
  fun_induction scanWord meant cs bs <;> grind

theorem length_scan (b : UInt8) (bs : List UInt8) : (scan b bs).2.length ≤ bs.length := by
  have := length_scanText [] bs
  have := Numeral.length_scan true bs
  unfold scan
  split <;> grind [length_scanWord, Numeral.length_scan_cons]

/-- The token for a reader that does not check texts. -/
def unchecked (stray : ByteArray → String) : Token → Token
  | text t => text (t.unchecked stray)
  | t => t

end Token

/-- The tokens of a document; `before` have been scanned, last one first. -/
def tokensBehind (before : List Token) (bs : List UInt8) : List Token :=
  match _h : bs.dropWhile Token.isSpace with
  | [] => before.reverse
  | b :: rest => tokensBehind ((Token.scan b rest).1 :: before) (Token.scan b rest).2
termination_by bs.length
decreasing_by
  have dropped := (List.dropWhile_sublist (l := bs) Token.isSpace).length_le
  have scanned := Token.length_scan b rest
  rw [_h, List.length_cons] at dropped
  omega

/-- The tokens of a document. -/
def tokens (bs : List UInt8) : List Token := tokensBehind [] bs

end VisualNovel.Json
