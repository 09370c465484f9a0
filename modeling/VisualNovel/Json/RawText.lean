import VisualNovel.Json.Fault

/-!
# Texts as a document writes them

Between its quotes a text is a sequence of bytes and of escapes. Scanning finds where it ends and
what is wrong with its shape; whether its surrogates pair up and its bytes are UTF-8 matters only
when the text is read, for a text that is passed over need not have a value.
-/

namespace VisualNovel.Json

/-- A part of a written text. -/
inductive Piece
  /-- A byte of the text; short escapes stand for one too. -/
  | byte (b : UInt8)
  /-- An escape of four hexadecimal digits: a UTF-16 unit. -/
  | unit (u : Nat)

/-- How a written text ends. -/
inductive TextEnd
  | closed
  /-- The document breaks off inside it. -/
  | cutOff
  /-- A backslash before something that cannot be escaped. -/
  | badEscape
  /-- Something else than four hexadecimal digits where they are needed. -/
  | badDigits
  /-- A control character. -/
  | control
  deriving DecidableEq

/-- A text as it is written. -/
structure RawText where
  pieces : List Piece
  ending : TextEnd

/-- The value of a hexadecimal digit. -/
def hexDigit? (b : UInt8) : Option Nat :=
  let n := b.toNat
  if 0x30 ≤ n && n ≤ 0x39 then some (n - 0x30)
  else if 0x41 ≤ n && n ≤ 0x46 then some (n - 0x41 + 10)
  else if 0x61 ≤ n && n ≤ 0x66 then some (n - 0x61 + 10)
  else none

/-- The number that hexadecimal digits write. -/
def hexNumber? (digits : List UInt8) : Option Nat :=
  digits.foldlM (fun n b => (hexDigit? b).map (16 * n + ·)) 0

/-- The byte that a backslash before `b` stands for. -/
def shortEscape? (b : UInt8) : Option UInt8 :=
  match Char.ofNat b.toNat with
  | '"' | '\\' | '/' => some b
  | 'b' => some 0x08
  | 'f' => some 0x0C
  | 'n' => some 0x0A
  | 'r' => some 0x0D
  | 't' => some 0x09
  | _ => none

/-- Scans a text from behind its opening quote; `before` has been scanned, last piece first. The
bytes behind the text come back beside it. -/
def scanText (before : List Piece) : List UInt8 → RawText × List UInt8
  | [] => (⟨before.reverse, .cutOff⟩, [])
  | b :: bs =>
    if b == '"'.toUInt8 then (⟨before.reverse, .closed⟩, bs)
    else if b == '\\'.toUInt8 then
      match bs with
      | [] => (⟨before.reverse, .cutOff⟩, [])
      | e :: rest =>
        if e == 'u'.toUInt8 then
          if rest.length < 4 then (⟨before.reverse, .cutOff⟩, [])
          else match hexNumber? (rest.take 4) with
            | some u => scanText (.unit u :: before) (rest.drop 4)
            | none => (⟨before.reverse, .badDigits⟩, [])
        else match shortEscape? e with
          | some c => scanText (.byte c :: before) rest
          | none => (⟨before.reverse, .badEscape⟩, [])
    else if b.toNat < 0x20 then (⟨before.reverse, .control⟩, [])
    else scanText (.byte b :: before) bs
termination_by bs => bs.length
decreasing_by all_goals simp only [List.length_cons, List.length_drop]; omega

theorem length_scanText (before : List Piece) (bs : List UInt8) :
    (scanText before bs).2.length ≤ bs.length := by
  fun_induction scanText before bs <;> simp_all <;> omega

namespace RawText

/-- A high surrogate, the first of a pair. -/
def isHigh (u : Nat) : Bool := 0xD800 ≤ u && u ≤ 0xDBFF

/-- A low surrogate, the second of a pair. -/
def isLow (u : Nat) : Bool := 0xDC00 ≤ u && u ≤ 0xDFFF

/-- The character that a pair of surrogates stands for. -/
def ofPair (high low : Nat) : Char :=
  Char.ofNat (0x10000 + (high - 0xD800) * 0x400 + (low - 0xDC00))

/-- Puts the bytes of a character behind others. -/
def pushChar (bytes : ByteArray) (c : Char) : ByteArray := bytes ++ c.toString.toUTF8

/-- The fault of a text that ends right behind a high surrogate. -/
def faultAfterHigh : TextEnd → Fault
  | .cutOff => .endInText
  | .badDigits => .invalidEscape
  | _ => .loneHighSurrogate

/-- The bytes of a text, up to its first fault. -/
def decodePieces (ending : TextEnd) (bytes : ByteArray) : List Piece → Except Fault ByteArray
  | [] =>
    match ending with
    | .closed => .ok bytes
    | .cutOff => .error .endInText
    | .badEscape | .badDigits => .error .invalidEscape
    | .control => .error .controlCharacter
  | .byte b :: rest => decodePieces ending (bytes.push b) rest
  | .unit u :: rest =>
    if isLow u then .error .unpairedSurrogate
    else if isHigh u then
      match rest with
      | [] => .error (faultAfterHigh ending)
      | .byte _ :: _ => .error .loneHighSurrogate
      | .unit v :: rest =>
        if isLow v then decodePieces ending (pushChar bytes (ofPair u v)) rest
        else .error .unpairedSurrogate
    else decodePieces ending (pushChar bytes (Char.ofNat u)) rest

/-- The text that is meant. -/
def decode (t : RawText) : Except Fault String := do
  let bytes ← decodePieces t.ending .empty t.pieces
  match String.fromUTF8? bytes with
  | some s => .ok s
  | none => .error .invalidCodePoint

/-- The fault of a text that is passed over. -/
def skip (t : RawText) : Except Fault Unit :=
  match t.ending with
  | .closed => .ok ()
  | .cutOff => .error .endInText
  | .badEscape | .badDigits => .error .invalidEscape
  | .control => .error .controlCharacter

/-- The text for a reader that does not check whether its bytes are UTF-8. Where they are not the
text is spelled anew: `stray` tells what the reader takes the bytes for. All that is asked of a text
is what it means and whether it can be passed over, so nobody sees how it is spelled. -/
def unchecked (stray : ByteArray → String) (t : RawText) : RawText :=
  match decodePieces t.ending .empty t.pieces with
  | .ok bytes =>
    if (String.fromUTF8? bytes).isSome then t
    else ⟨(stray bytes).toUTF8.data.toList.map .byte, .closed⟩
  | .error _ => t

/-- On bytes that are not UTF-8 the check matters. -/
example : decode ⟨[.byte 0xFF], .closed⟩ = .error .invalidCodePoint ∧
    (unchecked (fun _ => "?") ⟨[.byte 0xFF], .closed⟩).decode = .ok "?" := ⟨rfl, rfl⟩

end RawText

end VisualNovel.Json
