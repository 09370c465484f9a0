import VisualNovel.Text.Columns.Character

/-!
# Terminal columns

How many columns of a terminal a line of text takes. A character that joins with those after it
changes what they take together: a sequence that is shown as one emoji takes two columns, a
ligature one, and a variation selector chooses how wide the character before it is shown. So a line
is measured from its end: what stands after a character is summed up in an `Ahead`, and `place`
says what the character adds to it.
-/

namespace VisualNovel.Text

namespace Columns

/-- How a variation selector has the character before it shown. -/
inductive Selector
  | text
  | emoji
  | fullwidth
deriving DecidableEq

/-- The last part of a ligature, with all that follows its first character. -/
inductive LigatureEnd
  /-- An Arabic alef, after a lam. -/
  | alef
  /-- A Hebrew lamed, after an alef and a joiner. -/
  | lamed
  /-- A Buginese ya, after an a, a vowel sign i and a joiner. -/
  | ya
  /-- A Buginese vowel sign i, a joiner and a ya, after an a. -/
  | vowelJoinedYa
  /-- A Tifinagh consonant, after another one and either joiner. -/
  | consonant
  /-- The Tifinagh joiner and a consonant, after a consonant. -/
  | joinedConsonant
  /-- The second letter of a Lisu tone. -/
  | toneLetter
  /-- An Old Turkic orkhon i, after an icha and a joiner. -/
  | orkhonI
  /-- A Khmer letter that stands below the line after a coeng. -/
  | subscripted
deriving DecidableEq

/-- What the text after a place begins with, as far as it joins with the character before it. -/
inductive Joint
  /-- Nothing that joins. -/
  | plain
  | skinTone
  /-- One letter of a flag. -/
  | flagLetter
  /-- Two letters of flags or more. -/
  | flagLetters
  /-- A sequence that is shown as one emoji. -/
  | emoji
  /-- A joiner and an emoji. -/
  | joinedEmoji
  /-- The mark of a keycap, a joiner and an emoji. -/
  | joinedKeycap
  /-- One letter of a flag, a joiner and an emoji. -/
  | joinedFlagLetter
  /-- An even number of letters of flags, a joiner and an emoji. -/
  | joinedFlags
  /-- An odd number of letters of flags, three or more, a joiner and an emoji. -/
  | joinedFlagsLetter
  /-- The end of the name of a flag, a joiner and an emoji. -/
  | tagEnd
  /-- The same with that many letters of the name. -/
  | tagLetters (count : Nat)
  /-- The same with that many digits of the name. -/
  | tagDigits (count : Nat)
  /-- A Kirat Rai vowel sign e. -/
  | vowelE
  /-- A Kirat Rai vowel sign ai, in one character or in two. -/
  | vowelAi
  /-- A part of a ligature, and whether a joiner stands before it. -/
  | ligature (part : LigatureEnd) (joined : Bool)
deriving DecidableEq

/-- What the text after a place begins with: a variation selector perhaps, and what follows it. -/
structure Ahead where
  joint : Joint
  selector : Option Selector := none
deriving DecidableEq

/-- Whether a variation selector can stand between the character that it is for and the joint. -/
def Joint.keeps : Joint → Selector → Bool
  | .ligature _ _, _ | .joinedEmoji, .emoji | .joinedKeycap, .emoji => true
  | _, _ => false

/-- What a variation selector and the text after it begin with. -/
def Joint.select (joint : Joint) (s : Selector) : Ahead :=
  ⟨if joint.keeps s then joint else .plain, some s⟩

/-- What is left to join with of the text before which a variation selector has no effect. -/
def Ahead.unselected (ahead : Ahead) : Joint :=
  match ahead.selector, ahead.joint with
  | none, joint => joint
  | some _, .ligature part joined => .ligature part joined
  | some _, _ => .plain

/-- The variation selector that a character is. -/
def selector? (c : Char) : Option Selector :=
  match c with
  | '\ufe01' => some .fullwidth
  | '\ufe0e' => some .text
  | '\ufe0f' => some .emoji
  | _ => none

/-- What a character by itself is for the one before it. -/
def jointOf (c : Char) : Joint :=
  if isSkinTone c then .skinTone
  else if isFlagLetter c then .flagLetter
  else if inRanges shownAsEmoji c then .emoji
  else if inRanges alef c then .ligature .alef false
  else if isTifinaghConsonant c then .ligature .consonant false
  else if isSecondToneLetter c then .ligature .toneLetter false
  else if inRanges subscripted c then .ligature .subscripted false
  else match c.toNat with
    | 0x5DC => .ligature .lamed false
    | 0x1A10 => .ligature .ya false
    | 0x10C03 => .ligature .orkhonI false
    | 0x16D67 => .vowelE
    | 0x16D68 => .vowelAi
    | _ => .plain

/-- What a character that belongs to a ligature adds to the columns of the part after it, and what
the two are together. The answer says also whether a joiner stands between them. -/
def LigatureEnd.join? (c : Char) : LigatureEnd → Bool → Option (Int × Joint)
  | .alef, joined =>
    if joined then none
    else if inRanges lam c then some (0, .plain)
    else if inRanges transparent c then some (0, .ligature .alef false)
    else none
  | .lamed, joined => if joined && c.toNat == 0x5D0 then some (0, .plain) else none
  | .ya, joined =>
    if joined && c.toNat == 0x1A17 then some (0, .ligature .vowelJoinedYa false) else none
  | .vowelJoinedYa, _ => if c.toNat == 0x1A15 then some (0, .plain) else none
  | .consonant, joined =>
    if c.toNat == 0x2D7F then some (1, .ligature .joinedConsonant false)
    else if joined && isTifinaghConsonant c then some (0, .plain)
    else none
  | .joinedConsonant, _ => if isTifinaghConsonant c then some (-1, .plain) else none
  | .toneLetter, _ => if isFirstToneLetter c then some (0, .plain) else none
  | .orkhonI, joined => if joined && c.toNat == 0x10C32 then some (0, .plain) else none
  | .subscripted, _ => if c.toNat == 0x17D2 then some (-1, .plain) else none

/-- What a character that joins with the text after it adds to the columns of that text, and what
the two are together. -/
def Joint.join? (c : Char) : Joint → Option (Int × Joint)
  | .plain | .joinedKeycap => none
  | .skinTone =>
    if inRanges skinToneBase c then some (0, .emoji)
    else if c == joiner then some (0, .joinedEmoji)
    else none
  | .flagLetter => if isFlagLetter c then some (1, .flagLetters) else none
  | .flagLetters =>
    if isFlagLetter c then some (1, .flagLetters)
    else if c == joiner then some (0, .joinedEmoji)
    else none
  | .emoji => if c == joiner then some (0, .joinedEmoji) else none
  | .joinedEmoji =>
    if c.toNat == 0x20E3 then some (0, .joinedKeycap)
    else if isFlagLetter c then some (1, .joinedFlagLetter)
    else if isSkinTone c then some (0, .skinTone)
    else if c.toNat == 0xE007F then some (0, .tagEnd)
    else if inRanges shownAsEmoji c then some (0, .emoji)
    else none
  | .joinedFlagLetter => if isFlagLetter c then some (-1, .joinedFlags) else none
  | .joinedFlags =>
    if isFlagLetter c then some (3, .joinedFlagsLetter)
    else if c == joiner then some (0, .joinedEmoji)
    else none
  | .joinedFlagsLetter =>
    if isFlagLetter c then some (-1, .joinedFlags)
    else if c == joiner then some (0, .joinedEmoji)
    else none
  | .tagEnd =>
    if isTagLetter c then some (0, .tagLetters 1)
    else if isTagDigit c then some (0, .tagDigits 1)
    else none
  | .tagLetters n =>
    if isTagLetter c && n < 6 then some (0, .tagLetters (n + 1))
    else if isTagDigit c && n < 5 then some (0, .tagDigits 1)
    else if c.toNat == 0x1F3F4 && 3 ≤ n then some (0, .emoji)
    else none
  | .tagDigits n =>
    if isTagDigit c && n < 3 then some (0, .tagDigits (n + 1))
    else if c.toNat == 0x1F3F4 && n == 3 then some (0, .emoji)
    else none
  | .vowelE =>
    match c.toNat with
    | 0x16D63 => some (0, .plain)
    | 0x16D67 => some (0, .vowelAi)
    | 0x16D68 => some (1, .vowelE)
    | 0x16D69 => some (0, .plain)
    | _ => none
  | .vowelAi => if c.toNat == 0x16D63 then some (0, .plain) else none
  | .ligature part joined =>
    if c == joiner then some (0, .ligature part true)
    else if isInvisibleMark c then some (0, .ligature part joined)
    else part.join? c joined

/-- What a character adds to the columns of the text after it, and what the two are together. -/
def place (c : Char) (ahead : Ahead) : Int × Ahead :=
  if ahead.selector == some .emoji && inRanges selectable c then
    (if ahead.joint == .joinedEmoji || ahead.joint == .joinedKeycap then 0 else 2, ⟨.emoji, none⟩)
  else if c.toNat ≤ 0xA0 then (1, ⟨.plain, none⟩)
  else match selector? c with
    | some s => (0, ahead.unselected.select s)
    | none =>
      if ahead.selector == some .text && isShownAsText c then (1, ⟨.plain, none⟩)
      else if ahead.selector == some .fullwidth && isQuotationMark c then (2, ⟨.plain, none⟩)
      else match ahead.unselected.join? c with
        | some (n, joint) => (n, ⟨joint, none⟩)
        | none => (ofChar c, ⟨jointOf c, none⟩)

/-- The columns of the characters, and what they are for a character before them. -/
def measure (cs : List Char) : Int × Ahead :=
  cs.foldr
    (fun c after =>
      let placed := place c after.2
      (after.1 + placed.1, placed.2))
    (0, ⟨.plain, none⟩)

end Columns

/-- How many columns of a terminal the line of text takes. -/
def columns (s : String) : Nat := (Columns.measure s.toList).1.toNat

end VisualNovel.Text
