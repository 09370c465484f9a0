import VisualNovel.Text.Ranges
import VisualNovel.Text.Columns.Table

/-!
# Characters in a terminal

The columns that a character takes by itself, and the small classes of characters that join with
their neighbours.
-/

namespace VisualNovel.Text.Columns

/-- The columns that a character takes by itself. Controls are counted as one. -/
def ofChar (c : Char) : Nat :=
  if c.toNat ≤ 0xA0 then 1
  else if c.toNat = 0x17D8 then 3
  else if inRanges zeroWidth c then 0
  else if inRanges wide c then 2
  else 1

/-- A letter of the flags of regions: two of them are shown as the flag of a region. -/
def isFlagLetter (c : Char) : Bool := inRanges [(0x1F1E6, 0x1F1FF)] c

/-- A character that chooses the skin tone of the emoji before it. -/
def isSkinTone (c : Char) : Bool := inRanges [(0x1F3FB, 0x1F3FF)] c

/-- A letter in the name of a flag that is written out after a black flag. -/
def isTagLetter (c : Char) : Bool := inRanges [(0xE0061, 0xE007A)] c

/-- A digit in the name of a flag that is written out after a black flag. -/
def isTagDigit (c : Char) : Bool := inRanges [(0xE0030, 0xE0039)] c

/-- A Tifinagh letter that joins with another one. -/
def isTifinaghConsonant (c : Char) : Bool := inRanges [(0x2D31, 0x2D65), (0x2D6F, 0x2D6F)] c

/-- The first letter of two that write a Lisu tone together. -/
def isFirstToneLetter (c : Char) : Bool := inRanges [(0xA4F8, 0xA4FB)] c

/-- The second letter of two that write a Lisu tone together. -/
def isSecondToneLetter (c : Char) : Bool := inRanges [(0xA4FC, 0xA4FD)] c

/-- The quotation marks, which East Asian text writes as wide as its letters. -/
def isQuotationMark (c : Char) : Bool := inRanges [(0x2018, 0x2019), (0x201C, 0x201D)] c

/-- An emoji that a variation selector can show as text, in one column. The ideographs in squares
and circles stay wide. -/
def isShownAsText (c : Char) : Bool :=
  inRanges selectable c && inRanges shownAsEmoji c && !inRanges [(0x1F200, 0x1F2FF)] c

/-- The combining marks that nothing is drawn for: they may stand anywhere in a ligature. -/
def isInvisibleMark (c : Char) : Bool :=
  inRanges [(0x34F, 0x34F), (0x17B4, 0x17B5), (0x180B, 0x180D), (0x180F, 0x180F),
    (0xFE00, 0xFE0F), (0xE0100, 0xE01EF)] c

/-- The zero-width joiner, which asks that its neighbours be shown as one. -/
def joiner : Char := '\u200d'

end VisualNovel.Text.Columns
