import VisualNovel.Text.ControlSequence

/-!
# Marked text

Help texts and complaints mark what their parts are. A terminal that shows styles shows the marks.
For any other output all control sequences are left out, those of the marks and those that the user
may have typed; an unfinished one in a marked word ends with the mark.
-/

namespace VisualNovel.Console

/-- What a part of a text is. -/
inductive Mark
  | plain
  /-- The title of a part of a help text, or of a usage line. -/
  | title
  /-- The word that announces a complaint. -/
  | alarm
  /-- What is typed as it stands. -/
  | literal
  /-- What would be right. -/
  | valid
  /-- What is wrong. -/
  | invalid
  deriving DecidableEq

/-- The sequences that switch on the style of a mark, or none if there is no style. -/
def Mark.start : Mark → String
  | plain => ""
  | title => "\x1b[1m\x1b[4m"
  | alarm => "\x1b[1m\x1b[31m"
  | literal => "\x1b[1m"
  | valid => "\x1b[32m"
  | invalid => "\x1b[33m"

/-- The sequence that switches off the style of a mark. -/
def Mark.stop : Mark → String
  | plain => ""
  | _ => "\x1b[0m"

/-- A part of a marked text. -/
structure Span where
  mark : Mark
  text : String

/-- A marked text: its parts in order. -/
structure Markup where
  spans : List Span

namespace Markup

/-- The empty text. -/
def empty : Markup := ⟨[]⟩

/-- A text with one mark. -/
def marked (mark : Mark) (text : String) : Markup := ⟨[⟨mark, text⟩]⟩

/-- Texts one behind the other. -/
def append (m n : Markup) : Markup := ⟨m.spans ++ n.spans⟩

instance : Append Markup := ⟨append⟩

/-- An unmarked text. -/
instance : Coe String Markup := ⟨marked .plain⟩

/-- The texts one behind the other. -/
def join (ms : List Markup) : Markup := ⟨ms.flatMap Markup.spans⟩

/-- The texts one behind the other with commas between them. -/
def commaSeparated (ms : List Markup) : Markup := join (ms.intersperse (marked .plain ", "))

/-- The words of a marked text. -/
def words (m : Markup) : String := String.join (m.spans.map Span.text)

/-- The text with the styles of its marks. -/
def styledText (m : Markup) : String :=
  String.join (m.spans.map fun s => s.mark.start ++ s.text ++ s.mark.stop)

/-- The text as it is written to an output that shows styles, or to one that does not. -/
def text (styled : Bool) (m : Markup) : String :=
  if styled then m.styledText else Text.withoutControls m.styledText

end Markup

end VisualNovel.Console
