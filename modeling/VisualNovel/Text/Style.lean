/-!
# Styled text on a terminal

A terminal that shows styles switches one on by an escape sequence and switches all off at the
end. Where the text switches styles off itself, its own style is switched on again right after.
-/

namespace VisualNovel.Text

/-- How a text is shown. -/
inductive Style
  | bold
  | dimmed
  | italic
  | green
  | yellow
  | boldRed
  deriving DecidableEq

namespace Style

/-- The numbers that switch the style on. -/
def codes : Style → String
  | bold => "1"
  | dimmed => "2"
  | italic => "3"
  | green => "32"
  | yellow => "33"
  | boldRed => "1;31"

/-- The sequence that switches the style on. -/
def start (s : Style) : String := "\x1b[" ++ s.codes ++ "m"

/-- The sequence that switches every style off. -/
def reset : String := "\x1b[0m"

/-- The text shown in the style, on a terminal that shows styles or on one that does not. -/
def apply (shown : Bool) (style : Style) (text : String) : String :=
  if shown then
    style.start ++ (reset ++ style.start).intercalate (text.splitOn reset) ++ reset
  else text

end Style

end VisualNovel.Text
