/-!
# Replacing a placeholder in a text

A story names its player by a placeholder. Occurrences are replaced from the left and never
overlap; what a replacement puts in is not searched again. An empty placeholder occurs nowhere.
-/

namespace VisualNovel.Text

/-- Whether `pattern` stands somewhere in `cs`. -/
def occursIn (pattern : List Char) : List Char → Bool
  | [] => pattern.isEmpty
  | c :: cs => pattern.isPrefixOf (c :: cs) || occursIn pattern cs

/-- Whether `pattern` stands somewhere in `s`. The empty pattern does. -/
def contains (s pattern : String) : Bool := occursIn pattern.toList s.toList

/-- The characters with every occurrence of a non-empty pattern replaced, the first `pending` of
them dropped: they belong to an occurrence that has been replaced already. -/
def replaceFrom (pattern replacement : List Char) : Nat → List Char → List Char
  | _, [] => []
  | pending + 1, _ :: cs => replaceFrom pattern replacement pending cs
  | 0, c :: cs =>
    if pattern.isPrefixOf (c :: cs) then
      replacement ++ replaceFrom pattern replacement (pattern.length - 1) cs
    else
      c :: replaceFrom pattern replacement 0 cs

/-- `raw` with `name` for every occurrence of `placeholder`. -/
def substitute (raw placeholder name : String) : String :=
  if placeholder.isEmpty then raw
  else String.ofList (replaceFrom placeholder.toList name.toList 0 raw.toList)

end VisualNovel.Text
