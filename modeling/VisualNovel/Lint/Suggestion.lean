import VisualNovel.Text.Lowercase
import VisualNovel.Text.Similarity

/-!
# What may have been meant

For an id that nothing is filed under, the known id that is most like it may have been meant, if it
is like enough. Case does not count.
-/

namespace VisualNovel.Lint

/-- How alike an id has to be to be suggested. -/
def similarityNeeded : Float := 0.8

/-- How alike two ids are, case aside. -/
def similarity (a b : String) : Float :=
  Text.jaroWinkler (Text.lowercase a) (Text.lowercase b)

/-- The better one of the suggestion so far and a candidate; of two equally good ones the later. -/
def better (input : String) (best : Option (String × Float)) (candidate : String) :
    Option (String × Float) :=
  let score := similarity input candidate
  if score ≥ similarityNeeded then
    match best with
    | none => some (candidate, score)
    | some (chosen, highest) =>
      if highest > score then some (chosen, highest) else some (candidate, score)
  else best

/-- The candidate that is most like `input`, the last one among equals. -/
def suggest (input : String) (candidates : List String) : Option String :=
  (candidates.foldl (better input) none).map Prod.fst

end VisualNovel.Lint
