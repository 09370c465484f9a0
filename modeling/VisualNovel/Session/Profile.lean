/-!
# Players

A player has a name, which stands for the placeholder of the story, and may have a portrait.
-/

namespace VisualNovel

/-- Who the player is. -/
structure Profile where
  name : String
  portrait : Option String := none
  deriving DecidableEq, Inhabited

end VisualNovel
