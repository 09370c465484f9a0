import VisualNovel.Story.Scene

/-!
# Reading dialogue line by line

A cursor stands on a line of one scene's dialogue, or behind the last one. It only reports that the
dialogue is exhausted; what follows is not its business.
-/

namespace VisualNovel

/-- A place in the dialogue of a scene. -/
structure Cursor where
  /-- The id of the scene. -/
  scene : String := ""
  lines : List Line := []
  /-- How many lines have been read. -/
  position : Nat := 0
  deriving DecidableEq

namespace Cursor

/-- The cursor on the first line of a scene. -/
def start (scene : Scene) : Cursor := { scene := scene.id, lines := scene.dialogue }

/-- The line to be read, unless all have been. -/
def line? (c : Cursor) : Option Line := c.lines[c.position]?

/-- Whether all lines have been read. -/
def isExhausted (c : Cursor) : Bool := c.lines.length ≤ c.position

/-- Moves past the line to be read, and tells whether it was the last one. A cursor behind the last
line stays there. -/
def advance (c : Cursor) : Cursor × Bool :=
  if c.isExhausted then (c, false)
  else ({ c with position := c.position + 1 }, c.position + 1 == c.lines.length)

end Cursor

end VisualNovel
