import VisualNovel.Catalog
import VisualNovel.Session.Profile

/-!
# The world of a running game

Where the player is, who they are, what they hold, which flags are set, which objects are used up,
and the outcome that has been reached, if one has. Every game begins with a new world.
-/

namespace VisualNovel

/-- The state of a game. -/
structure World where
  /-- The id of the scene that the player is in. -/
  scene : String
  player : Profile
  items : IdSet := .empty
  flags : IdSet := .empty
  /-- Whether an outcome has been reached. -/
  terminal : Bool := false
  /-- The id of the outcome that has been reached. -/
  outcome : Option String := none
  /-- The objects that are used up, each by the id of its scene and its own. -/
  usedUp : List (String × String) := []

namespace World

/-- The world of a new game. -/
def begin (scene : String) (player : Profile) : World := { scene, player }

/-- Whether the player holds an item. -/
def hasItem (w : World) (item : String) : Bool := w.items.contains item

/-- Whether a flag is set. -/
def hasFlag (w : World) (flag : String) : Bool := w.flags.contains flag

/-- Gives an item to the player. -/
def addItem (w : World) (item : String) : World := { w with items := w.items.add item }

/-- Takes an item from the player. -/
def removeItem (w : World) (item : String) : World := { w with items := w.items.erase item }

/-- Sets a flag. -/
def setFlag (w : World) (flag : String) : World := { w with flags := w.flags.add flag }

/-- Clears a flag. -/
def clearFlag (w : World) (flag : String) : World := { w with flags := w.flags.erase flag }

/-- Whether an object of a scene is used up. -/
def isUsedUp (w : World) (scene object : String) : Bool := w.usedUp.contains (scene, object)

/-- Uses an object of a scene up. -/
def useUp (w : World) (scene object : String) : World :=
  { w with usedUp := (scene, object) :: w.usedUp }

/-- Puts the player into another scene. -/
def moveTo (w : World) (scene : String) : World := { w with scene }

/-- Gives the player another name. -/
def rename (w : World) (name : String) : World := { w with player := { w.player with name } }

/-- Gives the player another portrait, or none. -/
def setPortrait (w : World) (portrait : Option String) : World :=
  { w with player := { w.player with portrait } }

/-- Reaches an outcome. -/
def reach (w : World) (outcome : String) : World :=
  { w with terminal := true, outcome := some outcome }

/-- Leaves the outcome that has been reached. -/
def leaveOutcome (w : World) : World := { w with terminal := false, outcome := none }

end World

end VisualNovel
