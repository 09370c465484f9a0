import VisualNovel.Catalog
import VisualNovel.Story.Scene

/-!
# Stories

A story is a catalog of scenes, a catalog of outcomes, the id of the scene it starts in, and the
placeholder that stands for the player's name in its texts. Links between scenes are ids and may
lead nowhere; only the linter and the running session find out.
-/

namespace VisualNovel

/-- How a story, or a part of it, ends. -/
structure Outcome where
  message : String := ""
  /-- The scene to go on with; without one the outcome is final. -/
  next : Option String := none
  image : Option String := none
  audio : Option String := none
  deriving DecidableEq, Inhabited

/-- Whether nothing follows the outcome. -/
def Outcome.isFinal (o : Outcome) : Bool := o.next.isNone

/-- A branching story. -/
structure Story where
  title : String
  start : String
  placeholder : String
  scenes : Catalog Scene
  outcomes : Catalog Outcome
  deriving Inhabited

namespace Story

/-- What stands for the player's name in a story that does not say. -/
def defaultPlaceholder : String := "\x7bplayerName\x7d"

/-- A story without scenes and outcomes. -/
def blank (title start : String) (placeholder : String := defaultPlaceholder) : Story :=
  { title, start, placeholder, scenes := .empty, outcomes := .empty }

/-- Adds a scene under its own id, in place of one that was there. -/
def addScene (s : Story) (scene : Scene) : Story :=
  { s with scenes := s.scenes.insert scene.id scene }

/-- Adds an outcome under `id`, in place of one that was there. -/
def addOutcome (s : Story) (id : String) (outcome : Outcome) : Story :=
  { s with outcomes := s.outcomes.insert id outcome }

/-- The scene with this id. -/
def scene? (s : Story) (id : String) : Option Scene := s.scenes.get? id

/-- The outcome with this id. -/
def outcome? (s : Story) (id : String) : Option Outcome := s.outcomes.get? id

/-- The scene that the story starts in. -/
def startScene? (s : Story) : Option Scene := s.scene? s.start

end Story

end VisualNovel
