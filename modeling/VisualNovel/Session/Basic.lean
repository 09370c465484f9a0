import VisualNovel.Session.Condition
import VisualNovel.Session.Cursor
import VisualNovel.Session.Handler
import VisualNovel.Session.ShownLine
import VisualNovel.Story.Basic

/-!
# Sessions

A session plays one story for one player: it holds the bound story, the player, the world of the
running game and the place in the dialogue. Here are its state and what can be asked of it; the
steps that change it are elsewhere.
-/

namespace VisualNovel

/-- A session. -/
structure Session where
  config : Config := {}
  handler : Handler := .builtin
  story : Option Story := none
  profile : Profile
  /-- The world of the running game, if one is running. -/
  world : Option World := none
  cursor : Cursor := {}

/-- Where a session stands. -/
inductive SessionState
  /-- No game is running. -/
  | idle
  | playing
  /-- The game has reached an outcome. -/
  | resolved
  deriving DecidableEq

namespace Session

/-- A session without a story. -/
def new (config : Config) (handler : Handler := .builtin) : Session :=
  { config, handler, profile := { name := config.defaultName } }

/-- Where the session stands. -/
def state (s : Session) : SessionState :=
  match s.world with
  | none => .idle
  | some w => if w.terminal then .resolved else .playing

/-- Whether the game has reached an outcome. -/
def isTerminal (s : Session) : Bool := s.state == .resolved

/-- What stands for the player's name. -/
def placeholder (s : Session) : String :=
  match s.story with
  | some story => story.placeholder
  | none => Story.defaultPlaceholder

/-- The id of the scene that the player is in. -/
def sceneId? (s : Session) : Option String := s.world.map (·.scene)

/-- A scene of the bound story. -/
def storyScene? (s : Session) (id : String) : Option Scene := s.story.bind (·.scene? id)

/-- The scene that the player is in. -/
def scene? (s : Session) : Option Scene := s.sceneId?.bind s.storyScene?

/-- What follows the dialogue of the scene that the player is in. -/
def continuation? (s : Session) : Option Continuation := s.scene?.map (·.continuation)

/-- The line to be read, as it is written. -/
def line? (s : Session) : Option Line := s.cursor.line?

/-- The line to be read, as it is shown. -/
def shownLine? (s : Session) : Option ShownLine := do
  let w ← s.world
  let line ← s.line?
  return line.shown w.player s.placeholder s.config

/-- The choices of the current scene that are offered, in order. -/
def visibleChoices (s : Session) : List Choice :=
  match s.world, s.scene? with
  | some w, some scene => scene.choices.filter (·.isVisible w)
  | _, _ => []

/-- The objects of the current scene that are not used up, in order. -/
def visibleObjects (s : Session) : List SceneObject :=
  match s.world, s.scene? with
  | some w, some scene => scene.objects.filter fun o => !w.isUsedUp scene.id o.id
  | _, _ => []

/-- The outcome that has been reached. -/
def outcome? (s : Session) : Option Outcome := do
  let w ← s.world
  let id ← w.outcome
  let story ← s.story
  story.outcome? id

/-- Whether the player holds an item. -/
def hasItem (s : Session) (item : String) : Bool := s.world.any (·.hasItem item)

/-- Whether a flag is set. -/
def hasFlag (s : Session) (flag : String) : Bool := s.world.any (·.hasFlag flag)

/-- A text with the player's name filled in. -/
def fillIn (s : Session) (raw : String) : String :=
  Text.substitute raw s.placeholder s.profile.name

end Session

end VisualNovel
