import VisualNovel.Session.Transition
import VisualNovel.Story.Loading

/-!
# The steps of a session

What the player and the program around the session can do: bind a story, start a game, set the
player's name and portrait, read on, pick a choice, interact with an object, and go on after an
outcome. A step that cannot be taken leaves the session as it is.
-/

namespace VisualNovel

/-- Why a session cannot do as it is told. Whatever goes wrong while a game is running is no error
of this kind: it is logged and passed over. -/
inductive SessionError
  | noStory
  | missingStartScene (id : String)
  | emptyRoster
  | load (error : LoadError)

/-- The error in words. -/
def SessionError.message : SessionError → String
  | noStory => "no story loaded"
  | missingStartScene id => "start scene \"" ++ id ++ "\" is not defined"
  | emptyRoster => "character roster is empty"
  | load error => error.message

/-- What comes of interacting with an object. -/
inductive Interaction
  /-- It happened, and may have handed an item to the player. -/
  | done (yielded : Option String)
  /-- The player lacks the item that the object needs. -/
  | locked (required : String)
  /-- There is no such object, it is used up, or no game is being played. -/
  | unavailable
  deriving DecidableEq

namespace Session

open Traced (log)

/-- Binds a story. A running game is over, and a player whose name holds the story's placeholder
gets the default name. -/
def bind (s : Session) (story : Story) : Traced Session := do
  log (.storyBound story.title)
  let bound := { s with story := some story, world := none, cursor := {} }
  if !story.placeholder.isEmpty && Text.contains s.profile.name story.placeholder then
    log (.nameHoldsNewPlaceholder s.profile.name story.placeholder)
    return { bound with profile := { s.profile with name := s.config.defaultName } }
  else return bound

/-- Binds the story that has been loaded; if there is none, the one bound before stays. -/
def load (s : Session) (loaded : Loaded) : Traced (Session × Except SessionError Unit) := do
  Traced.logAll loaded.events
  match loaded.result with
  | .ok story => return (← s.bind story, .ok ())
  | .error e => return (s, .error (.load e))

/-- Starts a new game in the start scene of the story. Nothing but the player is kept of the game
before. -/
def start (s : Session) : Traced (Session × Except SessionError Unit) := do
  match s.story with
  | none => return (s, .error .noStory)
  | some story =>
    if Text.isBlank story.start || (story.scene? story.start).isNone then
      return (s, .error (.missingStartScene story.start))
    else
      log (.gameStarted story.title story.start)
      let fresh := { s with world := some (.begin story.start s.profile), cursor := {} }
      return (← fresh.enter false story.start, .ok ())

/-- Sets the player's name, unless it is blank or holds the placeholder; tells whether it was
set. -/
def setName (s : Session) (name : String) : Traced (Session × Bool) := do
  let name := Text.trim name
  if name.isEmpty then
    log (.blankNameRejected s.profile.name)
    return (s, false)
  else if !s.placeholder.isEmpty && Text.contains name s.placeholder then
    log (.placeholderNameRejected name s.placeholder)
    return (s, false)
  else
    let world := s.world.map (·.rename name)
    return ({ s with profile := { s.profile with name }, world }, true)

/-- Sets the player's portrait; a blank one takes it away. -/
def setPortrait (s : Session) (portrait : String) : Session :=
  let portrait := Text.nonBlank (some portrait)
  let world := s.world.map (·.setPortrait portrait)
  { s with profile := { s.profile with portrait }, world }

/-- Moves to a scene by its id. -/
def goTo (s : Session) (id : String) : Traced Session := s.enter true id

/-- Moves past the line to be read; after the last one the continuation of the scene runs. -/
def advance (s : Session) : Traced Session := do
  if s.world.isNone then
    log .noGame
    return s
  else
    let (cursor, exhausted) := s.cursor.advance
    let moved := { s with cursor }
    if !exhausted || s.isTerminal then return moved
    else match s.storyScene? cursor.scene with
      | none => return moved
      | some scene => follow s.config.maxAutoHops scene moved

/-- Makes a choice: its action first, then its outcome, or else its next scene. -/
def makeChoice (s : Session) (choice : Choice) : Traced Session := do
  if s.state != .playing then
    log (.choiceIgnored choice.text)
    return s
  else
    log (.choiceMade choice.text)
    let s ← s.applyAction? choice.action
    match choice.outcome, choice.next with
    | some outcome, _ => s.resolve outcome
    | none, some next => s.goTo next
    | none, none =>
      log (.choiceLeadsNowhere choice.text s.sceneId?)
      return s

/-- Makes the visible choice at an index from zero; tells whether there is one. -/
def choose (s : Session) (index : Nat) : Traced (Session × Bool) := do
  match s.visibleChoices[index]? with
  | none =>
    log (.noVisibleChoice index)
    return (s, false)
  | some choice => return (← s.makeChoice choice, true)

/-- Leaves the outcome that has been reached, and the rest as it is. -/
def reset (s : Session) : Traced Session := do
  match s.world with
  | some w =>
    if w.terminal then
      log .outcomeCleared
      return { s with world := some w.leaveOutcome }
    else
      log .nothingToClear
      return s
  | none =>
    log .nothingToClear
    return s

/-- Goes on to the scene behind the outcome that has been reached; tells whether the player is
there now. -/
def continueOn (s : Session) : Traced (Session × Bool) := do
  match s.outcome?.bind (·.next) with
  | none => return (s, false)
  | some next =>
    if (s.storyScene? next).isNone then
      log (.nextSceneNotFound next)
      return (s, false)
    else
      let s ← (← s.reset).goTo next
      return (s, s.sceneId? == some next)

/-- Uses an object that is there and not locked: its action first, then the item it yields. -/
def useObject (s : Session) (scene : Scene) (object : SceneObject) (w : World) :
    Traced (Session × Interaction) := do
  let w ← match object.action with
    | none => pure w
    | some action => s.handler.apply action w
  let w := match object.yields with
    | none => w
    | some item => w.addItem item
  let w := if object.consumed then w.useUp scene.id object.id else w
  log (.objectUsed scene.id object.id)
  return ({ s with world := some w }, .done object.yields)

/-- Interacts with an object of the current scene. -/
def interact (s : Session) (id : String) : Traced (Session × Interaction) := do
  match s.world, s.scene? with
  | some w, some scene =>
    if w.terminal then return (s, .unavailable)
    else match scene.object? id with
      | none =>
        log (.noSuchObject scene.id id)
        return (s, .unavailable)
      | some object =>
        if w.isUsedUp scene.id object.id then return (s, .unavailable)
        else match object.requiredItem.filter (!w.hasItem ·) with
          | some required =>
            log (.objectLocked id required)
            return (s, .locked required)
          | none => s.useObject scene object w
  | _, _ => return (s, .unavailable)

end Session

/-- A step of a session. -/
inductive SessionStep
  | load (loaded : Loaded)
  | bind (story : Story)
  | start
  | setName (name : String)
  | setPortrait (portrait : String)
  | advance
  | goTo (scene : String)
  | makeChoice (choice : Choice)
  | choose (index : Nat)
  | reset
  | continueOn
  | interact (object : String)

/-- What a session answers to a step. -/
inductive SessionAnswer
  | nothing
  | boolean (b : Bool)
  | outcome (result : Except SessionError Unit)
  | interaction (i : Interaction)

namespace Session

/-- Takes a step. -/
def step (s : Session) : SessionStep → Traced (Session × SessionAnswer)
  | .load loaded => do
    let (s, result) ← s.load loaded
    return (s, .outcome result)
  | .bind story => do return (← s.bind story, .nothing)
  | .start => do
    let (s, result) ← s.start
    return (s, .outcome result)
  | .setName name => do
    let (s, accepted) ← s.setName name
    return (s, .boolean accepted)
  | .setPortrait portrait => return (s.setPortrait portrait, .nothing)
  | .advance => do return (← s.advance, .nothing)
  | .goTo scene => do return (← s.goTo scene, .nothing)
  | .makeChoice choice => do return (← s.makeChoice choice, .nothing)
  | .choose index => do
    let (s, made) ← s.choose index
    return (s, .boolean made)
  | .reset => do return (← s.reset, .nothing)
  | .continueOn => do
    let (s, continued) ← s.continueOn
    return (s, .boolean continued)
  | .interact object => do
    let (s, i) ← s.interact object
    return (s, .interaction i)

end Session

end VisualNovel
