import VisualNovel.Text.Quoted

/-!
# What is logged

Loading a story and playing it leave a trace of events. Nothing depends on them: a broken link, an
unknown action or a refused step shows up here and the session stays as it is. Each event has a
level, a message and some named values.
-/

namespace VisualNovel

/-- How much an event matters. -/
inductive Level
  | error
  | warning
  | info
  | debug
  deriving DecidableEq

/-- Something worth a line in the log. -/
inductive Event
  | readingResource (path : String)
  | storyLoaded (title : String) (scenes outcomes : Nat)
  /-- A scene knows itself by another id than the one it is filed under. -/
  | sceneIdDiffers (key id : String)
  | storyBound (title : String)
  | nameHoldsNewPlaceholder (name placeholder : String)
  | gameStarted (title scene : String)
  | blankNameRejected (current : String)
  | placeholderNameRejected (name placeholder : String)
  | noGame
  /-- A scene was to be entered while no game was being played. -/
  | sceneIgnored (scene : String)
  | sceneNotFound (scene : String) (current : Option String)
  | sceneEntered (scene : String) (lines : Nat)
  | choiceIgnored (choice : String)
  | choiceMade (choice : String)
  | choiceLeadsNowhere (choice : String) (scene : Option String)
  | noVisibleChoice (index : Nat)
  | outcomeCleared
  | nothingToClear
  /-- The scene that should follow an outcome does not exist. -/
  | nextSceneNotFound (scene : String)
  | noSuchObject (scene object : String)
  | objectLocked (object required : String)
  | objectUsed (scene object : String)
  | everyChoiceHidden (scene : String)
  | waitingForChoice (scene : String)
  | hopLimitReached (scene : String) (hops : Nat)
  | endReached (scene : String)
  | deadEndReached (scene : String)
  | outcomeNotFound (outcome : String)
  | outcomeReached (outcome scene : String)
  | removedItemNotHeld (item : String)
  | actionApplied (token : String)
  | actionIgnored (token : String)
  | lockRecovered
  deriving DecidableEq

/-- A value that an event names. -/
inductive EventValue
  /-- A text, shown as it is. -/
  | plain (text : String)
  /-- A text, shown between quotes. -/
  | quoted (text : String)
  | number (n : Nat)
  deriving DecidableEq

namespace Event

/-- An optional id as it is shown. -/
def optionalId : Option String → EventValue
  | some id => .plain ("Some(" ++ Text.quoted id ++ ")")
  | none => .plain "None"

/-- How much the event matters. -/
def level : Event → Level
  | hopLimitReached .. => .error
  | sceneIdDiffers .. | nameHoldsNewPlaceholder .. | blankNameRejected ..
  | placeholderNameRejected .. | sceneNotFound .. | choiceLeadsNowhere .. | noVisibleChoice ..
  | nextSceneNotFound .. | noSuchObject .. | everyChoiceHidden .. | deadEndReached ..
  | outcomeNotFound .. | actionIgnored .. | lockRecovered => .warning
  | storyLoaded .. | storyBound .. | gameStarted .. | choiceMade .. | objectUsed ..
  | endReached .. | outcomeReached .. => .info
  | readingResource .. | noGame | sceneIgnored .. | sceneEntered .. | choiceIgnored ..
  | outcomeCleared | nothingToClear | objectLocked .. | waitingForChoice ..
  | removedItemNotHeld .. | actionApplied .. => .debug

/-- The event in words. -/
def message : Event → String
  | readingResource .. => "reading story resource"
  | storyLoaded .. => "story loaded"
  | sceneIdDiffers .. => "scene body id differs from its key; using the key"
  | storyBound .. => "story bound"
  | nameHoldsNewPlaceholder .. =>
    "player name contains the new placeholder; using the default name"
  | gameStarted .. => "game started"
  | blankNameRejected .. => "blank player name rejected"
  | placeholderNameRejected .. => "player name containing the placeholder rejected"
  | noGame => "advance ignored: no game running"
  | sceneIgnored .. => "advance ignored: not playing"
  | sceneNotFound .. => "cannot advance: scene not found"
  | sceneEntered .. => "entered scene"
  | choiceIgnored .. => "choice ignored: not playing"
  | choiceMade .. => "player chose"
  | choiceLeadsNowhere .. => "choice has neither a next scene nor an outcome"
  | noVisibleChoice .. => "no visible choice at index"
  | outcomeCleared => "terminal state cleared"
  | nothingToClear => "reset ignored: not resolved"
  | nextSceneNotFound .. => "cannot continue: scene after outcome not found"
  | noSuchObject .. => "no such object in scene"
  | objectLocked .. => "object locked"
  | objectUsed .. => "interacted with object"
  | everyChoiceHidden .. => "no choices available after gating"
  | waitingForChoice .. => "waiting for a choice"
  | hopLimitReached .. => "auto-transition limit reached; stopping"
  | endReached .. => "reached the end of the story"
  | deadEndReached .. => "scene has no continuation; narrative dead end"
  | outcomeNotFound .. => "cannot resolve: outcome not found"
  | outcomeReached .. => "outcome reached"
  | removedItemNotHeld .. => "removed item was not held"
  | actionApplied .. => "applied action"
  | actionIgnored .. => "unrecognized action ignored"
  | lockRecovered => "interpreter lock was poisoned; recovering"

/-- The values that the event names, in order. -/
def values : Event → List (String × EventValue)
  | readingResource path => [("path", .plain path)]
  | storyLoaded title scenes outcomes =>
    [("title", .plain title), ("scenes", .number scenes), ("outcomes", .number outcomes)]
  | sceneIdDiffers key id => [("key", .quoted key), ("id", .plain id)]
  | storyBound title => [("title", .plain title)]
  | nameHoldsNewPlaceholder name placeholder =>
    [("name", .plain name), ("placeholder", .quoted placeholder)]
  | gameStarted title scene => [("title", .plain title), ("scene", .quoted scene)]
  | blankNameRejected current => [("current", .plain current)]
  | placeholderNameRejected name placeholder =>
    [("name", .quoted name), ("placeholder", .quoted placeholder)]
  | sceneIgnored scene => [("scene", .quoted scene)]
  | sceneNotFound scene current => [("scene", .quoted scene), ("current", optionalId current)]
  | sceneEntered scene lines => [("scene", .plain scene), ("lines", .number lines)]
  | choiceIgnored choice | choiceMade choice => [("choice", .plain choice)]
  | choiceLeadsNowhere choice scene => [("choice", .plain choice), ("scene", optionalId scene)]
  | noVisibleChoice index => [("index", .number index)]
  | noSuchObject scene object | objectUsed scene object =>
    [("scene", .plain scene), ("object", .quoted object)]
  | objectLocked object required => [("object", .quoted object), ("required", .plain required)]
  | hopLimitReached scene hops => [("scene", .plain scene), ("hops", .number hops)]
  | nextSceneNotFound scene | everyChoiceHidden scene | waitingForChoice scene
  | endReached scene | deadEndReached scene => [("scene", .plain scene)]
  | outcomeNotFound outcome => [("outcome", .quoted outcome)]
  | outcomeReached outcome scene => [("outcome", .quoted outcome), ("scene", .plain scene)]
  | removedItemNotHeld item => [("item", .plain item)]
  | actionApplied token => [("action", .plain token)]
  | actionIgnored token => [("token", .plain token)]
  | noGame | outcomeCleared | nothingToClear | lockRecovered => []

end Event

end VisualNovel
