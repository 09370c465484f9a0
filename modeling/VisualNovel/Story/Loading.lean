import VisualNovel.Event
import VisualNovel.Story.Basic
import VisualNovel.Story.Location
import VisualNovel.Story.Record

/-!
# From a document to a story

Loading either yields a complete story or says why it cannot. The texts that name something are
trimmed, and blank ones count as missing; the texts that are shown stay as they are. Tokens outside
the built-in vocabulary make a strict load fail and become custom actions in a lenient one. Links
between scenes are not looked at, except that the start scene has to be there.
-/

namespace VisualNovel

/-- What becomes of action tokens outside the built-in vocabulary. -/
inductive Strictness
  | strict
  | lenient
  deriving DecidableEq

/-- Why a resource has no text. -/
inductive ReadFailure
  | notFound
  | notText
  /-- The system refused it, in its own words. -/
  | refused (reason : String)
  deriving DecidableEq

/-- The failure in words. -/
def ReadFailure.message : ReadFailure → String
  | notFound => "No such file or directory (os error 2)"
  | notText => "stream did not contain valid UTF-8"
  | refused reason => reason

/-- Why a story cannot be loaded. -/
inductive LoadError
  | unreadable (resource : String) (failure : ReadFailure)
  | unparsable (fault : Json.Fault)
  | noStartScene
  | undefinedStartScene (id : String)
  | invalidAction (location : Location) (token : String)

/-- The error in words. -/
def LoadError.message : LoadError → String
  | unreadable resource failure =>
    "cannot read story resource " ++ resource ++ ": " ++ failure.message
  | unparsable fault => "cannot parse story document: " ++ fault.message
  | noStartScene => "invalid story: startScene is missing or empty"
  | undefinedStartScene id => "invalid story: start scene \"" ++ id ++ "\" is not defined"
  | invalidAction location token =>
    "invalid action \"" ++ token ++ "\" in " ++ location.text

open Text (nonBlank)

/-- The action of a token at a place of the story; a blank token is none. -/
def loadAction (mode : Strictness) (location : Location) (token : Option String) :
    Except LoadError (Option Action) :=
  match nonBlank token, mode with
  | none, _ => .ok none
  | some token, .lenient => .ok (some (Action.parse token))
  | some token, .strict =>
    match Action.parse? token with
    | some action => .ok (some action)
    | none => .error (.invalidAction location token)

/-- The line of a record. -/
def LineRecord.toLine (r : LineRecord) : Line :=
  { speaker := nonBlank r.speaker
    text := r.line
    portrait := nonBlank r.portrait
    style := nonBlank r.style }

/-- The choice of a record; it is the one with this number in the scene. -/
def ChoiceRecord.toChoice (mode : Strictness) (scene : String) (number : Nat) (r : ChoiceRecord) :
    Except LoadError Choice := do
  let action ← loadAction mode (.choice number scene) r.action
  return {
    text := r.text
    next := nonBlank r.next
    outcome := nonBlank r.outcome
    action
    requiredFlag := nonBlank r.requiredFlag
    requiredItem := nonBlank r.requiredItem }

/-- The object of a record. Without a name it is called by its id. -/
def ObjectRecord.toObject (mode : Strictness) (scene : String) (r : ObjectRecord) :
    Except LoadError SceneObject := do
  let action ← loadAction mode (.object r.id scene) r.action
  return {
    id := r.id
    name := if r.name.isEmpty then r.id else r.name
    image := nonBlank r.image
    x := r.x
    y := r.y
    requiredItem := nonBlank r.requiredItem
    action
    yields := nonBlank r.yields
    consumed := r.consumed }

/-- The outcome of a record. -/
def OutcomeRecord.toOutcome (r : OutcomeRecord) : Outcome :=
  { message := r.message
    next := nonBlank r.next
    image := nonBlank r.image
    audio := nonBlank r.audio }

/-- The choices of some records, the first of which has the given number. -/
def loadChoices (mode : Strictness) (scene : String) :
    Nat → List ChoiceRecord → Except LoadError (List Choice)
  | _, [] => .ok []
  | number, r :: rs => do
    let choice ← r.toChoice mode scene number
    let choices ← loadChoices mode scene (number + 1) rs
    return choice :: choices

namespace SceneRecord

/-- The scene of a record, under the id it is filed under. -/
def toScene (mode : Strictness) (id : String) (r : SceneRecord) : Except LoadError Scene := do
  let action ← loadAction mode (.scene id) r.action
  let choices ← loadChoices mode id 1 r.choices
  let objects ← r.objects.mapM (·.toObject mode id)
  return {
    id
    dialogue := r.dialogue.map (·.toLine)
    choices
    objects
    autoTransition := nonBlank r.autoTransition
    outcome := nonBlank r.outcome
    action
    endingTitle := nonBlank r.endingTitle
    text := r.text
    image := nonBlank r.image
    music := nonBlank r.music }

/-- The warning about a scene that knows itself by another id. -/
def idWarnings (id : String) (r : SceneRecord) : List Event :=
  match nonBlank r.id with
  | some own => if own = id then [] else [.sceneIdDiffers id own]
  | none => []

end SceneRecord

namespace StoryRecord

/-- The story of a record. -/
def toStory (mode : Strictness) (r : StoryRecord) : Except LoadError Story := do
  let some start := nonBlank r.start | throw .noStartScene
  let scenes ← r.scenes.make (fun id scene => scene.toScene mode id)
  if !scenes.contains start then throw (.undefinedStartScene start)
  return {
    title := r.title
    start
    placeholder := (r.placeholder.filter (!Text.isBlank ·)).getD Story.defaultPlaceholder
    scenes
    outcomes := r.outcomes.map fun _ outcome => outcome.toOutcome }

/-- The warnings of some scenes, up to the first that does not load. -/
def sceneWarnings (mode : Strictness) : List (String × SceneRecord) → List Event
  | [] => []
  | (id, scene) :: scenes =>
    scene.idWarnings id ++
      match scene.toScene mode id with
      | .ok _ => sceneWarnings mode scenes
      | .error _ => []

/-- What making a story of the record logs. The scenes are not reached without a start scene. -/
def events (mode : Strictness) (r : StoryRecord) : List Event :=
  (if (nonBlank r.start).isSome then sceneWarnings mode r.scenes.entries else []) ++
    match r.toStory mode with
    | .ok story => [.storyLoaded story.title story.scenes.size story.outcomes.size]
    | .error _ => []

end StoryRecord

/-- A story, or why it cannot be loaded, and what loading it logged. -/
structure Loaded where
  result : Except LoadError Story
  events : List Event

namespace Loaded

/-- Loads a story from a document. -/
def ofDocument (mode : Strictness) (document : Json.Document) : Loaded :=
  match document.decode StoryRecord.format.decode with
  | .ok record => ⟨record.toStory mode, record.events mode⟩
  | .error fault => ⟨.error (.unparsable fault), []⟩

/-- Loads a story from bytes. -/
def ofBytes (mode : Strictness) (bytes : ByteArray) : Loaded :=
  ofDocument mode (.ofBytes bytes.toList)

/-- Loads a story from a text without checking any of its strings; `stray` tells what is made of one
that is not UTF-8. -/
def ofTextUnchecked (stray : ByteArray → String) (mode : Strictness) (text : String) : Loaded :=
  ofDocument mode (.ofUnchecked stray text.toUTF8.toList)

/-- Loads a story from a text. All of it is UTF-8, so there is nothing to check in it, and nothing
depends on what would be made of strings that are not. -/
def ofText (mode : Strictness) (text : String) : Loaded := ofTextUnchecked (fun _ => "") mode text

/-- Loads a story from a file with these contents. -/
def ofFile (mode : Strictness) (path : String) (contents : Except ReadFailure ByteArray) :
    Loaded :=
  let loaded : Loaded :=
    match contents with
    | .error failure => ⟨.error (.unreadable path failure), []⟩
    | .ok bytes =>
      match String.fromUTF8? bytes with
      | some text => ofText mode text
      | none => ⟨.error (.unreadable path .notText), []⟩
  { loaded with events := .readingResource path :: loaded.events }

end Loaded

end VisualNovel
