import VisualNovel.Json.Decode

/-!
# The records of a story document

A story document is one record with further records in it. Here they are as they are written:
texts are not trimmed, actions are tokens, and a scene need not know its own id. Every field may be
left out, an object's id excepted, and null counts as left out where a missing value is allowed.
-/

namespace VisualNovel

open Json (Field Format Decoder)

/-- A line of dialogue as it is written. -/
structure LineRecord where
  speaker : Option String := none
  line : String := ""
  portrait : Option String := none
  style : Option String := none
  deriving DecidableEq

/-- A choice as it is written. -/
structure ChoiceRecord where
  text : String := ""
  next : Option String := none
  outcome : Option String := none
  action : Option String := none
  requiredFlag : Option String := none
  requiredItem : Option String := none
  deriving DecidableEq

/-- An object as it is written. -/
structure ObjectRecord where
  id : String := ""
  name : String := ""
  image : Option String := none
  x : Int32 := 0
  y : Int32 := 0
  requiredItem : Option String := none
  action : Option String := none
  yields : Option String := none
  consumed : Bool := false
  deriving DecidableEq

/-- An outcome as it is written. -/
structure OutcomeRecord where
  message : String := ""
  next : Option String := none
  image : Option String := none
  audio : Option String := none
  deriving DecidableEq

/-- A scene as it is written. -/
structure SceneRecord where
  id : Option String := none
  dialogue : List LineRecord := []
  choices : List ChoiceRecord := []
  autoTransition : Option String := none
  outcome : Option String := none
  action : Option String := none
  endingTitle : Option String := none
  text : Option String := none
  image : Option String := none
  music : Option String := none
  objects : List ObjectRecord := []
  deriving DecidableEq

/-- A story as it is written. -/
structure StoryRecord where
  title : String := ""
  start : Option String := none
  placeholder : Option String := none
  scenes : Catalog SceneRecord := .empty
  outcomes : Catalog OutcomeRecord := .empty

/-- A text that may be null. -/
abbrev optionalText : Decoder (Option String) := Decoder.optional Decoder.text

/-- How a line is written. -/
def LineRecord.format : Format LineRecord where
  kind := "RawLine"
  blank := {}
  required := none
  fields :=
    [.of "speaker" optionalText (fun v r => { r with speaker := v }) [],
     .of "line" .text (fun v r => { r with line := v }) [],
     .of "portraitPath" optionalText (fun v r => { r with portrait := v }) [],
     .of "style" optionalText (fun v r => { r with style := v }) []]

/-- How a choice is written. -/
def ChoiceRecord.format : Format ChoiceRecord where
  kind := "RawChoice"
  blank := {}
  required := none
  fields :=
    [.of "text" .text (fun v r => { r with text := v }) [],
     .of "nextSceneId" optionalText (fun v r => { r with next := v }) [],
     .of "outcome" optionalText (fun v r => { r with outcome := v }) [],
     .of "action" optionalText (fun v r => { r with action := v }) [],
     .of "requiredFlag" optionalText (fun v r => { r with requiredFlag := v }) [],
     .of "requiredItem" optionalText (fun v r => { r with requiredItem := v }) []]

/-- How an object is written. -/
def ObjectRecord.format : Format ObjectRecord where
  kind := "RawObject"
  blank := {}
  required := some "id"
  fields :=
    [.of "id" .text (fun v r => { r with id := v }) [],
     .of "name" .text (fun v r => { r with name := v }) [],
     .of "imagePath" optionalText (fun v r => { r with image := v }) [],
     .of "x" .int32 (fun v r => { r with x := v }) [],
     .of "y" .int32 (fun v r => { r with y := v }) [],
     .of "requiredItem" optionalText (fun v r => { r with requiredItem := v }) [],
     .of "actionOnInteract" optionalText (fun v r => { r with action := v }) [],
     .of "yieldsItem" optionalText (fun v r => { r with yields := v }) [],
     .of "consumedOnInteract" .boolean (fun v r => { r with consumed := v }) []]

/-- How an outcome is written. -/
def OutcomeRecord.format : Format OutcomeRecord where
  kind := "RawOutcome"
  blank := {}
  required := none
  fields :=
    [.of "message" .text (fun v r => { r with message := v }) ["outcomeText"],
     .of "nextSceneId" optionalText (fun v r => { r with next := v }) [],
     .of "imagePath" optionalText (fun v r => { r with image := v }) ["outcomeImagePath"],
     .of "audioPath" optionalText (fun v r => { r with audio := v }) ["outcomeAudioPath"]]

/-- How a scene is written. -/
def SceneRecord.format : Format SceneRecord where
  kind := "RawScene"
  blank := {}
  required := none
  fields :=
    [.of "id" optionalText (fun v r => { r with id := v }) [],
     .of "dialogue" (.list LineRecord.format.decode) (fun v r => { r with dialogue := v }) [],
     .of "choices" (.optional (.list ChoiceRecord.format.decode))
       (fun v r => { r with choices := v.getD [] }) [],
     .of "autoTransitionTo" optionalText (fun v r => { r with autoTransition := v }) [],
     .of "outcome" optionalText (fun v r => { r with outcome := v }) [],
     .of "action" optionalText (fun v r => { r with action := v }) [],
     .of "endingTitle" optionalText (fun v r => { r with endingTitle := v }) [],
     .of "text" optionalText (fun v r => { r with text := v }) [],
     .of "backgroundImage" optionalText (fun v r => { r with image := v }) [],
     .of "backgroundMusic" optionalText (fun v r => { r with music := v }) [],
     .of "interactiveObjects" (.list ObjectRecord.format.decode)
       (fun v r => { r with objects := v }) []]

/-- How a story is written. -/
def StoryRecord.format : Format StoryRecord where
  kind := "RawStory"
  blank := {}
  required := none
  fields :=
    [.of "gameTitle" .text (fun v r => { r with title := v }) [],
     .of "startScene" optionalText (fun v r => { r with start := v }) [],
     .of "playerNamePlaceholder" optionalText (fun v r => { r with placeholder := v }) [],
     .of "scenes" (.catalog SceneRecord.format.decode) (fun v r => { r with scenes := v }) [],
     .of "outcomes" (.catalog OutcomeRecord.format.decode)
       (fun v r => { r with outcomes := v }) []]

end VisualNovel
