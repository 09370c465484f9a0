import VisualNovel.Story.Action

/-!
# Scenes and what is in them

A scene holds lines of dialogue, choices, objects to interact with, and up to three declarations
of what follows once its dialogue is read. `Scene.continuation` says which of them counts.
-/

namespace VisualNovel

/-- One line of dialogue. -/
structure Line where
  /-- Who speaks; missing for narration. -/
  speaker : Option String := none
  text : String := ""
  portrait : Option String := none
  /-- A hint on how to present the line. -/
  style : Option String := none
  deriving DecidableEq, Inhabited

/-- A way out of a scene that the player may pick. -/
structure Choice where
  text : String := ""
  /-- The scene it leads to. -/
  next : Option String := none
  /-- The outcome it resolves to; it counts before the scene. -/
  outcome : Option String := none
  action : Option Action := none
  /-- Hidden unless this flag is set. -/
  requiredFlag : Option String := none
  /-- Hidden unless this item is held. -/
  requiredItem : Option String := none
  deriving DecidableEq, Inhabited

/-- Something in a scene that the player can interact with. -/
structure SceneObject where
  id : String := ""
  name : String := ""
  image : Option String := none
  x : Int32 := 0
  y : Int32 := 0
  /-- The item needed to interact. -/
  requiredItem : Option String := none
  action : Option Action := none
  /-- The item handed to the player. -/
  yields : Option String := none
  /-- Whether it is used up by one interaction. -/
  consumed : Bool := false
  deriving DecidableEq, Inhabited

/-- A node of the story. -/
structure Scene where
  id : String := ""
  dialogue : List Line := []
  choices : List Choice := []
  objects : List SceneObject := []
  /-- The scene that follows by itself. -/
  autoTransition : Option String := none
  outcome : Option String := none
  /-- Applied whenever the scene is entered. -/
  action : Option Action := none
  endingTitle : Option String := none
  /-- Narration outside the dialogue. -/
  text : Option String := none
  image : Option String := none
  music : Option String := none
  deriving DecidableEq, Inhabited

/-- What happens once a scene's dialogue has been read. -/
inductive Continuation
  /-- The player picks one of these, of which some may be hidden. -/
  | choices (offered : List Choice)
  | autoTransition (scene : String)
  | outcome (id : String)
  /-- Nothing follows, and the scene is meant as an end. -/
  | ending
  /-- Nothing follows. -/
  | deadEnd
  deriving DecidableEq, Inhabited

namespace Scene

/-- A scene with nothing to follow is meant as an end when its id begins like this. -/
def endingMark : String := "ending"

/-- What follows the dialogue: choices before an automatic transition before an outcome. -/
def continuation (s : Scene) : Continuation :=
  if !s.choices.isEmpty then .choices s.choices
  else match s.autoTransition, s.outcome with
    | some next, _ => .autoTransition next
    | none, some id => .outcome id
    | none, none =>
      if endingMark.toList.isPrefixOf s.id.toList then .ending else .deadEnd

/-- How many of the three continuations the scene declares. -/
def continuationCount (s : Scene) : Nat :=
  (!s.choices.isEmpty).toNat + s.autoTransition.isSome.toNat + s.outcome.isSome.toNat

/-- The first object with this id. -/
def object? (s : Scene) (id : String) : Option SceneObject := s.objects.find? (·.id == id)

end Scene

end VisualNovel
