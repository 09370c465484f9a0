import VisualNovel.Play.Display
import VisualNovel.Session.Step

/-!
# Playing in a terminal

A playthrough is a session together with what the player has been shown last and is asked for. It
moves by lines of input. Each is handed to the session, upon which the session is shown anew, or it
is answered with a remark and nothing is shown of the session.
-/

namespace VisualNovel.Play

/-- What happens while a game is played, in order: something is shown, or something is logged. -/
inductive Output
  | shown (display : Display)
  | logged (event : Event)
  /-- Logged while the game of a player is being started. -/
  | loggedAtStart (player : String) (event : Event)
  deriving DecidableEq

/-- A game that is being played. -/
structure Playthrough where
  session : Session
  awaiting : Awaiting
  /-- The id of the scene that has been shown last. -/
  shownScene : Option String

/-- What the current scene shows when it is not the one shown last. -/
def sceneDisplays (s : Session) (shownScene : Option String) : List Display :=
  match s.scene? with
  | none => []
  | some scene =>
    if shownScene = some scene.id then []
    else
      [.scene (scene.text.map s.fillIn)
        (s.visibleObjects.map fun o => o.name ++ " [" ++ o.id ++ "]")]

/-- What the session shows besides the scene, and what it asks for. -/
def stateDisplays (s : Session) : List Display × Awaiting :=
  match s.shownLine? with
  | some line => ([.line line.nameplate line.text], .line)
  | none =>
    match s.state with
    | .idle => ([], .nothing)
    | .resolved =>
      match s.outcome? with
      | none => ([], .nothing)
      | some outcome =>
        ([.outcome (s.fillIn outcome.message) outcome.isFinal],
          if outcome.isFinal then .nothing else .outcome)
    | .playing =>
      match s.continuation? with
      | some (.choices _) =>
        if s.visibleChoices.isEmpty then ([.noWayForward], .nothing)
        else ([.menu (s.visibleChoices.map fun c => s.fillIn c.text)], .choice)
      | some .ending =>
        let title := s.scene?.bind (·.endingTitle)
        ([.ending ((title.map s.fillIn).getD "The End")], .nothing)
      | _ => ([.stop], .nothing)

/-- The playthrough of a session that is being shown, and what is shown. -/
def Playthrough.ofSession (s : Session) (shownScene : Option String) : Playthrough × List Display :=
  let (displays, awaiting) := stateDisplays s
  let current := s.scene?.map (·.id)
  ({ session := s, awaiting, shownScene := current.or shownScene },
    sceneDisplays s shownScene ++ displays)

/-- The number that a text writes in decimal digits, a plus sign before them allowed, if it fits
into 64 bits. -/
def number? (s : String) : Option Nat :=
  let digits := match s.toList with
    | '+' :: cs => cs
    | cs => cs
  if digits.isEmpty || !digits.all Char.isDigit then none
  else
    let n := digits.foldl (fun n c => 10 * n + (c.toNat - '0'.toNat)) 0
    if n < UInt64.size then some n else none

/-- The object that a line of input tells to use. -/
def usedObject? (input : String) : Option String :=
  let command := "use ".toList
  if command.isPrefixOf input.toList then
    some (Text.trim (String.ofList (input.toList.drop command.length)))
  else none

namespace Playthrough

/-- What a line of input comes to: the session after it, and what is shown. -/
inductive Reaction
  | quit
  /-- The session is shown anew; a remark may come before that. -/
  | moved (session : Session) (remarks : List Display)
  /-- There is a remark, and the session is not shown. -/
  | remark (session : Session) (display : Display)

/-- Uses an object. -/
def use (p : Playthrough) (object : String) : Traced Reaction := do
  let (session, interaction) ← p.session.interact object
  match interaction with
  | .done (some item) => return .moved session [.taken item]
  | .done none => return .moved session [.used]
  | .locked required => return .remark session (.needed required)
  | .unavailable => return .remark session (.nothingCalled object)

/-- Makes the choice with a number of the menu. -/
def pick (p : Playthrough) (number : Nat) : Traced Reaction := do
  if number = 0 then return .remark p.session .noSuchChoice
  else
    let (session, made) ← p.session.choose (number - 1)
    return if made then .moved session [] else .remark session .noSuchChoice

/-- What a line of input, without the blanks around it, comes to. -/
def react (p : Playthrough) (input : String) : Traced Reaction := do
  if input = "q" || input = "quit" then return .quit
  else if input = "i" || input = "inventory" then
    return .remark p.session (.inventory ((p.session.world.map (·.items.toList)).getD []))
  else if input = "" && p.awaiting = .line then
    return .moved (← p.session.advance) []
  else if input = "c" && p.awaiting = .outcome then
    return .moved (← p.session.continueOn).1 []
  else match usedObject? input with
    | some object => p.use object
    | none =>
      match p.awaiting, number? input with
      | .choice, some number => p.pick number
      | awaiting, _ => return .remark p.session (.hint awaiting)

/-- Takes a line of input. -/
def feed (p : Playthrough) (line : String) : Playthrough × List Output :=
  let reaction := p.react (Text.trim line)
  let events := reaction.events.map Output.logged
  match reaction.value with
  | .quit => ({ p with awaiting := .nothing }, events)
  | .remark session display => ({ p with session }, events ++ [.shown display])
  | .moved session remarks =>
    let (p, displays) := ofSession session p.shownScene
    (p, events ++ (remarks ++ displays).map .shown)

end Playthrough

end VisualNovel.Play
