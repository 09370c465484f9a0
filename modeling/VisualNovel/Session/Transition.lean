import VisualNovel.Session.Basic

/-!
# Moving through a story

Entering a scene starts its dialogue, carries out its action and, where there is nothing to read,
runs its continuation at once. A continuation may enter the next scene by itself, so scenes without
dialogue form chains; the number of such transitions is limited, which is what the recursion here
descends on. Links that lead nowhere are logged, and the session stays where it is.
-/

namespace VisualNovel

namespace Session

open Traced (log)

/-- Lets the handler carry out an action in the running game. -/
def applyAction (s : Session) (action : Action) : Traced Session :=
  match s.world with
  | none => pure s
  | some w => do
    let w ← s.handler.apply action w
    return { s with world := some w }

/-- Lets the handler carry out an action, if there is one. -/
def applyAction? (s : Session) : Option Action → Traced Session
  | none => pure s
  | some action => s.applyAction action

/-- Reaches an outcome. -/
def resolve (s : Session) (id : String) : Traced Session := do
  if !(s.story.any fun story => story.outcomes.contains id) then
    log (.outcomeNotFound id)
    return s
  else match s.world with
    | none => return s
    | some w =>
      log (.outcomeReached id w.scene)
      return { s with world := some (w.reach id) }

/-- Puts the player at the start of a scene and carries out its action. -/
def arrive (s : Session) (scene : Scene) : Traced Session := do
  let s : Session := { s with
    world := s.world.map fun w => w.moveTo scene.id
    cursor := .start scene }
  log (.sceneEntered scene.id scene.dialogue.length)
  s.applyAction? scene.action

/-- Enters a scene. With `eager` its outcome is reached before any dialogue is read. `follow` runs
the continuation of a scene without dialogue. -/
def enterWith (follow : Scene → Session → Traced Session) (eager : Bool) (id : String)
    (s : Session) : Traced Session := do
  if s.state != .playing then
    log (.sceneIgnored id)
    return s
  else if s.story.isNone then return s
  else match s.storyScene? id with
    | none =>
      log (.sceneNotFound id s.sceneId?)
      return s
    | some scene =>
      let s ← s.arrive scene
      match scene.continuation, eager with
      | .outcome outcome, true => s.resolve outcome
      | _, _ => if scene.dialogue.isEmpty then follow scene s else return s

/-- Runs the continuation of a scene, with at most `hops` automatic transitions from here on. -/
def follow : Nat → Scene → Session → Traced Session
  | hops, scene, s =>
    if s.isTerminal then return s
    else match scene.continuation with
      | .choices _ => do
        if s.visibleChoices.isEmpty then log (.everyChoiceHidden scene.id)
        else log (.waitingForChoice scene.id)
        return s
      | .autoTransition next =>
        match hops with
        | 0 => do
          log (.hopLimitReached scene.id s.config.maxAutoHops)
          return s
        | hops + 1 => enterWith (follow hops) true next s
      | .outcome id => s.resolve id
      | .ending => do
        log (.endReached scene.id)
        return s
      | .deadEnd => do
        log (.deadEndReached scene.id)
        return s

/-- Enters a scene, from where as many automatic transitions may follow as are allowed. -/
def enter (eager : Bool) (id : String) (s : Session) : Traced Session :=
  enterWith (follow s.config.maxAutoHops) eager id s

end Session

end VisualNovel
