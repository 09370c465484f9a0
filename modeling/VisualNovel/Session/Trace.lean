import VisualNovel.Event
import VisualNovel.Story.Action

/-!
# Results with a trace

What a session does is its result and, beside it, what it logged and which actions it handed to the
action handler, in the order in which that happened.
-/

namespace VisualNovel

/-- One thing that a step of a session leaves in its trace. -/
inductive Note
  | logged (event : Event)
  /-- The action was handed to the action handler. -/
  | handled (action : Action)
  deriving DecidableEq

/-- A result, and the trace that coming to it left. -/
structure Traced (α : Type) where
  value : α
  notes : List Note

namespace Traced

variable {α β : Type}

instance : Monad Traced where
  pure a := ⟨a, []⟩
  bind x f :=
    let y := f x.value
    ⟨y.value, x.notes ++ y.notes⟩

@[simp] theorem value_pure (a : α) : (pure a : Traced α).value = a := rfl

@[simp] theorem notes_pure (a : α) : (pure a : Traced α).notes = [] := rfl

@[simp] theorem value_bind (x : Traced α) (f : α → Traced β) :
    (x >>= f).value = (f x.value).value := rfl

@[simp] theorem notes_bind (x : Traced α) (f : α → Traced β) :
    (x >>= f).notes = x.notes ++ (f x.value).notes := rfl

/-- Logs an event. -/
def log (event : Event) : Traced Unit := ⟨(), [.logged event]⟩

/-- Logs some events. -/
def logAll (events : List Event) : Traced Unit := ⟨(), events.map .logged⟩

/-- Notes that an action is handed to the action handler. -/
def hand (action : Action) : Traced Unit := ⟨(), [.handled action]⟩

/-- The events that were logged. -/
def events (t : Traced α) : List Event :=
  t.notes.filterMap fun
    | .logged event => some event
    | .handled _ => none

/-- The actions that were handed to the action handler. -/
def actions (t : Traced α) : List Action :=
  t.notes.filterMap fun
    | .logged _ => none
    | .handled action => some action

@[simp] theorem events_pure (a : α) : (pure a : Traced α).events = [] := rfl

@[simp] theorem actions_pure (a : α) : (pure a : Traced α).actions = [] := rfl

@[simp] theorem events_log (event : Event) : (log event).events = [event] := rfl

@[simp] theorem actions_log (event : Event) : (log event).actions = [] := rfl

@[simp] theorem events_bind (x : Traced α) (f : α → Traced β) :
    (x >>= f).events = x.events ++ (f x.value).events := by
  rw [events, notes_bind, List.filterMap_append]
  rfl

@[simp] theorem actions_bind (x : Traced α) (f : α → Traced β) :
    (x >>= f).actions = x.actions ++ (f x.value).actions := by
  rw [actions, notes_bind, List.filterMap_append]
  rfl

end Traced

end VisualNovel
