import VisualNovel.Session.Trace
import VisualNovel.Session.World

/-!
# Action handlers

The handler of a session decides what an action does to the world. The built-in one carries out
the built-in actions and passes over the custom ones; another remembers each custom action by a
flag; a third does nothing at all. No handler touches more than the player's items and flags.
-/

namespace VisualNovel

/-- Who carries out the actions of a session. -/
inductive Handler
  | builtin
  /-- Sets a flag for each custom action. -/
  | recording
  | dropping
  deriving DecidableEq

namespace World

/-- Carries out an action of the built-in vocabulary; a custom one is passed over. -/
def apply (w : World) (action : Action) : Traced World := do
  match action with
  | .addItem item =>
    Traced.log (.actionApplied action.token)
    return w.addItem item
  | .removeItem item =>
    if !w.hasItem item then Traced.log (.removedItemNotHeld item)
    Traced.log (.actionApplied action.token)
    return w.removeItem item
  | .setFlag flag =>
    Traced.log (.actionApplied action.token)
    return w.setFlag flag
  | .clearFlag flag =>
    Traced.log (.actionApplied action.token)
    return w.clearFlag flag
  | .custom token =>
    Traced.log (.actionIgnored token)
    return w

end World

namespace Handler

/-- The flag that remembers a custom action. -/
def seenFlag (token : String) : String := "saw_" ++ token

/-- Carries out an action. -/
def apply (h : Handler) (action : Action) (w : World) : Traced World := do
  Traced.hand action
  match h, action with
  | .builtin, action => w.apply action
  | .recording, .custom token => return w.setFlag (seenFlag token)
  | .recording, action => w.apply action
  | .dropping, _ => return w

end Handler

end VisualNovel
