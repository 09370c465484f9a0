import VisualNovel.Session.Step

/-!
# Sessions shared behind a lock

Several parts of a program may hold one session behind a lock. When one of them fails while it
holds the lock, the lock is poisoned for good; the session is in order all the same, so it stays in
use, and every later use logs that the lock has been recovered.
-/

namespace VisualNovel

/-- A session behind a lock. -/
structure SharedSession where
  session : Session
  poisoned : Bool := false

namespace SharedSession

/-- Uses the session under the lock. -/
def use {α : Type} (s : SharedSession) (f : Session → Traced (Session × α)) :
    Traced (SharedSession × α) := do
  if s.poisoned then Traced.log .lockRecovered
  let (session, answer) ← f s.session
  return ({ s with session }, answer)

/-- Fails while holding the lock. -/
def poison (s : SharedSession) : Traced SharedSession := do
  if s.poisoned then Traced.log .lockRecovered
  return { s with poisoned := true }

end SharedSession

end VisualNovel
