import VisualNovel.Session.Step

/-!
# Rosters of characters

A roster is a round of characters, one of which is selected. It is never empty, so there is always
a selected one.
-/

namespace VisualNovel

/-- A round of characters. -/
structure Roster where
  characters : List Profile
  /-- The place of the selected character. -/
  index : Nat := 0
  index_lt : index < characters.length

namespace Roster

/-- The roster of some characters, the first one selected; there is none of no characters. -/
def ofList? : List Profile → Except SessionError Roster
  | [] => .error .emptyRoster
  | c :: cs => .ok { characters := c :: cs, index_lt := Nat.zero_lt_succ _ }

/-- How many characters there are. -/
def size (r : Roster) : Nat := r.characters.length

/-- The selected character. -/
def current (r : Roster) : Profile := r.characters.get ⟨r.index, r.index_lt⟩

theorem size_pos (r : Roster) : 0 < r.characters.length :=
  Nat.lt_of_le_of_lt (Nat.zero_le _) r.index_lt

/-- Selects the character after the selected one, the first after the last. -/
def next (r : Roster) : Roster :=
  { r with
    index := (r.index + 1) % r.characters.length
    index_lt := Nat.mod_lt _ r.size_pos }

/-- Selects the character before the selected one, the last before the first. -/
def previous (r : Roster) : Roster :=
  { r with
    index := if r.index = 0 then r.characters.length - 1 else r.index - 1
    index_lt := by
      have := r.index_lt
      split <;> omega }

/-- The place of the first character with a name, blanks around it and the case of ASCII letters
aside. -/
def find? (r : Roster) (name : String) : Option (Fin r.characters.length) :=
  r.characters.findFinIdx? fun c => Text.sameIgnoringAsciiCase c.name (Text.trim name)

/-- Selects the first character with a name, if there is one. -/
def select? (r : Roster) (name : String) : Option Roster :=
  (r.find? name).map fun i => { r with index := i.val, index_lt := i.isLt }

/-- Makes the selected character the player of a session; tells whether the session took the
name. -/
def applyTo (r : Roster) (s : Session) : Traced (Session × Bool) := do
  let (s, accepted) ← s.setName r.current.name
  if accepted then return (s.setPortrait (r.current.portrait.getD ""), true)
  else return (s, false)

end Roster

end VisualNovel
