import Mathlib.Data.Int.ModEq
import VisualNovel.Session.Roster

/-!
# Going round a roster

The characters of a roster stand in a round: the first comes after the last. A turn forwards is an
addition and a turn backwards a subtraction, both modulo the number of characters, so where some
turns lead to depends on how many there are each way and not on their order
(`Roster.moves_turns`, by induction on the turns). Places are natural numbers and have no place
before the first, so all of this is said of integers; a place is below the number of characters, so
its remainder gives it back (`Roster.index_eq_emod`).

A character can be picked by name as well. This is a jump to a place that depends on the name alone,
or no move at all.
-/

namespace VisualNovel

/-- What is done to pick a character. -/
inductive RosterMove
  | next
  | previous
  | select (name : String)
  deriving DecidableEq

/-- The character goes by the name, blanks around it and the case of ASCII letters aside. -/
def Profile.Answers (c : Profile) (name : String) : Prop :=
  Text.sameIgnoringAsciiCase c.name (Text.trim name) = true

namespace Roster

variable {r r' : Roster} {turns : List RosterMove}

/-- The roster after a move, and the character that the move shows. -/
def move (r : Roster) : RosterMove → Roster × Option Profile
  | .next => (r.next, some r.next.current)
  | .previous => (r.previous, some r.previous.current)
  | .select name =>
    match r.select? name with
    | some selected => (selected, some selected.current)
    | none => (r, none)

/-- The roster after some moves. -/
def moves (r : Roster) : List RosterMove → Roster
  | [] => r
  | m :: ms => (r.move m).1.moves ms

theorem eq_of_index (hc : r.characters = r'.characters) (hi : r.index = r'.index) : r = r' := by
  cases r
  cases r'
  cases hc
  cases hi
  rfl

theorem getElem?_index (r : Roster) : r.characters[r.index]? = some r.current :=
  List.getElem?_eq_getElem r.index_lt

/-! ## Turns -/

theorem next_index (r : Roster) :
    r.next.index = if r.index + 1 = r.characters.length then 0 else r.index + 1 := by
  have lt := r.index_lt
  show (r.index + 1) % r.characters.length = _
  split
  · next last => rw [last, Nat.mod_self]
  · next inside => exact Nat.mod_eq_of_lt (by omega)

theorem previous_index (r : Roster) :
    r.previous.index = if r.index = 0 then r.characters.length - 1 else r.index - 1 := rfl

/-- Backwards, one is subtracted where there is one to subtract. A whole round that is added first
makes this a remainder, as it is forwards. -/
theorem previous_index_eq_mod (r : Roster) :
    r.previous.index = (r.index + r.characters.length - 1) % r.characters.length := by
  have lt := r.index_lt
  rw [previous_index]
  split
  · next first => rw [first, Nat.zero_add, Nat.mod_eq_of_lt (by omega)]
  · next inside =>
      have back : r.index + r.characters.length - 1 = r.index - 1 + r.characters.length := by omega
      rw [back, Nat.add_mod_right, Nat.mod_eq_of_lt (by omega)]

theorem next_modEq (r : Roster) :
    (r.next.index : Int) ≡ r.index + 1 [ZMOD r.characters.length] := by
  show (((r.index + 1) % r.characters.length : Nat) : Int) ≡ _ [ZMOD _]
  push_cast
  exact Int.mod_modEq _ _

theorem previous_modEq (r : Roster) :
    (r.previous.index : Int) ≡ r.index - 1 [ZMOD r.characters.length] := by
  have back : ((r.index + r.characters.length - 1 : Nat) : Int) =
      r.index - 1 + r.characters.length := by
    have := r.size_pos
    omega
  rw [previous_index_eq_mod, Int.natCast_mod, back]
  exact (Int.mod_modEq _ _).trans Int.add_modEq_right

theorem index_eq_emod {i : Int} (h : (r.index : Int) ≡ i [ZMOD r.characters.length]) :
    (r.index : Int) = i % r.characters.length := by
  rw [← h.eq]
  exact (Int.emod_eq_of_lt (Int.natCast_nonneg _) (Int.ofNat_lt.2 r.index_lt)).symm

/-- Where a roster stands is known by its place modulo the number of characters. -/
theorem eq_of_modEq (hc : r.characters = r'.characters)
    (hi : (r.index : Int) ≡ r'.index [ZMOD r.characters.length]) : r = r' := by
  refine eq_of_index hc (Int.ofNat_inj.1 ?_)
  rw [index_eq_emod hi, hc]
  exact (index_eq_emod rfl).symm

theorem previous_next (r : Roster) : r.next.previous = r := by
  refine eq_of_modEq rfl ?_
  calc (r.next.previous.index : Int)
    _ ≡ r.next.index - 1 [ZMOD r.characters.length] := r.next.previous_modEq
    _ ≡ r.index + 1 - 1 [ZMOD r.characters.length] := r.next_modEq.sub_right 1
    _ = r.index := Int.add_sub_cancel _ _

theorem next_previous (r : Roster) : r.previous.next = r := by
  refine eq_of_modEq rfl ?_
  calc (r.previous.next.index : Int)
    _ ≡ r.previous.index + 1 [ZMOD r.characters.length] := r.previous.next_modEq
    _ ≡ r.index - 1 + 1 [ZMOD r.characters.length] := r.previous_modEq.add_right 1
    _ = r.index := Int.sub_add_cancel _ _

/-- Where some turns lead to. -/
theorem moves_turns (only : ∀ m ∈ turns, m = .next ∨ m = .previous) (r : Roster) :
    ((r.moves turns).index : Int) ≡ r.index + turns.count .next - turns.count .previous
      [ZMOD r.characters.length] := by
  induction turns generalizing r with
  | nil =>
      rw [moves, List.count_nil, List.count_nil]
      simp
  | cons m turns ih =>
      obtain ⟨turn, rest⟩ := List.forall_mem_cons.1 only
      rcases turn with rfl | rfl
      · calc ((r.next.moves turns).index : Int)
          _ ≡ r.next.index + turns.count .next - turns.count .previous
              [ZMOD r.characters.length] := ih rest r.next
          _ ≡ r.index + 1 + turns.count .next - turns.count .previous
              [ZMOD r.characters.length] := (r.next_modEq.add_right _).sub_right _
          _ = _ := by
            rw [List.count_cons_self, List.count_cons_of_ne (by simp)]
            omega
      · calc ((r.previous.moves turns).index : Int)
          _ ≡ r.previous.index + turns.count .next - turns.count .previous
              [ZMOD r.characters.length] := ih rest r.previous
          _ ≡ r.index - 1 + turns.count .next - turns.count .previous
              [ZMOD r.characters.length] := (r.previous_modEq.add_right _).sub_right _
          _ = _ := by
            rw [List.count_cons_self, List.count_cons_of_ne (by simp)]
            omega

/-! ## Names -/

/-- A name picks the first character that answers to it, and if there is none it does nothing. -/
theorem move_select (r : Roster) (name : String) :
    (∃ i : Fin r.characters.length, r.characters[i].Answers name ∧
      (∀ j < i, ¬ r.characters[j].Answers name) ∧
      r.move (.select name) =
        ({ r with index := i, index_lt := i.isLt }, some r.characters[i])) ∨
    (∀ c ∈ r.characters, ¬ c.Answers name) ∧ r.move (.select name) = (r, none) := by
  cases h : r.find? name with
  | some i =>
      obtain ⟨answers, first⟩ := List.findFinIdx?_eq_some_iff.1 h
      refine .inl ⟨i, answers, first, ?_⟩
      rw [move, select?, h]
      rfl
  | none =>
      refine .inr ⟨List.findFinIdx?_eq_none_iff.1 h, ?_⟩
      rw [move, select?, h]
      rfl

theorem move_characters (r : Roster) (m : RosterMove) : (r.move m).1.characters = r.characters := by
  cases m with
  | next | previous => rfl
  | select name =>
      rcases r.move_select name with ⟨i, -, -, h⟩ | ⟨-, h⟩ <;> rw [h]

theorem moves_characters (r : Roster) (ms : List RosterMove) :
    (r.moves ms).characters = r.characters := by
  induction ms generalizing r with
  | nil => rfl
  | cons m ms ih =>
      rw [moves, ih]
      exact r.move_characters m

/-! ## Rosters of characters -/

theorem exists_ofList? {characters : List Profile} (ne : characters ≠ []) :
    ∃ first, ofList? characters = .ok first ∧ first.characters = characters ∧
      first.index = 0 := by
  cases characters with
  | nil => exact absurd rfl ne
  | cons c cs => exact ⟨_, rfl, rfl, rfl⟩

/-- A roster of some characters begins at the first of them. Whatever moves are made, it keeps the
characters and stays at one of them. A turn forwards leads from the last character to the first and
a turn backwards from the first to the last, and each undoes the other; so many turns, in any order,
lead as far as their difference, modulo the number of characters. A name leads to the first
character that answers to it, and that one is shown; if there is none then nothing moves. -/
theorem roster_goes_round {characters : List Profile} (ne : characters ≠ []) :
    ∃ first, ofList? characters = .ok first ∧ first.index = 0 ∧
      ∀ (before : List RosterMove) (r : Roster), first.moves before = r →
        r.characters = characters ∧ r.index < characters.length ∧
        characters[r.index]? = some r.current ∧
        (r.next.index = if r.index + 1 = characters.length then 0 else r.index + 1) ∧
        (r.previous.index = if r.index = 0 then characters.length - 1 else r.index - 1) ∧
        r.next.previous = r ∧ r.previous.next = r ∧
        (∀ turns : List RosterMove, (∀ m ∈ turns, m = .next ∨ m = .previous) →
          ((r.moves turns).index : Int) =
            (r.index + turns.count .next - turns.count .previous) % characters.length) ∧
        ∀ name,
          (∃ i c, characters[i]? = some c ∧ c.Answers name ∧
            (∀ j < i, ∀ other, characters[j]? = some other → ¬ other.Answers name) ∧
            (r.move (.select name)).1.index = i ∧ (r.move (.select name)).2 = some c) ∨
          (∀ c ∈ characters, ¬ c.Answers name) ∧ r.move (.select name) = (r, none) := by
  obtain ⟨first, made, rfl, begins⟩ := exists_ofList? ne
  refine ⟨first, made, begins, ?_⟩
  rintro before r rfl
  have kept := first.moves_characters before
  generalize first.moves before = r at kept
  rw [← kept]
  refine ⟨rfl, r.index_lt, r.getElem?_index, r.next_index, r.previous_index, r.previous_next,
    r.next_previous, fun turns only => ?_, fun name => ?_⟩
  · have came := moves_turns only r
    rw [← r.moves_characters turns] at came ⊢
    exact index_eq_emod came
  · rcases r.move_select name with ⟨i, answers, none_before, he⟩ | nobody
    · refine .inl ⟨i, r.characters[i], List.getElem?_eq_getElem i.isLt, answers, ?_, ?_, ?_⟩
      · intro j lt other hj
        obtain ⟨hlt, rfl⟩ := List.getElem?_eq_some_iff.1 hj
        exact none_before ⟨j, hlt⟩ lt
      · rw [he]
      · rw [he]
    · exact .inr nobody

/-- Three characters. -/
def trio : List Profile := [{ name := "Ann" }, { name := "Bea" }, { name := "Cid" }]

theorem roster_goes_round_trio :
    trio ≠ [] ∧ ∃ first, ofList? trio = .ok first ∧
      (first.moves [.previous, .select " bea "]).index = 1 ∧
      ((first.moves [.previous, .select " bea "]).moves
        [.previous, .next, .previous, .previous]).index = 2 := by
  have ne : trio ≠ [] := by simp [trio]
  obtain ⟨first, made, begins, round⟩ := roster_goes_round ne
  refine ⟨ne, first, made, ?_⟩
  obtain rfl : first = ⟨trio, 0, by decide⟩ := (Except.ok.inj made).symm
  have here : (Roster.moves ⟨trio, 0, by decide⟩ [.previous, .select " bea "]).index = 1 := by
    decide +kernel
  obtain ⟨-, -, -, -, -, -, -, turns, -⟩ := round [.previous, .select " bea "] _ rfl
  have led := turns [.previous, .next, .previous, .previous] (by decide)
  rw [here] at led
  exact ⟨here, Int.ofNat_inj.1 led⟩

end Roster

end VisualNovel
