/-!
# Catalogs: values filed under texts, in the order of their keys

Scenes and outcomes are filed under their ids, and every listing of a story follows the order of
the ids, by code point. A catalog keeps its entries in that order, each key once, so two catalogs
that answer every look-up alike are equal.
-/

namespace VisualNovel

/-- The entries of a catalog stand in strictly ascending order of their keys. -/
abbrev Ascending {α : Type} (entries : List (String × α)) : Prop :=
  entries.Pairwise fun a b => a.1 < b.1

/-- Values filed under texts. -/
structure Catalog (α : Type) where
  entries : List (String × α)
  ascending : Ascending entries

namespace Catalog

variable {α β : Type}

/-- Files `value` under `key` in a list of entries, in place of what stood there. -/
def insertEntry (key : String) (value : α) : List (String × α) → List (String × α)
  | [] => [(key, value)]
  | e :: es =>
    if key < e.1 then (key, value) :: e :: es
    else if key = e.1 then (key, value) :: es
    else e :: insertEntry key value es

theorem mem_insertEntry {key : String} {value : α} {es : List (String × α)} {e : String × α}
    (h : e ∈ insertEntry key value es) : e = (key, value) ∨ e ∈ es := by
  induction es with
  | nil => simpa [insertEntry] using h
  | cons d es ih =>
    simp only [insertEntry] at h
    split at h
    · simpa using h
    · split at h
      · rcases List.mem_cons.1 h with h | h
        · exact .inl h
        · exact .inr (List.mem_cons_of_mem _ h)
      · rcases List.mem_cons.1 h with h | h
        · exact .inr (h ▸ List.mem_cons_self)
        · exact (ih h).imp id (List.mem_cons_of_mem _)

theorem ascending_insertEntry (key : String) (value : α) {es : List (String × α)}
    (h : Ascending es) : Ascending (insertEntry key value es) := by
  induction es with
  | nil => simp [insertEntry]
  | cons d es ih =>
    obtain ⟨hd, hes⟩ := List.pairwise_cons.1 h
    simp only [insertEntry]
    split
    · next hlt =>
      refine List.pairwise_cons.2 ⟨fun e he => ?_, h⟩
      rcases List.mem_cons.1 he with rfl | he
      · exact hlt
      · exact String.lt_trans hlt (hd e he)
    · next hge =>
      split
      · next heq => exact List.pairwise_cons.2 ⟨fun e he => heq ▸ hd e he, hes⟩
      · next hne =>
        refine List.pairwise_cons.2 ⟨fun e he => ?_, ih hes⟩
        rcases mem_insertEntry he with rfl | he
        · exact Decidable.byContradiction fun hnlt =>
            hne (String.le_antisymm (String.not_lt.1 hnlt) (String.not_lt.1 hge))
        · exact hd e he

/-- The catalog with nothing in it. -/
def empty : Catalog α := ⟨[], List.Pairwise.nil⟩

instance : Inhabited (Catalog α) := ⟨empty⟩

/-- Files `value` under `key`; what was filed there before is gone. -/
def insert (c : Catalog α) (key : String) (value : α) : Catalog α :=
  ⟨insertEntry key value c.entries, ascending_insertEntry key value c.ascending⟩

/-- Takes the entry under `key` out, if there is one. -/
def erase (c : Catalog α) (key : String) : Catalog α :=
  ⟨c.entries.filter fun e => e.1 != key, c.ascending.filter _⟩

/-- The value filed under `key`. -/
def get? (c : Catalog α) (key : String) : Option α := c.entries.lookup key

/-- Whether a value is filed under `key`. -/
def contains (c : Catalog α) (key : String) : Bool := c.entries.any fun e => e.1 == key

/-- The keys, in order. -/
def keys (c : Catalog α) : List String := c.entries.map Prod.fst

/-- The values, in the order of their keys. -/
def values (c : Catalog α) : List α := c.entries.map Prod.snd

/-- How many values are filed. -/
def size (c : Catalog α) : Nat := c.entries.length

/-- A catalog with the same keys, each value made from the key and the value under it. -/
def map (c : Catalog α) (f : String → α → β) : Catalog β :=
  ⟨c.entries.map fun e => (e.1, f e.1 e.2), List.pairwise_map.2 c.ascending⟩

/-- The order of entries depends on their keys alone. -/
theorem ascending_of_keys_eq {es : List (String × α)} {made : List (String × β)}
    (h : made.map Prod.fst = es.map Prod.fst) (ascending : Ascending es) : Ascending made := by
  have keys : (es.map Prod.fst).Pairwise (· < ·) := List.pairwise_map.2 ascending
  rw [← h] at keys
  exact List.pairwise_map.1 keys

/-- Makes a value from each entry in order, up to the first that fails; the keys stay. -/
def makeEntries {ε : Type} (f : String → α → Except ε β) : (es : List (String × α)) →
    Except ε { made : List (String × β) // made.map Prod.fst = es.map Prod.fst }
  | [] => .ok ⟨[], rfl⟩
  | e :: es => do
    let value ← f e.1 e.2
    let rest ← makeEntries f es
    return ⟨(e.1, value) :: rest.1, by simp [rest.2]⟩

/-- A catalog with the same keys, each value made from the key and the value under it, unless one
cannot be made: then the failure of the first such entry. -/
def make {ε : Type} (c : Catalog α) (f : String → α → Except ε β) : Except ε (Catalog β) :=
  (makeEntries f c.entries).map fun made =>
    ⟨made.1, ascending_of_keys_eq made.2 c.ascending⟩

/-- The catalog of some entries; of several under one key the last is kept. -/
def ofList (entries : List (String × α)) : Catalog α :=
  entries.foldl (fun c e => c.insert e.1 e.2) empty

/-! ## Looking up

Every operation is known by what it does to look-ups, so nothing else has to know how the entries
are kept. -/

/-- Looking a key up tests the entries one by one. -/
theorem lookup_cons_eq_ite (key : String) (e : String × α) (es : List (String × α)) :
    (e :: es).lookup key = if key = e.1 then some e.2 else es.lookup key := by
  rw [List.lookup_cons]
  by_cases h : key = e.1
  · rw [if_pos h, beq_iff_eq.2 h]
  · rw [if_neg h, beq_eq_false_iff_ne.2 h]

theorem lookup_insertEntry (key other : String) (value : α) (es : List (String × α)) :
    (insertEntry key value es).lookup other =
      if other = key then some value else es.lookup other := by
  induction es with
  | nil => rw [insertEntry, lookup_cons_eq_ite]
  | cons e es ih =>
    rw [insertEntry]
    split
    · rw [lookup_cons_eq_ite]
    · split
      · next same =>
        rw [lookup_cons_eq_ite, lookup_cons_eq_ite, ← same]
        by_cases h : other = key
        · rw [if_pos h, if_pos h]
        · rw [if_neg h, if_neg h, if_neg h]
      · next differs =>
        rw [lookup_cons_eq_ite, lookup_cons_eq_ite, ih]
        by_cases h : other = key
        · rw [if_pos h, h, if_neg differs, if_pos rfl]
        · rw [if_neg h, if_neg h]

theorem lookup_filter_ne (key other : String) (es : List (String × α)) :
    (es.filter fun e => e.1 != key).lookup other =
      if other = key then none else es.lookup other := by
  induction es with
  | nil => rw [List.filter_nil, List.lookup_nil, ite_self]
  | cons e es ih =>
    rw [lookup_cons_eq_ite]
    by_cases same : e.1 = key
    · rw [List.filter_cons_of_neg (by simpa using same), ih, same]
      by_cases h : other = key
      · rw [if_pos h, if_pos h]
      · rw [if_neg h, if_neg h, if_neg h]
    · rw [List.filter_cons_of_pos (by simpa using same), lookup_cons_eq_ite, ih]
      by_cases h : other = key
      · rw [if_pos h, if_pos h, h, if_neg (Ne.symm same)]
      · rw [if_neg h, if_neg h]

theorem lookup_map_value (f : String → α → β) (key : String) (es : List (String × α)) :
    (es.map fun e => (e.1, f e.1 e.2)).lookup key = (es.lookup key).map (f key) := by
  induction es with
  | nil => rfl
  | cons e es ih =>
    rw [List.map_cons, lookup_cons_eq_ite, lookup_cons_eq_ite, ih]
    by_cases h : key = e.1
    · rw [if_pos h, if_pos h, Option.map_some, h]
    · rw [if_neg h, if_neg h]

@[simp, grind =] theorem get?_empty (key : String) : (empty : Catalog α).get? key = none := rfl

/-- What has been filed last under a key is what is found there. -/
@[grind =] theorem get?_insert (c : Catalog α) (key other : String) (value : α) :
    (c.insert key value).get? other = if other = key then some value else c.get? other :=
  lookup_insertEntry key other value c.entries

@[grind =] theorem get?_erase (c : Catalog α) (key other : String) :
    (c.erase key).get? other = if other = key then none else c.get? other :=
  lookup_filter_ne key other c.entries

@[grind =] theorem get?_map (c : Catalog α) (f : String → α → β) (key : String) :
    (c.map f).get? key = (c.get? key).map (f key) :=
  lookup_map_value f key c.entries

/-- A value is filed under a key exactly when one is found there. -/
theorem contains_eq_isSome (c : Catalog α) (key : String) :
    c.contains key = (c.get? key).isSome := by
  rw [contains, get?]
  induction c.entries with
  | nil => rfl
  | cons e es ih =>
    rw [List.any_cons, lookup_cons_eq_ite, ih]
    by_cases h : key = e.1
    · rw [if_pos h, beq_iff_eq.2 h.symm, Bool.true_or, Option.isSome_some]
    · rw [if_neg h, beq_eq_false_iff_ne.2 (Ne.symm h), Bool.false_or]

theorem contains_iff_mem_keys (c : Catalog α) (key : String) :
    c.contains key = true ↔ key ∈ c.keys := by
  simp only [contains, keys, List.any_eq_true, List.mem_map, beq_iff_eq]

theorem mem_entries_of_get? {c : Catalog α} {key : String} {value : α}
    (h : c.get? key = some value) : (key, value) ∈ c.entries := by
  obtain ⟨before, after, he, -⟩ := List.lookup_eq_some_iff.1 h
  rw [he]
  exact List.mem_append_right _ List.mem_cons_self

theorem mem_values_of_get? {c : Catalog α} {key : String} {value : α}
    (h : c.get? key = some value) : value ∈ c.values :=
  List.mem_map_of_mem (mem_entries_of_get? h)

end Catalog

/-- A set of ids, listed in order. -/
abbrev IdSet := Catalog Unit

namespace IdSet

/-- Puts an id into the set. -/
def add (s : IdSet) (id : String) : IdSet := s.insert id ()

/-- The ids of the set, in order. -/
def toList (s : IdSet) : List String := s.keys

/-- Adding an id adds that one and no other. -/
@[grind =] theorem contains_add (s : IdSet) (id other : String) :
    (s.add id).contains other = (other == id || s.contains other) := by
  rw [Catalog.contains_eq_isSome, Catalog.contains_eq_isSome, add, Catalog.get?_insert]
  by_cases h : other = id
  · rw [if_pos h, beq_iff_eq.2 h, Bool.true_or, Option.isSome_some]
  · rw [if_neg h, beq_eq_false_iff_ne.2 h, Bool.false_or]

theorem contains_add_self (s : IdSet) (id : String) : (s.add id).contains id = true := by
  rw [contains_add, beq_self_eq_true, Bool.true_or]

theorem contains_add_of_ne (s : IdSet) {id other : String} (h : other ≠ id) :
    (s.add id).contains other = s.contains other := by
  rw [contains_add, beq_eq_false_iff_ne.2 h, Bool.false_or]

/-- Taking an id out takes out that one and no other. -/
@[grind =] theorem contains_erase (s : IdSet) (id other : String) :
    Catalog.contains (s.erase id) other = (other != id && s.contains other) := by
  rw [Catalog.contains_eq_isSome, Catalog.contains_eq_isSome, Catalog.get?_erase]
  by_cases h : other = id
  · rw [if_pos h, bne, beq_iff_eq.2 h, Bool.not_true, Bool.false_and, Option.isSome_none]
  · rw [if_neg h, bne, beq_eq_false_iff_ne.2 h, Bool.not_false, Bool.true_and]

end IdSet

end VisualNovel
