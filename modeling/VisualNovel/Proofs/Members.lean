import Mathlib.Data.List.Pairwise
import Mathlib.Data.List.Sort
import VisualNovel.Proofs.Orderly
import VisualNovel.Proofs.SpelledBack

/-!
# The members of a map, in any order

A record is read from a map member by member. All that is remembered from one member to the next is
which fields have been read and the record so far (`ReadsMember`). A member that nobody asked for
changes neither. Of two members that somebody did ask for, each changes a field of its own, for a
second value of the same field would be one too many; so it does not matter which comes first. In a
catalog it does when both have the same name, since there the later one counts.

`Members.Rearranged` puts one list of members in relation to another that comes of it in such ways.
Members whose values are records themselves may have been rearranged inside. This is left to a
relation on values, and it is enough to know of it that the decoder of the field reads related
values alike (`Preserves`). So what holds of records carries over to lists and catalogs of them, and
to the records around these.
-/

namespace VisualNovel

/-- Two catalogs in which the same is found are the same. -/
theorem Catalog.ext_get? {α : Type} {c d : Catalog α} (h : ∀ key, c.get? key = d.get? key) :
    c = d := by
  have asymmetric : ∀ {a b : String × α}, a.1 < b.1 → ¬ b.1 < a.1 :=
    fun hab hba => String.lt_irrefl _ (String.lt_trans hab hba)
  have : Std.Antisymm fun a b : String × α => a.1 < b.1 :=
    ⟨fun _ _ hab hba => absurd hba (asymmetric hab)⟩
  have : Std.Irrefl fun a b : String × α => a.1 < b.1 := ⟨fun _ => String.lt_irrefl _⟩
  refine Catalog.entries_inj.1 (c.ascending.eq_of_mem_iff d.ascending fun e => ?_)
  constructor
  · intro mem
    exact mem_entries_of_get? ((h e.1).symm.trans (get?_of_mem_entries mem))
  · intro mem
    exact mem_entries_of_get? ((h e.1).trans (get?_of_mem_entries mem))

theorem Catalog.insert_comm {α : Type} (c : Catalog α) {key key' : String} (ne : key ≠ key')
    (a a' : α) : (c.insert key a).insert key' a' = (c.insert key' a').insert key a := by
  refine ext_get? fun other => ?_
  simp only [get?_insert]
  by_cases h : other = key
  · rw [if_pos h, if_pos h, if_neg (h ▸ ne)]
  · rw [if_neg h, if_neg h]

namespace Json

variable {α ρ : Type} {R : Value → Value → Prop} {inner : String → Value → Value → Prop}

theorem map_eq_ok_iff {ε β γ : Type} {x : Except ε β} {f : β → γ} {c : γ} :
    x.map f = .ok c ↔ ∃ b, x = .ok b ∧ f b = c := by
  cases x <;> simp [Except.map]

/-- What is read from a value is read from every value it is related to. -/
def Preserves (R : Value → Value → Prop) (decoder : Decoder α) : Prop :=
  ∀ v v' a, R v v' → decoder v = .ok a → decoder v' = .ok a

theorem preserves_eq (decoder : Decoder α) : Preserves Eq decoder := by
  rintro v _ a rfl h
  exact h

/-! ## Lists -/

/-- A list whose entries have been replaced, one by one, by what they are related to. -/
inductive InList (R : Value → Value → Prop) : Value → Value → Prop
  | same (v : Value) : InList R v v
  | list {items items' : List Value} {ending : Ending} (h : List.Forall₂ R items items') :
    InList R (.list items ending) (.list items' ending)

theorem mapM_preserves {decoder : Decoder α} (h : Preserves R decoder) {items items' : List Value}
    (hi : List.Forall₂ R items items') {as : List α} (ok : items.mapM decoder = .ok as) :
    items'.mapM decoder = .ok as := by
  rw [mapM_eq_ok_iff] at ok ⊢
  induction hi generalizing as with
  | nil => exact ok
  | cons first rest ih =>
      cases ok with
      | cons read ok => exact .cons (h _ _ _ first read) (ih ok)

theorem list_preserves {decoder : Decoder α} (h : Preserves R decoder) :
    Preserves (InList R) (.list decoder) := by
  rintro _ _ as (v | hi) ok
  · exact ok
  · obtain ⟨read, hr, ok⟩ := bind_eq_ok_iff.1 ok
    exact bind_eq_ok_iff.2 ⟨read, mapM_preserves h hi hr, ok⟩

/-- Null may stand in place of the list; then it does so before and after. -/
theorem optional_list_preserves {decoder : Decoder α} (h : Preserves R decoder) :
    Preserves (InList R) (.optional (.list decoder)) := by
  rintro _ _ as (v | @⟨items, items', ending, hi⟩) ok
  · exact ok
  · obtain ⟨read, hr, rfl⟩ := map_eq_ok_iff.1 ok
    show (Decoder.list decoder (.list items' ending)).map some = _
    rw [list_preserves h _ _ _ (.list hi) hr]
    rfl

/-! ## Members -/

/-- A list of members comes of another in that members with different names change places, members
are added whose names are not known, and values are replaced by what they are related to. -/
inductive Members.Rearranged (known : String → Bool) (inner : String → Value → Value → Prop) :
    List (RawText × Value) → List (RawText × Value) → Prop
  | nil : Members.Rearranged known inner [] []
  | keep {key : RawText} {v v' : Value} {members members' : List (RawText × Value)}
    (value : ∀ name, key.decode = .ok name → inner name v v')
    (rest : Members.Rearranged known inner members members') :
    Members.Rearranged known inner ((key, v) :: members) ((key, v') :: members')
  | swap {m m' : RawText × Value} {members : List (RawText × Value)}
    (ne : m.1.decode ≠ m'.1.decode) :
    Members.Rearranged known inner (m :: m' :: members) (m' :: m :: members)
  | add {key : RawText} {v : Value} {name : String} {members members' : List (RawText × Value)}
    (named : key.decode = .ok name) (unknown : known name = false)
    (wellFormed : ∃ bs, v.Writes bs)
    (rest : Members.Rearranged known inner members members') :
    Members.Rearranged known inner members ((key, v) :: members')
  | trans {members members' members'' : List (RawText × Value)}
    (first : Members.Rearranged known inner members members')
    (second : Members.Rearranged known inner members' members'') :
    Members.Rearranged known inner members members''

/-- Members all of whose names differ may stand in any order. -/
theorem Members.Rearranged.of_perm {known : String → Bool} (same : ∀ name v, inner name v v)
    {members members' : List (RawText × Value)} (perm : members.Perm members')
    (differ : members.Pairwise fun m m' => m.1.decode ≠ m'.1.decode) :
    Members.Rearranged known inner members members' := by
  induction perm with
  | nil => exact .nil
  | cons m _ ih => exact .keep (fun name _ => same name m.2) (ih (List.pairwise_cons.1 differ).2)
  | swap m m' _ => exact .swap ((List.pairwise_cons.1 differ).1 m List.mem_cons_self)
  | trans perm _ ih ih' => exact .trans (ih differ) (ih' (perm.pairwise differ fun h => h.symm))

/-! ## Catalogs -/

/-- A catalog whose members have been rearranged. Every name is known here, so there are none to
add. -/
inductive InCatalog (R : Value → Value → Prop) : Value → Value → Prop
  | same (v : Value) : InCatalog R v v
  | map {members members' : List (RawText × Value)} {ending : Ending}
    (h : Members.Rearranged (fun _ => true) (fun _ => R) members members') :
    InCatalog R (.map members ending) (.map members' ending)

theorem mapM_cons_eq_ok_iff {ε β γ : Type} {f : β → Except ε γ} {x : β} {xs : List β}
    {ys : List γ} : (x :: xs).mapM f = .ok ys ↔
      ∃ y rest, f x = .ok y ∧ xs.mapM f = .ok rest ∧ y :: rest = ys := by
  rw [List.mapM_cons, cons_eq_ok_iff]

theorem entry_eq_ok_iff {decoder : Decoder α} {m : RawText × Value} {e : String × α} :
    Decoder.entry decoder m = .ok e ↔ m.1.decode = .ok e.1 ∧ decoder m.2 = .ok e.2 := by
  constructor
  · intro h
    obtain ⟨name, hn, h⟩ := bind_eq_ok_iff.1 h
    obtain ⟨a, ha, h⟩ := bind_eq_ok_iff.1 h
    cases h
    exact ⟨hn, ha⟩
  · rintro ⟨hn, ha⟩
    exact bind_eq_ok_iff.2 ⟨e.1, hn, bind_eq_ok_iff.2 ⟨e.2, ha, rfl⟩⟩

/-- Files entries in a catalog, one after the other. -/
def fileAll (c : Catalog α) (entries : List (String × α)) : Catalog α :=
  entries.foldl (fun c e => c.insert e.1 e.2) c

theorem entries_rearranged {decoder : Decoder α} (hd : Preserves R decoder)
    {members members' : List (RawText × Value)}
    (h : Members.Rearranged (fun _ => true) (fun _ => R) members members')
    {entries : List (String × α)} (ok : members.mapM (Decoder.entry decoder) = .ok entries) :
    ∃ entries', members'.mapM (Decoder.entry decoder) = .ok entries' ∧
      ∀ c, fileAll c entries' = fileAll c entries := by
  induction h generalizing entries with
  | nil => exact ⟨entries, ok, fun _ => rfl⟩
  | keep value rest ih =>
      obtain ⟨e, es, first, more, rfl⟩ := mapM_cons_eq_ok_iff.1 ok
      obtain ⟨named, read⟩ := entry_eq_ok_iff.1 first
      obtain ⟨es', ok', same⟩ := ih more
      refine ⟨e :: es', mapM_cons_eq_ok_iff.2 ⟨e, es', ?_, ok', rfl⟩, fun c => same _⟩
      exact entry_eq_ok_iff.2 ⟨named, hd _ _ _ (value _ named) read⟩
  | swap ne =>
      obtain ⟨e, _, first, more, rfl⟩ := mapM_cons_eq_ok_iff.1 ok
      obtain ⟨e', es, second, others, rfl⟩ := mapM_cons_eq_ok_iff.1 more
      refine ⟨e' :: e :: es, ?_, fun c => ?_⟩
      · exact mapM_cons_eq_ok_iff.2
          ⟨e', e :: es, second, mapM_cons_eq_ok_iff.2 ⟨e, es, first, others, rfl⟩, rfl⟩
      · have names : e'.1 ≠ e.1 := fun he => ne
          ((entry_eq_ok_iff.1 first).1.trans (he ▸ (entry_eq_ok_iff.1 second).1.symm))
        exact congrArg (fileAll · es) (c.insert_comm names e'.2 e.2)
  | add _ unknown => cases unknown
  | trans _ _ ih ih' =>
      obtain ⟨es', ok', same⟩ := ih ok
      obtain ⟨es'', ok'', same'⟩ := ih' ok'
      exact ⟨es'', ok'', fun c => (same' c).trans (same c)⟩

theorem catalog_preserves {decoder : Decoder α} (h : Preserves R decoder) :
    Preserves (InCatalog R) (.catalog decoder) := by
  rintro _ _ c (v | rearranged) ok
  · exact ok
  · obtain ⟨entries, he, ok⟩ := bind_eq_ok_iff.1 ok
    obtain ⟨ending, hend, ok⟩ := bind_eq_ok_iff.1 ok
    obtain ⟨entries', he', same⟩ := entries_rearranged h rearranged he
    cases ok
    refine bind_eq_ok_iff.2 ⟨entries', he', bind_eq_ok_iff.2 ⟨ending, hend, ?_⟩⟩
    exact congrArg Except.ok (same .empty)

/-! ## The fields of a record -/

namespace Field

theorem isCalled_name (f : Field ρ) : f.isCalled f.name = true := by
  simp [isCalled]

/-- It does not matter which of the two fields is put into a record first. -/
def Commute (f g : Field ρ) : Prop :=
  ∀ v w set set', f.read v = .ok set → g.read w = .ok set' → ∀ r, set' (set r) = set (set' r)

theorem Commute.symm {f g : Field ρ} (h : f.Commute g) : g.Commute f :=
  fun v w set set' hv hw r => (h w v set' set hw hv r).symm

@[simp] theorem commute_of {α β : Type} {name name' : String} {decoder : Decoder α}
    {decoder' : Decoder β} {set : α → ρ → ρ} {set' : β → ρ → ρ} {aliases aliases' : List String}
    (h : ∀ a b r, set' b (set a r) = set a (set' b r)) :
    (Field.of name decoder set aliases).Commute (.of name' decoder' set' aliases') := by
  intro v w update update' hv hw r
  obtain ⟨a, -, rfl⟩ := map_eq_ok_iff.1 hv
  obtain ⟨b, -, rfl⟩ := map_eq_ok_iff.1 hw
  exact h a b r

theorem preserves_of {name : String} {decoder : Decoder α} {set : α → ρ → ρ}
    {aliases : List String} (h : Preserves R decoder) :
    Preserves R (Field.of name decoder set aliases).read := by
  intro v v' update hv ok
  obtain ⟨a, ha, rfl⟩ := map_eq_ok_iff.1 ok
  exact congrArg (Except.map set) (h v v' a hv ha)

end Field

namespace Format

variable {format : Format ρ}

/-- Whether a field goes by this name. -/
def knows (format : Format ρ) (name : String) : Bool := format.fields.any (·.isCalled name)

theorem knows_eq_false_iff {name : String} :
    format.knows name = false ↔ format.fields.find? (·.isCalled name) = none := by
  simp [knows]

/-- What has to be known of a kind of record and of the values of its fields. -/
structure Orderless (format : Format ρ) (inner : String → Value → Value → Prop) : Prop where
  commute : format.fields.Pairwise Field.Commute
  read : ∀ f ∈ format.fields, ∀ name, f.isCalled name = true → Preserves (inner name) f.read
  skip : ∀ name, format.knows name = false → Preserves (inner name) Value.skip

theorem Orderless.of_commute (h : format.fields.Pairwise Field.Commute) :
    format.Orderless fun _ => Eq :=
  ⟨h, fun _ _ _ _ => preserves_eq _, fun _ _ => preserves_eq _⟩

/-- What becomes of the fields read so far and of the record when one more member is read. -/
inductive ReadsMember (format : Format ρ) :
    RawText × Value → List String × ρ → List String × ρ → Prop
  | skipped {key : RawText} {v : Value} {name : String} {s : List String × ρ}
    (named : key.decode = .ok name) (unknown : format.fields.find? (·.isCalled name) = none)
    (skip : v.skip = .ok ()) : ReadsMember format (key, v) s s
  | read {key : RawText} {v : Value} {name : String} {f : Field ρ} {update : ρ → ρ}
    {seen : List String} {record : ρ} (named : key.decode = .ok name)
    (found : format.fields.find? (·.isCalled name) = some f) (fresh : f.name ∉ seen)
    (read : f.read v = .ok update) :
    ReadsMember format (key, v) (seen, record) (f.name :: seen, update record)

/-- Reads members when some have been read before. -/
def readOn (format : Format ρ) (members : List (RawText × Value)) (s : List String × ρ) :
    Except Fault (List String × ρ) :=
  format.readMembers members s.1 s.2

/-- Members are read one at a time. -/
theorem readOn_cons_eq_ok_iff {m : RawText × Value} {members : List (RawText × Value)}
    {s out : List String × ρ} : format.readOn (m :: members) s = .ok out ↔
      ∃ s', format.ReadsMember m s s' ∧ format.readOn members s' = .ok out := by
  obtain ⟨key, v⟩ := m
  rw [readOn, readMembers]
  constructor
  · intro h
    obtain ⟨name, named, h⟩ := bind_eq_ok_iff.1 h
    split at h
    · next unknown =>
        obtain ⟨_, skip, h⟩ := bind_eq_ok_iff.1 h
        exact ⟨s, .skipped named unknown skip, h⟩
    · next f found =>
        split at h
        · cases h
        · next fresh =>
            obtain ⟨update, read, h⟩ := bind_eq_ok_iff.1 h
            exact ⟨_, .read named found (by simpa using fresh) read, h⟩
  · rintro ⟨s', h, rest⟩
    cases h with
    | skipped named unknown skip =>
        refine bind_eq_ok_iff.2 ⟨_, named, ?_⟩
        rw [unknown]
        exact bind_eq_ok_iff.2 ⟨_, skip, rest⟩
    | read named found fresh read =>
        refine bind_eq_ok_iff.2 ⟨_, named, ?_⟩
        rw [found]
        dsimp only
        rw [if_neg (by simpa using fresh)]
        exact bind_eq_ok_iff.2 ⟨_, read, rest⟩

/-- The same fields have been read, in whatever order, with the same record. -/
def Alike (s t : List String × ρ) : Prop := s.1.Perm t.1 ∧ s.2 = t.2

theorem ReadsMember.of_alike {m : RawText × Value} {s s' t : List String × ρ}
    (h : format.ReadsMember m s s') (alike : Alike s t) :
    ∃ t', format.ReadsMember m t t' ∧ Alike s' t' := by
  obtain ⟨seen, record⟩ := t
  obtain ⟨perm, rfl⟩ := alike
  cases h with
  | skipped named unknown skip => exact ⟨_, .skipped named unknown skip, perm, rfl⟩
  | read named found fresh read =>
      exact ⟨_, .read named found (fun h => fresh (perm.mem_iff.2 h)) read, perm.cons _, rfl⟩

theorem readOn_of_alike {members : List (RawText × Value)} {s t out : List String × ρ}
    (ok : format.readOn members s = .ok out) (alike : Alike s t) :
    ∃ out', format.readOn members t = .ok out' ∧ Alike out out' := by
  induction members generalizing s t with
  | nil =>
      cases ok
      exact ⟨t, rfl, alike⟩
  | cons m members ih =>
      obtain ⟨s', first, rest⟩ := readOn_cons_eq_ok_iff.1 ok
      obtain ⟨t', first', alike'⟩ := first.of_alike alike
      obtain ⟨out', rest', h⟩ := ih rest alike'
      exact ⟨out', readOn_cons_eq_ok_iff.2 ⟨t', first', rest'⟩, h⟩

theorem ReadsMember.of_related {key : RawText} {v v' : Value} {s s' : List String × ρ}
    (orderless : format.Orderless inner) (value : ∀ name, key.decode = .ok name → inner name v v')
    (h : format.ReadsMember (key, v) s s') : format.ReadsMember (key, v') s s' := by
  cases h with
  | skipped named unknown skip =>
      have skips := orderless.skip _ (knows_eq_false_iff.2 unknown)
      exact .skipped named unknown (skips _ _ _ (value _ named) skip)
  | read named found fresh read =>
      have called := List.find?_some found
      have reads := orderless.read _ (List.mem_of_find?_eq_some found) _ called
      exact .read named found fresh (reads _ _ _ (value _ named) read)

/-- Two members that have been read one after the other can be read the other way round. -/
theorem ReadsMember.swap {m m' : RawText × Value} {s s' s'' : List String × ρ}
    (commute : format.fields.Pairwise Field.Commute) (first : format.ReadsMember m s s')
    (second : format.ReadsMember m' s' s'') :
    ∃ t t', format.ReadsMember m' s t ∧ format.ReadsMember m t t' ∧ Alike s'' t' := by
  cases first with
  | skipped named unknown skip =>
      exact ⟨s'', s'', second, .skipped named unknown skip, .refl _, rfl⟩
  | @read key v name f update seen record named found fresh read =>
      cases second with
      | skipped named' unknown skip =>
          exact ⟨_, _, .skipped named' unknown skip, .read named found fresh read, .refl _, rfl⟩
      | @read key' v' name' g update' _ _ named' found' fresh' read' =>
          have ne : g.name ≠ f.name := List.ne_of_not_mem_cons fresh'
          have fresh'' : g.name ∉ seen := List.not_mem_of_not_mem_cons fresh'
          have : Std.Symm (@Field.Commute ρ) := ⟨fun _ _ h => h.symm⟩
          have swaps : f.Commute g := commute.forall (List.mem_of_find?_eq_some found)
            (List.mem_of_find?_eq_some found') fun he => ne (he ▸ rfl)
          refine ⟨_, _, .read named' found' fresh'' read', .read named found ?_ read, .swap .., ?_⟩
          · exact List.not_mem_cons_of_ne_of_not_mem (Ne.symm ne) fresh
          · exact swaps v v' update update' read read' record

theorem readOn_rearranged (orderless : format.Orderless inner)
    {members members' : List (RawText × Value)}
    (h : Members.Rearranged format.knows inner members members') {s out : List String × ρ}
    (ok : format.readOn members s = .ok out) :
    ∃ out', format.readOn members' s = .ok out' ∧ Alike out out' := by
  induction h generalizing s out with
  | nil => exact ⟨out, ok, .refl _, rfl⟩
  | keep value rest ih =>
      obtain ⟨s', first, ok⟩ := readOn_cons_eq_ok_iff.1 ok
      obtain ⟨out', ok', alike⟩ := ih ok
      exact ⟨out', readOn_cons_eq_ok_iff.2 ⟨s', first.of_related orderless value, ok'⟩, alike⟩
  | swap =>
      obtain ⟨s', first, ok⟩ := readOn_cons_eq_ok_iff.1 ok
      obtain ⟨s'', second, ok⟩ := readOn_cons_eq_ok_iff.1 ok
      obtain ⟨t, t', first', second', alike⟩ := first.swap orderless.commute second
      obtain ⟨out', ok', alike'⟩ := readOn_of_alike ok alike
      refine ⟨out', ?_, alike'⟩
      exact readOn_cons_eq_ok_iff.2
        ⟨t, first', readOn_cons_eq_ok_iff.2 ⟨t', second', ok'⟩⟩
  | add named unknown wellFormed _ ih =>
      obtain ⟨bs, writes⟩ := wellFormed
      obtain ⟨out', ok', alike⟩ := ih ok
      refine ⟨out', readOn_cons_eq_ok_iff.2 ⟨s, ?_, ok'⟩, alike⟩
      exact .skipped named (knows_eq_false_iff.1 unknown) (Value.writes_iff.1 writes).2
  | trans _ _ ih ih' =>
      obtain ⟨out', ok', perm, same⟩ := ih ok
      obtain ⟨out'', ok'', perm', same'⟩ := ih' ok'
      exact ⟨out'', ok'', perm.trans perm', same.trans same'⟩

/-! ## Records -/

/-- A record written as a list of its fields in order has nothing to rearrange but the values. -/
inductive Positional (inner : String → Value → Value → Prop) :
    List (Field ρ) → List Value → List Value → Prop
  | same (fields : List (Field ρ)) (items : List Value) : Positional inner fields items items
  | cons {f : Field ρ} {fields : List (Field ρ)} {v v' : Value} {items items' : List Value}
    (value : inner f.name v v') (rest : Positional inner fields items items') :
    Positional inner (f :: fields) (v :: items) (v' :: items')

theorem Positional.isEmpty_eq {fields : List (Field ρ)} {items items' : List Value}
    (h : Positional inner fields items items') : items'.isEmpty = items.isEmpty := by
  cases h with
  | same => rfl
  | cons => rfl

theorem readItems_positional {ending : Ending} {fields : List (Field ρ)}
    (read : ∀ f ∈ fields, ∀ name, f.isCalled name = true → Preserves (inner name) f.read)
    {items items' : List Value} (h : Positional inner fields items items') {record out : ρ}
    (ok : readItems ending fields items record = .ok out) :
    readItems ending fields items' record = .ok out := by
  induction h generalizing record with
  | same => exact ok
  | @cons f fields _ _ _ _ value rest ih =>
      obtain ⟨first, others⟩ := List.forall_mem_cons.1 read
      obtain ⟨update, hu, ok⟩ := bind_eq_ok_iff.1 ok
      refine bind_eq_ok_iff.2 ⟨update, ?_, ih others ok⟩
      exact first _ f.isCalled_name _ _ _ value hu

/-- A record that has been rearranged. -/
inductive InRecord (format : Format ρ) (inner : String → Value → Value → Prop) :
    Value → Value → Prop
  | same (v : Value) : InRecord format inner v v
  | map {members members' : List (RawText × Value)} {ending : Ending}
    (h : Members.Rearranged format.knows inner members members') :
    InRecord format inner (.map members ending) (.map members' ending)
  | list {items items' : List Value} {ending : Ending}
    (h : Positional inner format.fields items items') :
    InRecord format inner (.list items ending) (.list items' ending)

theorem Orderless.preserves (h : format.Orderless inner) :
    Preserves (format.InRecord inner) format.decode := by
  rintro _ _ record (v | rearranged | positional) ok
  · exact ok
  · obtain ⟨s, read, ok⟩ := bind_eq_ok_iff.1 ok
    have read : format.readOn _ ([], format.blank) = .ok s := read
    obtain ⟨s', read', perm, same⟩ := readOn_rearranged h rearranged read
    refine bind_eq_ok_iff.2 ⟨s', read', ?_⟩
    have seen : ∀ name, s'.1.contains name = s.1.contains name := fun name =>
      perm.symm.contains_eq
    simpa only [seen, ← same] using ok
  · obtain ⟨r, read, ok⟩ := bind_eq_ok_iff.1 ok
    refine bind_eq_ok_iff.2 ⟨r, readItems_positional h.read positional read, ?_⟩
    rw [positional.isEmpty_eq]
    exact ok

end Format

end Json

end VisualNovel
