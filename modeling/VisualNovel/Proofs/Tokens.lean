import VisualNovel.Proofs.Naming
import VisualNovel.Proofs.Strictness

/-!
# Texts that come out trimmed, and actions that come out of tokens

A text that names something is trimmed when it is read, and a blank one is dropped. What is left is
a `Text.Bare` text, and reading it a second time changes nothing.

An action is read off a token. A built-in one has an id, which is the end of a trimmed token and so
does not end in a blank, though it may begin with one: in front of it stands the verb. Any other
token is an action by itself. `Action.Nameable` says which actions come out that way, and these are
the ones whose own token names them again. Read without regard to whether a token names anything,
a blank one is an action by itself as well, and that one more is `Action.Legible`.
-/

namespace VisualNovel

namespace Text

/-- A text that holds something, and has no blanks around it. -/
structure Bare (s : String) : Prop where
  ne_empty : s ≠ ""
  trim_eq : trim s = s

/-- The text is bare, if there is one. -/
def BareIfAny (s : Option String) : Prop := ∀ t ∈ s, Bare t

/-- A text that holds something and does not end in a blank. -/
def Closed (s : String) : Prop := s ≠ "" ∧ ∀ c, s.toList.getLast? = some c → isBlankChar c = false

theorem bare_trim {s : String} (h : isBlank s = false) : Bare (trim s) :=
  ⟨String.isEmpty_eq_false_iff.1 h, trim_trim s⟩

theorem Bare.isBlank_eq {s : String} (h : Bare s) : isBlank s = false := by
  rw [isBlank, h.trim_eq]
  exact String.isEmpty_eq_false_iff.2 h.ne_empty

theorem nonBlank_eq_some_iff {s : Option String} {t : String} :
    nonBlank s = some t ↔ ∃ raw, s = some raw ∧ isBlank raw = false ∧ trim raw = t := by
  rw [nonBlank, Option.bind_eq_some_iff]
  refine exists_congr fun raw => and_congr_right fun _ => ?_
  cases h : isBlank raw <;> simp

theorem bareIfAny_nonBlank (s : Option String) : BareIfAny (nonBlank s) := by
  intro t h
  obtain ⟨raw, -, hb, rfl⟩ := nonBlank_eq_some_iff.1 h
  exact bare_trim hb

theorem BareIfAny.nonBlank_eq {s : Option String} (h : BareIfAny s) : nonBlank s = s := by
  cases s with
  | none => rfl
  | some t =>
      have bare := h t rfl
      exact nonBlank_eq_some_iff.2 ⟨t, rfl, bare.isBlank_eq, bare.trim_eq⟩

theorem Bare.nonBlank_eq {s : String} (h : Bare s) : nonBlank (some s) = some s :=
  BareIfAny.nonBlank_eq fun _ ht => Option.mem_some.1 ht ▸ h

/-- What is left after trimming does not end in a blank. -/
theorem isBlankChar_getLast_trimChars {cs : List Char} {c : Char}
    (h : (trimChars cs).getLast? = some c) : isBlankChar c = false := by
  obtain ⟨before, he⟩ := List.getLast?_eq_some_iff.1 h
  have hne : trimChars cs ≠ [] := by simp [he]
  have last : (trimChars cs).getLast hne = c := by simp [he]
  have kept := List.rdropWhile_last_not isBlankChar (cs.dropWhile isBlankChar) hne
  rw [Bool.not_eq_true] at kept
  exact last ▸ kept

/-- Nothing is taken off where there is no blank at either end. -/
theorem trimChars_eq_self {c : Char} {cs : List Char} (front : isBlankChar c = false)
    (back : ∀ d, (c :: cs).getLast? = some d → isBlankChar d = false) :
    trimChars (c :: cs) = c :: cs := by
  have kept : (c :: cs).dropWhile isBlankChar = c :: cs :=
    List.dropWhile_cons_of_neg (Bool.not_eq_true _ ▸ front)
  rw [trimChars, kept]
  refine List.rdropWhile_eq_self_iff.2 fun hne => ?_
  rw [Bool.not_eq_true]
  exact back _ (List.getLast?_eq_some_getLast hne)

end Text

namespace Action

/-- An action that a token names. -/
def Nameable : Action → Prop
  | addItem id | removeItem id | setFlag id | clearFlag id => Text.Closed id
  | custom token => Text.Bare token ∧ parse? token = none

theorem parse?_trim (token : String) : parse? (Text.trim token) = parse? token := by
  rw [parse?, parse?, Text.trim_trim]

section Verbs

variable {verb : String × (String → Action)} (hv : verb ∈ verbs) {id : String}

include hv

theorem token_of_verb : (verb.2 id).token = verb.1 ++ id := by
  simp only [verbs, List.mem_cons, List.not_mem_nil, or_false] at hv
  rcases hv with rfl | rfl | rfl | rfl <;> rfl

theorem nameable_of_verb : (verb.2 id).Nameable ↔ Text.Closed id := by
  simp only [verbs, List.mem_cons, List.not_mem_nil, or_false] at hv
  rcases hv with rfl | rfl | rfl | rfl <;> rfl

/-- A verb with an id behind it has no blank in front, so it is trimmed if the id is at the back. -/
theorem trim_of_verb (h : Text.Closed id) : Text.trim (verb.1 ++ id) = verb.1 ++ id := by
  have trimmed : Text.trimChars (verb.1 ++ id).toList = (verb.1 ++ id).toList := by
    rw [String.toList_append]
    have back : ∀ d, (verb.1.toList ++ id.toList).getLast? = some d →
        Text.isBlankChar d = false := by
      have hne : id.toList ≠ [] := by simpa using h.1
      rw [List.getLast?_append_of_ne_nil _ hne]
      exact h.2
    simp only [verbs, List.mem_cons, List.not_mem_nil, or_false] at hv
    rcases hv with rfl | rfl | rfl | rfl <;> exact Text.trimChars_eq_self rfl back
  rw [Text.trim, trimmed, String.ofList_toList]

theorem parse?_of_verb (h : Text.Closed id) : parse? (verb.1 ++ id) = some (verb.2 id) := by
  rw [parse?, trim_of_verb hv h]
  -- No verb begins like another one, so the search passes by the verbs in front.
  simp only [verbs, List.mem_cons, List.not_mem_nil, or_false] at hv
  rcases hv with rfl | rfl | rfl | rfl <;> simp [verbs, ofVerb?, h.1]

end Verbs

theorem eq_of_ofVerb? {verb : String × (String → Action)} {token : String} {a : Action}
    (h : ofVerb? token verb = some a) : ∃ id, id ≠ "" ∧ token = verb.1 ++ id ∧ a = verb.2 id := by
  unfold ofVerb? at h
  dsimp only at h
  split at h
  · next hp =>
      cases h
      obtain ⟨hp, hne⟩ := Bool.and_eq_true_iff.1 hp
      obtain ⟨id, he⟩ := List.isPrefixOf_iff_prefix.1 hp
      rw [← he, List.drop_left] at hne ⊢
      refine ⟨String.ofList id, by simpa using hne, ?_, rfl⟩
      rw [← String.toList_inj, String.toList_append, String.toList_ofList, he]
  · cases h

/-- A built-in action is a verb, and an id at the back of a trimmed token. -/
theorem exists_verb_of_parse? {token : String} {a : Action} (h : parse? token = some a) :
    ∃ verb ∈ verbs, ∃ id, Text.Closed id ∧ Text.trim token = verb.1 ++ id ∧ a = verb.2 id := by
  obtain ⟨verb, hv, h⟩ := List.exists_of_findSome?_eq_some h
  obtain ⟨id, hne, ht, ha⟩ := eq_of_ofVerb? h
  refine ⟨verb, hv, id, ⟨hne, fun c hc => ?_⟩, ht, ha⟩
  have last : (Text.trimChars token.toList).getLast? = some c := by
    have ends : (Text.trim token).toList.getLast? = some c := by
      rw [ht, String.toList_append, List.getLast?_append_of_ne_nil _ (by simpa using hne), hc]
    rwa [Text.trim, String.toList_ofList] at ends
  exact Text.isBlankChar_getLast_trimChars last

theorem exists_verb_of_isBuiltin {a : Action} (h : a.isBuiltin = true) :
    ∃ verb ∈ verbs, ∃ id, a = verb.2 id := by
  cases a with
  | addItem id => exact ⟨_, .head _, id, rfl⟩
  | removeItem id => exact ⟨_, .tail _ (.head _), id, rfl⟩
  | setFlag id => exact ⟨_, .tail _ (.tail _ (.head _)), id, rfl⟩
  | clearFlag id => exact ⟨_, .tail _ (.tail _ (.tail _ (.head _))), id, rfl⟩
  | custom token => cases h

/-- What a token is read as is written as the token again, blanks around it aside. -/
theorem token_parse (token : String) : (parse token).token = Text.trim token := by
  cases h : parse? token with
  | none => rw [parse, h]; rfl
  | some a =>
      obtain ⟨verb, hv, id, -, ht, rfl⟩ := exists_verb_of_parse? h
      rw [parse, h, ht]
      exact token_of_verb hv

theorem nameable_of_parse? {token : String} {a : Action} (h : parse? token = some a) :
    a.Nameable := by
  obtain ⟨verb, hv, id, closed, -, rfl⟩ := exists_verb_of_parse? h
  exact (nameable_of_verb hv).2 closed

theorem nameable_of_parse {token : String} {a : Action} (h : Text.isBlank token = false)
    (ha : parse token = a) : a.Nameable := by
  cases hp : parse? token with
  | none =>
      rw [parse, hp, Option.getD_none] at ha
      rw [← ha]
      exact ⟨Text.bare_trim h, (parse?_trim token).trans hp⟩
  | some b =>
      rw [parse, hp, Option.getD_some] at ha
      rw [← ha]
      exact nameable_of_parse? hp

theorem Nameable.bare_token {a : Action} (h : a.Nameable) : Text.Bare a.token := by
  cases hb : a.isBuiltin with
  | true =>
      obtain ⟨verb, hv, id, rfl⟩ := exists_verb_of_isBuiltin hb
      have closed := (nameable_of_verb hv).1 h
      rw [token_of_verb hv]
      exact ⟨fun he => closed.1 (String.append_eq_empty_iff.1 he).2, trim_of_verb hv closed⟩
  | false =>
      cases a with
      | custom token => exact h.1
      | addItem | removeItem | setFlag | clearFlag => cases hb

/-- An action that its own token is read as. It may also be the one that a blank token is read as,
which names nothing. -/
def Legible : Action → Prop
  | addItem id | removeItem id | setFlag id | clearFlag id => Text.Closed id
  | custom token => Text.trim token = token ∧ parse? token = none

theorem legible_iff_nameable {a : Action} (hb : a.isBuiltin = true) : a.Legible ↔ a.Nameable := by
  cases a with
  | custom token => cases hb
  | addItem | removeItem | setFlag | clearFlag => rfl

theorem parse?_eq_some_iff {token : String} {a : Action} :
    parse? token = some a ↔ parse token = a ∧ a.isBuiltin = true := by
  constructor
  · intro h
    exact ⟨by rw [parse, h]; rfl, isBuiltin_of_parse? h⟩
  · rintro ⟨rfl, hb⟩
    cases hp : parse? token with
    | some a => rw [parse, hp]; rfl
    | none =>
        rw [parse, hp] at hb
        cases hb

theorem parse_token_eq_self_iff {a : Action} : parse a.token = a ↔ a.Legible := by
  constructor
  · intro h
    cases hp : parse? a.token with
    | some b =>
        obtain ⟨hb, builtin⟩ := parse?_eq_some_iff.1 hp
        cases hb.symm.trans h
        exact (legible_iff_nameable builtin).2 (nameable_of_parse? hp)
    | none =>
        rw [parse, hp, Option.getD_none] at h
        cases a with
        | custom token => exact ⟨custom.inj h, hp⟩
        | addItem | removeItem | setFlag | clearFlag => cases h
  · intro h
    cases hb : a.isBuiltin with
    | true =>
        rw [legible_iff_nameable hb] at h
        obtain ⟨verb, hv, id, rfl⟩ := exists_verb_of_isBuiltin hb
        rw [parse, token_of_verb hv, parse?_of_verb hv ((nameable_of_verb hv).1 h)]
        rfl
    | false =>
        cases a with
        | custom token =>
            obtain ⟨trimmed, unknown⟩ := h
            show parse token = custom token
            rw [parse, unknown, trimmed]
            rfl
        | addItem | removeItem | setFlag | clearFlag => cases hb

/-- The token of an action that some token names is one that names it. -/
theorem Nameable.parse_token {a : Action} (h : a.Nameable) : parse a.token = a := by
  refine parse_token_eq_self_iff.2 ?_
  cases a with
  | custom token => exact ⟨h.1.trim_eq, h.2⟩
  | addItem | removeItem | setFlag | clearFlag => exact h

/-- Reading a token and writing it again takes off the blanks around it and nothing else. The other
way round an action comes back exactly if it is legible: a built-in one whose id holds something and
does not end in a blank, or a custom one that is trimmed and does not spell a built-in one. The
actions of the vocabulary are the built-in ones that tokens are read as. -/
theorem tokens_read_back :
    (∀ token, (parse token).token = Text.trim token) ∧
    (∀ token a, parse? token = some a ↔ parse token = a ∧ a.isBuiltin = true) ∧
    ∀ a : Action, parse a.token = a ↔ a.Legible :=
  ⟨token_parse, fun _ _ => parse?_eq_some_iff, fun _ => parse_token_eq_self_iff⟩

example : parse " ADD_ITEM_ x " = addItem " x" ∧ parse (addItem "x ").token = addItem "x" ∧
    parse (addItem " ").token = custom "ADD_ITEM_" ∧
    parse (custom "SET_FLAG_x").token = setFlag "x" := by decide +kernel

end Action

end VisualNovel
