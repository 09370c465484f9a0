import VisualNovel.Proofs.Steps

/-!
# Filling in a name once and again

Occurrences of the placeholder are replaced from the left and what is put in is not searched again,
so a text that has been filled in may hold the placeholder anew: an occurrence is put together from
the name and the text beside it. `Replaced` says what replacing is, clause by clause, and everything
here is an induction on it. Two things come out. A text is left alone exactly if the placeholder is
not in it, so filling in twice is the same as once exactly if the first time leaves no placeholder
behind; and the first time leaves none behind if the name and the placeholder have nothing to build
an occurrence from, in any of the ways in which two texts can overlap.

A session refuses a name that holds the placeholder. That is one of those ways. A name whose end is
a beginning of the placeholder is taken, and with such a name there always is a text that changes
once more when it is filled in again.
-/

namespace VisualNovel

namespace Text

theorem occursIn_iff {pattern cs : List Char} :
    occursIn pattern cs = true ↔ pattern <:+: cs := by
  induction cs with
  | nil => rw [occursIn, List.isEmpty_iff, List.infix_nil]
  | cons c cs ih =>
      rw [occursIn, Bool.or_eq_true, List.isPrefixOf_iff_prefix, ih, List.infix_cons_iff]

theorem contains_iff {s pattern : String} :
    contains s pattern = true ↔ pattern.toList <:+: s.toList := occursIn_iff

theorem contains_eq_false_iff {s pattern : String} :
    contains s pattern = false ↔ ¬ pattern.toList <:+: s.toList := by
  rw [← contains_iff, Bool.not_eq_true]

/-! ## Replacing, clause by clause -/

/-- The second text is the first with `name` for each occurrence of `pattern`, from the left. -/
inductive Replaced (pattern name : List Char) : List Char → List Char → Prop
  | nil : Replaced pattern name [] []
  | here {cs out : List Char} (h : Replaced pattern name cs out) :
      Replaced pattern name (pattern ++ cs) (name ++ out)
  | there {c : Char} {cs out : List Char} (hc : ¬ pattern <+: c :: cs)
      (h : Replaced pattern name cs out) : Replaced pattern name (c :: cs) (c :: out)

variable {pattern name cs out : List Char}

/-- What belongs to an occurrence that has been replaced is passed over. -/
theorem replaceFrom_eq_drop (pattern name : List Char) :
    ∀ (pending : Nat) (cs : List Char),
      replaceFrom pattern name pending cs = replaceFrom pattern name 0 (cs.drop pending) := by
  intro pending
  induction pending with
  | zero => exact fun _ => rfl
  | succ pending ih =>
      intro cs
      cases cs with
      | nil => rfl
      | cons c cs =>
          rw [replaceFrom, List.drop_succ_cons]
          exact ih cs

theorem replaceFrom_append (hp : pattern ≠ []) (name cs : List Char) :
    replaceFrom pattern name 0 (pattern ++ cs) = name ++ replaceFrom pattern name 0 cs := by
  obtain ⟨p, ps, rfl⟩ := List.exists_cons_of_ne_nil hp
  have here : (p :: ps).isPrefixOf (p :: (ps ++ cs)) = true :=
    List.isPrefixOf_iff_prefix.2 (List.prefix_append (p :: ps) cs)
  rw [List.cons_append, replaceFrom, if_pos here, replaceFrom_eq_drop, List.length_cons,
    Nat.add_sub_cancel, List.drop_left]

theorem replaceFrom_cons {c : Char} (hc : ¬ pattern <+: c :: cs) (name : List Char) :
    replaceFrom pattern name 0 (c :: cs) = c :: replaceFrom pattern name 0 cs := by
  rw [replaceFrom, if_neg (by rwa [List.isPrefixOf_iff_prefix])]

theorem replaced_replaceFrom (hp : pattern ≠ []) (name : List Char) :
    ∀ cs, Replaced pattern name cs (replaceFrom pattern name 0 cs) := by
  intro cs
  -- A replacement takes a whole occurrence off, so the induction is on the length.
  induction hn : cs.length using Nat.strongRecOn generalizing cs with
  | ind n ih =>
      cases cs with
      | nil => exact .nil
      | cons c cs =>
          by_cases hc : pattern <+: c :: cs
          · obtain ⟨rest, hrest⟩ := hc
            have hlen := congrArg List.length hrest
            have hpos := List.length_pos_iff.2 hp
            rw [List.length_append] at hlen
            rw [← hrest, replaceFrom_append hp]
            exact .here (ih rest.length (by omega) rest rfl)
          · rw [replaceFrom_cons hc]
            exact .there hc (ih cs.length (by rw [← hn]; exact Nat.lt_succ_self _) cs rfl)

namespace Replaced

theorem eq_self (h : Replaced pattern name cs out) (hn : ¬ pattern <:+: cs) : out = cs := by
  induction h with
  | nil => rfl
  | here h _ => exact absurd (List.prefix_append _ _).isInfix hn
  | there hc h ih => rw [ih fun hi => hn (List.infix_cons_iff.2 (.inr hi))]

theorem length_le (h : Replaced pattern name cs out) (hl : name.length ≤ pattern.length) :
    out.length ≤ cs.length := by
  induction h with
  | nil => exact Nat.le_refl _
  | here h ih =>
      rw [List.length_append, List.length_append]
      omega
  | there hc h ih =>
      rw [List.length_cons, List.length_cons]
      omega

/-- A text that stays as it is holds no occurrence, if the name holds none: a longer name would
have to begin with the pattern, and a shorter one makes the text shorter. -/
theorem not_occurs_of_eq_self (h : Replaced pattern name cs out) (hp : pattern ≠ [])
    (hn : ¬ pattern <:+: name) (he : out = cs) : ¬ pattern <:+: cs := by
  induction h with
  | nil =>
      rw [List.infix_nil]
      exact hp
  | here h ih =>
      rename_i cs out
      rcases Nat.lt_or_ge name.length pattern.length with hl | hl
      · have hle := h.length_le (Nat.le_of_lt hl)
        have hlen := congrArg List.length he
        rw [List.length_append, List.length_append] at hlen
        omega
      · have hpre : pattern <+: name ++ out := by
          rw [he]
          exact List.prefix_append _ _
        exact absurd (List.prefix_of_prefix_length_le hpre (List.prefix_append _ _) hl).isInfix hn
  | there hc h ih =>
      rw [List.infix_cons_iff]
      rintro (hi | hi)
      · exact hc hi
      · exact ih (List.cons.inj he).2 hi

end Replaced

/-! ## Texts that cannot build an occurrence -/

/-- The two texts do not overlap, neither at an end of one of them nor with the name inside of the
pattern. The pattern inside of the name is another matter. -/
structure Apart (name pattern : List Char) : Prop where
  ending : ∀ {e}, e ≠ [] → e <:+ name → ¬ e <+: pattern
  beginning : ∀ {b}, b ≠ [] → b <+: name → ¬ b <:+ pattern
  inside : ¬ name <:+: pattern

theorem apart_of_disjoint (hn : name ≠ []) (h : ∀ c ∈ name, c ∉ pattern) :
    Apart name pattern := by
  have away : ∀ {t : List Char}, t ≠ [] → t ⊆ name → ¬ t ⊆ pattern := by
    intro t ht hs hs'
    obtain ⟨c, cs, rfl⟩ := List.exists_cons_of_ne_nil ht
    exact h c (hs List.mem_cons_self) (hs' List.mem_cons_self)
  exact
    { ending := fun he hs hp => away he hs.subset hp.subset
      beginning := fun hb hp hs => away hb hp.subset hs.subset
      inside := fun hi => away hn (List.Subset.refl _) hi.subset }

namespace Replaced

/-- Where an end of the pattern turns up at the front of the result, it has been there before. -/
theorem prefix_of_suffix (h : Replaced pattern name cs out) (apart : Apart name pattern) :
    ∀ {e}, e ≠ [] → e <:+ pattern → e <+: out → e <+: cs := by
  induction h with
  | nil => exact fun _ _ hp => hp
  | here h ih =>
      intro e he hs hp
      rcases List.prefix_or_prefix_of_prefix hp (List.prefix_append _ _) with hb | hb
      · exact absurd hs (apart.beginning he hb)
      · exact absurd (hb.isInfix.trans hs.isInfix) apart.inside
  | there hc h ih =>
      intro e he hs hp
      obtain ⟨c, e, rfl⟩ := List.exists_cons_of_ne_nil he
      rw [List.cons_prefix_cons] at hp ⊢
      refine ⟨hp.1, ?_⟩
      cases e with
      | nil => exact List.nil_prefix
      | cons c' e =>
          exact ih (List.cons_ne_nil _ _) ((List.suffix_cons _ _).trans hs) hp.2

theorem not_occurs (h : Replaced pattern name cs out) (hp : pattern ≠ [])
    (hn : ¬ pattern <:+: name) (apart : Apart name pattern) : ¬ pattern <:+: out := by
  induction h with
  | nil =>
      rw [List.infix_nil]
      exact hp
  | here h ih =>
      rw [List.infix_append_iff]
      rintro (hi | hi | ⟨e, rest, he, hs, hr⟩)
      · exact hn hi
      · exact ih hi
      · -- The occurrence begins in the name, or else it is all behind it.
        by_cases hnil : e = []
        · rw [hnil, List.nil_append] at he
          rw [← he] at hr
          exact ih hr.isInfix
        · exact apart.ending hnil hs ⟨rest, he.symm⟩
  | there hc h ih =>
      rw [List.infix_cons_iff]
      rintro (hi | hi)
      · exact hc ((there hc h).prefix_of_suffix apart hp (List.suffix_refl _) hi)
      · exact ih hi

end Replaced

/-! ## Filling in twice -/

variable {placeholder : String}

theorem toList_ne_nil (hp : placeholder ≠ "") : placeholder.toList ≠ [] := by
  simpa using hp

theorem replaced_substitute (hp : placeholder ≠ "") (raw name : String) :
    Replaced placeholder.toList name.toList raw.toList
      (substitute raw placeholder name).toList := by
  rw [substitute, if_neg (by simpa using hp), String.toList_ofList]
  exact replaced_replaceFrom (toList_ne_nil hp) _ _

theorem substitute_empty (raw name : String) : substitute raw "" name = raw := rfl

/-- A text is left alone exactly if there is no occurrence in it. -/
theorem substitute_eq_self_iff {name : String} (hp : placeholder ≠ "")
    (hn : contains name placeholder = false) (text : String) :
    substitute text placeholder name = text ↔ contains text placeholder = false := by
  have replaced := replaced_substitute hp text name
  rw [contains_eq_false_iff] at hn ⊢
  constructor
  · intro he
    exact replaced.not_occurs_of_eq_self (toList_ne_nil hp) hn (congrArg String.toList he)
  · intro hi
    exact String.toList_inj.1 (replaced.eq_self hi)

/-- Nothing is left to be replaced if the name and the placeholder do not overlap. -/
theorem contains_substitute {name : String} (hp : placeholder ≠ "")
    (hn : contains name placeholder = false) (apart : Apart name.toList placeholder.toList)
    (raw : String) : contains (substitute raw placeholder name) placeholder = false := by
  rw [contains_eq_false_iff] at hn ⊢
  exact (replaced_substitute hp raw name).not_occurs (toList_ne_nil hp) hn apart

/-- A name whose end is a beginning of the placeholder completes an occurrence with what stands
behind it: what is missing of the placeholder. -/
theorem exists_contains_substitute {name : String} {e : List Char} (he : e ≠ [])
    (hs : e <:+ name.toList) (hp : e <+: placeholder.toList) :
    ∃ raw, contains (substitute raw placeholder name) placeholder = true := by
  obtain ⟨rest, hrest⟩ := hp
  obtain ⟨front, hfront⟩ := hs
  have hne : placeholder.toList ≠ [] := by
    rw [← hrest]
    exact List.append_ne_nil_of_left_ne_nil he rest
  have short : ¬ placeholder.toList <:+: rest := by
    intro hi
    have hle := hi.length_le
    have hpos := List.length_pos_iff.2 he
    rw [← hrest, List.length_append] at hle
    omega
  have unchanged := (replaced_replaceFrom hne name.toList rest).eq_self short
  refine ⟨String.ofList (placeholder.toList ++ rest), ?_⟩
  rw [contains_iff, substitute, if_neg (by simpa using hne), String.toList_ofList,
    String.toList_ofList, replaceFrom_append hne, unchanged, ← hfront, List.append_assoc, hrest]
  exact (List.suffix_append _ _).isInfix

/-! ## Names that share nothing with the placeholder -/

theorem contains_eq_false_of_disjoint {name : String} (hp : placeholder ≠ "")
    (foreign : ∀ c ∈ name.toList, c ∉ placeholder.toList) : contains name placeholder = false := by
  rw [contains_eq_false_iff]
  intro hi
  obtain ⟨c, cs, he⟩ := List.exists_cons_of_ne_nil (toList_ne_nil hp)
  have hc : c ∈ placeholder.toList := he ▸ List.mem_cons_self
  exact foreign c (hi.subset hc) hc

/-- A name that has no character in common with the placeholder leaves no placeholder behind. None
is made anew either: what remains of overlapping occurrences never joins with a name to another one.
So filling in again changes nothing. -/
theorem substitute_leaves_no_placeholder {name : String} (hp : placeholder ≠ "") (hn : name ≠ "")
    (foreign : ∀ c ∈ name.toList, c ∉ placeholder.toList) (raw : String) :
    contains (substitute raw placeholder name) placeholder = false ∧
      substitute (substitute raw placeholder name) placeholder name =
        substitute raw placeholder name := by
  have free := contains_eq_false_of_disjoint hp foreign
  have apart := apart_of_disjoint (toList_ne_nil hn) foreign
  have gone := contains_substitute hp free apart raw
  exact ⟨gone, (substitute_eq_self_iff hp free _).2 gone⟩

theorem substitute_leaves_no_placeholder_overlapping :
    "aba" ≠ "" ∧ "x" ≠ "" ∧ (∀ c ∈ "x".toList, c ∉ "aba".toList) ∧
      substitute "ababa" "aba" "x" = "xba" ∧
      contains (substitute "ababa" "aba" "x") "aba" = false ∧
      substitute (substitute "ababa" "aba" "x") "aba" "x" = substitute "ababa" "aba" "x" := by
  have hp : "aba" ≠ "" := by decide
  have hn : "x" ≠ "" := by decide
  have foreign : ∀ c ∈ "x".toList, c ∉ "aba".toList := by simp
  have replaced : substitute "ababa" "aba" "x" = "xba" := by decide +kernel
  exact ⟨hp, hn, foreign, replaced, substitute_leaves_no_placeholder hp hn foreign "ababa"⟩

end Text

end VisualNovel
