import Mathlib.Data.List.DropRight
import VisualNovel.Proofs.Substitution

/-!
# The name that a player is called by

The player's name stands for the placeholder in everything that is shown. A name that has been taken
is not blank, has no blanks around it and does not hold the placeholder (`Session.NameFits`), which
is meant to make filling it in a thing done once and for all. It does so for every text that comes
out without a placeholder, and for no other. Names that share no end with the placeholder are on the
safe side; a name that ends as the placeholder begins, such as an opening brace, is taken as well,
and is not.
-/

namespace VisualNovel

namespace Text

theorem trimChars_prefix (cs : List Char) : trimChars cs <+: cs.dropWhile isBlankChar :=
  List.rdropWhile_prefix isBlankChar _

/-- Trimming takes off all there is: behind the blanks in front the text goes on as before, and the
blanks at the back are gone for good. -/
theorem trimChars_trimChars (cs : List Char) : trimChars (trimChars cs) = trimChars cs := by
  have front : (trimChars cs).dropWhile isBlankChar = trimChars cs := by
    rw [List.dropWhile_eq_self_iff]
    intro hl
    have hpre := trimChars_prefix cs
    rw [hpre.getElem hl]
    exact List.dropWhile_get_zero_not _ cs (Nat.lt_of_lt_of_le hl hpre.length_le)
  calc trimChars (trimChars cs)
      = ((trimChars cs).dropWhile isBlankChar).rdropWhile isBlankChar := rfl
    _ = (trimChars cs).rdropWhile isBlankChar := by rw [front]
    _ = trimChars cs := List.rdropWhile_idempotent _ _

theorem trim_trim (s : String) : trim (trim s) = trim s := by
  rw [trim, trim, String.toList_ofList, trimChars_trimChars]

end Text

namespace Session

variable {s : Session}

/-- The player's name is one that the session would take. -/
structure NameFits (s : Session) : Prop where
  notBlank : s.profile.name ≠ ""
  trimmed : Text.trim s.profile.name = s.profile.name
  free : s.placeholder ≠ "" → Text.contains s.profile.name s.placeholder = false

/-- A name that is taken fits. -/
theorem nameFits_of_setName {name : String} (h : (s.setName name).value.2 = true) :
    (s.setName name).value.1.NameFits := by
  unfold setName at h ⊢
  dsimp only at h ⊢
  split at h
  · cases h
  · next hb =>
      rw [if_neg hb]
      split at h
      · cases h
      · next hc =>
          rw [if_neg hc]
          refine ⟨fun he => hb ?_, Text.trim_trim name, fun hp => ?_⟩
          · exact String.isEmpty_iff.2 he
          · have hne : s.placeholder.isEmpty = false := String.isEmpty_eq_false_iff.2 hp
            rw [hne, Bool.not_false, Bool.true_and, Bool.not_eq_true] at hc
            exact hc

theorem fillIn_of_placeholder (hp : s.placeholder = "") (raw : String) : s.fillIn raw = raw := by
  rw [fillIn, hp]
  exact Text.substitute_empty raw _

/-- Filling in leaves alone just the texts without the placeholder. -/
theorem NameFits.fillIn_eq_self_iff (fits : s.NameFits) (hp : s.placeholder ≠ "")
    (text : String) : s.fillIn text = text ↔ Text.contains text s.placeholder = false :=
  Text.substitute_eq_self_iff hp (fits.free hp) text

/-- With a name that ends as the placeholder begins there is a text that changes a second time. -/
theorem NameFits.exists_fillIn_ne (fits : s.NameFits) {e : List Char} (he : e ≠ [])
    (hs : e <:+ s.profile.name.toList) (hp : e <+: s.placeholder.toList) :
    ∃ raw, s.fillIn (s.fillIn raw) ≠ s.fillIn raw := by
  have hne : s.placeholder ≠ "" := by
    intro h
    rw [h] at hp
    exact he (List.prefix_nil.1 hp)
  obtain ⟨raw, hraw⟩ := Text.exists_contains_substitute he hs hp
  refine ⟨raw, fun h => ?_⟩
  rw [fits.fillIn_eq_self_iff hne, fillIn, hraw] at h
  cases h

/-- Filling in a name that fits is the same once and twice exactly if the placeholder is gone after
the first time. It is gone for good if the name and the placeholder do not overlap; if the name ends
as the placeholder begins, there is a text in which it is not. -/
theorem fillIn_fillIn_iff (s : Session) (fits : s.NameFits) :
    (∀ raw, s.fillIn (s.fillIn raw) = s.fillIn raw ↔
      s.placeholder = "" ∨ Text.contains (s.fillIn raw) s.placeholder = false) ∧
    (Text.Apart s.profile.name.toList s.placeholder.toList →
      ∀ raw, s.fillIn (s.fillIn raw) = s.fillIn raw) ∧
    ∀ e ≠ [], e <:+ s.profile.name.toList → e <+: s.placeholder.toList →
      ∃ raw, s.fillIn (s.fillIn raw) ≠ s.fillIn raw := by
  refine and_assoc.1 ⟨?_, fun e he hs hp => fits.exists_fillIn_ne he hs hp⟩
  by_cases hp : s.placeholder = ""
  · have same : ∀ raw, s.fillIn (s.fillIn raw) = s.fillIn raw := fun raw =>
      fillIn_of_placeholder hp _
    exact ⟨fun raw => iff_of_true (same raw) (.inl hp), fun _ => same⟩
  · refine ⟨fun raw => ?_, fun apart raw => ?_⟩
    · rw [fits.fillIn_eq_self_iff hp]
      exact ⟨.inr, fun h => h.resolve_left hp⟩
    · rw [fits.fillIn_eq_self_iff hp]
      exact Text.contains_substitute hp (fits.free hp) apart raw

/-- A session without a story, whose player has asked for a name. -/
def named (name : String) : Session := ((new {}).setName name).value.1

theorem fillIn_fillIn_iff_ann :
    (named "Ann").NameFits ∧
      Text.Apart (named "Ann").profile.name.toList (named "Ann").placeholder.toList ∧
      (named "Ann").fillIn "\x7bplayerName\x7d? \x7bplayerName\x7d!" = "Ann? Ann!" ∧
      ∀ raw, (named "Ann").fillIn ((named "Ann").fillIn raw) = (named "Ann").fillIn raw := by
  have fits : (named "Ann").NameFits := nameFits_of_setName (by decide +kernel)
  have name : (named "Ann").profile.name = "Ann" := by decide +kernel
  have placeholder : (named "Ann").placeholder = "\x7bplayerName\x7d" := rfl
  have apart : Text.Apart (named "Ann").profile.name.toList (named "Ann").placeholder.toList := by
    rw [name, placeholder]
    exact Text.apart_of_disjoint (by simp) (by simp)
  exact ⟨fits, apart, by decide +kernel, (fillIn_fillIn_iff _ fits).2.1 apart⟩

/-- An opening brace is taken for a name, and completes a placeholder with what stands behind it. -/
theorem fillIn_not_idempotent :
    ((new {}).setName "\x7b").value.2 = true ∧ (named "\x7b").NameFits ∧
      (named "\x7b").fillIn "\x7bplayerName\x7dplayerName\x7d" = "\x7bplayerName\x7d" ∧
      (named "\x7b").fillIn ((named "\x7b").fillIn "\x7bplayerName\x7dplayerName\x7d") = "\x7b" := by
  have taken : ((new {}).setName "\x7b").value.2 = true := by decide +kernel
  exact ⟨taken, nameFits_of_setName taken, by decide +kernel, by decide +kernel⟩

end Session

end VisualNovel
