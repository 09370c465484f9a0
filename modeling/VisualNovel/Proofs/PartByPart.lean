import Mathlib.Data.List.Forall2
import VisualNovel.Proofs.Filing

/-!
# A story is loaded part by part

Loading a story is loading its parts in order, lists of them and catalogs of them, up to the first
that fails. Where nothing fails each part has been made of the one in its place, and there is
nothing more to a success than that: the equivalences here take a load apart and put it together.
They read alike for a list of objects, for a list of choices, which are counted while they are
loaded, and for a catalog, where the keys stay.

A part fails only for an action token that a strict load refuses (`Refusing`), and it fails for the
first one in it: on its way through a document a load comes by the tokens in a fixed order, and the
order of a whole is that of its parts, one after the other (`Screened`). The start scene is found
missing only after every scene has been loaded.
-/

namespace VisualNovel

open Text (nonBlank)

section Success

variable {ε α β : Type}

theorem bind_eq_ok_iff {x : Except ε α} {f : α → Except ε β} {b : β} :
    (x >>= f) = .ok b ↔ ∃ a, x = .ok a ∧ f a = .ok b := by
  refine ⟨exists_of_bind_eq_ok, ?_⟩
  rintro ⟨a, rfl, h⟩
  exact h

/-- A first part and the rest are loaded one after the other. -/
theorem cons_eq_ok_iff {x : Except ε α} {xs : Except ε (List α)} {as : List α} :
    (do return (← x) :: (← xs)) = Except.ok as ↔
      ∃ a rest, x = .ok a ∧ xs = .ok rest ∧ a :: rest = as := by
  simp only [bind_eq_ok_iff, pure, Except.pure, Except.ok.injEq, exists_and_left]

theorem mapM_eq_ok_iff {f : α → Except ε β} {xs : List α} {ys : List β} :
    xs.mapM f = .ok ys ↔ List.Forall₂ (fun x y => f x = .ok y) xs ys := by
  induction xs generalizing ys with
  | nil => simp [pure, Except.pure, eq_comm]
  | cons x xs ih =>
      rw [List.mapM_cons, cons_eq_ok_iff, List.forall₂_cons_left_iff]
      simp only [ih, eq_comm]

theorem isSome_of_rel {R : α → β → Prop} {a : Option α} {b : Option β} (h : Option.Rel R a b) :
    b.isSome = a.isSome := by
  cases h with
  | some => rfl
  | none => rfl

namespace Catalog

variable {f : String → α → Except ε β}

/-- A catalog is made as the list of its entries is. -/
theorem map_makeEntries (es : List (String × α)) :
    (makeEntries f es).map (·.1) = es.mapM fun e => (f e.1 e.2).map (e.1, ·) := by
  induction es with
  | nil => rfl
  | cons e es ih =>
      rw [makeEntries, List.mapM_cons, ← ih]
      cases f e.1 e.2 with
      | error x => rfl
      | ok value => cases makeEntries f es <;> rfl

theorem map_entries_make (c : Catalog α) :
    (c.make f).map (·.entries) = c.entries.mapM fun e => (f e.1 e.2).map (e.1, ·) := by
  rw [← map_makeEntries, make]
  cases makeEntries f c.entries <;> rfl

theorem entries_inj {c d : Catalog α} : c.entries = d.entries ↔ c = d := by
  refine ⟨fun h => ?_, congrArg _⟩
  cases c
  cases d
  cases h
  rfl

/-- Making a catalog succeeds with the same keys, each with what is made of the value under it. -/
theorem make_eq_ok_iff {c : Catalog α} {made : Catalog β} : c.make f = .ok made ↔
    List.Forall₂ (fun e m => e.1 = m.1 ∧ f e.1 e.2 = .ok m.2) c.entries made.entries := by
  have entries : c.make f = .ok made ↔ (c.make f).map (·.entries) = .ok made.entries := by
    cases c.make f with
    | error x => simp [Except.map]
    | ok other => simp [Except.map, entries_inj]
  have entry : ∀ e : String × α, ∀ m : String × β,
      (f e.1 e.2).map (e.1, ·) = .ok m ↔ e.1 = m.1 ∧ f e.1 e.2 = .ok m.2 := by
    intro e m
    cases f e.1 e.2 with
    | error x => simp [Except.map]
    | ok value => simp [Except.map, Prod.ext_iff]
  rw [entries, map_entries_make, mapM_eq_ok_iff]
  simp only [entry]

/-- What is found in the catalog that has been made is made of what is found in the one before. -/
theorem get?_rel_of_make {c : Catalog α} {made : Catalog β} (h : c.make f = .ok made)
    (key : String) :
    Option.Rel (fun old new => f key old = .ok new) (c.get? key) (made.get? key) := by
  unfold get?
  have entries := make_eq_ok_iff.1 h
  generalize c.entries = es, made.entries = ms at entries
  induction entries with
  | nil => exact .none
  | @cons e m es ms hm _ ih =>
      obtain ⟨same, made⟩ := hm
      rw [lookup_cons_eq_ite, lookup_cons_eq_ite, ← same]
      by_cases hk : key = e.1
      · rw [if_pos hk, if_pos hk]
        exact .some (hk ▸ made)
      · rw [if_neg hk, if_neg hk]
        exact ih

theorem contains_of_make {c : Catalog α} {made : Catalog β} (h : c.make f = .ok made)
    (key : String) : made.contains key = c.contains key := by
  rw [contains_eq_isSome, contains_eq_isSome, isSome_of_rel (get?_rel_of_make h key)]

end Catalog

end Success

/-! ## Tokens, and the first that is refused -/

/-- An action token, and the place of the document that it stands at. -/
structure PlacedToken where
  location : Location
  token : Option String

/-- Something is written there, and it is no built-in action. -/
def PlacedToken.isForeign (t : PlacedToken) : Bool :=
  (nonBlank t.token).any fun token => (Action.parse? token).isNone

theorem PlacedToken.isForeign_of_unknown {t : PlacedToken} {token : String}
    (written : nonBlank t.token = some token) (unknown : Action.parse? token = none) :
    t.isForeign = true := by
  rw [isForeign, written, Option.any_some, unknown]
  rfl

/-- The tokens of a scene that is filed under the id: its own one, those of its choices, which are
counted from one, and those of its objects. -/
def SceneRecord.tokens (id : String) (r : SceneRecord) : List PlacedToken :=
  ⟨.scene id, r.action⟩ ::
    ((r.choices.zipIdx 1).map fun c => ⟨.choice c.2 id, c.1.action⟩) ++
      r.objects.map fun o => ⟨.object o.id id, o.action⟩

/-- The tokens of a story, scene by scene in the order of their ids. -/
def StoryRecord.tokens (r : StoryRecord) : List PlacedToken :=
  r.scenes.entries.flatMap fun e => e.2.tokens e.1

/-- What becomes of a part with these tokens. A strict load refuses the first that is foreign, blanks
around it aside, and nothing else makes the part fail. -/
inductive Screened {α : Type} (mode : Strictness) :
    List PlacedToken → Except LoadError α → Prop
  | passed {tokens : List PlacedToken} {a : α}
      (h : mode = .strict → ∀ t ∈ tokens, t.isForeign = false) : Screened mode tokens (.ok a)
  | refused {before after : List PlacedToken} {t : PlacedToken} {token : String}
      (strict : mode = .strict) (h : ∀ t ∈ before, t.isForeign = false)
      (written : nonBlank t.token = some token) (unknown : Action.parse? token = none) :
      Screened mode (before ++ t :: after) (.error (.invalidAction t.location token))

/-- If it fails, then for an action token that is refused. -/
def Refusing {α : Type} (x : Except LoadError α) : Prop :=
  ∀ error, x = .error error → ∃ location token, error = .invalidAction location token

namespace Screened

variable {α β : Type} {mode : Strictness} {tokens later : List PlacedToken}
  {x : Except LoadError α}

/-- Something without tokens. -/
theorem done {a : α} : Screened mode [] (.ok a) := .passed fun _ _ h => absurd h List.not_mem_nil

theorem bind {f : α → Except LoadError β} (hx : Screened mode tokens x)
    (hf : ∀ a, Screened mode later (f a)) : Screened mode (tokens ++ later) (x >>= f) := by
  cases hx with
  | @passed _ a h =>
      have rest := hf a
      show Screened mode (tokens ++ later) (f a)
      generalize f a = made at rest
      cases rest with
      | passed h' =>
          exact .passed fun strict => List.forall_mem_append.2 ⟨h strict, h' strict⟩
      | refused strict h' written unknown =>
          rw [← List.append_assoc]
          exact .refused strict (List.forall_mem_append.2 ⟨h strict, h'⟩) written unknown
  | refused strict h written unknown =>
      rw [List.append_assoc, List.cons_append]
      exact .refused strict h written unknown

/-- Something is made of a part. -/
theorem map {f : α → β} (hx : Screened mode tokens x) :
    Screened mode tokens (do return f (← x)) := by
  have made : Screened mode (tokens ++ []) (do return f (← x)) := hx.bind fun _ => .done
  rwa [List.append_nil] at made

theorem mapM {f : β → Except LoadError α} {own : β → List PlacedToken}
    (h : ∀ b, Screened mode (own b) (f b)) (bs : List β) :
    Screened mode (bs.flatMap own) (bs.mapM f) := by
  induction bs with
  | nil => exact .done
  | cons b bs ih =>
      rw [List.mapM_cons, List.flatMap_cons]
      exact (h b).bind fun a => ih.map

theorem makeEntries {f : String → β → Except LoadError α} {own : String → β → List PlacedToken}
    (h : ∀ key b, Screened mode (own key b) (f key b)) (es : List (String × β)) :
    Screened mode (es.flatMap fun e => own e.1 e.2) (Catalog.makeEntries f es) := by
  induction es with
  | nil => exact .done
  | cons e es ih =>
      rw [Catalog.makeEntries, List.flatMap_cons]
      exact (h e.1 e.2).bind fun value => ih.map

theorem make {f : String → β → Except LoadError α} {own : String → β → List PlacedToken}
    (h : ∀ key b, Screened mode (own key b) (f key b)) (c : Catalog β) :
    Screened mode (c.entries.flatMap fun e => own e.1 e.2) (c.make f) :=
  (makeEntries h c.entries).map

theorem ok_iff (h : Screened mode tokens x) :
    (∃ a, x = .ok a) ↔ (mode = .strict → ∀ t ∈ tokens, t.isForeign = false) := by
  cases h with
  | passed h => exact iff_of_true ⟨_, rfl⟩ h
  | @refused _ _ t token strict _ written unknown =>
      refine iff_of_false (by rintro ⟨a, ha⟩; cases ha) fun passes => ?_
      have foreign := PlacedToken.isForeign_of_unknown written unknown
      rw [passes strict t (List.mem_append_right _ List.mem_cons_self)] at foreign
      cases foreign

theorem error_iff (h : Screened mode tokens x) {error : LoadError} :
    x = .error error ↔ mode = .strict ∧ ∃ t token, tokens.find? (·.isForeign) = some t ∧
      nonBlank t.token = some token ∧ error = .invalidAction t.location token := by
  cases h with
  | passed h =>
      refine iff_of_false (fun he => by cases he) ?_
      rintro ⟨strict, t, token, first, -⟩
      have native := h strict t (List.mem_of_find?_eq_some first)
      rw [List.find?_some first] at native
      cases native
  | @refused before after t token strict h written unknown =>
      have foreign := PlacedToken.isForeign_of_unknown written unknown
      have first : (before ++ t :: after).find? (·.isForeign) = some t :=
        List.find?_eq_some_iff_append.2 ⟨foreign, before, after, rfl, by simpa using h⟩
      rw [first, Except.error.injEq]
      constructor
      · rintro rfl
        exact ⟨strict, t, token, rfl, written, rfl⟩
      · rintro ⟨-, t', token', ht, written', rfl⟩
        cases ht
        cases written.symm.trans written'
        rfl

theorem refusing (h : Screened mode tokens x) : Refusing x := by
  intro error he
  obtain ⟨-, t, token, -, -, he⟩ := h.error_iff.1 he
  exact ⟨_, _, he⟩

end Screened

/-! ## The parts of a story -/

section Parts

variable {mode : Strictness} {scene : String}

/-- The place of a token is told of only if the token is refused. -/
theorem loadAction_eq_ok_anywhere {location : Location} {token : Option String}
    {action : Option Action} (h : loadAction mode location token = .ok action)
    (other : Location) : loadAction mode other token = .ok action := by
  unfold loadAction at h ⊢
  split at h
  · exact h
  · exact h
  · split at h
    · exact h
    · cases h

/-- What a choice is loaded as does not depend on its number. -/
theorem ChoiceRecord.toChoice_eq_ok_iff {r : ChoiceRecord} {choice : Choice} {number : Nat} :
    r.toChoice mode scene number = .ok choice ↔
      ∀ number, r.toChoice mode scene number = .ok choice := by
  refine ⟨fun h other => ?_, fun h => h number⟩
  obtain ⟨action, ha, h⟩ := exists_of_bind_eq_ok h
  exact bind_eq_ok_iff.2 ⟨action, loadAction_eq_ok_anywhere ha _, h⟩

/-- Choices are counted while they are loaded, and it makes no difference to what they are loaded
as. -/
theorem loadChoices_eq_ok_iff {rs : List ChoiceRecord} {choices : List Choice} {number : Nat} :
    loadChoices mode scene number rs = .ok choices ↔
      List.Forall₂ (fun r choice => ∀ number, r.toChoice mode scene number = .ok choice)
        rs choices := by
  induction rs generalizing number choices with
  | nil => simp [loadChoices, eq_comm]
  | cons r rs ih =>
      have first (choice : Choice) : r.toChoice mode scene number = .ok choice ↔
          ∀ number, r.toChoice mode scene number = .ok choice := r.toChoice_eq_ok_iff
      rw [loadChoices, cons_eq_ok_iff, List.forall₂_cons_left_iff]
      simp only [ih, first, @eq_comm (List Choice)]

/-- A scene is loaded exactly if its own action, its choices and its objects are. -/
theorem SceneRecord.toScene_eq_ok_iff {id : String} {r : SceneRecord} {loaded : Scene} :
    r.toScene mode id = .ok loaded ↔ ∃ action choices objects,
      loadAction mode (.scene id) r.action = .ok action ∧
      loadChoices mode id 1 r.choices = .ok choices ∧
      r.objects.mapM (·.toObject mode id) = .ok objects ∧ loaded = {
        id
        dialogue := r.dialogue.map (·.toLine)
        choices
        objects
        autoTransition := nonBlank r.autoTransition
        outcome := nonBlank r.outcome
        action
        endingTitle := nonBlank r.endingTitle
        text := r.text
        image := nonBlank r.image
        music := nonBlank r.music } := by
  unfold toScene
  constructor
  · intro h
    obtain ⟨action, ha, h⟩ := exists_of_bind_eq_ok h
    obtain ⟨choices, hc, h⟩ := exists_of_bind_eq_ok h
    obtain ⟨objects, ho, h⟩ := exists_of_bind_eq_ok h
    cases h
    exact ⟨action, choices, objects, ha, hc, ho, rfl⟩
  · rintro ⟨action, choices, objects, ha, hc, ho, rfl⟩
    rw [ha, hc, ho]
    rfl

theorem loadAction_screened (location : Location) (token : Option String) :
    Screened mode [⟨location, token⟩] (loadAction mode location token) := by
  unfold loadAction
  split
  · next blank =>
      refine .passed fun _ => List.forall_mem_singleton.2 ?_
      rw [PlacedToken.isForeign, blank]
      rfl
  · exact .passed fun strict => by cases strict
  · next token written =>
      split
      · next action known =>
          refine .passed fun _ => List.forall_mem_singleton.2 ?_
          rw [PlacedToken.isForeign, written]
          simp [known]
      · next unknown =>
          have first : ∀ t ∈ ([] : List PlacedToken), t.isForeign = false := List.forall_mem_nil _
          exact .refused rfl first written unknown

theorem loadChoices_screened (rs : List ChoiceRecord) : ∀ number,
    Screened mode ((rs.zipIdx number).map fun c => ⟨.choice c.2 scene, c.1.action⟩)
      (loadChoices mode scene number rs) := by
  induction rs with
  | nil => exact fun _ => .done
  | cons r rs ih =>
      intro number
      rw [loadChoices, List.zipIdx_cons, List.map_cons, ← List.singleton_append]
      have first : Screened mode [⟨.choice number scene, r.action⟩]
          (r.toChoice mode scene number) := (loadAction_screened _ _).map
      exact first.bind fun choice => (ih (number + 1)).map

theorem SceneRecord.toScene_screened (id : String) (r : SceneRecord) :
    Screened mode (r.tokens id) (r.toScene mode id) := by
  have object (o : ObjectRecord) : Screened mode [⟨.object o.id id, o.action⟩]
      (o.toObject mode id) := (loadAction_screened _ _).map
  unfold toScene tokens
  rw [List.cons_append, ← List.singleton_append, List.map_eq_flatMap (l := r.objects)]
  exact (loadAction_screened _ _).bind fun action =>
    (loadChoices_screened _ _).bind fun choices => (Screened.mapM object _).map

end Parts

namespace StoryRecord

variable {mode : Strictness} {r : StoryRecord}

/-- A story is loaded exactly if all its scenes are and the start scene is one of them. -/
theorem toStory_eq_ok_iff {story : Story} : r.toStory mode = .ok story ↔
    ∃ start scenes, nonBlank r.start = some start ∧
      r.scenes.make (fun id scene => scene.toScene mode id) = .ok scenes ∧
      scenes.contains start = true ∧ story = {
        title := r.title
        start
        placeholder := (r.placeholder.filter (!Text.isBlank ·)).getD Story.defaultPlaceholder
        scenes
        outcomes := r.outcomes.map fun _ outcome => outcome.toOutcome } := by
  unfold toStory
  constructor
  · intro h
    split at h
    · next start hstart =>
        obtain ⟨scenes, hs, h⟩ := exists_of_bind_eq_ok h
        split at h
        · cases h
        · next hc =>
            cases h
            exact ⟨start, scenes, hstart, hs, by simpa using hc, rfl⟩
    · cases h
  · rintro ⟨start, scenes, hstart, hs, hc, rfl⟩
    rw [hstart]
    refine bind_eq_ok_iff.2 ⟨scenes, hs, ?_⟩
    rw [hc]
    rfl

theorem scenes_screened (r : StoryRecord) :
    Screened mode r.tokens (r.scenes.make fun id scene => scene.toScene mode id) :=
  Screened.make (fun id scene => scene.toScene_screened id) r.scenes

/-- The start scene is missed exactly if it is named, every scene loads, and it is none of them. -/
theorem toStory_eq_undefined_iff {id : String} :
    r.toStory mode = .error (.undefinedStartScene id) ↔
      nonBlank r.start = some id ∧ r.scenes.contains id = false ∧
        ∃ scenes, r.scenes.make (fun id scene => scene.toScene mode id) = .ok scenes := by
  unfold toStory
  constructor
  · intro h
    split at h
    · next start hstart =>
        cases hs : r.scenes.make (fun id scene => scene.toScene mode id) with
        | error e =>
            -- A scene that does not load fails in another way.
            obtain ⟨location, token, rfl⟩ := r.scenes_screened.refusing e hs
            rw [hs] at h
            cases h
        | ok scenes =>
            have keys := Catalog.contains_of_make hs start
            rw [hs] at h
            dsimp only [bind, Except.bind] at h
            split at h
            · next hc =>
                cases h
                exact ⟨hstart, by simpa [keys] using hc, scenes, rfl⟩
            · cases h
    · cases h
  · rintro ⟨hstart, hc, scenes, hs⟩
    rw [hstart, hs]
    have missing : scenes.contains id = false := (Catalog.contains_of_make hs id).trans hc
    show (if !scenes.contains id then _ else _) = _
    rw [missing]
    rfl

end StoryRecord

end VisualNovel
