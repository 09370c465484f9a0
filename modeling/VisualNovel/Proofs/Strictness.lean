import VisualNovel.Proofs.Filing

/-!
# A strict load takes what a lenient one finds no custom action in

The two ways of loading part at a single point: a token outside the built-in vocabulary is refused
by the one and becomes a custom action for the other. That point is reached from three places, deep
inside catalogs and lists, and the first refusal ends everything, so a strict load may never come
to see what else is wrong with a story. What holds of every part that is loaded, and of the whole in
the end, is `Agree`: both make the same, without custom actions; or both fail alike; or the strict
load refuses a token, and then the lenient one makes nothing that is free of custom actions.

`Agree` is carried through a sequence of computations by `Agree.bind`. Its side condition says that
a part with a custom action never goes into a whole without.
-/

namespace VisualNovel

/-- The actions of a scene: its own, those of its choices and those of its objects. -/
def Scene.actions (s : Scene) : List Action :=
  s.action.toList ++ s.choices.filterMap (·.action) ++ s.objects.filterMap (·.action)

/-- The actions of all scenes of a story. -/
def Story.actions (s : Story) : List Action := s.scenes.values.flatMap (·.actions)

namespace Action

theorem isBuiltin_of_ofVerb? {token : String} {verb : String × (String → Action)} {a : Action}
    (hv : verb ∈ verbs) (h : ofVerb? token verb = some a) : a.isBuiltin = true := by
  unfold ofVerb? at h
  dsimp only at h
  split at h
  · cases h
    simp only [verbs, List.mem_cons, List.not_mem_nil, or_false] at hv
    rcases hv with rfl | rfl | rfl | rfl <;> rfl
  · cases h

/-- The built-in vocabulary has no custom actions in it. -/
theorem isBuiltin_of_parse? {token : String} {a : Action} (h : parse? token = some a) :
    a.isBuiltin = true := by
  obtain ⟨verb, hv, h⟩ := List.exists_of_findSome?_eq_some h
  exact isBuiltin_of_ofVerb? hv h

end Action

/-- What a strict load and a lenient one make of the same thing. `P` says of it that it is free of
custom actions. -/
inductive Agree {α : Type} (P : α → Prop) : Except LoadError α → Except LoadError α → Prop
  | ok {a : α} (h : P a) : Agree P (.ok a) (.ok a)
  | error {e : LoadError} (h : ∀ location token, e ≠ .invalidAction location token) :
      Agree P (.error e) (.error e)
  /-- A token is refused. The lenient load may come across something else that is wrong. -/
  | refused {location : Location} {token : String} {lenient : Except LoadError α}
      (h : ∀ a, lenient = .ok a → ¬ P a) : Agree P (.error (.invalidAction location token)) lenient

namespace Agree

variable {α β γ : Type} {P : α → Prop} {Q : β → Prop} {strict lenient : Except LoadError α}

theorem bind {f g : α → Except LoadError β} (hx : Agree P strict lenient)
    (hf : ∀ a, P a → Agree Q (f a) (g a)) (hg : ∀ a b, g a = .ok b → Q b → P a) :
    Agree Q (strict >>= f) (lenient >>= g) := by
  cases hx with
  | ok h => exact hf _ h
  | error h => exact .error h
  | refused h =>
      refine .refused fun b hb hq => ?_
      obtain ⟨a, ha, hb⟩ := exists_of_bind_eq_ok hb
      exact h a ha (hg a b hb hq)

/-- Something is made of a part. -/
theorem map {f : α → β} (hx : Agree P strict lenient) (hf : ∀ a, Q (f a) ↔ P a) :
    Agree Q (do return f (← strict)) (do return f (← lenient)) := by
  refine hx.bind (fun a ha => .ok ((hf a).2 ha)) fun a b hb hq => ?_
  cases hb
  exact (hf a).1 hq

/-- Something is made of two parts. -/
theorem map₂ {f : α → β → γ} {R : γ → Prop} {strict' lenient' : Except LoadError β}
    (hx : Agree P strict lenient) (hy : Agree Q strict' lenient')
    (hf : ∀ a b, R (f a b) ↔ P a ∧ Q b) :
    Agree R (do return f (← strict) (← strict')) (do return f (← lenient) (← lenient')) := by
  refine hx.bind (fun a ha => hy.map fun b => ?_) fun a c hc hr => ?_
  · rw [hf, and_iff_right ha]
  · obtain ⟨b, -, hc⟩ := exists_of_bind_eq_ok hc
    cases hc
    exact ((hf a b).1 hr).1

theorem ok_iff (h : Agree P strict lenient) (a : α) :
    strict = .ok a ↔ lenient = .ok a ∧ P a := by
  cases h with
  | ok h =>
      refine ⟨fun ha => ?_, And.left⟩
      cases ha
      exact ⟨rfl, h⟩
  | error h =>
      constructor
      · intro ha
        cases ha
      · rintro ⟨ha, -⟩
        cases ha
  | refused h =>
      constructor
      · intro ha
        cases ha
      · rintro ⟨ha, hp⟩
        exact absurd hp (h a ha)

theorem error_eq (h : Agree P strict lenient) {e : LoadError} (he : strict = .error e)
    (hn : ∀ location token, e ≠ .invalidAction location token) : lenient = .error e := by
  cases h with
  | ok h => cases he
  | error h => exact he
  | refused h =>
      cases he
      exact absurd rfl (hn _ _)

/-- The elements of a list are loaded one after the other. -/
theorem mapM {f g : β → Except LoadError α} (h : ∀ b, Agree P (f b) (g b)) (bs : List β) :
    Agree (fun made => ∀ a ∈ made, P a) (bs.mapM f) (bs.mapM g) := by
  induction bs with
  | nil =>
      rw [List.mapM_nil, List.mapM_nil]
      exact .ok fun a ha => absurd ha List.not_mem_nil
  | cons b bs ih =>
      rw [List.mapM_cons, List.mapM_cons]
      exact (h b).map₂ ih fun a made => List.forall_mem_cons

end Agree

namespace Catalog

variable {α β : Type} {P : β → Prop} {f g : String → α → Except LoadError β}

theorem makeEntries_agree (h : ∀ key value, Agree P (f key value) (g key value))
    (es : List (String × α)) :
    Agree (fun made => ∀ e ∈ made.1, P e.2) (makeEntries f es) (makeEntries g es) := by
  induction es with
  | nil => exact .ok fun e he => absurd he List.not_mem_nil
  | cons e es ih =>
      rw [makeEntries, makeEntries]
      exact (h e.1 e.2).map₂ ih fun value made => List.forall_mem_cons

theorem make_agree (h : ∀ key value, Agree P (f key value) (g key value)) (c : Catalog α) :
    Agree (fun made => ∀ value ∈ made.values, P value) (c.make f) (c.make g) := by
  refine (makeEntries_agree h c.entries).map fun made => ?_
  exact List.forall_mem_map

end Catalog

/-! ## The parts of a story -/

theorem loadAction_agree (location : Location) (token : Option String) :
    Agree (fun action => ∀ a ∈ action.toList, a.isBuiltin = true)
      (loadAction .strict location token) (loadAction .lenient location token) := by
  unfold loadAction
  cases Text.nonBlank token with
  | none => exact .ok fun a ha => absurd ha List.not_mem_nil
  | some token =>
      dsimp only
      cases hp : Action.parse? token with
      | some action =>
          rw [Action.parse, hp]
          refine .ok fun a ha => ?_
          rw [List.mem_singleton.1 ha]
          exact Action.isBuiltin_of_parse? hp
      | none =>
          rw [Action.parse, hp]
          refine .refused fun action ha hb => ?_
          cases ha
          cases hb _ List.mem_cons_self

theorem ChoiceRecord.toChoice_agree (scene : String) (number : Nat) (r : ChoiceRecord) :
    Agree (fun c : Choice => ∀ a ∈ c.action.toList, a.isBuiltin = true)
      (r.toChoice .strict scene number) (r.toChoice .lenient scene number) :=
  (loadAction_agree _ _).map fun _ => Iff.rfl

theorem ObjectRecord.toObject_agree (scene : String) (r : ObjectRecord) :
    Agree (fun o : SceneObject => ∀ a ∈ o.action.toList, a.isBuiltin = true)
      (r.toObject .strict scene) (r.toObject .lenient scene) :=
  (loadAction_agree _ _).map fun _ => Iff.rfl

theorem loadChoices_agree (scene : String) (rs : List ChoiceRecord) : ∀ number,
    Agree (fun choices => ∀ c ∈ choices, ∀ a ∈ c.action.toList, a.isBuiltin = true)
      (loadChoices .strict scene number rs) (loadChoices .lenient scene number rs) := by
  induction rs with
  | nil => exact fun _ => .ok fun c hc => absurd hc List.not_mem_nil
  | cons r rs ih =>
      intro number
      rw [loadChoices, loadChoices]
      exact (r.toChoice_agree scene number).map₂ (ih (number + 1)) fun choice choices =>
        List.forall_mem_cons

theorem Scene.forall_mem_actions {s : Scene} {P : Action → Prop} :
    (∀ a ∈ s.actions, P a) ↔ (∀ a ∈ s.action.toList, P a) ∧
      (∀ c ∈ s.choices, ∀ a ∈ c.action.toList, P a) ∧
      (∀ o ∈ s.objects, ∀ a ∈ o.action.toList, P a) := by
  simp only [actions, List.forall_mem_append, List.forall_mem_filterMap, Option.mem_toList,
    and_assoc]

theorem SceneRecord.toScene_agree (id : String) (r : SceneRecord) :
    Agree (fun scene : Scene => ∀ a ∈ scene.actions, a.isBuiltin = true)
      (r.toScene .strict id) (r.toScene .lenient id) := by
  unfold toScene
  refine (loadAction_agree _ _).bind (fun action ha =>
    (loadChoices_agree id r.choices 1).map₂ (Agree.mapM (fun r => r.toObject_agree id) r.objects)
      fun choices objects => ?_) ?_
  · rw [Scene.forall_mem_actions, and_iff_right ha]
  · intro action scene hs hb
    obtain ⟨choices, -, hs⟩ := exists_of_bind_eq_ok hs
    obtain ⟨objects, -, hs⟩ := exists_of_bind_eq_ok hs
    cases hs
    exact (Scene.forall_mem_actions.1 hb).1

/-! ## The whole -/

theorem Story.forall_mem_actions {s : Story} {P : Action → Prop} :
    (∀ a ∈ s.actions, P a) ↔ ∀ scene ∈ s.scenes.values, ∀ a ∈ scene.actions, P a :=
  List.forall_mem_flatMap

theorem StoryRecord.toStory_agree (r : StoryRecord) :
    Agree (fun story : Story => ∀ a ∈ story.actions, a.isBuiltin = true)
      (r.toStory .strict) (r.toStory .lenient) := by
  unfold toStory
  split
  · next start =>
      refine .bind (Catalog.make_agree (fun id r => r.toScene_agree id) r.scenes)
        (fun scenes hs => ?_) ?_
      · split
        · exact .error fun location token he => by cases he
        · exact .ok (Story.forall_mem_actions.2 hs)
      · intro scenes story hs hb
        split at hs
        · cases hs
        · cases hs
          exact Story.forall_mem_actions.1 hb
  · exact .error fun location token he => by cases he

namespace Loaded

theorem ofDocument_agree (document : Json.Document) :
    Agree (fun story : Story => ∀ a ∈ story.actions, a.isBuiltin = true)
      (ofDocument .strict document).result (ofDocument .lenient document).result := by
  unfold ofDocument
  split
  · exact StoryRecord.toStory_agree _
  · exact .error fun location token he => by cases he

/-- A strict load of a text succeeds exactly if a lenient one makes the same story and there is no
custom action anywhere in it. Unless it is for a token that the strict load fails, the lenient one
fails in the same way. -/
theorem ofText_strict_iff (text : String) :
    (∀ story, (ofText .strict text).result = .ok story ↔
      (ofText .lenient text).result = .ok story ∧
        ∀ action ∈ story.actions, action.isBuiltin = true) ∧
    ∀ error, (ofText .strict text).result = .error error →
      (∀ location token, error ≠ .invalidAction location token) →
      (ofText .lenient text).result = .error error := by
  have agree : Agree (fun story : Story => ∀ a ∈ story.actions, a.isBuiltin = true)
      (ofText .strict text).result (ofText .lenient text).result := ofDocument_agree _
  exact ⟨agree.ok_iff, fun error => agree.error_eq⟩

/-- The document of a hall that is entered with an action. -/
def hallEnteredWith (token : String) : String :=
  "\x7b\"startScene\":\"hall\",\"scenes\":\x7b\"hall\":\x7b\"action\":\"" ++ token ++
    "\"\x7d\x7d\x7d"

/-- A built-in action is taken by both loads, any other by the lenient one alone. -/
example :
    (∀ mode, (ofText mode (hallEnteredWith "SET_FLAG_lit")).result.toOption.map (·.actions) =
      some [.setFlag "lit"]) ∧
    (match (ofText .strict (hallEnteredWith "DANCE")).result with
      | .ok _ => none
      | .error e => some e.message) = some "invalid action \"DANCE\" in scene \"hall\"" ∧
    (ofText .lenient (hallEnteredWith "DANCE")).result.toOption.map (·.actions) =
      some [.custom "DANCE"] := by
  refine ⟨fun mode => ?_, by decide +kernel, by decide +kernel⟩
  cases mode <;> decide +kernel

end Loaded

end VisualNovel
