import VisualNovel.Proofs.PartByPart
import VisualNovel.Proofs.Tokens

/-!
# The stories that come out of loading

Loading tidies a document up: what names something is trimmed or dropped, an object without a name
gets one, a scene gets the id it is filed under, and the placeholder is never blank. A story in
which all this has been done is `Story.Orderly`, and those are all the stories that ever come out.

Every part has its own notion of being orderly. One half is read off the conversions, part by part.
For the other half an orderly story is written out as it stands, each action as its token, and
loaded again: every conversion gives back the part that was written. So loading what has been loaded
before changes nothing. A strict load differs in that no custom action comes through.
-/

namespace VisualNovel

open Text (nonBlank BareIfAny)

/-! ## Writing a story out

The record of a part holds it as it stands. Only actions become tokens. -/

def Line.toRecord (l : Line) : LineRecord :=
  { speaker := l.speaker, line := l.text, portrait := l.portrait, style := l.style }

def Choice.toRecord (c : Choice) : ChoiceRecord :=
  { text := c.text
    next := c.next
    outcome := c.outcome
    action := c.action.map (·.token)
    requiredFlag := c.requiredFlag
    requiredItem := c.requiredItem }

def SceneObject.toRecord (o : SceneObject) : ObjectRecord :=
  { id := o.id
    name := o.name
    image := o.image
    x := o.x
    y := o.y
    requiredItem := o.requiredItem
    action := o.action.map (·.token)
    yields := o.yields
    consumed := o.consumed }

def Outcome.toRecord (o : Outcome) : OutcomeRecord :=
  { message := o.message, next := o.next, image := o.image, audio := o.audio }

def Scene.toRecord (s : Scene) : SceneRecord :=
  { id := some s.id
    dialogue := s.dialogue.map (·.toRecord)
    choices := s.choices.map (·.toRecord)
    autoTransition := s.autoTransition
    outcome := s.outcome
    action := s.action.map (·.token)
    endingTitle := s.endingTitle
    text := s.text
    image := s.image
    music := s.music
    objects := s.objects.map (·.toRecord) }

def Story.toRecord (s : Story) : StoryRecord :=
  { title := s.title
    start := some s.start
    placeholder := some s.placeholder
    scenes := s.scenes.map fun _ scene => scene.toRecord
    outcomes := s.outcomes.map fun _ outcome => outcome.toRecord }

/-! ## Orderly stories

The names of a part are its own optional texts, those of the parts in it excepted. -/

namespace Line

def names (l : Line) : List (Option String) := [l.speaker, l.portrait, l.style]

def Orderly (l : Line) : Prop := ∀ name ∈ l.names, BareIfAny name

end Line

namespace Choice

def names (c : Choice) : List (Option String) := [c.next, c.outcome, c.requiredFlag, c.requiredItem]

structure Orderly (c : Choice) : Prop where
  names : ∀ name ∈ c.names, BareIfAny name
  action : ∀ a ∈ c.action, a.Nameable

end Choice

namespace SceneObject

def names (o : SceneObject) : List (Option String) := [o.image, o.requiredItem, o.yields]

/-- Neither the id of an object nor its name need be trimmed. -/
structure Orderly (o : SceneObject) : Prop where
  names : ∀ name ∈ o.names, BareIfAny name
  name : o.name ≠ "" ∨ o.name = o.id
  action : ∀ a ∈ o.action, a.Nameable

end SceneObject

namespace Outcome

def names (o : Outcome) : List (Option String) := [o.next, o.image, o.audio]

def Orderly (o : Outcome) : Prop := ∀ name ∈ o.names, BareIfAny name

end Outcome

namespace Scene

/-- The narration is not among them, for it is shown as it is. -/
def names (s : Scene) : List (Option String) :=
  [s.autoTransition, s.outcome, s.endingTitle, s.image, s.music]

structure Orderly (s : Scene) : Prop where
  names : ∀ name ∈ s.names, BareIfAny name
  dialogue : ∀ l ∈ s.dialogue, l.Orderly
  choices : ∀ c ∈ s.choices, c.Orderly
  objects : ∀ o ∈ s.objects, o.Orderly
  action : ∀ a ∈ s.action, a.Nameable

end Scene

/-- A story as loading leaves it. -/
structure Story.Orderly (s : Story) : Prop where
  start : Text.Bare s.start
  start_defined : s.scenes.contains s.start = true
  placeholder : Text.isBlank s.placeholder = false
  filed : s.Filed
  scenes : ∀ scene ∈ s.scenes.values, scene.Orderly
  outcomes : ∀ outcome ∈ s.outcomes.values, outcome.Orderly

/-! ## What is loaded is orderly -/

theorem forall_mem_of_forall₂ {α β : Type} {R : α → β → Prop} {P : β → Prop}
    (hr : ∀ a b, R a b → P b) {as : List α} {bs : List β} (h : List.Forall₂ R as bs) :
    ∀ b ∈ bs, P b := by
  induction h with
  | nil => exact List.forall_mem_nil _
  | cons h _ ih => exact List.forall_mem_cons.2 ⟨hr _ _ h, ih⟩

theorem forall_mem_nonBlank (names : List (Option String)) :
    ∀ name ∈ names.map nonBlank, BareIfAny name :=
  List.forall_mem_map.2 fun name _ => Text.bareIfAny_nonBlank name

theorem LineRecord.orderly_toLine (r : LineRecord) : r.toLine.Orderly :=
  forall_mem_nonBlank [r.speaker, r.portrait, r.style]

theorem OutcomeRecord.orderly_toOutcome (r : OutcomeRecord) : r.toOutcome.Orderly :=
  forall_mem_nonBlank [r.next, r.image, r.audio]

section Loaded

variable {id : String}

theorem nameable_of_loadAction {location : Location} {token : Option String}
    {action : Option Action} (h : loadAction .lenient location token = .ok action) :
    ∀ a ∈ action, a.Nameable := by
  unfold loadAction at h
  split at h
  · cases h
    exact fun a ha => nomatch ha
  · next _ _ token ht _ =>
      cases h
      have bare : Text.Bare token := Text.bareIfAny_nonBlank _ token ht
      exact fun a ha => Action.nameable_of_parse bare.isBlank_eq (Option.mem_some.1 ha)
  · next mode => cases mode

theorem ChoiceRecord.orderly_of_toChoice {r : ChoiceRecord} {number : Nat} {choice : Choice}
    (h : r.toChoice .lenient id number = .ok choice) : choice.Orderly := by
  obtain ⟨action, ha, h⟩ := exists_of_bind_eq_ok h
  cases h
  exact ⟨forall_mem_nonBlank [r.next, r.outcome, r.requiredFlag, r.requiredItem],
    nameable_of_loadAction ha⟩

theorem ObjectRecord.orderly_of_toObject {r : ObjectRecord} {object : SceneObject}
    (h : r.toObject .lenient id = .ok object) : object.Orderly := by
  obtain ⟨action, ha, h⟩ := exists_of_bind_eq_ok h
  cases h
  refine ⟨forall_mem_nonBlank [r.image, r.requiredItem, r.yields], ?_, nameable_of_loadAction ha⟩
  show (if r.name.isEmpty then r.id else r.name) ≠ "" ∨
    (if r.name.isEmpty then r.id else r.name) = r.id
  split
  · exact .inr rfl
  · next hn => exact .inl fun he => hn (String.isEmpty_iff.2 he)

theorem SceneRecord.orderly_of_toScene {r : SceneRecord} {scene : Scene}
    (h : r.toScene .lenient id = .ok scene) : scene.Orderly := by
  obtain ⟨action, choices, objects, ha, hc, ho, rfl⟩ := toScene_eq_ok_iff.1 h
  have madeChoices := loadChoices_eq_ok_iff.1 hc
  have madeObjects := mapM_eq_ok_iff.1 ho
  refine
    { names := forall_mem_nonBlank [r.autoTransition, r.outcome, r.endingTitle, r.image, r.music]
      dialogue := List.forall_mem_map.2 fun l _ => l.orderly_toLine
      choices := ?_
      objects := ?_
      action := nameable_of_loadAction ha }
  · exact forall_mem_of_forall₂ (fun _ _ h => ChoiceRecord.orderly_of_toChoice (h 1)) madeChoices
  · exact forall_mem_of_forall₂ (fun _ _ h => ObjectRecord.orderly_of_toObject h) madeObjects

end Loaded

theorem StoryRecord.isBlank_placeholder (r : StoryRecord) : Text.isBlank
    ((r.placeholder.filter (!Text.isBlank ·)).getD Story.defaultPlaceholder) = false := by
  cases h : r.placeholder.filter (!Text.isBlank ·) with
  | none => rfl
  | some placeholder => simpa using (Option.filter_eq_some_iff.1 h).2

theorem StoryRecord.orderly_of_toStory {r : StoryRecord} {story : Story}
    (h : r.toStory .lenient = .ok story) : story.Orderly := by
  have filed := toStory_filed h
  obtain ⟨start, scenes, hstart, hs, hc, rfl⟩ := toStory_eq_ok_iff.1 h
  refine
    { start := Text.bareIfAny_nonBlank _ start hstart
      start_defined := hc
      placeholder := r.isBlank_placeholder
      filed
      scenes := List.forall_mem_map.2 ?_
      outcomes := ?_ }
  · exact forall_mem_of_forall₂ (fun _ _ h => SceneRecord.orderly_of_toScene h.2)
      (Catalog.make_eq_ok_iff.1 hs)
  · refine List.forall_mem_map.2 (List.forall_mem_map.2 fun e _ => ?_)
    exact e.2.orderly_toOutcome

/-! ## What is orderly is loaded again as it is -/

theorem map_eq_self {α : Type} {f : α → α} {as : List α} (h : ∀ a ∈ as, f a = a) : as.map f = as :=
  (List.map_congr_left h).trans (List.map_id' as)

namespace Catalog

variable {α β ε : Type}

/-- Values are found under the key that they stand under. -/
theorem get?_of_mem_entries {c : Catalog α} {e : String × α} (h : e ∈ c.entries) :
    c.get? e.1 = some e.2 := by
  rw [get?]
  have ascending := c.ascending
  generalize c.entries = es at h ascending
  induction es with
  | nil => cases h
  | cons d es ih =>
      obtain ⟨first, ascending⟩ := List.pairwise_cons.1 ascending
      rw [lookup_cons_eq_ite]
      rcases List.mem_cons.1 h with rfl | h
      · rw [if_pos rfl]
      · rw [if_neg (String.ne_of_lt (first e h)).symm]
        exact ih h ascending

theorem make_map_eq_ok {c : Catalog α} {g : String → α → β} {f : String → β → Except ε α}
    (h : ∀ e ∈ c.entries, f e.1 (g e.1 e.2) = .ok e.2) : (c.map g).make f = .ok c := by
  refine make_eq_ok_iff.2 (List.forall₂_map_left_iff.2 (List.forall₂_same.2 fun e he => ?_))
  exact ⟨rfl, h e he⟩

theorem map_map_eq_self {c : Catalog α} {g : String → α → β} {f : String → β → α}
    (h : ∀ e ∈ c.entries, f e.1 (g e.1 e.2) = e.2) : (c.map g).map f = c := by
  refine entries_inj.1 ?_
  show (c.entries.map _).map _ = c.entries
  rw [List.map_map]
  exact map_eq_self fun e he => Prod.ext rfl (h e he)

end Catalog

theorem map_nonBlank_eq_self {names : List (Option String)} (h : ∀ name ∈ names, BareIfAny name) :
    names.map nonBlank = names :=
  map_eq_self fun name hn => (h name hn).nonBlank_eq

theorem loadAction_token {action : Option Action} (h : ∀ a ∈ action, a.Nameable)
    (location : Location) : loadAction .lenient location (action.map (·.token)) = .ok action := by
  cases action with
  | none => rfl
  | some a =>
      have nameable := h a rfl
      have token : nonBlank ((some a).map (·.token)) = some a.token :=
        nameable.bare_token.nonBlank_eq
      unfold loadAction
      rw [token]
      show Except.ok (some (Action.parse a.token)) = .ok (some a)
      rw [nameable.parse_token]

theorem Line.Orderly.toLine_toRecord {l : Line} (h : l.Orderly) : l.toRecord.toLine = l := by
  have names := map_nonBlank_eq_self h
  simp only [Line.names, List.map_cons, List.map_nil, List.cons.injEq, and_true] at names
  obtain ⟨speaker, portrait, style⟩ := names
  simp only [LineRecord.toLine, toRecord, speaker, portrait, style]

theorem Outcome.Orderly.toOutcome_toRecord {o : Outcome} (h : o.Orderly) :
    o.toRecord.toOutcome = o := by
  have names := map_nonBlank_eq_self h
  simp only [Outcome.names, List.map_cons, List.map_nil, List.cons.injEq, and_true] at names
  obtain ⟨next, image, audio⟩ := names
  simp only [OutcomeRecord.toOutcome, toRecord, next, image, audio]

theorem Choice.Orderly.toChoice_toRecord {c : Choice} (h : c.Orderly) (scene : String)
    (number : Nat) : c.toRecord.toChoice .lenient scene number = .ok c := by
  have names := map_nonBlank_eq_self h.names
  simp only [Choice.names, List.map_cons, List.map_nil, List.cons.injEq, and_true] at names
  obtain ⟨next, outcome, requiredFlag, requiredItem⟩ := names
  refine bind_eq_ok_iff.2 ⟨c.action, loadAction_token h.action _, ?_⟩
  simp only [toRecord, next, outcome, requiredFlag, requiredItem]
  rfl

theorem SceneObject.Orderly.toObject_toRecord {o : SceneObject} (h : o.Orderly) (scene : String) :
    o.toRecord.toObject .lenient scene = .ok o := by
  have names := map_nonBlank_eq_self h.names
  simp only [SceneObject.names, List.map_cons, List.map_nil, List.cons.injEq, and_true] at names
  obtain ⟨image, requiredItem, yields⟩ := names
  have name : (if o.toRecord.name.isEmpty then o.toRecord.id else o.toRecord.name) = o.name := by
    show (if o.name.isEmpty then o.id else o.name) = o.name
    split
    · next hn => exact (h.name.resolve_left fun hne => hne (String.isEmpty_iff.1 hn)).symm
    · rfl
  refine bind_eq_ok_iff.2 ⟨o.action, loadAction_token h.action _, ?_⟩
  rw [name]
  simp only [toRecord, image, requiredItem, yields]
  rfl

theorem Scene.Orderly.toScene_toRecord {s : Scene} (h : s.Orderly) :
    s.toRecord.toScene .lenient s.id = .ok s := by
  have names := map_nonBlank_eq_self h.names
  simp only [Scene.names, List.map_cons, List.map_nil, List.cons.injEq, and_true] at names
  obtain ⟨autoTransition, outcome, endingTitle, image, music⟩ := names
  have dialogue : s.toRecord.dialogue.map (·.toLine) = s.dialogue := by
    show (s.dialogue.map _).map _ = s.dialogue
    rw [List.map_map]
    exact map_eq_self fun l hl => (h.dialogue l hl).toLine_toRecord
  have choices : loadChoices .lenient s.id 1 s.toRecord.choices = .ok s.choices :=
    loadChoices_eq_ok_iff.2 (List.forall₂_map_left_iff.2 (List.forall₂_same.2
      fun c hc number => (h.choices c hc).toChoice_toRecord s.id number))
  have objects : s.toRecord.objects.mapM (·.toObject .lenient s.id) = .ok s.objects :=
    mapM_eq_ok_iff.2 (List.forall₂_map_left_iff.2 (List.forall₂_same.2
      fun o ho => (h.objects o ho).toObject_toRecord s.id))
  refine SceneRecord.toScene_eq_ok_iff.2
    ⟨s.action, s.choices, s.objects, loadAction_token h.action _, choices, objects, ?_⟩
  rw [dialogue]
  simp only [toRecord, autoTransition, outcome, endingTitle, image, music]

namespace Story

variable {s : Story}

theorem Orderly.toStory_toRecord (h : s.Orderly) : s.toRecord.toStory .lenient = .ok s := by
  have scenes : s.toRecord.scenes.make (fun id scene => scene.toScene .lenient id) = .ok s.scenes :=
    Catalog.make_map_eq_ok fun e he => by
      -- A scene is written out without its key, and comes back under it with its own id.
      have own : e.2.id = e.1 := h.filed (Catalog.get?_of_mem_entries he)
      rw [← own]
      exact (h.scenes e.2 (List.mem_map_of_mem he)).toScene_toRecord
  have outcomes : (s.toRecord.outcomes.map fun _ outcome => outcome.toOutcome) = s.outcomes := by
    show (s.outcomes.map fun _ outcome => outcome.toRecord).map _ = s.outcomes
    exact Catalog.map_map_eq_self fun e he =>
      (h.outcomes e.2 (List.mem_map_of_mem he)).toOutcome_toRecord
  have placeholder : ((s.toRecord.placeholder.filter (!Text.isBlank ·)).getD
      Story.defaultPlaceholder) = s.placeholder := by
    show ((some s.placeholder).filter _).getD _ = s.placeholder
    rw [Option.filter_some, h.placeholder]
    rfl
  refine StoryRecord.toStory_eq_ok_iff.2
    ⟨s.start, s.scenes, h.start.nonBlank_eq, scenes, h.start_defined, ?_⟩
  rw [outcomes, placeholder]
  rfl

/-- The stories that come out of a lenient load are the orderly ones, a strict load leaves out those
with a custom action, and each story comes out again when it is written out and loaded. -/
theorem exists_toStory_iff_orderly (story : Story) :
    ((∃ r : StoryRecord, r.toStory .lenient = .ok story) ↔ story.Orderly) ∧
    ((∃ r : StoryRecord, r.toStory .strict = .ok story) ↔
      story.Orderly ∧ ∀ action ∈ story.actions, action.isBuiltin = true) ∧
    ∀ mode, (∃ r : StoryRecord, r.toStory mode = .ok story) ↔
      story.toRecord.toStory mode = .ok story := by
  have strict (r : StoryRecord) := r.toStory_agree.ok_iff story
  have image : (∃ r : StoryRecord, r.toStory .lenient = .ok story) ↔ story.Orderly :=
    ⟨fun ⟨_, h⟩ => StoryRecord.orderly_of_toStory h, fun h => ⟨_, h.toStory_toRecord⟩⟩
  refine ⟨image, ⟨?_, ?_⟩, fun mode => ⟨?_, fun h => ⟨_, h⟩⟩⟩
  · rintro ⟨r, h⟩
    obtain ⟨h, builtin⟩ := (strict r).1 h
    exact ⟨StoryRecord.orderly_of_toStory h, builtin⟩
  · rintro ⟨orderly, builtin⟩
    exact ⟨_, (strict _).2 ⟨orderly.toStory_toRecord, builtin⟩⟩
  · rintro ⟨r, h⟩
    cases mode with
    | lenient => exact (StoryRecord.orderly_of_toStory h).toStory_toRecord
    | strict =>
        obtain ⟨h, builtin⟩ := (strict r).1 h
        exact (strict _).2 ⟨(StoryRecord.orderly_of_toStory h).toStory_toRecord, builtin⟩

end Story

end VisualNovel
