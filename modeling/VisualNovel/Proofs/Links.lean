import VisualNovel.Proofs.PartByPart
import VisualNovel.Proofs.Tokens

/-!
# Links are found under their trimmed text

A document names scenes and outcomes in six kinds of places, the start scene being one. Loading
trims what stands there, and leaves the ids that scenes and outcomes are filed under as they are. So
a link leads to what is filed under its trimmed text. A link that is written just like an id leads
there if the id has no blanks around it. If it has, the link leads to something else or nowhere; no
link at all leads there then, and a document that starts in such a scene may not load.

A link is read after looking up where it stands, for a choice in a list within a catalog. So it is
shown of each look-up that both sides find something or neither does (`Option.Rel`).
-/

namespace VisualNovel

open Text (nonBlank)

/-- A place of a document at which a scene or an outcome may be named. -/
inductive LinkPlace
  | start
  | autoTransition (scene : String)
  | sceneOutcome (scene : String)
  /-- The choice is counted from zero. -/
  | choiceNext (scene : String) (index : Nat)
  | choiceOutcome (scene : String) (index : Nat)
  | outcomeNext (outcome : String)
  deriving DecidableEq

/-- Whether outcomes, not scenes, are named there. -/
def LinkPlace.namesOutcome : LinkPlace → Bool
  | sceneOutcome _ | choiceOutcome _ _ => true
  | _ => false

namespace StoryRecord

def choice? (r : StoryRecord) (scene : String) (index : Nat) : Option ChoiceRecord :=
  (r.scenes.get? scene).bind (·.choices[index]?)

/-- The link as it is written. -/
def link? (r : StoryRecord) : LinkPlace → Option String
  | .start => r.start
  | .autoTransition scene => (r.scenes.get? scene).bind (·.autoTransition)
  | .sceneOutcome scene => (r.scenes.get? scene).bind (·.outcome)
  | .choiceNext scene index => (r.choice? scene index).bind (·.next)
  | .choiceOutcome scene index => (r.choice? scene index).bind (·.outcome)
  | .outcomeNext outcome => (r.outcomes.get? outcome).bind (·.next)

/-- Whether something of the kind that is named at the place is filed under the id. -/
def defines (r : StoryRecord) (place : LinkPlace) (id : String) : Bool :=
  if place.namesOutcome then r.outcomes.contains id else r.scenes.contains id

end StoryRecord

namespace Story

def choice? (s : Story) (scene : String) (index : Nat) : Option Choice :=
  (s.scene? scene).bind (·.choices[index]?)

/-- The link as the story has it. -/
def link? (s : Story) : LinkPlace → Option String
  | .start => some s.start
  | .autoTransition scene => (s.scene? scene).bind (·.autoTransition)
  | .sceneOutcome scene => (s.scene? scene).bind (·.outcome)
  | .choiceNext scene index => (s.choice? scene index).bind (·.next)
  | .choiceOutcome scene index => (s.choice? scene index).bind (·.outcome)
  | .outcomeNext outcome => (s.outcome? outcome).bind (·.next)

/-- Whether looking up what is named at the place finds something under the id. -/
def finds (s : Story) (place : LinkPlace) (id : String) : Bool :=
  if place.namesOutcome then (s.outcome? id).isSome else (s.scene? id).isSome

/-- The id under which following the link finds a scene or an outcome. -/
def leadsTo? (s : Story) (place : LinkPlace) : Option String :=
  (s.link? place).filter (s.finds place)

end Story

/-! ## Looking up on both sides -/

section Rel

variable {α β γ δ : Type} {R : α → β → Prop}

theorem rel_bind {S : γ → δ → Prop} {f : α → Option γ} {g : β → Option δ} {a : Option α}
    {b : Option β} (h : Option.Rel R a b) (hs : ∀ x y, R x y → Option.Rel S (f x) (g y)) :
    Option.Rel S (a.bind f) (b.bind g) := by
  cases h with
  | some h => exact hs _ _ h
  | none => exact .none

theorem rel_getElem? {as : List α} {bs : List β} (h : List.Forall₂ R as bs) (index : Nat) :
    Option.Rel R as[index]? bs[index]? := by
  induction h generalizing index with
  | nil => exact .none
  | cons h _ ih =>
      cases index with
      | zero => exact .some h
      | succ index => simpa using ih index

/-- If each part has its link trimmed, then what is found has. -/
theorem bind_eq_nonBlank_bind {f : α → Option String} {g : β → Option String} {a : Option α}
    {b : Option β} (h : Option.Rel R a b) (hs : ∀ x y, R x y → g y = nonBlank (f x)) :
    b.bind g = nonBlank (a.bind f) := by
  cases h with
  | some h => exact hs _ _ h
  | none => rfl

end Rel

section Loaded

variable {mode : Strictness} {id : String}

theorem ChoiceRecord.links_of_toChoice {r : ChoiceRecord} {number : Nat} {choice : Choice}
    (h : r.toChoice mode id number = .ok choice) :
    choice.next = nonBlank r.next ∧ choice.outcome = nonBlank r.outcome := by
  obtain ⟨action, -, h⟩ := exists_of_bind_eq_ok h
  cases h
  exact ⟨rfl, rfl⟩

theorem SceneRecord.links_of_toScene {r : SceneRecord} {scene : Scene}
    (h : r.toScene mode id = .ok scene) :
    scene.autoTransition = nonBlank r.autoTransition ∧ scene.outcome = nonBlank r.outcome ∧
      List.Forall₂ (fun r choice => ∀ number, r.toChoice mode id number = .ok choice)
        r.choices scene.choices := by
  obtain ⟨action, choices, objects, -, hc, -, rfl⟩ := toScene_eq_ok_iff.1 h
  exact ⟨rfl, rfl, loadChoices_eq_ok_iff.1 hc⟩

end Loaded

namespace StoryRecord

variable {mode : Strictness} {r : StoryRecord} {story : Story}

section Loaded

variable (h : r.toStory mode = .ok story)

include h

theorem scene?_rel (id : String) : Option.Rel (fun old new => old.toScene mode id = .ok new)
    (r.scenes.get? id) (story.scene? id) := by
  obtain ⟨start, scenes, -, hs, -, rfl⟩ := toStory_eq_ok_iff.1 h
  exact Catalog.get?_rel_of_make hs id

theorem outcome?_rel (id : String) : Option.Rel (fun old new => old.toOutcome = new)
    (r.outcomes.get? id) (story.outcome? id) := by
  obtain ⟨start, scenes, -, -, -, rfl⟩ := toStory_eq_ok_iff.1 h
  rw [Story.outcome?, Catalog.get?_map]
  cases r.outcomes.get? id with
  | none => exact .none
  | some outcome => exact .some rfl

theorem choice?_rel (scene : String) (index : Nat) :
    Option.Rel (fun old new => ∀ number, old.toChoice mode scene number = .ok new)
      (r.choice? scene index) (story.choice? scene index) :=
  rel_bind (scene?_rel h scene) fun _ _ made =>
    rel_getElem? (SceneRecord.links_of_toScene made).2.2 index

/-- A link of a loaded story is the link of the document, trimmed. -/
theorem link?_of_toStory (place : LinkPlace) : story.link? place = nonBlank (r.link? place) := by
  cases place with
  | start =>
      obtain ⟨start, scenes, hstart, -, -, rfl⟩ := toStory_eq_ok_iff.1 h
      exact hstart.symm
  | autoTransition scene =>
      exact bind_eq_nonBlank_bind (scene?_rel h scene) fun _ _ made =>
        (SceneRecord.links_of_toScene made).1
  | sceneOutcome scene =>
      exact bind_eq_nonBlank_bind (scene?_rel h scene) fun _ _ made =>
        (SceneRecord.links_of_toScene made).2.1
  | choiceNext scene index =>
      exact bind_eq_nonBlank_bind (choice?_rel h scene index) fun _ _ made =>
        (ChoiceRecord.links_of_toChoice (made 1)).1
  | choiceOutcome scene index =>
      exact bind_eq_nonBlank_bind (choice?_rel h scene index) fun _ _ made =>
        (ChoiceRecord.links_of_toChoice (made 1)).2
  | outcomeNext outcome =>
      exact bind_eq_nonBlank_bind (outcome?_rel h outcome) fun _ _ made => made ▸ rfl

/-- What is defined is found in the loaded story, and nothing else is. -/
theorem finds_of_toStory (place : LinkPlace) (id : String) :
    story.finds place id = r.defines place id := by
  rw [Story.finds, defines, Catalog.contains_eq_isSome, Catalog.contains_eq_isSome,
    isSome_of_rel (scene?_rel h id), isSome_of_rel (outcome?_rel h id)]

end Loaded

/-- A link that is written just like the id of something defined leads to it exactly if the id has
no blanks around it. The start scene is found missing exactly if all scenes are loaded and nothing
is filed under its trimmed id. -/
theorem leadsTo?_iff_trim_eq {place : LinkPlace} {id : String} (written : r.link? place = some id)
    (notBlank : Text.isBlank id = false) (defined : r.defines place id = true) :
    (∀ story, r.toStory mode = .ok story →
      story.link? place = some (Text.trim id) ∧
        (story.leadsTo? place = some id ↔ Text.trim id = id)) ∧
    (place = .start → ∀ missing, r.toStory mode = .error (.undefinedStartScene missing) ↔
      missing = Text.trim id ∧ r.scenes.contains missing = false ∧
        ∃ scenes, r.scenes.make (fun id scene => scene.toScene mode id) = .ok scenes) := by
  have trimmed : nonBlank (some id) = some (Text.trim id) :=
    Text.nonBlank_eq_some_iff.2 ⟨id, rfl, notBlank, rfl⟩
  constructor
  · intro story h
    have link : story.link? place = some (Text.trim id) := by
      rw [link?_of_toStory h, written, trimmed]
    refine ⟨link, ?_⟩
    rw [Story.leadsTo?, link, Option.filter_eq_some_iff, Option.some.injEq, finds_of_toStory h]
    exact and_iff_left defined
  · rintro rfl missing
    have start : r.start = some id := written
    rw [toStory_eq_undefined_iff, start, trimmed, Option.some.injEq, eq_comm]

/-- A document in which the hall leads to the attic and back to itself. The attic has blanks around
its id. -/
def attic : StoryRecord :=
  { start := some "hall"
    scenes := .ofList
      [("hall", { choices := [{ next := some " attic " }, { next := some "hall" }] }),
        (" attic ", {})] }

theorem leadsTo?_iff_trim_eq_attic :
    attic.link? (.choiceNext "hall" 1) = some "hall" ∧ Text.isBlank "hall" = false ∧
      attic.defines (.choiceNext "hall" 1) "hall" = true ∧
      ∃ story, attic.toStory .strict = .ok story ∧
        story.leadsTo? (.choiceNext "hall" 1) = some "hall" := by
  have written : attic.link? (.choiceNext "hall" 1) = some "hall" := by decide +kernel
  have notBlank : Text.isBlank "hall" = false := by decide +kernel
  have defined : attic.defines (.choiceNext "hall" 1) "hall" = true := by decide +kernel
  obtain ⟨story, h⟩ : ∃ story, attic.toStory .strict = .ok story := ⟨_, rfl⟩
  have trimmed : Text.trim "hall" = "hall" := by decide +kernel
  have found := ((leadsTo?_iff_trim_eq written notBlank defined).1 story h).2.2 trimmed
  exact ⟨written, notBlank, defined, story, h, found⟩

/-- The link to the attic is written as its id and leads nowhere, and with the attic to start in the
document does not load. -/
theorem exists_link_written_as_id_not_found :
    Text.isBlank " attic " = false ∧
      (attic.link? (.choiceNext "hall" 0) = some " attic " ∧
        attic.defines (.choiceNext "hall" 0) " attic " = true ∧
        ∃ story, attic.toStory .strict = .ok story ∧
          story.leadsTo? (.choiceNext "hall" 0) = none) ∧
      attic.scenes.contains " attic " = true ∧
      { attic with start := some " attic " }.toStory .strict =
        .error (.undefinedStartScene "attic") := by
  have notBlank : Text.isBlank " attic " = false := by decide +kernel
  have written : attic.link? (.choiceNext "hall" 0) = some " attic " := by decide +kernel
  have defined : attic.defines (.choiceNext "hall" 0) " attic " = true := by decide +kernel
  have inStory : attic.scenes.contains " attic " = true := by decide +kernel
  exact ⟨notBlank, ⟨written, defined, _, rfl, by decide +kernel⟩, inStory, rfl⟩

end StoryRecord

end VisualNovel
