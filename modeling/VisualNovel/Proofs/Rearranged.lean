import VisualNovel.Proofs.Thorough

/-!
# A story does not depend on how its document is arranged

Members of the records of a story may be written in any order, and members that no record knows may
stand among them. `StoryRecord.Rearranged` relates a document to one that has been rearranged so, at
any depth: the story itself, its scenes and outcomes, and the lines, choices and objects of the
scenes. Each kind of record is shown to be read alike from related values, the inner ones first.
What is left to see for each kind is that its fields are independent of each other, and which of
them hold records in their turn.

A name that nobody knows has to be a text all the same. Every name is read before it is known
whether somebody knows it, and an escape can stand for half a character.
-/

namespace VisualNovel

open Json (Decoder Field Format InCatalog InList Preserves RawText Value preserves_eq)

/-! ## Rearranged records -/

def LineRecord.Rearranged : Value → Value → Prop := LineRecord.format.InRecord fun _ => Eq

def ChoiceRecord.Rearranged : Value → Value → Prop := ChoiceRecord.format.InRecord fun _ => Eq

def ObjectRecord.Rearranged : Value → Value → Prop := ObjectRecord.format.InRecord fun _ => Eq

def OutcomeRecord.Rearranged : Value → Value → Prop := OutcomeRecord.format.InRecord fun _ => Eq

/-- The values of which fields of a scene may be rearranged, and how. -/
def SceneRecord.inner : String → Value → Value → Prop
  | "dialogue" => InList LineRecord.Rearranged
  | "choices" => InList ChoiceRecord.Rearranged
  | "interactiveObjects" => InList ObjectRecord.Rearranged
  | _ => Eq

def SceneRecord.Rearranged : Value → Value → Prop := SceneRecord.format.InRecord SceneRecord.inner

/-- The values of which fields of a story may be rearranged, and how. -/
def StoryRecord.inner : String → Value → Value → Prop
  | "scenes" => InCatalog SceneRecord.Rearranged
  | "outcomes" => InCatalog OutcomeRecord.Rearranged
  | _ => Eq

/-- A story that has been rearranged. -/
def StoryRecord.Rearranged : Value → Value → Prop := StoryRecord.format.InRecord StoryRecord.inner

/-! ## Records are read alike -/

theorem LineRecord.fields_commute : LineRecord.format.fields.Pairwise Field.Commute := by
  simp [format]

theorem ChoiceRecord.fields_commute : ChoiceRecord.format.fields.Pairwise Field.Commute := by
  simp [format]

theorem ObjectRecord.fields_commute : ObjectRecord.format.fields.Pairwise Field.Commute := by
  simp [format]

theorem OutcomeRecord.fields_commute : OutcomeRecord.format.fields.Pairwise Field.Commute := by
  simp [format]

theorem SceneRecord.fields_commute : SceneRecord.format.fields.Pairwise Field.Commute := by
  simp [format]

theorem StoryRecord.fields_commute : StoryRecord.format.fields.Pairwise Field.Commute := by
  simp [format]

theorem LineRecord.rearranged_preserves : Preserves Rearranged format.decode :=
  (Format.Orderless.of_commute fields_commute).preserves

theorem ChoiceRecord.rearranged_preserves : Preserves Rearranged format.decode :=
  (Format.Orderless.of_commute fields_commute).preserves

theorem ObjectRecord.rearranged_preserves : Preserves Rearranged format.decode :=
  (Format.Orderless.of_commute fields_commute).preserves

theorem OutcomeRecord.rearranged_preserves : Preserves Rearranged format.decode :=
  (Format.Orderless.of_commute fields_commute).preserves

theorem preserves_of_called {α ρ : Type} {inner : String → Value → Value → Prop} {name : String}
    {decoder : Decoder α} {set : α → ρ → ρ} (h : Preserves (inner name) decoder) (called : String)
    (hc : (Field.of name decoder set []).isCalled called = true) :
    Preserves (inner called) (Field.of name decoder set []).read := by
  have same : name = called := by simpa [Field.isCalled, Field.of] using hc
  rw [← same]
  exact Field.preserves_of h

theorem SceneRecord.orderless : format.Orderless inner where
  commute := fields_commute
  read := by
    simp only [format, List.forall_mem_cons]
    refine ⟨?id, ?dialogue, ?choices, ?autoTransition, ?outcome, ?action, ?endingTitle, ?text,
      ?image, ?music, ?objects, List.forall_mem_nil _⟩
    case dialogue =>
      exact preserves_of_called (Json.list_preserves LineRecord.rearranged_preserves)
    case choices =>
      exact preserves_of_called (Json.optional_list_preserves ChoiceRecord.rearranged_preserves)
    case objects =>
      exact preserves_of_called (Json.list_preserves ObjectRecord.rearranged_preserves)
    all_goals exact preserves_of_called (preserves_eq _)
  skip name unknown := by
    unfold inner
    split
    · cases unknown
    · cases unknown
    · cases unknown
    · exact preserves_eq _

theorem SceneRecord.rearranged_preserves : Preserves Rearranged format.decode :=
  orderless.preserves

theorem StoryRecord.orderless : format.Orderless inner where
  commute := fields_commute
  read := by
    simp only [format, List.forall_mem_cons]
    refine ⟨?title, ?start, ?placeholder, ?scenes, ?outcomes, List.forall_mem_nil _⟩
    case scenes =>
      exact preserves_of_called (Json.catalog_preserves SceneRecord.rearranged_preserves)
    case outcomes =>
      exact preserves_of_called (Json.catalog_preserves OutcomeRecord.rearranged_preserves)
    all_goals exact preserves_of_called (preserves_eq _)
  skip name unknown := by
    unfold inner
    split
    · cases unknown
    · cases unknown
    · exact preserves_eq _

theorem StoryRecord.rearranged_preserves : Preserves Rearranged format.decode :=
  orderless.preserves

/-! ## Documents -/

namespace Loaded

variable {mode : Strictness} {text : String}

/-- Only a well-formed document is loaded. Every document that has been rearranged from it is loaded
as the same story, with the same warnings. -/
theorem ofText_rearranged {story : Story} (loaded : (ofText mode text).result = .ok story) :
    (∃ v : Value, v.Writes text.toUTF8.toList) ∧
      ∀ (v v' : Value) (text' : String), v.Writes text.toUTF8.toList →
        StoryRecord.Rearranged v v' → v'.Writes text'.toUTF8.toList →
          (ofText mode text').result = .ok story ∧
            (ofText mode text').events = (ofText mode text).events := by
  obtain ⟨v, record, writes, read⟩ := exists_decode_of_ofText loaded
  refine ⟨⟨v, writes⟩, fun w w' text' same rearranged writes' => ?_⟩
  rw [← same.unique writes] at read
  have read' := StoryRecord.rearranged_preserves _ _ _ rearranged read
  rw [ofText_of_decode same read] at loaded ⊢
  rw [ofText_of_decode writes' read']
  exact ⟨loaded, rfl⟩

/-- A text as it is written without escapes. -/
def written (s : String) : RawText := ⟨s.toUTF8.data.toList.map .byte, .closed⟩

/-- The members of a story of one empty scene. -/
def hall : List (RawText × Value) :=
  [(written "startScene", .text (written "hall")),
    (written "scenes", .map [(written "hall", .map [] .closed)] .closed)]

/-- The document of the hall. -/
def hallText : String :=
  "\x7b\"startScene\":\"hall\",\"scenes\":\x7b\"hall\":\x7b\x7d\x7d\x7d"

/-- The hall the other way round, with a mood in the scene. -/
def moodyHall : List (RawText × Value) :=
  [(written "scenes", .map
      [(written "hall", .map [(written "mood", .list [.null, .boolean true] .closed)] .closed)]
      .closed),
    (written "startScene", .text (written "hall"))]

/-- The document of the hall with a mood. -/
def moodyHallText : String :=
  "\x7b\"scenes\":\x7b\"hall\":\x7b\"mood\":[null,true]\x7d\x7d,\"startScene\":\"hall\"\x7d"

theorem hall_writes : (Value.map hall .closed).Writes hallText.toUTF8.toList := by
  rw [Json.toList_eq_data_toList]
  exact Json.Value.Tokens.writes (.map (.more (.text _) (.last (.map (.last .emptyMap))))) rfl

theorem mood_tokens : (Value.list [.null, .boolean true] .closed).Tokens
    [.openList, .null, .comma, .boolean true, .closeList] :=
  .list (.more .null (.last (.boolean true)))

theorem moodyHall_writes : (Value.map moodyHall .closed).Writes moodyHallText.toUTF8.toList := by
  rw [Json.toList_eq_data_toList]
  exact Json.Value.Tokens.writes
    (.map (.more (.map (.last (.map (.last mood_tokens)))) (.last (.text _)))) rfl

theorem hall_loaded (mode : Strictness) : ∃ story, (ofText mode hallText).result = .ok story := by
  rw [ofText_of_writes hall_writes]
  cases mode
  · exact ⟨_, rfl⟩
  · exact ⟨_, rfl⟩

theorem hall_rearranged :
    StoryRecord.Rearranged (.map hall .closed) (.map moodyHall .closed) := by
  have mood : SceneRecord.Rearranged (.map [] .closed)
      (.map [(written "mood", .list [.null, .boolean true] .closed)] .closed) :=
    .map (.add rfl rfl ⟨_, mood_tokens.writes rfl⟩ .nil)
  have scenes : InCatalog SceneRecord.Rearranged (.map [(written "hall", .map [] .closed)] .closed)
      (.map [(written "hall", .map [(written "mood", .list [.null, .boolean true] .closed)]
        .closed)] .closed) :=
    .map (.keep (fun _ _ => mood) .nil)
  refine .map (.trans (.keep ?start (.keep ?scenes .nil)) (.swap ?differ))
  case start =>
    intro name named
    cases named
    rfl
  case scenes =>
    intro name named
    cases named
    exact scenes
  case differ =>
    intro same
    cases same

theorem ofText_rearranged_hall :
    (Value.map hall .closed).Writes hallText.toUTF8.toList ∧
      (Value.map moodyHall .closed).Writes moodyHallText.toUTF8.toList ∧
      StoryRecord.Rearranged (.map hall .closed) (.map moodyHall .closed) ∧
      ∃ story, (ofText .strict hallText).result = .ok story ∧
        (ofText .strict moodyHallText).result = .ok story := by
  obtain ⟨story, loaded⟩ := hall_loaded .strict
  obtain ⟨-, alike⟩ := ofText_rearranged loaded
  have loaded' := alike _ _ moodyHallText hall_writes hall_rearranged moodyHall_writes
  exact ⟨hall_writes, moodyHall_writes, hall_rearranged, story, loaded, loaded'.1⟩

/-- The first half of a pair of surrogates, by itself. -/
def halfCharacter : RawText := ⟨[.unit 0xD800], .closed⟩

/-- The document of the hall with a member more, whose name is half a character. -/
def halfNamedHallText : String :=
  "\x7b\"\\ud800\":null,\"startScene\":\"hall\",\"scenes\":\x7b\"hall\":\x7b\x7d\x7d\x7d"

/-- No field of a story goes by half a character, and yet a member of such a name is not passed
over. -/
theorem half_name_not_passed_over :
    (∀ name, StoryRecord.format.knows name = true → halfCharacter.decode ≠ .ok name) ∧
      (Value.map hall .closed).Writes hallText.toUTF8.toList ∧
      (Value.map ((halfCharacter, .null) :: hall) .closed).Writes
        halfNamedHallText.toUTF8.toList ∧
      ∀ mode, (∃ story, (ofText mode hallText).result = .ok story) ∧
        (ofText mode halfNamedHallText).result = .error (.unparsable .loneHighSurrogate) := by
  have writes : (Value.map ((halfCharacter, .null) :: hall) .closed).Writes
      halfNamedHallText.toUTF8.toList := by
    rw [Json.toList_eq_data_toList]
    exact Json.Value.Tokens.writes
      (.map (.more .null (.more (.text _) (.last (.map (.last .emptyMap)))))) rfl
  refine ⟨fun name _ h => ?_, hall_writes, writes, fun mode => ⟨hall_loaded mode, ?_⟩⟩
  · cases h
  · rw [ofText_of_writes writes]
    rfl

end Loaded

end VisualNovel
