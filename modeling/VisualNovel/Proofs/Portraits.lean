import VisualNovel.Proofs.Identity
import VisualNovel.Proofs.Links

/-!
# Whose portrait is shown with a line

A line that the placeholder speaks is spoken by the player, whose portrait is shown with it. Who
speaks is compared with the placeholder once the blanks around the speaker are gone, and they are
taken off twice, when the line is loaded and when it is shown. The placeholder keeps its blanks all
the way. So the two meet if there are none around the placeholder; with a blank at an end no line at
all is the player's, not even one whose speaker is written just like the placeholder, and the line
is shown with a portrait of its own or with none.
-/

namespace VisualNovel

open Text (nonBlank)

variable {placeholder : String}

namespace Line

variable {line : Line} {player : Profile} {config : Config}

theorem shown_portrait_of_ne (other : Text.trim (line.speaker.getD "") ≠ placeholder) :
    (line.shown player placeholder config).portrait = line.portrait := by
  have differs : (Text.trim (line.speaker.getD "") == placeholder) = false :=
    beq_eq_false_iff_ne.2 other
  unfold shown
  dsimp only
  rw [differs, Bool.and_false]
  rfl

/-- The blanks around a speaker make no difference, those around the placeholder do. -/
theorem shown_portrait_eq_ite (notBlank : Text.isBlank placeholder = false)
    (named : Text.trim (line.speaker.getD "") = Text.trim placeholder) :
    (line.shown player placeholder config).portrait =
      if Text.trim placeholder = placeholder then
        some (player.portrait.getD config.defaultPortrait)
      else line.portrait := by
  split
  · next bare =>
      have hp : placeholder ≠ "" := bare ▸ (Text.bare_trim notBlank).ne_empty
      exact shown_portrait hp (named.trans bare)
  · next padded => exact shown_portrait_of_ne (named ▸ padded)

end Line

/-! ## Loaded lines -/

theorem SceneRecord.dialogue_of_toScene {mode : Strictness} {id : String} {r : SceneRecord}
    {scene : Scene} (h : r.toScene mode id = .ok scene) :
    scene.dialogue = r.dialogue.map (·.toLine) := by
  obtain ⟨action, choices, objects, -, -, -, rfl⟩ := toScene_eq_ok_iff.1 h
  rfl

/-- The line with this index in the dialogue of a scene, as it is written. -/
def StoryRecord.line? (r : StoryRecord) (scene : String) (index : Nat) : Option LineRecord :=
  (r.scenes.get? scene).bind (·.dialogue[index]?)

/-- The line with this index in the dialogue of a scene. -/
def Story.line? (s : Story) (scene : String) (index : Nat) : Option Line :=
  (s.scene? scene).bind (·.dialogue[index]?)

namespace StoryRecord

variable {mode : Strictness} {r : StoryRecord} {story : Story}

theorem line?_of_toStory (h : r.toStory mode = .ok story) (scene : String) (index : Nat) :
    story.line? scene index = (r.line? scene index).map (·.toLine) := by
  have found := scene?_rel h scene
  unfold line? Story.line?
  generalize r.scenes.get? scene = old, story.scene? scene = new at found
  cases found with
  | none => rfl
  | some made =>
      rw [Option.bind_some, Option.bind_some, SceneRecord.dialogue_of_toScene made,
        List.getElem?_map]

theorem placeholder_of_toStory (h : r.toStory mode = .ok story)
    (given : r.placeholder = some placeholder) (notBlank : Text.isBlank placeholder = false) :
    story.placeholder = placeholder := by
  obtain ⟨start, scenes, -, -, -, rfl⟩ := toStory_eq_ok_iff.1 h
  show (r.placeholder.filter _).getD _ = placeholder
  rw [given, Option.filter_some, notBlank]
  rfl

end StoryRecord

/-- A line whose speaker is written just like the placeholder is shown with the player's portrait
exactly if the placeholder has no blanks around it, and else with its own. That holds of a line as
it stands, and of every such line of a document that is loaded, where the placeholder stays as it is
written. -/
theorem portrait_where_placeholder_speaks (notBlank : Text.isBlank placeholder = false)
    (player : Profile) (config : Config) :
    (∀ line : Line, line.speaker = some placeholder →
      (line.shown player placeholder config).portrait =
        if Text.trim placeholder = placeholder then
          some (player.portrait.getD config.defaultPortrait)
        else line.portrait) ∧
    ∀ (mode : Strictness) (r : StoryRecord) (story : Story), r.toStory mode = .ok story →
      r.placeholder = some placeholder → story.placeholder = placeholder ∧
      ∀ scene index written, r.line? scene index = some written →
        written.speaker = some placeholder →
        ∃ line, story.line? scene index = some line ∧
          (line.shown player story.placeholder config).portrait =
            if Text.trim placeholder = placeholder then
              some (player.portrait.getD config.defaultPortrait)
            else nonBlank written.portrait := by
  constructor
  · intro line speaks
    refine Line.shown_portrait_eq_ite notBlank ?_
    rw [speaks, Option.getD_some]
  · intro mode r story h given
    have kept := StoryRecord.placeholder_of_toStory h given notBlank
    refine ⟨kept, fun scene index written found speaks => ⟨written.toLine, ?_, ?_⟩⟩
    · rw [StoryRecord.line?_of_toStory h, found, Option.map_some]
    · rw [kept]
      refine Line.shown_portrait_eq_ite notBlank ?_
      show Text.trim ((nonBlank written.speaker).getD "") = Text.trim placeholder
      rw [speaks, Text.nonBlank_eq_some_iff.2 ⟨placeholder, rfl, notBlank, rfl⟩, Option.getD_some,
        Text.trim_trim]

/-- A document with this placeholder, in which the player stands in front of a mirror and the line
is written with a portrait of its own. -/
def StoryRecord.mirror (placeholder : String) : StoryRecord :=
  { title := "The mirror"
    start := some "hall"
    placeholder := some placeholder
    scenes := .ofList [("hall", {
      dialogue := [
        { speaker := some placeholder, line := "It is me.", portrait := some "stranger.png" }] })] }

theorem portrait_where_placeholder_speaks_me :
    Text.isBlank "\x7bme\x7d" = false ∧
    ∃ story line, (StoryRecord.mirror "\x7bme\x7d").toStory .strict = .ok story ∧
      story.line? "hall" 0 = some line ∧
      (line.shown ⟨"Ann", "ann.png"⟩ story.placeholder {}).portrait = some "ann.png" := by
  have notBlank : Text.isBlank "\x7bme\x7d" = false := by decide +kernel
  have bare : Text.trim "\x7bme\x7d" = "\x7bme\x7d" := by decide +kernel
  obtain ⟨story, h⟩ : ∃ story, (StoryRecord.mirror "\x7bme\x7d").toStory .strict = .ok story :=
    ⟨_, rfl⟩
  obtain ⟨-, loaded⟩ := portrait_where_placeholder_speaks notBlank ⟨"Ann", "ann.png"⟩ {}
  obtain ⟨line, found, portrait⟩ := (loaded .strict _ story h rfl).2 "hall" 0 _ rfl rfl
  rw [if_pos bare] at portrait
  exact ⟨notBlank, story, line, h, found, portrait⟩

/-- With blanks around the placeholder the player sees a stranger in the mirror. -/
theorem padded_placeholder_shows_stranger :
    Text.isBlank " hero " = false ∧
    (∃ written, (StoryRecord.mirror " hero ").line? "hall" 0 = some written ∧
      written.speaker = some " hero ") ∧
    (∃ line : Line, line.speaker = some " hero " ∧
      (line.shown ⟨"Ann", "ann.png"⟩ " hero " {}).portrait = some "stranger.png") ∧
    ∃ story line, (StoryRecord.mirror " hero ").toStory .strict = .ok story ∧
      story.placeholder = " hero " ∧ story.line? "hall" 0 = some line ∧
      (line.shown ⟨"Ann", "ann.png"⟩ story.placeholder {}).portrait = some "stranger.png" := by
  have notBlank : Text.isBlank " hero " = false := by decide +kernel
  refine ⟨notBlank, ⟨_, rfl, rfl⟩,
    ⟨{ speaker := some " hero ", portrait := some "stranger.png" }, rfl, ?_⟩,
    _, _, rfl, rfl, rfl, ?_⟩
  · decide +kernel
  · decide +kernel

end VisualNovel
