import VisualNovel.Proofs.Course
import VisualNovel.Proofs.Naming
import VisualNovel.Proofs.Refusals

/-!
# One player, kept in two places

Who the player is stands in the session, and once more in the world of a running game. Lines of
dialogue are shown with the player of the world, all other texts with that of the session. The two
are the same at any time (`Session.OnePlayer`), so it makes no difference.

Nearly every step leaves the player, the story and the settings alone (`Session.SamePlayer`). The
others are few: a story is bound, a game begins, a name is taken, a portrait is set.
`Session.Recast` lists them, and what is claimed of the player in the course of a session is proved
for each of them once. In this way it is also shown that a name stays one that the session would
take (`Session.NameFits`) although the placeholder, which it must not hold, changes with the story:
then the name is looked at again.

What happens to a session besides its steps is that a character of a roster becomes the player
(`SessionTurn`). That comes to the same as two steps, or to nothing.
-/

namespace VisualNovel

namespace Line

variable {line : Line} {player : Profile} {placeholder : String} {config : Config}

theorem shown_nameplate : (line.shown player placeholder config).nameplate = none ∨
    (line.shown player placeholder config).nameplate =
      some (Text.substitute (Text.trim (line.speaker.getD "")) placeholder player.name) := by
  unfold shown
  dsimp only
  split
  · exact .inl rfl
  · exact .inr rfl

/-- The player is seen speaking where the placeholder speaks. -/
theorem shown_portrait (hp : placeholder ≠ "")
    (speaks : Text.trim (line.speaker.getD "") = placeholder) :
    (line.shown player placeholder config).portrait =
      some (player.portrait.getD config.defaultPortrait) := by
  have named : placeholder.isEmpty = false := String.isEmpty_eq_false_iff.2 hp
  unfold shown
  dsimp only
  rw [speaks, named, beq_self_eq_true]
  rfl

end Line

namespace Session

variable {s t u : Session} {w w' : World}

/-! ## Steps that leave the player alone -/

/-- Another session has the same player, also in the world of its game, the same story and the same
settings. -/
structure SamePlayer (s t : Session) : Prop where
  story : t.story = s.story
  config : t.config = s.config
  profile : t.profile = s.profile
  player : t.world.map (·.player) = s.world.map (·.player)

namespace SamePlayer

theorem refl (s : Session) : s.SamePlayer s := ⟨rfl, rfl, rfl, rfl⟩

theorem trans (h : s.SamePlayer t) (h' : t.SamePlayer u) : s.SamePlayer u :=
  ⟨h'.story.trans h.story, h'.config.trans h.config, h'.profile.trans h.profile,
    h'.player.trans h.player⟩

theorem of_world (hw : s.world = some w) (hp : w'.player = w.player) (cursor : Cursor) :
    s.SamePlayer { s with world := some w', cursor } :=
  ⟨rfl, rfl, rfl, by rw [hw, Option.map_some, Option.map_some, hp]⟩

theorem applyAction? (s : Session) (action : Option Action) :
    s.SamePlayer (s.applyAction? action).value := by
  cases hw : s.world with
  | some w =>
      obtain ⟨w', ⟨items, flags, rfl⟩, he⟩ := (applyAction?_ensures hw action).value
      rw [he]
      exact of_world hw (by rfl) s.cursor
  | none =>
      cases action with
      | none => exact refl s
      | some action =>
          simp only [Session.applyAction?, applyAction, hw]
          exact refl s

theorem resolve (s : Session) (id : String) : s.SamePlayer (s.resolve id).value := by
  rw [resolve_value]
  split
  · refine ⟨rfl, rfl, rfl, ?_⟩
    rw [Option.map_map]
    rfl
  · exact refl s

theorem journey (u : Session) :
    Journey (fun s _ => u.SamePlayer s) (fun _ s => u.SamePlayer s) u.SamePlayer
      (fun _ => True) where
  lost h _ := ⟨h, trivial⟩
  arrives {s _ scene} h hp _ := by
    obtain ⟨w, hw, -⟩ := state_eq_playing_iff.1 hp
    refine (arrive_ensures hw scene).mono ?_ fun _ _ => trivial
    rintro _ ⟨_, ⟨items, flags, rfl⟩, rfl⟩
    exact h.trans (of_world hw (by rfl) (.start scene))
  resolves h _ _ := ⟨h.trans (resolve _ _), fun _ _ => trivial⟩
  leads h _ _ := h
  rests h _ := h
  quiet _ := trivial

theorem enter (s : Session) (eager : Bool) (id : String) :
    s.SamePlayer (s.enter eager id).value := by
  by_cases hp : s.state = .playing
  · exact ((journey s).enter (refl s) hp).value
  · rw [enter_of_not_playing hp]
    exact refl s

theorem advance (s : Session) : s.SamePlayer s.advance.value := by
  have moved : s.SamePlayer { s with cursor := s.cursor.advance.1 } := ⟨rfl, rfl, rfl, rfl⟩
  rcases s.advance_cases with ⟨-, he⟩ | ⟨-, -, he⟩ | ⟨scene, hp, -, -, he⟩
  · rw [he]
    exact refl s
  · rw [he]
    exact moved
  · rw [he]
    exact ((journey s).follow _ moved hp).value

theorem makeChoice (s : Session) (choice : Choice) : s.SamePlayer (s.makeChoice choice).value := by
  by_cases hp : s.state = .playing
  · have applied := applyAction? s choice.action
    rw [makeChoice_of_playing hp]
    simp only [Traced.value_bind]
    split
    · exact applied.trans (resolve _ _)
    · exact applied.trans (enter _ true _)
    · exact applied
  · rw [makeChoice_of_not_playing hp]
    exact refl s

theorem choose (s : Session) (index : Nat) : s.SamePlayer (s.choose index).value.1 := by
  rcases s.choose_cases index with he | ⟨choice, -, he⟩
  · rw [he]
    exact refl s
  · rw [he]
    exact makeChoice s choice

theorem reset (s : Session) : s.SamePlayer s.reset.value := by
  rcases s.reset_cases with ⟨-, he⟩ | ⟨w, hw, -, he⟩
  · rw [he]
    exact refl s
  · rw [he]
    exact of_world hw (by rfl) s.cursor

theorem continueOn (s : Session) : s.SamePlayer s.continueOn.value.1 := by
  rcases s.continueOn_cases with he | ⟨_, next, -, -, ⟨-, he⟩ | ⟨_, -, he⟩⟩
  · rw [he]
    exact refl s
  · rw [he]
    exact refl s
  · rw [he]
    exact (reset s).trans (enter _ true next)

theorem interact (s : Session) (id : String) : s.SamePlayer (s.interact id).value.1 := by
  rcases s.interact_cases id with refused | ⟨w, scene, object, hw, -, -, -, -, he⟩
  · rw [refused.value.1]
    exact refl s
  · obtain ⟨items, flags, hu⟩ := w.afterUse_eq s.handler scene.id object
    rw [he, useObject_value, hu]
    exact of_world hw (by rfl) s.cursor

end SamePlayer

/-! ## Steps that change the player, or the game -/

/-- What a step can make of the player. -/
inductive Recast (s : Session) : Session → Prop
  | same {t : Session} (h : s.SamePlayer t) : Recast s t
  | bound (story : Story) : Recast s (s.bind story).value
  | begun {story : Story} {t : Session} (hs : s.story = some story)
      (h : (s.fresh story).SamePlayer t) : Recast s t
  | named {name : String} (accepted : (s.setName name).value.2 = true) :
      Recast s (s.setName name).value.1
  | portrayed (portrait : String) : Recast s (s.setPortrait portrait)

theorem recast_setName (s : Session) (name : String) : s.Recast (s.setName name).value.1 := by
  cases accepted : (s.setName name).value.2 with
  | true => exact .named accepted
  | false =>
      rw [(setName_of_refused accepted).value]
      exact .same (.refl s)

theorem recast_start (s : Session) : s.Recast s.start.value.1 := by
  rcases s.start_cases with ⟨error, he⟩ | ⟨story, scene, hs, -, he⟩
  · rw [he]
    exact .same (.refl s)
  · rw [he]
    exact .begun hs (.enter _ false story.start)

theorem recast_step (s : Session) (step : SessionStep) : s.Recast (s.step step).value.1 := by
  cases step with
  | load loaded =>
      show s.Recast (s.load loaded).value.1
      rcases s.load_value loaded with he | ⟨story, -, he⟩
      · rw [he]
        exact .same (.refl s)
      · rw [he]
        exact .bound story
  | bind story => exact .bound story
  | start => exact s.recast_start
  | setName name =>
      simp only [step, Traced.value_bind, Traced.value_pure]
      exact s.recast_setName name
  | setPortrait portrait => exact .portrayed portrait
  | advance => exact .same (.advance s)
  | goTo scene => exact .same (.enter s true scene)
  | makeChoice choice => exact .same (.makeChoice s choice)
  | choose index => exact .same (.choose s index)
  | reset => exact .same (.reset s)
  | continueOn => exact .same (.continueOn s)
  | interact object => exact .same (.interact s object)

theorem setName_of_accepted {name : String} (accepted : (s.setName name).value.2 = true) :
    (s.setName name).value.1 = { s with
      profile := { s.profile with name := Text.trim name }
      world := s.world.map (·.rename (Text.trim name)) } := by
  unfold setName at accepted ⊢
  dsimp only at accepted ⊢
  split
  · next hb =>
      rw [if_pos hb] at accepted
      cases accepted
  · next hb =>
      rw [if_neg hb] at accepted
      split
      · next hc =>
          rw [if_pos hc] at accepted
          cases accepted
      · rfl

/-- A name that holds the placeholder of the new story gives way to the default one. -/
theorem bind_name (s : Session) (story : Story) :
    (s.bind story).value.profile.name = s.config.defaultName ∨
      (s.bind story).value.profile.name = s.profile.name ∧
        (story.placeholder ≠ "" → Text.contains s.profile.name story.placeholder = false) := by
  unfold bind
  dsimp only [Traced.value_bind]
  split
  · exact .inl rfl
  · next hc =>
      refine .inr ⟨rfl, fun hp => ?_⟩
      rw [String.isEmpty_eq_false_iff.2 hp, Bool.not_false, Bool.true_and, Bool.not_eq_true] at hc
      exact hc

namespace Recast

theorem config (h : s.Recast t) : t.config = s.config := by
  cases h with
  | same h => exact h.config
  | bound story => exact (s.bind_ensures story).value.2.2
  | begun hs h => exact h.config
  | @named name _ => exact (s.setName_unmoved name).value.config
  | portrayed portrait => exact (s.setPortrait_unmoved portrait).config

end Recast

/-- The player of a running game is the player of the session. -/
def OnePlayer (s : Session) : Prop := ∀ w, s.world = some w → w.player = s.profile

theorem SamePlayer.onePlayer (h : s.SamePlayer t) (hs : s.OnePlayer) : t.OnePlayer := by
  intro w hw
  have player := h.player
  rw [hw, Option.map_some] at player
  obtain ⟨v, hv, he⟩ := Option.map_eq_some_iff.1 player.symm
  rw [← he, h.profile]
  exact hs v hv

/-- The player is changed in both places at once. -/
theorem OnePlayer.map (hs : s.OnePlayer) {f : World → World} {profile : Profile}
    (hf : ∀ w, w.player = s.profile → (f w).player = profile) :
    OnePlayer { s with profile, world := s.world.map f } := by
  intro w hw
  obtain ⟨v, hv, rfl⟩ := Option.map_eq_some_iff.1 hw
  exact hf v (hs v hv)

theorem Recast.onePlayer (h : s.Recast t) (hs : s.OnePlayer) : t.OnePlayer := by
  cases h with
  | same h => exact h.onePlayer hs
  | bound story =>
      intro w hw
      rw [(s.bind_ensures story).value.2.1] at hw
      cases hw
  | @begun story t _ h =>
      -- A game begins with the player of the session in its world.
      have fresh : (s.fresh story).OnePlayer := by
        intro w hw
        cases hw
        rfl
      exact h.onePlayer fresh
  | @named name accepted =>
      rw [setName_of_accepted accepted]
      exact hs.map fun w h => by rw [World.rename, h]
  | portrayed portrait =>
      unfold setPortrait
      exact hs.map fun w h => by rw [World.setPortrait, h]

/-- The player has the default name, or one that the session would take. -/
def NameGuarded (s : Session) : Prop := s.profile.name = s.config.defaultName ∨ s.NameFits

/-- A player who keeps their name keeps it guarded, if the placeholder allows for it. -/
theorem NameGuarded.of_name (hs : s.NameGuarded) (name : t.profile.name = s.profile.name)
    (config : t.config = s.config)
    (free : s.NameFits → t.placeholder ≠ "" →
      Text.contains s.profile.name t.placeholder = false) : t.NameGuarded := by
  refine hs.imp (fun h => ?_) fun fits => ?_
  · rw [name, config, h]
  · exact ⟨name ▸ fits.notBlank, name ▸ fits.trimmed, name ▸ free fits⟩

theorem NameGuarded.of_same (hs : s.NameGuarded) (name : t.profile.name = s.profile.name)
    (config : t.config = s.config) (story : t.story = s.story) : t.NameGuarded := by
  have placeholder : t.placeholder = s.placeholder := by
    rw [Session.placeholder, Session.placeholder, story]
  exact hs.of_name name config fun fits => placeholder ▸ fits.free

theorem Recast.nameGuarded (h : s.Recast t) (hs : s.NameGuarded) : t.NameGuarded := by
  cases h with
  | same h => exact hs.of_same (congrArg Profile.name h.profile) h.config h.story
  | begun _ h => exact hs.of_same (congrArg Profile.name h.profile) h.config h.story
  | named accepted => exact .inr (nameFits_of_setName accepted)
  | portrayed portrait =>
      unfold setPortrait
      exact hs.of_same rfl rfl rfl
  | bound story =>
      obtain ⟨bound, -, config⟩ := (s.bind_ensures story).value
      have placeholder : (s.bind story).value.placeholder = story.placeholder := by
        rw [Session.placeholder, bound]
      rcases s.bind_name story with name | ⟨name, free⟩
      · exact .inl (name.trans (congrArg Config.defaultName config.symm))
      · exact hs.of_name name config fun _ => placeholder ▸ free

end Session

/-! ## In the course of a session -/

/-- What may happen to a session: a step, or the selected character of a roster becomes its
player. -/
inductive SessionTurn
  | step (step : SessionStep)
  | cast (roster : Roster)

/-- A character whose name is refused does not become the player at all. -/
theorem Roster.applyTo_value (r : Roster) (s : Session) :
    (r.applyTo s).value.1 = s ∨ (r.applyTo s).value.1 =
      (s.setName r.current.name).value.1.setPortrait (r.current.portrait.getD "") := by
  cases accepted : (r.applyTo s).value.2 with
  | false => exact .inl (Session.applyTo_of_refused accepted).value
  | true =>
      refine .inr ?_
      unfold applyTo at accepted ⊢
      rw [Traced.value_bind] at accepted ⊢
      generalize (s.setName r.current.name).value = taken at accepted ⊢
      obtain ⟨t, _ | _⟩ := taken
      · cases accepted
      · rfl

/-- A story of someone who looks into a mirror. -/
def Story.mirror : Story :=
  (blank "The mirror" "hall" "\x7bme\x7d").addScene
    { id := "hall"
      dialogue := [{ speaker := some "\x7bme\x7d", text := "I am \x7bme\x7d." }] }

/-- A roster with a single character. -/
def Roster.ann : Roster where
  characters := [{ name := "Ann", portrait := some "ann.png" }]
  index_lt := Nat.one_pos

namespace Session

variable {s t : Session}

/-- The session after a turn. -/
def take (s : Session) : SessionTurn → Session
  | .step step => (s.step step).value.1
  | .cast roster => (roster.applyTo s).value.1

/-- The session after some turns. -/
def after (s : Session) (turns : List SessionTurn) : Session := turns.foldl take s

theorem exists_steps_of_take (s : Session) (turn : SessionTurn) :
    ∃ steps, s.take turn = (s.run steps).value := by
  cases turn with
  | step step => exact ⟨[step], rfl⟩
  | cast roster =>
      rw [take]
      rcases roster.applyTo_value s with he | he
      · exact ⟨[], he⟩
      · refine ⟨[.setName roster.current.name,
          .setPortrait (roster.current.portrait.getD "")], ?_⟩
        simp only [he, run, step, Traced.value_bind, Traced.value_pure]

/-- With rosters a session comes to nothing that it could not come to by steps. -/
theorem exists_steps_of_after (turns : List SessionTurn) (s : Session) :
    ∃ steps, s.after turns = (s.run steps).value := by
  induction turns generalizing s with
  | nil => exact ⟨[], rfl⟩
  | cons turn turns ih =>
      obtain ⟨steps, taken⟩ := s.exists_steps_of_take turn
      obtain ⟨rest, came⟩ := ih (s.take turn)
      refine ⟨steps ++ rest, ?_⟩
      rw [run_append, ← taken]
      exact came

/-- What holds however the player is recast, holds after any turns. -/
theorem after_of_recast {I : Session → Prop} (keeps : ∀ {s t : Session}, s.Recast t → I s → I t)
    (turns : List SessionTurn) (h : I s) : I (s.after turns) := by
  obtain ⟨steps, came⟩ := exists_steps_of_after turns s
  rw [came]
  exact (run_ensures (N := fun _ => True)
    (fun step _ s hs => ⟨keeps (s.recast_step step) hs, fun _ _ => trivial⟩) h).value

theorem after_config (s : Session) (turns : List SessionTurn) :
    (s.after turns).config = s.config :=
  after_of_recast (I := fun t => t.config = s.config) (fun h same => h.config.trans same) turns rfl

theorem tidy_after (config : Config) (handler : Handler) (turns : List SessionTurn) :
    ((new config handler).after turns).Tidy := by
  obtain ⟨steps, came⟩ := exists_steps_of_after turns (new config handler)
  rw [came]
  exact ((Reached.new config handler).run steps).tidy

/-- There is a line to be read only while a game is running, and it is shown with the player of the
session. -/
theorem OnePlayer.shownLine?_eq (one : s.OnePlayer) (tidy : s.Tidy) {line : Line}
    (h : s.line? = some line) :
    s.shownLine? = some (line.shown s.profile s.placeholder s.config) := by
  cases hw : s.world with
  | none =>
      rw [line?, tidy hw] at h
      cases h
  | some w =>
      rw [shownLine?, hw, h, ← one w hw]
      rfl

/-- Whatever has happened to a session, there is one player in it, and a line of dialogue is shown
as any text is: with that player's name and, where the placeholder speaks, with their portrait. -/
theorem after_shows_one_player (config : Config) (handler : Handler) (turns : List SessionTurn) :
    let s := (new config handler).after turns
    (∀ w, s.world = some w → w.player = s.profile) ∧
    ∀ line, s.line? = some line → ∃ shown, s.shownLine? = some shown ∧
      shown.text = s.fillIn line.text ∧
      (shown.nameplate = none ∨
        shown.nameplate = some (s.fillIn (Text.trim (line.speaker.getD "")))) ∧
      (s.placeholder ≠ "" → Text.trim (line.speaker.getD "") = s.placeholder →
        shown.portrait = some (s.profile.portrait.getD config.defaultPortrait)) := by
  intro s
  have one : s.OnePlayer := by
    refine after_of_recast Recast.onePlayer turns ?_
    intro w hw
    cases hw
  have tidy : s.Tidy := tidy_after config handler turns
  have settings : s.config = config := after_config _ turns
  refine ⟨one, fun line h => ⟨_, one.shownLine?_eq tidy h, rfl, Line.shown_nameplate, ?_⟩⟩
  intro hp speaks
  rw [Line.shown_portrait hp speaks, settings]

example : ((new {}).after [.step (.bind .mirror), .step .start, .cast .ann,
    .step (.setName "\x7bme\x7d")]).shownLine? =
      some { nameplate := "Ann", text := "I am Ann.", portrait := "ann.png", style := none } := by
  decide +kernel

/-- The player of a session has the default name, or one that the session would take now: it is not
blank, has no blanks around it and does not hold the placeholder that is in force. -/
theorem after_name_fits (config : Config) (handler : Handler) (turns : List SessionTurn) :
    let s := (new config handler).after turns
    s.profile.name = config.defaultName ∨ s.NameFits := by
  intro s
  have guarded : s.NameGuarded :=
    after_of_recast Recast.nameGuarded turns (.inl rfl)
  have settings : s.config = config := after_config _ turns
  exact guarded.imp_left fun h => h.trans (congrArg Config.defaultName settings)

example : ((new {}).after [.step (.setName "\x7bme\x7d")]).profile.name = "\x7bme\x7d" ∧
    ((new {}).after [.step (.setName "\x7bme\x7d"), .step (.bind .mirror)]).profile.name =
      "Player" := by
  decide +kernel

end Session

end VisualNovel
