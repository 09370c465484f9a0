import VisualNovel.Proofs.Belongings
import VisualNovel.Proofs.Conditions
import VisualNovel.Proofs.Prompt

/-!
# Giving up

A game in the terminal gives up when it shows a session that is to make a choice and offers none
(`Session.Stuck`). It goes by the choices that are offered at that moment. The objects of the scene
may still be there, though, and what they hand over may be just what a hidden choice asks for.

What the player can get hold of by using objects is a matter of using one object after the other,
some of which are locked until another has yielded an item (`World.Within`). Nothing else comes to
the player that way; and if no object takes anything away, all of it does, so that a hidden choice
can be brought to light exactly if all that it asks for is within reach. The game gives up without
asking that, also where it is not true that there is no way forward.
-/

namespace VisualNovel

/-! ## Using one object after the other -/

/-- What using the object gives to the player or takes away. -/
def SceneObject.changes (o : SceneObject) : List Change :=
  o.action.toList.filterMap (·.change?) ++ o.yields.toList.map fun item => ⟨.item item, true⟩

/-- The object only gives. -/
def SceneObject.TakesNothing (o : SceneObject) : Prop := ∀ c ∈ o.changes, c.given = true

namespace Belonging

variable {b : Belonging} {changes : List Change}

theorem mem_of_last {given : Bool} (h : b.last changes = some given) : ⟨b, given⟩ ∈ changes := by
  obtain ⟨c, hc, rfl⟩ := Option.map_eq_some_iff.1 h
  obtain ⟨mem, same⟩ := List.mem_filter.1 (List.mem_of_getLast? hc)
  rwa [← of_decide_eq_true same]

theorem exists_last_of_mem {given : Bool} (h : ⟨b, given⟩ ∈ changes) :
    ∃ last, b.last changes = some last := by
  have mem : (⟨b, given⟩ : Change) ∈ changes.filter (·.belonging = b) :=
    List.mem_filter.2 ⟨h, decide_eq_true rfl⟩
  obtain ⟨c, hc⟩ := Option.isSome_iff_exists.1 (List.getLast?_isSome.2 (List.ne_nil_of_mem mem))
  exact ⟨c.given, by rw [last, hc, Option.map_some]⟩

end Belonging

namespace World

variable {w v v' : World} {scene : Scene} {o : SceneObject} {b : Belonging}

/-- The object is there, it is not used up, and the item that it asks for is held. -/
structure CanUse (w : World) (scene : Scene) (o : SceneObject) : Prop where
  here : scene.object? o.id = some o
  left : w.isUsedUp scene.id o.id = false
  opened : ∀ item, o.requiredItem = some item → w.has (.item item) = true

/-- Another world comes of using objects of the scene. -/
inductive Uses (scene : Scene) (w : World) : World → Prop
  | refl : Uses scene w w
  | use {v : World} {o : SceneObject} (before : Uses scene w v) (can : v.CanUse scene o) :
    Uses scene w (v.afterUse .builtin scene.id o)

/-- What the player has, or can get hold of by using objects of the scene, as far as what they take
away does not count. -/
inductive Within (w : World) (scene : Scene) : Belonging → Prop
  | held {b : Belonging} (h : w.has b = true) : Within w scene b
  | got {b : Belonging} {o : SceneObject} (here : scene.object? o.id = some o)
    (left : w.isUsedUp scene.id o.id = false)
    (opened : ∀ item, o.requiredItem = some item → Within w scene (.item item))
    (gives : ⟨b, true⟩ ∈ o.changes) : Within w scene b

theorem has_afterUse (w : World) (scene : String) (o : SceneObject) (b : Belonging) :
    (w.afterUse .builtin scene o).has b = (b.last o.changes).getD (w.has b) := by
  rw [← has_foldl_undergo, afterUse_builtin]
  cases b <;> rfl

theorem isUsedUp_afterUse (w : World) (scene : String) (o : SceneObject) (id : String) :
    (w.afterUse .builtin scene o).isUsedUp scene id = true ↔
      (o.consumed = true ∧ o.id = id) ∨ w.isUsedUp scene id = true := by
  rw [afterUse_builtin, isUsedUp, isUsedUp]
  cases o.consumed with
  | false => exact (or_iff_right fun h => Bool.false_ne_true h.1).symm
  | true =>
      rw [if_pos rfl, List.singleton_append, List.contains_cons, Bool.or_eq_true, beq_iff_eq]
      refine or_congr_left ⟨fun h => ⟨rfl, (congrArg Prod.snd h).symm⟩, fun h => ?_⟩
      rw [h.2]

/-- An object that only gives leaves the player with what it gives and with what they had. -/
theorem has_afterUse_iff (takes : o.TakesNothing) :
    (w.afterUse .builtin scene.id o).has b = true ↔ ⟨b, true⟩ ∈ o.changes ∨ w.has b = true := by
  rw [has_afterUse]
  cases hl : b.last o.changes with
  | none =>
      refine (or_iff_right fun mem => ?_).symm
      obtain ⟨last, he⟩ := Belonging.exists_last_of_mem mem
      rw [hl] at he
      cases he
  | some given =>
      have mem := Belonging.mem_of_last hl
      obtain rfl : given = true := takes _ mem
      exact iff_of_true rfl (.inl mem)

namespace Uses

theorem trans (h : Uses scene w v) (h' : Uses scene v v') : Uses scene w v' := by
  induction h' with
  | refl => exact h
  | use _ can ih => exact .use ih can

theorem place_eq (h : Uses scene w v) : v.place = w.place := by
  induction h with
  | refl => rfl
  | @use v o _ _ ih =>
      obtain ⟨items, flags, he⟩ := v.afterUse_eq .builtin scene.id o
      rw [he]
      exact ih

theorem isUsedUp (h : Uses scene w v) {id : String} (used : w.isUsedUp scene.id id = true) :
    v.isUsedUp scene.id id = true := by
  induction h with
  | refl => exact used
  | use _ _ ih => exact (isUsedUp_afterUse _ _ _ _).2 (.inr ih)

/-- Nothing comes to the player but what is within reach. -/
theorem within (h : Uses scene w v) : ∀ {b}, v.has b = true → w.Within scene b := by
  induction h with
  | refl => exact fun h => .held h
  | @use v o before can ih =>
      intro b h
      rw [has_afterUse] at h
      cases hl : b.last o.changes with
      | none =>
          rw [hl] at h
          exact ih h
      | some given =>
          rw [hl] at h
          obtain rfl : given = true := h
          refine .got can.here ?_ (fun item hi => ih (can.opened item hi))
            (Belonging.mem_of_last hl)
          cases hu : w.isUsedUp scene.id o.id with
          | false => rfl
          | true => exact (before.isUsedUp hu).symm.trans can.left

section Giving

variable (gives : ∀ o ∈ scene.objects, o.TakesNothing)

include gives

theorem takesNothing (can : w.CanUse scene o) : o.TakesNothing :=
  gives o (List.mem_of_find?_eq_some can.here)

theorem has (h : Uses scene w v) (hb : w.has b = true) : v.has b = true := by
  induction h with
  | refl => exact hb
  | use _ can ih => exact (has_afterUse_iff (takesNothing gives can)).2 (.inr ih)

/-- Whoever has used an object up has what it gives. -/
theorem has_of_usedUp (h : Uses scene w v) (here : scene.object? o.id = some o)
    (left : w.isUsedUp scene.id o.id = false) (used : v.isUsedUp scene.id o.id = true)
    (hb : ⟨b, true⟩ ∈ o.changes) : v.has b = true := by
  induction h with
  | refl =>
      rw [left] at used
      cases used
  | @use v o' before can ih =>
      rw [has_afterUse_iff (takesNothing gives can)]
      rcases (isUsedUp_afterUse _ _ _ _).1 used with ⟨-, same⟩ | used
      · have other := can.here
        rw [same, here] at other
        cases other
        exact .inl hb
      · exact .inr (ih used)

/-- Wherever the player has got to with the objects, what was within reach still is. -/
theorem exists_has (h : w.Within scene b) :
    ∀ {v}, Uses scene w v → ∃ v', Uses scene v v' ∧ v'.has b = true := by
  induction h with
  | held hb => exact fun h => ⟨_, .refl, has gives h hb⟩
  | @got b o here left _ hb ih =>
      intro v h
      obtain ⟨u, further, opened⟩ : ∃ u, Uses scene v u ∧
          ∀ item, o.requiredItem = some item → u.has (.item item) = true := by
        cases hr : o.requiredItem with
        | none => exact ⟨v, .refl, nofun⟩
        | some required =>
            obtain ⟨u, further, held⟩ := ih required hr h
            refine ⟨u, further, fun item hi => ?_⟩
            cases hi
            exact held
      cases hu : u.isUsedUp scene.id o.id with
      | true => exact ⟨u, further, has_of_usedUp gives (h.trans further) here left hu hb⟩
      | false =>
          have can : u.CanUse scene o := ⟨here, hu, opened⟩
          exact ⟨_, .use further can, (has_afterUse_iff (takesNothing gives can)).2 (.inl hb)⟩

theorem exists_has_all {needs : List Belonging} (within : ∀ b ∈ needs, w.Within scene b) :
    ∃ v, Uses scene w v ∧ ∀ b ∈ needs, v.has b = true := by
  induction needs with
  | nil => exact ⟨w, .refl, nofun⟩
  | cons b needs ih =>
      obtain ⟨v, used, all⟩ := ih fun b hb => within b (List.mem_cons_of_mem _ hb)
      obtain ⟨v', further, first⟩ := exists_has gives (within b List.mem_cons_self) used
      exact ⟨v', used.trans further, List.forall_mem_cons.2
        ⟨first, fun b hb => has gives further (all b hb)⟩⟩

end Giving

end Uses

end World

namespace Session

/-! ## Interacting with one object after the other -/

/-- The session plays a scene, and its actions are carried out by the built-in handler. -/
structure Plays (s : Session) (w : World) (scene : Scene) : Prop where
  builtin : s.handler = .builtin
  world : s.world = some w
  terminal : w.terminal = false
  scene : s.scene? = some scene

namespace Plays

variable {s : Session} {w v : World} {scene : Scene}

/-- An object is used if it can be, and nothing comes of it otherwise. -/
theorem interact_cases (h : s.Plays w scene) (id : String) : (s.interact id).value.1 = s ∨
    ∃ o, w.CanUse scene o ∧ (s.interact id).value.1 =
      { s with world := some (w.afterUse .builtin scene.id o) } := by
  cases ho : scene.object? id with
  | none =>
      rw [interact_of_unknown h.world h.terminal h.scene ho]
      exact .inl rfl
  | some o =>
      cases hu : w.isUsedUp scene.id o.id with
      | true =>
          rw [interact_of_usedUp h.world h.terminal h.scene ho hu]
          exact .inl rfl
      | false =>
          cases hl : o.requiredItem.filter (!w.hasItem ·) with
          | some required =>
              rw [interact_of_locked h.world h.terminal h.scene ho hu hl]
              exact .inl rfl
          | none =>
              rw [interact_of_open h.world h.terminal h.scene ho hu hl, useObject_value, h.builtin]
              refine .inr ⟨o, ⟨(id_of_object? ho).symm ▸ ho, hu, fun item hi => ?_⟩, rfl⟩
              simpa [hi, World.has] using hl

theorem interact_of_canUse (h : s.Plays w scene) {o : SceneObject} (can : w.CanUse scene o) :
    (s.interact o.id).value.1 = { s with world := some (w.afterUse .builtin scene.id o) } := by
  have unlocked : o.requiredItem.filter (!w.hasItem ·) = none := by
    simpa [World.has] using can.opened
  rw [interact_of_open h.world h.terminal h.scene can.here can.left unlocked, useObject_value,
    h.builtin]

theorem of_uses (h : s.Plays w scene) (used : w.Uses scene v) :
    Plays { s with world := some v } v scene := by
  obtain ⟨same, terminal, -⟩ := World.place_eq_iff.1 used.place_eq
  refine ⟨h.builtin, rfl, terminal.trans h.terminal, ?_⟩
  have here := h.scene
  unfold scene? sceneId? at here ⊢
  rw [h.world] at here
  dsimp only [Option.map_some] at here ⊢
  rw [same]
  exact here

theorem mem_visibleChoices_iff (h : s.Plays w scene) {choice : Choice} :
    choice ∈ s.visibleChoices ↔
      choice ∈ scene.choices ∧ ∀ b ∈ choice.needs, w.has b = true := by
  rw [visibleChoices_of_scene h.world h.scene]
  exact List.mem_filter.trans (and_congr_right fun _ => Choice.isVisible_iff)

theorem run_interact_concat (s : Session) (ids : List String) (id : String) :
    (s.run ((ids ++ [id]).map .interact)).value =
      ((s.run (ids.map .interact)).value.interact id).value.1 := by
  rw [List.map_append, run_append]
  generalize (s.run (ids.map .interact)).value = t
  show (t.step (.interact id)).value.1 = (t.interact id).value.1
  rw [step_interact_value]

/-- All that can come of interactions is that objects are used. -/
theorem run_interact (h : s.Plays w scene) (ids : List String) :
    ∃ v, w.Uses scene v ∧ (s.run (ids.map .interact)).value = { s with world := some v } := by
  induction ids using List.reverseRecOn with
  | nil => exact ⟨w, .refl, congrArg (fun world => { s with world }) h.world⟩
  | append_singleton ids id ih =>
      obtain ⟨v, used, came⟩ := ih
      rw [run_interact_concat, came]
      rcases (h.of_uses used).interact_cases id with he | ⟨o, can, he⟩
      · exact ⟨v, used, he⟩
      · exact ⟨_, .use used can, he⟩

theorem exists_run_interact (h : s.Plays w scene) (used : w.Uses scene v) :
    ∃ ids : List String, (s.run (ids.map .interact)).value = { s with world := some v } := by
  induction used with
  | refl => exact ⟨[], congrArg (fun world => { s with world }) h.world⟩
  | @use v o before can ih =>
      obtain ⟨ids, came⟩ := ih
      refine ⟨ids ++ [o.id], ?_⟩
      rw [run_interact_concat, came]
      exact (h.of_uses before).interact_of_canUse can

/-- What a choice asks for is within reach if interactions bring it to light. -/
theorem within_of_visible (h : s.Plays w scene) {ids : List String} {choice : Choice}
    (visible : choice ∈ (s.run (ids.map .interact)).value.visibleChoices) :
    choice ∈ scene.choices ∧ ∀ b ∈ choice.needs, w.Within scene b := by
  obtain ⟨v, used, came⟩ := h.run_interact ids
  rw [came, (h.of_uses used).mem_visibleChoices_iff] at visible
  exact ⟨visible.1, fun b hb => used.within (visible.2 b hb)⟩

/-- And if objects only give, it is brought to light if what it asks for is within reach. -/
theorem exists_visible (h : s.Plays w scene) (gives : ∀ o ∈ scene.objects, o.TakesNothing)
    {choice : Choice} (mem : choice ∈ scene.choices)
    (within : ∀ b ∈ choice.needs, w.Within scene b) :
    ∃ ids : List String, choice ∈ (s.run (ids.map .interact)).value.visibleChoices := by
  obtain ⟨v, used, all⟩ := World.Uses.exists_has_all gives within
  obtain ⟨ids, came⟩ := h.exists_run_interact used
  refine ⟨ids, ?_⟩
  rw [came, (h.of_uses used).mem_visibleChoices_iff]
  exact ⟨mem, all⟩

end Plays

/-! ## The handler -/

theorem bind_handler (s : Session) (story : Story) :
    (s.bind story).value.handler = s.handler := by
  unfold bind
  dsimp only [Traced.value_bind]
  split <;> rfl

/-- No step gives the session another handler. -/
theorem step_handler (s : Session) (step : SessionStep) :
    (s.step step).value.1.handler = s.handler := by
  cases step with
  | load loaded =>
      show (s.load loaded).value.1.handler = s.handler
      rcases s.load_value loaded with he | ⟨story, -, he⟩
      · rw [he]
      · rw [he]
        exact s.bind_handler story
  | bind story => exact s.bind_handler story
  | start =>
      show s.start.value.1.handler = s.handler
      rcases s.start_cases with ⟨error, he⟩ | ⟨story, scene, -, -, he⟩
      · rw [he]
        rfl
      · rw [he]
        exact (enter_accounts _ false story.start).handler
  | interact id =>
      rw [step_interact_value]
      rcases s.interact_cases id with refused | ⟨w, scene, o, -, -, -, -, -, he⟩
      · rw [refused.value.1]
      · rw [he, useObject_value]
  | setName | setPortrait | advance | goTo | makeChoice | choose | reset | continueOn =>
      exact (step_accounts rfl fun _ he => by cases he).handler

theorem run_handler (steps : List SessionStep) (s : Session) :
    (s.run steps).value.handler = s.handler := by
  induction steps generalizing s with
  | nil => rfl
  | cons step steps ih => exact (ih (s.step step).value.1).trans (s.step_handler step)

/-- There is a choice to be made, and none is offered. -/
structure Stuck (s : Session) : Prop where
  playing : s.state = .playing
  read : s.shownLine? = none
  choosing : ∃ offered, s.continuation? = some (.choices offered)
  hidden : s.visibleChoices = []

end Session

/-- A story of a locked door and of a key under the mat. -/
def Story.cell : Story :=
  (blank "The cell" "cell")
    |>.addScene
      { id := "cell"
        choices := [{ text := "Open the door", outcome := some "free", requiredItem := some "key" }]
        objects := [{ id := "mat", name := "A mat", yields := some "key" }] }
    |>.addOutcome "free" { message := "You are free." }

namespace Play

/-! ## When a game gives up -/

theorem stateDisplays_of_stuck {s : Session} (h : s.Stuck) :
    stateDisplays s = ([.noWayForward], .nothing) := by
  obtain ⟨offered, choosing⟩ := h.choosing
  unfold stateDisplays
  rw [h.read, h.playing, choosing, h.hidden]
  rfl

theorem noWayForward_mem_iff {s : Session} : .shown .noWayForward ∈ stateOutputs s ↔ s.Stuck := by
  constructor
  · unfold stateOutputs
    fun_cases stateDisplays s
    case case5 read playing offered choosing hidden =>
      exact fun _ => ⟨playing, read, ⟨offered, choosing⟩, List.isEmpty_iff.1 hidden⟩
    all_goals
      intro h
      simp at h
  · intro h
    rw [stateOutputs, stateDisplays_of_stuck h]
    exact List.mem_singleton_self _

/-- The session that a game has come to. -/
def Game.session? : Game → Option Session
  | picking _ s _ => some s
  | playing p => some p.session
  | ended _ last => last.map (·.session)

theorem Game.session?_ofPlaythrough (p : Playthrough) :
    (ofPlaythrough p).session? = some p.session := by
  unfold ofPlaythrough
  split <;> rfl

theorem Shows.becomes {s t : Session} {r : Game × List Output} (h : Shows s r)
    (ht : r.1.session? = some t) : Becomes s t := by
  obtain ⟨u, came, scene, asides, -, rfl⟩ := h
  rw [Game.session?_ofPlaythrough] at ht
  cases ht
  exact came

theorem Opens.becomes {s t : Session} {r : Game × List Output} (h : Opens s r)
    (ht : r.1.session? = some t) : Becomes s t := by
  rcases h with ⟨failure, asides, -, rfl⟩ | shown
  · cases ht
  · exact shown.becomes ht

/-- A line of input makes of the session what some steps make of it. -/
theorem Turn.becomes {game : Game} {r : Game × List Output} (h : Turn game r) {t : Session}
    (ht : r.1.session? = some t) : ∃ s, game.session? = some s ∧ Becomes s t := by
  cases h with
  | ended failure last => exact ⟨t, ht, .refl t⟩
  | picks aside => exact ⟨t, ht, .refl t⟩
  | opens opened => exact ⟨_, rfl, opened.becomes ht⟩
  | answers aside => exact ⟨t, ht, .refl t⟩
  | leaves same aside => exact ⟨t, (congrArg some same).symm.trans ht, .refl t⟩
  | shows shown => exact ⟨_, rfl, shown.becomes ht⟩

theorem course_becomes {story : Story} {guise : Guise} (lines : List Input) {s : Session}
    (hs : (Game.course story guise lines).1.session? = some s) : Becomes (Session.new {}) s := by
  induction lines using List.reverseRecOn generalizing s with
  | nil =>
      rw [Game.course_nil] at hs
      rcases begin_turn story guise with ⟨roster, outputs, -, he⟩ | opened
      · rw [he] at hs
        cases hs
        exact ⟨[.bind story], rfl⟩
      · exact opened.becomes hs
  | append_singleton lines line ih =>
      rw [Game.course_concat] at hs
      obtain ⟨t, ht, came⟩ := (feed_turn _ line).becomes hs
      exact (ih ht).trans came

/-- The game is over, and its session is stuck. -/
def Game.IsStuck (game : Game) : Prop := ∃ p, game = .ended none (some p) ∧ p.session.Stuck

theorem Game.not_isStuck_picking (roster : Roster) (s : Session) (guise : Guise) :
    ¬ (picking roster s guise).IsStuck := by
  rintro ⟨p, he, -⟩
  cases he

theorem Game.not_isStuck_playing (p : Playthrough) : ¬ (playing p).IsStuck := by
  rintro ⟨q, he, -⟩
  cases he

theorem Shows.gives_up_iff {s : Session} {r : Game × List Output} (h : Shows s r) :
    .shown .noWayForward ∈ r.2 ↔ r.1.IsStuck := by
  obtain ⟨t, -, scene, asides, aside, rfl⟩ := h
  dsimp only
  rw [List.mem_append, or_iff_right (aside.not_mem rfl), noWayForward_mem_iff, Game.ofPlaythrough]
  constructor
  · intro stuck
    refine ⟨(Playthrough.ofSession t scene).1, if_pos ?_, stuck⟩
    exact congrArg Prod.snd (stateDisplays_of_stuck stuck)
  · rintro ⟨p, he, stuck⟩
    split at he
    · cases he
      exact stuck
    · cases he

theorem Opens.gives_up_iff {s : Session} {r : Game × List Output} (h : Opens s r) :
    .shown .noWayForward ∈ r.2 ↔ r.1.IsStuck := by
  rcases h with ⟨failure, asides, aside, rfl⟩ | shown
  · refine iff_of_false (aside.not_mem rfl) ?_
    rintro ⟨p, he, -⟩
    cases he
  · exact shown.gives_up_iff

theorem course_gives_up_iff {story : Story} {guise : Guise} (lines : List Input) :
    .shown .noWayForward ∈ (Game.course story guise lines).2 ↔
      (Game.course story guise lines).1.IsStuck := by
  induction lines using List.reverseRecOn with
  | nil =>
      rw [Game.course_nil]
      rcases begin_turn story guise with ⟨roster, outputs, aside, he⟩ | opened
      · rw [he]
        exact iff_of_false (aside.not_mem rfl) (Game.not_isStuck_picking roster _ guise)
      · exact opened.gives_up_iff
  | append_singleton lines line ih =>
      have turn := feed_turn (Game.course story guise lines).1 line
      have unrequested : .shown .noWayForward ∉ (Game.course story guise lines).1.request :=
        (Game.aside_request _).not_mem rfl
      have asked : ∀ p, (Game.course story guise lines).1 = .playing p → ¬ p.session.Stuck := by
        intro p playing stuck
        obtain ⟨⟨scene, shown⟩, waits, -⟩ := course_playing lines playing
        have finished := congrArg Prod.snd (stateDisplays_of_stuck stuck)
        exact waits ((congrArg Playthrough.awaiting shown).trans finished)
      rw [Game.course_concat]
      dsimp only
      rw [List.mem_append, List.mem_append, ih, or_iff_right unrequested]
      generalize (Game.course story guise lines).1 = game at turn asked
      generalize game.feed line = r at turn
      -- Only a game that is over can have given up before this line.
      cases turn with
      | ended failure last => exact or_iff_left List.not_mem_nil
      | picks aside =>
          rw [or_iff_left (aside.not_mem rfl)]
          exact iff_of_false (Game.not_isStuck_picking _ _ _) (Game.not_isStuck_picking _ _ _)
      | opens opened =>
          rw [or_iff_right (Game.not_isStuck_picking _ _ _), opened.gives_up_iff]
      | answers aside => exact or_iff_left (aside.not_mem rfl)
      | leaves same aside =>
          refine iff_of_false (not_or.2 ⟨Game.not_isStuck_playing _, aside.not_mem rfl⟩) ?_
          rintro ⟨p, he, stuck⟩
          cases he
          exact asked _ rfl (same ▸ stuck)
      | shows shown =>
          rw [or_iff_right (Game.not_isStuck_playing _), shown.gives_up_iff]

/-- The game gives up exactly when its session has come to be stuck. What interactions could bring
to light at that point asks for nothing that is out of reach; and if the objects of the scene take
nothing away, then every choice that asks for nothing out of reach could still be brought to light,
although the game is over. -/
theorem course_gives_up (story : Story) (guise : Guise) (lines : List Input) :
    (.shown .noWayForward ∈ (Game.course story guise lines).2 ↔
      ∃ p, (Game.course story guise lines).1 = .ended none (some p) ∧ p.session.Stuck) ∧
    ∀ p, (Game.course story guise lines).1 = .ended none (some p) → p.session.Stuck →
      ∃ w scene, p.session.world = some w ∧ p.session.scene? = some scene ∧
        (∀ (ids : List String) (choice : Choice),
          choice ∈ (p.session.run (ids.map .interact)).value.visibleChoices →
            choice ∈ scene.choices ∧ ∀ b ∈ choice.needs, w.Within scene b) ∧
        ((∀ o ∈ scene.objects, o.TakesNothing) → ∀ choice ∈ scene.choices,
          (∀ b ∈ choice.needs, w.Within scene b) → ∃ ids : List String,
            choice ∈ (p.session.run (ids.map .interact)).value.visibleChoices) := by
  refine ⟨course_gives_up_iff lines, fun p finished stuck => ?_⟩
  obtain ⟨steps, came⟩ : Becomes (Session.new {}) p.session :=
    course_becomes lines (by rw [finished]; rfl)
  obtain ⟨w, hw, terminal⟩ := Session.state_eq_playing_iff.1 stuck.playing
  obtain ⟨offered, choosing⟩ := stuck.choosing
  obtain ⟨scene, hs, -⟩ := Option.map_eq_some_iff.1 choosing
  have plays : p.session.Plays w scene := by
    refine ⟨?_, hw, terminal, hs⟩
    rw [came]
    exact Session.run_handler steps _
  exact ⟨w, scene, hw, hs, fun ids choice => plays.within_of_visible,
    fun gives choice mem within => plays.exists_visible gives mem within⟩

/-- In the cell the game gives up at once, although the mat is still there to be looked under, and
the door could be opened then. -/
theorem gives_up_within_reach :
    .shown .noWayForward ∈ (Game.course .cell {} []).2 ∧
    ∃ p, (Game.course .cell {} []).1 = .ended none (some p) ∧ p.session.Stuck ∧
      (p.session.run [.interact "mat"]).value.visibleChoices =
        [{ text := "Open the door", outcome := some "free", requiredItem := some "key" }] := by
  have gives_up : .shown .noWayForward ∈ (Game.course .cell {} []).2 := by decide +kernel
  have door : (Game.course .cell {} []).1.session?.map (fun s =>
      (s.run [.interact "mat"]).value.visibleChoices) =
        some [{ text := "Open the door", outcome := some "free", requiredItem := some "key" }] := by
    decide +kernel
  obtain ⟨p, finished, stuck⟩ := (course_gives_up_iff []).1 gives_up
  rw [finished] at door
  exact ⟨gives_up, p, finished, stuck, Option.some.inj door⟩

end Play

end VisualNovel
