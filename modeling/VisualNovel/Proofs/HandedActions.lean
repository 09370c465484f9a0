import VisualNovel.Proofs.Coherence

/-!
# Which actions reach the handler

Actions are handed over in three places: on arrival in a scene, when a choice is made and when an
object is used. The first of them lies inside the recursion that follows continuations, so one step
may pass through any number of scenes. Whatever happens on the way, the handler gets exactly what is
owed (`Session.owed`): the action of a choice that is made, then the action of every scene that is
entered, once for each time and in that order, or else the action of the object that is used, and
nothing for anything else.

The trace tells which scenes have been entered. A trace pays if its actions are those that its
entries call for (`Traced.Pays`). Both are read off from left to right, so what is put together from
traces that pay does so as well, and the proofs follow the text of the transitions.
-/

namespace VisualNovel

open Traced (log)

/-- The action that an event calls for: that of the scene that is entered. -/
def Session.entryAction (s : Session) : Event → Option Action
  | .sceneEntered id _ => (s.storyScene? id).bind (·.action)
  | _ => none

namespace Traced

variable {α β : Type} {s : Session}

/-- The actions that the entries in a trace call for. -/
def entryActions (t : Traced α) (s : Session) : List Action := t.events.filterMap s.entryAction

@[simp] theorem entryActions_bind (x : Traced α) (f : α → Traced β) (s : Session) :
    (x >>= f).entryActions s = x.entryActions s ++ (f x.value).entryActions s := by
  rw [entryActions, events_bind, List.filterMap_append]
  rfl

@[simp] theorem entryActions_pure (a : α) (s : Session) :
    (pure a : Traced α).entryActions s = [] := rfl

theorem entryActions_log (event : Event) (s : Session) :
    (log event).entryActions s = (s.entryAction event).toList := by
  rw [entryActions, events_log, List.filterMap_cons, List.filterMap_nil]
  cases s.entryAction event <;> rfl

theorem entryActions_eq_nil {t : Traced α}
    (h : ∀ id lines, .logged (.sceneEntered id lines) ∉ t.notes) : t.entryActions s = [] := by
  rw [entryActions, List.filterMap_eq_nil_iff]
  intro event he
  unfold Session.entryAction
  split
  · exact absurd (mem_events.1 he) (h _ _)
  · rfl

/-- Exactly the actions that the entries call for are handed over, in order. -/
def Pays (s : Session) (t : Traced α) : Prop := t.actions = t.entryActions s

namespace Pays

theorem pure {a : α} : Pays s (pure a) := rfl

theorem bind {x : Traced α} {f : α → Traced β} (hx : Pays s x) (hf : Pays s (f x.value)) :
    Pays s (x >>= f) := by
  rw [Pays, actions_bind, entryActions_bind, hx, hf]

/-- Where nothing is entered and nothing handed over, nothing is owed. -/
theorem of_ensures {t : Traced α} {P : α → Prop} {N : Note → Prop} (h : t.Ensures P N)
    (hentry : ∀ id lines, ¬ N (.logged (.sceneEntered id lines)))
    (haction : ∀ action, ¬ N (.handled action)) : Pays s t := by
  have quiet : t.entryActions s = [] :=
    entryActions_eq_nil fun id lines hm => hentry id lines (h.notes _ hm)
  rw [Pays, quiet]
  exact actions_eq_nil fun action hm => haction action (h.notes _ hm)

theorem log {event : Event} {k : Unit → Traced α} (he : s.entryAction event = none)
    (hk : Pays s (k ())) : Pays s (log event >>= k) := by
  refine .bind ?_ hk
  rw [Pays, actions_log, entryActions_log, he]
  rfl

end Pays

end Traced

open Traced (Pays)

/-! ## Handing over -/

theorem World.apply_actions (w : World) (action : Action) : (w.apply action).actions = [] := by
  cases action with
  | removeItem item =>
      rw [World.apply]
      split <;> rfl
  | addItem | setFlag | clearFlag | custom => rfl

/-- Every handler is handed the action once. -/
theorem Handler.apply_actions (h : Handler) (action : Action) (w : World) :
    (h.apply action w).actions = [action] := by
  have rest : (h.apply action w).actions = [action] ++ _ := Traced.actions_bind _ _
  rw [rest]
  match h, action with
  | .builtin, action => exact congrArg (action :: ·) (w.apply_actions action)
  | .recording, .custom _ | .dropping, _ => rfl
  | .recording, .addItem _ | .recording, .removeItem _ | .recording, .setFlag _
  | .recording, .clearFlag _ => exact congrArg (_ :: ·) (w.apply_actions _)

namespace Session

variable {s t : Session} {w : World} {scene : Scene} {id : String} {eager : Bool}

theorem applyAction?_actions (hw : s.world = some w) (action : Option Action) :
    (s.applyAction? action).actions = action.toList := by
  cases action with
  | none => rfl
  | some action =>
      simp only [applyAction?, applyAction, hw]
      rw [Traced.actions_bind, Handler.apply_actions]
      rfl

theorem applyAction?_entryActions (s : Session) (action : Option Action) :
    (s.applyAction? action).entryActions t = [] := by
  refine Traced.entryActions_eq_nil fun id lines hm => ?_
  have hn := (s.applyAction?_unmoved action).notes _ hm
  cases hn

theorem useObject_actions (s : Session) (scene : Scene) (object : SceneObject) (w : World) :
    (s.useObject scene object w).actions = object.action.toList := by
  unfold useObject
  cases object.action with
  | none => rfl
  | some action =>
      rw [Traced.actions_bind, Handler.apply_actions]
      rfl

theorem useObject_answer (s : Session) (scene : Scene) (object : SceneObject) (w : World) :
    (s.useObject scene object w).value.2 = .done object.yields := by
  unfold useObject
  cases object.action <;> rfl

/-! ## Entering and following -/

theorem resolve_pays (s : Session) (id : String) : Pays t (s.resolve id) := by
  unfold resolve
  split
  · exact .log rfl .pure
  · split
    · exact .pure
    · exact .log rfl .pure

theorem arrive_pays (hw : s.world = some w) (hscene : t.storyScene? scene.id = some scene) :
    Pays t (s.arrive scene) := by
  have moved : s.world.map (fun w => w.moveTo scene.id) = some (w.moveTo scene.id) := by
    rw [hw]
    rfl
  have entry : t.entryAction (.sceneEntered scene.id scene.dialogue.length) = scene.action := by
    rw [entryAction, hscene]
    rfl
  unfold arrive
  dsimp only
  rw [Pays, Traced.actions_bind, Traced.entryActions_bind, Traced.actions_log,
    Traced.entryActions_log, entry, applyAction?_actions moved, applyAction?_entryActions,
    List.append_nil, List.nil_append]

/-- Entering pays, provided that `go` does, which runs the continuations. The scene has to be filed
by its id, for that is what the trace tells of it. -/
theorem enterWith_pays (filed : ∀ {id scene}, t.storyScene? id = some scene → scene.id = id)
    {go : Scene → Session → Traced Session}
    (hgo : ∀ scene u, u.story = t.story → Pays t (go scene u)) (hs : s.story = t.story) :
    Pays t (enterWith go eager id s) := by
  by_cases hp : s.state = .playing
  · cases hscene : s.storyScene? id with
    | none =>
        refine .of_ensures (enterWith_of_unknown hp hscene) ?_ ?_
        · exact fun id lines h => by cases h
        · exact fun action h => by cases h
    | some scene =>
        obtain ⟨w, hw, -⟩ := state_eq_playing_iff.1 hp
        have hscene' : t.storyScene? id = some scene := by
          rw [← hscene, storyScene?, storyScene?, hs]
        have arrived : (s.arrive scene).value.story = t.story := by
          obtain ⟨w', -, he⟩ := (arrive_ensures hw scene).value
          rw [he]
          exact hs
        rw [enterWith_of_scene hp hscene]
        rw [← filed hscene'] at hscene'
        refine (arrive_pays hw hscene').bind ?_
        split
        · exact resolve_pays _ _
        · split
          · exact hgo scene _ arrived
          · exact .pure
  · rw [enterWith_of_not_playing hp]
    exact .log rfl .pure

theorem follow_pays (filed : ∀ {id scene}, t.storyScene? id = some scene → scene.id = id)
    (hops : Nat) : ∀ scene s, s.story = t.story → Pays t (follow hops scene s) := by
  induction hops using Nat.strongRecOn with
  | ind hops ih =>
      intro scene s hs
      rw [follow.eq_def]
      dsimp only
      split
      · exact .pure
      · split
        · split
          · exact .log rfl .pure
          · exact .log rfl .pure
        · split
          · exact .log rfl .pure
          · next hops => exact enterWith_pays filed (ih hops (Nat.lt_succ_self hops)) hs
        · exact resolve_pays _ _
        · exact .log rfl .pure
        · exact .log rfl .pure

/-! ## Steps -/

theorem reset_actions (s : Session) : s.reset.actions = [] := by
  rcases s.reset_cases with ⟨-, he⟩ | ⟨w, -, -, he⟩
  · rw [he]
    rfl
  · rw [he]
    rfl

theorem setName_actions (s : Session) (name : String) : (s.setName name).actions = [] := by
  unfold setName
  dsimp only
  split
  · rfl
  · split <;> rfl

theorem bind_actions (s : Session) (story : Story) : (s.bind story).actions = [] := by
  unfold bind
  dsimp only
  rw [Traced.actions_bind]
  split <;> rfl

theorem load_actions (s : Session) (loaded : Loaded) : (s.load loaded).actions = [] := by
  have told : (Traced.logAll loaded.events).actions = [] :=
    Traced.actions_eq_nil fun action hm => by simp [Traced.logAll] at hm
  unfold load
  rw [Traced.actions_bind, told]
  cases loaded.result with
  | error e => rfl
  | ok story =>
      rw [Traced.actions_bind, bind_actions]
      rfl

/-- What is owed for a choice. -/
def choiceAction (s : Session) (choice : Choice) : List Action :=
  if s.state = .playing then choice.action.toList else []

/-- What is owed for an object that has been used. -/
def objectAction (s : Session) (id : String) : List Action :=
  ((s.scene?.bind (·.object? id)).bind (·.action)).toList

/-- The actions that the handler has to get in a step, in order, given what came of it. -/
def owed (s : Session) (step : SessionStep) (r : Traced (Session × SessionAnswer)) :
    List Action :=
  match step with
  | .load _ | .bind _ | .setName _ | .setPortrait _ | .reset => []
  | .start | .advance | .goTo _ | .continueOn => r.entryActions s
  | .makeChoice choice => s.choiceAction choice ++ r.entryActions s
  | .choose index =>
    (s.visibleChoices[index]?.map s.choiceAction).getD [] ++ r.entryActions s
  | .interact id =>
    match r.value.2 with
    | .interaction (.done _) => s.objectAction id
    | _ => []

section Steps

variable (filed : ∀ {id scene}, s.storyScene? id = some scene → scene.id = id)

include filed

theorem enter_pays (hs : t.story = s.story) : Pays s (t.enter eager id) :=
  enterWith_pays filed (follow_pays filed _) hs

theorem start_pays : Pays s s.start := by
  rcases s.start_cases with ⟨error, he⟩ | ⟨story, scene, -, -, he⟩
  · rw [he]
    exact .pure
  · rw [he]
    exact .log rfl (.bind (enter_pays filed rfl) .pure)

theorem advance_pays : Pays s s.advance := by
  rcases s.advance_cases with ⟨-, he⟩ | ⟨-, -, he⟩ | ⟨scene, -, -, -, he⟩
  · rw [he]
    exact .log rfl .pure
  · rw [he]
    exact .pure
  · rw [he]
    exact follow_pays filed _ scene _ rfl

theorem continueOn_pays : Pays s s.continueOn := by
  rcases s.continueOn_cases with he | ⟨outcome, next, -, -, ⟨-, he⟩ | ⟨scene, -, he⟩⟩
  · rw [he]
    exact .pure
  · rw [he]
    exact .log rfl .pure
  · rw [he]
    rcases s.reset_cases with ⟨-, hr⟩ | ⟨w, -, -, hr⟩
    · rw [hr]
      exact .bind (.log rfl .pure) (.bind (enter_pays filed rfl) .pure)
    · rw [hr]
      exact .bind (.log rfl .pure) (.bind (enter_pays filed rfl) .pure)

theorem makeChoice_actions (choice : Choice) :
    (s.makeChoice choice).actions =
      s.choiceAction choice ++ (s.makeChoice choice).entryActions s := by
  by_cases hp : s.state = .playing
  · obtain ⟨w, hw, -⟩ := state_eq_playing_iff.1 hp
    have same := (s.applyAction?_unmoved choice.action).value
    rw [makeChoice_of_playing hp, choiceAction, if_pos hp]
    simp only [Traced.actions_bind, Traced.entryActions_bind, Traced.actions_log,
      Traced.entryActions_log, applyAction?_actions hw, applyAction?_entryActions]
    refine congrArg (choice.action.toList ++ ·) ?_
    show Pays s _
    split
    · exact resolve_pays _ _
    · exact enter_pays filed same.story
    · exact .log rfl .pure
  · rw [makeChoice_of_not_playing hp, choiceAction, if_neg hp]
    rfl

omit filed in
theorem interact_actions (id : String) :
    (s.interact id).actions =
      match (s.interact id).value.2 with
      | .done _ => s.objectAction id
      | _ => [] := by
  unfold interact
  split
  · next w scene _ hscene =>
      split
      · rfl
      · cases ho : scene.object? id with
        | none => rfl
        | some object =>
            dsimp only
            split
            · rfl
            · split
              · rfl
              · rw [useObject_actions, useObject_answer, objectAction, hscene]
                dsimp only [Option.bind_some]
                rw [ho]
                rfl
  · rfl

/-- A step hands over what it owes. -/
theorem step_actions (step : SessionStep) :
    (s.step step).actions = s.owed step (s.step step) := by
  cases step with
  | load loaded => simp [Session.step, owed, load_actions]
  | bind story => simp [Session.step, owed, bind_actions]
  | setName name => simp [Session.step, owed, setName_actions]
  | setPortrait portrait => rfl
  | reset => simp [Session.step, owed, reset_actions]
  | start => exact Pays.bind (start_pays filed) .pure
  | advance => exact Pays.bind (advance_pays filed) .pure
  | goTo id => exact Pays.bind (enter_pays filed rfl) .pure
  | continueOn => exact Pays.bind (continueOn_pays filed) .pure
  | makeChoice choice => simp [Session.step, owed, makeChoice_actions filed]
  | choose index =>
      simp only [Session.step, owed, choose]
      cases s.visibleChoices[index]? with
      | none => rfl
      | some choice => simp [makeChoice_actions filed]
  | interact id =>
      have actions : (s.step (.interact id)).actions = (s.interact id).actions := by
        simp [Session.step]
      have answer : (s.step (.interact id)).value.2 = .interaction (s.interact id).value.2 := rfl
      rw [actions, interact_actions, owed, answer]
      cases (s.interact id).value.2 <;> rfl

end Steps

/-! ## Runs -/

theorem Sound.scene_id (sound : s.Sound) {id : String} {scene : Scene}
    (hs : s.storyScene? id = some scene) : scene.id = id := by
  obtain ⟨story, hstory, hs⟩ := Option.bind_eq_some_iff.1 hs
  exact sound.filed hstory hs

/-- The actions that the handler has to get in a run: those of its steps, one after the other. -/
def owedInRun (s : Session) : List SessionStep → List Action
  | [] => []
  | step :: steps => s.owed step (s.step step) ++ (s.step step).value.1.owedInRun steps

theorem Sound.run_actions {steps : List SessionStep} :
    ∀ {s : Session}, s.Sound → (∀ step ∈ steps, step.Filed) →
      (s.run steps).actions = s.owedInRun steps := by
  induction steps with
  | nil => exact fun _ _ => rfl
  | cons step steps ih =>
      intro s sound filed
      have later := ih (sound.step (filed step List.mem_cons_self))
        fun step hs => filed step (List.mem_cons_of_mem _ hs)
      rw [Session.run, owedInRun, Traced.actions_bind, step_actions sound.scene_id, ← later]

/-- In every run the handler gets exactly the actions of the choices that are made, of the scenes
that are entered and of the objects that are used, each once and in their order. -/
theorem run_hands_owed (config : Config) (handler : Handler) (steps : List SessionStep)
    (filed : ∀ step ∈ steps, step.Filed) :
    ((new config handler).run steps).actions = (new config handler).owedInRun steps :=
  (sound_new config handler).run_actions filed

end Session

/-- A story whose scenes, choices and objects all have actions. -/
def Story.lighthouse : Story :=
  (blank "The lighthouse" "shore")
    |>.addScene
      { id := "shore"
        action := some (.setFlag "landed")
        choices := [{ text := "Climb", next := some "stairs", action := some (.addItem "lamp") }]
        objects := [{ id := "bell", action := some (.custom "RING") },
          { id := "door", action := some (.setFlag "open"), requiredItem := some "key" }] }
    |>.addScene
      { id := "stairs", action := some (.setFlag "dizzy"), autoTransition := some "top" }
    |>.addScene
      { id := "top"
        dialogue := [{ text := "The light is out." }]
        action := some (.removeItem "lamp")
        autoTransition := some "shore" }

theorem Story.lighthouse_filed : lighthouse.Filed :=
  (((filed_blank _ _ _).addScene _).addScene _).addScene _

/-- Up the lighthouse and down again; the door stays locked, and there is no cellar. -/
def SessionStep.climb : List SessionStep :=
  [.bind Story.lighthouse, .start, .interact "bell", .interact "door", .goTo "cellar", .choose 0,
    .advance, .reset]

theorem Session.run_hands_owed_lighthouse :
    (∀ step ∈ SessionStep.climb, step.Filed) ∧
      ((new {} .recording).run SessionStep.climb).actions =
        (new {} .recording).owedInRun SessionStep.climb ∧
      ((new {} .recording).run SessionStep.climb).actions =
        [.setFlag "landed", .custom "RING", .addItem "lamp", .setFlag "dizzy", .removeItem "lamp",
          .setFlag "landed"] := by
  have filed : ∀ step ∈ SessionStep.climb, step.Filed := by
    simp [SessionStep.climb, SessionStep.Filed, Story.lighthouse_filed]
  exact ⟨filed, run_hands_owed {} .recording _ filed, by decide +kernel⟩

end VisualNovel
