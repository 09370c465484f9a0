import VisualNovel.Proofs.Course
import VisualNovel.Proofs.Interaction

/-!
# What a game keeps account of

Three things in the world of a running game add up over its steps: the items that the player holds,
the flags that are set, and the objects that are used up. All of them are kept by every transition.
They change only where an action is carried out or an object is used, and the trace and the answer
of a step tell of both. So whatever is claimed of them is an equation between the world and what has
been gathered from the steps of the game (`Session.gather`), and it is proved by one step at a time.

Outside of interactions, a step is a journey through scenes in which the handler gets some actions.
`Session.Accounts` says that those actions account for all that has become of the player's things.
It can be composed, so it follows the recursion through the scenes as the recursion goes. Only for
the built-in handler is it known what an action does; the objects that are used up stay the same
under any.
-/

namespace VisualNovel

/-! ## Things that a player can have -/

/-- Something that a player has or has not. -/
inductive Belonging
  | item (id : String)
  /-- It is had while the flag is set. -/
  | flag (id : String)
  deriving DecidableEq

/-- Something is given to the player, or taken away. -/
structure Change where
  belonging : Belonging
  given : Bool
  deriving DecidableEq

/-- What the built-in vocabulary makes of an action. -/
def Action.change? : Action → Option Change
  | addItem item => some ⟨.item item, true⟩
  | removeItem item => some ⟨.item item, false⟩
  | setFlag flag => some ⟨.flag flag, true⟩
  | clearFlag flag => some ⟨.flag flag, false⟩
  | custom _ => none

namespace Belonging

/-- What the last of those changes says that concern the belonging, if there is one. -/
def last (b : Belonging) (changes : List Change) : Option Bool :=
  (changes.filter (·.belonging = b)).getLast?.map (·.given)

theorem last_append (b : Belonging) (before after : List Change) :
    b.last (before ++ after) = (b.last after).or (b.last before) := by
  unfold last
  rw [List.filter_append, List.getLast?_append]
  cases (after.filter (·.belonging = b)).getLast? <;> rfl

theorem last_singleton (b : Belonging) (c : Change) :
    b.last [c] = if c.belonging = b then some c.given else none := by
  by_cases h : c.belonging = b <;> simp [last, h]

end Belonging

namespace World

variable {w : World}

/-- Whether the player has something. -/
def has (w : World) : Belonging → Bool
  | .item id => w.hasItem id
  | .flag id => w.hasFlag id

/-- The world after a change. -/
def undergo (w : World) : Change → World
  | ⟨.item id, true⟩ => w.addItem id
  | ⟨.item id, false⟩ => w.removeItem id
  | ⟨.flag id, true⟩ => w.setFlag id
  | ⟨.flag id, false⟩ => w.clearFlag id

theorem has_undergo (w : World) (c : Change) (b : Belonging) :
    (w.undergo c).has b = (b.last [c]).getD (w.has b) := by
  rw [Belonging.last_singleton]
  obtain ⟨x | x, _ | _⟩ := c <;> cases b <;>
    grind [undergo, has, hasItem, hasFlag, addItem, removeItem, setFlag, clearFlag]

/-- What a game keeps account of. -/
def things (w : World) : IdSet × IdSet × List (String × String) := (w.items, w.flags, w.usedUp)

theorem things_rename (w : World) (name : String) : (w.rename name).things = w.things := rfl

theorem things_setPortrait (w : World) (portrait : Option String) :
    (w.setPortrait portrait).things = w.things := rfl

theorem things_moveTo (w : World) (scene : String) : (w.moveTo scene).things = w.things := rfl

theorem things_reach (w : World) (outcome : String) : (w.reach outcome).things = w.things := rfl

theorem things_leaveOutcome (w : World) : w.leaveOutcome.things = w.things := rfl

theorem usedUp_of_things {w' : World} (h : w'.things = w.things) : w'.usedUp = w.usedUp :=
  congrArg (·.2.2) h

theorem has_of_things {w' : World} (h : w'.things = w.things) (b : Belonging) :
    w'.has b = w.has b := by
  cases b with
  | item id => exact congrArg (·.1.contains id) h
  | flag id => exact congrArg (·.2.1.contains id) h

theorem apply_value (w : World) (action : Action) :
    (w.apply action).value = action.change?.elim w w.undergo := by
  cases action with
  | removeItem item =>
      rw [apply]
      split <;> rfl
  | addItem | setFlag | clearFlag | custom => rfl

theorem has_foldl_undergo (changes : List Change) (w : World) (b : Belonging) :
    (changes.foldl undergo w).has b = (b.last changes).getD (w.has b) := by
  induction changes generalizing w with
  | nil => rfl
  | cons c changes ih =>
      have split : b.last (c :: changes) = (b.last changes).or (b.last [c]) :=
        b.last_append [c] changes
      rw [List.foldl_cons, ih, has_undergo, split, Option.getD_or]

theorem act_builtin (w : World) (action : Option Action) :
    Handler.builtin.act action w = (action.toList.filterMap (·.change?)).foldl undergo w := by
  cases action with
  | none => rfl
  | some action =>
      show (w.apply action).value = _
      rw [apply_value]
      cases hc : action.change? <;> simp [hc]

end World

/-! ## Steps of a game -/

namespace SessionStep

/-- Whether a running game goes on after the step. -/
def keepsGame : SessionStep → Bool
  | .start | .bind _ => false
  | .load loaded => match loaded.result with
    | .ok _ => false
    | .error _ => true
  | _ => true

end SessionStep

namespace Session

variable {s t u : Session} {w : World} {actions : List Action}

/-- What the steps of a run tell, one after the other. -/
def gather {α : Type} (tell : Session → SessionStep → List α) (s : Session) :
    List SessionStep → List α
  | [] => []
  | step :: steps => tell s step ++ (s.step step).value.1.gather tell steps

/-- What holds of a session and of all that has been told before, and is kept by every step, holds
at the end of a run. -/
theorem run_gather {α : Type} {tell : Session → SessionStep → List α}
    {I : List α → Session → Prop} {steps : List SessionStep}
    (hstep : ∀ step ∈ steps, ∀ told s, I told s → I (told ++ tell s step) (s.step step).value.1) :
    ∀ {told s}, I told s → I (told ++ s.gather tell steps) (s.run steps).value := by
  induction steps with
  | nil =>
      intro told s h
      rw [gather, List.append_nil]
      exact h
  | cons step steps ih =>
      intro told s h
      rw [gather, ← List.append_assoc]
      exact ih (fun step hm => hstep step (List.mem_cons_of_mem _ hm))
        (hstep step List.mem_cons_self told s h)

/-- While the handler gets some actions, `s` becomes `t`. A game goes on, no object is used up, and
with the built-in handler the actions say what becomes of the player's things. -/
structure Accounts (s : Session) (actions : List Action) (t : Session) : Prop where
  handler : t.handler = s.handler
  world : ∀ {w}, s.world = some w → ∃ w', t.world = some w' ∧ w'.usedUp = w.usedUp ∧
    (s.handler = .builtin →
      ∀ b, w'.has b = (b.last (actions.filterMap (·.change?))).getD (w.has b))

namespace Accounts

theorem trans {actions' : List Action} (h : s.Accounts actions t) (h' : t.Accounts actions' u) :
    s.Accounts (actions ++ actions') u := by
  refine ⟨h'.handler.trans h.handler, fun hw => ?_⟩
  obtain ⟨w', hw', hu, hb⟩ := h.world hw
  obtain ⟨w'', hw'', hu', hb'⟩ := h'.world hw'
  refine ⟨w'', hw'', hu'.trans hu, fun builtin b => ?_⟩
  rw [hb' (h.handler.trans builtin), hb builtin, List.filterMap_append, Belonging.last_append,
    Option.getD_or]

/-- Nothing that is kept account of has changed. -/
theorem of_map {f : World → World} (handler : t.handler = s.handler)
    (world : t.world = s.world.map f)
    (hf : ∀ w, (f w).things = w.things) : s.Accounts [] t := by
  refine ⟨handler, fun {w} hw => ⟨f w, ?_, World.usedUp_of_things (hf w), fun _ => ?_⟩⟩
  · rw [world, hw, Option.map_some]
  · exact World.has_of_things (hf w)

/-- The cursor does not count. -/
theorem moved (s : Session) (cursor : Cursor) : s.Accounts [] { s with cursor } :=
  of_map (f := id) rfl (Option.map_id_apply).symm fun _ => rfl

theorem refl (s : Session) : s.Accounts [] s := moved s s.cursor

end Accounts

theorem applyAction?_accounts (s : Session) (action : Option Action) :
    s.Accounts (s.applyAction? action).actions (s.applyAction? action).value := by
  cases hw : s.world with
  | none =>
      cases action with
      | none => exact .refl s
      | some action =>
          simp only [applyAction?, applyAction, hw]
          exact .refl s
  | some w =>
      have acted : (s.applyAction? action).value =
          { s with world := some (s.handler.act action w) } := by
        cases action with
        | none => exact congrArg (fun world => { s with world }) hw
        | some action => simp only [applyAction?, applyAction, hw]; rfl
      rw [acted, applyAction?_actions hw]
      refine ⟨rfl, fun hw' => ?_⟩
      rw [hw] at hw'
      cases hw'
      obtain ⟨items, flags, hk⟩ := s.handler.act_keeps action w
      refine ⟨_, rfl, by rw [hk], fun builtin b => ?_⟩
      rw [builtin, World.act_builtin, World.has_foldl_undergo]

/-! ## Journeys through scenes -/

theorem resolve_actions (s : Session) (id : String) : (s.resolve id).actions = [] := by
  unfold resolve
  split
  · rfl
  · cases s.world <;> rfl

theorem resolve_accounts (s : Session) (id : String) :
    s.Accounts (s.resolve id).actions (s.resolve id).value := by
  rw [resolve_actions, resolve_value]
  split
  · exact .of_map rfl rfl fun w => w.things_reach _
  · exact .refl s

theorem arrive_accounts (s : Session) (scene : Scene) :
    s.Accounts (s.arrive scene).actions (s.arrive scene).value := by
  have placed : s.Accounts [] { s with
      world := s.world.map fun w => w.moveTo scene.id
      cursor := .start scene } := .of_map rfl rfl fun w => w.things_moveTo _
  exact placed.trans (applyAction?_accounts _ scene.action)

theorem enterWith_accounts {go : Scene → Session → Traced Session}
    (hgo : ∀ scene t, Accounts t (go scene t).actions (go scene t).value) (eager : Bool)
    (id : String) (s : Session) :
    s.Accounts (enterWith go eager id s).actions (enterWith go eager id s).value := by
  by_cases hp : s.state = .playing
  · cases hs : s.storyScene? id with
    | none =>
        have unknown : (enterWith go eager id s).Ensures (· = s)
            (· = .logged (.sceneNotFound id s.sceneId?)) := enterWith_of_unknown hp hs
        have quiet : (enterWith go eager id s).actions = [] :=
          Traced.actions_eq_nil fun action hm => by cases unknown.notes _ hm
        rw [quiet, unknown.value]
        exact .refl s
    | some scene =>
        rw [enterWith_of_scene hp hs, Traced.actions_bind, Traced.value_bind]
        refine (s.arrive_accounts scene).trans ?_
        split
        · exact resolve_accounts _ _
        · split
          · exact hgo scene _
          · exact .refl _
  · rw [enterWith_of_not_playing hp]
    exact .refl s

theorem follow_accounts (hops : Nat) : ∀ scene s,
    Accounts s (follow hops scene s).actions (follow hops scene s).value := by
  induction hops using Nat.strongRecOn with
  | ind hops ih =>
      intro scene s
      rw [follow.eq_def]
      dsimp only
      split
      · exact .refl s
      · split
        · split
          · exact .refl s
          · exact .refl s
        · split
          · exact .refl s
          · next hops => exact enterWith_accounts (ih hops (Nat.lt_succ_self hops)) true _ s
        · exact resolve_accounts s _
        · exact .refl s
        · exact .refl s

theorem enter_accounts (s : Session) (eager : Bool) (id : String) :
    s.Accounts (s.enter eager id).actions (s.enter eager id).value :=
  enterWith_accounts (follow_accounts _) eager id s

/-! ## Steps -/

theorem setName_accounts (s : Session) (name : String) :
    s.Accounts (s.setName name).actions (s.setName name).value.1 := by
  rw [setName_actions]
  unfold setName
  dsimp only
  split
  · exact .refl s
  · split
    · exact .refl s
    · exact .of_map rfl rfl fun w => w.things_rename _

theorem setPortrait_accounts (s : Session) (portrait : String) :
    s.Accounts [] (s.setPortrait portrait) := by
  unfold setPortrait
  exact .of_map rfl rfl fun w => w.things_setPortrait _

theorem advance_accounts (s : Session) : s.Accounts s.advance.actions s.advance.value := by
  rcases s.advance_cases with ⟨-, he⟩ | ⟨-, -, he⟩ | ⟨scene, -, -, -, he⟩
  · rw [he]
    exact .refl s
  · rw [he]
    exact .moved s _
  · rw [he]
    exact (Accounts.moved s _).trans (follow_accounts _ scene _)

theorem makeChoice_accounts (s : Session) (choice : Choice) :
    s.Accounts (s.makeChoice choice).actions (s.makeChoice choice).value := by
  by_cases hp : s.state = .playing
  · rw [makeChoice_of_playing hp]
    simp only [Traced.actions_bind, Traced.value_bind]
    refine (Accounts.refl s).trans ((s.applyAction?_accounts choice.action).trans ?_)
    split
    · exact resolve_accounts _ _
    · exact enter_accounts _ true _
    · exact .refl _
  · rw [makeChoice_of_not_playing hp]
    exact .refl s

theorem choose_accounts (s : Session) (index : Nat) :
    s.Accounts (s.choose index).actions (s.choose index).value.1 := by
  rcases s.choose_cases index with he | ⟨choice, -, he⟩
  · rw [he]
    exact .refl s
  · rw [he, Traced.actions_bind]
    exact (s.makeChoice_accounts choice).trans (.refl _)

theorem reset_accounts (s : Session) : s.Accounts s.reset.actions s.reset.value := by
  rcases s.reset_cases with ⟨-, he⟩ | ⟨w, hw, -, he⟩
  · rw [he]
    exact .refl s
  · rw [he]
    exact .of_map (f := World.leaveOutcome) rfl (by rw [hw]; rfl) World.things_leaveOutcome

theorem continueOn_accounts (s : Session) :
    s.Accounts s.continueOn.actions s.continueOn.value.1 := by
  rcases s.continueOn_cases with he | ⟨outcome, next, -, -, ⟨-, he⟩ | ⟨scene, -, he⟩⟩
  · rw [he]
    exact .refl s
  · rw [he]
    exact .refl s
  · rw [he]
    simp only [Traced.actions_bind]
    exact s.reset_accounts.trans ((enter_accounts _ true next).trans (.refl _))

theorem load_accounts {loaded : Loaded} (kept : (SessionStep.load loaded).keepsGame = true) :
    s.Accounts (s.load loaded).actions (s.load loaded).value.1 := by
  rcases s.load_value loaded with hv | ⟨story, hl, -⟩
  · rw [load_actions, hv]
    exact .refl s
  · rw [SessionStep.keepsGame, hl] at kept
    cases kept

/-- One step that is no interaction. -/
theorem step_accounts {step : SessionStep} (kept : step.keepsGame = true)
    (hi : ∀ object, step ≠ .interact object) :
    s.Accounts (s.step step).actions (s.step step).value.1 := by
  cases step with
  | start | bind => cases kept
  | load loaded => simpa [Session.step] using load_accounts kept
  | setName name => simpa [Session.step] using s.setName_accounts name
  | setPortrait portrait => exact s.setPortrait_accounts portrait
  | advance => simpa [Session.step] using s.advance_accounts
  | goTo scene => simpa [Session.step, goTo] using s.enter_accounts true scene
  | makeChoice choice => simpa [Session.step] using s.makeChoice_accounts choice
  | choose index => simpa [Session.step] using s.choose_accounts index
  | reset => simpa [Session.step] using s.reset_accounts
  | continueOn => simpa [Session.step] using s.continueOn_accounts
  | interact object => exact absurd rfl (hi object)

/-- A game that is started begins with nothing. -/
theorem start_accounts (started : s.start.value.2 = .ok ()) :
    ∃ story, (s.fresh story).Accounts (s.step .start).actions (s.step .start).value.1 := by
  rcases s.start_cases with ⟨error, he⟩ | ⟨story, scene, -, -, he⟩
  · rw [he] at started
    cases started
  · refine ⟨story, ?_⟩
    have actions : (s.step .start).actions = ((s.fresh story).enter false story.start).actions := by
      simp [step, he]
    have value : (s.step .start).value.1 = ((s.fresh story).enter false story.start).value := by
      simp [step, he]
    rw [actions, value]
    exact enter_accounts _ false story.start

/-- What holds once a game has been started, and is kept by every step of the game, holds of it from
then on. -/
theorem game_gather {α : Type} {tell : Session → SessionStep → List α}
    {I : List α → Session → Prop} {steps : List SessionStep} (started : s.start.value.2 = .ok ())
    (kept : ∀ step ∈ steps, step.keepsGame = true)
    (hstart : ∀ story, (s.fresh story).Accounts (s.step .start).actions (s.step .start).value.1 →
      I (tell s .start) (s.step .start).value.1)
    (hstep : ∀ step, step.keepsGame = true → ∀ told t, I told t →
      I (told ++ tell t step) (t.step step).value.1) :
    I (s.gather tell (.start :: steps)) (s.run (.start :: steps)).value := by
  obtain ⟨story, accounts⟩ := start_accounts started
  exact run_gather (fun step hm => hstep step (kept step hm)) (hstart story accounts)

end Session

end VisualNovel
