import VisualNovel.Proofs.Conditions

/-!
# Picking a choice

A choice may ask for a flag and for an item. It is offered while both are there (`Choice.Open`), and
it is picked by its place among those that are offered, which need not be its place in the scene.
Two places decide what comes of a pick: one looks the choice up and knows nothing of outcomes, and
the other carries it out if no outcome has been reached and knows nothing of what is offered.

So a pick carries out no choice that is closed, and over a run none is carried out that nobody has
handed over (`Session.gather_carriedOut_open`). But the answer to a pick is that of the look-up: of
a session that has reached an outcome it says that a choice has been made, although it has been
ignored.

When a choice is made the trace says so. No other step does, whatever it leads to, and that is shown
once for each leg of a journey.
-/

namespace VisualNovel

open Traced (Ensures)

/-! ## What a choice asks for -/

/-- The choice asks for no flag that is not set, and for no item that is not held. -/
def Choice.Open (c : Choice) (w : World) : Prop :=
  (∀ flag ∈ c.requiredFlag, w.hasFlag flag = true) ∧
    ∀ item ∈ c.requiredItem, w.hasItem item = true

instance (c : Choice) (w : World) : Decidable (c.Open w) :=
  inferInstanceAs (Decidable (_ ∧ _))

theorem Choice.isVisible_eq_true_iff {c : Choice} {w : World} :
    c.isVisible w = true ↔ c.Open w := by
  rw [isVisible_iff, needs, List.forall_mem_append]
  simp [Open, World.has]

/-! ## What the trace says of choices -/

/-- The text of the choice that is made, if the event is about that. -/
def Event.choiceMade? : Event → Option String
  | choiceMade text => some text
  | _ => none

/-- The note is not about a choice that is made. -/
def Note.Silent (note : Note) : Prop := ∀ text, note ≠ .logged (.choiceMade text)

theorem Note.silent_of_isEffect {note : Note} (h : note.isEffect = true) : note.Silent := by
  rintro text rfl
  cases h

theorem Note.silent_logged {event : Event} (h : event.choiceMade? = none) :
    (Note.logged event).Silent := by
  intro text he
  cases he
  cases h

theorem Note.silent_of_isRest {event : Event} (h : event.isRest = true) :
    (Note.logged event).Silent := by
  intro text he
  cases he
  cases h

namespace Traced

variable {α β : Type}

/-- The choices that are made, by their texts. -/
def choicesMade (t : Traced α) : List String := t.events.filterMap Event.choiceMade?

@[simp] theorem choicesMade_pure (a : α) : (pure a : Traced α).choicesMade = [] := rfl

@[simp] theorem choicesMade_bind (x : Traced α) (f : α → Traced β) :
    (x >>= f).choicesMade = x.choicesMade ++ (f x.value).choicesMade := by
  rw [choicesMade, events_bind, List.filterMap_append]
  rfl

theorem log_silent {event : Event} {a : α} (h : event.choiceMade? = none) :
    (do log event; pure a).Ensures (fun _ => True) Note.Silent :=
  .log (Note.silent_logged h) (.pure trivial)

theorem Ensures.choicesMade_eq_nil {t : Traced α} {P : α → Prop} (h : t.Ensures P Note.Silent) :
    t.choicesMade = [] := by
  rw [choicesMade, List.filterMap_eq_nil_iff]
  intro event he
  cases event with
  | choiceMade text => exact absurd rfl (h.notes _ (mem_events.1 he) text)
  | _ => rfl

end Traced

namespace Session

variable {s : Session} {w : World} {n : Nat} {c : Choice}

/-! ## Steps that make no choice -/

theorem applyAction?_silent (hw : s.world = some w) (action : Option Action) :
    (s.applyAction? action).Ensures (fun _ => True) Note.Silent :=
  (applyAction?_ensures hw action).mono (fun _ _ => trivial) fun _ => Note.silent_of_isEffect

theorem resolve_silent (s : Session) (id : String) :
    (s.resolve id).Ensures (fun _ => True) Note.Silent := by
  unfold resolve
  split
  · exact Traced.log_silent rfl
  · split
    · exact .pure trivial
    · exact Traced.log_silent rfl

theorem silent_journey :
    Journey (fun _ _ => True) (fun _ _ => True) (fun _ => True) Note.Silent where
  lost _ _ := ⟨trivial, Note.silent_logged rfl⟩
  arrives {s id scene} _ hp _ := by
    obtain ⟨w, hw, -⟩ := state_eq_playing_iff.1 hp
    refine (arrive_ensures hw scene).mono (fun _ _ => trivial) ?_
    rintro note (rfl | he)
    · exact Note.silent_logged rfl
    · exact Note.silent_of_isEffect he
  resolves _ _ _ := resolve_silent _ _
  leads _ _ _ := trivial
  rests _ _ := trivial
  quiet := Note.silent_of_isRest

theorem goTo_silent (s : Session) (id : String) :
    (s.goTo id).Ensures (fun _ => True) Note.Silent := by
  by_cases hp : s.state = .playing
  · exact silent_journey.enter trivial hp
  · rw [goTo, enter_of_not_playing hp]
    exact Traced.log_silent rfl

theorem start_silent (s : Session) : s.start.Ensures (fun _ => True) Note.Silent := by
  rcases s.start_cases with ⟨error, he⟩ | ⟨story, scene, -, -, he⟩
  · rw [he]
    exact .pure trivial
  · rw [he]
    exact .log (Note.silent_logged rfl)
      (.bind (silent_journey.enter trivial rfl) fun _ _ => .pure trivial)

theorem bind_silent (s : Session) (story : Story) :
    (s.bind story).Ensures (fun _ => True) Note.Silent := by
  refine .log (Note.silent_logged rfl) ?_
  dsimp only
  split
  · exact Traced.log_silent rfl
  · exact .pure trivial

theorem load_silent (s : Session) {loaded : Loaded}
    (hl : ∀ text, .choiceMade text ∉ loaded.events) :
    (s.load loaded).Ensures (fun _ => True) Note.Silent := by
  refine .bind (P := fun _ => True) ⟨trivial, ?_⟩ fun _ _ => ?_
  · rintro _ hm text rfl
    simp only [Traced.logAll, List.mem_map, Note.logged.injEq, exists_eq_right] at hm
    exact hl text hm
  · cases loaded.result with
    | error e => exact .pure trivial
    | ok story => exact .bind (bind_silent s story) fun _ _ => .pure trivial

theorem setName_silent (s : Session) (name : String) :
    (s.setName name).Ensures (fun _ => True) Note.Silent := by
  unfold setName
  dsimp only
  split
  · exact Traced.log_silent rfl
  · split
    · exact Traced.log_silent rfl
    · exact .pure trivial

theorem advance_silent (s : Session) : s.advance.Ensures (fun _ => True) Note.Silent := by
  rcases s.advance_cases with ⟨-, he⟩ | ⟨-, -, he⟩ | ⟨scene, hp, -, -, he⟩
  · rw [he]
    exact Traced.log_silent rfl
  · rw [he]
    exact .pure trivial
  · rw [he]
    exact silent_journey.follow _ trivial hp

theorem reset_silent (s : Session) : s.reset.Ensures (fun _ => True) Note.Silent := by
  rcases s.reset_cases with ⟨-, he⟩ | ⟨w, -, -, he⟩
  · rw [he]
    exact Traced.log_silent rfl
  · rw [he]
    exact Traced.log_silent rfl

theorem continueOn_silent (s : Session) : s.continueOn.Ensures (fun _ => True) Note.Silent := by
  rcases s.continueOn_cases with he | ⟨_, next, -, -, ⟨-, he⟩ | ⟨_, -, he⟩⟩
  · rw [he]
    exact .pure trivial
  · rw [he]
    exact Traced.log_silent rfl
  · rw [he]
    exact .bind (reset_silent s) fun t _ =>
      .bind (goTo_silent t next) fun _ _ => .pure trivial

theorem useObject_silent (s : Session) (scene : Scene) (object : SceneObject) (w : World) :
    (s.useObject scene object w).Ensures (fun _ => True) Note.Silent := by
  unfold useObject
  cases object.action with
  | none =>
      exact .bind (P := fun _ => True) (.pure trivial) fun _ _ => Traced.log_silent rfl
  | some action =>
      exact .bind ((s.handler.apply_ensures action w).mono (fun _ h => h)
        fun _ => Note.silent_of_isEffect) fun _ _ => Traced.log_silent rfl

theorem interact_silent (s : Session) (id : String) :
    (s.interact id).Ensures (fun _ => True) Note.Silent := by
  unfold interact
  split
  · next w scene _ _ =>
      split
      · exact .pure trivial
      · split
        · exact Traced.log_silent rfl
        · split
          · exact .pure trivial
          · split
            · exact Traced.log_silent rfl
            · exact useObject_silent s scene _ w
  · exact .pure trivial

theorem choose_of_offered (h : s.visibleChoices[n]? = some c) :
    s.choose n = (do return (← s.makeChoice c, true)) := by
  rw [choose, h]

theorem choose_of_not_offered (h : s.visibleChoices[n]? = none) :
    s.choose n = (do Traced.log (.noVisibleChoice n); return (s, false)) := by
  rw [choose, h]

/-- The choice that a step is about: the one that is handed over, or the one that is picked. -/
def choiceOf? (s : Session) : SessionStep → Option Choice
  | .makeChoice c => some c
  | .choose n => s.visibleChoices[n]?
  | _ => none

/-- A step that is about no choice makes none. Loading repeats what was logged when the story was
read. -/
theorem step_silent {step : SessionStep} (h : s.choiceOf? step = none)
    (read : ∀ loaded, step = .load loaded → ∀ text, .choiceMade text ∉ loaded.events) :
    (s.step step).Ensures (fun _ => True) Note.Silent := by
  cases step with
  | makeChoice c => cases h
  | choose n =>
      refine .bind (P := fun _ => True) ?_ fun _ _ => .pure trivial
      rw [choose_of_not_offered h]
      exact Traced.log_silent rfl
  | load loaded => exact .bind (load_silent s (read loaded rfl)) fun _ _ => .pure trivial
  | bind story => exact .bind (bind_silent s story) fun _ _ => .pure trivial
  | start => exact .bind (start_silent s) fun _ _ => .pure trivial
  | setName name => exact .bind (setName_silent s name) fun _ _ => .pure trivial
  | setPortrait portrait => exact .pure trivial
  | advance => exact .bind (advance_silent s) fun _ _ => .pure trivial
  | goTo id => exact .bind (goTo_silent s id) fun _ _ => .pure trivial
  | reset => exact .bind (reset_silent s) fun _ _ => .pure trivial
  | continueOn => exact .bind (continueOn_silent s) fun _ _ => .pure trivial
  | interact id => exact .bind (interact_silent s id) fun _ _ => .pure trivial

/-! ## Choices that are made -/

theorem makeChoice_choicesMade (s : Session) (c : Choice) :
    (s.makeChoice c).choicesMade = if s.state = .playing then [c.text] else [] := by
  by_cases hp : s.state = .playing
  · obtain ⟨w, hw, -⟩ := state_eq_playing_iff.1 hp
    obtain ⟨rest, he, silent⟩ : ∃ rest : Traced Session,
        s.makeChoice c = (do Traced.log (.choiceMade c.text); rest) ∧
          rest.Ensures (fun _ => True) Note.Silent := by
      refine ⟨_, makeChoice_of_playing hp, .bind (applyAction?_silent hw _) fun t _ => ?_⟩
      split
      · exact resolve_silent t _
      · exact goTo_silent t _
      · exact Traced.log_silent rfl
    rw [he, if_pos hp, Traced.choicesMade_bind, silent.choicesMade_eq_nil]
    rfl
  · rw [makeChoice_of_not_playing hp, if_neg hp]
    rfl

theorem choose_eq_true_iff : (s.choose n).value.2 = true ↔ n < s.visibleChoices.length := by
  cases h : s.visibleChoices[n]? with
  | none =>
      rw [choose_of_not_offered h]
      exact iff_of_false Bool.false_ne_true (Nat.not_lt.2 (List.getElem?_eq_none_iff.1 h))
  | some c =>
      rw [choose_of_offered h]
      exact iff_of_true rfl (List.getElem?_eq_some_iff.1 h).1

/-- In a running game those choices of the scene are offered that are open, in their order. -/
theorem visibleChoices_eq (hw : s.world = some w) :
    s.visibleChoices = (s.scene?.elim [] Scene.choices).filter (·.Open w) := by
  unfold visibleChoices
  rw [hw]
  cases s.scene? with
  | none => rfl
  | some scene =>
      refine List.filter_congr fun c _ => ?_
      rw [Bool.eq_iff_iff, decide_eq_true_iff]
      exact Choice.isVisible_eq_true_iff

/-! ## Choices that are carried out -/

/-- The choice that a step carries out, and the world at that moment. While no game is being played
there is none. -/
def carriedOut (s : Session) (step : SessionStep) : List (World × Choice) :=
  match s.world, s.choiceOf? step with
  | some w, some c => if w.terminal then [] else [(w, c)]
  | _, _ => []

theorem carriedOut_of_none {step : SessionStep} (h : s.choiceOf? step = none) :
    s.carriedOut step = [] := by
  rw [carriedOut, h]
  cases s.world <;> rfl

theorem carriedOut_of_some {step : SessionStep} (h : s.choiceOf? step = some c) :
    (s.carriedOut step).map (·.2.text) = if s.state = .playing then [c.text] else [] := by
  rw [carriedOut, h]
  cases hw : s.world with
  | none => simp [state_eq_idle_iff.2 hw]
  | some w =>
      cases ht : w.terminal with
      | false => simp [state_eq_playing_iff.2 ⟨w, hw, ht⟩, ht]
      | true => simp [state_eq_resolved_iff.2 ⟨w, hw, ht⟩, ht]

theorem mem_carriedOut {step : SessionStep} {m : World × Choice} (h : m ∈ s.carriedOut step) :
    s.world = some m.1 ∧ s.choiceOf? step = some m.2 := by
  unfold carriedOut at h
  split at h
  · next w c hw hc =>
      split at h
      · cases h
      · rw [List.mem_singleton.1 h]
        exact ⟨hw, hc⟩
  · cases h

/-- A step says that it makes the choice that it carries out, and no other. -/
theorem step_choicesMade {step : SessionStep}
    (read : ∀ loaded, step = .load loaded → ∀ text, .choiceMade text ∉ loaded.events) :
    (s.step step).choicesMade = (s.carriedOut step).map (·.2.text) := by
  cases h : s.choiceOf? step with
  | none =>
      rw [carriedOut_of_none h]
      exact (step_silent h read).choicesMade_eq_nil
  | some c =>
      have made : (s.step step).choicesMade = (s.makeChoice c).choicesMade := by
        cases step with
        | makeChoice c' =>
            cases h
            simp [Session.step]
        | choose n => simp [Session.step, choose_of_offered h]
        | _ => cases h
      rw [made, makeChoice_choicesMade, carriedOut_of_some h]

theorem run_choicesMade {steps : List SessionStep} :
    ∀ {s : Session},
      (∀ loaded, .load loaded ∈ steps → ∀ text, .choiceMade text ∉ loaded.events) →
      (s.run steps).choicesMade = (s.gather carriedOut steps).map (·.2.text) := by
  induction steps with
  | nil => exact fun _ => rfl
  | cons step steps ih =>
      intro s read
      have here : (s.step step).choicesMade = (s.carriedOut step).map (·.2.text) :=
        step_choicesMade fun loaded h => read loaded (h ▸ List.mem_cons_self)
      have later := ih (s := (s.step step).value.1) fun loaded h =>
        read loaded (List.mem_cons_of_mem _ h)
      rw [Session.run, gather, Traced.choicesMade_bind, List.map_append, here, ← later]

/-- What is offered is open. -/
theorem open_of_offered (hw : s.world = some w) (h : s.visibleChoices[n]? = some c) : c.Open w := by
  have offered : c ∈ s.visibleChoices := List.mem_of_getElem? h
  rw [visibleChoices_eq hw] at offered
  exact of_decide_eq_true (List.mem_filter.1 offered).2

theorem step_carriedOut_open {step : SessionStep} (hand : ∀ c, step ≠ .makeChoice c) :
    ∀ m ∈ s.carriedOut step, m.2.Open m.1 := by
  intro m hm
  obtain ⟨hw, hc⟩ := mem_carriedOut hm
  cases step with
  | choose n => exact open_of_offered hw hc
  | makeChoice c => exact absurd rfl (hand c)
  | _ => cases hc

theorem gather_carriedOut_open {steps : List SessionStep} (hand : ∀ c, .makeChoice c ∉ steps) :
    ∀ m ∈ s.gather carriedOut steps, m.2.Open m.1 := by
  show ∀ m ∈ [] ++ s.gather carriedOut steps, m.2.Open m.1
  refine run_gather (I := fun (told : List (World × Choice)) _ => ∀ m ∈ told, m.2.Open m.1)
    (fun step hs told t before m hm => ?_) fun _ hm => absurd hm List.not_mem_nil
  rcases List.mem_append.1 hm with hm | hm
  · exact before m hm
  · exact step_carriedOut_open (fun c h => hand c (h ▸ hs)) m hm

/-- A running game offers those choices of the scene for which nothing is missing, in their order.
While it is played a pick is answered with yes exactly if it is one of these by its place, and then
that choice is made. So no run in which choices are only picked ever carries out one for which
something is missing at that moment. What is carried out in a run is told by its trace. -/
theorem picks_only_open (s : Session) :
    (∀ w, s.world = some w →
      s.visibleChoices = (s.scene?.elim [] Scene.choices).filter (·.Open w)) ∧
    (s.state = .playing → ∀ n,
      ((s.choose n).value.2 = true ↔ n < s.visibleChoices.length) ∧
      ∀ c, s.visibleChoices[n]? = some c →
        s.choose n = (do return (← s.makeChoice c, true))) ∧
    ∀ steps : List SessionStep,
      ((∀ c, .makeChoice c ∉ steps) → ∀ m ∈ s.gather carriedOut steps, m.2.Open m.1) ∧
      ((∀ loaded, .load loaded ∈ steps → ∀ text, .choiceMade text ∉ loaded.events) →
        (s.run steps).choicesMade = (s.gather carriedOut steps).map (·.2.text)) :=
  ⟨fun _ hw => visibleChoices_eq hw,
    fun _ _ => ⟨choose_eq_true_iff, fun _ => choose_of_offered⟩,
    fun _ => ⟨gather_carriedOut_open, run_choicesMade⟩⟩

end Session

/-- A story in which one has to know the code and to have the key to get any further. -/
def Story.vault : Story :=
  (blank "The vault" "hall")
    |>.addScene
      { id := "hall"
        choices := [
          { text := "Enter"
            next := some "vault"
            requiredFlag := some "code"
            requiredItem := some "key" },
          { text := "Ask", next := some "hall", action := some (.setFlag "code") },
          { text := "Leave", outcome := some "out" }]
        objects := [{ id := "mat", yields := some "key" }] }
    |>.addScene { id := "vault", dialogue := [{ text := "It is empty." }] }
    |>.addOutcome "out" { message := "You will never know." }

namespace Session

/-- A session in the hall of the vault. -/
def atVault : Session := ((new {}).run [.bind Story.vault, .start]).value

/-- The third choice is not offered yet; what is first changes with the key. -/
def breakIn : List SessionStep := [.choose 2, .choose 0, .interact "mat", .choose 0]

theorem picks_only_open_vault :
    atVault.visibleChoices.map (·.text) = ["Ask", "Leave"] ∧
      (atVault.choose 2).value.2 = false ∧
      (∀ m ∈ atVault.gather carriedOut breakIn, m.2.Open m.1) ∧
      (atVault.run breakIn).choicesMade = ["Ask", "Enter"] := by
  obtain ⟨offered, picks, runs⟩ := picks_only_open atVault
  obtain ⟨gated, told⟩ := runs breakIn
  have playing : atVault.state = .playing := by decide +kernel
  have refused : ¬ (atVault.choose 2).value.2 = true := by
    rw [(picks playing 2).1]
    decide +kernel
  refine ⟨?_, Bool.eq_false_iff.2 refused, gated (by simp [breakIn]), ?_⟩
  · rw [offered _ rfl]
    decide +kernel
  · rw [told (by simp [breakIn])]
    decide +kernel

/-! ## The answer to a pick -/

variable {s : Session} {n : Nat}

theorem choose_choicesMade_ne_nil_iff :
    (s.choose n).choicesMade ≠ [] ↔ s.state = .playing ∧ n < s.visibleChoices.length := by
  cases h : s.visibleChoices[n]? with
  | none =>
      rw [choose_of_not_offered h]
      have beyond := List.getElem?_eq_none_iff.1 h
      exact iff_of_false (fun made => made rfl) fun offered => Nat.not_lt.2 beyond offered.2
  | some c =>
      have offered := (List.getElem?_eq_some_iff.1 h).1
      rw [choose_of_offered h, Traced.choicesMade_bind, makeChoice_choicesMade,
        and_iff_left offered]
      by_cases hp : s.state = .playing <;> simp [hp]

theorem choose_unchanged (silent : (s.choose n).choicesMade = []) :
    (s.choose n).value.1 = s ∧ (s.choose n).actions = [] := by
  cases h : s.visibleChoices[n]? with
  | none =>
      rw [choose_of_not_offered h]
      exact ⟨rfl, rfl⟩
  | some c =>
      have idle : s.state ≠ .playing := fun hp =>
        choose_choicesMade_ne_nil_iff.2 ⟨hp, (List.getElem?_eq_some_iff.1 h).1⟩ silent
      rw [choose_of_offered h, makeChoice_of_not_playing idle]
      exact ⟨rfl, rfl⟩

/-- Where no game is running there is nothing to pick. -/
theorem state_ne_idle_of_offered (h : n < s.visibleChoices.length) : s.state ≠ .idle := by
  intro idle
  have none_offered : s.visibleChoices = [] := by
    rw [visibleChoices, state_eq_idle_iff.1 idle]
  rw [none_offered] at h
  cases h

/-- A pick is answered with yes exactly if there is a choice at that place among those that are
offered, and a choice is made exactly if the game is being played as well. Otherwise nothing
changes. So the answer is wrong after an outcome, if there is such a choice, and never else. -/
theorem choose_answers_offer (s : Session) (n : Nat) :
    ((s.choose n).value.2 = true ↔ n < s.visibleChoices.length) ∧
    ((s.choose n).choicesMade ≠ [] ↔ s.state = .playing ∧ n < s.visibleChoices.length) ∧
    ((s.choose n).choicesMade = [] → (s.choose n).value.1 = s ∧ (s.choose n).actions = []) ∧
    ((s.choose n).value.2 = true ∧ (s.choose n).choicesMade = [] ↔
      s.state = .resolved ∧ n < s.visibleChoices.length) := by
  refine ⟨choose_eq_true_iff, choose_choicesMade_ne_nil_iff, choose_unchanged, ?_⟩
  rw [choose_eq_true_iff, and_comm, and_congr_left_iff]
  intro offered
  have silent_iff : (s.choose n).choicesMade = [] ↔ s.state ≠ .playing := by
    constructor
    · intro silent hp
      exact choose_choicesMade_ne_nil_iff.2 ⟨hp, offered⟩ silent
    · intro idle
      exact Decidable.byContradiction fun made => idle (choose_choicesMade_ne_nil_iff.1 made).1
  rw [silent_iff]
  cases hs : s.state with
  | idle => exact absurd hs (state_ne_idle_of_offered offered)
  | playing => simp
  | resolved => simp

/-- A session whose player has left the vault alone. -/
def leftVault : Session := (atVault.run [.choose 1]).value

theorem leftVault_resolved : leftVault.state = .resolved := by decide +kernel

theorem choose_answers_offer_vault :
    leftVault.state = .resolved ∧ leftVault.visibleChoices.map (·.text) = ["Ask", "Leave"] ∧
      (leftVault.choose 1).value.2 = true ∧ (leftVault.choose 1).value.1 = leftVault ∧
      ¬ (leftVault.choose 2).value.2 = true := by
  obtain ⟨-, -, unchanged, inVain⟩ := choose_answers_offer leftVault 1
  obtain ⟨answer, silent⟩ := inVain.2 ⟨leftVault_resolved, by decide +kernel⟩
  refine ⟨leftVault_resolved, by decide +kernel, answer, (unchanged silent).1, ?_⟩
  rw [(choose_answers_offer leftVault 2).1]
  decide +kernel

/-- The answer to a pick may be yes when it has been ignored. -/
theorem choose_true_in_vain :
    ∃ s n, Reached s ∧ s.state = .resolved ∧ (s.choose n).value.2 = true ∧
      (s.choose n).choicesMade = [] ∧ (s.choose n).value.1 = s := by
  have offered : 1 < leftVault.visibleChoices.length := by decide +kernel
  have silent : (leftVault.choose 1).choicesMade = [] := by
    refine Decidable.byContradiction fun made => ?_
    have playing := (choose_choicesMade_ne_nil_iff.1 made).1
    rw [leftVault_resolved] at playing
    cases playing
  exact ⟨leftVault, 1, ((Reached.new _ _).run _).run _, leftVault_resolved,
    choose_eq_true_iff.2 offered, silent, (choose_unchanged silent).1⟩

end Session

end VisualNovel
