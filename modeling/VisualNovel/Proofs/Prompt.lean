import VisualNovel.Play.Game
import VisualNovel.Proofs.Identity

/-!
# At the prompt

Between two lines of input a game remembers what the player was asked for when the session was last
shown. It is shown again only after some lines, so the memory is right only if all the other lines
leave the session alone. They do: what they are answered with is a look at the inventory, a hint, or
the word that something has been refused, and a refusal leaves no mark. So a line that does not show
the session gives back the very same playthrough.

What can come of a line of input is listed once (`Turn`). An output is an aside if it is no part of
what a session shows of its state (`Output.isAside`), and apart from the state of the session that
is shown, a line outputs nothing but asides. A menu is no aside. So if one is being waited for, it
is the last one that has been shown, the session is still the one it was shown of, and the numbers
stand for what they stood for then.
-/

namespace VisualNovel.Play

/-! ## Asides -/

/-- Whether a display is no part of a session's state: it is the answer to a line, the view of a
scene, or part of the frame around the game. -/
def Display.isAside : Display → Bool
  | line .. | outcome .. | menu _ | noWayForward | ending _ | stop => false
  | _ => true

/-- Whether an output is no part of a session's state. -/
def Output.isAside : Output → Bool
  | shown display => display.isAside
  | _ => true

/-- Nothing of it is part of a session's state. -/
def Aside (outputs : List Output) : Prop := ∀ o ∈ outputs, o.isAside = true

theorem aside_nil : Aside [] := List.forall_mem_nil _

theorem Aside.append {os os' : List Output} (h : Aside os) (h' : Aside os') :
    Aside (os ++ os') := by
  intro o ho
  exact (List.mem_append.1 ho).elim (h o) (h' o)

theorem aside_logged (events : List Event) : Aside (events.map .logged) := by
  intro o ho
  obtain ⟨event, -, rfl⟩ := List.mem_map.1 ho
  rfl

theorem aside_shown {displays : List Display} (h : ∀ d ∈ displays, d.isAside = true) :
    Aside (displays.map .shown) := by
  intro o ho
  obtain ⟨display, hd, rfl⟩ := List.mem_map.1 ho
  exact h display hd

theorem aside_display {display : Display} (h : display.isAside = true) :
    Aside [.shown display] := List.forall_mem_singleton.2 h

theorem Aside.not_mem {os : List Output} (h : Aside os) {display : Display}
    (hd : display.isAside = false) : Output.shown display ∉ os := by
  intro mem
  have aside : display.isAside = true := h _ mem
  rw [hd] at aside
  cases aside

/-! ## What is shown of a session -/

/-- What a session outputs of its state, whenever it is shown. -/
def stateOutputs (s : Session) : List Output := (stateDisplays s).1.map .shown

/-- The texts of the choices that a session offers. -/
def offers (s : Session) : List String := s.visibleChoices.map fun c => s.fillIn c.text

/-- In a menu each choice has its number before it, counted from one. -/
theorem text_menu (styled : Bool) (choices : List String) :
    (Display.menu choices).text styled = "\n" ++ String.join ((choices.zipIdx 1).map fun entry =>
      Display.ofLine (toString entry.2 ++ ". " ++ entry.1)) := by
  have entries : ∀ number, Display.entries number choices =
      String.join ((choices.zipIdx number).map fun entry =>
        Display.ofLine (toString entry.2 ++ ". " ++ entry.1)) := by
    induction choices with
    | nil => exact fun _ => rfl
    | cons choice choices ih =>
        intro number
        rw [Display.entries, List.zipIdx_cons, List.map_cons, String.join_cons, ih]
  rw [Display.text, entries]

/-- Nothing but its menu is shown of the state of a session that waits for a choice. -/
theorem stateOutputs_of_choice {s : Session} (h : (stateDisplays s).2 = .choice) :
    s.state = .playing ∧ stateOutputs s = [.shown (.menu (offers s))] := by
  unfold stateOutputs
  revert h
  fun_cases stateDisplays s <;> intro h
  all_goals first
    | exact ⟨‹s.state = .playing›, rfl⟩
    | (dsimp only at h; split at h <;> cases h)
    | cases h

theorem aside_sceneDisplays (s : Session) (scene : Option String) :
    ∀ d ∈ sceneDisplays s scene, d.isAside = true := by
  intro d hd
  unfold sceneDisplays at hd
  split at hd
  · cases hd
  · split at hd
    · cases hd
    · rw [List.mem_singleton.1 hd]
      rfl

namespace Playthrough

theorem shown_ofSession (s : Session) (scene : Option String) :
    (ofSession s scene).2.map Output.shown =
      (sceneDisplays s scene).map .shown ++ stateOutputs s := by
  unfold ofSession stateOutputs
  exact List.map_append

/-- To show a session a second time would change nothing of what is remembered. -/
theorem ofSession_again (s : Session) (scene : Option String) :
    (ofSession s (ofSession s scene).1.shownScene).1 = (ofSession s scene).1 := by
  unfold ofSession
  dsimp only
  rw [← Option.or_assoc, Option.or_self]

/-! ## What a line comes to -/

theorem use_cases (p : Playthrough) (object : String) :
    (∃ display : Display, display.isAside = true ∧
      (p.use object).value = .remark p.session display) ∨
    ∃ display : Display, display.isAside = true ∧
      (p.use object).value = .moved (p.session.interact object).value.1 [display] := by
  unfold use
  by_cases refused : ∀ yielded, (p.session.interact object).value.2 ≠ .done yielded
  · have same := (Session.interact_of_refused refused).value
    simp only [Traced.value_bind, same]
    generalize (p.session.interact object).value.2 = interaction at refused
    cases interaction with
    | done yielded => exact absurd rfl (refused yielded)
    | locked required => exact .inl ⟨.needed required, rfl, rfl⟩
    | unavailable => exact .inl ⟨.nothingCalled object, rfl, rfl⟩
  · obtain ⟨yielded, done⟩ : ∃ yielded, (p.session.interact object).value.2 = .done yielded := by
      simpa using refused
    simp only [Traced.value_bind, done]
    cases yielded with
    | none => exact .inr ⟨.used, rfl, rfl⟩
    | some item => exact .inr ⟨.taken item, rfl, rfl⟩

theorem pick_of_choice {p : Playthrough} {number : Nat} {choice : Choice} (pos : 1 ≤ number)
    (h : p.session.visibleChoices[number - 1]? = some choice) :
    (p.pick number).value = .moved (p.session.makeChoice choice).value [] ∧
      (p.pick number).events = (p.session.makeChoice choice).events := by
  unfold pick
  rw [if_neg (by omega), Session.choose, h]
  simp

theorem pick_of_no_choice {p : Playthrough} {number : Nat}
    (h : number = 0 ∨ p.session.visibleChoices.length < number) :
    (p.pick number).value = .remark p.session .noSuchChoice := by
  unfold pick
  split
  · rfl
  · next pos =>
      have beyond : p.session.visibleChoices[number - 1]? = none :=
        List.getElem?_eq_none (by omega)
      rw [Session.choose, beyond]
      rfl

theorem pick_cases (p : Playthrough) (number : Nat) :
    (p.pick number).value = .remark p.session .noSuchChoice ∨
    ∃ choice, (p.pick number).value = .moved (p.session.makeChoice choice).value [] := by
  by_cases h : number = 0 ∨ p.session.visibleChoices.length < number
  · exact .inl (pick_of_no_choice h)
  · have found : number - 1 < p.session.visibleChoices.length := by omega
    refine .inr ⟨p.session.visibleChoices[number - 1], ?_⟩
    exact (pick_of_choice (by omega) (List.getElem?_eq_getElem found)).1

/-- The session is left, or it stays and there is a remark, or it takes a step. -/
theorem react_cases (p : Playthrough) (input : String) :
    (p.react input).value = .quit ∨
    (∃ display : Display, display.isAside = true ∧
      (p.react input).value = .remark p.session display) ∨
    ∃ step remarks, (∀ d ∈ remarks, Display.isAside d = true) ∧
      (p.react input).value = .moved (p.session.step step).value.1 remarks := by
  unfold react
  split
  · exact .inl rfl
  · refine .inr ?_
    split
    · exact .inl ⟨_, rfl, rfl⟩
    · split
      · exact .inr ⟨.advance, [], nofun, rfl⟩
      · split
        · exact .inr ⟨.continueOn, [], nofun, rfl⟩
        · split
          · next object _ =>
              rcases p.use_cases object with remark | ⟨display, aside, he⟩
              · exact .inl remark
              · exact .inr ⟨.interact object, [display], by simpa using aside, he⟩
          · split
            · next number _ _ =>
                rcases p.pick_cases number with he | ⟨choice, he⟩
                · exact .inl ⟨.noSuchChoice, rfl, he⟩
                · exact .inr ⟨.makeChoice choice, [], nofun, he⟩
            · exact .inl ⟨.hint p.awaiting, rfl, rfl⟩

theorem feed_of_quit {p : Playthrough} {line : String}
    (h : (p.react (Text.trim line)).value = .quit) :
    p.feed line =
      ({ p with awaiting := .nothing }, (p.react (Text.trim line)).events.map .logged) := by
  unfold feed
  dsimp only
  rw [h]

/-- A remark leaves everything as it is. -/
theorem feed_of_remark {p : Playthrough} {line : String} {display : Display}
    (h : (p.react (Text.trim line)).value = .remark p.session display) :
    p.feed line =
      (p, (p.react (Text.trim line)).events.map .logged ++ [.shown display]) := by
  unfold feed
  dsimp only
  rw [h]

theorem feed_of_moved {p : Playthrough} {line : String} {session : Session}
    {remarks : List Display} (h : (p.react (Text.trim line)).value = .moved session remarks) :
    p.feed line = ((ofSession session p.shownScene).1,
      (p.react (Text.trim line)).events.map .logged ++
        (remarks ++ (ofSession session p.shownScene).2).map .shown) := by
  unfold feed
  dsimp only
  rw [h]

end Playthrough

/-- A number begins with a digit or a plus sign. -/
theorem head_of_number? {input : String} {number : Nat} (h : number? input = some number) :
    ∃ c cs, input.toList = c :: cs ∧ (c = '+' ∨ c.isDigit = true) := by
  unfold number? at h
  dsimp only at h
  split at h
  · next cs hl => exact ⟨'+', cs, hl, .inl rfl⟩
  · split at h
    · cases h
    · next digits =>
        cases hl : input.toList with
        | nil => simp [hl] at digits
        | cons c cs =>
            simp only [hl, List.isEmpty_cons, List.all_cons, Bool.false_or, Bool.not_eq_true',
              Bool.not_eq_false, Bool.and_eq_true] at digits
            exact ⟨c, cs, rfl, .inr digits.1⟩

/-- A number is no command, so at a menu it is the number of a choice. -/
theorem Playthrough.react_number {p : Playthrough} {input : String} {number : Nat}
    (waits : p.awaiting = .choice) (h : number? input = some number) :
    p.react input = p.pick number := by
  obtain ⟨c, cs, hl, hc⟩ := head_of_number? h
  have other : ∀ text : String, text.toList.head?.all (fun c => c != '+' && !c.isDigit) = true →
      input ≠ text := by
    rintro _ hn rfl
    rw [hl] at hn
    rcases hc with rfl | digit
    · cases hn
    · simp [digit] at hn
  have unused : usedObject? input = none := by
    unfold usedObject?
    refine if_neg ?_
    rw [hl]
    intro hp
    have first : 'u' = c := (List.cons_prefix_cons.1 (List.isPrefixOf_iff_prefix.1 hp)).1
    rw [← first] at hc
    exact absurd hc (by decide)
  unfold react
  simp only [other "q" rfl, other "quit" rfl, other "i" rfl, other "inventory" rfl, other "" rfl,
    other "c" rfl, unused, waits, h, decide_false, Bool.or_self, Bool.false_and,
    Bool.false_eq_true, if_false]

/-! ## What a line comes to in a game -/

/-- Some steps make another session of a session. -/
def Becomes (s t : Session) : Prop := ∃ steps, t = (s.run steps).value

theorem Becomes.refl (s : Session) : Becomes s s := ⟨[], rfl⟩

theorem Becomes.trans {s t u : Session} (h : Becomes s t) (h' : Becomes t u) : Becomes s u := by
  obtain ⟨steps, rfl⟩ := h
  obtain ⟨steps', rfl⟩ := h'
  exact ⟨steps ++ steps', (Session.run_append steps steps' s).symm⟩

/-- Some steps are taken, and the session that comes of them is shown. -/
def Shows (s : Session) (r : Game × List Output) : Prop :=
  ∃ t, Becomes s t ∧ ∃ scene asides, Aside asides ∧
    r = (.ofPlaythrough (Playthrough.ofSession t scene).1, asides ++ stateOutputs t)

/-- A game is started with a session, unless it fails for a reason. -/
def Opens (s : Session) (r : Game × List Output) : Prop :=
  (∃ failure outputs, Aside outputs ∧ r = (.ended (some failure), outputs)) ∨ Shows s r

section Opening

variable {s t : Session}

/-- Remarks may come before the session is shown. -/
theorem shows_ofSession (came : Becomes s t) (scene : Option String) {outputs : List Output}
    {remarks : List Display} (logged : Aside outputs)
    (remarked : ∀ d ∈ remarks, d.isAside = true) :
    Shows s (.ofPlaythrough (Playthrough.ofSession t scene).1,
      outputs ++ (remarks ++ (Playthrough.ofSession t scene).2).map .shown) := by
  refine ⟨t, came, scene, outputs ++ remarks.map .shown ++ (sceneDisplays t scene).map .shown,
    (logged.append (aside_shown remarked)).append (aside_shown (aside_sceneDisplays t scene)), ?_⟩
  rw [List.map_append, Playthrough.shown_ofSession, List.append_assoc, List.append_assoc]

theorem Opens.fail (message : String) {outputs : List Output} (h : Aside outputs) :
    Opens s (Game.fail message outputs) := .inl ⟨message, outputs, h, rfl⟩

/-- Before a game is started steps may be taken, and something may be logged. -/
theorem Opens.behind (came : Becomes s t) {outputs : List Output} (logged : Aside outputs)
    {r : Game × List Output} (h : Opens t r) : Opens s (r.1, outputs ++ r.2) := by
  rcases h with ⟨failure, asides, aside, rfl⟩ | ⟨u, further, scene, asides, aside, rfl⟩
  · exact .inl ⟨failure, _, logged.append aside, rfl⟩
  · refine .inr ⟨u, came.trans further, scene, _, logged.append aside, ?_⟩
    rw [List.append_assoc]

theorem start_opens (s : Session) : Opens s (Game.start s) := by
  have logged : Aside (s.start.events.map (.loggedAtStart s.profile.name)) := by
    intro o ho
    obtain ⟨event, -, rfl⟩ := List.mem_map.1 ho
    rfl
  unfold Game.start
  dsimp only
  split
  · exact .fail _ logged
  · next t ht =>
      have came : Becomes s t := ⟨[.start], (congrArg Prod.fst ht).symm⟩
      have opening : ∀ d ∈ [Display.opening ((t.story.map (·.title)).getD "")],
          d.isAside = true := List.forall_mem_singleton.2 rfl
      exact .inr (shows_ofSession came none logged opening)

theorem dress_opens (guise : Guise) (s : Session) : Opens s (Game.dress guise s) := by
  obtain ⟨name, portrait, characters⟩ := guise
  -- A portrait is set, if there is one, and then the game is started.
  have portrayed : ∀ t outputs, Becomes s t → Aside outputs →
      let u := portrait.elim t t.setPortrait
      Opens s ((Game.start u).1, outputs ++ (Game.start u).2) := by
    intro t outputs came logged
    cases portrait with
    | none => exact (start_opens t).behind came logged
    | some portrait =>
        exact (start_opens _).behind (came.trans ⟨[.setPortrait portrait], rfl⟩) logged
  unfold Game.dress
  cases name with
  | none =>
      have started := portrayed s [] (.refl s) aside_nil
      cases portrait with
      | none => exact started
      | some portrait => exact started
  | some name =>
      have came : Becomes s (s.setName name).value.1 :=
        ⟨[.setName name], by simp [Session.run, Session.step]⟩
      dsimp only
      generalize s.setName name = named at came ⊢
      obtain ⟨⟨t, accepted⟩, notes⟩ := named
      have started := portrayed t _ came (aside_logged (Traced.mk (t, accepted) notes).events)
      split
      · exact .fail _ (aside_logged _)
      · cases portrait with
        | none => exact started
        | some portrait => exact started

theorem confirm_opens (roster : Roster) (guise : Guise) (s : Session) :
    Opens s (Game.confirm roster guise s) := by
  have came : Becomes s (roster.applyTo s).value.1 := s.exists_steps_of_take (.cast roster)
  unfold Game.confirm
  generalize roster.applyTo s = applied at came ⊢
  obtain ⟨⟨t, accepted⟩, notes⟩ := applied
  dsimp only
  split
  · exact .fail _ (aside_logged _)
  · exact (dress_opens guise t).behind came (aside_logged _)

end Opening

/-- What can come of a line of input, or of its end. -/
inductive Turn : Game → Game × List Output → Prop
  | ended (failure : Option String) (last : Option Playthrough) :
    Turn (.ended failure last) (.ended failure last, [])
  | picks {roster roster' : Roster} {s : Session} {guise : Guise} {outputs : List Output}
    (aside : Aside outputs) : Turn (.picking roster s guise) (.picking roster' s guise, outputs)
  | opens {roster : Roster} {s : Session} {guise : Guise} {r : Game × List Output}
    (opened : Opens s r) : Turn (.picking roster s guise) r
  /-- The line is answered, and that is all. -/
  | answers {p : Playthrough} {outputs : List Output} (aside : Aside outputs) :
    Turn (.playing p) (.playing p, outputs)
  | leaves {p p' : Playthrough} {failure : Option String} {outputs : List Output}
    (same : p'.session = p.session) (aside : Aside outputs) :
    Turn (.playing p) (.ended failure (some p'), outputs)
  | shows {p : Playthrough} {r : Game × List Output} (shown : Shows p.session r) :
    Turn (.playing p) r

theorem feedPicking_turn (roster : Roster) (s : Session) (guise : Guise) (line : String) :
    Turn (.picking roster s guise) (Game.feedPicking roster s guise line) := by
  unfold Game.feedPicking
  split
  · exact .opens (confirm_opens roster guise s)
  · exact .picks aside_nil
  · exact .picks aside_nil
  · split
    · exact .picks aside_nil
    · exact .picks (aside_display rfl)

theorem feed_playing (p : Playthrough) (line : String) :
    (Game.playing p).feed (.line line) = (.ofPlaythrough (p.feed line).1, (p.feed line).2) := by
  rw [Game.feed]

theorem feedPlaying_turn (p : Playthrough) (line : String) :
    Turn (.playing p) ((Game.playing p).feed (.line line)) := by
  have logged := aside_logged (p.react (Text.trim line)).events
  rw [feed_playing]
  rcases p.react_cases (Text.trim line) with
    he | ⟨display, aside, he⟩ | ⟨step, remarks, aside, he⟩
  · rw [Playthrough.feed_of_quit he, Game.ofPlaythrough, if_pos rfl]
    dsimp only
    exact .leaves rfl logged
  · have answered : Aside ((p.react (Text.trim line)).events.map .logged ++ [.shown display]) :=
      logged.append (aside_display aside)
    rw [Playthrough.feed_of_remark he, Game.ofPlaythrough]
    split
    · exact .leaves rfl answered
    · exact .answers answered
  · rw [Playthrough.feed_of_moved he]
    exact .shows (shows_ofSession ⟨[step], rfl⟩ p.shownScene logged aside)

theorem feed_turn (game : Game) (input : Input) : Turn game (game.feed input) := by
  match game, input with
  | .ended failure last, _ => exact .ended failure last
  | .picking roster s guise, .line text => exact feedPicking_turn roster s guise text
  | .picking .., .garbled => exact .opens (.inl ⟨_, [], aside_nil, rfl⟩)
  | .picking roster s guise, .finished => exact .opens (confirm_opens roster guise s)
  | .playing p, .line text => exact feedPlaying_turn p text
  | .playing p, .garbled => exact .leaves rfl aside_nil
  | .playing p, .finished => exact .leaves rfl aside_nil

/-- A game begins with a character being picked, or it is started at once. -/
theorem begin_turn (story : Story) (guise : Guise) :
    (∃ roster outputs, Aside outputs ∧ Game.begin story guise =
      (.picking roster ((Session.new {}).bind story).value guise, outputs)) ∨
    Opens (Session.new {}) (Game.begin story guise) := by
  have bound : Becomes (Session.new {}) ((Session.new {}).bind story).value :=
    ⟨[.bind story], rfl⟩
  have logged := aside_logged ((Session.new {}).bind story).events
  unfold Game.begin
  dsimp only
  split
  · next roster _ =>
      exact .inl ⟨roster, _, logged.append (aside_display rfl), rfl⟩
  · exact .inr ((dress_opens guise _).behind bound logged)

/-! ## In the course of a game -/

namespace Game

/-- The game after some lines of input, and what is output till then. -/
def after (game : Game) : List Input → Game × List Output
  | [] => (game, [])
  | line :: lines =>
    let (next, outputs) := game.feed line
    let (last, rest) := next.after lines
    (last, game.request ++ outputs ++ rest)

/-- How far a game of a story gets with some lines of input, and what is output till then. -/
def course (story : Story) (guise : Guise) (lines : List Input) : Game × List Output :=
  let (game, outputs) := begin story guise
  let (last, rest) := game.after lines
  (last, outputs ++ rest)

theorem after_concat (game : Game) (lines : List Input) (line : Input) :
    game.after (lines ++ [line]) = (((game.after lines).1.feed line).1,
      (game.after lines).2 ++ ((game.after lines).1.request ++
        ((game.after lines).1.feed line).2)) := by
  induction lines generalizing game with
  | nil => simp [after]
  | cons first lines ih =>
      rw [List.cons_append, after, after]
      dsimp only
      rw [ih]
      simp only [List.append_assoc]

theorem course_nil (story : Story) (guise : Guise) : course story guise [] = begin story guise := by
  simp [course, after]

theorem course_concat (story : Story) (guise : Guise) (lines : List Input) (line : Input) :
    course story guise (lines ++ [line]) = (((course story guise lines).1.feed line).1,
      (course story guise lines).2 ++ ((course story guise lines).1.request ++
        ((course story guise lines).1.feed line).2)) := by
  unfold course
  dsimp only
  rw [after_concat, List.append_assoc]

theorem run_ended (failure : Option String) (last : Option Playthrough) (lines : List Input) :
    (ended failure last).run lines = ([], failure) := by
  rw [run]

theorem run_cons (game : Game) (line : Input) (lines : List Input) :
    game.run (line :: lines) = (game.request ++ (game.feed line).2 ++
      ((game.feed line).1.run lines).1, ((game.feed line).1.run lines).2) := by
  cases game with
  | ended failure last =>
      rw [feed, run_ended, run_ended]
      rfl
  | picking roster s guise =>
      rw [run]
      intro _ _ he
      cases he
  | playing p =>
      rw [run]
      intro _ _ he
      cases he

/-- What is output on some lines does not depend on the lines that follow them. -/
theorem run_append (game : Game) (lines more : List Input) :
    game.run (lines ++ more) = ((game.after lines).2 ++ ((game.after lines).1.run more).1,
      ((game.after lines).1.run more).2) := by
  induction lines generalizing game with
  | nil => rfl
  | cons line lines ih =>
      rw [List.cons_append, run_cons, after]
      dsimp only
      rw [ih]
      simp only [List.append_assoc]

theorem aside_request (game : Game) : Aside game.request := by
  cases game with
  | picking roster s guise =>
      exact List.forall_mem_cons.2 ⟨rfl, aside_display rfl⟩
  | playing p => exact aside_display rfl
  | ended failure last => exact aside_nil

theorem ofPlaythrough_eq_playing {p q : Playthrough} (h : ofPlaythrough q = .playing p) :
    q = p ∧ p.awaiting ≠ .nothing := by
  unfold ofPlaythrough at h
  split at h
  · cases h
  · next waits =>
      cases h
      exact ⟨rfl, waits⟩

end Game

/-- A game that is played on has just been shown. -/
theorem Shows.of_playing {s : Session} {p : Playthrough} {r : Game × List Output} (h : Shows s r)
    (playing : r.1 = .playing p) :
    (∃ scene, p = (Playthrough.ofSession p.session scene).1) ∧ p.awaiting ≠ .nothing ∧
      ∃ asides, r.2 = asides ++ stateOutputs p.session := by
  obtain ⟨t, -, scene, asides, -, rfl⟩ := h
  obtain ⟨rfl, waits⟩ := Game.ofPlaythrough_eq_playing playing
  exact ⟨⟨scene, rfl⟩, waits, asides, rfl⟩

theorem Opens.of_playing {s : Session} {p : Playthrough} {r : Game × List Output} (h : Opens s r)
    (playing : r.1 = .playing p) : Shows s r := by
  refine h.resolve_left ?_
  rintro ⟨failure, asides, -, rfl⟩
  cases playing

/-- A playthrough was shown after some of the lines, when it was the same as it is now, and since
then the lines have been answered with asides. -/
def ShownLast (story : Story) (guise : Guise) (lines : List Input) (p : Playthrough) : Prop :=
  ∃ earlier later before after, lines = earlier ++ later ∧
    Game.course story guise earlier = (.playing p, before ++ stateOutputs p.session) ∧
    (Game.course story guise lines).2 = before ++ stateOutputs p.session ++ after ∧ Aside after

theorem ShownLast.now {story : Story} {guise : Guise} {lines : List Input} {p : Playthrough}
    (before : List Output)
    (h : Game.course story guise lines = (.playing p, before ++ stateOutputs p.session)) :
    ShownLast story guise lines p :=
  ⟨lines, [], before, [], (List.append_nil _).symm, h, by rw [h, List.append_nil], aside_nil⟩

/-- What is remembered of a session at a prompt is what it has been shown to be. -/
theorem course_playing {story : Story} {guise : Guise} (lines : List Input) {p : Playthrough}
    (h : (Game.course story guise lines).1 = .playing p) :
    (∃ scene, p = (Playthrough.ofSession p.session scene).1) ∧ p.awaiting ≠ .nothing ∧
      ShownLast story guise lines p := by
  induction lines using List.reverseRecOn with
  | nil =>
      have begun := Game.course_nil story guise
      rw [begun] at h
      rcases begin_turn story guise with ⟨roster, outputs, -, he⟩ | opened
      · rw [he] at h
        cases h
      · obtain ⟨shown, waits, asides, ho⟩ := (opened.of_playing h).of_playing h
        exact ⟨shown, waits, .now asides (begun.trans (Prod.ext h ho))⟩
  | append_singleton lines line ih =>
      have next := Game.course_concat story guise lines line
      have turn := feed_turn (Game.course story guise lines).1 line
      rw [next] at h
      generalize (Game.course story guise lines).1.feed line = r at next turn h
      have shows : ∀ s, Shows s r → (∃ scene, p = (Playthrough.ofSession p.session scene).1) ∧
          p.awaiting ≠ .nothing ∧ ShownLast story guise (lines ++ [line]) p := by
        intro s shows
        obtain ⟨shown, waits, asides, ho⟩ := shows.of_playing h
        refine ⟨shown, waits, .now ((Game.course story guise lines).2 ++
          ((Game.course story guise lines).1.request ++ asides)) (next.trans (Prod.ext h ?_))⟩
        rw [ho, List.append_assoc, List.append_assoc]
      generalize hg : (Game.course story guise lines).1 = game at turn ih
      cases turn with
      | ended failure last => cases h
      | picks aside => cases h
      | opens opened => exact shows _ (opened.of_playing h)
      | answers aside =>
          cases h
          obtain ⟨shown, waits, earlier, later, before, after, rfl, came, ho, asides⟩ := ih rfl
          refine ⟨shown, waits, earlier, later ++ [line], before, after ++ (_ ++ _),
            List.append_assoc _ _ _, came, ?_,
            asides.append ((Game.aside_request (.playing p)).append aside)⟩
          rw [next, ho, hg]
          simp only [List.append_assoc]
      | leaves same aside => cases h
      | shows shown => exact shows _ shown

/-- At every prompt the playthrough is what showing its session once more would make of it, and
whatever is typed next, what has been output stays. If it waits for a choice, then the last menu
that was shown, with the numbers from one before its choices, was shown of the session as it is now;
and a number that is typed makes the choice it stands before there, or, if it stands before none, is
turned down, and nothing has changed. -/
theorem course_in_step {story : Story} {guise : Guise} {lines : List Input} {p : Playthrough}
    {shown : List Output} (h : Game.course story guise lines = (.playing p, shown)) :
    ((Playthrough.ofSession p.session p.shownScene).1 = p ∧ p.awaiting ≠ .nothing) ∧
    (∀ more, (Game.begin story guise).2 ++ ((Game.begin story guise).1.run (lines ++ more)).1 =
      shown ++ ((Game.playing p).run more).1) ∧
    (p.awaiting = .choice →
      let menu := Display.menu (offers p.session)
      (∀ styled, menu.text styled =
        "\n" ++ String.join (((offers p.session).zipIdx 1).map fun entry =>
          Display.ofLine (toString entry.2 ++ ". " ++ entry.1))) ∧
      (∃ earlier later before after, lines = earlier ++ later ∧
        Game.course story guise earlier = (.playing p, before ++ [.shown menu]) ∧
        shown = before ++ [.shown menu] ++ after ∧
        ∀ choices, .shown (.menu choices) ∉ after) ∧
      ∀ line number, number? (Text.trim line) = some number →
        (∀ choice, 1 ≤ number → p.session.visibleChoices[number - 1]? = some choice →
          let made := p.session.makeChoice choice
          let next := Playthrough.ofSession made.value p.shownScene
          (Game.playing p).feed (.line line) =
            (.ofPlaythrough next.1, made.events.map .logged ++ next.2.map .shown)) ∧
        (number = 0 ∨ p.session.visibleChoices.length < number →
          ∃ events : List Event, (Game.playing p).feed (.line line) =
            (.playing p, events.map .logged ++ [.shown .noSuchChoice]))) := by
  obtain ⟨⟨scene, again⟩, waits, earlier, later, before, after, split, came, ho, asides⟩ :=
    course_playing lines (congrArg Prod.fst h)
  refine ⟨⟨?_, waits⟩, ?_, fun choosing => ⟨fun styled => text_menu styled _, ?_, ?_⟩⟩
  · rw [again]
    exact Playthrough.ofSession_again p.session scene
  · intro more
    rw [Game.run_append]
    have begun : (Game.begin story guise).2 ++ ((Game.begin story guise).1.after lines).2 = shown :=
      congrArg Prod.snd h
    have reached : ((Game.begin story guise).1.after lines).1 = .playing p := congrArg Prod.fst h
    rw [← begun, reached, List.append_assoc]
  · have menu : stateOutputs p.session = [.shown (.menu (offers p.session))] :=
      (stateOutputs_of_choice ((congrArg Playthrough.awaiting again).symm.trans choosing)).2
    rw [menu] at came ho
    rw [h] at ho
    exact ⟨earlier, later, before, after, split, came, ho, fun choices => asides.not_mem rfl⟩
  · intro line number hn
    have picked := Playthrough.react_number choosing hn
    refine ⟨fun choice pos found => ?_, fun none => ?_⟩
    · obtain ⟨value, events⟩ := Playthrough.pick_of_choice pos found
      rw [feed_playing, Playthrough.feed_of_moved (picked ▸ value), picked, events]
      rfl
    · have refused := Playthrough.pick_of_no_choice none
      rw [feed_playing, Playthrough.feed_of_remark (picked ▸ refused), Game.ofPlaythrough,
        if_neg waits]
      exact ⟨_, rfl⟩

/-- On the quay the line is read and the ferry is missed, by the second choice. Back on the quay the
rope is taken, and there is a look at what is carried. -/
def dallying : List Input :=
  [.line "", .line "2", .line "c", .line "", .line "use rope", .line "i"]

/-- A playthrough on the quay that waits for the choice to board or to wait. -/
def Game.isOnQuay : Game → Bool
  | playing p => p.awaiting = .choice && p.session.sceneId? = some "quay" &&
      p.session.visibleChoices.map (·.text) = ["Board", "Wait"]
  | _ => false

/-- The scene that the session of a playthrough is in. -/
def Game.sceneId? : Game → Option String
  | playing p => p.session.sceneId?
  | _ => none

theorem Game.sceneId?_of_ofPlaythrough {p : Playthrough} {id : String}
    (h : (ofPlaythrough p).sceneId? = some id) : p.session.sceneId? = some id := by
  unfold ofPlaythrough at h
  split at h
  · cases h
  · exact h

theorem course_in_step_ferry : ∃ p shown,
    Game.course .ferry {} dallying = (.playing p, shown) ∧ p.awaiting = .choice ∧
    p.session.sceneId? = some "quay" ∧ number? (Text.trim " 1 ") = some 1 ∧
    (∃ choice, p.session.visibleChoices[0]? = some choice ∧ choice.text = "Board" ∧
      ((Game.playing p).feed (.line " 1 ")).1 = .ofPlaythrough
        (Playthrough.ofSession (p.session.makeChoice choice).value p.shownScene).1 ∧
      (p.session.makeChoice choice).value.sceneId? = some "island") ∧
    number? (Text.trim "3") = some 3 ∧
    ∃ events : List Event, (Game.playing p).feed (.line "3") =
      (.playing p, events.map .logged ++ [.shown .noSuchChoice]) := by
  have onQuay : (Game.course .ferry {} dallying).1.isOnQuay = true := by decide +kernel
  have ashore : ((Game.course .ferry {} dallying).1.feed (.line " 1 ")).1.sceneId? =
      some "island" := by decide +kernel
  have one : number? (Text.trim " 1 ") = some 1 := by decide +kernel
  have three : number? (Text.trim "3") = some 3 := by decide +kernel
  generalize hc : Game.course .ferry {} dallying = c at onQuay ashore
  obtain ⟨game, shown⟩ := c
  cases game with
  | picking roster s guise => cases onQuay
  | ended failure last => cases onQuay
  | playing p =>
      obtain ⟨⟨choosing, quay⟩, offered⟩ : (p.awaiting = .choice ∧
          p.session.sceneId? = some "quay") ∧
          p.session.visibleChoices.map (·.text) = ["Board", "Wait"] := by
        simpa [Game.isOnQuay] using onQuay
      obtain ⟨-, -, in_step⟩ := course_in_step hc
      obtain ⟨-, -, typed⟩ := in_step choosing
      have length : p.session.visibleChoices.length = 2 := by
        simpa using congrArg List.length offered
      obtain ⟨choice, first, board⟩ : ∃ choice, p.session.visibleChoices[0]? = some choice ∧
          choice.text = "Board" := by
        have text := congrArg (·[0]?) offered
        simpa using text
      have boarded := congrArg Prod.fst ((typed " 1 " 1 one).1 choice (by decide) first)
      refine ⟨p, shown, rfl, choosing, quay, one, ⟨choice, first, board, boarded, ?_⟩, three, ?_⟩
      · rw [boarded] at ashore
        exact Game.sceneId?_of_ofPlaythrough ashore
      · exact (typed "3" 3 three).2 (.inr (by omega))

end VisualNovel.Play
