import VisualNovel.Proofs.Ensures

/-!
# Journeys through scenes

Entering a scene may lead on through any number of scenes without dialogue before the session comes
to rest or reaches an outcome. Whatever is claimed of such a journey is proved the same way, by
induction on the automatic transitions that are left, so the induction is done once and for all
here. `Journey` lists what a claim has to know about a single leg: which scenes may be entered,
what holds on arrival, and why that is enough wherever the journey ends. `Journey.enter` and
`Journey.follow` then speak about the whole of it.

Before that stand the equations that the legs are made of: what arriving, resolving and following
do in each of their cases.
-/

namespace VisualNovel

open Traced (Ensures)

/-- Whether the event says why the session rests in a scene that has been read to its end. -/
def Event.isRest : Event → Bool
  | .everyChoiceHidden _ | .waitingForChoice _ | .hopLimitReached .. | .endReached _
  | .deadEndReached _ => true
  | _ => false

namespace Session

variable {s : Session} {w : World} {story : Story} {scene : Scene} {id : String}
  {hops : Nat} {eager : Bool}

/-! ## Where a session stands -/

theorem state_eq_idle_iff : s.state = .idle ↔ s.world = none := by
  unfold state
  cases s.world with
  | none => simp
  | some w => cases h : w.terminal <;> simp [h]

theorem state_eq_playing_iff :
    s.state = .playing ↔ ∃ w, s.world = some w ∧ w.terminal = false := by
  unfold state
  cases s.world with
  | none => simp
  | some w => cases w.terminal <;> simp

theorem state_eq_resolved_iff :
    s.state = .resolved ↔ ∃ w, s.world = some w ∧ w.terminal = true := by
  unfold state
  cases s.world with
  | none => simp
  | some w => cases w.terminal <;> simp

theorem isTerminal_eq_false (hp : s.state = .playing) : s.isTerminal = false := by
  rw [isTerminal, hp]
  rfl

theorem state_eq_playing (hw : s.world = some w) (ht : s.isTerminal = false) :
    s.state = .playing := by
  refine state_eq_playing_iff.2 ⟨w, hw, ?_⟩
  cases h : w.terminal with
  | false => rfl
  | true =>
      rw [isTerminal, state_eq_resolved_iff.2 ⟨w, hw, h⟩] at ht
      cases ht

/-! ## Arriving, resolving, following -/

/-- The world of a session that has just arrived is the world before, with the player moved and
with whatever the action of the scene did to their belongings. -/
theorem arrive_ensures (hw : s.world = some w) (scene : Scene) :
    (s.arrive scene).Ensures
      (fun t => ∃ w', (w.moveTo scene.id).Keeps w' ∧
        t = { s with world := some w', cursor := .start scene })
      (fun note => note = .logged (.sceneEntered scene.id scene.dialogue.length) ∨
        note.isEffect = true) := by
  refine .log (.inl rfl) (.mono (applyAction?_ensures ?_ scene.action) (fun t ht => ht)
    fun _ hn => .inr hn)
  rw [hw]
  rfl

theorem arrive_state (hp : s.state = .playing) (scene : Scene) :
    (s.arrive scene).value.state = .playing := by
  obtain ⟨w, hw, ht⟩ := state_eq_playing_iff.1 hp
  obtain ⟨w', ⟨items, flags, hk⟩, ha⟩ := (arrive_ensures hw scene).value
  rw [ha, hk]
  exact state_eq_playing_iff.2 ⟨_, rfl, ht⟩

theorem resolve_of_known (hs : s.story = some story) (hw : s.world = some w)
    (hc : story.outcomes.contains id = true) :
    s.resolve id = (do
      Traced.log (.outcomeReached id w.scene)
      return { s with world := some (w.reach id) }) := by
  simp [resolve, hs, hw, hc]

theorem resolve_of_unknown (hs : s.story = some story)
    (hc : story.outcomes.contains id = false) :
    s.resolve id = (do Traced.log (.outcomeNotFound id); return s) := by
  simp [resolve, hs, hc]

theorem enterWith_of_not_playing {go : Scene → Session → Traced Session}
    (hp : s.state ≠ .playing) :
    enterWith go eager id s = (do Traced.log (.sceneIgnored id); return s) := by
  unfold enterWith
  exact if_pos (by simpa using hp)

theorem enter_of_not_playing (hp : s.state ≠ .playing) :
    s.enter eager id = (do Traced.log (.sceneIgnored id); return s) :=
  enterWith_of_not_playing hp

theorem follow_of_outcome (hp : s.state = .playing) (hc : scene.continuation = .outcome id) :
    follow hops scene s = s.resolve id := by
  rw [follow.eq_def]
  simp only [isTerminal_eq_false hp, hc, Bool.false_eq_true, if_false]

theorem follow_of_autoTransition (hp : s.state = .playing)
    (hc : scene.continuation = .autoTransition id) :
    follow (hops + 1) scene s = enterWith (follow hops) true id s := by
  rw [follow.eq_def]
  simp only [isTerminal_eq_false hp, hc, Bool.false_eq_true, if_false]

/-- Unless there is a scene or an outcome to go on to, following a continuation comes to no more
than a word on why the session rests. -/
theorem follow_of_rest (hp : s.state = .playing)
    (ht : ∀ next, scene.continuation = .autoTransition next → hops = 0)
    (ho : ∀ id, scene.continuation ≠ .outcome id) :
    ∃ event : Event, event.isRest = true ∧
      follow hops scene s = (do Traced.log event; return s) := by
  rw [follow.eq_def]
  simp only [isTerminal_eq_false hp, Bool.false_eq_true, if_false]
  cases hc : scene.continuation with
  | choices offered =>
      by_cases hv : s.visibleChoices.isEmpty = true
      · exact ⟨.everyChoiceHidden scene.id, rfl, if_pos hv⟩
      · exact ⟨.waitingForChoice scene.id, rfl, if_neg hv⟩
  | autoTransition next =>
      rw [ht next hc]
      exact ⟨.hopLimitReached scene.id s.config.maxAutoHops, rfl, rfl⟩
  | outcome id => exact absurd hc (ho id)
  | ending => exact ⟨.endReached scene.id, rfl, rfl⟩
  | deadEnd => exact ⟨.deadEndReached scene.id, rfl, rfl⟩

/-! ## Entering -/

theorem enterWith_of_unknown {go : Scene → Session → Traced Session}
    (hp : s.state = .playing) (hs : s.storyScene? id = none) :
    (enterWith go eager id s).Ensures (· = s)
      (· = .logged (.sceneNotFound id s.sceneId?)) := by
  unfold enterWith
  simp only [hp, hs, bne_self_eq_false, Bool.false_eq_true, if_false]
  split
  · exact .pure rfl
  · exact .log rfl (.pure rfl)

/-- A scene that is there is arrived at; then its outcome is reached, or its continuation runs, or
its dialogue waits to be read. -/
theorem enterWith_of_scene {go : Scene → Session → Traced Session}
    (hp : s.state = .playing) (hs : s.storyScene? id = some scene) :
    enterWith go eager id s = (do
      let t ← s.arrive scene
      match scene.continuation, eager with
      | .outcome outcome, true => t.resolve outcome
      | _, _ => if scene.dialogue.isEmpty then go scene t else return t) := by
  have hb : s.story.isNone = false := by
    cases h : s.story with
    | none => rw [storyScene?, h] at hs; cases hs
    | some story => rfl
  unfold enterWith
  refine (if_neg (by simp [hp])).trans ((if_neg (by simp [hb])).trans ?_)
  split
  · next hn =>
      rw [hs] at hn
      cases hn
  · next found hf =>
      rw [hs] at hf
      cases hf
      rfl

/-- What a claim has to know about one leg of a journey. `may` says which scenes may be entered,
`here` what holds in a scene that has just been arrived at, `done` what holds in the end, and `N`
what may stand in the trace. -/
structure Journey (may : Session → String → Prop) (here : Scene → Session → Prop)
    (done : Session → Prop) (N : Note → Prop) : Prop where
  lost : ∀ {s id}, may s id → s.storyScene? id = none →
    done s ∧ N (.logged (.sceneNotFound id s.sceneId?))
  arrives : ∀ {s id scene}, may s id → s.state = .playing → s.storyScene? id = some scene →
    (s.arrive scene).Ensures (here scene) N
  resolves : ∀ {s scene id}, here scene s → s.state = .playing →
    scene.continuation = .outcome id → (s.resolve id).Ensures done N
  leads : ∀ {s scene id}, here scene s → s.state = .playing →
    scene.continuation = .autoTransition id → may s id
  rests : ∀ {s scene}, here scene s →
    (scene.dialogue = [] → ∀ id, scene.continuation ≠ .outcome id) → done s
  quiet : ∀ {event : Event}, event.isRest = true → N (.logged event)

namespace Journey

variable {may : Session → String → Prop} {here : Scene → Session → Prop}
  {done : Session → Prop} {N : Note → Prop}

/-- One leg: the scene is entered, and `go` takes over if there is nothing to read in it. -/
theorem enterWith (j : Journey may here done N) {go : Scene → Session → Traced Session}
    (hgo : ∀ {scene s}, here scene s → s.state = .playing → (go scene s).Ensures done N)
    (hm : may s id) (hp : s.state = .playing) :
    (enterWith go eager id s).Ensures done N := by
  cases hs : s.storyScene? id with
  | none =>
      obtain ⟨hd, hn⟩ := j.lost hm hs
      exact (enterWith_of_unknown hp hs).mono (fun _ h => h ▸ hd) (fun _ h => h ▸ hn)
  | some scene =>
      rw [enterWith_of_scene hp hs]
      refine .bind ((j.arrives hm hp hs).and_value (Q := fun t => t.state = .playing)
        (arrive_state hp scene)) ?_
      rintro t ⟨hh, ht⟩
      split
      · next outcome hc => exact j.resolves hh ht hc
      · split
        · next => exact hgo hh ht
        · next hd => exact .pure (j.rests hh fun h => absurd (h ▸ rfl) hd)

/-- A continuation that leads into no further scene. -/
theorem rest (j : Journey may here done N) (hh : here scene s) (hp : s.state = .playing)
    (ht : ∀ next, scene.continuation = .autoTransition next → hops = 0) :
    (Session.follow hops scene s).Ensures done N := by
  by_cases ho : ∃ id, scene.continuation = .outcome id
  · obtain ⟨id, hc⟩ := ho
    rw [follow_of_outcome hp hc]
    exact j.resolves hh hp hc
  · have ho' : ∀ id, scene.continuation ≠ .outcome id := fun id hc => ho ⟨id, hc⟩
    obtain ⟨event, he, hf⟩ := follow_of_rest hp ht ho'
    rw [hf]
    exact .log (j.quiet he) (.pure (j.rests hh fun _ => ho'))

/-- Everything that follows the dialogue of a scene, by induction on the transitions left. -/
theorem follow (j : Journey may here done N) (hops : Nat) :
    ∀ {scene s}, here scene s → s.state = .playing →
      (Session.follow hops scene s).Ensures done N := by
  induction hops with
  | zero => exact fun hh hp => j.rest hh hp fun _ _ => rfl
  | succ hops ih =>
      intro scene s hh hp
      by_cases hn : ∃ next, scene.continuation = .autoTransition next
      · obtain ⟨next, hc⟩ := hn
        rw [follow_of_autoTransition hp hc]
        exact j.enterWith ih (j.leads hh hp hc) hp
      · exact j.rest hh hp fun next hc => absurd ⟨next, hc⟩ hn

/-- The whole journey from the scene that is entered first. -/
theorem enter (j : Journey may here done N) (hm : may s id) (hp : s.state = .playing) :
    (s.enter eager id).Ensures done N :=
  j.enterWith (j.follow s.config.maxAutoHops) hm hp

end Journey

end Session

end VisualNovel
