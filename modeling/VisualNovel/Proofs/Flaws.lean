import VisualNovel.Proofs.LinkClosure
import VisualNovel.Proofs.Orderly

/-!
# The errors of the check are the flaws of the story

A story has a spot wherever an id may stand that something has to be filed under: two in each scene,
one in each of its choices, one in each outcome. What is wrong at a spot is said here by look-ups
alone (`Story.Flaw`), without regard to who gets there and to whether the link would ever count.
The errors of the check, taken out of its other issues, are these flaws, each of them once and in
the order of the spots.

The check goes through the parts of a story in the order of its spots, so the proof follows it part
by part. `Story.Covers` says that the errors among some issues are the flaws of some spots. It holds
of a single spot and of two parts one after the other, and whatever is only warned about is a part
without spots.
-/

namespace VisualNovel

open Lint

/-- A part of a scene that says, or has to say, what comes next. Choices are counted from zero. -/
inductive ScenePart
  | transition
  | outcome
  | choice (index : Nat)

/-- The place of a part within its scene. -/
def ScenePart.rank : ScenePart → Nat
  | transition => 0
  | outcome => 1
  | choice index => index + 2

/-- The parts of a scene, in order. -/
def Scene.parts (scene : Scene) : List ScenePart :=
  .transition :: .outcome :: (List.range' 0 scene.choices.length).map .choice

theorem Scene.parts_pairwise (scene : Scene) :
    scene.parts.Pairwise fun part other => part.rank < other.rank := by
  refine List.pairwise_cons.2 ⟨?_, List.pairwise_cons.2 ⟨?_, List.pairwise_map.2 ?_⟩⟩
  · simp [ScenePart.rank]
  · simp [ScenePart.rank]
  · exact (List.pairwise_lt_range' 1).imp fun lower => Nat.add_lt_add_right lower 2

/-- A part of a story that says, or has to say, what comes next. -/
inductive Spot
  | scene (key : String) (part : ScenePart)
  | outcome (key : String)

/-- All scenes come before all outcomes, both of them in the order of their keys. -/
inductive Spot.Before : Spot → Spot → Prop
  | parts {key : String} {part other : ScenePart} (lower : part.rank < other.rank) :
      Before (.scene key part) (.scene key other)
  | scenes {key next : String} {part other : ScenePart} (lower : key < next) :
      Before (.scene key part) (.scene next other)
  | outcomes {key next : String} (lower : key < next) : Before (.outcome key) (.outcome next)
  | sceneFirst {key other : String} {part : ScenePart} : Before (.scene key part) (.outcome other)

theorem Spot.Before.ne {spot other : Spot} (h : spot.Before other) : spot ≠ other := by
  rintro rfl
  cases h with
  | parts lower => exact Nat.lt_irrefl _ lower
  | scenes lower | outcomes lower => exact String.lt_irrefl _ lower

namespace Story

/-- What is said of an id that no scene is filed under. -/
def lostScene (s : Story) (link : SceneLink) (target : String) : Finding :=
  .unknownScene link target (suggest target s.scenes.keys)

/-- What is said of an id that no outcome is filed under. -/
def lostOutcome (s : Story) (target : String) : Finding :=
  .unknownOutcome target (suggest target s.outcomes.keys)

/-- Something is wrong at the spot, and this is the issue that says so. A choice is judged by its
outcome if it has one; apart from that no link is excused by another. -/
inductive Flaw (s : Story) : Spot → Issue → Prop
  | transition {key target : String} {scene : Scene} (filed : s.scene? key = some scene)
      (link : scene.autoTransition = some target) (lost : s.scene? target = none) :
      Flaw s (.scene key .transition) ⟨.scene scene.id, s.lostScene .autoTransition target⟩
  | outcome {key target : String} {scene : Scene} (filed : s.scene? key = some scene)
      (link : scene.outcome = some target) (lost : s.outcome? target = none) :
      Flaw s (.scene key .outcome) ⟨.scene scene.id, s.lostOutcome target⟩
  | noTarget {key : String} {scene : Scene} {index : Nat} {choice : Choice}
      (filed : s.scene? key = some scene) (offered : scene.choices[index]? = some choice)
      (noOutcome : choice.outcome = none) (noNext : choice.next = none) :
      Flaw s (.scene key (.choice index)) ⟨.choice (index + 1) scene.id, .noTarget⟩
  | choiceOutcome {key target : String} {scene : Scene} {index : Nat} {choice : Choice}
      (filed : s.scene? key = some scene) (offered : scene.choices[index]? = some choice)
      (link : choice.outcome = some target) (lost : s.outcome? target = none) :
      Flaw s (.scene key (.choice index)) ⟨.choice (index + 1) scene.id, s.lostOutcome target⟩
  | choiceNext {key target : String} {scene : Scene} {index : Nat} {choice : Choice}
      (filed : s.scene? key = some scene) (offered : scene.choices[index]? = some choice)
      (noOutcome : choice.outcome = none) (link : choice.next = some target)
      (lost : s.scene? target = none) :
      Flaw s (.scene key (.choice index))
        ⟨.choice (index + 1) scene.id, s.lostScene .choiceTarget target⟩
  | outcomeNext {key target : String} {outcome : Outcome} (filed : s.outcome? key = some outcome)
      (link : outcome.next = some target) (lost : s.scene? target = none) :
      Flaw s (.outcome key) ⟨.outcome key, s.lostScene .outcomeNext target⟩

variable {s : Story} {key target : String} {scene : Scene} {choice : Choice} {index : Nat}
  {outcome : Outcome} {spot : Spot} {issue : Issue} {place : Location} {link : SceneLink}
  {named : Option String} {issues : List Issue}

/-! ## What may be wrong at each spot -/

theorem flaw_transition_iff (filed : s.scene? key = some scene) :
    s.Flaw (.scene key .transition) issue ↔ ∃ target, scene.autoTransition = some target ∧
      s.scene? target = none ∧ issue = ⟨.scene scene.id, s.lostScene .autoTransition target⟩ := by
  constructor
  · intro flaw
    cases flaw with
    | transition filed' link lost =>
        cases filed.symm.trans filed'
        exact ⟨_, link, lost, rfl⟩
  · rintro ⟨target, link, lost, rfl⟩
    exact .transition filed link lost

theorem flaw_outcome_iff (filed : s.scene? key = some scene) :
    s.Flaw (.scene key .outcome) issue ↔ ∃ target, scene.outcome = some target ∧
      s.outcome? target = none ∧ issue = ⟨.scene scene.id, s.lostOutcome target⟩ := by
  constructor
  · intro flaw
    cases flaw with
    | outcome filed' link lost =>
        cases filed.symm.trans filed'
        exact ⟨_, link, lost, rfl⟩
  · rintro ⟨target, link, lost, rfl⟩
    exact .outcome filed link lost

theorem flaw_outcomeNext_iff (filed : s.outcome? key = some outcome) :
    s.Flaw (.outcome key) issue ↔ ∃ target, outcome.next = some target ∧
      s.scene? target = none ∧ issue = ⟨.outcome key, s.lostScene .outcomeNext target⟩ := by
  constructor
  · intro flaw
    cases flaw with
    | outcomeNext filed' link lost =>
        cases filed.symm.trans filed'
        exact ⟨_, link, lost, rfl⟩
  · rintro ⟨target, link, lost, rfl⟩
    exact .outcomeNext filed link lost

theorem flaw_choice_iff (filed : s.scene? key = some scene)
    (offered : scene.choices[index]? = some choice) :
    s.Flaw (.scene key (.choice index)) issue ↔
      match choice.outcome, choice.next with
      | none, none => issue = ⟨.choice (index + 1) scene.id, .noTarget⟩
      | some target, _ => s.outcome? target = none ∧
          issue = ⟨.choice (index + 1) scene.id, s.lostOutcome target⟩
      | none, some target => s.scene? target = none ∧
          issue = ⟨.choice (index + 1) scene.id, s.lostScene .choiceTarget target⟩ := by
  constructor
  · intro flaw
    cases flaw with
    | noTarget filed' offered' noOutcome noNext =>
        cases filed.symm.trans filed'
        cases offered.symm.trans offered'
        rw [noOutcome, noNext]
    | choiceOutcome filed' offered' link lost =>
        cases filed.symm.trans filed'
        cases offered.symm.trans offered'
        rw [link]
        exact ⟨lost, rfl⟩
    | choiceNext filed' offered' noOutcome link lost =>
        cases filed.symm.trans filed'
        cases offered.symm.trans offered'
        rw [noOutcome, link]
        exact ⟨lost, rfl⟩
  · intro wrong
    split at wrong
    · next noOutcome noNext =>
        rw [wrong]
        exact .noTarget filed offered noOutcome noNext
    · next target link =>
        rw [wrong.2]
        exact .choiceOutcome filed offered link wrong.1
    · next target noOutcome link =>
        rw [wrong.2]
        exact .choiceNext filed offered noOutcome link wrong.1

/-! ## Parts of the check -/

/-- The errors among the issues are the flaws of the spots, in the same order. -/
def Covers (s : Story) (spots : List Spot) (issues : List Issue) : Prop :=
  ∃ found : List (Spot × Issue),
    issues.filter (·.isError) = found.map Prod.snd ∧ (found.map Prod.fst).Sublist spots ∧
    ∀ spot issue, (spot, issue) ∈ found ↔ spot ∈ spots ∧ s.Flaw spot issue

namespace Covers

theorem warnings (warned : ∀ issue ∈ issues, issue.isError = false) : s.Covers [] issues := by
  refine ⟨[], ?_, List.Sublist.slnil, by simp⟩
  exact List.filter_eq_nil_iff.2 fun issue hm => by simp [warned issue hm]

theorem append {first second : List Spot} {before after : List Issue}
    (h : s.Covers first before) (h' : s.Covers second after) :
    s.Covers (first ++ second) (before ++ after) := by
  obtain ⟨found, errors, within, mem_iff⟩ := h
  obtain ⟨found', errors', within', mem_iff'⟩ := h'
  refine ⟨found ++ found', ?_, ?_, fun spot issue => ?_⟩
  · rw [List.filter_append, errors, errors', List.map_append]
  · rw [List.map_append]
    exact within.append within'
  · rw [List.mem_append, mem_iff, mem_iff', List.mem_append, or_and_right]

theorem flatMap {α : Type} {parts : List α} {spots : α → List Spot} {issues : α → List Issue}
    (h : ∀ part ∈ parts, s.Covers (spots part) (issues part)) :
    s.Covers (parts.flatMap spots) (parts.flatMap issues) := by
  induction parts with
  | nil => exact warnings fun _ hm => absurd hm List.not_mem_nil
  | cons part parts ih =>
      obtain ⟨first, rest⟩ := List.forall_mem_cons.1 h
      rw [List.flatMap_cons, List.flatMap_cons]
      exact first.append (ih rest)

/-- A spot where nothing is wrong. -/
theorem fine (h : ∀ issue, ¬ s.Flaw spot issue) : s.Covers [spot] [] := by
  refine ⟨[], rfl, List.nil_sublist _, fun other issue => ?_⟩
  refine iff_of_false List.not_mem_nil fun flaw => ?_
  rw [List.mem_singleton] at flaw
  exact h issue (flaw.1 ▸ flaw.2)

theorem error (isError : issue.isError = true) (h : ∀ other, s.Flaw spot other ↔ other = issue) :
    s.Covers [spot] [issue] := by
  refine ⟨[(spot, issue)], ?_, List.Sublist.refl _, fun spot' other => ?_⟩
  · rw [List.filter_cons_of_pos isError]
    rfl
  · rw [List.mem_singleton, List.mem_singleton, Prod.mk.injEq]
    exact and_congr_right fun same => by rw [same, h]

theorem ofLookup {α : Type} {filed : Catalog α} (isError : issue.isError = true)
    (h : ∀ other, s.Flaw spot other ↔ filed.get? target = none ∧ other = issue) :
    s.Covers [spot] (if filed.contains target then [] else [issue]) := by
  rw [Catalog.contains_eq_isSome]
  cases found : filed.get? target with
  | some value => exact fine fun other flaw => by cases found.symm.trans ((h other).1 flaw).1
  | none => exact error isError fun other => (h other).trans (and_iff_right found)

theorem sceneLink (h : ∀ issue, s.Flaw spot issue ↔
      s.scene? target = none ∧ issue = ⟨place, s.lostScene link target⟩) :
    s.Covers [spot] (s.sceneLinkIssues place link target) := ofLookup rfl h

theorem outcomeLink (h : ∀ issue, s.Flaw spot issue ↔
      s.outcome? target = none ∧ issue = ⟨place, s.lostOutcome target⟩) :
    s.Covers [spot] (s.outcomeLinkIssues place target) := ofLookup rfl h

/-- A link that need not be there: without one there is nothing to report. -/
theorem optional {report : String → List Issue} {Lost : String → Issue → Prop}
    (h : ∀ issue, s.Flaw spot issue ↔ ∃ target, named = some target ∧ Lost target issue)
    (reports : ∀ target, (∀ issue, s.Flaw spot issue ↔ Lost target issue) →
      s.Covers [spot] (report target)) :
    s.Covers [spot] (named.toList.flatMap report) := by
  cases named with
  | none =>
      refine fine fun issue flaw => ?_
      obtain ⟨_, link, -⟩ := (h issue).1 flaw
      cases link
  | some target =>
      rw [Option.toList_some, List.flatMap_singleton]
      refine reports target fun issue => (h issue).trans ?_
      simp only [Option.some.injEq, exists_eq_left']

end Covers

open Covers

theorem covers_choice (filed : s.scene? key = some scene)
    (offered : scene.choices[index]? = some choice) :
    s.Covers [.scene key (.choice index)]
      (s.choiceIssues (.choice (index + 1) scene.id) choice) := by
  have flaw_iff := fun issue =>
    (flaw_choice_iff filed offered : s.Flaw (.scene key (.choice index)) issue ↔ _)
  unfold choiceIssues
  cases hn : choice.next with
  | none =>
      cases ho : choice.outcome with
      | none =>
          simp only [hn, ho] at flaw_iff
          exact error rfl flaw_iff
      | some target =>
          simp only [ho] at flaw_iff
          exact outcomeLink flaw_iff
  | some next =>
      cases ho : choice.outcome with
      | none =>
          simp only [hn, ho] at flaw_iff
          exact sceneLink flaw_iff
      | some target =>
          simp only [ho] at flaw_iff
          -- That the scene does not count is only warned about, whether or not it is there.
          have warned : s.Covers [] [⟨.choice (index + 1) scene.id, .twoTargets⟩] :=
            .warnings (List.forall_mem_singleton.2 rfl)
          exact warned.append (outcomeLink flaw_iff)

theorem covers_choices (filed : s.scene? key = some scene) :
    ∀ {choices : List Choice} {number : Nat}, scene.choices.drop number = choices →
      s.Covers ((List.range' number choices.length).map fun index => .scene key (.choice index))
        (s.choicesIssues scene.id (number + 1) choices) := by
  intro choices
  induction choices with
  | nil => exact fun _ => warnings fun _ hm => absurd hm List.not_mem_nil
  | cons choice choices ih =>
      -- The choices that are left begin with the one that has this number in the scene.
      intro number left
      have offered : scene.choices[number]? = some choice := by
        rw [← List.head?_drop, left, List.head?_cons]
      have rest : scene.choices.drop (number + 1) = choices := by
        rw [← List.tail_drop, left, List.tail_cons]
      rw [List.length_cons, List.range'_succ, List.map_cons, choicesIssues]
      exact (covers_choice filed offered).append (ih rest)

theorem covers_scene (filed : s.scene? key = some scene) :
    s.Covers (scene.parts.map (.scene key)) (s.sceneIssues scene) := by
  have several : s.Covers [] (if scene.continuationCount > 1 then
      [⟨.scene scene.id, .severalContinuations⟩] else []) := by
    refine warnings ?_
    split
    · exact List.forall_mem_singleton.2 rfl
    · exact fun _ hm => absurd hm List.not_mem_nil
  have transition := optional (fun _ => flaw_transition_iff filed) fun _ => sceneLink
  have outcome := optional (fun _ => flaw_outcome_iff filed) fun _ => outcomeLink
  have idle : s.Covers [] (scene.objects.flatMap (objectIssues scene.id)) := by
    refine warnings fun issue hm => ?_
    obtain ⟨object, -, hm⟩ := List.mem_flatMap.1 hm
    unfold objectIssues at hm
    split at hm
    · rw [List.mem_singleton.1 hm]
      rfl
    · cases hm
  have parts := (((several.append transition).append outcome).append
    (covers_choices filed scene.choices.drop_zero)).append idle
  rw [List.append_nil] at parts
  rw [Scene.parts, List.map_cons, List.map_cons, List.map_map]
  exact parts

theorem covers_outcome (filed : s.outcome? key = some outcome) :
    s.Covers [.outcome key] (s.outcomeIssues key outcome) :=
  optional (fun _ => flaw_outcomeNext_iff filed) fun _ => sceneLink

/-! ## All of the check -/

/-- The spots of a story, in order. -/
def spots (s : Story) : List Spot :=
  s.scenes.entries.flatMap (fun e => e.2.parts.map (.scene e.1)) ++
    s.outcomes.entries.flatMap (fun e => [.outcome e.1])

theorem check_covers (s : Story) : s.Covers s.spots s.check := by
  have scenes : s.Covers (s.scenes.entries.flatMap fun e => e.2.parts.map (.scene e.1))
      (s.scenes.values.flatMap s.sceneIssues) := by
    rw [Catalog.values, List.flatMap_map]
    exact .flatMap fun e he => covers_scene (Catalog.get?_of_mem_entries he)
  have outcomes : s.Covers (s.outcomes.entries.flatMap fun e => [.outcome e.1])
      (s.outcomes.entries.flatMap fun e => s.outcomeIssues e.1 e.2) :=
    .flatMap fun e he => covers_outcome (Catalog.get?_of_mem_entries he)
  have unreachable : s.Covers [] s.unreachableIssues := by
    refine .warnings fun issue hm => ?_
    obtain ⟨id, -, rfl⟩ := List.mem_map.1 hm
    rfl
  have parts := (scenes.append outcomes).append unreachable
  rw [List.append_nil] at parts
  exact parts

theorem spots_pairwise (s : Story) : s.spots.Pairwise Spot.Before := by
  refine List.pairwise_append.2 ⟨List.pairwise_flatMap.2 ⟨fun e _ => ?_, ?_⟩,
    List.pairwise_flatMap.2 ⟨fun e _ => List.pairwise_singleton _ _, ?_⟩, ?_⟩
  · exact List.pairwise_map.2 (e.2.parts_pairwise.imp .parts)
  · refine s.scenes.ascending.imp fun lower spot hs other ho => ?_
    obtain ⟨_, -, rfl⟩ := List.mem_map.1 hs
    obtain ⟨_, -, rfl⟩ := List.mem_map.1 ho
    exact .scenes lower
  · refine s.outcomes.ascending.imp fun lower spot hs other ho => ?_
    rw [List.mem_singleton.1 hs, List.mem_singleton.1 ho]
    exact .outcomes lower
  · intro spot hs other ho
    obtain ⟨_, -, hs⟩ := List.mem_flatMap.1 hs
    obtain ⟨_, -, rfl⟩ := List.mem_map.1 hs
    obtain ⟨_, -, ho⟩ := List.mem_flatMap.1 ho
    rw [List.mem_singleton.1 ho]
    exact .sceneFirst

theorem mem_spots_of_part {part : ScenePart} (filed : s.scene? key = some scene)
    (hp : part ∈ scene.parts) : .scene key part ∈ s.spots :=
  List.mem_append_left _ (List.mem_flatMap.2
    ⟨(key, scene), Catalog.mem_entries_of_get? filed, List.mem_map_of_mem hp⟩)

theorem mem_parts_of_choice (offered : scene.choices[index]? = some choice) :
    .choice index ∈ scene.parts := by
  have hi := (List.getElem?_eq_some_iff.1 offered).1
  simp [Scene.parts, List.mem_range', hi]

theorem mem_spots_of_flaw (flaw : s.Flaw spot issue) : spot ∈ s.spots := by
  cases flaw with
  | transition filed => exact mem_spots_of_part filed List.mem_cons_self
  | outcome filed =>
      exact mem_spots_of_part filed (List.mem_cons_of_mem _ List.mem_cons_self)
  | noTarget filed offered | choiceOutcome filed offered | choiceNext filed offered =>
      exact mem_spots_of_part filed (mem_parts_of_choice offered)
  | outcomeNext filed =>
      exact List.mem_append_right _ (List.mem_flatMap.2
        ⟨_, Catalog.mem_entries_of_get? filed, List.mem_cons_self⟩)

/-- The errors of the check are the flaws of the story, each once and in the order of their spots.
So there are none just if there is no flaw. Of a choice that names an outcome nothing else is an
error than that the outcome is missing. -/
theorem errors_are_flaws (s : Story) :
    (∃ found : List (Spot × Issue),
      s.check.filter (·.isError) = found.map Prod.snd ∧
      (found.map Prod.fst).Pairwise Spot.Before ∧ (found.map Prod.fst).Nodup ∧
      ∀ spot issue, (spot, issue) ∈ found ↔ s.Flaw spot issue) ∧
    (s.Clean ↔ ∀ spot issue, ¬ s.Flaw spot issue) ∧
    ∀ key scene index choice id, s.scene? key = some scene →
      scene.choices[index]? = some choice → choice.outcome = some id →
      ∀ issue, s.Flaw (.scene key (.choice index)) issue ↔
        s.outcome? id = none ∧ issue = ⟨.choice (index + 1) scene.id, s.lostOutcome id⟩ := by
  obtain ⟨found, errors, within, mem_iff⟩ := s.check_covers
  have mem_found_iff : ∀ spot issue, (spot, issue) ∈ found ↔ s.Flaw spot issue :=
    fun spot issue => (mem_iff spot issue).trans (and_iff_right_of_imp mem_spots_of_flaw)
  have ordered : (found.map Prod.fst).Pairwise Spot.Before := s.spots_pairwise.sublist within
  refine ⟨⟨found, errors, ordered, ordered.imp Spot.Before.ne, mem_found_iff⟩, ?_, ?_⟩
  · have clean_iff : s.Clean ↔ found = [] := by
      rw [← List.map_eq_nil_iff, ← errors, List.filter_eq_nil_iff]
      simp only [Clean, Bool.not_eq_true]
    rw [clean_iff, List.eq_nil_iff_forall_not_mem, Prod.forall]
    simp only [mem_found_iff]
  · intro key scene index choice id filed offered link issue
    rw [flaw_choice_iff filed offered, link]

/-- A story with a link that is lost but does not count, one in a scene nobody gets to, and one
that is left out of account. -/
def junction : Story :=
  (blank "The junction" "yard")
    |>.addScene
      { id := "yard"
        choices := [{ text := "Wait", next := some "platform", outcome := some "late" }]
        autoTransition := some "tunnel" }
    |>.addScene { id := "siding", outcome := some "lost" }
    |>.addOutcome "late" { message := "The train has left." }

theorem errors_are_flaws_junction :
    ¬ junction.Clean ∧ ∀ issue, ¬ junction.Flaw (.scene "yard" (.choice 0)) issue := by
  obtain ⟨-, clean_iff, of_outcome⟩ := errors_are_flaws junction
  constructor
  · intro clean
    exact clean_iff.1 clean (.scene "yard" .transition) _ (.transition rfl rfl rfl)
  · intro issue flaw
    obtain ⟨lost, -⟩ := (of_outcome _ _ _ _ _ rfl rfl rfl issue).1 flaw
    cases lost

end Story

end VisualNovel
