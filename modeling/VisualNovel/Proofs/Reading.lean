import VisualNovel.Session.Cursor

/-!
# Reading a dialogue through

A cursor is put on the first line of a scene and then moved past one line at a time. Nothing is left
of its past when it is put there, so it is known by the scene and by the number of moves since
(`Cursor.reading`). The last line and the end of the dialogue matter in the move from one number to
the next and nowhere else (`Cursor.advance_reading`).

What some steps tell and what they show is gathered alike, so there is one induction over the moves
for both (`Cursor.gather_advances`).
-/

namespace VisualNovel

/-- What is done to a cursor. -/
inductive CursorStep
  /-- It is put on the first line of a scene. -/
  | start (scene : Scene)
  /-- It is moved past the line to be read. -/
  | advance

namespace Cursor

variable {α : Type} {c : Cursor} {scene : Scene}

/-! ## One move -/

theorem advance_of_read (h : c.lines.length ≤ c.position) : c.advance = (c, false) := by
  simp [advance, isExhausted, h]

theorem advance_of_line (h : c.position + 1 < c.lines.length) :
    c.advance = ({ c with position := c.position + 1 }, false) := by
  have unread : ¬ c.lines.length ≤ c.position := by omega
  have more : c.position + 1 ≠ c.lines.length := by omega
  simp [advance, isExhausted, unread, more]

theorem advance_of_last (h : c.position + 1 = c.lines.length) :
    c.advance = ({ c with position := c.position + 1 }, true) := by
  have unread : ¬ c.lines.length ≤ c.position := by omega
  simp [advance, isExhausted, unread, h]

/-- The cursor that has been moved some times since it was put on the first line of a scene. -/
def reading (scene : Scene) (moves : Nat) : Cursor :=
  { start scene with position := min moves scene.dialogue.length }

theorem reading_of_le {k : Nat} (h : k ≤ scene.dialogue.length) :
    reading scene k = { start scene with position := k } := by
  rw [reading, Nat.min_eq_left h]

theorem reading_of_ge {k : Nat} (h : scene.dialogue.length ≤ k) :
    reading scene k = { start scene with position := scene.dialogue.length } := by
  rw [reading, Nat.min_eq_right h]

theorem line?_reading (scene : Scene) (k : Nat) : (reading scene k).line? = scene.dialogue[k]? := by
  show scene.dialogue[min k scene.dialogue.length]? = _
  rcases Nat.lt_or_ge k scene.dialogue.length with inside | behind
  · rw [Nat.min_eq_left (Nat.le_of_lt inside)]
  · rw [Nat.min_eq_right behind, List.getElem?_eq_none (Nat.le_refl _),
      List.getElem?_eq_none behind]

theorem isExhausted_reading_iff {k : Nat} :
    (reading scene k).isExhausted = true ↔ scene.dialogue.length ≤ k := by
  show decide (scene.dialogue.length ≤ min k scene.dialogue.length) = true ↔ _
  rw [decide_eq_true_iff, Nat.le_min]
  exact and_iff_left (Nat.le_refl _)

/-- A move goes to the next line, and tells whether it was the last one that has been read. Behind
the last line it does nothing. -/
theorem advance_reading (scene : Scene) (k : Nat) :
    (reading scene k).advance = (reading scene (k + 1), k + 1 == scene.dialogue.length) := by
  -- Up to the last line the position is the number of moves, and from then on that of the lines.
  rcases Nat.lt_trichotomy (k + 1) scene.dialogue.length with line | last | read
  · rw [reading_of_le (by omega), reading_of_le (by omega), advance_of_line line,
      beq_eq_false_iff_ne.2 (by omega)]
  · rw [reading_of_le (by omega), reading_of_le (by omega), advance_of_last last,
      beq_iff_eq.2 last]
  · rw [reading_of_ge (by omega), reading_of_ge (by omega),
      advance_of_read (Nat.le_refl _), beq_eq_false_iff_ne.2 (by omega)]

/-! ## Many steps -/

/-- The cursor after a step. -/
def step (c : Cursor) : CursorStep → Cursor
  | .start scene => start scene
  | .advance => c.advance.1

/-- The cursor after some steps. -/
def after (c : Cursor) (steps : List CursorStep) : Cursor := steps.foldl step c

/-- What comes of some steps, in order, where it is known what comes of one. -/
def gather (f : Cursor → CursorStep → List α) (c : Cursor) : List CursorStep → List α
  | [] => []
  | step :: steps => f c step ++ gather f (c.step step) steps

/-- What the moves among some steps tell, one by one. -/
def told : Cursor → List CursorStep → List Bool :=
  gather fun c step =>
    match step with
    | .start _ => []
    | .advance => [c.advance.2]

/-- The lines that some steps bring up to be read, one by one. -/
def shown : Cursor → List CursorStep → List Line :=
  gather fun c step => (c.step step).line?.toList

/-- A scene is begun and then some moves are made. -/
def walk (scene : Scene) (moves : Nat) : List CursorStep :=
  .start scene :: List.replicate moves .advance

theorem after_advances (scene : Scene) (k m : Nat) :
    (reading scene k).after (List.replicate m .advance) = reading scene (k + m) := by
  induction m generalizing k with
  | zero => rfl
  | succ m ih =>
      rw [List.replicate_succ, after, List.foldl_cons, step, advance_reading]
      exact (ih (k + 1)).trans (congrArg (reading scene) (by omega))

theorem gather_advances (f : Cursor → CursorStep → List α) (scene : Scene) (k m : Nat) :
    gather f (reading scene k) (List.replicate m .advance) =
      (List.range' k m).flatMap fun i => f (reading scene i) .advance := by
  induction m generalizing k with
  | zero => rfl
  | succ m ih =>
      rw [List.replicate_succ, gather, step, advance_reading, ih, List.range'_succ,
        List.flatMap_cons]

theorem gather_append (f : Cursor → CursorStep → List α) (c : Cursor)
    (before later : List CursorStep) :
    gather f c (before ++ later) = gather f c before ++ gather f (c.after before) later := by
  induction before generalizing c with
  | nil => rfl
  | cons step before ih =>
      rw [List.cons_append, gather, ih, gather, List.append_assoc]
      rfl

/-! ## From the first line on -/

theorem start_eq_reading (scene : Scene) : start scene = reading scene 0 :=
  (reading_of_le (Nat.zero_le _)).symm

theorem after_walk (c : Cursor) (scene : Scene) (m : Nat) :
    c.after (walk scene m) = reading scene m := by
  rw [walk, after, List.foldl_cons, step, start_eq_reading]
  exact (after_advances scene 0 m).trans (congrArg (reading scene) (Nat.zero_add m))

theorem told_walk (c : Cursor) (scene : Scene) (m : Nat) :
    c.told (walk scene m) = (List.range' 1 m).map (· == scene.dialogue.length) := by
  have numbered : List.range' 1 m = (List.range' 0 m).map (1 + ·) := by
    rw [List.map_add_range']
  rw [told, walk, gather, step, start_eq_reading, gather_advances, List.nil_append, numbered,
    List.map_map, List.map_eq_flatMap]
  simp only [advance_reading, Function.comp, Nat.add_comm]

theorem count_told_walk (c : Cursor) (scene : Scene) (m : Nat) :
    (c.told (walk scene m)).count true =
      if 0 < scene.dialogue.length ∧ scene.dialogue.length ≤ m then 1 else 0 := by
  calc (c.told (walk scene m)).count true
    _ = (List.range' 1 m).count scene.dialogue.length := by
      rw [told_walk, List.count_eq_countP, List.countP_map, List.count_eq_countP]
      exact List.countP_congr fun i _ => by simp
    _ = if scene.dialogue.length ∈ List.range' 1 m then 1 else 0 := (List.nodup_range' 1).count
    _ = _ := by
      have among : scene.dialogue.length ∈ List.range' 1 m ↔
          0 < scene.dialogue.length ∧ scene.dialogue.length ≤ m := by
        rw [List.mem_range'_1]
        omega
      simp only [among]

/-- The lines before a place are those at the places before it. -/
theorem take_eq_flatMap (lines : List Line) (m : Nat) :
    lines.take m = (List.range m).flatMap fun i => lines[i]?.toList := by
  induction m with
  | zero => rfl
  | succ m ih =>
      rw [List.take_add_one, ih, List.range_succ, List.flatMap_append, List.flatMap_singleton]

theorem shown_walk (c : Cursor) (scene : Scene) (m : Nat) :
    c.shown (walk scene m) = scene.dialogue.take (m + 1) := by
  rw [shown, walk, gather, step, start_eq_reading, gather_advances, take_eq_flatMap,
    List.range_succ_eq_map, List.flatMap_cons, List.flatMap_map, ← List.range_eq_range']
  simp only [step, advance_reading, line?_reading]

/-- The end of a dialogue is told of once for each time that it is reached from the first line. -/
theorem count_told_walks (c : Cursor) (walks : List (Scene × Nat)) :
    (c.told (walks.flatMap fun w => walk w.1 w.2)).count true =
      walks.countP fun w => 0 < w.1.dialogue.length ∧ w.1.dialogue.length ≤ w.2 := by
  induction walks generalizing c with
  | nil => rfl
  | cons w walks ih =>
      have here := count_told_walk c w.1 w.2
      have later := ih (c.after (walk w.1 w.2))
      rw [told] at here later ⊢
      rw [List.flatMap_cons, gather_append, List.count_append, here, later, List.countP_cons,
        Nat.add_comm]
      simp only [decide_eq_true_iff]

/-- Whatever a cursor has been through: once it is put on the first line of a scene and moved some
times, it stands behind as many lines, or behind all of them if there are fewer. Only the move past
the last line tells of the end, and the lines come up in order, each of them once. So however often
scenes are begun, the end is told of once for each time that a scene with any lines is read to its
end. -/
theorem reads_each_line_once (c : Cursor) (scene : Scene) (m : Nat) :
    c.after (walk scene m) =
      { scene := scene.id, lines := scene.dialogue, position := min m scene.dialogue.length } ∧
    (c.after (walk scene m)).line? = scene.dialogue[m]? ∧
    ((c.after (walk scene m)).isExhausted = true ↔ scene.dialogue.length ≤ m) ∧
    c.told (walk scene m) = (List.range' 1 m).map (· == scene.dialogue.length) ∧
    c.shown (walk scene m) = scene.dialogue.take (m + 1) ∧
    ∀ walks : List (Scene × Nat),
      (c.told (walks.flatMap fun w => walk w.1 w.2)).count true =
        walks.countP fun w => 0 < w.1.dialogue.length ∧ w.1.dialogue.length ≤ w.2 := by
  rw [after_walk]
  exact ⟨rfl, line?_reading scene m, isExhausted_reading_iff, told_walk c scene m,
    shown_walk c scene m, count_told_walks c⟩

end Cursor

end VisualNovel
