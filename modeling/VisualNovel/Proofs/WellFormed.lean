import Mathlib.Data.List.Induction
import VisualNovel.Json.Decode
import VisualNovel.Proofs.PartByPart
import VisualNovel.Proofs.Written

/-!
# Values without a fault

Every document comes to a value, whatever is wrong with it. The value remembers the fault, and to
pass over the value is to look for it. Tokens that write a value come to one that can be passed
over; the other way round, tokens that come to such a value and leave nothing behind are the tokens
of that value (`Document.tokens_of_passes`).

To see this one token is taken after the other. A fault that is there stays, so there has been none
if there is none in the end, and the tokens up to any moment have opened some lists and maps and
filled them in part (`Opened`). Both are told of one step at once (`Progress.next_sound`), since the
cases are the same.
-/

namespace VisualNovel.Json

/-! ## Values without a fault -/

theorem unit_bind_eq_ok_iff {ε α : Type} {x : Except ε Unit} {y : Except ε α} {a : α} :
    (do x; y) = .ok a ↔ x = .ok () ∧ y = .ok a := by
  rw [bind_eq_ok_iff]
  exact ⟨fun ⟨_, hx, hy⟩ => ⟨hx, hy⟩, fun ⟨hx, hy⟩ => ⟨(), hx, hy⟩⟩

theorem RawText.skip_eq_ok_iff {t : RawText} : t.skip = .ok () ↔ t.ending = .closed := by
  unfold skip
  cases t.ending <;> simp

theorem Ending.ofSkippedList_eq_ok_iff {e : Ending} : e.ofSkippedList = .ok () ↔ e = .closed := by
  cases e <;> simp [ofSkippedList, ofList]

theorem Ending.ofSkippedMap_eq_ok_iff {e : Ending} : e.ofSkippedMap = .ok () ↔ e = .closed := by
  cases e <;> simp [ofSkippedMap, ofMap]

namespace Value

theorem skip_missing_ne (fault : Fault) : (missing fault).skip ≠ .ok () := by
  rw [skip]
  exact nofun

theorem skipItems_eq_ok_iff {vs : List Value} :
    skipItems vs = .ok () ↔ ∀ v ∈ vs, v.skip = .ok () := by
  induction vs with
  | nil => simp [skipItems]
  | cons v vs ih => rw [skipItems, unit_bind_eq_ok_iff, ih, List.forall_mem_cons]

theorem skipMembers_eq_ok_iff {members : List (RawText × Value)} :
    skipMembers members = .ok () ↔ ∀ m ∈ members, m.1.skip = .ok () ∧ m.2.skip = .ok () := by
  induction members with
  | nil => simp [skipMembers]
  | cons m members ih =>
      rw [skipMembers, unit_bind_eq_ok_iff, unit_bind_eq_ok_iff, ih, List.forall_mem_cons,
        and_assoc]

theorem skip_list_eq_ok_iff {items : List Value} {e : Ending} :
    (list items e).skip = .ok () ↔ (∀ v ∈ items, v.skip = .ok ()) ∧ e = .closed := by
  rw [skip, unit_bind_eq_ok_iff, skipItems_eq_ok_iff, Ending.ofSkippedList_eq_ok_iff]

theorem skip_map_eq_ok_iff {members : List (RawText × Value)} {e : Ending} :
    (map members e).skip = .ok () ↔
      (∀ m ∈ members, m.1.skip = .ok () ∧ m.2.skip = .ok ()) ∧ e = .closed := by
  rw [skip, unit_bind_eq_ok_iff, skipMembers_eq_ok_iff, Ending.ofSkippedMap_eq_ok_iff]

end Value

mutual

theorem Value.Tokens.skip_eq {v : Value} {ts : List Token} (h : v.Tokens ts) :
    v.skip = .ok () := by
  match h with
  | .null | .boolean _ | .number _ | .text _ | .emptyList | .emptyMap => rfl
  | .list h => exact Value.skip_list_eq_ok_iff.2 ⟨h.skip_eq, rfl⟩
  | .map h => exact Value.skip_map_eq_ok_iff.2 ⟨h.skip_eq, rfl⟩

theorem ItemTokens.skip_eq {vs : List Value} {ts : List Token} (h : ItemTokens vs ts) :
    ∀ v ∈ vs, v.skip = .ok () := by
  match h with
  | .last h => exact List.forall_mem_singleton.2 h.skip_eq
  | .more h rest => exact List.forall_mem_cons.2 ⟨h.skip_eq, rest.skip_eq⟩

theorem MemberTokens.skip_eq {members : List (RawText × Value)} {ts : List Token}
    (h : MemberTokens members ts) : ∀ m ∈ members, m.1.skip = .ok () ∧ m.2.skip = .ok () := by
  match h with
  | .last h => exact List.forall_mem_singleton.2 ⟨rfl, h.skip_eq⟩
  | .more h rest => exact List.forall_mem_cons.2 ⟨⟨rfl, h.skip_eq⟩, rest.skip_eq⟩

end

/-! ## Tokens that come to a value without a fault -/

/-- Nothing is wrong with what has been gathered so far. -/
def Frame.Passes : Frame → Prop
  | list items => ∀ v ∈ items, v.skip = .ok ()
  | map members key =>
    (∀ m ∈ members, m.1.skip = .ok () ∧ m.2.skip = .ok ()) ∧ key.skip = .ok ()

theorem Frame.skip_close_eq_ok_iff {f : Frame} {v : Value} {e : Ending} :
    (f.close v e).skip = .ok () ↔ (v.skip = .ok () ∧ f.Passes) ∧ e = .closed := by
  cases f with
  | list items =>
      rw [close, Value.skip_list_eq_ok_iff]
      simp only [List.mem_reverse, List.forall_mem_cons, Passes]
  | map members key =>
      rw [close, Value.skip_map_eq_ok_iff]
      simp only [List.mem_reverse, List.forall_mem_cons, Passes]
      constructor
      · rintro ⟨⟨⟨hk, hv⟩, hm⟩, he⟩
        exact ⟨⟨hv, hm, hk⟩, he⟩
      · rintro ⟨⟨hv, hm, hk⟩, he⟩
        exact ⟨⟨⟨hk, hv⟩, hm⟩, he⟩

/-- The document is one value, and nothing is wrong with it. -/
def Document.Passes (d : Document) : Prop := d.value.skip = .ok () ∧ d.trailing = false

/-- A fault inside of lists and maps is still a fault of the whole. -/
theorem Document.not_passes_breakOff {v : Value} (h : v.skip ≠ .ok ()) (frames : List Frame) :
    ¬ (breakOff v frames).Passes := by
  induction frames generalizing v with
  | nil => exact fun passes => h passes.1
  | cons f frames ih => exact ih fun hf => h (Frame.skip_close_eq_ok_iff.1 hf).1.1

namespace Progress

/-- Nothing is wrong with what has been taken so far. -/
def Passes : Progress → Prop
  | due frames | listOpened frames | mapOpened frames => ∀ f ∈ frames, f.Passes
  | complete v frames => v.skip = .ok () ∧ ∀ f ∈ frames, f.Passes
  | listComma items frames => ∀ f ∈ .list items :: frames, f.Passes
  | mapComma members frames =>
    (∀ m ∈ members, m.1.skip = .ok () ∧ m.2.skip = .ok ()) ∧ ∀ f ∈ frames, f.Passes
  | keyRead members key frames => ∀ f ∈ .map members key :: frames, f.Passes
  | stopped d => d.Passes

end Progress

theorem ItemTokens.concat {vs : List Value} {ts : List Token} (h : ItemTokens vs ts) {v : Value}
    {ts' : List Token} (last : v.Tokens ts') : ItemTokens (vs ++ [v]) (ts ++ .comma :: ts') := by
  match h with
  | .last first => exact .more first (.last last)
  | .more first rest =>
      rw [List.append_assoc]
      exact .more first (rest.concat last)

theorem MemberTokens.concat {members : List (RawText × Value)} {ts : List Token}
    (h : MemberTokens members ts) (ps : List Piece) {v : Value} {ts' : List Token}
    (last : v.Tokens ts') : MemberTokens (members ++ [(⟨ps, .closed⟩, v)])
      (ts ++ .comma :: .text ⟨ps, .closed⟩ :: .colon :: ts') := by
  match h with
  | .last first => exact .more first (.last last)
  | @MemberTokens.more ps' _ _ _ _ first rest =>
      have more := @MemberTokens.more ps' _ _ _ _ first (rest.concat ps last)
      simpa only [List.cons_append, List.append_assoc] using more

/-- The tokens before a place where a value is due, with these lists and maps open. -/
inductive Opened : List Frame → List Token → Prop
  | nil : Opened [] []
  | list {frames : List Frame} {ts : List Token} (h : Opened frames ts) :
    Opened (.list [] :: frames) (ts ++ [.openList])
  | item {items : List Value} {frames : List Frame} {ts ts' : List Token} (h : Opened frames ts)
    (before : ItemTokens items.reverse ts') :
    Opened (.list items :: frames) (ts ++ .openList :: (ts' ++ [.comma]))
  | map {ps : List Piece} {frames : List Frame} {ts : List Token} (h : Opened frames ts) :
    Opened (.map [] ⟨ps, .closed⟩ :: frames) (ts ++ [.openMap, .text ⟨ps, .closed⟩, .colon])
  | member {members : List (RawText × Value)} {ps : List Piece} {frames : List Frame}
    {ts ts' : List Token} (h : Opened frames ts) (before : MemberTokens members.reverse ts') :
    Opened (.map members ⟨ps, .closed⟩ :: frames)
      (ts ++ .openMap :: (ts' ++ [.comma, .text ⟨ps, .closed⟩, .colon]))

/-- One more entry stands in the innermost list. -/
theorem Opened.items {items : List Value} {frames : List Frame} {ts ts' : List Token} {v : Value}
    (h : Opened (.list items :: frames) ts) (entry : v.Tokens ts') : ∃ ts₀ ts₁,
      Opened frames ts₀ ∧ ItemTokens (v :: items).reverse ts₁ ∧
        ts ++ ts' = ts₀ ++ .openList :: ts₁ := by
  cases h with
  | list h => exact ⟨_, _, h, .last entry, by simp⟩
  | item h before =>
      rw [List.reverse_cons]
      exact ⟨_, _, h, before.concat entry, by simp⟩

theorem Opened.members {members : List (RawText × Value)} {key : RawText} {frames : List Frame}
    {ts ts' : List Token} {v : Value} (h : Opened (.map members key :: frames) ts)
    (entry : v.Tokens ts') : ∃ ts₀ ts₁,
      Opened frames ts₀ ∧ MemberTokens ((key, v) :: members).reverse ts₁ ∧
        ts ++ ts' = ts₀ ++ .openMap :: ts₁ := by
  cases h with
  | map h => exact ⟨_, _, h, .last entry, by simp⟩
  | member h before =>
      rw [List.reverse_cons]
      exact ⟨_, _, h, before.concat _ entry, by simp⟩

namespace Progress

/-- The tokens that have been taken are the beginning of a value. -/
inductive After : Progress → List Token → Prop
  | due {frames : List Frame} {ts : List Token} (h : Opened frames ts) : After (.due frames) ts
  | complete {v : Value} {frames : List Frame} {ts ts' : List Token} (h : Opened frames ts)
    (value : v.Tokens ts') : After (.complete v frames) (ts ++ ts')
  | listOpened {frames : List Frame} {ts : List Token} (h : Opened frames ts) :
    After (.listOpened frames) (ts ++ [.openList])
  | listComma {items : List Value} {frames : List Frame} {ts : List Token}
    (h : Opened (.list items :: frames) ts) : After (.listComma items frames) ts
  | mapOpened {frames : List Frame} {ts : List Token} (h : Opened frames ts) :
    After (.mapOpened frames) (ts ++ [.openMap])
  | mapComma {members : List (RawText × Value)} {frames : List Frame} {ts : List Token}
    (h : ∀ ps, Opened (.map members ⟨ps, .closed⟩ :: frames)
      (ts ++ [.text ⟨ps, .closed⟩, .colon])) : After (.mapComma members frames) ts
  | keyRead {members : List (RawText × Value)} {key : RawText} {frames : List Frame}
    {ts : List Token} (h : Opened (.map members key :: frames) (ts ++ [.colon])) :
    After (.keyRead members key frames) ts

theorem value_sound {frames : List Frame} {t : Token} : (value frames t).Passes →
    (∀ f ∈ frames, f.Passes) ∧
      ∀ ts, Opened frames ts → After (value frames t) (ts ++ [t]) := by
  fun_cases value frames t
  case case1 => exact fun h => ⟨h.2, fun ts opened => .complete opened .null⟩
  case case2 b => exact fun h => ⟨h.2, fun ts opened => .complete opened (.boolean b)⟩
  case case3 n =>
    intro h
    obtain ⟨skip, frames⟩ := h
    cases n with
    | numeral n => exact ⟨frames, fun ts opened => .complete opened (.number n)⟩
    | malformed => cases skip
    | cutOff => cases skip
  case case4 t =>
    intro h
    obtain ⟨skip, frames⟩ := h
    obtain ⟨ps, ending⟩ := t
    obtain rfl : ending = .closed := RawText.skip_eq_ok_iff.1 skip
    exact ⟨frames, fun ts opened => .complete opened (.text ps)⟩
  case case5 => exact fun h => ⟨h, fun ts opened => .listOpened opened⟩
  case case6 => exact fun h => ⟨h, fun ts opened => .mapOpened opened⟩
  case case7 => exact fun h => absurd h (Document.not_passes_breakOff (Value.skip_missing_ne _) _)
  case case8 => exact fun h => absurd h (Document.not_passes_breakOff (Value.skip_missing_ne _) _)

/-- An innermost list or map that is not closed is a fault. -/
theorem not_passes_close {e : Ending} (h : e ≠ .closed) (v : Value) (f : Frame)
    (frames : List Frame) : ¬ (Document.breakOff (f.close v e) frames).Passes :=
  Document.not_passes_breakOff (fun hs => h (Frame.skip_close_eq_ok_iff.1 hs).2) frames

theorem not_passes_list {e : Ending} (h : e ≠ .closed) (items : List Value)
    (frames : List Frame) : ¬ (Document.breakOff (.list items e) frames).Passes :=
  Document.not_passes_breakOff (fun hs => h (Value.skip_list_eq_ok_iff.1 hs).2) frames

theorem not_passes_map {e : Ending} (h : e ≠ .closed) (members : List (RawText × Value))
    (frames : List Frame) : ¬ (Document.breakOff (.map members e) frames).Passes :=
  Document.not_passes_breakOff (fun hs => h (Value.skip_map_eq_ok_iff.1 hs).2) frames

section Complete

variable {v : Value} {items : List Value} {members : List (RawText × Value)} {key : RawText}
  {frames : List Frame}

theorem complete_list_passes (h : (Frame.list (v :: items)).Passes)
    (outer : ∀ f ∈ frames, f.Passes) : (complete v (.list items :: frames)).Passes := by
  obtain ⟨last, before⟩ := List.forall_mem_cons.1 h
  exact ⟨last, List.forall_mem_cons.2 ⟨before, outer⟩⟩

theorem complete_map_passes (h : ∀ m ∈ (key, v) :: members, m.1.skip = .ok () ∧ m.2.skip = .ok ())
    (outer : ∀ f ∈ frames, f.Passes) : (complete v (.map members key :: frames)).Passes := by
  obtain ⟨⟨named, last⟩, before⟩ := List.forall_mem_cons.1 h
  exact ⟨last, List.forall_mem_cons.2 ⟨⟨before, named⟩, outer⟩⟩

theorem After.list_items {ts : List Token} (h : After (.complete v (.list items :: frames)) ts) :
    ∃ ts₀ ts₁, Opened frames ts₀ ∧ ItemTokens (v :: items).reverse ts₁ ∧
      ts = ts₀ ++ .openList :: ts₁ := by
  cases h with
  | complete opened value => exact opened.items value

theorem After.map_members {ts : List Token}
    (h : After (.complete v (.map members key :: frames)) ts) :
    ∃ ts₀ ts₁, Opened frames ts₀ ∧ MemberTokens ((key, v) :: members).reverse ts₁ ∧
      ts = ts₀ ++ .openMap :: ts₁ := by
  cases h with
  | complete opened value => exact opened.members value

end Complete

/-- When another token is taken and nothing is wrong afterwards, then nothing has been before, and
the token goes on with the value. -/
theorem next_sound {p : Progress} {t : Token} : (p.next t).Passes →
    p.Passes ∧ ∀ ts, After p ts → After (p.next t) (ts ++ [t]) := by
  fun_cases next p t
  case case1 frames =>
    intro h
    obtain ⟨passes, after⟩ := value_sound h
    refine ⟨passes, fun ts before => ?_⟩
    cases before with
    | due opened => exact after ts opened
  case case2 v => exact fun h => absurd h.2 nofun
  case case3 v items frames =>
    intro h
    obtain ⟨gathered, outer⟩ := List.forall_mem_cons.1 h
    refine ⟨complete_list_passes gathered outer, fun ts before => ?_⟩
    obtain ⟨ts₀, ts₁, opened, items, rfl⟩ := before.list_items
    rw [List.append_assoc]
    exact .listComma (.item opened items)
  case case4 v items frames =>
    intro ⟨closed, outer⟩
    obtain ⟨⟨last, gathered⟩, -⟩ := Frame.skip_close_eq_ok_iff.1 closed
    refine ⟨⟨last, List.forall_mem_cons.2 ⟨gathered, outer⟩⟩, fun ts before => ?_⟩
    obtain ⟨ts₀, ts₁, opened, items, rfl⟩ := before.list_items
    rw [List.append_assoc]
    exact .complete opened (.list items)
  case case5 => exact fun h => absurd h (not_passes_close (by decide) _ _ _)
  case case6 v members key frames =>
    intro ⟨gathered, outer⟩
    refine ⟨complete_map_passes gathered outer, fun ts before => ?_⟩
    obtain ⟨ts₀, ts₁, opened, members, rfl⟩ := before.map_members
    refine .mapComma fun ps => ?_
    simpa using Opened.member opened members
  case case7 v members key frames =>
    intro ⟨closed, outer⟩
    obtain ⟨⟨last, gathered⟩, -⟩ := Frame.skip_close_eq_ok_iff.1 closed
    refine ⟨⟨last, List.forall_mem_cons.2 ⟨gathered, outer⟩⟩, fun ts before => ?_⟩
    obtain ⟨ts₀, ts₁, opened, members, rfl⟩ := before.map_members
    rw [List.append_assoc]
    exact .complete opened (.map members)
  case case8 => exact fun h => absurd h (not_passes_close (by decide) _ _ _)
  case case9 frames =>
    intro ⟨_, outer⟩
    refine ⟨outer, fun ts before => ?_⟩
    cases before with
    | listOpened opened =>
        rw [List.append_assoc]
        exact .complete opened .emptyList
  case case10 frames _ =>
    intro h
    obtain ⟨passes, after⟩ := value_sound h
    refine ⟨(List.forall_mem_cons.1 passes).2, fun ts before => ?_⟩
    cases before with
    | listOpened opened => exact after _ (.list opened)
  case case11 => exact fun h => absurd h (not_passes_list (by decide) _ _)
  case case12 items frames _ =>
    intro h
    obtain ⟨passes, after⟩ := value_sound h
    refine ⟨passes, fun ts before => ?_⟩
    cases before with
    | listComma opened => exact after _ opened
  case case13 frames =>
    intro ⟨_, outer⟩
    refine ⟨outer, fun ts before => ?_⟩
    cases before with
    | mapOpened opened =>
        rw [List.append_assoc]
        exact .complete opened .emptyMap
  case case14 frames key =>
    intro h
    obtain ⟨⟨-, closed⟩, outer⟩ := List.forall_mem_cons.1 h
    refine ⟨outer, fun ts before => ?_⟩
    obtain ⟨ps, ending⟩ := key
    obtain rfl : ending = .closed := RawText.skip_eq_ok_iff.1 closed
    cases before with
    | mapOpened opened =>
        refine .keyRead ?_
        simpa using Opened.map opened
  case case15 => exact fun h => absurd h (not_passes_map (by decide) _ _)
  case case16 => exact fun h => absurd h (not_passes_map (by decide) _ _)
  case case17 members frames key =>
    intro h
    obtain ⟨⟨gathered, closed⟩, outer⟩ := List.forall_mem_cons.1 h
    refine ⟨⟨gathered, outer⟩, fun ts before => ?_⟩
    obtain ⟨ps, ending⟩ := key
    obtain rfl : ending = .closed := RawText.skip_eq_ok_iff.1 closed
    cases before with
    | mapComma opened =>
        refine .keyRead ?_
        simpa using opened ps
  case case18 => exact fun h => absurd h (not_passes_map (by decide) _ _)
  case case19 members key frames =>
    intro h
    refine ⟨h, fun ts before => ?_⟩
    cases before with
    | keyRead opened => exact .due opened
  case case20 => exact fun h => absurd h (Document.not_passes_breakOff (Value.skip_missing_ne _) _)
  case case21 =>
    refine fun h => ⟨h, fun ts before => ?_⟩
    cases before

theorem after_feed {ts : List Token} (h : ((due []).feed ts).Passes) :
    After ((due []).feed ts) ts := by
  induction ts using List.reverseRecOn with
  | nil => exact .due .nil
  | append_singleton ts t ih =>
      rw [feed_append] at h ⊢
      obtain ⟨passes, after⟩ := next_sound h
      exact after ts (ih passes)

theorem finish_sound {p : Progress} : p.finish.Passes →
    p.Passes ∧ ∀ ts, After p ts → p.finish.value.Tokens ts := by
  fun_cases finish p
  case case1 => exact fun h => absurd h (Document.not_passes_breakOff (Value.skip_missing_ne _) _)
  case case2 v =>
    intro h
    refine ⟨⟨h.1, List.forall_mem_nil _⟩, fun ts before => ?_⟩
    cases before with
    | complete opened value =>
        cases opened with
        | nil => exact value
  case case3 => exact fun h => absurd h (not_passes_close (by decide) _ _ _)
  case case4 => exact fun h => absurd h (not_passes_list (by decide) _ _)
  case case5 => exact fun h => absurd h (not_passes_list (by decide) _ _)
  case case6 => exact fun h => absurd h (not_passes_map (by decide) _ _)
  case case7 => exact fun h => absurd h (not_passes_map (by decide) _ _)
  case case8 => exact fun h => absurd h (Document.not_passes_breakOff (Value.skip_missing_ne _) _)
  case case9 =>
    refine fun h => ⟨h, fun ts before => ?_⟩
    cases before

end Progress

/-- Tokens that come to a value without a fault are the tokens of that value. -/
theorem Document.tokens_of_passes {ts : List Token} (h : (ofTokens ts).Passes) :
    (ofTokens ts).value.Tokens ts := by
  obtain ⟨passes, sound⟩ := Progress.finish_sound h
  exact sound ts (Progress.after_feed passes)

end VisualNovel.Json
