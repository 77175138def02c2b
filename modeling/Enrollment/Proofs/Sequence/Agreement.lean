import Enrollment.Proofs.Run
import Enrollment.Proofs.Sequence.ChainList
import Enrollment.Proofs.Sequence.SlotList
import Enrollment.Student

/-!
One history for every storage: whatever is asked of a slot array, of a chain of nodes and of the
plain list, they give the same answers and hold the same values after every call.
-/
namespace Enrollment

inductive SeqCall (α : Type)
  | insert (index : Nat) (value : Option α)
  | push (value : Option α)
  | removeAt (index : Nat)
  | get (index : Nat)
  | set (index : Nat) (value : Option α)
  | position (value : α)
  | contains (value : α)
  | removeItem (value : α)
  | setCapacity (capacity : Nat)
  | clear

inductive SeqAnswer (α : Type)
  | done
  | item (value : α)
  | found (value : Option α)
  | place (index : Option Nat)
  | verdict (holds : Bool)
  deriving DecidableEq

structure Observation (α : Type) where
  result : Except SequenceError (SeqAnswer α)
  items : List α
  length : Nat
  capacity : Nat

namespace CappedList

variable {α : Type} {list : CappedList α}

theorem spares_removeAt (index : Nat) : (removeAt index).Spares list := by
  intro e he
  rw [removeAt_apply] at he ⊢
  cases hget : list.items[index]? with
  | none => rfl
  | some item => simp [hget] at he

theorem spares_setCapacity (capacity : Nat) : (setCapacity capacity).Spares list := by
  intro e he
  rw [setCapacity_apply] at he ⊢
  by_cases hsize : capacity < list.items.length
  · rw [if_pos hsize]
  · simp [hsize] at he

variable [BEq α]

def perform : SeqCall α → Call (CappedList α) SequenceError (SeqAnswer α)
  | .insert index value => do
    insert index value
    return .done
  | .push value => do
    push value
    return .done
  | .removeAt index => do
    let item ← removeAt index
    return .item item
  | .get index => do
    let list ← Call.current
    let item ← Call.ofExcept (list.get index)
    return .item item
  | .set index value => do
    let previous ← set index value
    return .item previous
  | .position value => do
    let list ← Call.current
    return .place (list.position value)
  | .contains value => do
    let list ← Call.current
    return .verdict (list.contains value)
  | .removeItem value => do
    let removed ← removeItem value
    return .found removed
  | .setCapacity capacity => do
    setCapacity capacity
    return .done
  | .clear => do
    let list ← Call.current
    Call.become list.clear
    return .done

theorem perform_get (index : Nat) (list : CappedList α) :
    perform (.get index) list = ⟨(list.get index).map SeqAnswer.item, list, []⟩ := by
  cases h : list.get index <;> simp [perform, h, Except.map]

def observe (reply : Reply (CappedList α) SequenceError (SeqAnswer α)) : Observation α where
  result := reply.result
  items := reply.state.items
  length := reply.state.items.length
  capacity := reply.state.capacity

def history (calls : List (SeqCall α)) (list : CappedList α) : List (Observation α) :=
  (Call.run perform calls list).map observe

theorem spares_insert (index : Nat) (value : Option α) : (insert index value).Spares list := by
  intro e he
  rw [insert_apply] at he ⊢
  cases hcheck : checkInsert list.items list.items.length list.capacity index value with
  | error e => rfl
  | ok item => simp [hcheck] at he

theorem spares_set (index : Nat) (value : Option α) : (set index value).Spares list := by
  cases value with
  | none => exact fun _ _ => rfl
  | some item =>
    intro e he
    rw [set_apply] at he ⊢
    cases hget : list.items[index]? with
    | none => rfl
    | some previous =>
      by_cases hany : (list.items.eraseIdx index).any (· == item) = true
      · simp only [hany, if_true]
      · simp [hget, hany] at he

/-- A refused call changes nothing. -/
theorem spares_perform (call : SeqCall α) : (perform call).Spares list := by
  cases call with
  | insert index value => exact (spares_insert index value).map fun _ => SeqAnswer.done
  | push value =>
    have hpush : (push value).Spares list := by
      rw [Call.Spares, push_apply]
      exact spares_insert list.items.length value
    exact hpush.map fun _ => SeqAnswer.done
  | removeAt index => exact (spares_removeAt index).map SeqAnswer.item
  | get index =>
    rw [Call.Spares, perform_get]
    exact fun _ _ => rfl
  | set index value => exact (spares_set index value).map SeqAnswer.item
  | position value => exact nofun
  | contains value => exact nofun
  | removeItem value => exact nofun
  | setCapacity capacity => exact (spares_setCapacity capacity).map fun _ => SeqAnswer.done
  | clear => exact nofun

theorem distinct_removeAt (h : Distinct list.items) (index : Nat) :
    Distinct (removeAt index list).state.items := by
  rw [removeAt_apply]
  cases list.items[index]? with
  | none => exact h
  | some item => exact h.sublist (List.eraseIdx_sublist _ _)

theorem distinct_setCapacity (h : Distinct list.items) (capacity : Nat) :
    Distinct (setCapacity capacity list).state.items := by
  rw [setCapacity_apply]
  split <;> exact h

variable [PartialEquivBEq α]

theorem distinct_insert (h : Distinct list.items) (index : Nat) (value : Option α) :
    Distinct (insert index value list).state.items := by
  rw [insert_apply]
  cases hcheck : checkInsert list.items list.items.length list.capacity index value with
  | error e => exact h
  | ok item =>
    obtain ⟨-, hany, hindex, -⟩ := checkInsert_eq_ok hcheck
    exact h.insertIdx hany hindex

theorem distinct_set (h : Distinct list.items) (index : Nat) (value : Option α) :
    Distinct (set index value list).state.items := by
  cases value with
  | none => exact h
  | some item =>
    rw [set_apply]
    cases hget : list.items[index]? with
    | none => exact h
    | some previous =>
      by_cases hany : (list.items.eraseIdx index).any (· == item) = true
      · simp only [hany, if_true]
        exact h
      · simp only [hany]
        exact h.set (by simpa using hany) (List.getElem?_eq_some_iff.mp hget).1

/-- No call stores a value twice. -/
theorem distinct_perform (h : Distinct list.items) (call : SeqCall α) :
    Distinct (perform call list).state.items := by
  cases call with
  | insert index value =>
    rw [perform, Call.bind_pure_apply]
    exact distinct_insert h index value
  | push value =>
    rw [perform, Call.bind_pure_apply, push_apply]
    exact distinct_insert h list.items.length value
  | removeAt index =>
    rw [perform, Call.bind_pure_apply]
    exact distinct_removeAt h index
  | get index =>
    rw [perform_get]
    exact h
  | set index value =>
    rw [perform, Call.bind_pure_apply]
    exact distinct_set h index value
  | position value => exact h
  | contains value => exact h
  | removeItem value =>
    rw [perform, Call.bind_pure_apply, removeItem_apply]
    exact h.sublist List.eraseP_sublist
  | setCapacity capacity =>
    rw [perform, Call.bind_pure_apply]
    exact distinct_setCapacity h capacity
  | clear => exact List.Pairwise.nil

end CappedList

namespace SeqCall

open BoundedSeq

variable {S α : Type} [BEq α] [BoundedSeq S α]

def perform : SeqCall α → Call S SequenceError (SeqAnswer α)
  | insert index value => do
    BoundedSeq.insert index value
    return .done
  | push value => do
    BoundedSeq.push value
    return .done
  | removeAt index => do
    let item ← BoundedSeq.removeAt index
    return .item item
  | get index => do
    let s ← Call.current
    let item ← Call.ofExcept (BoundedSeq.get s index)
    return .item item
  | set index value => do
    let previous ← BoundedSeq.set index value
    return .item previous
  | position value => do
    let s ← Call.current
    return .place (BoundedSeq.position s value)
  | contains value => do
    let s ← Call.current
    return .verdict (BoundedSeq.contains s value)
  | removeItem value => do
    let removed ← BoundedSeq.removeItem value
    return .found removed
  | setCapacity capacity => do
    BoundedSeq.setCapacity capacity
    return .done
  | clear => do
    let s ← Call.current
    Call.become (BoundedSeq.clear s)
    return .done

theorem perform_get (index : Nat) (s : S) :
    perform (get index) s = ⟨(BoundedSeq.get s index).map SeqAnswer.item, s, []⟩ := by
  cases h : BoundedSeq.get s index <;> simp [perform, h, Except.map]

theorem perform_clear (s : S) :
    perform clear s = ⟨.ok SeqAnswer.done, BoundedSeq.clear s, []⟩ := rfl

def observe (reply : Reply S SequenceError (SeqAnswer α)) : Observation α where
  result := reply.result
  items := toList reply.state
  length := length reply.state
  capacity := capacity reply.state

def history (calls : List (SeqCall α)) (s : S) : List (Observation α) :=
  (Call.run perform calls s).map observe

variable [LawfulSeq S α] [PartialEquivBEq α]

/-- One call on a sound storage follows the same call of the plain list. -/
theorem perform_follows {s : S} (h : LawfulSeq.Sound s) (hdistinct : Distinct (toList s))
    (call : SeqCall α) :
    Follows LawfulSeq.Sound (perform call) (CappedList.perform call) s := by
  cases call with
  | insert index value => exact (LawfulSeq.insert_follows index value h).map fun _ => SeqAnswer.done
  | push value => exact (LawfulSeq.push_follows h value).map fun _ => SeqAnswer.done
  | removeAt index => exact (LawfulSeq.removeAt_follows index h).map SeqAnswer.item
  | get index =>
    have hmodel : CappedList.perform (get index) (plain s) =
        ⟨(BoundedSeq.get s index).map SeqAnswer.item, plain s, []⟩ := by
      rw [CappedList.perform_get, LawfulSeq.get_eq index h]
    exact Follows.of_unchanged _ (perform_get index s) hmodel h
  | set index value => exact (LawfulSeq.set_follows index value h hdistinct).map SeqAnswer.item
  | position value => exact Follows.of_unchanged _ rfl rfl h
  | contains value =>
    have hmodel : CappedList.perform (contains value) (plain s) =
        ⟨.ok (.verdict (BoundedSeq.contains s value)), plain s, []⟩ := by
      rw [BoundedSeq.contains_eq]
      rfl
    exact Follows.of_unchanged _ rfl hmodel h
  | removeItem value => exact (LawfulSeq.removeItem_follows h value).map SeqAnswer.found
  | setCapacity capacity =>
    exact (LawfulSeq.setCapacity_follows capacity h).map fun _ => SeqAnswer.done
  | clear =>
    have hmodel : CappedList.perform clear (plain s) =
        ⟨.ok SeqAnswer.done, plain (BoundedSeq.clear s), []⟩ := by
      rw [LawfulSeq.plain_clear h]
      rfl
    exact Follows.of_ok _ _ (perform_clear s) hmodel (LawfulSeq.sound_clear h) rfl

/-- A call leaves a sound storage in which no value is stored twice. -/
theorem sound_perform {s : S} (h : LawfulSeq.Sound s) (hdistinct : Distinct (toList s))
    (call : SeqCall α) :
    LawfulSeq.Sound (perform call s).state ∧ Distinct (toList (perform call s).state) := by
  have hcall := perform_follows h hdistinct call
  have hmodel : Distinct (CappedList.perform call (plain s)).state.items :=
    CappedList.distinct_perform hdistinct call
  rw [← hcall.plain] at hmodel
  exact ⟨hcall.sound, hmodel⟩

/-- A sound storage has the history of the plain list it stands for. -/
theorem history_plain {s : S} (h : LawfulSeq.Sound s) (hdistinct : Distinct (toList s))
    (calls : List (SeqCall α)) : history calls s = CappedList.history calls (plain s) := by
  -- A call leaves another storage, so the induction is for every sound one.
  induction calls generalizing s with
  | nil => rfl
  | cons call rest ih =>
    have hcall := perform_follows h hdistinct call
    have hobserve : observe (perform call s) =
        CappedList.observe (CappedList.perform call (plain s)) := by
      simp only [observe, CappedList.observe, hcall.result, ← hcall.plain]
      rw [LawfulSeq.length_eq hcall.sound]
      rfl
    have hhistory := ih hcall.sound (sound_perform h hdistinct call).2
    rw [hcall.plain] at hhistory
    simp only [history, CappedList.history, Call.run, List.map_cons] at hhistory ⊢
    rw [hobserve, hhistory]

/-- What every call finds: a sound storage in which no value is stored twice. -/
theorem sound_finalState (capacity : Nat) (calls : List (SeqCall α)) :
    LawfulSeq.Sound (Call.finalState perform calls (bounded capacity : S)) ∧
      Distinct (toList (Call.finalState perform calls (bounded capacity : S))) := by
  refine @Call.finalState_induction _ _ _ _ _ (fun s : S => LawfulSeq.Sound s ∧ Distinct (toList s))
    (fun call s ⟨h, hdistinct⟩ => sound_perform h hdistinct call) calls _ ?_
  have hplain := LawfulSeq.plain_bounded (S := S) capacity
  have hitems : toList (bounded capacity : S) = [] := congrArg CappedList.items hplain
  refine ⟨LawfulSeq.sound_bounded capacity, ?_⟩
  rw [hitems]
  exact List.Pairwise.nil

theorem spares_after_calls (capacity : Nat) (calls : List (SeqCall α)) (call : SeqCall α) :
    (perform call).Spares (Call.finalState perform calls (bounded capacity : S)) := by
  obtain ⟨h, hdistinct⟩ := sound_finalState (S := S) capacity calls
  exact (perform_follows h hdistinct call).refused

theorem history_bounded (capacity : Nat) (calls : List (SeqCall α)) :
    history calls (bounded capacity : S) =
      CappedList.history calls (CappedList.empty capacity) := by
  obtain ⟨h, hdistinct⟩ := sound_finalState (S := S) capacity []
  have hhistory := history_plain h hdistinct calls
  rwa [Call.finalState, LawfulSeq.plain_bounded] at hhistory

/-- From nothing stored, both storages answer every call as the plain list does and hold what it
holds; and a refused call changes none of the three. -/
theorem one_history (capacity : Nat) (calls : List (SeqCall α)) :
    history calls (bounded capacity : SlotList α) =
      CappedList.history calls (CappedList.empty capacity) ∧
    history calls (bounded capacity : ChainList α) =
      CappedList.history calls (CappedList.empty capacity) ∧
    ∀ call : SeqCall α,
      (perform call).Spares (Call.finalState perform calls (bounded capacity : SlotList α)) ∧
      (perform call).Spares (Call.finalState perform calls (bounded capacity : ChainList α)) ∧
      (CappedList.perform call).Spares
        (Call.finalState CappedList.perform calls (CappedList.empty capacity)) := by
  refine ⟨history_bounded capacity calls, history_bounded capacity calls, ?_⟩
  intro call
  exact ⟨spares_after_calls capacity calls call, spares_after_calls capacity calls call,
    CappedList.spares_perform call⟩

/-- Two places for three students, one of them given twice. -/
theorem one_history_students :
    let calls : List (SeqCall Student) :=
      [push (some ⟨"ada", 18⟩), push (some ⟨"ada", 12⟩), insert 0 (some ⟨"bob", 15⟩),
        push (some ⟨"cy", 9⟩), removeItem ⟨"bob", 0⟩, clear]
    let shown : List (Observation Student) :=
      [⟨.ok .done, [⟨"ada", 18⟩], 1, 2⟩,
        ⟨.error .duplicateValue, [⟨"ada", 18⟩], 1, 2⟩,
        ⟨.ok .done, [⟨"bob", 15⟩, ⟨"ada", 18⟩], 2, 2⟩,
        ⟨.error (.capacityExceeded 2), [⟨"bob", 15⟩, ⟨"ada", 18⟩], 2, 2⟩,
        ⟨.ok (.found (some ⟨"bob", 15⟩)), [⟨"ada", 18⟩], 1, 2⟩,
        ⟨.ok .done, [], 0, 2⟩]
    history calls (bounded 2 : SlotList Student) = shown ∧
      history calls (bounded 2 : ChainList Student) = shown :=
  ⟨(one_history 2 _).1.trans rfl, (one_history 2 _).2.1.trans rfl⟩

end SeqCall
end Enrollment
