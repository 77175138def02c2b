import Enrollment.Sequence.Bounded

/-!
The plainest bounded sequence: a list and a number.  It says by itself what every storage is to
answer, sharing no operation with them.
-/
namespace Enrollment

structure CappedList (α : Type) where
  items : List α
  capacity : Nat
  deriving DecidableEq, Repr

namespace CappedList

variable {α ε : Type}

def empty (capacity : Nat) : CappedList α := ⟨[], capacity⟩

def get (list : CappedList α) (index : Nat) : Except SequenceError α :=
  match list.items[index]? with
  | some value => .ok value
  | none => .error (.indexOutOfRange index list.items.length)

def removeAt (index : Nat) : Call (CappedList α) SequenceError α := do
  let list ← Call.current
  match list.items[index]? with
  | some value =>
    Call.become { list with items := list.items.eraseIdx index }
    return value
  | none => Call.refuse (.indexOutOfRange index list.items.length)

def setCapacity (capacity : Nat) : Call (CappedList α) SequenceError Unit := do
  let list ← Call.current
  if list.items.length ≤ capacity then Call.become { list with capacity }
  else Call.refuse (.invalidCapacity capacity list.items.length)

def clear (list : CappedList α) : CappedList α := { list with items := [] }

theorem removeAt_apply (index : Nat) (list : CappedList α) :
    removeAt index list =
      match list.items[index]? with
      | some item => ⟨.ok item, { list with items := list.items.eraseIdx index }, []⟩
      | none => ⟨.error (.indexOutOfRange index list.items.length), list, []⟩ := by
  cases h : list.items[index]? <;> simp [removeAt, h]

theorem setCapacity_apply (capacity : Nat) (list : CappedList α) :
    setCapacity capacity list =
      if capacity < list.items.length then
        ⟨.error (.invalidCapacity capacity list.items.length), list, []⟩
      else ⟨.ok (), { list with capacity }, []⟩ := by
  simp only [setCapacity, Call.current_bind]
  split <;> split <;> first | rfl | omega

variable [BEq α]

def insert (index : Nat) : Option α → Call (CappedList α) SequenceError Unit
  | none => Call.refuse .nullValue
  | some value => do
    let list ← Call.current
    if list.items.any (· == value) then Call.refuse .duplicateValue
    else if list.items.length < index then
      Call.refuse (.indexOutOfRange index list.items.length)
    else if list.capacity ≤ list.items.length then
      Call.refuse (.capacityExceeded list.capacity)
    else Call.become { list with items := list.items.insertIdx index value }

/-- Put a value in the place of another; only the other places are searched for its equal. -/
def set (index : Nat) : Option α → Call (CappedList α) SequenceError α
  | none => Call.refuse .nullValue
  | some value => do
    let list ← Call.current
    match list.items[index]? with
    | none => Call.refuse (.indexOutOfRange index list.items.length)
    | some previous =>
      if (list.items.eraseIdx index).any (· == value) then Call.refuse .duplicateValue
      else
        Call.become { list with items := list.items.set index value }
        return previous

def push : Option α → Call (CappedList α) SequenceError Unit
  | none => Call.refuse .nullValue
  | some value => do
    let list ← Call.current
    if list.items.any (· == value) then Call.refuse .duplicateValue
    else if list.capacity ≤ list.items.length then
      Call.refuse (.capacityExceeded list.capacity)
    else Call.become { list with items := list.items ++ [value] }

def position (list : CappedList α) (value : α) : Option Nat := list.items.findIdx? (· == value)

def contains (list : CappedList α) (value : α) : Bool := list.items.any (· == value)

def removeItem (value : α) : Call (CappedList α) ε (Option α) := do
  let list ← Call.current
  Call.become { list with items := list.items.eraseP (· == value) }
  return list.items.find? (· == value)

theorem insert_apply (index : Nat) (value : Option α) (list : CappedList α) :
    insert index value list =
      match checkInsert list.items list.items.length list.capacity index value with
      | .ok item => ⟨.ok (), { list with items := list.items.insertIdx index item }, []⟩
      | .error e => ⟨.error e, list, []⟩ := by
  cases value with
  | none => rfl
  | some value =>
    simp only [insert, checkInsert, Call.current_bind]
    split
    · rfl
    · split
      · rfl
      · split <;> rfl

theorem set_apply (index : Nat) (value : α) (list : CappedList α) :
    set index (some value) list =
      match list.items[index]? with
      | none => ⟨.error (.indexOutOfRange index list.items.length), list, []⟩
      | some previous =>
        if (list.items.eraseIdx index).any (· == value) then ⟨.error .duplicateValue, list, []⟩
        else ⟨.ok previous, { list with items := list.items.set index value }, []⟩ := by
  simp only [set, Call.current_bind]
  cases list.items[index]? with
  | none => rfl
  | some previous =>
    by_cases hany : (list.items.eraseIdx index).any (· == value) = true
    · simp [hany]
    · simp [hany]

/-- A value is put behind the others, or refused, as one is that is put in at the end. -/
theorem push_apply (value : Option α) (list : CappedList α) :
    push value list = insert list.items.length value list := by
  cases value with
  | none => rfl
  | some value =>
    simp only [push, insert, Call.current_bind, List.insertIdx_length_self, Nat.lt_irrefl,
      if_false]

theorem removeItem_apply (value : α) (list : CappedList α) :
    (removeItem value : Call (CappedList α) ε (Option α)) list =
      ⟨.ok (list.items.find? (· == value)),
        { list with items := list.items.eraseP (· == value) }, []⟩ := rfl

end CappedList

end Enrollment
