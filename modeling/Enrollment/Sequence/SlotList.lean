import Enrollment.Sequence.Bounded
import Enrollment.Sequence.Carry

/-!
A bounded sequence in an array of slots.  The values fill the first slots and all later slots are
empty; when no slot is free the array doubles, which the capacity has no part in.
-/
namespace Enrollment

structure SlotList (α : Type) where
  slots : Array (Option α)
  size : Nat
  capacity : Nat
  deriving DecidableEq, Repr

namespace SlotList

variable {α ε : Type}

def initialSlots : Nat := 10

def withCapacity (capacity : Nat) : SlotList α :=
  ⟨Array.replicate initialSlots none, 0, capacity⟩

def allocated (list : SlotList α) : Nat := list.slots.size

def toList (list : SlotList α) : List α :=
  (list.slots.toList.take list.size).filterMap id

def tailIsClear (list : SlotList α) : Bool :=
  (list.slots.toList.drop list.size).all Option.isNone

def grow : Call (SlotList α) ε Unit := do
  let list ← Call.current
  let doubled := max (list.slots.size * 2) initialSlots
  Call.become { list with
    slots := list.slots ++ Array.replicate (doubled - list.slots.size) none }
  Call.log .trace s!"array list grew to {doubled} slots" []

def get (list : SlotList α) (index : Nat) : Except SequenceError α := do
  checkIndex index list.size
  match list.slots[index]?.join with
  | some value => return value
  | none => throw (.indexOutOfRange index list.size)

/-- Empty the slot at an index and carry it behind the last value. -/
def removeAt (index : Nat) : Call (SlotList α) SequenceError α := do
  let list ← Call.current
  Call.ofExcept (checkIndex index list.size)
  Call.become { list with
    slots := carry (list.slots.setIfInBounds index none) index (list.size - 1)
    size := list.size - 1 }
  match list.slots[index]?.join with
  | some value => return value
  | none => Call.refuse (.indexOutOfRange index list.size)

def setCapacity (capacity : Nat) : Call (SlotList α) SequenceError Unit := do
  let list ← Call.current
  if capacity < list.size then Call.refuse (.invalidCapacity capacity list.size)
  else Call.become { list with capacity }

def clear (list : SlotList α) : SlotList α :=
  { list with
    slots := Array.replicate (min list.size list.slots.size) none ++
      list.slots.extract list.size list.slots.size
    size := 0 }

variable [BEq α]

/-- Put a value into the first free slot and carry that slot to the index. -/
def insert (index : Nat) (value : Option α) : Call (SlotList α) SequenceError Unit := do
  let list ← Call.current
  let value ← Call.ofExcept (checkInsert list.toList list.size list.capacity index value)
  if list.size = list.slots.size then grow
  let list ← Call.current
  Call.become { list with
    slots := carry (list.slots.setIfInBounds list.size (some value)) list.size index
    size := list.size + 1 }

def set (index : Nat) (value : Option α) : Call (SlotList α) SequenceError α := do
  let list ← Call.current
  let value ← Call.ofExcept (checkSet list.toList list.size index value)
  Call.become { list with slots := list.slots.setIfInBounds index (some value) }
  match list.slots[index]?.join with
  | some previous => return previous
  | none => Call.refuse (.indexOutOfRange index list.size)

instance : BoundedSeq (SlotList α) α where
  bounded := withCapacity
  toList := toList
  length := size
  capacity := capacity
  get := get
  insert := insert
  set := set
  removeAt := removeAt
  setCapacity := setCapacity
  clear := clear

end SlotList

end Enrollment
