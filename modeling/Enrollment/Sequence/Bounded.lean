import Enrollment.Call

/-!
Bounded sequences: values in order, no two of them equal, with a capacity that only the caller
changes.  A storage supplies the operations of `BoundedSeq`; the rest is derived here once.
-/
namespace Enrollment

def Bounds.count : Nat := 18446744073709551615

def Bounds.credits : Nat := 4294967295

inductive SequenceError
  | nullValue
  | duplicateValue
  /-- The index is outside the range the call allows. -/
  | indexOutOfRange (index size : Nat)
  | capacityExceeded (capacity : Nat)
  /-- The capacity asked for is below the number of stored values. -/
  | invalidCapacity (requested size : Nat)
  | emptyContainer
  deriving DecidableEq, Repr

namespace SequenceError

def message : SequenceError → String
  | nullValue => "null value"
  | duplicateValue => "duplicate value"
  | indexOutOfRange index size => s!"index {index} out of range for size {size}"
  | capacityExceeded capacity => s!"capacity exceeded: {capacity}"
  | invalidCapacity requested size => s!"invalid capacity {requested} for size {size}"
  | emptyContainer => "container is empty"

end SequenceError

class BoundedSeq (S : Type) (α : outParam Type) where
  bounded : Nat → S
  toList : S → List α
  length : S → Nat
  capacity : S → Nat
  get : S → Nat → Except SequenceError α
  /-- Put a value at an index and shift those from there on back by one. -/
  insert : Nat → Option α → Call S SequenceError Unit
  /-- Put a value in the place of the one at an index, and answer the one replaced. -/
  set : Nat → Option α → Call S SequenceError α
  /-- Take the value at an index out and shift those after it forward by one. -/
  removeAt : Nat → Call S SequenceError α
  setCapacity : Nat → Call S SequenceError Unit
  /-- Forget every value and keep the capacity. -/
  clear : S → S

def checkIndex (index size : Nat) : Except SequenceError Unit :=
  if index < size then .ok () else .error (.indexOutOfRange index size)

/-- Pass a value that a sequence of `size` values may store at `index`: it is given, differs from
every stored value, the index is at most the size, and there is room, told in this order. -/
def checkInsert {α : Type} [BEq α] (stored : List α) (size capacity index : Nat) :
    Option α → Except SequenceError α
  | none => .error .nullValue
  | some value =>
    if stored.any (· == value) then .error .duplicateValue
    else if index > size then .error (.indexOutOfRange index size)
    else if size ≥ capacity then .error (.capacityExceeded capacity)
    else .ok value

/-- Pass a value that may replace the one at `index`: it is given, the index is below the size,
and no value elsewhere is the first to equal it, told in this order. -/
def checkSet {α : Type} [BEq α] (stored : List α) (size index : Nat) :
    Option α → Except SequenceError α
  | none => .error .nullValue
  | some value => do
    checkIndex index size
    match stored.findIdx? (· == value) with
    | some place => if place = index then .ok value else .error .duplicateValue
    | none => .ok value

theorem checkInsert_eq_ok {α : Type} [BEq α] {stored : List α} {size capacity index : Nat}
    {value : Option α} {item : α} (h : checkInsert stored size capacity index value = .ok item) :
    value = some item ∧ stored.any (· == item) = false ∧ index ≤ size ∧ size < capacity := by
  cases value with
  | none => simp [checkInsert] at h
  | some value =>
    simp only [checkInsert] at h
    split at h
    · cases h
    · split at h
      · cases h
      · split at h
        · cases h
        · cases h
          refine ⟨rfl, by simp_all, by omega, by omega⟩

namespace BoundedSeq

variable {S α ε : Type} [BoundedSeq S α]

def isEmpty (s : S) : Bool := length s == 0

def isFull (s : S) : Bool := length s ≥ capacity s

def push (value : Option α) : Call S SequenceError Unit := do
  let s ← Call.current
  insert (length s) value

variable [BEq α]

def position (s : S) (value : α) : Option Nat := (toList s).findIdx? (· == value)

def contains (s : S) (value : α) : Bool := (position s value).isSome

def removeItem (value : α) : Call S ε (Option α) := do
  let s ← Call.current
  match position s value with
  | some index => Call.attempt (removeAt index)
  | none => return none

end BoundedSeq

end Enrollment
