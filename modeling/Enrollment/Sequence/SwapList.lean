import Enrollment.Sequence.Bounded
import Enrollment.Sequence.Carry

/-!
A list whose values may be moved about: one step up or down, or all the way to either end.  Equal
values are welcome, and a step past an end changes nothing.
-/
namespace Enrollment

structure SwapList (α : Type) where
  items : Array α
  deriving DecidableEq, Repr

namespace SwapList

variable {α : Type}

def empty : SwapList α := ⟨#[]⟩

def toList (list : SwapList α) : List α := list.items.toList

def length (list : SwapList α) : Nat := list.items.size

def isEmpty (list : SwapList α) : Bool := list.length == 0

def get (list : SwapList α) (index : Nat) : Except SequenceError α :=
  match list.items[index]? with
  | some value => .ok value
  | none => .error (.indexOutOfRange index list.length)

def add : Option α → Call (SwapList α) SequenceError Unit
  | none => Call.refuse .nullValue
  | some value => do
    let list ← Call.current
    Call.become ⟨list.items.push value⟩

def removeAt (index : Nat) : Call (SwapList α) SequenceError α := do
  let list ← Call.current
  let value ← Call.ofExcept (list.get index)
  Call.become ⟨list.items.eraseIdxIfInBounds index⟩
  return value

def rearrange (index : Nat) (arrange : Array α → Array α) :
    Call (SwapList α) SequenceError Unit := do
  let list ← Call.current
  Call.ofExcept (checkIndex index list.length)
  Call.become ⟨arrange list.items⟩

def moveUp (index : Nat) : Call (SwapList α) SequenceError Unit :=
  rearrange index fun items => items.swapIfInBounds index (index - 1)

def moveDown (index : Nat) : Call (SwapList α) SequenceError Unit :=
  rearrange index fun items => items.swapIfInBounds index (index + 1)

def moveToFront (index : Nat) : Call (SwapList α) SequenceError Unit :=
  rearrange index fun items => carry items index 0

def moveToBack (index : Nat) : Call (SwapList α) SequenceError Unit :=
  rearrange index fun items => carry items index (items.size - 1)

end SwapList

end Enrollment
