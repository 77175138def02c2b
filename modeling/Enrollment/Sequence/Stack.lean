import Enrollment.Sequence.Bounded

/-!
Last in, first out: a stack is a bounded sequence that grows and shrinks at its end.
-/
namespace Enrollment

structure Stack (S : Type) where
  pile : S
  deriving DecidableEq, Repr

namespace Stack

variable {S α ε : Type}

def onPile (call : Call S ε α) : Call (Stack S) ε α :=
  Call.within pile (fun _ pile => ⟨pile⟩) call

variable [BoundedSeq S α]

def bounded (capacity : Nat) : Stack S := ⟨BoundedSeq.bounded capacity⟩

def toList (stack : Stack S) : List α := BoundedSeq.toList stack.pile

def depth (stack : Stack S) : Nat := BoundedSeq.length stack.pile

def capacity (stack : Stack S) : Nat := BoundedSeq.capacity stack.pile

def isEmpty (stack : Stack S) : Bool := stack.depth == 0

def peek? (stack : Stack S) : Option α :=
  match stack.depth with
  | 0 => none
  | below + 1 => (BoundedSeq.get stack.pile below).toOption

def push (value : Option α) : Call (Stack S) SequenceError Unit :=
  onPile (BoundedSeq.push value)

def pop : Call (Stack S) SequenceError α := do
  let stack ← Call.current
  match stack.depth with
  | 0 => Call.refuse .emptyContainer
  | below + 1 => onPile (BoundedSeq.removeAt below)

def setCapacity (capacity : Nat) : Call (Stack S) SequenceError Unit :=
  onPile (BoundedSeq.setCapacity capacity)

end Stack

end Enrollment
