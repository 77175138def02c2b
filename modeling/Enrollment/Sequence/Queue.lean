import Enrollment.Sequence.Bounded

/-!
First in, first out: a queue is a bounded sequence that grows at its end and is taken from at its
head.  A value in the middle may leave; the others keep their order.
-/
namespace Enrollment

structure Queue (S : Type) where
  line : S
  deriving DecidableEq, Repr

namespace Queue

variable {S α ε : Type}

def onLine (call : Call S ε α) : Call (Queue S) ε α :=
  Call.within line (fun _ line => ⟨line⟩) call

variable [BoundedSeq S α]

def bounded (capacity : Nat) : Queue S := ⟨BoundedSeq.bounded capacity⟩

def toList (queue : Queue S) : List α := BoundedSeq.toList queue.line

def length (queue : Queue S) : Nat := BoundedSeq.length queue.line

def capacity (queue : Queue S) : Nat := BoundedSeq.capacity queue.line

def isEmpty (queue : Queue S) : Bool := queue.length == 0

def isFull (queue : Queue S) : Bool := queue.length ≥ queue.capacity

def peek? (queue : Queue S) : Option α := (BoundedSeq.get queue.line 0).toOption

def enqueue (value : Option α) : Call (Queue S) SequenceError Unit :=
  onLine (BoundedSeq.push value)

def dequeue : Call (Queue S) SequenceError α := do
  let queue ← Call.current
  if queue.isEmpty then Call.refuse .emptyContainer
  else onLine (BoundedSeq.removeAt 0)

def setCapacity (capacity : Nat) : Call (Queue S) SequenceError Unit :=
  onLine (BoundedSeq.setCapacity capacity)

variable [BEq α]

def contains (queue : Queue S) (value : α) : Bool := BoundedSeq.contains queue.line value

def removeItem (value : α) : Call (Queue S) ε (Option α) :=
  onLine (BoundedSeq.removeItem value)

end Queue

end Enrollment
