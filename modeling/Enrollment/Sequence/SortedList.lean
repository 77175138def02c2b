import Enrollment.Sequence.ChainList

/-!
A list that is always ascending: a new value goes in front of the first value greater than it.
-/
namespace Enrollment

structure SortedList (α : Type) where
  chain : ChainList α
  deriving DecidableEq, Repr

namespace SortedList

variable {α β ε : Type}

def empty : SortedList α := ⟨ChainList.withCapacity Bounds.count⟩

def toList (list : SortedList α) : List α := list.chain.toList

def length (list : SortedList α) : Nat := list.chain.size

def isEmpty (list : SortedList α) : Bool := list.length == 0

def onChain (call : Call (ChainList α) ε β) : Call (SortedList α) ε β :=
  Call.within chain (fun _ chain => ⟨chain⟩) call

def get (list : SortedList α) (index : Nat) : Except SequenceError α := list.chain.get index

def removeAt (index : Nat) : Call (SortedList α) SequenceError α :=
  onChain (ChainList.removeAt index)

def find? (list : SortedList α) (property : α → Bool) : Option α := list.toList.find? property

def removeWhere (property : α → Bool) : Call (SortedList α) ε (Option α) := do
  let list ← Call.current
  match list.toList.findIdx? property with
  | some index => Call.attempt (removeAt index)
  | none => return none

variable [BEq α]

def contains (list : SortedList α) (value : α) : Bool := BoundedSeq.contains list.chain value

/-- Store a value at its place and answer the place. -/
def add [Ord α] : Option α → Call (SortedList α) SequenceError Nat
  | none => Call.refuse .nullValue
  | some value => do
    let list ← Call.current
    if list.contains value then Call.refuse .duplicateValue
    else
      let greater (stored : α) : Bool := compare stored value == .gt
      let index := (list.toList.findIdx? greater).getD list.length
      onChain (ChainList.insert index (some value))
      return index

end SortedList

end Enrollment
