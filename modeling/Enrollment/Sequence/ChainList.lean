import Enrollment.Sequence.Bounded

/-!
A bounded sequence as a chain of nodes.  The nodes lie in an arena and name their successors by
place; places given up are kept in a free list and used again, the last one given up first.
-/
namespace Enrollment

structure Node (α : Type) where
  value : α
  next : Option Nat
  deriving DecidableEq, Repr

/-- The arena, its free places, the ends of the chain, its length, and the capacity. -/
structure ChainList (α : Type) where
  nodes : Array (Option (Node α))
  free : List Nat
  front : Option Nat
  back : Option Nat
  size : Nat
  capacity : Nat
  deriving DecidableEq, Repr

namespace ChainList

variable {α : Type}

def withCapacity (capacity : Nat) : ChainList α := ⟨#[], [], none, none, 0, capacity⟩

def node? (list : ChainList α) (place : Nat) : Option (Node α) := list.nodes[place]?.join

def after? (list : ChainList α) (place : Nat) : Option Nat := (list.node? place).bind Node.next

def place? (list : ChainList α) : Nat → Option Nat
  | 0 => list.front
  | steps + 1 => (list.place? steps).bind list.after?

def first? (list : ChainList α) : Option α := (list.front.bind list.node?).map Node.value

def last? (list : ChainList α) : Option α := (list.back.bind list.node?).map Node.value

structure Cursor where
  place : Option Nat
  remaining : Nat
  deriving DecidableEq, Repr

def start (list : ChainList α) : Cursor := ⟨list.front, list.size⟩

def next? (list : ChainList α) (cursor : Cursor) : Option (α × Cursor) := do
  let node ← list.node? (← cursor.place)
  return (node.value, ⟨node.next, cursor.remaining - 1⟩)

def walk (list : ChainList α) : Nat → Cursor → List α × Cursor
  | 0, cursor => ([], cursor)
  | steps + 1, cursor =>
    match list.next? cursor with
    | none => ([], cursor)
    | some (value, cursor) =>
      let (values, cursor) := list.walk steps cursor
      (value :: values, cursor)

/-- The values along the chain, which passes no place of the arena twice. -/
def toList (list : ChainList α) : List α := (list.walk list.nodes.size list.start).1

/-- Put a node into a free place, or into a new one; answers the place. -/
def allocate (list : ChainList α) (node : Node α) : Nat × ChainList α :=
  match list.free with
  | place :: free =>
    (place, { list with nodes := list.nodes.setIfInBounds place (some node), free })
  | [] => (list.nodes.size, { list with nodes := list.nodes.push (some node) })

def release? (list : ChainList α) (place : Nat) : Option (Node α × ChainList α) :=
  (list.node? place).map fun node =>
    (node, { list with
      nodes := list.nodes.setIfInBounds place none
      free := place :: list.free })

def relink (list : ChainList α) (place : Nat) (next : Option Nat) : ChainList α :=
  match list.node? place with
  | some node =>
    { list with nodes := list.nodes.setIfInBounds place (some { node with next }) }
  | none => list

/-- Link a new node in at an index that is at most the size. -/
def linkAt (index : Nat) (value : α) : Call (ChainList α) SequenceError Unit := do
  let list ← Call.current
  if index = 0 then
    let (place, list) := list.allocate ⟨value, list.front⟩
    Call.become { list with
      front := some place
      back := list.back.or (some place)
      size := list.size + 1 }
  else if index = list.size then
    let (place, list) := list.allocate ⟨value, none⟩
    Call.become list
    match list.back with
    | none => Call.refuse (.indexOutOfRange index list.size)
    | some tail =>
      Call.become { list.relink tail (some place) with
        back := some place
        size := list.size + 1 }
  else
    match list.place? (index - 1) with
    | none => Call.refuse (.indexOutOfRange index list.size)
    | some before =>
      let (place, list) := list.allocate ⟨value, list.after? before⟩
      Call.become { list.relink before (some place) with size := list.size + 1 }

/-- The places of the node before an index, unless the index is 0, and of the node at it. -/
def around? (list : ChainList α) : Nat → Option (Option Nat × Nat)
  | 0 => list.front.map (none, ·)
  | index + 1 => do
    let before ← list.place? index
    let place ← list.after? before
    return (some before, place)

def unlinkAt (index : Nat) : Call (ChainList α) SequenceError α := do
  let list ← Call.current
  let found := do
    let (before, place) ← list.around? index
    let (node, list) ← list.release? place
    return (before, place, node, list)
  match found with
  | none => Call.refuse (.indexOutOfRange index list.size)
  | some (before, place, node, list) =>
    let list :=
      match before with
      | none => { list with front := node.next }
      | some before => list.relink before node.next
    Call.become { list with
      back := if list.back = some place then before else list.back
      size := list.size - 1 }
    return node.value

def get (list : ChainList α) (index : Nat) : Except SequenceError α := do
  checkIndex index list.size
  match (list.place? index).bind list.node? with
  | some node => return node.value
  | none => throw (.indexOutOfRange index list.size)

def removeAt (index : Nat) : Call (ChainList α) SequenceError α := do
  let list ← Call.current
  Call.ofExcept (checkIndex index list.size)
  unlinkAt index

def setCapacity (capacity : Nat) : Call (ChainList α) SequenceError Unit := do
  let list ← Call.current
  if capacity < list.size then Call.refuse (.invalidCapacity capacity list.size)
  else Call.become { list with capacity }

/-- Forget every value, the arena and its free places included. -/
def clear (list : ChainList α) : ChainList α := withCapacity list.capacity

variable [BEq α]

def insert (index : Nat) (value : Option α) : Call (ChainList α) SequenceError Unit := do
  let list ← Call.current
  let value ← Call.ofExcept (checkInsert list.toList list.size list.capacity index value)
  linkAt index value

def set (index : Nat) (value : Option α) : Call (ChainList α) SequenceError α := do
  let list ← Call.current
  let value ← Call.ofExcept (checkSet list.toList list.size index value)
  let found := do
    let place ← list.place? index
    let node ← list.node? place
    return (place, node)
  match found with
  | none => Call.refuse (.indexOutOfRange index list.size)
  | some (place, node) =>
    Call.become { list with
      nodes := list.nodes.setIfInBounds place (some { node with value }) }
    return node.value

instance : BoundedSeq (ChainList α) α where
  bounded := withCapacity
  toList := toList
  length := size
  capacity := capacity
  get := get
  insert := insert
  set := set
  removeAt := removeAt
  setCapacity := setCapacity
  clear := clear

end ChainList

end Enrollment
