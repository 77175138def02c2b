import Enrollment.Proofs.Sequence.Agreement
import Enrollment.Proofs.Sequence.Backend
import Enrollment.Proofs.Sequence.Stack

/-!
Last come, first served: pushes and pops match like brackets, and the pushes without a match are the
values on the stack.
-/
namespace Enrollment

inductive StackEvent (α : Type)
  | pushed (value : α)
  | popped (value : α)
  deriving DecidableEq

namespace StackEvent

variable {α : Type} {events more : List (StackEvent α)} {values others : List α} {value : α}

/-- Pushes and pops that match like brackets, each pop the value of its push. -/
inductive Balanced : List (StackEvent α) → Prop
  | nil : Balanced []
  | around {inner rest : List (StackEvent α)} (value : α) (hinner : Balanced inner)
      (hrest : Balanced rest) : Balanced (pushed value :: inner ++ popped value :: rest)

/-- Pushes and pops that match but for the pushes of some values, in this order. -/
inductive Pending : List (StackEvent α) → List α → Prop
  | nothing {events : List (StackEvent α)} (h : Balanced events) : Pending events []
  | push {before after : List (StackEvent α)} {values : List α} (hbefore : Pending before values)
      (value : α) (hafter : Balanced after) :
      Pending (before ++ pushed value :: after) (values ++ [value])

theorem Balanced.append (h : Balanced events) (hmore : Balanced more) :
    Balanced (events ++ more) := by
  induction h with
  | nil => exact hmore
  | around value hinner hrest _ ih => simpa using hinner.around value ih

theorem Pending.append_balanced (h : Pending events values) (hmore : Balanced more) :
    Pending (events ++ more) values := by
  cases h with
  | nothing h => exact .nothing (h.append hmore)
  | push hbefore value hafter => simpa using hbefore.push value (hafter.append hmore)

theorem Pending.pushed (h : Pending events values) (value : α) :
    Pending (events ++ [.pushed value]) (values ++ [value]) :=
  h.push value .nil

/-- The last push without a match, and what is matched since. -/
theorem Pending.last (h : Pending events (values ++ [value])) :
    ∃ before after, events = before ++ .pushed value :: after ∧ Pending before values ∧
      Balanced after := by
  generalize hall : values ++ [value] = all at h
  cases h with
  | nothing _ => simp at hall
  | push hbefore last hafter =>
    obtain ⟨rfl, rfl⟩ := List.append_inj' hall rfl |>.imp_right List.singleton_inj.mp
    exact ⟨_, _, rfl, hbefore, hafter⟩

theorem Pending.popped (h : Pending events (values ++ [value])) :
    Pending (events ++ [.popped value]) values := by
  obtain ⟨before, after, rfl, hbefore, hafter⟩ := h.last
  simpa using hbefore.append_balanced (hafter.around value .nil)

def remaining (left : List α) : StackEvent α → List α
  | pushed value => value :: left
  | popped _ => left.tail

theorem Balanced.foldl_remaining (h : Balanced events) (left : List α) :
    events.foldl remaining left = left := by
  induction h generalizing left with
  | nil => rfl
  | around value _ _ ihinner ihrest => simp [remaining, ihinner, ihrest]

theorem Pending.foldl_remaining (h : Pending events values) :
    events.foldl remaining [] = values.reverse := by
  induction h with
  | nothing h => exact h.foldl_remaining []
  | push _ value hafter ih => simp [remaining, ih, hafter.foldl_remaining]

theorem Pending.unique (h : Pending events values) (hothers : Pending events others) :
    values = others :=
  List.reverse_injective (h.foldl_remaining.symm.trans hothers.foldl_remaining)

theorem Pending.balanced_iff (h : Pending events values) : Balanced events ↔ values = [] := by
  constructor
  · intro hbalanced
    exact h.unique (.nothing hbalanced)
  · rintro rfl
    generalize hnone : [] = none at h
    cases h with
    | nothing h => exact h
    | push _ _ _ => simp at hnone

/-- The last of the values that are left is the one whose push all later pushes and pops follow
balanced. -/
theorem Pending.getLast?_eq_some_iff (h : Pending events values) :
    values.getLast? = some value ↔
      ∃ before after, events = before ++ .pushed value :: after ∧ Balanced after := by
  constructor
  · intro hlast
    obtain ⟨rest, rfl⟩ := List.getLast?_eq_some_iff.mp hlast
    obtain ⟨before, after, hsplit, -, hafter⟩ := h.last
    exact ⟨before, after, hsplit, hafter⟩
  · rintro ⟨before, after, rfl, hafter⟩
    have hleft := h.foldl_remaining
    rw [List.foldl_append, List.foldl_cons, hafter.foldl_remaining, remaining] at hleft
    rw [← List.head?_reverse, ← hleft, List.head?_cons]

end StackEvent

inductive StackCall (α : Type)
  | push (value : Option α)
  | pop
  | setCapacity (capacity : Nat)

structure StackHistory (α : Type) where
  events : List (StackEvent α)
  bound : Nat
  deriving DecidableEq

namespace StackHistory

variable {α : Type}

def opened (capacity : Nat) : StackHistory α := ⟨[], capacity⟩

def note (history : StackHistory α) :
    StackCall α × Except SequenceError (SeqAnswer α) → StackHistory α
  | (.push (some value), .ok .done) =>
    { history with events := history.events ++ [.pushed value] }
  | (.pop, .ok (.item value)) => { history with events := history.events ++ [.popped value] }
  | (.setCapacity capacity, .ok .done) => { history with bound := capacity }
  | _ => history

@[simp] theorem note_error (history : StackHistory α) (call : StackCall α) (e : SequenceError) :
    history.note (call, .error e) = history := by
  obtain (_ | _) | _ | _ := call <;> rfl

end StackHistory

namespace StackCall

open Stack (Holds)
open StackEvent (Pending Balanced)

variable {α : Type}

section

variable {S : Type} [BoundedSeq S α]

def perform : StackCall α → Call (Stack S) SequenceError (SeqAnswer α)
  | push value => do
    Stack.push value
    return .done
  | pop => do
    let value ← Stack.pop
    return .item value
  | setCapacity capacity => do
    Stack.setCapacity capacity
    return .done

variable [BEq α]

inductive Serves (pile : List α) (bound : Nat) :
    StackCall α → SeqAnswer α → List α → Nat → Prop
  | put {value : α} (hroom : pile.length < bound) :
      Serves pile bound (push (some value)) .done (pile ++ [value]) bound
  | take {value : α} {rest : List α} (hpile : pile = rest ++ [value]) :
      Serves pile bound pop (.item value) rest bound
  | resize {capacity : Nat} (hcapacity : pile.length ≤ capacity) :
      Serves pile bound (setCapacity capacity) .done pile capacity

variable [LawfulSeq S α] {stack : Stack S} {pile : List α} {bound : Nat}

/-- A call is refused and changes nothing, or it does what it is to do. -/
theorem perform_cases (h : Holds pile bound stack) (call : StackCall α) :
    (∃ e, (perform call).Refuses stack e []) ∨
      ∃ answer after new, Serves pile bound call answer after new ∧
        (perform call).Answers stack answer (Holds after new) [] := by
  cases call with
  | push value =>
    obtain ⟨e, -, hrefused⟩ | ⟨item, rfl, -, hroom, hpush⟩ := h.push_cases value
    · exact .inl ⟨e, hrefused.bind _⟩
    · exact .inr ⟨_, _, _, .put hroom, hpush.map _⟩
  | pop =>
    cases pile using List.reverseRecOn with
    | nil => exact .inl ⟨_, h.pop_nil.bind _⟩
    | append_singleton rest top => exact .inr ⟨_, _, _, .take rfl, h.pop_append.map _⟩
  | setCapacity capacity =>
    obtain ⟨e, hrefused⟩ | ⟨hcapacity, hset⟩ := h.setCapacity_cases capacity
    · exact .inl ⟨e, hrefused.bind _⟩
    · exact .inr ⟨_, _, _, .resize hcapacity, hset.map _⟩

/-- A push is refused for the reason there is against it, and then changes nothing. -/
theorem push_refused_iff (h : Holds pile bound stack) (value : Option α) :
    (∀ e, (Stack.push value stack).result = .error e ↔
      BoundedSeq.pushRefusal? pile bound value = some e) ∧ (Stack.push value).Spares stack := by
  obtain ⟨e, hwhy, hrefused⟩ | ⟨item, -, hwhy, -, hpush⟩ := h.push_cases value
  · exact ⟨by simp [hrefused.result, hwhy], hrefused.spares⟩
  · exact ⟨by simp [hpush.result, hwhy], hpush.spares⟩

/-- What is on top is what is popped next, and nothing is popped off an empty stack. -/
theorem pop_result (h : Holds pile bound stack) :
    (Stack.pop stack).result = stack.peek?.elim (.error .emptyContainer) .ok := by
  rw [h.peek?_eq]
  cases pile using List.reverseRecOn with
  | nil => exact h.pop_nil.result
  | append_singleton rest top => simpa using h.pop_append.result

/-- Popped until it is empty, and then some more, a stack gives its values from the top down. -/
theorem run_replicate_pop (h : Holds pile bound stack) (more : Nat) :
    (Call.run perform (List.replicate (pile.length + more) pop) stack).map (·.result) =
      pile.reverse.map (fun value => .ok (.item value)) ++
        List.replicate more (.error .emptyContainer) := by
  induction pile using List.reverseRecOn generalizing stack with
  | nil =>
    have hrefused : (perform pop).Refuses stack .emptyContainer [] := h.pop_nil.bind _
    rw [List.length_nil, Nat.zero_add]
    induction more with
    | zero => rfl
    | succ more ih =>
      rw [List.replicate_succ, Call.run, List.map_cons, hrefused.result, hrefused.state, ih]
      rfl
  | append_singleton rest top ih =>
    have hpop : (perform pop).Answers stack (.item top) (Holds rest bound) [] :=
      h.pop_append.map _
    have hlength : (rest ++ [top]).length + more = rest.length + more + 1 := by simp; omega
    rw [hlength, List.replicate_succ, Call.run, List.map_cons, hpop.result, ih hpop.state]
    simp

structure Tells (history : StackHistory α) (stack : Stack S) : Prop where
  holds : Holds stack.toList history.bound stack
  pending : Pending history.events stack.toList
  length_le : stack.toList.length ≤ history.bound

theorem tells_of_holds {history : StackHistory α} (h : Holds pile history.bound stack)
    (hpending : Pending history.events pile) (hlength : pile.length ≤ history.bound) :
    Tells history stack := by
  obtain rfl := h.toList_eq
  exact ⟨h, hpending, hlength⟩

theorem tells_opened (capacity : Nat) :
    Tells (.opened capacity : StackHistory α) (Stack.bounded capacity : Stack S) :=
  tells_of_holds (Stack.holds_bounded capacity) (.nothing .nil) (Nat.zero_le _)

theorem perform_tells (call : StackCall α) (history : StackHistory α) (stack : Stack S)
    (h : Tells history stack) :
    Tells (history.note (call, (perform call stack).result)) (perform call stack).state := by
  obtain ⟨hholds, hpending, hlength⟩ := h
  obtain ⟨e, hrefused⟩ | ⟨answer, after, new, hserves, hcall⟩ := perform_cases hholds call
  · rw [hrefused.result, hrefused.state, StackHistory.note_error]
    exact ⟨hholds, hpending, hlength⟩
  · rw [hcall.result]
    have hafter := hcall.state
    cases hserves with
    | put hroom =>
      refine tells_of_holds hafter (hpending.pushed _) ?_
      rw [List.length_append]
      exact hroom
    | take hpile =>
      rw [hpile] at hpending hlength
      rw [List.length_append] at hlength
      exact tells_of_holds hafter hpending.popped (Nat.le_of_succ_le hlength)
    | resize hcapacity => exact tells_of_holds hafter hpending hcapacity

end

/-- From an empty stack in either storage, after any calls: pushes and pops have matched like
brackets, and the pushes without a match are the values there, in order. What is popped next is what
was pushed with only matched pushes and pops since, and is on top; if all have matched, nothing is
left to pop. Popped until it is empty, the stack gives its values in reverse. It is not deeper than
the capacity in force; and a push is refused for want of a value, for an equal one or for want of
room, in this order, and then changes nothing. -/
theorem nested_finalState [BEq α] (backend : Backend) (capacity : Nat)
    (calls : List (StackCall α)) :
    let start : Stack (backend.Store α) := Stack.bounded capacity
    let told := Call.recount perform StackHistory.note calls start (.opened capacity)
    let stack := Call.finalState perform calls start
    (∀ values, Pending told.events values ↔ values = stack.toList) ∧
    (∀ value, (Stack.pop stack).result = .ok value ↔
      ∃ before after, told.events = before ++ .pushed value :: after ∧ Balanced after) ∧
    (∀ e, (Stack.pop stack).result = .error e ↔ e = .emptyContainer ∧ Balanced told.events) ∧
    (∀ value, stack.peek? = some value ↔ (Stack.pop stack).result = .ok value) ∧
    (∀ more, (Call.run perform (List.replicate (stack.depth + more) pop) stack).map (·.result) =
      stack.toList.reverse.map (fun value => .ok (.item value)) ++
        List.replicate more (.error .emptyContainer)) ∧
    stack.capacity = told.bound ∧ stack.depth = stack.toList.length ∧ stack.depth ≤ told.bound ∧
    ∀ value,
      (∀ e, (Stack.push value stack).result = .error e ↔
        BoundedSeq.pushRefusal? stack.toList told.bound value = some e) ∧
      (Stack.push value).Spares stack := by
  intro start told stack
  have h : Tells told stack := Call.recount_induction perform_tells calls (tells_opened capacity)
  have hdepth := h.holds.depth_eq
  have hresult := pop_result h.holds
  have hpeek : stack.peek? = stack.toList.getLast? := h.holds.peek?_eq
  refine ⟨?_, ?_, ?_, ?_, ?_, h.holds.capacity_eq, hdepth, ?_, push_refused_iff h.holds⟩
  · intro values
    constructor
    · intro hvalues
      exact hvalues.unique h.pending
    · rintro rfl
      exact h.pending
  · intro value
    rw [← h.pending.getLast?_eq_some_iff, hresult, hpeek]
    cases stack.toList.getLast? <;> simp
  · intro e
    rw [h.pending.balanced_iff, ← List.getLast?_eq_none_iff, hresult, hpeek]
    cases stack.toList.getLast? <;> simp [eq_comm]
  · intro value
    rw [hresult]
    cases stack.peek? <;> simp
  · intro more
    rw [hdepth]
    exact run_replicate_pop h.holds more
  · rw [hdepth]
    exact h.length_le

/-- On a stack of two a third student has no place; popped, the second makes room for the third. -/
theorem nested_finalState_students :
    let ada : Student := ⟨"ada", 9⟩
    let bob : Student := ⟨"bob", 9⟩
    let cy : Student := ⟨"cy", 9⟩
    let calls : List (StackCall Student) :=
      [push (some ada), push (some bob), push (some cy), pop, push (some cy)]
    let start : Stack (Backend.chain.Store Student) := Stack.bounded 2
    let told := Call.recount perform StackHistory.note calls start (.opened 2)
    let stack := Call.finalState perform calls start
    told.events = [.pushed ada, .pushed bob, .popped bob, .pushed cy] ∧
      Pending told.events [ada, cy] ∧ (Stack.pop stack).result = .ok cy ∧
      (Call.run perform [pop, pop, pop] stack).map (·.result) =
        [.ok (.item cy), .ok (.item ada), .error .emptyContainer] ∧
      (Stack.push (some ada) stack).result = .error .duplicateValue ∧
      (Stack.push (some bob) stack).result = .error (.capacityExceeded 2) ∧
      (Stack.push (some bob) stack).state = stack := by
  intro ada bob cy calls start told stack
  have hevents : told.events = [.pushed ada, .pushed bob, .popped bob, .pushed cy] := by
    decide +kernel
  have hitems : stack.toList = [ada, cy] := by decide +kernel
  have hdepth : stack.depth = 2 := by decide +kernel
  have hbound : told.bound = 2 := by decide +kernel
  have hpeek : stack.peek? = some cy := by decide +kernel
  obtain ⟨hpending, -, -, hnext, hdrained, -, -, -, hpush⟩ := nested_finalState .chain 2 calls
  have hdrain := hdrained 1
  rw [hdepth, hitems] at hdrain
  have hfull := ((hpush (some bob)).1 (.capacityExceeded 2)).mpr (by rw [hitems, hbound]; rfl)
  exact ⟨hevents, (hpending _).mpr hitems.symm, (hnext cy).mp hpeek, hdrain,
    ((hpush (some ada)).1 _).mpr (by rw [hitems, hbound]; rfl), hfull,
    (hpush (some bob)).2 _ hfull⟩

end StackCall

end Enrollment
