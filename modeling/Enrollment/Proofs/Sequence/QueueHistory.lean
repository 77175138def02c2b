import Enrollment.Proofs.Sequence.Agreement
import Enrollment.Proofs.Sequence.Backend
import Enrollment.Proofs.Sequence.Queue

/-!
First come, first served: the values that entered a queue, less those taken out of the line, leave
it at the head in the order in which they entered.
-/
namespace Enrollment

def strikeLast {α : Type} [BEq α] (value : α) (values : List α) : List α :=
  (values.reverse.eraseP (· == value)).reverse

section Strike

variable {α : Type} [BEq α] {value item : α} {values : List α}

theorem strikeLast_append {before after : List α} (hself : (value == value) = true)
    (hafter : ∀ other ∈ after, (other == value) = false) :
    strikeLast value (before ++ value :: after) = before ++ after := by
  have hreverse : ∀ other ∈ after.reverse, ¬ (other == value) = true := by
    intro other hother
    simp [hafter other (List.mem_reverse.mp hother)]
  have hsplit : (before ++ value :: after).reverse = after.reverse ++ value :: before.reverse := by
    simp
  rw [strikeLast, hsplit, List.eraseP_append_right _ hreverse,
    List.eraseP_cons_of_pos (p := (· == value)) hself]
  simp

/-- Where no two values are equal, the last to equal one of them is that one itself, whatever comes
before. -/
theorem Distinct.strikeLast_eq [PartialEquivBEq α] {index : Nat} (h : Distinct values)
    (earlier : List α) (hfound : values.findIdx? (· == item) = some index)
    (hvalue : values[index]? = some value) :
    strikeLast value (earlier ++ values) = earlier ++ values.eraseIdx index := by
  obtain ⟨before, after, ⟨rfl, hequal, hothers⟩, hrest⟩ := h.exists_soleMatch hfound hvalue
  have hself : (value == value) = true :=
    PartialEquivBEq.trans hequal (PartialEquivBEq.symm hequal)
  have hafter : ∀ other ∈ after, (other == value) = false := by
    intro other hother
    rw [BEq.congr_right hequal]
    exact hothers other (List.mem_append_right before hother)
  rw [hrest, ← List.append_assoc, strikeLast_append hself hafter, List.append_assoc]

end Strike

inductive QueueCall (α : Type)
  | enqueue (value : Option α)
  | dequeue
  | removeItem (value : α)
  | setCapacity (capacity : Nat)

structure QueueHistory (α : Type) where
  entered : List α
  left : List α
  bound : Nat
  deriving DecidableEq

namespace QueueHistory

variable {α : Type}

def opened (capacity : Nat) : QueueHistory α := ⟨[], [], capacity⟩

variable [BEq α]

def note (history : QueueHistory α) :
    QueueCall α × Except SequenceError (SeqAnswer α) → QueueHistory α
  | (.enqueue (some value), .ok .done) =>
    { history with entered := history.entered ++ [value] }
  | (.dequeue, .ok (.item value)) => { history with left := history.left ++ [value] }
  | (.removeItem _, .ok (.found (some value))) =>
    { history with entered := strikeLast value history.entered }
  | (.setCapacity capacity, .ok .done) => { history with bound := capacity }
  | _ => history

@[simp] theorem note_error (history : QueueHistory α) (call : QueueCall α) (e : SequenceError) :
    history.note (call, .error e) = history := by
  obtain (_ | _) | _ | _ | _ := call <;> rfl

structure Recounts (history : QueueHistory α) (line : List α) : Prop where
  entered : history.entered = history.left ++ line
  distinct : Distinct line
  length_le : line.length ≤ history.bound

section Recounts

variable {history : QueueHistory α} {line : List α} {value : α}

theorem Recounts.leave (h : history.Recounts (value :: line)) :
    Recounts { history with left := history.left ++ [value] } line where
  entered := by simp [h.entered]
  distinct := h.distinct.sublist (List.sublist_cons_self value line)
  length_le := Nat.le_of_succ_le h.length_le

theorem Recounts.resize (h : history.Recounts line) {capacity : Nat}
    (hcapacity : line.length ≤ capacity) :
    Recounts { history with bound := capacity } line where
  entered := h.entered
  distinct := h.distinct
  length_le := hcapacity

variable [PartialEquivBEq α]

theorem Recounts.enter (h : history.Recounts line) (hany : line.any (· == value) = false)
    (hroom : line.length < history.bound) :
    Recounts { history with entered := history.entered ++ [value] } (line ++ [value]) where
  entered := by rw [h.entered, List.append_assoc]
  distinct := h.distinct.append_singleton hany
  length_le := by
    rw [List.length_append]
    exact hroom

/-- The value that is taken out of the line is the last of its kind that entered. -/
theorem Recounts.strike (h : history.Recounts line) {item : α}
    (hfound : line.find? (· == item) = some value) :
    Recounts { history with entered := strikeLast value history.entered }
      (line.eraseP (· == item)) where
  entered := by
    obtain ⟨-, hnone, -⟩ | ⟨index, found, hindex, hvalue, hsome, hrest⟩ :=
      find?_eraseP_cases line (· == item)
    · rw [hfound] at hnone
      cases hnone
    · obtain rfl : value = found := by simpa [hfound] using hsome
      rw [h.entered, hrest]
      exact h.distinct.strikeLast_eq history.left hindex hvalue
  distinct := h.distinct.sublist List.eraseP_sublist
  length_le := Nat.le_trans List.eraseP_sublist.length_le h.length_le

end Recounts

end QueueHistory

namespace QueueCall

open Queue (Holds)

section

variable {α : Type} [BEq α] {S : Type} [BoundedSeq S α]

def perform : QueueCall α → Call (Queue S) SequenceError (SeqAnswer α)
  | enqueue value => do
    Queue.enqueue value
    return .done
  | dequeue => do
    let value ← Queue.dequeue
    return .item value
  | removeItem value => do
    let removed ← Queue.removeItem value
    return .found removed
  | setCapacity capacity => do
    Queue.setCapacity capacity
    return .done

inductive Serves (line : List α) (bound : Nat) :
    QueueCall α → SeqAnswer α → List α → Nat → Prop
  | enter {value : α} (hany : line.any (· == value) = false) (hroom : line.length < bound) :
      Serves line bound (enqueue (some value)) .done (line ++ [value]) bound
  | leave {value : α} {rest : List α} (hline : line = value :: rest) :
      Serves line bound dequeue (.item value) rest bound
  | strike {item value : α} (hfound : line.find? (· == item) = some value) :
      Serves line bound (removeItem item) (.found (some value)) (line.eraseP (· == item)) bound
  | miss {item : α} (habsent : line.find? (· == item) = none) :
      Serves line bound (removeItem item) (.found none) line bound
  | resize {capacity : Nat} (hcapacity : line.length ≤ capacity) :
      Serves line bound (setCapacity capacity) .done line capacity

variable [LawfulSeq S α] {queue : Queue S} {line : List α} {bound : Nat}

/-- A call is refused and changes nothing, or it does what it is to do. -/
theorem perform_cases (h : Holds line bound queue) (call : QueueCall α) :
    (∃ e, (perform call).Refuses queue e []) ∨
      ∃ answer after new, Serves line bound call answer after new ∧
        (perform call).Answers queue answer (Holds after new) [] := by
  cases call with
  | enqueue value =>
    obtain ⟨e, hrefused⟩ | ⟨item, rfl, hany, hroom, henqueue⟩ := h.enqueue_cases value
    · exact .inl ⟨e, hrefused.bind _⟩
    · exact .inr ⟨_, _, _, .enter hany hroom, henqueue.map _⟩
  | dequeue =>
    cases line with
    | nil => exact .inl ⟨_, h.dequeue_nil.bind _⟩
    | cons head rest => exact .inr ⟨_, _, _, .leave rfl, h.dequeue_cons.map _⟩
  | removeItem value =>
    have hremove : (perform (removeItem value)).Answers queue (.found (line.find? (· == value)))
        (Holds (line.eraseP (· == value)) bound) [] := (h.removeItem_answers value).map _
    cases hfound : line.find? (· == value) with
    | none =>
      rw [hfound, List.eraseP_of_forall_not (List.find?_eq_none.mp hfound)] at hremove
      exact .inr ⟨_, _, _, .miss hfound, hremove⟩
    | some item =>
      rw [hfound] at hremove
      exact .inr ⟨_, _, _, .strike hfound, hremove⟩
  | setCapacity capacity =>
    obtain ⟨e, hrefused⟩ | ⟨hcapacity, hset⟩ := h.setCapacity_cases capacity
    · exact .inl ⟨e, hrefused.bind _⟩
    · exact .inr ⟨_, _, _, .resize hcapacity, hset.map _⟩

/-- A call that fails, or finds nothing to take out, leaves the queue as it was. -/
theorem perform_unchanged (h : Holds line bound queue) (call : QueueCall α)
    (hfailed : (∃ e, (perform call queue).result = .error e) ∨
      (perform call queue).result = .ok (.found none)) :
    (perform call queue).state = queue := by
  obtain ⟨e, hrefused⟩ | ⟨answer, after, new, hserves, hcall⟩ := perform_cases h call
  · exact hrefused.state
  · simp only [hcall.result, reduceCtorEq, exists_false, false_or, Except.ok.injEq] at hfailed
    subst hfailed
    cases hserves with
    | @miss item habsent =>
      have hnone : line.findIdx? (· == item) = none := by simpa using habsent
      rw [perform, Call.bind_pure_apply, h.removeItem_absent hnone]

/-- What is at the head is what the next to leave is, and nobody leaves an empty line. -/
theorem dequeue_result (h : Holds line bound queue) :
    (Queue.dequeue queue).result = queue.peek?.elim (.error .emptyContainer) .ok := by
  rw [h.peek?_eq]
  cases line with
  | nil => exact h.dequeue_nil.result
  | cons head rest => exact h.dequeue_cons.result

structure Tells (history : QueueHistory α) (queue : Queue S) : Prop where
  holds : Holds queue.toList history.bound queue
  recounts : history.Recounts queue.toList

theorem tells_of_holds {history : QueueHistory α} (h : Holds line history.bound queue)
    (hrecounts : history.Recounts line) : Tells history queue := by
  obtain rfl := h.toList_eq
  exact ⟨h, hrecounts⟩

theorem tells_opened (capacity : Nat) :
    Tells (.opened capacity : QueueHistory α) (Queue.bounded capacity : Queue S) :=
  tells_of_holds (Queue.holds_bounded capacity) ⟨rfl, List.Pairwise.nil, Nat.zero_le _⟩

theorem perform_tells [PartialEquivBEq α] (call : QueueCall α) (history : QueueHistory α)
    (queue : Queue S) (h : Tells history queue) :
    Tells (history.note (call, (perform call queue).result)) (perform call queue).state := by
  obtain ⟨hholds, hrecounts⟩ := h
  obtain ⟨e, hrefused⟩ | ⟨answer, after, new, hserves, hcall⟩ := perform_cases hholds call
  · rw [hrefused.result, hrefused.state, QueueHistory.note_error]
    exact ⟨hholds, hrecounts⟩
  · rw [hcall.result]
    have hafter := hcall.state
    cases hserves with
    | enter hany hroom => exact tells_of_holds hafter (hrecounts.enter hany hroom)
    | leave hline =>
      rw [hline] at hrecounts
      exact tells_of_holds hafter hrecounts.leave
    | strike hfound => exact tells_of_holds hafter (hrecounts.strike hfound)
    | miss _ => exact tells_of_holds hafter hrecounts
    | resize hcapacity => exact tells_of_holds hafter (hrecounts.resize hcapacity)

end

variable {α : Type} [BEq α] [PartialEquivBEq α]

/-- From an empty queue in either storage, after any calls: who entered, less those taken out of the
line, are those who left at the head and then those in the line, in order; the line is not longer
than the capacity in force; what is at the head is what leaves next, and nobody leaves only if nobody
is there; and a call that fails changes nothing. -/
theorem served_finalState (backend : Backend) (capacity : Nat) (calls : List (QueueCall α)) :
    let start : Queue (backend.Store α) := Queue.bounded capacity
    let told := Call.recount perform QueueHistory.note calls start (.opened capacity)
    let queue := Call.finalState perform calls start
    told.entered = told.left ++ queue.toList ∧
    queue.capacity = told.bound ∧ queue.length = queue.toList.length ∧
    queue.length ≤ told.bound ∧
    (∀ value, queue.peek? = some value ↔ (Queue.dequeue queue).result = .ok value) ∧
    (∀ e, (Queue.dequeue queue).result = .error e ↔
      e = .emptyContainer ∧ queue.isEmpty = true) ∧
    ∀ call, (∃ e, (perform call queue).result = .error e) ∨
        (perform call queue).result = .ok (.found none) →
      (perform call queue).state = queue := by
  intro start told queue
  have h : Tells told queue := Call.recount_induction perform_tells calls (tells_opened capacity)
  have hlength := h.holds.length_eq
  have hresult := dequeue_result h.holds
  have hempty : queue.isEmpty = true ↔ queue.peek? = none := by
    rw [h.holds.isEmpty_eq, h.holds.peek?_eq, List.isEmpty_iff, List.head?_eq_none_iff]
  refine ⟨h.recounts.entered, h.holds.capacity_eq, hlength, ?_, ?_, ?_,
    perform_unchanged h.holds⟩
  · rw [hlength]
    exact h.recounts.length_le
  · intro value
    rw [hresult]
    cases queue.peek? <;> simp
  · intro e
    rw [hresult, hempty]
    cases queue.peek? <;> simp [eq_comm]

/-- A queue of two: a third is refused, one is taken out by its id, and comes again after the first
has left and the capacity has grown. -/
theorem served_finalState_students :
    let ada : Student := ⟨"ada", 9⟩
    let bob : Student := ⟨"bob", 9⟩
    let cy : Student := ⟨"cy", 9⟩
    let calls : List (QueueCall Student) :=
      [enqueue (some ada), enqueue (some bob), enqueue (some cy), removeItem ⟨"bob", 0⟩,
        setCapacity 3, enqueue (some cy), dequeue, enqueue (some bob)]
    let start : Queue (Backend.chain.Store Student) := Queue.bounded 2
    let told := Call.recount perform QueueHistory.note calls start (.opened 2)
    let queue := Call.finalState perform calls start
    told = ⟨[ada, cy, bob], [ada], 3⟩ ∧ told.entered = told.left ++ queue.toList ∧
      queue.length ≤ told.bound ∧ (Queue.dequeue queue).result = .ok cy ∧
      (perform (enqueue none) queue).state = queue := by
  intro ada bob cy calls start told queue
  have htold : told = ⟨[ada, cy, bob], [ada], 3⟩ := by decide +kernel
  have hpeek : queue.peek? = some cy := by decide +kernel
  obtain ⟨hentered, -, -, hlength, hnext, -, hsame⟩ := served_finalState .chain 2 calls
  exact ⟨htold, hentered, hlength, (hnext cy).mp hpeek, hsame _ (.inl ⟨.nullValue, rfl⟩)⟩

end QueueCall

end Enrollment
