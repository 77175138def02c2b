import Enrollment.Proofs.Sequence.Storing
import Enrollment.Sequence.Queue

/-!
What the operations of a queue do, said of the values in the line.
-/
namespace Enrollment.Queue

variable {S α β ε : Type} [BEq α] [BoundedSeq S α] [LawfulSeq S α] {queue : Queue S}
  {items rest : List α} {bound : Nat} {value head : α} {heard : List Notice}

def Holds (items : List α) (bound : Nat) (queue : Queue S) : Prop :=
  LawfulSeq.Holds items bound queue.line

theorem holds_bounded (bound : Nat) : Holds [] bound (bounded bound : Queue S) :=
  LawfulSeq.holds_bounded bound

theorem onLine_answers {call : Call S ε β} {b : β}
    (h : call.Answers queue.line b (LawfulSeq.Holds items bound) heard) :
    (onLine call).Answers queue b (Holds items bound) heard :=
  h.within fun _ ht => ht

theorem onLine_refuses {call : Call S ε β} {e : ε} (h : call.Refuses queue.line e heard) :
    (onLine call).Refuses queue e heard :=
  h.within rfl

namespace Holds

theorem toList_eq (h : Holds items bound queue) : queue.toList = items := h.items

theorem capacity_eq (h : Holds items bound queue) : queue.capacity = bound := h.capacity

theorem length_eq (h : Holds items bound queue) : queue.length = items.length :=
  LawfulSeq.Holds.length_eq h

theorem isEmpty_eq (h : Holds items bound queue) : queue.isEmpty = items.isEmpty := by
  rw [Queue.isEmpty, h.length_eq]
  cases items <;> rfl

theorem isFull_iff (h : Holds items bound queue) :
    queue.isFull = true ↔ bound ≤ items.length := by
  simp [Queue.isFull, h.length_eq, h.capacity_eq]

theorem contains_eq (h : Holds items bound queue) (value : α) :
    queue.contains value = items.any (· == value) := by
  rw [Queue.contains, BoundedSeq.contains_eq, h.items]

theorem peek?_eq (h : Holds items bound queue) : queue.peek? = items.head? := by
  rw [List.head?_eq_getElem?]
  exact LawfulSeq.Holds.toOption_get h 0

theorem enqueue_cases (h : Holds items bound queue) (value : Option α) :
    (∃ e, (enqueue value).Refuses queue e []) ∨
    ∃ item, value = some item ∧ items.any (· == item) = false ∧ items.length < bound ∧
      (enqueue value).Answers queue () (Holds (items ++ [item]) bound) [] := by
  obtain ⟨e, -, hrefused⟩ | ⟨item, hvalue, -, hany, hroom, hpush⟩ := LawfulSeq.push_cases h value
  · exact .inl ⟨e, onLine_refuses hrefused⟩
  · exact .inr ⟨item, hvalue, hany, hroom, onLine_answers hpush⟩

theorem enqueue_answers (h : Holds items bound queue) (hany : items.any (· == value) = false)
    (hroom : items.length < bound) :
    (enqueue (some value)).Answers queue () (Holds (items ++ [value]) bound) [] :=
  onLine_answers (LawfulSeq.push_answers h hany hroom)

theorem dequeue_nil (h : Holds [] bound queue) :
    (dequeue : Call (Queue S) SequenceError α).Refuses queue .emptyContainer [] := by
  apply Call.Refuses.current_bind
  have hnone : queue.isEmpty = true := h.isEmpty_eq
  rw [hnone, if_pos rfl]
  exact Call.Refuses.of_eq rfl rfl

theorem dequeue_cons (h : Holds (head :: rest) bound queue) :
    dequeue.Answers queue head (Holds rest bound) [] := by
  apply Call.Answers.current_bind
  have hsome : queue.isEmpty = false := h.isEmpty_eq
  rw [hsome, if_neg Bool.false_ne_true]
  exact onLine_answers (LawfulSeq.removeAt_answers h rfl)

theorem removeItem_answers (h : Holds items bound queue) (value : α) :
    (removeItem value : Call (Queue S) ε (Option α)).Answers queue (items.find? (· == value))
      (Holds (items.eraseP (· == value)) bound) [] :=
  onLine_answers (LawfulSeq.removeItem_eraseP h value)

theorem removeItem_absent (h : Holds items bound queue)
    (habsent : items.findIdx? (· == value) = none) :
    (removeItem value : Call (Queue S) ε (Option α)) queue = ⟨.ok none, queue, []⟩ := by
  rw [← h.items] at habsent
  rw [removeItem, onLine, Call.within_of_eq (BoundedSeq.removeItem_absent habsent)]

theorem setCapacity_cases (h : Holds items bound queue) (new : Nat) :
    (∃ e, (setCapacity new).Refuses queue e []) ∨
      items.length ≤ new ∧ (setCapacity new).Answers queue () (Holds items new) [] := by
  obtain ⟨e, hrefused⟩ | ⟨hnew, hset⟩ := LawfulSeq.setCapacity_cases h new
  · exact .inl ⟨e, onLine_refuses hrefused⟩
  · exact .inr ⟨hnew, onLine_answers hset⟩

end Holds

end Enrollment.Queue
