import Enrollment.Proofs.Sequence.Storing
import Enrollment.Sequence.Stack

/-!
What the operations of a stack do, said of the values on the pile.
-/
namespace Enrollment.Stack

variable {S α β ε : Type} [BEq α] [BoundedSeq S α] [LawfulSeq S α] {stack : Stack S}
  {items : List α} {bound : Nat} {top : α} {heard : List Notice}

def Holds (items : List α) (bound : Nat) (stack : Stack S) : Prop :=
  LawfulSeq.Holds items bound stack.pile

theorem holds_bounded (bound : Nat) : Holds [] bound (bounded bound : Stack S) :=
  LawfulSeq.holds_bounded bound

theorem onPile_answers {call : Call S ε β} {b : β}
    (h : call.Answers stack.pile b (LawfulSeq.Holds items bound) heard) :
    (onPile call).Answers stack b (Holds items bound) heard :=
  h.within fun _ ht => ht

theorem onPile_refuses {call : Call S ε β} {e : ε} (h : call.Refuses stack.pile e heard) :
    (onPile call).Refuses stack e heard :=
  h.within rfl

namespace Holds

theorem toList_eq (h : Holds items bound stack) : stack.toList = items := h.items

theorem capacity_eq (h : Holds items bound stack) : stack.capacity = bound := h.capacity

theorem depth_eq (h : Holds items bound stack) : stack.depth = items.length :=
  LawfulSeq.Holds.length_eq h

theorem peek?_eq (h : Holds items bound stack) : stack.peek? = items.getLast? := by
  have hdepth := h.depth_eq
  rw [List.getLast?_eq_getElem?, ← hdepth, peek?]
  cases hbelow : stack.depth with
  | zero =>
    rw [hbelow, eq_comm, List.length_eq_zero_iff] at hdepth
    simp [hdepth]
  | succ below => exact LawfulSeq.Holds.toOption_get h below

theorem push_cases (h : Holds items bound stack) (value : Option α) :
    (∃ e, BoundedSeq.pushRefusal? items bound value = some e ∧ (push value).Refuses stack e []) ∨
    ∃ item, value = some item ∧ BoundedSeq.pushRefusal? items bound value = none ∧
      items.length < bound ∧ (push value).Answers stack () (Holds (items ++ [item]) bound) [] := by
  obtain ⟨e, hwhy, hrefused⟩ | ⟨item, hvalue, hwhy, -, hroom, hpush⟩ :=
    LawfulSeq.push_cases h value
  · exact .inl ⟨e, hwhy, onPile_refuses hrefused⟩
  · exact .inr ⟨item, hvalue, hwhy, hroom, onPile_answers hpush⟩

theorem pop_nil (h : Holds [] bound stack) :
    (pop : Call (Stack S) SequenceError α).Refuses stack .emptyContainer [] := by
  apply Call.Refuses.current_bind
  rw [h.depth_eq]
  exact Call.Refuses.of_eq rfl rfl

theorem pop_append (h : Holds (items ++ [top]) bound stack) :
    pop.Answers stack top (Holds items bound) [] := by
  apply Call.Answers.current_bind
  have htop : (items ++ [top])[items.length]? = some top := List.getElem?_concat_length
  have hremove := LawfulSeq.removeAt_answers h htop
  rw [eraseIdx_length_append, List.append_nil] at hremove
  rw [h.depth_eq, List.length_append, List.length_singleton]
  exact onPile_answers hremove

theorem setCapacity_cases (h : Holds items bound stack) (new : Nat) :
    (∃ e, (setCapacity new).Refuses stack e []) ∨
      items.length ≤ new ∧ (setCapacity new).Answers stack () (Holds items new) [] := by
  obtain ⟨e, hrefused⟩ | ⟨hnew, hset⟩ := LawfulSeq.setCapacity_cases h new
  · exact .inl ⟨e, onPile_refuses hrefused⟩
  · exact .inr ⟨hnew, onPile_answers hset⟩

end Holds

end Enrollment.Stack
