import Enrollment.Proofs.Answers
import Enrollment.Proofs.Sequence.Lawful

/-!
What the operations of a sound storage do, said of the list it stands for: the cases in which the
caller has checked what the operation checks.
-/
namespace Enrollment

open BoundedSeq

variable {S α ε : Type} [BEq α] [BoundedSeq S α] {s : S}

/-- Why a value is not put behind some others: none is given, an equal one is there, or there is no
room, told in this order. -/
def BoundedSeq.pushRefusal? (items : List α) (bound : Nat) : Option α → Option SequenceError
  | none => some .nullValue
  | some value =>
    if items.any (· == value) then some .duplicateValue
    else if bound ≤ items.length then some (.capacityExceeded bound)
    else none

theorem BoundedSeq.removeItem_absent {value : α}
    (habsent : (toList s).findIdx? (· == value) = none) :
    (removeItem value : Call S ε (Option α)) s = ⟨.ok none, s, []⟩ := by
  simp [removeItem, position, habsent]

namespace LawfulSeq

variable [LawfulSeq S α]

structure Holds (items : List α) (bound : Nat) (s : S) : Prop where
  sound : Sound s
  items : toList s = items
  capacity : capacity s = bound

theorem holds_bounded (bound : Nat) : Holds [] bound (bounded bound : S) := by
  have hplain := plain_bounded (S := S) bound
  exact ⟨sound_bounded bound, congrArg CappedList.items hplain,
    congrArg CappedList.capacity hplain⟩

theorem Holds.length_eq {items : List α} {bound : Nat} (h : Holds items bound s) :
    length s = items.length := by
  rw [LawfulSeq.length_eq h.sound, h.items]

theorem Holds.toOption_get {items : List α} {bound : Nat} (h : Holds items bound s) (index : Nat) :
    (BoundedSeq.get s index).toOption = items[index]? := by
  rw [get_eq index h.sound, plain, CappedList.get, h.items]
  cases items[index]? <;> rfl

theorem holds_clear {items : List α} {bound : Nat} (h : Holds items bound s) :
    Holds [] bound (clear s) := by
  have hplain := plain_clear h.sound
  refine ⟨sound_clear h.sound, congrArg CappedList.items hplain, ?_⟩
  exact (congrArg CappedList.capacity hplain).trans h.capacity

/-- A call that follows one which the plain list answers. -/
theorem answers_of_follows {β : Type} {call : Call S ε β} {model : Call (CappedList α) ε β}
    {b : β} {list : CappedList α} (h : Follows Sound call model s)
    (hmodel : model (plain s) = ⟨.ok b, list, []⟩) :
    call.Answers s b (Holds list.items list.capacity) [] := by
  refine ⟨?_, ⟨h.sound, ?_, ?_⟩, h.quiet⟩
  · rw [h.result, hmodel]
  · have hitems := congrArg CappedList.items h.plain
    rwa [hmodel] at hitems
  · have hcapacity := congrArg CappedList.capacity h.plain
    rwa [hmodel] at hcapacity

/-- A call that follows one which the plain list refuses. -/
theorem refuses_of_follows {β : Type} {call : Call S ε β} {model : Call (CappedList α) ε β}
    {e : ε} {list : CappedList α} {remarks : List Notice} (h : Follows Sound call model s)
    (hmodel : model (plain s) = ⟨.error e, list, remarks⟩) : call.Refuses s e [] := by
  obtain ⟨notices, hcall, hquiet⟩ := h.reply_refused hmodel
  exact Call.Refuses.of_eq hcall hquiet

theorem insert_answers {items : List α} {bound index : Nat} {item : α} (h : Holds items bound s)
    (hany : items.any (· == item) = false) (hindex : index ≤ items.length)
    (hroom : items.length < bound) :
    (insert index (some item)).Answers s () (Holds (items.insertIdx index item) bound) [] := by
  obtain ⟨h, rfl, rfl⟩ := h
  have hcheck : checkInsert (toList s) (toList s).length (capacity s) index (some item) =
      .ok item := by
    simp only [checkInsert, hany]
    rw [if_neg (by simp), if_neg (by omega), if_neg (by omega)]
  have hmodel := CappedList.insert_apply index (some item) (plain s)
  simp only [plain, hcheck] at hmodel
  exact answers_of_follows (insert_follows index (some item) h) hmodel

theorem insert_refused {items : List α} {bound index : Nat} {item : α} (h : Holds items bound s)
    (hany : items.any (· == item) = false) (hindex : index ≤ items.length)
    (hfull : bound ≤ items.length) :
    (insert index (some item)).Refuses s (.capacityExceeded bound) [] := by
  obtain ⟨h, rfl, rfl⟩ := h
  have hcheck : checkInsert (toList s) (toList s).length (capacity s) index (some item) =
      .error (.capacityExceeded (capacity s)) := by
    simp only [checkInsert, hany]
    rw [if_neg (by simp), if_neg (by omega), if_pos hfull]
  have hmodel := CappedList.insert_apply index (some item) (plain s)
  simp only [plain, hcheck] at hmodel
  exact refuses_of_follows (insert_follows index (some item) h) hmodel

theorem insert_refused_of_stored {items : List α} {bound : Nat} {item : α} (h : Holds items bound s)
    (hany : items.any (· == item) = true) (index : Nat) :
    (insert index (some item)).Refuses s .duplicateValue [] := by
  obtain ⟨h, rfl, rfl⟩ := h
  have hcheck : checkInsert (toList s) (toList s).length (capacity s) index (some item) =
      .error .duplicateValue := by
    simp only [checkInsert, hany, if_true]
  have hmodel := CappedList.insert_apply index (some item) (plain s)
  simp only [plain, hcheck] at hmodel
  exact refuses_of_follows (insert_follows index (some item) h) hmodel

theorem push_answers {items : List α} {bound : Nat} {item : α} (h : Holds items bound s)
    (hany : items.any (· == item) = false) (hroom : items.length < bound) :
    (push (some item)).Answers s () (Holds (items ++ [item]) bound) [] := by
  have hinsert := insert_answers h hany (Nat.le_refl _) hroom
  rw [List.insertIdx_length_self] at hinsert
  apply hinsert.congr
  rw [← h.length_eq]
  rfl

theorem push_refused {items : List α} {bound : Nat} {item : α} (h : Holds items bound s)
    (hany : items.any (· == item) = false) (hfull : bound ≤ items.length) :
    (push (some item)).Refuses s (.capacityExceeded bound) [] := by
  apply (insert_refused h hany (Nat.le_refl _) hfull).congr
  rw [← h.length_eq]
  rfl

theorem push_refused_of_stored {items : List α} {bound : Nat} {item : α} (h : Holds items bound s)
    (hany : items.any (· == item) = true) : (push (some item)).Refuses s .duplicateValue [] :=
  (insert_refused_of_stored h hany (length s)).congr rfl

theorem push_cases {items : List α} {bound : Nat} (h : Holds items bound s) (value : Option α) :
    (∃ e, pushRefusal? items bound value = some e ∧ (push value).Refuses s e []) ∨
    ∃ item, value = some item ∧ pushRefusal? items bound value = none ∧
      items.any (· == item) = false ∧ items.length < bound ∧
      (push value).Answers s () (Holds (items ++ [item]) bound) [] := by
  cases value with
  | none =>
    have hmodel : CappedList.push none (plain s) = ⟨.error .nullValue, plain s, []⟩ := rfl
    exact .inl ⟨.nullValue, rfl, refuses_of_follows (push_follows h.sound none) hmodel⟩
  | some item =>
    simp only [pushRefusal?]
    cases hany : items.any (· == item) with
    | true => exact .inl ⟨_, rfl, push_refused_of_stored h hany⟩
    | false =>
      by_cases hfull : bound ≤ items.length
      · exact .inl ⟨_, by simp [hfull], push_refused h hany hfull⟩
      · have hroom : items.length < bound := Nat.lt_of_not_le hfull
        exact .inr ⟨item, rfl, by simp [hfull], hany, hroom, push_answers h hany hroom⟩

theorem removeAt_answers {items : List α} {bound index : Nat} {item : α}
    (h : Holds items bound s) (hitem : items[index]? = some item) :
    (removeAt index).Answers s item (Holds (items.eraseIdx index) bound) [] := by
  obtain ⟨h, rfl, rfl⟩ := h
  have hmodel : CappedList.removeAt index (plain s) =
      ⟨.ok item, ⟨(toList s).eraseIdx index, capacity s⟩, []⟩ := by
    rw [CappedList.removeAt_apply]
    simp only [plain, hitem]
  exact answers_of_follows (removeAt_follows index h) hmodel

theorem removeAt_refused {items : List α} {bound index : Nat} (h : Holds items bound s)
    (hindex : items[index]? = none) :
    (removeAt index).Refuses s (.indexOutOfRange index items.length) [] := by
  obtain ⟨h, rfl, rfl⟩ := h
  have hmodel := CappedList.removeAt_apply index (plain s)
  simp only [plain, hindex] at hmodel
  exact refuses_of_follows (removeAt_follows index h) hmodel

theorem setCapacity_answers {items : List α} {bound new : Nat} (h : Holds items bound s)
    (hnew : items.length ≤ new) :
    (setCapacity new).Answers s () (Holds items new) [] := by
  obtain ⟨h, rfl, rfl⟩ := h
  have hmodel := CappedList.setCapacity_apply new (plain s)
  rw [if_neg (by simpa [plain] using hnew)] at hmodel
  exact answers_of_follows (setCapacity_follows new h) hmodel

theorem setCapacity_refused {items : List α} {bound new : Nat} (h : Holds items bound s)
    (hnew : new < items.length) :
    (setCapacity new).Refuses s (.invalidCapacity new items.length) [] := by
  obtain ⟨h, rfl, rfl⟩ := h
  have hmodel := CappedList.setCapacity_apply new (plain s)
  rw [if_pos (by simpa [plain] using hnew)] at hmodel
  exact refuses_of_follows (setCapacity_follows new h) hmodel

theorem setCapacity_cases {items : List α} {bound : Nat} (h : Holds items bound s) (new : Nat) :
    (∃ e, (setCapacity new).Refuses s e []) ∨
      items.length ≤ new ∧ (setCapacity new).Answers s () (Holds items new) [] := by
  by_cases hnew : items.length ≤ new
  · exact .inr ⟨hnew, setCapacity_answers h hnew⟩
  · exact .inl ⟨_, setCapacity_refused h (Nat.lt_of_not_le hnew)⟩

theorem attempt_removeAt_answers {items : List α} {bound index : Nat} {item : α}
    (h : Holds items bound s) (hitem : items[index]? = some item) :
    (Call.attempt (removeAt index) : Call S ε (Option α)).Answers s (some item)
      (Holds (items.eraseIdx index) bound) [] := by
  obtain ⟨t, notices, hcall, hholds, hquiet⟩ := (removeAt_answers h hitem).reply
  exact Call.Answers.of_eq (Call.attempt_of_eq hcall) hholds hquiet

theorem removeItem_answers {items : List α} {bound index : Nat} {value item : α}
    (h : Holds items bound s) (hfound : items.findIdx? (· == value) = some index)
    (hitem : items[index]? = some item) :
    (removeItem value : Call S ε (Option α)).Answers s (some item)
      (Holds (items.eraseIdx index) bound) [] := by
  have hposition : position s value = some index := by
    rw [position, h.items, hfound]
  apply (attempt_removeAt_answers h hitem).congr
  simp only [removeItem, Call.current_bind, hposition]

/-- The same, in one line for values that are stored and values that are not. -/
theorem removeItem_eraseP {items : List α} {bound : Nat} (h : Holds items bound s) (value : α) :
    (removeItem value : Call S ε (Option α)).Answers s (items.find? (· == value))
      (Holds (items.eraseP (· == value)) bound) [] := by
  obtain ⟨hfound, hnone, hrest⟩ | ⟨index, item, hfound, hitem, hsome, hrest⟩ :=
    find?_eraseP_cases items (· == value)
  · rw [hnone, hrest]
    exact Call.Answers.of_eq (removeItem_absent (by rw [h.items, hfound])) h rfl
  · rw [hsome, hrest]
    exact removeItem_answers h hfound hitem

theorem get_ok {items : List α} {bound index : Nat} {item : α} (h : Holds items bound s)
    (hitem : items[index]? = some item) : BoundedSeq.get s index = .ok item := by
  obtain ⟨h, rfl, rfl⟩ := h
  rw [get_eq index h]
  simp [plain, CappedList.get, hitem]

end LawfulSeq

end Enrollment
