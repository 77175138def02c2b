import Enrollment.Proofs.Sequence.Agreement

/-!
Where the calls on a slot array go.  Done step by step, with a fault at every slot that is not there
and at every slot in use that is empty, they come to the same: no such fault is ever met.
-/
namespace Enrollment

inductive SlotFault
  | outside
  | vacant
  | refused (error : SequenceError)
  deriving DecidableEq, Repr

namespace SlotList

variable {α β γ : Type}

namespace Guarded

def slice (first last : Nat) (list : SlotList α) : Except SlotFault (List (Option α)) :=
  if first ≤ last ∧ last ≤ list.allocated then .ok ((list.slots.toList.take last).drop first)
  else .error .outside

def slot (index : Nat) (list : SlotList α) : Except SlotFault (Option α) :=
  match list.slots[index]? with
  | some slot => .ok slot
  | none => .error .outside

def occupant : Option α → Except SlotFault α
  | some value => .ok value
  | none => .error .vacant

def check (verdict : Except SequenceError β) : Except SlotFault β := verdict.mapError .refused

@[simp] theorem check_ok (b : β) : check (.ok b) = .ok b := rfl

@[simp] theorem check_error (e : SequenceError) :
    check (.error e : Except SequenceError β) = .error (.refused e) := rfl

def write (index : Nat) (value : Option α) : Call (SlotList α) SlotFault Unit := do
  let list ← Call.current
  let _ ← Call.ofExcept (slot index list)
  Call.become { list with slots := list.slots.setIfInBounds index value }

def rearrange (first last : Nat) (arrange : List (Option α) → List (Option α)) :
    Call (SlotList α) SlotFault Unit := do
  let list ← Call.current
  let part ← Call.ofExcept (slice first last list)
  Call.become { list with
    slots := (list.slots.toList.take first ++ arrange part ++ list.slots.toList.drop last).toArray }

def resize (size : Nat) : Call (SlotList α) SlotFault Unit := do
  let list ← Call.current
  Call.become { list with size }

def stored (list : SlotList α) : Except SlotFault (List α) := do
  let part ← slice 0 list.size list
  return part.filterMap id

def get (list : SlotList α) (index : Nat) : Except SlotFault α := do
  check (checkIndex index list.size)
  let value ← slot index list
  occupant value

def removeAt (index : Nat) : Call (SlotList α) SlotFault α := do
  let list ← Call.current
  Call.ofExcept (check (checkIndex index list.size))
  let removed ← Call.ofExcept (slot index list)
  write index none
  rearrange index list.size List.rotateLeft
  resize (list.size - 1)
  Call.ofExcept (occupant removed)

def clear : Call (SlotList α) SlotFault Unit := do
  let list ← Call.current
  rearrange 0 list.size (·.map fun _ => none)
  resize 0

def park (index : Nat) (value : α) : Call (SlotList α) SlotFault Unit := do
  let list ← Call.current
  write list.size (some value)
  rearrange index (list.size + 1) List.rotateRight
  resize (list.size + 1)

variable [BEq α]

def insert (index : Nat) (value : Option α) : Call (SlotList α) SlotFault Unit := do
  let list ← Call.current
  let values ← Call.ofExcept (stored list)
  let value ← Call.ofExcept (check (checkInsert values list.size list.capacity index value))
  if list.size = list.slots.size then grow
  park index value

def set (index : Nat) (value : Option α) : Call (SlotList α) SlotFault α := do
  let list ← Call.current
  let values ← Call.ofExcept (stored list)
  let value ← Call.ofExcept (check (checkSet values list.size index value))
  let previous ← Call.ofExcept (slot index list)
  write index (some value)
  Call.ofExcept (occupant previous)

def position (list : SlotList α) (value : α) : Except SlotFault (Option Nat) := do
  let values ← stored list
  return values.findIdx? (· == value)

def removeItem (value : α) : Call (SlotList α) SlotFault (Option α) := do
  let list ← Call.current
  match ← Call.ofExcept (position list value) with
  | some index => do
    let item ← removeAt index
    return some item
  | none => return none

def perform : SeqCall α → Call (SlotList α) SlotFault (SeqAnswer α)
  | .insert index value => do
    insert index value
    return .done
  | .push value => do
    let list ← Call.current
    insert list.size value
    return .done
  | .removeAt index => do
    let item ← removeAt index
    return .item item
  | .get index => do
    let list ← Call.current
    let item ← Call.ofExcept (get list index)
    return .item item
  | .set index value => do
    let previous ← set index value
    return .item previous
  | .position value => do
    let list ← Call.current
    let place ← Call.ofExcept (position list value)
    return .place place
  | .contains value => do
    let list ← Call.current
    let place ← Call.ofExcept (position list value)
    return .verdict place.isSome
  | .removeItem value => do
    let removed ← removeItem value
    return .found removed
  | .setCapacity capacity => do
    Call.mapError .refused (setCapacity capacity)
    return .done
  | .clear => do
    clear
    return .done

end Guarded

/-- A call that looks where it goes comes to the same as one that does not: it meets no slot outside
the array and no empty one, and is refused only as the other is. -/
def Guards (guarded : Call (SlotList α) SlotFault β) (call : Call (SlotList α) SequenceError β)
    (list : SlotList α) : Prop :=
  guarded list = Call.mapError .refused call list

theorem Guards.map {guarded : Call (SlotList α) SlotFault β}
    {call : Call (SlotList α) SequenceError β} {list : SlotList α} (h : Guards guarded call list)
    (f : β → γ) : Guards (do return f (← guarded)) (do return f (← call)) list := by
  rw [Guards, Call.mapError] at h
  rw [Guards, Call.mapError, Call.bind_pure_apply, Call.bind_pure_apply, h]
  cases (call list).result <;> rfl

theorem Filled.unique {list other : SlotList α} {items : List α} {spare : Nat}
    (h : list.Filled items spare) (hother : other.Filled items spare)
    (hcapacity : list.capacity = other.capacity) : list = other := by
  obtain ⟨slots, size, capacity⟩ := list
  obtain ⟨slots', size', capacity'⟩ := other
  obtain rfl : slots = slots' := Array.toList_inj.mp (h.slots.trans hother.slots.symm)
  obtain rfl : size = size' := h.size.trans hother.size.symm
  obtain rfl : capacity = capacity' := hcapacity
  rfl

namespace Guarded

variable {list : SlotList α} {items before after : List α} {item : α} {spare : Nat}

theorem slice_apply {before part after : List (Option α)}
    (h : list.slots.toList = before ++ (part ++ after)) :
    slice before.length (before.length + part.length) list = .ok part := by
  have hlength := congrArg List.length h
  simp only [Array.length_toList, List.length_append] at hlength
  rw [slice, if_pos ⟨Nat.le_add_right _ _, by rw [SlotList.allocated]; omega⟩, h]
  simp [List.take_append]

theorem rearrange_apply {before part after : List (Option α)}
    (h : list.slots.toList = before ++ (part ++ after))
    (arrange : List (Option α) → List (Option α)) :
    rearrange before.length (before.length + part.length) arrange list =
      ⟨.ok (), { list with slots := (before ++ (arrange part ++ after)).toArray }, []⟩ := by
  simp [rearrange, slice_apply h, h]

theorem write_apply {index : Nat} (hindex : index < list.slots.size) (value : Option α) :
    write index value list =
      ⟨.ok (), { list with slots := list.slots.setIfInBounds index value }, []⟩ := by
  simp [write, slot, hindex]

theorem slot_apply (h : list.Filled (before ++ item :: after) spare) :
    slot before.length list = .ok (some item) := by
  have hslot : list.slots[before.length]? = some (some item) := by
    rw [← Array.getElem?_toList, h.slots]
    simp
  rw [slot, hslot]

theorem stored_apply (h : list.Filled items spare) : stored list = .ok items := by
  have hslice := @slice_apply _ list [] (items.map some) (List.replicate spare none) h.slots
  rw [List.length_nil, Nat.zero_add, List.length_map, ← h.size] at hslice
  simp [stored, hslice]

theorem check_index (h : list.Filled items spare) {index : Nat} (hindex : index < items.length) :
    check (checkIndex index list.size) = .ok () := by
  rw [checkIndex, h.size, if_pos hindex]
  rfl

/-- The slot of a value emptied and rotated behind the others. -/
theorem removeAt_apply (h : list.Filled (before ++ item :: after) spare) :
    ∃ shorter, removeAt before.length list = ⟨.ok item, shorter, []⟩ ∧
      shorter.Filled (before ++ after) (spare + 1) ∧ shorter.capacity = list.capacity := by
  have hsize : before.length + (after.length + 1) = list.size := by
    simp [h.size]
  have hcheck : check (checkIndex before.length list.size) = .ok () :=
    check_index h (by simp)
  let emptied : SlotList α := { list with slots := list.slots.setIfInBounds before.length none }
  have hwrite : write before.length none list = ⟨.ok (), emptied, []⟩ :=
    write_apply (by rw [h.allocated, ← h.size]; omega) none
  have hemptied : emptied.slots.toList =
      before.map some ++ ((none :: after.map some) ++ List.replicate spare none) := by
    simp [emptied, h.slots]
  have hrotate := rearrange_apply hemptied List.rotateLeft
  simp only [List.length_map, List.length_cons, rotateLeft_cons, hsize] at hrotate
  let rotated := before.map some ++ (after.map some ++ [none] ++ List.replicate spare none)
  refine ⟨⟨rotated.toArray, list.size - 1, list.capacity⟩, ?_, ⟨?_, ?_⟩, rfl⟩
  · simp only [removeAt, Call.current_bind, hcheck, slot_apply h, Call.ofExcept_ok,
      Call.pure_bind, Call.bind_of_ok hwrite, Call.bind_of_ok hrotate]
    rfl
  · simp [rotated, List.replicate_succ]
  · simp [← hsize]

/-- The first free slot filled and rotated in front of some of the others. -/
theorem park_apply (h : list.Filled (before ++ after) (spare + 1)) :
    ∃ longer, park before.length item list = ⟨.ok (), longer, []⟩ ∧
      longer.Filled (before ++ item :: after) spare ∧ longer.capacity = list.capacity := by
  have hsize : before.length + after.length = list.size := by
    simp [h.size]
  let parked : SlotList α :=
    { list with slots := list.slots.setIfInBounds list.size (some item) }
  have hwrite : write list.size (some item) list = ⟨.ok (), parked, []⟩ :=
    write_apply (by rw [h.allocated, ← h.size]; omega) (some item)
  have hparked : parked.slots.toList =
      before.map some ++ ((after.map some ++ [some item]) ++ List.replicate spare none) := by
    simp [parked, h.slots, ← hsize, List.replicate_succ]
  have hrotate := rearrange_apply hparked List.rotateRight
  simp only [List.length_map, List.length_append, List.length_singleton, rotateRight_concat,
    ← Nat.add_assoc, hsize] at hrotate
  let rotated := before.map some ++ (some item :: after.map some ++ List.replicate spare none)
  refine ⟨⟨rotated.toArray, list.size + 1, list.capacity⟩, ?_, ⟨?_, ?_⟩, rfl⟩
  · simp only [park, Call.current_bind, Call.bind_of_ok hwrite, Call.bind_of_ok hrotate]
    rfl
  · simp [rotated]
  · simp [← hsize, Nat.add_assoc]

theorem get_eq (h : list.Filled items spare) (index : Nat) :
    get list index = check (SlotList.get list index) := by
  rw [h.get, get]
  cases Nat.lt_or_ge index items.length with
  | inl hindex =>
    rw [check_index h hindex]
    obtain ⟨before, item, after, rfl, rfl⟩ := exists_append_cons_of_lt hindex
    simp [slot_apply h, CappedList.get, occupant, bind, Except.bind]
  | inr hindex =>
    simp [checkIndex, h.size, CappedList.get, Nat.not_lt.mpr hindex, bind, Except.bind]

theorem clear_apply (h : list.Filled items spare) : clear list = ⟨.ok (), list.clear, []⟩ := by
  have hrearrange := @rearrange_apply _ list [] (items.map some) (List.replicate spare none)
    h.slots (·.map fun _ => none)
  rw [List.length_nil, Nat.zero_add, List.length_map, ← h.size] at hrearrange
  let slots : List (Option α) := (items.map some).map (fun _ => none) ++ List.replicate spare none
  have hcleared : Filled ⟨slots.toArray, 0, list.capacity⟩ [] (items.length + spare) := by
    refine ⟨?_, rfl⟩
    simp only [slots, List.map_const', List.length_map, List.replicate_append_replicate]
    rfl
  rw [← hcleared.unique (filled_clear h) rfl]
  simp only [clear, Call.current_bind, Call.bind_of_ok hrearrange]
  rfl

theorem removeAt_guards (h : list.Filled items spare) (index : Nat) :
    Guards (removeAt index) (SlotList.removeAt index) list := by
  obtain ⟨hindex, hremove⟩ | ⟨before, item, after, shorter, rfl, rfl, hremove, hshorter,
    hcapacity⟩ := h.removeAt_cases index
  · rw [Guards, Call.mapError_of_eq hremove]
    simp [removeAt, checkIndex, h.size, Nat.not_lt.mpr hindex, Except.mapError]
  · obtain ⟨rotated, hguarded, hrotated, hsame⟩ := removeAt_apply h
    rw [Guards, Call.mapError_of_eq hremove, hguarded,
      hrotated.unique hshorter (hsame.trans hcapacity.symm)]
    rfl

section Values

variable [BEq α]

theorem position_apply (h : list.Filled items spare) (value : α) :
    position list value = .ok (BoundedSeq.position list value) := by
  rw [position, stored_apply h, BoundedSeq.position, ← h.toList]
  rfl

theorem insert_guards (h : list.Filled items spare) (index : Nat) (value : Option α) :
    Guards (insert index value) (SlotList.insert index value) list := by
  rw [Guards, Call.mapError]
  simp only [insert, SlotList.insert, Call.current_bind, stored_apply h, h.toList, Call.ofExcept_ok,
    Call.pure_bind]
  cases hcheck : checkInsert items list.size list.capacity index value with
  | error e => rfl
  | ok item =>
    obtain ⟨-, -, hindex, -⟩ := checkInsert_eq_ok hcheck
    -- Both go on with the same room, so they are compared from there.
    obtain ⟨room, left, notices, hroom, hfilled, -, -⟩ := h.room
    rw [h.size] at hindex
    have hplaced := filled_park hfilled hindex item
    obtain ⟨before, after, rfl, rfl⟩ := exists_append_of_le hindex
    obtain ⟨rotated, hpark, hrotated, hcapacity⟩ := @park_apply _ _ _ _ item _ hfilled
    rw [insertIdx_length_append] at hplaced
    simp only [check_ok, Call.ofExcept_ok, Call.pure_bind]
    rw [hroom, hroom, hpark, hrotated.unique hplaced hcapacity]
    rfl

theorem set_guards (h : list.Filled items spare) (index : Nat) (value : Option α) :
    Guards (set index value) (SlotList.set index value) list := by
  obtain ⟨e, hcheck, hset⟩ | ⟨item, previous, changed, hcheck, hprevious, hset, hchanged,
    hcapacity⟩ := h.set_cases index value
  · rw [Guards, Call.mapError_of_eq hset]
    simp [set, stored_apply h, h.size, hcheck, Except.mapError]
  · have hindex := lt_of_checkSet hcheck
    have hreplaced := filled_replace h hindex item
    have hwrite := write_apply (h.allocated ▸ Nat.lt_add_right spare hindex) (some item)
    rw [Guards, Call.mapError_of_eq hset, ← hreplaced.unique hchanged hcapacity.symm]
    obtain ⟨before, found, after, rfl, rfl⟩ := exists_append_cons_of_lt hindex
    obtain rfl : found = previous := by simpa using hprevious
    rw [← h.size] at hcheck
    simp [set, stored_apply h, hcheck, slot_apply h, Call.bind_of_ok hwrite, occupant,
      Except.mapError]

theorem removeItem_guards (h : list.Filled items spare) (value : α) :
    Guards (removeItem value) (BoundedSeq.removeItem value) list := by
  cases hfound : BoundedSeq.position list value with
  | none =>
    have hmodel : (BoundedSeq.removeItem value : Call (SlotList α) SequenceError (Option α)) list =
        ⟨.ok none, list, []⟩ := by
      simp [BoundedSeq.removeItem, hfound]
    rw [Guards, Call.mapError_of_eq hmodel]
    simp [removeItem, position_apply h, hfound, Except.mapError]
  | some index =>
    -- A value that is found has a slot in use, so its removal is not refused.
    obtain ⟨hindex, -⟩ := List.findIdx?_eq_some_iff_getElem.mp hfound
    simp only [BoundedSeq.toList, h.toList] at hindex
    obtain ⟨hbeyond, -⟩ | ⟨_, item, _, shorter, -, -, hremove, -, -⟩ := h.removeAt_cases index
    · omega
    · have hmodel :
          (BoundedSeq.removeItem value : Call (SlotList α) SequenceError (Option α)) list =
            ⟨.ok (some item), shorter, []⟩ := by
        simp only [BoundedSeq.removeItem, Call.current_bind, hfound]
        exact Call.attempt_of_eq hremove
      have hguarded : removeAt index list = ⟨.ok item, shorter, []⟩ :=
        (removeAt_guards h index).trans (Call.mapError_of_eq hremove _)
      rw [Guards, Call.mapError_of_eq hmodel]
      simp [removeItem, position_apply h, hfound, Call.bind_of_ok hguarded, Except.mapError]

theorem perform_guards (h : list.Sound) (call : SeqCall α) :
    Guards (perform call) (SeqCall.perform call) list := by
  obtain ⟨items, spare, h⟩ := h
  cases call with
  | insert index value => exact (insert_guards h index value).map fun _ => SeqAnswer.done
  | push value => exact (insert_guards h list.size value).map fun _ => SeqAnswer.done
  | removeAt index => exact (removeAt_guards h index).map SeqAnswer.item
  | get index =>
    rw [Guards, Call.mapError, SeqCall.perform_get, perform, Call.current_bind, get_eq h]
    simp only [BoundedSeq.get]
    cases SlotList.get list index <;> rfl
  | set index value => exact (set_guards h index value).map SeqAnswer.item
  | position value =>
    simp only [Guards, perform, Call.current_bind, position_apply h]
    rfl
  | contains value =>
    simp only [Guards, perform, Call.current_bind, position_apply h]
    rfl
  | removeItem value => exact (removeItem_guards h value).map SeqAnswer.found
  | setCapacity capacity =>
    have hguards : Guards (Call.mapError .refused (setCapacity capacity)) (setCapacity capacity)
      list := rfl
    exact hguards.map fun _ => SeqAnswer.done
  | clear =>
    rw [Guards, perform, Call.bind_of_ok (clear_apply h)]
    rfl

end Values

end Guarded

end SlotList

end Enrollment
