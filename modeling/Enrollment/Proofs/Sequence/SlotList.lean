import Enrollment.Proofs.Sequence.Lawful
import Enrollment.Sequence.SlotList

/-!
The slot array works as the plain list does.  Its values fill the first slots and the others are
spare; a value parked in the first spare slot, or an emptied slot, is carried to its place.
-/
namespace Enrollment.SlotList

variable {α : Type}

/-- The slots of a list: its values in the first ones, and nothing in the others. -/
structure Filled (list : SlotList α) (items : List α) (spare : Nat) : Prop where
  slots : list.slots.toList = items.map some ++ List.replicate spare none
  size : list.size = items.length

theorem Filled.toList {list : SlotList α} {items : List α} {spare : Nat}
    (h : list.Filled items spare) : list.toList = items := by
  simp [SlotList.toList, h.slots, h.size]

theorem Filled.allocated {list : SlotList α} {items : List α} {spare : Nat}
    (h : list.Filled items spare) : list.slots.size = items.length + spare := by
  rw [← Array.length_toList, h.slots]
  simp

theorem Filled.getElem?_join {list : SlotList α} {items : List α} {spare : Nat}
    (h : list.Filled items spare) (index : Nat) : list.slots[index]?.join = items[index]? := by
  rw [← Array.getElem?_toList, h.slots]
  cases Nat.lt_or_ge index items.length with
  | inl hi =>
    rw [List.getElem?_append_left (by simpa using hi)]
    simp [hi]
  | inr hi =>
    rw [List.getElem?_append_right (by simpa using hi), List.getElem?_eq_none hi,
      List.getElem?_replicate]
    split <;> rfl

theorem filled_withCapacity (capacity : Nat) :
    (withCapacity capacity : SlotList α).Filled [] initialSlots :=
  ⟨by simp [withCapacity], rfl⟩

def grewTo (slots : Nat) : Notice := .log ⟨.trace, s!"array list grew to {slots} slots", []⟩

theorem filled_grow {list : SlotList α} {items : List α} {spare : Nat}
    (h : list.Filled items spare) :
    ∃ grown, (∀ ε, (grow : Call (SlotList α) ε Unit) list =
        ⟨.ok (), grown, [grewTo (max ((items.length + spare) * 2) initialSlots)]⟩) ∧
      grown.Filled items (max ((items.length + spare) * 2) initialSlots - items.length) ∧
      grown.capacity = list.capacity := by
  simp only [grow, Call.current_bind, Call.become_bind, Call.log_apply, h.allocated]
  refine ⟨_, fun _ => rfl, ⟨?_, h.size⟩, rfl⟩
  simp only [Array.toList_append, Array.toList_replicate, h.slots, List.append_assoc,
    List.replicate_append_replicate]
  congr 2
  omega

/-- A list with a spare slot is what there is to go on with: the same list, or, if it had none, the
list grown. -/
theorem Filled.room {list : SlotList α} {items : List α} {spare : Nat}
    (h : list.Filled items spare) :
    ∃ room left notices,
      (∀ (ε β : Type) (next : Unit → Call (SlotList α) ε β),
        (if list.size = list.slots.size then grow >>= next else next ()) list =
          (next () room).after notices) ∧
      room.Filled items (left + 1) ∧ room.capacity = list.capacity ∧
      (spare = left + 1 ∧ notices = [] ∨
        spare = 0 ∧ items.length + 1 + left = max (items.length * 2) initialSlots ∧
          notices = [grewTo (max (items.length * 2) initialSlots)]) := by
  rw [h.size, h.allocated]
  cases spare with
  | zero =>
    obtain ⟨grown, hgrow, hgrown, hcapacity⟩ := filled_grow h
    simp only [Nat.add_zero] at hgrow hgrown
    obtain ⟨left, hleft⟩ : ∃ left,
        max (items.length * 2) initialSlots - items.length = left + 1 :=
      Nat.exists_eq_succ_of_ne_zero (by simp only [initialSlots]; omega)
    rw [hleft] at hgrown
    refine ⟨grown, left, _, ?_, hgrown, hcapacity, .inr ⟨rfl, by omega, rfl⟩⟩
    intro ε β next
    rw [if_pos (Nat.add_zero _).symm, Call.bind_of_ok (hgrow ε)]
  | succ left =>
    refine ⟨list, left, [], ?_, h, rfl, .inl ⟨rfl, rfl⟩⟩
    intro ε β next
    rw [if_neg (by omega)]
    rfl

/-- A value put into the first spare slot and carried to an index. -/
theorem filled_park {list : SlotList α} {items : List α} {spare index : Nat}
    (h : list.Filled items (spare + 1)) (hindex : index ≤ items.length) (value : α) :
    Filled { list with
      slots := carry (list.slots.setIfInBounds list.size (some value)) list.size index
      size := list.size + 1 } (items.insertIdx index value) spare := by
  obtain ⟨before, after, rfl, rfl⟩ := exists_append_of_le hindex
  have hparked : (list.slots.setIfInBounds list.size (some value)).toList =
      before.map some ++ (after.map some ++ some value :: List.replicate spare none) := by
    simp [h.slots, h.size, List.replicate_succ]
  constructor
  · have hcarry := toList_carry_back _ _ _ _ hparked
    simpa [h.size, insertIdx_length_append] using hcarry
  · simp [h.size, insertIdx_length_append, Nat.add_assoc]

/-- The slot of a value emptied and carried behind the others. -/
theorem filled_vacate {list : SlotList α} {before after : List α} {item : α} {spare : Nat}
    (h : list.Filled (before ++ item :: after) spare) :
    Filled { list with
      slots := carry (list.slots.setIfInBounds before.length none) before.length (list.size - 1)
      size := list.size - 1 } (before ++ after) (spare + 1) := by
  have hemptied : (list.slots.setIfInBounds before.length none).toList =
      before.map some ++ none :: (after.map some ++ List.replicate spare none) := by
    simp [h.slots]
  constructor
  · have hcarry := toList_carry_forth _ _ _ _ hemptied
    simpa [h.size, List.replicate_succ] using hcarry
  · simp [h.size]

/-- Another value in the slot of one. -/
theorem filled_replace {list : SlotList α} {items : List α} {spare index : Nat}
    (h : list.Filled items spare) (hindex : index < items.length) (value : α) :
    Filled { list with slots := list.slots.setIfInBounds index (some value) }
      (items.set index value) spare := by
  constructor
  · simpa [h.slots] using List.set_append_left index (some value) (by simpa using hindex)
  · simpa using h.size

theorem filled_clear {list : SlotList α} {items : List α} {spare : Nat}
    (h : list.Filled items spare) : list.clear.Filled [] (items.length + spare) := by
  refine ⟨?_, rfl⟩
  have hextract : (list.slots.extract list.size list.slots.size).toList =
      List.replicate spare none := by
    simp [h.slots, h.size, h.allocated]
  simp only [clear, Array.toList_append, hextract]
  rw [h.size, h.allocated, Nat.min_eq_left (Nat.le_add_right _ _)]
  simp [List.replicate_append_replicate]

theorem Filled.get {list : SlotList α} {items : List α} {spare : Nat}
    (h : list.Filled items spare) (index : Nat) :
    list.get index = CappedList.get ⟨items, list.capacity⟩ index := by
  simp only [SlotList.get, CappedList.get, h.getElem?_join, h.size, checkIndex]
  cases hget : items[index]? with
  | none =>
    rw [if_neg (by simpa using hget)]
    rfl
  | some item =>
    rw [if_pos (List.getElem?_eq_some_iff.mp hget).1]
    rfl

def Sound (list : SlotList α) : Prop := ∃ items spare, list.Filled items spare

theorem Filled.sound {list : SlotList α} {items : List α} {spare : Nat}
    (h : list.Filled items spare) : list.Sound := ⟨items, spare, h⟩

theorem Filled.removeAt_cases {list : SlotList α} {items : List α} {spare : Nat}
    (h : list.Filled items spare) (index : Nat) :
    (items.length ≤ index ∧
      SlotList.removeAt index list = ⟨.error (.indexOutOfRange index items.length), list, []⟩) ∨
    ∃ before item after shorter, items = before ++ item :: after ∧ before.length = index ∧
      SlotList.removeAt index list = ⟨.ok item, shorter, []⟩ ∧
      shorter.Filled (before ++ after) (spare + 1) ∧ shorter.capacity = list.capacity := by
  cases Nat.lt_or_ge index items.length with
  | inl hindex =>
    obtain ⟨before, item, after, rfl, rfl⟩ := exists_append_cons_of_lt hindex
    refine .inr ⟨before, item, after, _, rfl, rfl, ?_, filled_vacate h, rfl⟩
    simp [SlotList.removeAt, h.size, checkIndex, h.getElem?_join]
  | inr hindex =>
    refine .inl ⟨hindex, ?_⟩
    simp [SlotList.removeAt, h.size, checkIndex, Nat.not_lt.mpr hindex]

theorem Filled.setCapacity_cases {list : SlotList α} {items : List α} {spare : Nat}
    (h : list.Filled items spare) (capacity : Nat) :
    (capacity < items.length ∧ SlotList.setCapacity capacity list =
      ⟨.error (.invalidCapacity capacity items.length), list, []⟩) ∨
    items.length ≤ capacity ∧
      SlotList.setCapacity capacity list = ⟨.ok (), { list with capacity }, []⟩ ∧
      Filled { list with capacity } items spare := by
  cases Nat.lt_or_ge capacity items.length with
  | inl hcapacity => exact .inl ⟨hcapacity, by simp [SlotList.setCapacity, h.size, hcapacity]⟩
  | inr hcapacity =>
    refine .inr ⟨hcapacity, ?_, h.slots, h.size⟩
    simp [SlotList.setCapacity, h.size, Nat.not_lt.mpr hcapacity]

variable [BEq α]

theorem Filled.plain {list : SlotList α} {items : List α} {spare : Nat}
    (h : list.Filled items spare) : BoundedSeq.plain list = ⟨items, list.capacity⟩ := by
  simp [BoundedSeq.plain, BoundedSeq.toList, BoundedSeq.capacity, h.toList]

/-- What an insertion finds and leaves in the slots.  Without a spare slot the array grows first,
and has one then. -/
theorem Filled.insert_cases {list : SlotList α} {items : List α} {spare : Nat}
    (h : list.Filled items spare) (index : Nat) (value : Option α) :
    (∃ e, checkInsert items items.length list.capacity index value = .error e ∧
      SlotList.insert index value list = ⟨.error e, list, []⟩) ∨
    ∃ item longer left notices,
      checkInsert items items.length list.capacity index value = .ok item ∧
      SlotList.insert index value list = ⟨.ok (), longer, notices⟩ ∧
      longer.Filled (items.insertIdx index item) left ∧ longer.capacity = list.capacity ∧
      (spare = left + 1 ∧ notices = [] ∨
        spare = 0 ∧ items.length + 1 + left = max (items.length * 2) initialSlots ∧
          notices = [grewTo (max (items.length * 2) initialSlots)]) := by
  cases hcheck : checkInsert items items.length list.capacity index value with
  | error e => exact .inl ⟨e, rfl, by simp [SlotList.insert, h.toList, h.size, hcheck]⟩
  | ok item =>
    obtain ⟨-, -, hindex, -⟩ := checkInsert_eq_ok hcheck
    obtain ⟨room, left, notices, hroom, hfilled, hcapacity, hnotices⟩ := h.room
    refine .inr ⟨item, _, left, notices, rfl, ?_, filled_park hfilled hindex item, hcapacity,
      hnotices⟩
    rw [← h.size] at hcheck
    simp only [SlotList.insert, Call.current_bind, h.toList, hcheck, Call.ofExcept_ok,
      Call.pure_bind]
    rw [hroom]
    simp [hfilled.size]

/-- What is replaced is there, whatever equality says of the values. -/
theorem Filled.set_cases {list : SlotList α} {items : List α} {spare : Nat}
    (h : list.Filled items spare) (index : Nat) (value : Option α) :
    (∃ e, checkSet items items.length index value = .error e ∧
      SlotList.set index value list = ⟨.error e, list, []⟩) ∨
    ∃ item previous changed, checkSet items items.length index value = .ok item ∧
      items[index]? = some previous ∧
      SlotList.set index value list = ⟨.ok previous, changed, []⟩ ∧
      changed.Filled (items.set index item) spare ∧ changed.capacity = list.capacity := by
  cases hcheck : checkSet items items.length index value with
  | error e => exact .inl ⟨e, rfl, by simp [SlotList.set, h.toList, h.size, hcheck]⟩
  | ok item =>
    have hindex := lt_of_checkSet hcheck
    have hprevious := List.getElem?_eq_getElem hindex
    refine .inr ⟨item, items[index], _, rfl, hprevious, ?_, filled_replace h hindex item, rfl⟩
    simp [SlotList.set, h.toList, h.size, hcheck, h.getElem?_join, hprevious]

theorem insert_follows {list : SlotList α} (h : list.Sound) (index : Nat) (value : Option α) :
    Follows Sound (SlotList.insert index value) (CappedList.insert index value) list := by
  obtain ⟨items, spare, h⟩ := h
  have hmodel := CappedList.insert_apply index value (BoundedSeq.plain list)
  rw [h.plain] at hmodel
  obtain ⟨e, hcheck, hinsert⟩ | ⟨item, longer, left, notices, hcheck, hinsert, hlonger, hcapacity,
    hnotices⟩ := h.insert_cases index value
  · rw [hcheck, ← h.plain] at hmodel
    exact Follows.of_unchanged _ hinsert hmodel h.sound
  · rw [hcheck] at hmodel
    refine Follows.of_ok () notices hinsert (by rw [h.plain, hmodel, hlonger.plain, hcapacity])
      hlonger.sound ?_
    obtain ⟨-, rfl⟩ | ⟨-, -, rfl⟩ := hnotices <;> rfl

theorem removeAt_follows {list : SlotList α} (h : list.Sound) (index : Nat) :
    Follows Sound (SlotList.removeAt index) (CappedList.removeAt index) list := by
  obtain ⟨items, spare, h⟩ := h
  have hmodel := CappedList.removeAt_apply index (BoundedSeq.plain list)
  rw [h.plain] at hmodel
  obtain ⟨hindex, hremove⟩ | ⟨before, item, after, shorter, rfl, rfl, hremove, hshorter,
    hcapacity⟩ := h.removeAt_cases index
  · exact Follows.of_unchanged _ hremove
      (by rw [h.plain, hmodel, List.getElem?_eq_none hindex]) h.sound
  · refine Follows.of_ok item [] hremove ?_ hshorter.sound rfl
    rw [h.plain, hmodel, hshorter.plain, hcapacity]
    simp [eraseIdx_length_append]

theorem setCapacity_follows {list : SlotList α} (h : list.Sound) (capacity : Nat) :
    Follows Sound (SlotList.setCapacity capacity) (CappedList.setCapacity capacity) list := by
  obtain ⟨items, spare, h⟩ := h
  have hmodel := CappedList.setCapacity_apply capacity (BoundedSeq.plain list)
  rw [h.plain] at hmodel
  obtain ⟨hcapacity, hset⟩ | ⟨hcapacity, hset, hchanged⟩ := h.setCapacity_cases capacity
  · rw [if_pos hcapacity] at hmodel
    exact Follows.of_unchanged _ hset (by rw [h.plain, hmodel]) h.sound
  · rw [if_neg (Nat.not_lt.mpr hcapacity)] at hmodel
    exact Follows.of_ok () [] hset (by rw [h.plain, hmodel, hchanged.plain]) hchanged.sound rfl

theorem set_follows [PartialEquivBEq α] {list : SlotList α} (h : list.Sound)
    (hdistinct : Distinct list.toList) (index : Nat) (value : Option α) :
    Follows Sound (SlotList.set index value) (CappedList.set index value) list := by
  obtain ⟨items, spare, h⟩ := h
  rw [h.toList] at hdistinct
  have hset := h.set_cases index value
  obtain ⟨e, hcheck, hmodel⟩ | ⟨item, previous, hprevious, hcheck, hmodel⟩ :=
    @CappedList.set_cases _ _ _ ⟨items, list.capacity⟩ hdistinct index value
  · simp only at hcheck
    simp only [hcheck, Except.error.injEq, exists_eq_left', reduceCtorEq, false_and, exists_false,
      or_false] at hset
    exact Follows.of_unchanged _ hset (by rw [h.plain, hmodel]) h.sound
  · simp only at hcheck hprevious
    simp only [hcheck, hprevious, reduceCtorEq, false_and, exists_false, false_or,
      Except.ok.injEq, Option.some.injEq, exists_and_left, exists_eq_left'] at hset
    obtain ⟨changed, hset, hchanged, hcapacity⟩ := hset
    refine Follows.of_ok previous [] hset ?_ hchanged.sound rfl
    rw [h.plain, hmodel, hchanged.plain, hcapacity]

instance : LawfulSeq (SlotList α) α where
  Sound := Sound
  sound_bounded capacity := (filled_withCapacity capacity).sound
  plain_bounded capacity := (filled_withCapacity capacity).plain
  length_eq := by
    intro list ⟨items, spare, h⟩
    exact h.size.trans (congrArg List.length h.toList.symm)
  get_eq := by
    intro list index ⟨items, spare, h⟩
    rw [h.plain]
    exact h.get index
  insert_follows index value h := insert_follows h index value
  set_follows index value h hdistinct := set_follows h hdistinct index value
  removeAt_follows index h := removeAt_follows h index
  setCapacity_follows capacity h := setCapacity_follows h capacity
  sound_clear := by
    intro list ⟨items, spare, h⟩
    exact (filled_clear h).sound
  plain_clear := by
    intro list ⟨items, spare, h⟩
    rw [h.plain]
    exact (filled_clear h).plain

end Enrollment.SlotList
