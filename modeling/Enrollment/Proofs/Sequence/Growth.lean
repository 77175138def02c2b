import Enrollment.Proofs.Sequence.Guarded
import Mathlib.Algebra.Group.Nat.Defs
import Mathlib.Order.Bounds.Defs

/-!
How a slot array grows.  It doubles when a value finds every slot in use and never shrinks, so its
slots tell the most values that it ever held, whatever the capacity was.
-/
namespace Enrollment.SlotList

variable {α β γ ε : Type}

/-- What a call leaves of a list and gives notice of: a list with as many slots and no notice, or,
when every slot was in use, a list of one value more in twice as many slots and a notice of them. -/
inductive Accommodates (list : SlotList α) : SlotList α → List Notice → Prop
  | within {next : SlotList α} (sound : next.Sound) (same : next.allocated = list.allocated) :
      Accommodates list next []
  | doubled {next : SlotList α} (sound : next.Sound) (full : list.size = list.allocated)
      (size : next.size = list.size + 1)
      (twice : next.allocated = max (list.allocated * 2) initialSlots) :
      Accommodates list next [grewTo next.allocated]

variable {list next : SlotList α} {items others : List α} {spare left : Nat}

theorem Filled.occupied (h : list.Filled items spare) :
    ∀ index < list.size, ∃ value, list.slots[index]? = some (some value) := by
  intro index hindex
  rw [h.size] at hindex
  refine ⟨items[index], ?_⟩
  rw [← Array.getElem?_toList, h.slots, List.getElem?_append_left (by simpa using hindex)]
  simp [hindex]

theorem Filled.vacant (h : list.Filled items spare) :
    ∀ index, list.size ≤ index → index < list.allocated → list.slots[index]? = some none := by
  intro index hindex hlast
  rw [SlotList.allocated, h.allocated] at hlast
  rw [h.size] at hindex
  rw [← Array.getElem?_toList, h.slots, List.getElem?_append_right (by simpa using hindex),
    List.getElem?_replicate, if_pos (by rw [List.length_map]; omega)]

theorem Filled.tailIsClear (h : list.Filled items spare) : list.tailIsClear = true := by
  rw [SlotList.tailIsClear, h.slots, h.size, List.drop_left' (List.length_map some)]
  simp

theorem Accommodates.unchanged (h : list.Sound) : Accommodates list list [] :=
  .within h rfl

theorem Accommodates.map {call : Call (SlotList α) ε β}
    (h : Accommodates list (call list).state (call list).notices) (f : β → γ) :
    Accommodates list ((do return f (← call) : Call (SlotList α) ε γ) list).state
      ((do return f (← call) : Call (SlotList α) ε γ) list).notices := by
  rwa [Call.bind_pure_apply]

theorem Filled.accommodates (h : list.Filled items spare) (hnext : next.Filled others left)
    (hsame : others.length + left = items.length + spare) : Accommodates list next [] :=
  .within hnext.sound (hnext.allocated.trans (hsame.trans h.allocated.symm))

theorem removeAt_accommodates (h : list.Filled items spare) (index : Nat) :
    Accommodates list (SlotList.removeAt index list).state
      (SlotList.removeAt index list).notices := by
  obtain ⟨-, hremove⟩ | ⟨before, item, after, shorter, rfl, -, hremove, hshorter, -⟩ :=
    h.removeAt_cases index
  · rw [hremove]
    exact .unchanged h.sound
  · rw [hremove]
    refine h.accommodates hshorter ?_
    simp only [List.length_append, List.length_cons]
    omega

theorem setCapacity_accommodates (h : list.Filled items spare) (capacity : Nat) :
    Accommodates list (SlotList.setCapacity capacity list).state
      (SlotList.setCapacity capacity list).notices := by
  obtain ⟨-, hset⟩ | ⟨-, hset, hchanged⟩ := h.setCapacity_cases capacity
  · rw [hset]
    exact .unchanged h.sound
  · rw [hset]
    exact h.accommodates hchanged rfl

section Calls

variable [BEq α]

theorem insert_accommodates (h : list.Filled items spare) (index : Nat) (value : Option α) :
    Accommodates list (SlotList.insert index value list).state
      (SlotList.insert index value list).notices := by
  obtain ⟨e, -, hinsert⟩ | ⟨item, longer, left, notices, hcheck, hinsert, hlonger, -, hnotices⟩ :=
    h.insert_cases index value
  · rw [hinsert]
    exact .unchanged h.sound
  · obtain ⟨-, -, hindex, -⟩ := checkInsert_eq_ok hcheck
    have hlength := List.length_insertIdx_of_le_length hindex item
    rw [hinsert]
    obtain ⟨rfl, rfl⟩ | ⟨rfl, hleft, rfl⟩ := hnotices
    · exact h.accommodates hlonger (by omega)
    · have htwice : longer.allocated = max (items.length * 2) initialSlots := by
        rw [allocated, hlonger.allocated, hlength, hleft]
      rw [← htwice]
      refine .doubled hlonger.sound (h.size.trans h.allocated.symm) ?_ ?_
      · rw [hlonger.size, hlength, h.size]
      · rw [htwice, allocated, h.allocated, Nat.add_zero]

theorem set_accommodates (h : list.Filled items spare) (index : Nat) (value : Option α) :
    Accommodates list (SlotList.set index value list).state
      (SlotList.set index value list).notices := by
  obtain ⟨e, -, hset⟩ | ⟨item, previous, changed, -, -, hset, hchanged, -⟩ :=
    h.set_cases index value
  · rw [hset]
    exact .unchanged h.sound
  · rw [hset]
    exact h.accommodates hchanged (by simp)

theorem perform_accommodates (h : list.Sound) (call : SeqCall α) :
    Accommodates list (SeqCall.perform call list).state (SeqCall.perform call list).notices := by
  obtain ⟨items, spare, h⟩ := h
  cases call with
  | insert index value => exact (insert_accommodates h index value).map fun _ => SeqAnswer.done
  | push value => exact (insert_accommodates h list.size value).map fun _ => SeqAnswer.done
  | removeAt index => exact (removeAt_accommodates h index).map SeqAnswer.item
  | get index =>
    rw [SeqCall.perform_get]
    exact .unchanged h.sound
  | set index value => exact (set_accommodates h index value).map SeqAnswer.item
  | position value => exact .unchanged h.sound
  | contains value => exact .unchanged h.sound
  | removeItem value =>
    refine Accommodates.map ?_ SeqAnswer.found
    rw [BoundedSeq.removeItem, Call.current_bind]
    cases BoundedSeq.position list value with
    | none => exact .unchanged h.sound
    | some index => exact removeAt_accommodates h index
  | setCapacity capacity => exact (setCapacity_accommodates h capacity).map fun _ => SeqAnswer.done
  | clear =>
    rw [SeqCall.perform_clear]
    exact h.accommodates (filled_clear h) (Nat.zero_add _)

def largest : List (SeqCall α) → SlotList α → Nat
  | [], list => list.size
  | call :: rest, list => max list.size (largest rest (SeqCall.perform call list).state)

theorem size_le_largest (calls : List (SeqCall α)) (list : SlotList α) :
    list.size ≤ largest calls list := by
  cases calls with
  | nil => exact Nat.le_refl _
  | cons call rest => exact Nat.le_max_left _ _

end Calls

theorem Sound.size_le_allocated (h : list.Sound) : list.size ≤ list.allocated := by
  obtain ⟨items, spare, h⟩ := h
  rw [allocated, h.allocated, h.size]
  exact Nat.le_add_right _ _

/-- The slots of a list that held at most so many values at any time: the first ones, doubled as
often as these needed and not more often. -/
structure Provisioned (list : SlotList α) (doublings most : Nat) : Prop where
  sound : list.Sound
  allocated : list.allocated = 10 * 2 ^ doublings
  size_le : list.size ≤ most
  most_le : most ≤ 10 * 2 ^ doublings
  needed : ∀ fewer < doublings, 10 * 2 ^ fewer < most

theorem provisioned_withCapacity (capacity : Nat) :
    (withCapacity capacity : SlotList α).Provisioned 0 0 where
  sound := (filled_withCapacity capacity).sound
  allocated := rfl
  size_le := Nat.le_refl _
  most_le := Nat.zero_le _
  needed := by simp

variable {doublings most : Nat}

theorem Provisioned.isLeast (h : list.Provisioned doublings most) :
    IsLeast {slots | most ≤ slots ∧ ∃ k, slots = 10 * 2 ^ k} list.allocated := by
  rw [h.allocated]
  refine ⟨⟨h.most_le, doublings, rfl⟩, ?_⟩
  rintro _ ⟨hmost, k, rfl⟩
  by_contra hless
  have hk : k < doublings := by
    by_contra hk
    exact hless (Nat.mul_le_mul_left 10 (Nat.pow_le_pow_right (by omega) (Nat.not_lt.mp hk)))
  exact Nat.not_lt.mpr hmost (h.needed k hk)

/-- One call doubles the slots once, with notice, or not at all. -/
theorem Provisioned.accommodates {notices : List Notice} (h : list.Provisioned doublings most)
    (hnext : Accommodates list next notices) :
    next.Provisioned doublings (max most next.size) ∧ notices = [] ∨
      next.Provisioned (doublings + 1) (max most next.size) ∧
        notices = [grewTo (10 * 2 ^ (doublings + 1))] := by
  obtain ⟨-, hallocated, hsize, hmost, hneeded⟩ := h
  cases hnext with
  | within sound same =>
    have hnext := sound.size_le_allocated
    refine .inl ⟨⟨sound, same.trans hallocated, Nat.le_max_right _ _, by omega, ?_⟩, rfl⟩
    intro fewer hfewer
    exact Nat.lt_of_lt_of_le (hneeded fewer hfewer) (Nat.le_max_left _ _)
  | doubled sound full size twice =>
    -- Every slot was in use, so there are just as many as the most values held.
    have hpow : 0 < 2 ^ doublings := Nat.two_pow_pos doublings
    have hdoubled : next.allocated = 10 * 2 ^ (doublings + 1) := by
      rw [twice, hallocated, initialSlots, Nat.pow_succ]
      omega
    rw [hdoubled]
    refine .inr ⟨⟨sound, hdoubled, Nat.le_max_right _ _, ?_, ?_⟩, rfl⟩
    · rw [Nat.pow_succ]
      omega
    · intro fewer hfewer
      have hle : 2 ^ fewer ≤ 2 ^ doublings := Nat.pow_le_pow_right (by omega) (by omega)
      omega

section Runs

variable [BEq α]

/-- Over a run the slots double one time after another, each with its notice. -/
theorem Provisioned.finalState (h : list.Provisioned doublings most) (calls : List (SeqCall α)) :
    ∃ more,
      (Call.finalState SeqCall.perform calls list).Provisioned (doublings + more)
        (max most (largest calls list)) ∧
      Call.allNotices SeqCall.perform calls list =
        (List.range' (doublings + 1) more).map fun k => grewTo (10 * 2 ^ k) := by
  induction calls generalizing list doublings most with
  | nil =>
    refine ⟨0, ?_, rfl⟩
    rwa [largest, Nat.max_eq_left h.size_le]
  | cons call rest ih =>
    have hlargest : max most (largest (call :: rest) list) =
        max (max most (SeqCall.perform call list).state.size)
          (largest rest (SeqCall.perform call list).state) := by
      have hsize := h.size_le
      have hnext := size_le_largest rest (SeqCall.perform call list).state
      rw [largest]
      omega
    rw [hlargest, Call.allNotices_cons]
    obtain ⟨hnext, hnotices⟩ | ⟨hnext, hnotices⟩ :=
      h.accommodates (perform_accommodates h.sound call)
    · obtain ⟨more, hfinal, hrest⟩ := ih hnext
      exact ⟨more, hfinal, by rw [hnotices, hrest, List.nil_append]⟩
    · obtain ⟨more, hfinal, hrest⟩ := ih hnext
      refine ⟨more + 1, ?_, ?_⟩
      · rwa [Nat.add_comm more, ← Nat.add_assoc]
      · rw [hnotices, hrest]
        rfl

/-- Whatever is asked of a list made for any capacity, its values fill the first slots and the
others are empty, so that no call comes to a slot that is not there or to an empty one in use.  The
slots are as many as the fewest doublings make them that hold the most values ever held, and each
doubling was told once. -/
theorem grows_by_doubling (capacity : Nat) (calls : List (SeqCall α)) :
    let start : SlotList α := withCapacity capacity
    let list := Call.finalState SeqCall.perform calls start
    (∀ index < list.size, ∃ value, list.slots[index]? = some (some value)) ∧
      (∀ index, list.size ≤ index → index < list.allocated → list.slots[index]? = some none) ∧
      list.size ≤ list.allocated ∧ list.tailIsClear = true ∧
      (∀ call : SeqCall α,
        Guarded.perform call list = Call.mapError .refused (SeqCall.perform call) list) ∧
      IsLeast {slots | largest calls start ≤ slots ∧ ∃ k, slots = 10 * 2 ^ k} list.allocated ∧
      ∃ doublings, list.allocated = 10 * 2 ^ doublings ∧
        Call.allNotices SeqCall.perform calls start =
          (List.range' 1 doublings).map fun k => grewTo (10 * 2 ^ k) := by
  intro start list
  obtain ⟨doublings, hfinal, hnotices⟩ := (provisioned_withCapacity capacity).finalState calls
  rw [Nat.zero_max] at hfinal
  rw [Nat.zero_add] at hfinal hnotices
  obtain ⟨items, spare, hfilled⟩ := hfinal.sound
  exact ⟨hfilled.occupied, hfilled.vacant, hfinal.sound.size_le_allocated, hfilled.tailIsClear,
    Guarded.perform_guards hfinal.sound, hfinal.isLeast, doublings, hfinal.allocated, hnotices⟩

/-- Eleven numbers need twice the first slots, and the list keeps them when all but one are gone. -/
theorem grows_by_doubling_eleven :
    let calls : List (SeqCall Nat) :=
      (List.range 11).map (fun number => .push (some number)) ++
        [.removeAt 0, .removeItem 5, .clear, .setCapacity 1, .push (some 5), .push (some 6)]
    let list : SlotList Nat := Call.finalState SeqCall.perform calls (withCapacity 11)
    list.size = 1 ∧ largest calls (withCapacity 11) = 11 ∧
      (∃ value, list.slots[0]? = some (some value)) ∧ list.slots[19]? = some none ∧
      IsLeast {slots | 11 ≤ slots ∧ ∃ k, slots = 10 * 2 ^ k} list.allocated := by
  intro calls list
  obtain ⟨hoccupied, hvacant, -, -, -, hleast, -⟩ := grows_by_doubling 11 calls
  have hsize : list.size = 1 := by decide +kernel
  have hallocated : list.allocated = 20 := by decide +kernel
  have hlargest : largest calls (withCapacity 11) = 11 := by decide +kernel
  rw [hlargest] at hleast
  have hfirst : 0 < list.size := by omega
  have hlater : list.size ≤ 19 := by omega
  have hlast : 19 < list.allocated := by omega
  exact ⟨hsize, hlargest, hoccupied 0 hfirst, hvacant 19 hlater hlast, hleast⟩

end Runs

end Enrollment.SlotList
