import Enrollment.Proofs.Sequence.ChainList
import Enrollment.Proofs.Sequence.Storing
import Enrollment.Sequence.SortedList

/-!
What the calls on a sorted list do, said of the values it stores in order.
-/
namespace Enrollment.SortedList

variable {α ε : Type}

def placeIn [Ord α] (items : List α) (value : α) : Nat :=
  (items.findIdx? fun stored => compare stored value == .gt).getD items.length

theorem placeIn_le [Ord α] (items : List α) (value : α) : placeIn items value ≤ items.length := by
  rw [placeIn]
  cases hfound : items.findIdx? fun stored => compare stored value == .gt with
  | none => exact Nat.le_refl _
  | some index => exact Nat.le_of_lt (List.findIdx?_eq_some_iff_getElem.mp hfound).1

def Ascending [Ord α] (items : List α) : Prop :=
  items.Pairwise fun a b => compare a b = .lt

section Order

variable [Ord α] {items : List α} {value first : α}

theorem placeIn_cons_of_gt (h : compare first value = .gt) (rest : List α) :
    placeIn (first :: rest) value = 0 := by
  rw [placeIn, List.findIdx?_cons, h]
  rfl

theorem placeIn_cons_of_lt (h : compare first value = .lt) (rest : List α) :
    placeIn (first :: rest) value = placeIn rest value + 1 := by
  rw [placeIn, placeIn, List.findIdx?_cons, h]
  cases rest.findIdx? fun stored => compare stored value == .gt <;> rfl

theorem Ascending.sublist {fewer : List α} (h : Ascending items) (hsub : fewer.Sublist items) :
    Ascending fewer :=
  List.Pairwise.sublist hsub h

/-- There is one ascending order of some values. -/
theorem Ascending.eq_of_perm [Std.TransOrd α] {other : List α} (h : Ascending items)
    (hother : Ascending other) (hperm : items.Perm other) : items = other := by
  refine hperm.eq_of_pairwise ?_ h hother
  intro a b _ _ hlt hgt
  rw [Std.OrientedCmp.gt_iff_lt.mpr hgt] at hlt
  cases hlt

/-- A new value leaves the order as it is when it goes to its place. -/
theorem Ascending.insertIdx_placeIn [Std.TransOrd α] (h : Ascending items)
    (hnew : ∀ stored ∈ items, compare stored value ≠ .eq) :
    Ascending (items.insertIdx (placeIn items value) value) := by
  induction items with
  | nil => exact List.pairwise_singleton _ value
  | cons first rest ih =>
    obtain ⟨hfirst, hrest⟩ := List.pairwise_cons.mp h
    obtain ⟨hne, hnew⟩ := List.forall_mem_cons.mp hnew
    cases hcompare : compare first value with
    | eq => exact absurd hcompare hne
    | gt =>
      have hlt : compare value first = .lt := Std.OrientedCmp.gt_iff_lt.mp hcompare
      rw [placeIn_cons_of_gt hcompare, List.insertIdx_zero]
      refine List.pairwise_cons.mpr ⟨List.forall_mem_cons.mpr ⟨hlt, ?_⟩, h⟩
      intro other hother
      exact Std.TransCmp.lt_trans hlt (hfirst other hother)
    | lt =>
      rw [placeIn_cons_of_lt hcompare, List.insertIdx_succ_cons]
      refine List.pairwise_cons.mpr ⟨?_, ih hrest hnew⟩
      intro other hother
      cases (List.mem_insertIdx (placeIn_le rest value)).mp hother with
      | inl hvalue => rwa [hvalue]
      | inr hmem => exact hfirst other hmem

end Order

variable [BEq α] {list : SortedList α} {items : List α} {bound : Nat}

def Holds (items : List α) (bound : Nat) (list : SortedList α) : Prop :=
  LawfulSeq.Holds items bound list.chain

theorem holds_empty : Holds [] Bounds.count (empty : SortedList α) :=
  LawfulSeq.holds_bounded Bounds.count

theorem Holds.toList_eq (h : Holds items bound list) : list.toList = items := h.items

theorem Holds.length_eq (h : Holds items bound list) : list.length = items.length :=
  LawfulSeq.Holds.length_eq h

theorem Holds.contains_eq (h : Holds items bound list) (value : α) :
    list.contains value = items.any (· == value) := by
  rw [contains, BoundedSeq.contains_eq, h.items]

theorem Holds.add_refused_of_stored [Ord α] (h : Holds items bound list) {value : α}
    (hany : items.any (· == value) = true) :
    (add (some value)).Refuses list .duplicateValue [] := by
  have hcontains := h.contains_eq value
  rw [hany] at hcontains
  have hcall : add (some value) list = ⟨.error .duplicateValue, list, []⟩ := by
    simp [add, hcontains]
  exact Call.Refuses.of_eq hcall rfl

/-- A value that no stored one equals is put into the chain at its place. -/
theorem Holds.add_eq [Ord α] (h : Holds items bound list) {value : α}
    (hany : items.any (· == value) = false) :
    add (some value) list = (do
      onChain (ChainList.insert (placeIn items value) (some value))
      return placeIn items value) list := by
  have hcontains := h.contains_eq value
  rw [hany] at hcontains
  have hplace : (list.toList.findIdx? fun stored => compare stored value == .gt).getD
      list.length = placeIn items value := by
    rw [h.toList_eq, h.length_eq, placeIn]
  simp [add, hcontains, hplace]

theorem Holds.add_refused [Ord α] (h : Holds items bound list) {value : α}
    (hany : items.any (· == value) = false) (hfull : bound ≤ items.length) :
    (add (some value)).Refuses list (.capacityExceeded bound) [] := by
  have hinsert : (onChain (ChainList.insert (placeIn items value) (some value))).Refuses list
      (.capacityExceeded bound) [] :=
    (LawfulSeq.insert_refused h hany (placeIn_le items value) hfull).within rfl
  exact (hinsert.bind _).congr (h.add_eq hany)

theorem Holds.add_answers [Ord α] (h : Holds items bound list) {value : α}
    (hany : items.any (· == value) = false) (hroom : items.length < bound) :
    (add (some value)).Answers list (placeIn items value)
      (Holds (items.insertIdx (placeIn items value) value) bound) [] := by
  have hinsert : (onChain (ChainList.insert (placeIn items value) (some value))).Answers list ()
      (Holds (items.insertIdx (placeIn items value) value) bound) [] :=
    (LawfulSeq.insert_answers h hany (placeIn_le items value) hroom).within fun _ ht => ht
  exact (hinsert.map fun _ => placeIn items value).congr (h.add_eq hany)

/-- A value goes to its place, or is refused because an equal one is stored or there is no room. -/
theorem Holds.add_cases [Ord α] (h : Holds items bound list) (value : α) :
    (∃ e, (add (some value)).Refuses list e [] ∧
      (items.any (· == value) = true ∨ bound ≤ items.length)) ∨
    items.any (· == value) = false ∧ items.length < bound ∧
      (add (some value)).Answers list (placeIn items value)
        (Holds (items.insertIdx (placeIn items value) value) bound) [] := by
  cases hany : items.any (· == value) with
  | true => exact .inl ⟨_, h.add_refused_of_stored hany, .inl rfl⟩
  | false =>
    by_cases hroom : items.length < bound
    · exact .inr ⟨rfl, hroom, h.add_answers hany hroom⟩
    · exact .inl ⟨_, h.add_refused hany (by omega), .inr (by omega)⟩

theorem Holds.removeWhere_answers (h : Holds items bound list) (property : α → Bool) :
    (removeWhere property : Call (SortedList α) ε (Option α)).Answers list (items.find? property)
      (Holds (items.eraseP property) bound) [] := by
  obtain ⟨hfound, hnone, hrest⟩ | ⟨index, item, hfound, hitem, hsome, hrest⟩ :=
    find?_eraseP_cases items property
  · rw [hnone, hrest]
    apply Call.Answers.current_bind
    simp only [h.toList_eq, hfound]
    exact Call.Answers.pure h
  · rw [hsome, hrest]
    apply Call.Answers.current_bind
    simp only [h.toList_eq, hfound]
    have hremove : (onChain (Call.attempt (ChainList.removeAt index)) :
        Call (SortedList α) ε (Option α)).Answers list (some item)
        (Holds (items.eraseIdx index) bound) [] :=
      (LawfulSeq.attempt_removeAt_answers h hitem).within fun _ ht => ht
    exact hremove.congr rfl

end Enrollment.SortedList
