import Enrollment.Proofs.Course
import Enrollment.Proofs.Sequence.Agreement
import Enrollment.Proofs.Sequence.SortedList

/-!
A sorted list is in order after any calls: a new value goes behind those that are smaller, a search
finds the smallest, and it does not matter in which order different values arrive.
-/
namespace Enrollment

namespace SortedList

variable {α : Type}

section Order

variable [Ord α] {items : List α} {property : α → Bool} {value item : α}

structure LeastSuch (items : List α) (property : α → Bool) (item : α) : Prop where
  mem : item ∈ items
  holds : property item = true
  least : ∀ other ∈ items, property other = true → other = item ∨ compare item other = .lt

theorem Ascending.leastSuch_of_find? (h : Ascending items)
    (hfound : items.find? property = some item) : LeastSuch items property item := by
  obtain ⟨hitem, before, after, rfl, hbefore⟩ := List.find?_eq_some_iff_append.mp hfound
  refine ⟨by simp, hitem, ?_⟩
  intro other hother hproperty
  obtain ⟨-, hafter, -⟩ := List.pairwise_append.mp h
  simp only [List.mem_append, List.mem_cons] at hother
  obtain hmem | rfl | hmem := hother
  · have hnot := hbefore other hmem
    simp [hproperty] at hnot
  · exact .inl rfl
  · exact .inr ((List.pairwise_cons.mp hafter).1 other hmem)

variable [Std.TransOrd α]

/-- The place of a new value is the number of the smaller ones. -/
theorem Ascending.placeIn_eq (h : Ascending items)
    (hnew : ∀ stored ∈ items, compare stored value ≠ .eq) :
    placeIn items value = items.countP (compare · value == .lt) := by
  induction items with
  | nil => rfl
  | cons first rest ih =>
    obtain ⟨hfirst, hrest⟩ := List.pairwise_cons.mp h
    obtain ⟨hne, hnew⟩ := List.forall_mem_cons.mp hnew
    cases hcompare : compare first value with
    | eq => exact absurd hcompare hne
    | lt => simp [placeIn_cons_of_lt hcompare, ih hrest hnew, hcompare]
    | gt =>
      have hlt : compare value first = .lt := Std.OrientedCmp.gt_iff_lt.mp hcompare
      have hnone : rest.countP (compare · value == .lt) = 0 := by
        rw [List.countP_eq_zero]
        intro other hother
        have hgt : compare other value = .gt :=
          Std.OrientedCmp.gt_iff_lt.mpr (Std.TransCmp.lt_trans hlt (hfirst other hother))
        simp [hgt]
      simp [placeIn_cons_of_gt hcompare, hnone, hcompare]

theorem LeastSuch.unique {least : α} (h : LeastSuch items property item)
    (hleast : LeastSuch items property least) : item = least := by
  obtain hsame | hlt := hleast.least item h.mem h.holds
  · exact hsame
  · obtain hsame | hgt := h.least least hleast.mem hleast.holds
    · exact hsame.symm
    · rw [Std.OrientedCmp.gt_iff_lt.mpr hgt] at hlt
      cases hlt

/-- What is found first in ascending order is the smallest. -/
theorem Ascending.find?_eq_some_iff (h : Ascending items) :
    items.find? property = some item ↔ LeastSuch items property item := by
  refine ⟨h.leastSuch_of_find?, ?_⟩
  intro hleast
  cases hfound : items.find? property with
  | none => exact absurd hleast.holds (List.find?_eq_none.mp hfound item hleast.mem)
  | some found => rw [(h.leastSuch_of_find? hfound).unique hleast]

end Order

theorem find?_eq_none_iff (list : SortedList α) (property : α → Bool) :
    list.find? property = none ↔ ∀ stored ∈ list.toList, property stored = false := by
  rw [find?, List.find?_eq_none]
  simp

section Steps

variable [BEq α] {list : SortedList α} {items : List α} {bound : Nat} {property : α → Bool}
  {item : α}

theorem Holds.removeWhere_absent {ε : Type} (h : Holds items bound list)
    (hnone : items.find? property = none) :
    (removeWhere property : Call (SortedList α) ε (Option α)) list = ⟨.ok none, list, []⟩ := by
  have habsent : list.toList.findIdx? property = none := by
    rw [h.toList_eq, List.findIdx?_eq_none_iff]
    simpa using hnone
  simp [removeWhere, habsent]

/-- What is taken out is the first value with the property, and the others stay. -/
theorem Holds.removeWhere_found {ε : Type} (h : Holds items bound list)
    (hfound : items.find? property = some item) :
    ∃ before after, items = before ++ item :: after ∧
      (removeWhere property : Call (SortedList α) ε (Option α)).Answers list (some item)
        (Holds (before ++ after) bound) [] := by
  obtain ⟨hitem, before, after, hsplit, hbefore⟩ := List.find?_eq_some_iff_append.mp hfound
  have hrest : items.eraseP property = before ++ after := by
    have hnot : ∀ other ∈ before, ¬ property other = true := by simpa using hbefore
    rw [hsplit, List.eraseP_append_right _ hnot, List.eraseP_cons_of_pos hitem]
  refine ⟨before, after, hsplit, ?_⟩
  rw [← hfound, ← hrest]
  exact h.removeWhere_answers property

/-- Taking out by a property takes out what a search for it finds, and nothing else. -/
theorem Holds.removeWhere_eq_find? {ε : Type} (h : Holds items bound list)
    (property : α → Bool) :
    let reply : Reply (SortedList α) ε (Option α) := removeWhere property list
    reply.result = .ok (list.find? property) ∧
      (list.find? property = none → reply.state = list) ∧
      ∀ item, list.find? property = some item →
        ∃ before after, list.toList = before ++ item :: after ∧
          reply.state.toList = before ++ after := by
  intro reply
  obtain rfl := h.toList_eq
  cases hfound : list.toList.find? property with
  | none =>
    have hreply : reply = ⟨.ok none, list, []⟩ := h.removeWhere_absent hfound
    have hnone : list.find? property = none := hfound
    simp [hreply, hnone]
  | some item =>
    have hsome : list.find? property = some item := hfound
    obtain ⟨before, after, hsplit, htaken⟩ := h.removeWhere_found hfound
    rw [hsome]
    refine ⟨htaken.result, by simp, ?_⟩
    rintro _ ⟨⟩
    exact ⟨before, after, hsplit, htaken.state.toList_eq⟩

theorem Holds.removeAt_cases (h : Holds items bound list) (index : Nat) :
    (∃ e, (removeAt index).Refuses list e []) ∨
      ∃ item, (removeAt index).Answers list item (Holds (items.eraseIdx index) bound) [] := by
  cases hitem : items[index]? with
  | none => exact .inl ⟨_, (LawfulSeq.removeAt_refused h hitem).within rfl⟩
  | some item => exact .inr ⟨item, (LawfulSeq.removeAt_answers h hitem).within fun _ ht => ht⟩

structure Sorted [Ord α] (list : SortedList α) : Prop where
  holds : Holds list.toList Bounds.count list
  ascending : Ascending list.toList

theorem Holds.sorted [Ord α] (h : Holds items Bounds.count list) (hascending : Ascending items) :
    list.Sorted := by
  obtain rfl := h.toList_eq
  exact ⟨h, hascending⟩

theorem sorted_empty [Ord α] : (empty : SortedList α).Sorted :=
  holds_empty.sorted List.Pairwise.nil

end Steps

end SortedList

inductive SortedCall (α : Type)
  | add (value : Option α)
  | removeAt (index : Nat)
  | removeWhere (property : α → Bool)

namespace SortedCall

open SortedList (Ascending LeastSuch placeIn)

variable {α : Type} [BEq α] [Ord α]

def perform : SortedCall α → Call (SortedList α) SequenceError (SeqAnswer α)
  | add value => do
    let index ← SortedList.add value
    return .place (some index)
  | removeAt index => do
    let item ← SortedList.removeAt index
    return .item item
  | removeWhere property => do
    let removed ← SortedList.removeWhere property
    return .found removed

def addAll (values : List α) (list : SortedList α) : SortedList α :=
  Call.finalState perform (values.map fun value => add (some value)) list

variable {list : SortedList α}

/-- A value is told to be there if and only if an equal one is, with room or without. -/
theorem add_eq_duplicate_iff (h : list.Sorted) (value : α) :
    (SortedList.add (some value) list).result = .error .duplicateValue ↔
      ∃ stored ∈ list.toList, (stored == value) = true := by
  rw [← List.any_eq_true]
  cases hany : list.toList.any (· == value) with
  | true => simp [(h.holds.add_refused_of_stored hany).result]
  | false =>
    by_cases hroom : list.toList.length < Bounds.count
    · simp [(h.holds.add_answers hany hroom).result]
    · simp [(h.holds.add_refused hany (by omega)).result]

variable [Std.LawfulBEqOrd α]

theorem compare_ne_eq {items : List α} {value : α} (hany : items.any (· == value) = false) :
    ∀ stored ∈ items, compare stored value ≠ .eq := by
  intro stored hstored hequal
  exact List.any_eq_false.mp hany stored hstored (Std.compare_eq_iff_beq.mp hequal)

variable [Std.TransOrd α]

theorem add_sorted (h : list.Sorted) (value : Option α) :
    (SortedList.add value list).state.Sorted ∧ (SortedList.add value).Spares list := by
  cases value with
  | none => exact ⟨h, fun _ _ => rfl⟩
  | some value =>
    obtain ⟨e, hrefused, -⟩ | ⟨hany, -, hadd⟩ := h.holds.add_cases value
    · refine ⟨?_, hrefused.spares⟩
      rw [hrefused.state]
      exact h
    · exact ⟨hadd.state.sorted (h.ascending.insertIdx_placeIn (compare_ne_eq hany)), hadd.spares⟩

theorem perform_sorted (call : SortedCall α) (list : SortedList α) (h : list.Sorted) :
    (perform call list).state.Sorted := by
  cases call with
  | add value =>
    rw [perform, Call.bind_pure_apply]
    exact (add_sorted h value).1
  | removeAt index =>
    rw [perform, Call.bind_pure_apply]
    obtain ⟨e, hrefused⟩ | ⟨item, hremove⟩ := h.holds.removeAt_cases index
    · rw [hrefused.state]
      exact h
    · exact hremove.state.sorted (h.ascending.sublist (List.eraseIdx_sublist _ _))
  | removeWhere property =>
    rw [perform, Call.bind_pure_apply]
    have hremove : (SortedList.removeWhere property : Call _ SequenceError _).Answers list _ _ [] :=
      h.holds.removeWhere_answers property
    exact hremove.state.sorted (h.ascending.sublist List.eraseP_sublist)

/-- A value that no stored one equals goes behind the smaller ones. -/
theorem add_new (h : list.Sorted) {value : α} (hany : list.toList.any (· == value) = false)
    (hroom : list.length < Bounds.count) :
    ∃ before after, list.toList = before ++ after ∧
      before.length = list.toList.countP (compare · value == .lt) ∧
      (SortedList.add (some value) list).result = .ok before.length ∧
      (SortedList.add (some value) list).state.toList = before ++ value :: after := by
  have hplace := h.ascending.placeIn_eq (compare_ne_eq hany)
  obtain ⟨before, after, hsplit, hlength⟩ :=
    exists_append_of_le (SortedList.placeIn_le list.toList value)
  have hadd := h.holds.add_answers hany (by rwa [← h.holds.length_eq])
  refine ⟨before, after, hsplit, hlength.trans hplace, by rw [hlength, hadd.result], ?_⟩
  rw [hadd.state.toList_eq, ← hlength, hsplit, insertIdx_length_append]

theorem finalState_sorted (calls : List (SortedCall α)) :
    (Call.finalState perform calls (SortedList.empty : SortedList α)).Sorted :=
  Call.finalState_induction perform_sorted calls SortedList.sorted_empty

/-- Different values that are added are stored, apart from those that equal a stored one. -/
theorem addAll_perm {values : List α} (hdistinct : Distinct values) (h : list.Sorted)
    (hroom : list.length + values.length ≤ Bounds.count) :
    (addAll values list).Sorted ∧
      (addAll values list).toList.Perm
        (list.toList ++ values.filter fun value => !list.toList.any (· == value)) := by
  induction values generalizing list with
  | nil => simpa [addAll, Call.finalState] using h
  | cons value rest ih =>
    obtain ⟨hvalue, hrest⟩ := List.pairwise_cons.mp hdistinct
    have hnext : addAll (value :: rest) list =
        addAll rest (SortedList.add (some value) list).state := by
      simp only [addAll, List.map_cons, Call.finalState]
      rw [perform, Call.bind_pure_apply]
    rw [hnext]
    rw [List.length_cons] at hroom
    cases hany : list.toList.any (· == value) with
    | true =>
      rw [(h.holds.add_refused_of_stored hany).state]
      simpa [hany] using ih hrest h (by omega)
    | false =>
      obtain ⟨before, after, hsplit, -, -, hafter⟩ := add_new h hany (by omega)
      have hsorted := (add_sorted h (some value)).1
      have hperm : (SortedList.add (some value) list).state.toList.Perm (value :: list.toList) := by
        rw [hafter, hsplit]
        exact List.perm_middle
      have hlength : (SortedList.add (some value) list).state.length = list.length + 1 := by
        rw [hsorted.holds.length_eq, hperm.length_eq, h.holds.length_eq, List.length_cons]
      obtain ⟨hlast, hstored⟩ := ih hrest hsorted (by omega)
      refine ⟨hlast, hstored.trans ?_⟩
      -- Whether a later value is stored does not hang on this one, which differs from it.
      have hsame : (rest.filter fun other =>
            !(SortedList.add (some value) list).state.toList.any (· == other)) =
          rest.filter fun other => !list.toList.any (· == other) := by
        apply List.filter_congr
        intro other hother
        rw [hperm.any_eq, List.any_cons, hvalue other hother, Bool.false_or]
      rw [hsame, List.filter_cons_of_pos (by simp [hany])]
      exact (hperm.append_right _).trans List.perm_middle.symm

/-- In which order different values are added does not show. -/
theorem addAll_eq_of_perm {values others : List α} (h : list.Sorted) (hdistinct : Distinct values)
    (hperm : values.Perm others) (hroom : list.length + values.length ≤ Bounds.count) :
    (addAll values list).toList = (addAll others list).toList := by
  obtain ⟨hfirst, hvalues⟩ := addAll_perm hdistinct h hroom
  obtain ⟨hsecond, hothers⟩ := addAll_perm (hdistinct.perm hperm) h (by rwa [← hperm.length_eq])
  apply hfirst.ascending.eq_of_perm hsecond.ascending
  exact hvalues.trans (((hperm.filter _).append_left _).trans hothers.symm)

/-- After any calls the values are in ascending order. One more is refused if and only if an equal
one is stored, and nothing changes then; else it goes behind the smaller ones, and its place is their
number, as long as there is room. A search finds the smallest value with a property, and this is what
is taken out by the property. And different values may be added in any order. -/
theorem sorted_finalState (calls : List (SortedCall α)) :
    let list := Call.finalState perform calls (SortedList.empty : SortedList α)
    Ascending list.toList ∧
    (∀ value, (SortedList.add (some value) list).result = .error .duplicateValue ↔
      ∃ stored ∈ list.toList, (stored == value) = true) ∧
    (∀ value, (SortedList.add value).Spares list) ∧
    (∀ value, (∀ stored ∈ list.toList, (stored == value) = false) → list.length < Bounds.count →
      ∃ before after, list.toList = before ++ after ∧
        before.length = list.toList.countP (compare · value == .lt) ∧
        (SortedList.add (some value) list).result = .ok before.length ∧
        (SortedList.add (some value) list).state.toList = before ++ value :: after) ∧
    (∀ property item, list.find? property = some item ↔ LeastSuch list.toList property item) ∧
    (∀ property, list.find? property = none ↔ ∀ stored ∈ list.toList, property stored = false) ∧
    (∀ property,
      let reply : Reply (SortedList α) SequenceError (Option α) :=
        SortedList.removeWhere property list
      reply.result = .ok (list.find? property) ∧
        (list.find? property = none → reply.state = list) ∧
        ∀ item, list.find? property = some item →
          ∃ before after, list.toList = before ++ item :: after ∧
            reply.state.toList = before ++ after) ∧
    ∀ values others, Distinct values → values.Perm others →
      list.length + values.length ≤ Bounds.count →
      (addAll values list).toList = (addAll others list).toList := by
  intro list
  have h : list.Sorted := finalState_sorted calls
  refine ⟨h.ascending, add_eq_duplicate_iff h, fun value => (add_sorted h value).2, ?_, ?_,
    list.find?_eq_none_iff, h.holds.removeWhere_eq_find?, ?_⟩
  · intro value hnew hroom
    exact add_new h (List.any_eq_false.mpr (by simpa using hnew)) hroom
  · intro property item
    exact h.ascending.find?_eq_some_iff
  · intro values others hdistinct hperm hroom
    exact addAll_eq_of_perm h hdistinct hperm hroom

/-- Two courses are in order whichever comes first. A third goes between them, but not under the name
and section of one of them; and of those with four credits the first is found. -/
theorem sorted_finalState_courses :
    let art : Course := ⟨"ART1", "Drawing", "001", 4, none, .arranged⟩
    let logic : Course := ⟨"LOG1", "Logic", "001", 4, none, .arranged⟩
    let again : Course := ⟨"LOG1", "Logic again", "001", 3, none, .arranged⟩
    let evening : Course := ⟨"ART1", "Drawing", "002", 3, none, .arranged⟩
    let list := Call.finalState perform [add (some logic), add (some art)]
      (SortedList.empty : SortedList Course)
    list.toList = [art, logic] ∧
      (SortedList.add (some again) list).result = .error .duplicateValue ∧
      (SortedList.add (some again) list).state = list ∧
      (∃ before after, [art, logic] = before ++ after ∧ before.length = 1 ∧
        (SortedList.add (some evening) list).result = .ok before.length ∧
        (SortedList.add (some evening) list).state.toList = before ++ evening :: after) ∧
      LeastSuch list.toList (·.credits == 4) art ∧
      (addAll [evening, again] list).toList = (addAll [again, evening] list).toList := by
  intro art logic again evening list
  have hlist : list.toList = [art, logic] := by decide +kernel
  have hfound : list.find? (·.credits == 4) = some art := by decide +kernel
  have hcount : list.toList.countP (compare · evening == .lt) = 1 := by decide +kernel
  have hdistinct : Distinct [evening, again] :=
    (by decide : [evening, again].Pairwise fun a b => (a == b) = false)
  obtain ⟨-, hstored, hspares, hnew, hleast, -, -, hany⟩ :=
    sorted_finalState [add (some logic), add (some art)]
  have hduplicate := (hstored again).mpr ⟨logic, by rw [hlist]; simp, by decide⟩
  obtain ⟨before, after, hsplit, hlength, hresult, hafter⟩ :=
    hnew evening (by rw [hlist]; decide) (by decide +kernel)
  rw [hlist] at hsplit
  rw [hcount] at hlength
  exact ⟨hlist, hduplicate, hspares (some again) _ hduplicate,
    ⟨before, after, hsplit, hlength, hresult, hafter⟩, (hleast _ _).mp hfound,
    hany [evening, again] [again, evening] hdistinct (List.Perm.swap _ _ _) (by decide +kernel)⟩

end SortedCall

end Enrollment
