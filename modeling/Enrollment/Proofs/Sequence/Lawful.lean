import Enrollment.Proofs.Run
import Enrollment.Sequence.CappedList
import Enrollment.Sequence.Carry
import Mathlib.Data.List.Pairwise
import Mathlib.Data.List.Perm.Basic

/-!
Storages that work as the plain list does: what a sound storage answers, what it then holds, and
that it stays sound, are read off the list and the capacity it stands for.
-/
namespace Enrollment

def Distinct {α : Type} [BEq α] (values : List α) : Prop :=
  values.Pairwise fun a b => (a == b) = false

namespace Distinct

variable {α : Type} [BEq α] {items : List α} {index : Nat} {item : α}

theorem sublist {fewer : List α} (h : Distinct items) (hsub : fewer.Sublist items) :
    Distinct fewer :=
  List.Pairwise.sublist hsub h

theorem any_eq_false {before after : List α} (h : Distinct (before ++ item :: after)) :
    before.any (· == item) = false := by
  rw [List.any_eq_false]
  intro other hother
  simpa using (List.pairwise_append.mp h).2.2 other hother item List.mem_cons_self

theorem eq_of_beq [PartialEquivBEq α] {a b : α} (h : Distinct items) (ha : a ∈ items)
    (hb : b ∈ items) (heq : (a == b) = true) : a = b := by
  have hsymm : Std.Symm fun a b : α => (a == b) = false := ⟨fun a b hab => by rwa [BEq.comm]⟩
  by_contra hne
  have hdiffer := List.Pairwise.forall h ha hb hne
  rw [heq] at hdiffer
  cases hdiffer

theorem nodup [ReflBEq α] (h : Distinct items) : items.Nodup := by
  refine List.Pairwise.imp ?_ h
  intro a b hne heq
  rw [heq, BEq.rfl] at hne
  cases hne

theorem perm [PartialEquivBEq α] {others : List α} (h : Distinct items)
    (hperm : items.Perm others) : Distinct others := by
  have hsymm : ∀ {a b : α}, (a == b) = false → (b == a) = false := by
    intro a b hab
    rwa [BEq.comm]
  exact (hperm.pairwise_iff hsymm).mp h

theorem cons [PartialEquivBEq α] (h : Distinct items) (hany : items.any (· == item) = false) :
    Distinct (item :: items) := by
  rw [List.any_eq_false] at hany
  refine List.pairwise_cons.mpr ⟨?_, h⟩
  intro other hother
  have hne := hany other hother
  rw [BEq.comm]
  simpa using hne

theorem append_singleton [PartialEquivBEq α] (h : Distinct items)
    (hany : items.any (· == item) = false) : Distinct (items ++ [item]) :=
  (h.cons hany).perm (List.perm_append_singleton item items).symm

theorem insertIdx [PartialEquivBEq α] (h : Distinct items)
    (hany : items.any (· == item) = false) (hindex : index ≤ items.length) :
    Distinct (items.insertIdx index item) :=
  (h.cons hany).perm (List.perm_insertIdx item items hindex).symm

theorem set [PartialEquivBEq α] (h : Distinct items)
    (hany : (items.eraseIdx index).any (· == item) = false) (hindex : index < items.length) :
    Distinct (items.set index item) :=
  ((h.sublist (List.eraseIdx_sublist items index)).cons hany).perm
    (List.set_perm_cons_eraseIdx hindex item).symm

end Distinct

theorem exists_append_of_le {α : Type} {items : List α} {index : Nat} (h : index ≤ items.length) :
    ∃ before after, items = before ++ after ∧ before.length = index :=
  ⟨items.take index, items.drop index, (List.take_append_drop index items).symm,
    List.length_take_of_le h⟩

theorem exists_append_cons_of_lt {α : Type} {items : List α} {index : Nat}
    (h : index < items.length) :
    ∃ before item after, items = before ++ item :: after ∧ before.length = index := by
  obtain ⟨before, after, rfl, hlength⟩ := exists_append_of_le (Nat.le_of_lt h)
  cases after with
  | nil =>
    rw [List.append_nil] at h
    omega
  | cons item after => exact ⟨before, item, after, rfl, hlength⟩

/-- What is found by a property, and what is left without it, in terms of where it is found. -/
theorem find?_eraseP_cases {α : Type} (items : List α) (property : α → Bool) :
    (items.findIdx? property = none ∧ items.find? property = none ∧
      items.eraseP property = items) ∨
    ∃ index item, items.findIdx? property = some index ∧ items[index]? = some item ∧
      items.find? property = some item ∧ items.eraseP property = items.eraseIdx index := by
  have hrest := @List.eraseP_eq_eraseIdx _ items property
  cases hfound : items.findIdx? property with
  | none =>
    rw [hfound] at hrest
    refine .inl ⟨rfl, ?_, hrest⟩
    rw [List.find?_eq_none]
    simpa using List.findIdx?_eq_none_iff.mp hfound
  | some index =>
    rw [hfound] at hrest
    obtain ⟨hlt, hitem, hfirst⟩ := List.findIdx?_eq_some_iff_getElem.mp hfound
    refine .inr ⟨index, items[index], rfl, List.getElem?_eq_getElem hlt, ?_, hrest⟩
    refine List.find?_eq_some_iff_getElem.mpr ⟨hitem, index, hlt, rfl, ?_⟩
    intro j hj
    simpa using hfirst j hj

structure SoleMatch {α : Type} [BEq α] (values : List α) (value stored : α)
    (before after : List α) : Prop where
  eq_append : values = before ++ stored :: after
  equal : (stored == value) = true
  others : ∀ other ∈ before ++ after, (other == value) = false

/-- Where no two values are equal, the first to equal a given one is the only one. -/
theorem Distinct.exists_soleMatch {α : Type} [BEq α] [PartialEquivBEq α] {values : List α}
    {value stored : α} {index : Nat} (h : Distinct values)
    (hfound : values.findIdx? (· == value) = some index)
    (hstored : values[index]? = some stored) :
    ∃ before after, SoleMatch values value stored before after ∧
      values.eraseIdx index = before ++ after := by
  obtain ⟨hlt, heq, -⟩ := List.findIdx?_eq_some_iff_getElem.mp hfound
  obtain ⟨before, found, after, rfl, rfl⟩ := exists_append_cons_of_lt hlt
  obtain rfl : found = stored := by simpa using hstored
  have hequal : (found == value) = true := by simpa using heq
  refine ⟨before, after, ⟨rfl, hequal, ?_⟩, ?_⟩
  · intro other hother
    have hne := (List.pairwise_cons.mp (h.perm List.perm_middle)).1 other hother
    rwa [BEq.congr_left hequal, BEq.comm] at hne
  · exact eraseIdx_length_append before after found

section Checks

variable {α : Type} [BEq α]

/-- Where no two stored values are equal, the first to equal a value is elsewhere if any other
is. -/
theorem any_eraseIdx_eq [PartialEquivBEq α] {stored : List α} (h : Distinct stored) (index : Nat)
    (item : α) :
    (stored.eraseIdx index).any (· == item) = true ↔
      ∃ place, stored.findIdx? (· == item) = some place ∧ place ≠ index := by
  simp only [List.any_eq_true, List.mem_eraseIdx_iff_getElem]
  constructor
  · intro h
    obtain ⟨_, ⟨i, hi, hne, rfl⟩, heq⟩ := h
    have hsome : (stored.findIdx? (· == item)).isSome := by
      rw [List.findIdx?_isSome, List.any_eq_true]
      exact ⟨_, List.getElem_mem hi, heq⟩
    obtain ⟨place, hplace⟩ := Option.isSome_iff_exists.mp hsome
    refine ⟨place, hplace, ?_⟩
    intro hsame
    subst hsame
    obtain ⟨hlt, hitem, hfirst⟩ := List.findIdx?_eq_some_iff_getElem.mp hplace
    have horder : place < i := by
      by_contra hle
      exact hfirst i (by omega) heq
    have hdiffer := List.pairwise_iff_getElem.mp h place i hlt hi horder
    rw [PartialEquivBEq.trans hitem (PartialEquivBEq.symm heq)] at hdiffer
    cases hdiffer
  · intro ⟨place, hplace, hne⟩
    obtain ⟨hlt, hitem, -⟩ := List.findIdx?_eq_some_iff_getElem.mp hplace
    exact ⟨_, ⟨place, hlt, hne, rfl⟩, hitem⟩

theorem lt_of_checkSet {stored : List α} {size index : Nat} {value : Option α} {item : α}
    (hcheck : checkSet stored size index value = .ok item) : index < size := by
  by_contra hindex
  cases value with
  | none => cases hcheck
  | some value => simp [checkSet, checkIndex, hindex, bind, Except.bind] at hcheck

theorem checkSet_eq [PartialEquivBEq α] {stored : List α} (h : Distinct stored) (index : Nat)
    (item : α) :
    checkSet stored stored.length index (some item) =
      if stored.length ≤ index then .error (.indexOutOfRange index stored.length)
      else if (stored.eraseIdx index).any (· == item) then .error .duplicateValue
      else .ok item := by
  have hany := any_eraseIdx_eq h index item
  simp only [checkSet, checkIndex]
  by_cases hlt : index < stored.length
  · rw [if_pos hlt, if_neg (by omega)]
    cases hfind : stored.findIdx? (· == item) with
    | none =>
      rw [if_neg (by simp [hany, hfind])]
      rfl
    | some place =>
      by_cases hplace : place = index
      · rw [if_neg (by simp [hany, hfind, hplace])]
        simp [bind, Except.bind, hplace]
      · rw [if_pos (by simp [hany, hfind, hplace])]
        simp [bind, Except.bind, hplace]
  · rw [if_neg hlt, if_pos (by omega)]
    rfl

/-- A replacement is refused as the check refuses it, or replaces the value at an index that has
one. -/
theorem CappedList.set_cases [PartialEquivBEq α] {list : CappedList α} (h : Distinct list.items)
    (index : Nat) (value : Option α) :
    (∃ e, checkSet list.items list.items.length index value = .error e ∧
      set index value list = ⟨.error e, list, []⟩) ∨
    ∃ item previous, list.items[index]? = some previous ∧
      checkSet list.items list.items.length index value = .ok item ∧
      set index value list =
        ⟨.ok previous, { list with items := list.items.set index item }, []⟩ := by
  cases value with
  | none => exact .inl ⟨_, rfl, rfl⟩
  | some item =>
    rw [checkSet_eq h]
    simp only [set, Call.current_bind]
    cases hget : list.items[index]? with
    | none =>
      rw [List.getElem?_eq_none_iff] at hget
      exact .inl ⟨_, if_pos hget, rfl⟩
    | some previous =>
      obtain ⟨hlt, -⟩ := List.getElem?_eq_some_iff.mp hget
      rw [if_neg (by omega)]
      split
      · exact .inl ⟨_, rfl, rfl⟩
      · exact .inr ⟨item, previous, rfl, rfl, rfl⟩

end Checks

section Plain

variable {S α β γ ε : Type} [BoundedSeq S α]

def BoundedSeq.plain (s : S) : CappedList α := ⟨toList s, capacity s⟩

open BoundedSeq

/-- A call that works on a storage as another does on the list it stands for.  Refused, it changes
nothing; and all it gives notice of is inner workings. -/
structure Follows (Sound : S → Prop) (call : Call S ε β) (model : Call (CappedList α) ε β)
    (s : S) : Prop where
  result : (call s).result = (model (plain s)).result
  plain : plain (call s).state = (model (plain s)).state
  sound : Sound (call s).state
  refused : call.Spares s
  quiet : Notice.heard (call s).notices = []

section

variable {Sound : S → Prop} {call : Call S ε β} {model : Call (CappedList α) ε β} {s t : S}

theorem Follows.of_ok (b : β) (notices : List Notice) (hcall : call s = ⟨.ok b, t, notices⟩)
    (hmodel : model (BoundedSeq.plain s) = ⟨.ok b, BoundedSeq.plain t, []⟩) (hsound : Sound t)
    (hquiet : Notice.heard notices = []) : Follows Sound call model s where
  result := by rw [hcall, hmodel]
  plain := by rw [hcall, hmodel]
  sound := by rwa [hcall]
  refused e he := by simp [hcall] at he
  quiet := by rwa [hcall]

theorem Follows.of_unchanged (result : Except ε β) (hcall : call s = ⟨result, s, []⟩)
    (hmodel : model (BoundedSeq.plain s) = ⟨result, BoundedSeq.plain s, []⟩)
    (hsound : Sound s) : Follows Sound call model s where
  result := by rw [hcall, hmodel]
  plain := by rw [hcall, hmodel]
  sound := by rwa [hcall]
  refused _ _ := by rw [hcall]
  quiet := by rw [hcall]; rfl

theorem Follows.reply (h : Follows Sound call model s) :
    ∃ t notices, call s = ⟨(model (BoundedSeq.plain s)).result, t, notices⟩ ∧ Sound t ∧
      BoundedSeq.plain t = (model (BoundedSeq.plain s)).state ∧ Notice.heard notices = [] :=
  ⟨(call s).state, (call s).notices, by rw [← h.result], h.sound, h.plain, h.quiet⟩

theorem Follows.reply_refused {e : ε} {list : CappedList α} {remarks : List Notice}
    (h : Follows Sound call model s)
    (hmodel : model (BoundedSeq.plain s) = ⟨.error e, list, remarks⟩) :
    ∃ notices, call s = ⟨.error e, s, notices⟩ ∧ Notice.heard notices = [] := by
  have hresult : (call s).result = .error e := by rw [h.result, hmodel]
  have hstate := h.refused e hresult
  refine ⟨(call s).notices, ?_, h.quiet⟩
  calc call s = ⟨(call s).result, (call s).state, (call s).notices⟩ := rfl
    _ = ⟨.error e, s, (call s).notices⟩ := by rw [hresult, hstate]

/-- On one state, only what the calls do there matters. -/
theorem Follows.congr {call' : Call S ε β} {model' : Call (CappedList α) ε β}
    (h : Follows Sound call model s) (hcall : call' s = call s)
    (hmodel : model' (BoundedSeq.plain s) = model (BoundedSeq.plain s)) :
    Follows Sound call' model' s := by
  refine ⟨?_, ?_, ?_, ?_, ?_⟩
  · rw [hcall, hmodel, h.result]
  · rw [hcall, hmodel, h.plain]
  · rw [hcall]
    exact h.sound
  · intro e
    rw [hcall]
    exact h.refused e
  · rw [hcall]
    exact h.quiet

theorem Follows.map (h : Follows Sound call model s) (f : β → γ) :
    Follows Sound (do return f (← call)) (do return f (← model)) s := by
  refine ⟨?_, ?_, ?_, ?_, ?_⟩
  · rw [Call.bind_pure_apply, Call.bind_pure_apply, h.result]
  · rw [Call.bind_pure_apply, Call.bind_pure_apply, h.plain]
  · rw [Call.bind_pure_apply]
    exact h.sound
  · exact h.refused.map f
  · rw [Call.bind_pure_apply]
    exact h.quiet

end

/-- A storage whose operations, as long as it is sound, follow those of the plain list.  Only
replacing a value asks for more: that no two stored values are equal. -/
class LawfulSeq (S : Type) (α : outParam Type) [BEq α] [BoundedSeq S α] where
  Sound : S → Prop
  sound_bounded (capacity : Nat) : Sound (bounded capacity)
  plain_bounded (capacity : Nat) : plain (bounded capacity : S) = CappedList.empty capacity
  length_eq {s : S} : Sound s → length s = (toList s).length
  get_eq {s : S} (index : Nat) : Sound s → BoundedSeq.get s index = (plain s).get index
  insert_follows {s : S} (index : Nat) (value : Option α) : Sound s →
    Follows Sound (BoundedSeq.insert index value) (CappedList.insert index value) s
  set_follows [PartialEquivBEq α] {s : S} (index : Nat) (value : Option α) : Sound s →
    Distinct (toList s) →
    Follows Sound (BoundedSeq.set index value) (CappedList.set index value) s
  removeAt_follows {s : S} (index : Nat) : Sound s →
    Follows Sound (BoundedSeq.removeAt index) (CappedList.removeAt index) s
  setCapacity_follows {s : S} (capacity : Nat) : Sound s →
    Follows Sound (BoundedSeq.setCapacity capacity) (CappedList.setCapacity capacity) s
  sound_clear {s : S} : Sound s → Sound (BoundedSeq.clear s)
  plain_clear {s : S} : Sound s → plain (BoundedSeq.clear s) = (plain s).clear

end Plain

theorem BoundedSeq.contains_eq {S α : Type} [BEq α] [BoundedSeq S α] (s : S) (value : α) :
    contains s value = (toList s).any (· == value) := by
  rw [contains, position, List.findIdx?_isSome]

namespace LawfulSeq

open BoundedSeq

variable {S α ε : Type} [BEq α] [BoundedSeq S α] [LawfulSeq S α] {s : S}

theorem push_follows (h : Sound s) (value : Option α) :
    Follows Sound (push value) (CappedList.push value) s := by
  have hmodel : CappedList.push value (plain s) =
      CappedList.insert (length s) value (plain s) := by
    rw [CappedList.push_apply, length_eq h]
    rfl
  exact (insert_follows (length s) value h).congr rfl hmodel

theorem removeItem_follows (h : Sound s) (value : α) :
    Follows Sound (removeItem value : Call S ε (Option α)) (CappedList.removeItem value) s := by
  have hmodel : (CappedList.removeItem value : Call (CappedList α) ε (Option α)) (plain s) =
      ⟨.ok ((toList s).find? (· == value)), ⟨(toList s).eraseP (· == value), capacity s⟩, []⟩ :=
    CappedList.removeItem_apply value (plain s)
  obtain ⟨hplace, hfind, herase⟩ | ⟨index, item, hplace, hitem, hfind, herase⟩ :=
    find?_eraseP_cases (toList s) (· == value)
  · rw [hfind, herase] at hmodel
    refine Follows.of_unchanged (.ok none) ?_ hmodel h
    simp [removeItem, position, hplace]
  · have hat : CappedList.removeAt index (plain s) =
        ⟨.ok item, ⟨(toList s).eraseIdx index, capacity s⟩, []⟩ := by
      have hplain : (plain s).items[index]? = some item := hitem
      rw [CappedList.removeAt_apply, hplain]
      rfl
    obtain ⟨t, notices, hremove, hsound, hplain, hquiet⟩ := (removeAt_follows index h).reply
    rw [hat] at hremove hplain
    refine Follows.of_ok (some item) notices ?_ ?_ hsound hquiet
    · simp only [removeItem, Call.current_bind, position, hplace]
      exact Call.attempt_of_eq hremove
    · rw [hmodel, hfind, herase, hplain]

end LawfulSeq

end Enrollment
