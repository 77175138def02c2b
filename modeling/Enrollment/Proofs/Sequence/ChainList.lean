import Enrollment.Proofs.Sequence.Chain

/-!
The chain of nodes works as the plain list does: a walk from the front meets the values of the
chain in order, and every operation that changes the chain changes the list in the same way.
-/
namespace Enrollment.ChainList

variable {α : Type}

/-- A walk that is given steps enough meets every value up to the end of the chain. -/
theorem walk_of_links {list : ChainList α} {place : Option Nat} {chain : List (Nat × α)}
    (h : Links list.node? place chain none) {steps : Nat} (hsteps : chain.length ≤ steps)
    (remaining : Nat) :
    list.walk steps ⟨place, remaining⟩ =
      (chain.map Prod.snd, ⟨none, remaining - chain.length⟩) := by
  induction chain generalizing place steps remaining with
  | nil =>
    obtain rfl : place = none := h
    cases steps <;> rfl
  | cons first rest ih =>
    obtain ⟨here, value⟩ := first
    obtain ⟨rfl, next, hnode, hrest⟩ := h
    cases steps with
    | zero => cases hsteps
    | succ steps =>
      have hnext : list.next? ⟨some here, remaining⟩ = some (value, ⟨next, remaining - 1⟩) := by
        simp [next?, hnode]
      have hwalk := ih hrest (Nat.le_of_succ_le_succ hsteps) (remaining - 1)
      simp only [walk, hnext, hwalk, List.map_cons, List.length_cons]
      congr 2
      omega

section Linked

variable {list : ChainList α} {chain : List (Nat × α)}

theorem Linked.toList (h : list.Linked chain) : list.toList = chain.map Prod.snd := by
  have hsize : chain.length ≤ list.nodes.size := by
    have hlength := h.arena.places.length_eq
    simp at hlength
    omega
  rw [ChainList.toList, start, walk_of_links h.links hsize]

theorem Linked.size_eq (h : list.Linked chain) : list.size = (chain.map Prod.snd).length := by
  rw [h.size, List.length_map]

theorem Linked.get (h : list.Linked chain) (index : Nat) :
    list.get index = CappedList.get ⟨chain.map Prod.snd, list.capacity⟩ index := by
  simp only [ChainList.get, CappedList.get, h.size_eq, checkIndex]
  cases Nat.lt_or_ge index chain.length with
  | inl hindex =>
    obtain ⟨before, ⟨place, value⟩, after, rfl, rfl⟩ := exists_append_cons_of_lt hindex
    obtain ⟨next, hplace, hnode, -⟩ := h.at
    simp [hplace, hnode, bind, Except.bind, pure, Except.pure]
  | inr hindex =>
    simp [Nat.not_lt.mpr hindex, bind, Except.bind]

theorem Linked.set {before after : List (Nat × α)} {place : Nat} {value : α} {next : Option Nat}
    (h : list.Linked (before ++ (place, value) :: after))
    (hnode : list.node? place = some ⟨value, next⟩) (item : α) :
    Linked { list with nodes := list.nodes.setIfInBounds place (some ⟨item, next⟩) }
      (before ++ (place, item) :: after) := by
  have hused : place ∈ (before ++ (place, value) :: after).map Prod.fst := by simp
  have hplaces := h.nodup
  simp only [List.map_append, List.map_cons, List.nodup_append, List.nodup_cons] at hplaces
  obtain ⟨-, ⟨hplaceAfter, -⟩, hdisjoint⟩ := hplaces
  have hplaceBefore : place ∉ before.map Prod.fst := fun hmem =>
    hdisjoint place hmem place List.mem_cons_self rfl
  obtain ⟨between, hbefore, rfl, next', hnode', hafter⟩ := (links_append _ _).mp h.links
  obtain rfl : next = next' := by simpa [hnode] using hnode'
  have hlt := h.arena.lt_size (List.mem_append_left _ hused)
  have hnode? := node?_setIfInBounds hlt (some ⟨item, next⟩) list.free
  refine ⟨?_, ?_, ?_, ?_⟩
  · rw [hnode?]
    refine (links_append _ _).mpr ⟨some place, hbefore.update hplaceBefore _, rfl, next, ?_, ?_⟩
    · simp
    · exact hafter.update hplaceAfter _
  · cases after <;> simpa [List.getLast?_cons] using h.back
  · simpa using h.size
  · simpa using h.arena.write hused (some ⟨item, next⟩)

end Linked

def Sound (list : ChainList α) : Prop := ∃ chain, list.Linked chain

theorem Linked.sound {list : ChainList α} {chain : List (Nat × α)} (h : list.Linked chain) :
    list.Sound := ⟨chain, h⟩

variable [BEq α]

theorem Linked.plain {list : ChainList α} {chain : List (Nat × α)} (h : list.Linked chain) :
    BoundedSeq.plain list = ⟨chain.map Prod.snd, list.capacity⟩ := by
  simp [BoundedSeq.plain, BoundedSeq.toList, BoundedSeq.capacity, h.toList]

theorem insert_follows {list : ChainList α} (h : list.Sound) (index : Nat) (value : Option α) :
    Follows Sound (ChainList.insert index value) (CappedList.insert index value) list := by
  obtain ⟨chain, h⟩ := h
  have hmodel := CappedList.insert_apply index value (BoundedSeq.plain list)
  rw [h.plain] at hmodel
  cases hcheck : checkInsert (chain.map Prod.snd) (chain.map Prod.snd).length list.capacity index
      value with
  | error e =>
    rw [hcheck] at hmodel
    refine Follows.of_unchanged _ ?_ (by rw [h.plain, hmodel]) h.sound
    simp only [insert, Call.current_bind, h.toList, h.size_eq, hcheck, Call.ofExcept_error,
      Call.refuse_bind]
  | ok item =>
    rw [hcheck] at hmodel
    obtain ⟨-, -, hindex, -⟩ := checkInsert_eq_ok hcheck
    rw [List.length_map] at hindex
    obtain ⟨before, after, rfl, rfl⟩ := exists_append_of_le hindex
    obtain ⟨longer, place, hlink, hlinked, hcapacity⟩ := linkAt_eq h item
    refine Follows.of_ok () [] ?_ ?_ hlinked.sound rfl
    · simp only [insert, Call.current_bind, h.toList, h.size_eq, hcheck, Call.ofExcept_ok,
        Call.pure_bind, hlink]
    · have hinsert := insertIdx_length_append (before.map Prod.snd) (after.map Prod.snd) item
      rw [List.length_map] at hinsert
      rw [h.plain, hmodel, hlinked.plain, hcapacity]
      simp [hinsert]

theorem removeAt_follows {list : ChainList α} (h : list.Sound) (index : Nat) :
    Follows Sound (ChainList.removeAt index) (CappedList.removeAt index) list := by
  obtain ⟨chain, h⟩ := h
  have hmodel := CappedList.removeAt_apply index (BoundedSeq.plain list)
  rw [h.plain] at hmodel
  cases Nat.lt_or_ge index chain.length with
  | inl hindex =>
    obtain ⟨before, ⟨place, value⟩, after, rfl, rfl⟩ := exists_append_cons_of_lt hindex
    obtain ⟨shorter, hunlink, hlinked, hcapacity⟩ := unlinkAt_eq h
    refine Follows.of_ok value [] ?_ ?_ hlinked.sound rfl
    · have hcheck : checkIndex before.length list.size = .ok () := by simp [checkIndex, h.size]
      simp only [removeAt, Call.current_bind, hcheck, Call.ofExcept_ok, Call.pure_bind, hunlink]
    · have herase := eraseIdx_length_append (before.map Prod.snd) (after.map Prod.snd) value
      rw [List.length_map] at herase
      rw [h.plain, hmodel, hlinked.plain, hcapacity]
      simp [herase]
  | inr hindex =>
    refine Follows.of_unchanged (.error (.indexOutOfRange index chain.length)) ?_ ?_ h.sound
    · have hcheck : checkIndex index list.size = .error (.indexOutOfRange index chain.length) := by
        simp [checkIndex, h.size, Nat.not_lt.mpr hindex]
      simp only [removeAt, Call.current_bind, hcheck, Call.ofExcept_error, Call.refuse_bind]
    · rw [h.plain, hmodel]
      simp [hindex]

theorem setCapacity_follows {list : ChainList α} (h : list.Sound) (capacity : Nat) :
    Follows Sound (ChainList.setCapacity capacity) (CappedList.setCapacity capacity) list := by
  obtain ⟨chain, h⟩ := h
  have hmodel := CappedList.setCapacity_apply capacity (BoundedSeq.plain list)
  rw [h.plain, ← h.size_eq] at hmodel
  have hchanged : Linked { list with capacity } chain := ⟨h.links, h.back, h.size, h.arena⟩
  by_cases hcapacity : capacity < list.size
  · rw [if_pos hcapacity] at hmodel
    refine Follows.of_unchanged (.error (.invalidCapacity capacity list.size)) ?_
      (by rw [h.plain, hmodel]) h.sound
    simp [setCapacity, hcapacity]
  · rw [if_neg hcapacity] at hmodel
    refine Follows.of_ok () [] ?_ (by rw [h.plain, hmodel, hchanged.plain])
      hchanged.sound rfl
    simp [setCapacity, hcapacity]

theorem set_follows [PartialEquivBEq α] {list : ChainList α} (h : list.Sound)
    (hdistinct : Distinct list.toList) (index : Nat) (value : Option α) :
    Follows Sound (ChainList.set index value) (CappedList.set index value) list := by
  obtain ⟨chain, h⟩ := h
  rw [h.toList] at hdistinct
  obtain ⟨e, hcheck, hmodel⟩ | ⟨item, previous, hprevious, hcheck, hmodel⟩ :=
    @CappedList.set_cases _ _ _ ⟨chain.map Prod.snd, list.capacity⟩ hdistinct index value
  · refine Follows.of_unchanged _ ?_ (by rw [h.plain, hmodel]) h.sound
    simp only [ChainList.set, Call.current_bind, h.toList, h.size_eq, hcheck, Call.ofExcept_error,
      Call.refuse_bind]
  · have hindex := (List.getElem?_eq_some_iff.mp hprevious).1
    rw [List.length_map] at hindex
    obtain ⟨before, ⟨place, value⟩, after, rfl, rfl⟩ := exists_append_cons_of_lt hindex
    obtain ⟨next, hplace, hnode, -⟩ := h.at
    obtain rfl : value = previous := by simpa using hprevious
    have hset := h.set hnode item
    refine Follows.of_ok value [] ?_ ?_ hset.sound rfl
    · simp only at hcheck
      simp only [ChainList.set, Call.current_bind, h.toList, h.size_eq, hcheck, Call.ofExcept_ok,
        Call.pure_bind]
      simp [hplace, hnode]
    · rw [h.plain, hmodel, hset.plain]
      simp

instance : LawfulSeq (ChainList α) α where
  Sound := Sound
  sound_bounded capacity := (linked_withCapacity capacity).sound
  plain_bounded capacity := (linked_withCapacity capacity).plain
  length_eq := by
    intro list ⟨chain, h⟩
    exact h.size_eq.trans (congrArg List.length h.toList.symm)
  get_eq := by
    intro list index ⟨chain, h⟩
    rw [h.plain]
    exact h.get index
  insert_follows index value h := insert_follows h index value
  set_follows index value h hdistinct := set_follows h hdistinct index value
  removeAt_follows index h := removeAt_follows h index
  setCapacity_follows capacity h := setCapacity_follows h capacity
  sound_clear := fun _ => (linked_withCapacity _).sound
  plain_clear := fun _ => (linked_withCapacity _).plain

end Enrollment.ChainList
