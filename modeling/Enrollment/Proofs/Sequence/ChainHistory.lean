import Enrollment.Proofs.Sequence.Agreement

/-!
The arena after every history of calls.  The links lead from the front to the back over all places
in use, the free list holds the others, and the arena is as large as the chain has been at most; so
a walk along the chain ends, and knows at any time how many values are to come.
-/
namespace Enrollment

namespace ChainList

variable {α : Type}

section Growth

variable {list after : ChainList α} {chain : List (Nat × α)}

theorem Linked.nodes_size (h : list.Linked chain) :
    list.nodes.size = list.size + list.free.length := by
  have hlength := h.arena.places.length_eq
  simp at hlength
  rw [h.size, hlength]

theorem Sound.size_le (h : list.Sound) : list.size ≤ list.nodes.size := by
  obtain ⟨chain, h⟩ := h
  rw [h.nodes_size]
  exact Nat.le_add_right _ _

/-- Where the arena does not change in size, it holds the chain that is left. -/
theorem Sound.size_eq_max (h : after.Sound) (hsize : after.nodes.size = list.nodes.size) :
    after.nodes.size = max list.nodes.size after.size := by
  have hle := h.size_le
  omega

theorem allocate_size (list : ChainList α) (node : Node α) :
    (list.allocate node).2.size = list.size := by
  cases h : list.free <;> simp [allocate, h]

theorem Linked.nodes_size_allocate (h : list.Linked chain) (node : Node α) :
    (list.allocate node).2.nodes.size = max list.nodes.size (list.size + 1) := by
  have hsize := h.nodes_size
  cases hfree : list.free with
  | nil =>
    simp [hfree] at hsize
    simp [allocate, hfree]
    omega
  | cons place free =>
    simp [hfree] at hsize
    simp [allocate, hfree]
    omega

theorem nodes_size_relink (list : ChainList α) (place : Nat) (next : Option Nat) :
    (list.relink place next).nodes.size = list.nodes.size := by
  cases h : list.node? place <;> simp [relink, h]

/-- A value that is linked in takes a free place, or the arena grows by one. -/
theorem Linked.nodes_size_linkAt (h : list.Linked chain) {index : Nat} {value : α}
    (hlink : linkAt index value list = ⟨.ok (), after, []⟩) :
    after.nodes.size = max list.nodes.size after.size := by
  have hallocate := h.nodes_size_allocate
  simp only [linkAt, Call.current_bind] at hlink
  by_cases hfront : index = 0
  · rw [if_pos hfront] at hlink
    cases hlink
    simp [hallocate, allocate_size]
  · rw [if_neg hfront] at hlink
    by_cases hend : index = list.size
    · rw [if_pos hend] at hlink
      simp only [Call.become_bind] at hlink
      cases hback : (list.allocate ⟨value, none⟩).2.back with
      | none =>
        rw [hback] at hlink
        cases hlink
      | some tail =>
        rw [hback] at hlink
        cases hlink
        simp [nodes_size_relink, hallocate, allocate_size]
    · rw [if_neg hend] at hlink
      cases hplace : list.place? (index - 1) with
      | none =>
        rw [hplace] at hlink
        cases hlink
      | some before =>
        rw [hplace] at hlink
        cases hlink
        simp [nodes_size_relink, hallocate, allocate_size]

theorem nodes_size_unlinkAt (index : Nat) (list : ChainList α) :
    (unlinkAt index list).state.nodes.size = list.nodes.size := by
  cases haround : list.around? index with
  | none => simp [unlinkAt, haround]
  | some around =>
    obtain ⟨before, place⟩ := around
    cases hnode : list.node? place with
    | none => simp [unlinkAt, haround, release?, hnode]
    | some node =>
      cases before <;> simp [unlinkAt, haround, release?, hnode, nodes_size_relink]

theorem nodes_size_removeAt (index : Nat) (list : ChainList α) :
    (removeAt index list).state.nodes.size = list.nodes.size := by
  cases hcheck : checkIndex index list.size <;>
    simp [removeAt, hcheck, nodes_size_unlinkAt]

end Growth

/-- Some places are those of a chain in order: the links from the front lead over just these, all
different, to the back and no further; they are the occupied places; and the free list holds the
empty ones, each once. -/
structure Threaded (list : ChainList α) (places : List Nat) : Prop where
  place? : ∀ steps, list.place? steps = places[steps]?
  length : places.length = list.size
  nodup : places.Nodup
  mem_iff : ∀ place, place ∈ places ↔ (list.node? place).isSome = true
  back : list.back = places.getLast?
  last : ∀ place, list.back = some place → ∃ value, list.node? place = some ⟨value, none⟩
  front_eq_none : list.front = none ↔ list.size = 0
  back_eq_none : list.back = none ↔ list.size = 0
  free_nodup : list.free.Nodup
  mem_free : ∀ place, place ∈ list.free ↔ place < list.nodes.size ∧ list.node? place = none
  nodes_size : list.nodes.size = list.size + list.free.length

inductive Gives (list : ChainList α) : Cursor → List α → Prop
  | done {cursor : Cursor} (hnext : list.next? cursor = none) : Gives list cursor []
  | value {cursor next : Cursor} {value : α} {rest : List α}
      (hnext : list.next? cursor = some (value, next)) (hrest : Gives list next rest) :
      Gives list cursor (value :: rest)

section Walk

variable {list : ChainList α} {chain : List (Nat × α)}

theorem gives_of_links {place : Option Nat} (h : Links list.node? place chain none)
    (remaining : Nat) : list.Gives ⟨place, remaining⟩ (chain.map Prod.snd) := by
  induction chain generalizing place remaining with
  | nil =>
    obtain rfl : place = none := h
    exact .done rfl
  | cons first rest ih =>
    obtain ⟨here, value⟩ := first
    obtain ⟨rfl, next, hnode, hrest⟩ := h
    refine .value ?_ (ih hrest (remaining - 1))
    simp [next?, hnode]

/-- A walk stands before the values it has not met, and knows how many they are. -/
theorem walk_take {place : Option Nat} (h : Links list.node? place chain none) (steps : Nat) :
    ∃ next, Links list.node? next (chain.drop steps) none ∧
      list.walk steps ⟨place, chain.length⟩ =
        ((chain.take steps).map Prod.snd, ⟨next, (chain.drop steps).length⟩) := by
  induction steps generalizing place chain with
  | zero => exact ⟨place, h, rfl⟩
  | succ steps ih =>
    cases chain with
    | nil =>
      obtain rfl : place = none := h
      exact ⟨none, rfl, rfl⟩
    | cons first rest =>
      obtain ⟨here, value⟩ := first
      obtain ⟨rfl, next, hnode, hrest⟩ := h
      obtain ⟨stop, hstop, hwalk⟩ := ih hrest
      refine ⟨stop, hstop, ?_⟩
      simp [walk, next?, hnode, hwalk]

theorem Linked.place?_eq (h : list.Linked chain) (steps : Nat) :
    list.place? steps = (chain.map Prod.fst)[steps]? := by
  cases Nat.lt_or_ge steps chain.length with
  | inl hlt =>
    obtain ⟨before, ⟨place, value⟩, after, rfl, rfl⟩ := exists_append_cons_of_lt hlt
    obtain ⟨next, hplace, -⟩ := h.at
    simp [hplace]
  | inr hle =>
    rw [List.getElem?_eq_none (by simpa using hle)]
    induction hle with
    | refl => exact place?_of_links h.links
    | step hle ih => simp [place?, ih]

theorem Linked.mem_places_iff (h : list.Linked chain) (place : Nat) :
    place ∈ chain.map Prod.fst ↔ (list.node? place).isSome = true := by
  constructor
  · intro hmem
    obtain ⟨⟨here, value⟩, hchain, rfl⟩ := List.mem_map.mp hmem
    obtain ⟨before, after, rfl⟩ := List.append_of_mem hchain
    obtain ⟨next, -, hnode, -⟩ := h.at
    simp [hnode]
  · intro hsome
    have hlt : place < list.nodes.size := by
      by_contra hle
      simp [node?, Array.getElem?_eq_none (Nat.not_lt.mp hle)] at hsome
    have hmem := h.arena.places.mem_iff.mpr (List.mem_range.mpr hlt)
    cases List.mem_append.mp hmem with
    | inl hused => exact hused
    | inr hfree => simp [node?, h.arena.empty place hfree] at hsome

theorem Linked.mem_free_iff (h : list.Linked chain) (place : Nat) :
    place ∈ list.free ↔ place < list.nodes.size ∧ list.node? place = none := by
  constructor
  · intro hmem
    exact ⟨h.arena.lt_size (List.mem_append_right _ hmem), h.arena.empty place hmem⟩
  · intro ⟨hlt, hnone⟩
    have hmem := h.arena.places.mem_iff.mpr (List.mem_range.mpr hlt)
    cases List.mem_append.mp hmem with
    | inl hused =>
      have hsome := (h.mem_places_iff place).mp hused
      simp [hnone] at hsome
    | inr hfree => exact hfree

theorem Linked.last_node {before : List (Nat × α)} {place : Nat} {value : α}
    (h : list.Linked (before ++ [(place, value)])) :
    list.node? place = some ⟨value, none⟩ := by
  obtain ⟨next, -, hnode, rfl⟩ := h.at
  exact hnode

theorem Linked.threaded (h : list.Linked chain) : list.Threaded (chain.map Prod.fst) where
  place? := h.place?_eq
  length := by simp [h.size]
  nodup := h.nodup
  mem_iff := h.mem_places_iff
  back := by rw [h.back, List.getLast?_map]
  last place hback := by
    rw [h.back] at hback
    cases chain using List.reverseRecOn with
    | nil => cases hback
    | append_singleton before last =>
      obtain ⟨here, value⟩ := last
      obtain rfl : here = place := by simpa using hback
      exact ⟨value, h.last_node⟩
  front_eq_none := by
    have hfront := h.place?_eq 0
    rw [place?] at hfront
    cases chain <;> simp [hfront, h.size]
  back_eq_none := by
    rw [h.back, h.size]
    simp
  free_nodup := (List.nodup_append.mp h.arena.nodup).2.1
  mem_free := h.mem_free_iff
  nodes_size := h.nodes_size

theorem Linked.first?_eq (h : list.Linked chain) : list.first? = list.toList.head? := by
  rw [h.toList]
  cases chain with
  | nil =>
    have hfront : list.front = none := h.links
    simp [first?, hfront]
  | cons first rest =>
    obtain ⟨hfront, next, hnode, -⟩ := h.links
    simp [first?, hfront, hnode]

theorem Linked.last?_eq (h : list.Linked chain) : list.last? = list.toList.getLast? := by
  rw [h.toList, last?, h.back]
  cases chain using List.reverseRecOn with
  | nil => rfl
  | append_singleton before last => simp [h.last_node]

end Walk

section Calls

variable [BEq α] {list : ChainList α}

theorem Sound.insert_grows (h : list.Sound) (index : Nat) (value : Option α) :
    (ChainList.insert index value list).state.nodes.size =
      max list.nodes.size (ChainList.insert index value list).state.size := by
  have hle := h.size_le
  obtain ⟨chain, h⟩ := h
  cases hcheck : checkInsert list.toList list.size list.capacity index value with
  | error e =>
    simp [ChainList.insert, hcheck]
    omega
  | ok item =>
    obtain ⟨-, -, hindex, -⟩ := checkInsert_eq_ok hcheck
    rw [h.size] at hindex
    obtain ⟨before, rest, rfl, rfl⟩ := exists_append_of_le hindex
    obtain ⟨longer, place, hlink, -, -⟩ := linkAt_eq h item
    simp [ChainList.insert, hcheck, hlink, h.nodes_size_linkAt hlink]

/-- Replacing a value asks nothing of the equality of values, as far as the nodes go. -/
theorem Sound.set (h : list.Sound) (index : Nat) (value : Option α) :
    (ChainList.set index value list).state.Sound ∧
      (ChainList.set index value list).state.nodes.size = list.nodes.size := by
  cases hcheck : checkSet list.toList list.size index value with
  | error e => simp [ChainList.set, hcheck, h]
  | ok item =>
    obtain ⟨chain, h⟩ := h
    have hindex := lt_of_checkSet hcheck
    rw [h.size] at hindex
    obtain ⟨before, ⟨place, previous⟩, rest, rfl, rfl⟩ := exists_append_cons_of_lt hindex
    obtain ⟨next, hplace, hnode, -⟩ := h.at
    simp [ChainList.set, hcheck, hplace, hnode, (h.set hnode item).sound]

end Calls

end ChainList

namespace SeqCall

open BoundedSeq

variable {S α : Type} [BEq α] [BoundedSeq S α]

/-- The greatest number of values at a time so far, after one more call; a call that forgets them
all begins anew. -/
def peakAfter (peak length : Nat) : SeqCall α → Nat
  | clear => 0
  | _ => max peak length

def peak : List (SeqCall α) → S → Nat → Nat
  | [], _, most => most
  | call :: rest, s, most =>
    peak rest (perform call s).state (call.peakAfter most (length (perform call s).state))

end SeqCall

namespace ChainList

section Calls

variable [BEq α] {list : ChainList α}

/-- A call leaves a chain linked, and the arena as large as the chain has been at most. -/
theorem Sound.perform (h : list.Sound) (call : SeqCall α) :
    (call.perform list).state.Sound ∧
      (call.perform list).state.nodes.size =
        call.peakAfter list.nodes.size (call.perform list).state.size := by
  cases call with
  | insert index value =>
    rw [SeqCall.perform, Call.bind_pure_apply]
    exact ⟨(insert_follows h index value).sound, h.insert_grows index value⟩
  | push value =>
    rw [SeqCall.perform, Call.bind_pure_apply]
    exact ⟨(insert_follows h list.size value).sound, h.insert_grows list.size value⟩
  | removeAt index =>
    rw [SeqCall.perform, Call.bind_pure_apply]
    have hafter := (removeAt_follows h index).sound
    exact ⟨hafter, hafter.size_eq_max (nodes_size_removeAt index list)⟩
  | get index =>
    rw [SeqCall.perform_get]
    exact ⟨h, h.size_eq_max rfl⟩
  | set index value =>
    rw [SeqCall.perform, Call.bind_pure_apply]
    obtain ⟨hafter, hsize⟩ := h.set index value
    exact ⟨hafter, hafter.size_eq_max hsize⟩
  | position value => exact ⟨h, h.size_eq_max rfl⟩
  | contains value => exact ⟨h, h.size_eq_max rfl⟩
  | removeItem value =>
    rw [SeqCall.perform, Call.bind_pure_apply, BoundedSeq.removeItem, Call.current_bind]
    cases BoundedSeq.position list value with
    | none => exact ⟨h, h.size_eq_max rfl⟩
    | some index =>
      have hafter := (removeAt_follows h index).sound
      exact ⟨hafter, hafter.size_eq_max (nodes_size_removeAt index list)⟩
  | setCapacity capacity =>
    rw [SeqCall.perform, Call.bind_pure_apply]
    have hafter := (setCapacity_follows h capacity).sound
    refine ⟨hafter, hafter.size_eq_max ?_⟩
    by_cases hcapacity : capacity < list.size <;>
      simp [ChainList.setCapacity, hcapacity]
  | clear => exact ⟨(linked_withCapacity list.capacity).sound, rfl⟩

theorem Sound.finalState (h : list.Sound) (calls : List (SeqCall α)) :
    (Call.finalState SeqCall.perform calls list).Sound ∧
      (Call.finalState SeqCall.perform calls list).nodes.size =
        SeqCall.peak calls list list.nodes.size := by
  induction calls generalizing list with
  | nil => exact ⟨h, rfl⟩
  | cons call rest ih =>
    obtain ⟨hafter, hsize⟩ := h.perform call
    obtain ⟨hsound, hpeak⟩ := ih hafter
    rw [hsize] at hpeak
    exact ⟨hsound, hpeak⟩

/-- From an empty list, after any calls: the chain is threaded through the arena, which is as large
as the chain has been at most; a walk that has met the first values will give the others and end,
and knows how many they are; and the ends of the chain are the ends of the walk. -/
theorem threaded_finalState (capacity : Nat) (calls : List (SeqCall α)) :
    let list := Call.finalState SeqCall.perform calls (withCapacity capacity : ChainList α)
    (∃ places, list.Threaded places) ∧
      list.nodes.size = SeqCall.peak calls (withCapacity capacity : ChainList α) 0 ∧
      (∀ steps, (list.walk steps list.start).1 = list.toList.take steps ∧
        list.Gives (list.walk steps list.start).2 (list.toList.drop steps) ∧
        (list.walk steps list.start).2.remaining = (list.toList.drop steps).length) ∧
      list.first? = list.toList.head? ∧ list.last? = list.toList.getLast? := by
  intro list
  have hstart : (withCapacity capacity : ChainList α).Sound := (linked_withCapacity capacity).sound
  obtain ⟨⟨chain, h⟩, hpeak⟩ := hstart.finalState calls
  refine ⟨⟨_, h.threaded⟩, hpeak, ?_, h.first?_eq, h.last?_eq⟩
  intro steps
  obtain ⟨next, hlinks, hwalk⟩ := walk_take h.links steps
  have hgives := gives_of_links hlinks (chain.drop steps).length
  have hbegin : list.start = ⟨list.front, chain.length⟩ := by
    rw [start, h.size]
  rw [hbegin, hwalk, h.toList]
  simp only [List.map_take, List.map_drop] at hgives ⊢
  exact ⟨trivial, hgives, by simp⟩

end Calls

end ChainList

end Enrollment
