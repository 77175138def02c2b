import Enrollment.Proofs.Sequence.Lawful
import Enrollment.Sequence.ChainList
import Mathlib.Data.List.Induction
import Mathlib.Logic.Function.Basic

/-!
The chain of nodes in an arena.  A chain in order passes places that are all different, and its
places and the free ones are together all places of the arena, each once; so a node put into a
free place or taken out of its own leaves every other link alone.
-/
namespace Enrollment.ChainList

variable {α : Type}

/-- From a start, the links of an arena lead over places that hold some values to a stop. -/
def Links (node? : Nat → Option (Node α)) : Option Nat → List (Nat × α) → Option Nat → Prop
  | start, [], stop => start = stop
  | start, (place, value) :: rest, stop =>
    start = some place ∧ ∃ next, node? place = some ⟨value, next⟩ ∧ Links node? next rest stop

section Links

variable {node? : Nat → Option (Node α)} {start stop : Option Nat} {chain : List (Nat × α)}

theorem links_append (before after : List (Nat × α)) :
    Links node? start (before ++ after) stop ↔
      ∃ between, Links node? start before between ∧ Links node? between after stop := by
  induction before generalizing start with
  | nil => simp [Links]
  | cons first rest ih =>
    obtain ⟨place, value⟩ := first
    constructor
    · intro ⟨hstart, next, hnode, hrest⟩
      obtain ⟨between, hbefore, hafter⟩ := ih.mp hrest
      exact ⟨between, ⟨hstart, next, hnode, hbefore⟩, hafter⟩
    · intro ⟨between, ⟨hstart, next, hnode, hbefore⟩, hafter⟩
      exact ⟨hstart, next, hnode, ih.mpr ⟨between, hbefore, hafter⟩⟩

/-- Links do not look at a place that is not on their way. -/
theorem Links.update {place : Nat} (h : Links node? start chain stop)
    (hplace : place ∉ chain.map Prod.fst) (node : Option (Node α)) :
    Links (Function.update node? place node) start chain stop := by
  induction chain generalizing start with
  | nil => exact h
  | cons first rest ih =>
    obtain ⟨here, value⟩ := first
    obtain ⟨hstart, next, hnode, hrest⟩ := h
    rw [List.map_cons, List.mem_cons, not_or] at hplace
    refine ⟨hstart, next, ?_, ih hrest hplace.2⟩
    rwa [Function.update_of_ne (Ne.symm hplace.1)]

theorem Links.link {before after : List (Nat × α)} {place fresh : Nat} {value : α} (item : α)
    {next : Option Nat} (h : Links node? start (before ++ (place, value) :: after) stop)
    (hnode : node? place = some ⟨value, next⟩)
    (hplaces : ((before ++ (place, value) :: after).map Prod.fst).Nodup)
    (hfresh : fresh ∉ (before ++ (place, value) :: after).map Prod.fst) :
    Links
      (Function.update (Function.update node? fresh (some ⟨item, next⟩)) place
        (some ⟨value, some fresh⟩))
      start (before ++ (place, value) :: (fresh, item) :: after) stop := by
  obtain ⟨between, hbefore, rfl, next', hnode', hafter⟩ := (links_append _ _).mp h
  obtain rfl : next = next' := by simpa [hnode] using hnode'
  simp only [List.map_append, List.map_cons, List.mem_append, List.mem_cons, not_or] at hfresh
  obtain ⟨hfreshBefore, hfreshPlace, hfreshAfter⟩ := hfresh
  rw [List.map_append, List.map_cons, List.nodup_append, List.nodup_cons] at hplaces
  obtain ⟨-, ⟨hplaceAfter, -⟩, hdisjoint⟩ := hplaces
  have hplaceBefore : place ∉ before.map Prod.fst := fun hmem =>
    hdisjoint place hmem place List.mem_cons_self rfl
  refine (links_append _ _).mpr ⟨some place, ?_, rfl, some fresh, ?_, rfl, next, ?_, ?_⟩
  · exact (hbefore.update hfreshBefore _).update hplaceBefore _
  · simp
  · rw [Function.update_of_ne hfreshPlace, Function.update_self]
  · exact (hafter.update hfreshAfter _).update hplaceAfter _

theorem Links.unlink {before after : List (Nat × α)} {place gone : Nat} {value item : α}
    {next : Option Nat}
    (h : Links node? start (before ++ (place, value) :: (gone, item) :: after) stop)
    (hnode : node? gone = some ⟨item, next⟩)
    (hplaces : ((before ++ (place, value) :: (gone, item) :: after).map Prod.fst).Nodup) :
    Links (Function.update (Function.update node? gone none) place (some ⟨value, next⟩))
      start (before ++ (place, value) :: after) stop := by
  obtain ⟨between, hbefore, rfl, gone', hplace, rfl, next', hnode', hafter⟩ :=
    (links_append _ _).mp h
  obtain rfl : next = next' := by simpa [hnode] using hnode'
  simp only [List.map_append, List.map_cons, List.nodup_append, List.nodup_cons,
    List.mem_cons, not_or] at hplaces
  obtain ⟨-, ⟨⟨hne, hplaceAfter⟩, hgoneAfter, -⟩, hdisjoint⟩ := hplaces
  have hplaceBefore : place ∉ before.map Prod.fst := fun hmem =>
    hdisjoint place hmem place (.inl rfl) rfl
  have hgoneBefore : gone ∉ before.map Prod.fst := fun hmem =>
    hdisjoint gone hmem gone (.inr (.inl rfl)) rfl
  refine (links_append _ _).mpr ⟨some place, ?_, rfl, next, ?_, ?_⟩
  · exact (hbefore.update hgoneBefore _).update hplaceBefore _
  · simp
  · exact (hafter.update hgoneAfter _).update hplaceAfter _

end Links

section Arena

structure Arena (nodes : Array (Option (Node α))) (free used : List Nat) : Prop where
  places : (used ++ free).Perm (List.range nodes.size)
  empty : ∀ place ∈ free, nodes[place]?.join = none

variable {list : ChainList α} {used : List Nat} {node : Node α} {place : Nat}

theorem Arena.nodup {nodes : Array (Option (Node α))} {free : List Nat}
    (h : Arena nodes free used) : (used ++ free).Nodup :=
  h.places.nodup_iff.mpr List.nodup_range

theorem Arena.lt_size {nodes : Array (Option (Node α))} {free : List Nat}
    (h : Arena nodes free used) (hplace : place ∈ used ++ free) : place < nodes.size :=
  List.mem_range.mp (h.places.mem_iff.mp hplace)

theorem Arena.of_perm {nodes : Array (Option (Node α))} {free places : List Nat}
    (h : Arena nodes free used) (hperm : used.Perm places) : Arena nodes free places :=
  ⟨(hperm.symm.append_right free).trans h.places, h.empty⟩

/-- What stands at a place in use may change, as far as the arena goes. -/
theorem Arena.write {nodes : Array (Option (Node α))} {free : List Nat} (h : Arena nodes free used)
    (hplace : place ∈ used) (entry : Option (Node α)) :
    Arena (nodes.setIfInBounds place entry) free used where
  places := by
    rw [Array.size_setIfInBounds]
    exact h.places
  empty other hother := by
    have hne : place ≠ other := by
      intro hsame
      subst hsame
      exact (List.nodup_append.mp h.nodup).2.2 place hplace place hother rfl
    rw [Array.getElem?_setIfInBounds_ne hne]
    exact h.empty other hother

/-- Putting something at a place of the arena shows at that place only. -/
theorem node?_setIfInBounds (hplace : place < list.nodes.size) (entry : Option (Node α))
    (free : List Nat) :
    ({ list with nodes := list.nodes.setIfInBounds place entry, free } : ChainList α).node? =
      Function.update list.node? place entry := by
  funext other
  by_cases h : other = place
  · subst h
    simp [node?, hplace]
  · simp [node?, Array.getElem?_setIfInBounds_ne (Ne.symm h), h]

theorem allocate_eq (h : Arena list.nodes list.free used) (node : Node α) :
    ∃ place nodes free, list.allocate node = (place, { list with nodes, free }) ∧
      place ∉ used ∧ Arena nodes free (place :: used) ∧
      ({ list with nodes, free } : ChainList α).node? =
        Function.update list.node? place (some node) := by
  have hnodup := h.nodup
  -- Without a free place the arena grows by one; else the first free place is taken.
  cases hfree : list.free with
  | nil =>
    have hplaces := h.places
    rw [hfree, List.append_nil] at hplaces
    have hsize : list.nodes.size ∉ used := fun hmem =>
      Nat.lt_irrefl _ (List.mem_range.mp (hplaces.mem_iff.mp hmem))
    refine ⟨list.nodes.size, list.nodes.push (some node), [], ?_, hsize, ⟨?_, by simp⟩, ?_⟩
    · simp [allocate, hfree]
    · rw [List.append_nil, Array.size_push, List.range_succ]
      exact (hplaces.cons _).trans (List.perm_append_singleton _ _).symm
    · funext place
      by_cases hplace : place = list.nodes.size
      · subst hplace
        simp [node?]
      · simp only [node?, Function.update_of_ne hplace, Array.getElem?_push, if_neg hplace]
  | cons place free =>
    rw [hfree, List.nodup_append] at hnodup
    obtain ⟨-, hfreeNodup, hdisjoint⟩ := hnodup
    have hlt : place < list.nodes.size := h.lt_size (by simp [hfree])
    refine ⟨place, list.nodes.setIfInBounds place (some node), free, ?_, ?_, ⟨?_, ?_⟩,
      node?_setIfInBounds hlt _ _⟩
    · simp [allocate, hfree]
    · exact fun hmem => hdisjoint place hmem place List.mem_cons_self rfl
    · have hplaces := h.places
      rw [hfree] at hplaces
      rw [Array.size_setIfInBounds]
      exact List.perm_middle.symm.trans hplaces
    · intro other hother
      have hne : place ≠ other := by
        intro hsame
        subst hsame
        exact (List.nodup_cons.mp hfreeNodup).1 hother
      rw [Array.getElem?_setIfInBounds_ne hne]
      exact h.empty other (by simp [hfree, hother])

theorem relink_eq (h : Arena list.nodes list.free used) (hplace : place ∈ used)
    (hnode : list.node? place = some node) (next : Option Nat) :
    ∃ nodes, list.relink place next = { list with nodes } ∧ Arena nodes list.free used ∧
      ({ list with nodes } : ChainList α).node? =
        Function.update list.node? place (some { node with next }) := by
  have hlt := h.lt_size (List.mem_append_left _ hplace)
  refine ⟨list.nodes.setIfInBounds place (some { node with next }), ?_, h.write hplace _,
    node?_setIfInBounds hlt _ _⟩
  simp [relink, hnode]

theorem release?_eq (h : Arena list.nodes list.free (place :: used))
    (hnode : list.node? place = some node) :
    ∃ nodes, list.release? place = some (node, { list with nodes, free := place :: list.free }) ∧
      Arena nodes (place :: list.free) used ∧
      ({ list with nodes, free := place :: list.free } : ChainList α).node? =
        Function.update list.node? place none := by
  have hlt := h.lt_size (List.mem_append_left _ List.mem_cons_self)
  refine ⟨list.nodes.setIfInBounds place none, ?_, ⟨?_, ?_⟩, node?_setIfInBounds hlt _ _⟩
  · simp [release?, hnode]
  · rw [Array.size_setIfInBounds]
    exact List.perm_middle.trans h.places
  · intro other hother
    cases List.mem_cons.mp hother with
    | inl heq => simp [heq, hlt]
    | inr hmem =>
      by_cases hne : place = other
      · simp [← hne, hlt]
      · rw [Array.getElem?_setIfInBounds_ne hne]
        exact h.empty other hmem

end Arena

/-- A list whose nodes lie along a chain of places and values, with both ends and the length told
right and no place of the arena lost. -/
structure Linked (list : ChainList α) (chain : List (Nat × α)) : Prop where
  links : Links list.node? list.front chain none
  back : list.back = chain.getLast?.map Prod.fst
  size : list.size = chain.length
  arena : Arena list.nodes list.free (chain.map Prod.fst)

section Linked

variable {list : ChainList α} {chain before after : List (Nat × α)} {place : Nat} {value : α}

theorem linked_withCapacity (capacity : Nat) : (withCapacity capacity : ChainList α).Linked [] :=
  ⟨rfl, rfl, rfl, by simp [withCapacity], by simp [withCapacity]⟩

theorem Linked.nodup (h : list.Linked chain) : (chain.map Prod.fst).Nodup :=
  (List.nodup_append.mp h.arena.nodup).1

theorem place?_of_links {stop : Option Nat} (h : Links list.node? list.front chain stop) :
    list.place? chain.length = stop := by
  induction chain using List.reverseRecOn generalizing stop with
  | nil => exact h
  | append_singleton rest last ih =>
    obtain ⟨between, hrest, rfl, next, hnode, rfl⟩ := (links_append _ _).mp h
    rw [List.length_append]
    simp [place?, ih hrest, after?, hnode]

theorem Linked.at (h : list.Linked (before ++ (place, value) :: after)) :
    ∃ next, list.place? before.length = some place ∧ list.node? place = some ⟨value, next⟩ ∧
      next = after.head?.map Prod.fst := by
  obtain ⟨between, hbefore, rfl, next, hnode, hafter⟩ := (links_append _ _).mp h.links
  refine ⟨next, place?_of_links hbefore, hnode, ?_⟩
  cases after with
  | nil => exact hafter
  | cons first rest => exact hafter.1

/-- A new node goes behind another, given the ends and the length to be told from then on. -/
theorem Linked.splice {last : α} {next : Option Nat}
    (h : list.Linked (before ++ (place, last) :: after))
    (hnode : list.node? place = some ⟨last, next⟩) (value : α) :
    ∃ fresh allocated nodes free, list.allocate ⟨value, next⟩ = (fresh, allocated) ∧
      allocated.back = list.back ∧ allocated.size = list.size ∧
      allocated.relink place (some fresh) = { list with nodes, free } ∧
      ∀ back, back = ((fresh, value) :: after).getLast?.map Prod.fst →
        Linked { list with nodes, free, back, size := list.size + 1 }
          (before ++ (place, last) :: (fresh, value) :: after) := by
  obtain ⟨fresh, nodes, free, hallocate, hfresh, harena, hnode?⟩ :=
    allocate_eq h.arena ⟨value, next⟩
  have hused : place ∈ (before ++ (place, last) :: after).map Prod.fst := by simp
  have hstill : ({ list with nodes, free } : ChainList α).node? place = some ⟨last, next⟩ := by
    rw [hnode?, Function.update_of_ne, hnode]
    intro hsame
    subst hsame
    exact hfresh hused
  obtain ⟨relinked, hrelink, harena, hrelinked⟩ :=
    relink_eq harena (List.mem_cons_of_mem _ hused) hstill (some fresh)
  refine ⟨fresh, _, relinked, free, hallocate, rfl, rfl, hrelink, ?_⟩
  intro back hback
  subst hback
  refine ⟨?_, ?_, ?_, ?_⟩
  · have hlinks := h.links.link value hnode h.nodup hfresh
    rwa [← hnode?, ← hrelinked] at hlinks
  · simp [List.getLast?_cons]
  · simp [h.size, Nat.add_assoc]
  · apply harena.of_perm
    simp only [List.map_append, List.map_cons]
    exact (List.perm_middle.symm).trans ((List.Perm.swap _ _ _).append_left _)

/-- A value is linked in where the chain is cut. -/
theorem linkAt_eq (h : list.Linked (before ++ after)) (value : α) :
    ∃ longer place, linkAt before.length value list = ⟨.ok (), longer, []⟩ ∧
      longer.Linked (before ++ (place, value) :: after) ∧ longer.capacity = list.capacity := by
  -- The new node is behind the last one before the cut, or there is none and it becomes the front.
  cases before using List.reverseRecOn with
  | nil =>
    obtain ⟨place, nodes, free, hallocate, hfresh, harena, hnode?⟩ :=
      allocate_eq h.arena ⟨value, list.front⟩
    simp only [linkAt, Call.current_bind, List.length_nil, if_true, hallocate, Call.become_apply]
    refine ⟨_, place, rfl, ⟨⟨rfl, list.front, ?_, ?_⟩, ?_, ?_, harena⟩, rfl⟩
    · exact (congrFun hnode? place).trans (Function.update_self ..)
    · have hlinks := h.links.update hfresh (some ⟨value, list.front⟩)
      rwa [← hnode?] at hlinks
    · rw [h.back]
      cases after with
      | nil => rfl
      | cons first rest => simp [List.getLast?_cons]
    · simp [h.size]
  | append_singleton before last =>
    obtain ⟨place, last⟩ := last
    simp only [List.append_assoc, List.singleton_append] at h ⊢
    obtain ⟨next, hplace, hnode, hnext⟩ := h.at
    obtain ⟨fresh, allocated, nodes, free, hallocate, hback, hsize, hrelink, hlinked⟩ :=
      h.splice hnode value
    have hlength : (before ++ [(place, last)]).length = before.length + 1 := by simp
    simp only [linkAt, Call.current_bind, hlength, Nat.succ_ne_zero, if_false, Nat.add_sub_cancel]
    cases after with
    | nil =>
      obtain rfl : next = none := hnext
      have hend : before.length + 1 = list.size := by simp [h.size]
      have htail : allocated.back = some place := by simp [hback, h.back]
      rw [if_pos hend]
      simp only [hallocate, Call.become_bind, htail, Call.become_apply, hrelink, hsize]
      exact ⟨_, fresh, rfl, hlinked _ rfl, rfl⟩
    | cons first rest =>
      have hend : ¬before.length + 1 = list.size := by simp [h.size]
      have hafter : list.after? place = next := by simp [after?, hnode]
      rw [if_neg hend]
      simp only [hplace, hafter, hallocate, Call.become_apply, hrelink, hsize]
      refine ⟨_, fresh, rfl, hlinked _ ?_, rfl⟩
      simp [h.back, List.getLast?_cons]

/-- The end of a chain after the node at a place is gone: the node before it if it was last. -/
theorem Linked.back_of_unlink (h : list.Linked (before ++ (place, value) :: after)) :
    (if list.back = some place then before.getLast?.map Prod.fst else list.back) =
      (before ++ after).getLast?.map Prod.fst := by
  rw [h.back]
  cases after using List.reverseRecOn with
  | nil => simp
  | append_singleton rest last =>
    obtain ⟨last, item⟩ := last
    have hlast : (before ++ (place, value) :: (rest ++ [(last, item)])).getLast? =
        some (last, item) := by
      rw [← List.cons_append, ← List.append_assoc, List.getLast?_concat]
    have hne : last ≠ place := by
      have hplaces := h.nodup
      simp only [List.map_append, List.map_cons, List.nodup_append, List.nodup_cons] at hplaces
      intro hsame
      subst hsame
      exact hplaces.2.1.1 (by simp)
    rw [hlast, Option.map_some, if_neg (by simpa using hne), ← List.append_assoc,
      List.getLast?_concat]
    rfl

/-- The value at the place where the chain is cut is unlinked. -/
theorem unlinkAt_eq (h : list.Linked (before ++ (place, value) :: after)) :
    ∃ shorter, unlinkAt before.length list = ⟨.ok value, shorter, []⟩ ∧
      shorter.Linked (before ++ after) ∧ shorter.capacity = list.capacity := by
  obtain ⟨next, hplace, hnode, hnext⟩ := h.at
  have harena : Arena list.nodes list.free (place :: (before ++ after).map Prod.fst) := by
    apply h.arena.of_perm
    simp only [List.map_append, List.map_cons]
    exact List.perm_middle
  obtain ⟨nodes, hrelease, harena, hnode?⟩ := release?_eq harena hnode
  have hback := h.back_of_unlink
  -- The last node before the cut is linked past the one that goes, or there is none.
  cases before using List.reverseRecOn with
  | nil =>
    obtain ⟨hfront, next', hnode', hlinks⟩ := h.links
    obtain rfl : next = next' := by simpa [hnode] using hnode'
    simp only [unlinkAt, Call.current_bind, List.length_nil, around?, hfront, Option.map_some,
      Option.bind_eq_bind, Option.bind_some, hrelease, pure, Call.become_bind]
    refine ⟨_, rfl, ⟨?_, hback, ?_, harena⟩, rfl⟩
    · have hgone : place ∉ after.map Prod.fst := (List.nodup_cons.mp h.nodup).1
      have hrest := hlinks.update hgone none
      rwa [← hnode?] at hrest
    · simp [h.size]
  | append_singleton before last =>
    obtain ⟨previous, last⟩ := last
    simp only [List.append_assoc, List.singleton_append] at h hback harena ⊢
    obtain ⟨here, hprevious, hnodePrevious, hhere⟩ := h.at
    obtain rfl : here = some place := hhere
    have hne : previous ≠ place := by
      have hplaces := h.nodup
      simp only [List.map_append, List.map_cons, List.nodup_append, List.nodup_cons] at hplaces
      intro hsame
      subst hsame
      exact hplaces.2.1.1 (by simp)
    have hstill : ({ list with nodes, free := place :: list.free } : ChainList α).node? previous =
        some ⟨last, some place⟩ := by
      rw [hnode?, Function.update_of_ne hne, hnodePrevious]
    obtain ⟨relinked, hrelink, harena, hrelinked⟩ :=
      relink_eq harena (show previous ∈ _ by simp) hstill next
    have hlength : (before ++ [(previous, last)]).length = before.length + 1 := by simp
    have hafter : list.after? previous = some place := by simp [after?, hnodePrevious]
    simp only [unlinkAt, Call.current_bind, hlength, around?, hprevious, hafter,
      Option.bind_eq_bind, Option.bind_some, hrelease, pure, Call.become_bind, hrelink]
    refine ⟨_, rfl, ⟨?_, ?_, ?_, harena⟩, rfl⟩
    · have hlinks := h.links.unlink hnode h.nodup
      rwa [← hnode?, ← hrelinked] at hlinks
    · simpa using hback
    · simp [h.size, Nat.add_assoc]

end Linked

end Enrollment.ChainList
