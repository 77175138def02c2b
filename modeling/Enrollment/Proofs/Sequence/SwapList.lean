import Enrollment.Proofs.Run
import Enrollment.Proofs.Sequence.Lawful
import Enrollment.Sequence.SwapList
import Mathlib.Data.List.Induction

/-!
Moving the values of a list about.  All the way to an end is where single steps would take a value
one after another, a step down is undone by a step up, and the values that are passed keep their
order.
-/
namespace Enrollment

structure Call.Leads {κ σ ε β : Type} (perform : κ → Call σ ε β) (calls : List κ) (s t : σ) :
    Prop where
  state : Call.finalState perform calls s = t
  answered : ∀ reply ∈ Call.run perform calls s, reply.result.isOk = true

namespace Call.Leads

variable {κ σ ε β : Type} {perform : κ → Call σ ε β} {s t u : σ} {call : κ} {calls : List κ}

theorem nil : Leads perform [] s s := ⟨rfl, List.forall_mem_nil _⟩

theorem cons {b : β} {notices : List Notice} (hcall : perform call s = ⟨.ok b, t, notices⟩)
    (h : Leads perform calls t u) : Leads perform (call :: calls) s u := by
  constructor
  · rw [Call.finalState, hcall]
    exact h.state
  · rw [Call.run, hcall]
    exact List.forall_mem_cons.mpr ⟨rfl, h.answered⟩

end Call.Leads

namespace SwapList

variable {α : Type}

def ofList (values : List α) : SwapList α := ⟨values.toArray⟩

@[simp] theorem toList_ofList (values : List α) : (ofList values).toList = values := rfl

@[simp] theorem length_ofList (values : List α) : (ofList values).length = values.length := rfl

theorem exists_ofList (list : SwapList α) : ∃ values, list = ofList values := ⟨list.toList, rfl⟩

theorem rearrange_apply {index : Nat} {arrange : Array α → Array α} {list : SwapList α}
    {values : List α} (hindex : index < list.length)
    (harrange : (arrange list.items).toList = values) :
    rearrange index arrange list = ⟨.ok (), ofList values, []⟩ := by
  subst harrange
  simp [rearrange, checkIndex, hindex, ofList]

theorem rearrange_refused {index : Nat} {list : SwapList α} (arrange : Array α → Array α)
    (hindex : list.length ≤ index) :
    rearrange index arrange list = ⟨.error (.indexOutOfRange index list.length), list, []⟩ := by
  simp [rearrange, checkIndex, Nat.not_lt.mpr hindex]

section Steps

variable (before after : List α) (previous item next : α)

theorem moveUp_apply :
    moveUp (before.length + 1) (ofList (before ++ previous :: item :: after)) =
      ⟨.ok (), ofList (before ++ item :: previous :: after), []⟩ := by
  apply rearrange_apply
  · simp
  · simp [ofList, Array.swapIfInBounds, Array.swap]

theorem moveUp_zero :
    moveUp 0 (ofList (item :: after)) = ⟨.ok (), ofList (item :: after), []⟩ := by
  apply rearrange_apply
  · simp
  · simp [ofList, Array.swapIfInBounds]

theorem moveDown_apply :
    moveDown before.length (ofList (before ++ item :: next :: after)) =
      ⟨.ok (), ofList (before ++ next :: item :: after), []⟩ := by
  apply rearrange_apply
  · simp
  · simp [ofList, Array.swapIfInBounds, Array.swap]

theorem moveDown_last :
    moveDown before.length (ofList (before ++ [item])) =
      ⟨.ok (), ofList (before ++ [item]), []⟩ := by
  apply rearrange_apply
  · simp
  · simp [ofList, Array.swapIfInBounds]

theorem moveToFront_apply :
    moveToFront before.length (ofList (before ++ item :: after)) =
      ⟨.ok (), ofList (item :: (before ++ after)), []⟩ := by
  apply rearrange_apply
  · simp
  · have hcarry := @toList_carry_back _ (before ++ item :: after).toArray [] before after item rfl
    simpa [ofList] using hcarry

theorem moveToBack_apply :
    moveToBack before.length (ofList (before ++ item :: after)) =
      ⟨.ok (), ofList (before ++ (after ++ [item])), []⟩ := by
  apply rearrange_apply
  · simp
  · have hcarry := @toList_carry_forth _ (before ++ item :: after).toArray before after [] item
      (by simp)
    simpa [ofList] using hcarry

/-- To move a value to the front is to rotate the values up to it. -/
theorem moveToFront_rotates {index : Nat} {list : SwapList α} (hindex : index < list.length) :
    moveToFront index list =
      ⟨.ok (), ofList ((list.toList.take (index + 1)).rotateRight ++
        list.toList.drop (index + 1)), []⟩ := by
  obtain ⟨values, rfl⟩ := list.exists_ofList
  obtain ⟨before, item, after, rfl, rfl⟩ := exists_append_cons_of_lt hindex
  have hsplit : before ++ item :: after = (before ++ [item]) ++ after := by simp
  have hlength : before.length + 1 = (before ++ [item]).length := by simp
  rw [moveToFront_apply, toList_ofList, hsplit, hlength, List.take_left, List.drop_left,
    rotateRight_concat, List.cons_append]

/-- To move a value to the back is to rotate the values from it on. -/
theorem moveToBack_rotates {index : Nat} {list : SwapList α} (hindex : index < list.length) :
    moveToBack index list =
      ⟨.ok (), ofList (list.toList.take index ++ (list.toList.drop index).rotateLeft), []⟩ := by
  obtain ⟨values, rfl⟩ := list.exists_ofList
  obtain ⟨before, item, after, rfl, rfl⟩ := exists_append_cons_of_lt hindex
  rw [moveToBack_apply, toList_ofList, List.take_left, List.drop_left, rotateLeft_cons]

/-- Steps up take a value past those before it, the nearest first. -/
theorem moveUp_leads (between : List α) :
    Call.Leads moveUp (List.range' (before.length + 1) between.length).reverse
      (ofList (before ++ (between ++ item :: after)))
      (ofList (before ++ item :: (between ++ after))) := by
  -- The nearest is the last of those between, so the induction is from that end.
  induction between using List.reverseRecOn generalizing after with
  | nil => exact .nil
  | append_singleton between nearest ih =>
    have hstep := moveUp_apply (before ++ between) after nearest item
    have hindex : before.length + 1 + between.length = (before ++ between).length + 1 := by
      rw [List.length_append]
      omega
    have hrest := ih (nearest :: after)
    rw [List.length_append, List.length_singleton, List.range'_concat, List.reverse_append,
      Nat.one_mul, hindex]
    simp only [List.append_assoc, List.singleton_append] at hstep hrest ⊢
    exact .cons hstep hrest

/-- Steps down take a value past those after it, the nearest first. -/
theorem moveDown_leads (between : List α) :
    Call.Leads moveDown (List.range' before.length between.length)
      (ofList (before ++ item :: (between ++ after)))
      (ofList (before ++ (between ++ item :: after))) := by
  induction between generalizing before with
  | nil => exact .nil
  | cons nearest between ih =>
    have hstep := moveDown_apply before (between ++ after) item nearest
    have hrest := ih (before ++ [nearest])
    rw [List.length_append, List.length_singleton] at hrest
    simp only [List.append_assoc, List.singleton_append] at hrest
    exact .cons hstep hrest

end Steps

end SwapList

inductive SwapMove
  | up
  | down
  | toFront
  | toBack
  deriving DecidableEq, Repr

namespace SwapMove

variable {α : Type}

def perform : SwapMove → Nat → Call (SwapList α) SequenceError Unit
  | up => SwapList.moveUp
  | down => SwapList.moveDown
  | toFront => SwapList.moveToFront
  | toBack => SwapList.moveToBack

inductive Arranges : SwapMove → Nat → List α → List α → Prop
  | up (before after : List α) (previous item : α) :
      Arranges up (before.length + 1) (before ++ previous :: item :: after)
        (before ++ item :: previous :: after)
  | first (item : α) (after : List α) : Arranges up 0 (item :: after) (item :: after)
  | down (before after : List α) (item next : α) :
      Arranges down before.length (before ++ item :: next :: after)
        (before ++ next :: item :: after)
  | last (before : List α) (item : α) :
      Arranges down before.length (before ++ [item]) (before ++ [item])
  | toFront (before after : List α) (item : α) :
      Arranges toFront before.length (before ++ item :: after) (item :: (before ++ after))
  | toBack (before after : List α) (item : α) :
      Arranges toBack before.length (before ++ item :: after) (before ++ (after ++ [item]))

theorem Arranges.perm {move : SwapMove} {index : Nat} {values arranged : List α}
    (h : Arranges move index values arranged) : arranged.Perm values := by
  cases h with
  | up before after previous item => exact (List.Perm.swap previous item after).append_left before
  | first item after => exact .refl _
  | down before after item next => exact (List.Perm.swap item next after).append_left before
  | last before item => exact .refl _
  | toFront before after item => exact List.perm_middle.symm
  | toBack before after item => exact (List.perm_append_singleton item after).append_left before

theorem exists_rearrange (move : SwapMove) (index : Nat) :
    ∃ arrange : Array α → Array α, move.perform index = SwapList.rearrange index arrange := by
  cases move with
  | up => exact ⟨fun items => items.swapIfInBounds index (index - 1), rfl⟩
  | down => exact ⟨fun items => items.swapIfInBounds index (index + 1), rfl⟩
  | toFront => exact ⟨fun items => carry items index 0, rfl⟩
  | toBack => exact ⟨fun items => carry items index (items.size - 1), rfl⟩

theorem perform_refused (move : SwapMove) {index : Nat} {list : SwapList α}
    (hindex : list.length ≤ index) :
    move.perform index list = ⟨.error (.indexOutOfRange index list.length), list, []⟩ := by
  obtain ⟨arrange, hmove⟩ := move.exists_rearrange index
  rw [hmove]
  exact SwapList.rearrange_refused arrange hindex

theorem perform_arranges (move : SwapMove) {index : Nat} {list : SwapList α}
    (hindex : index < list.length) :
    ∃ arranged, move.perform index list = ⟨.ok (), SwapList.ofList arranged, []⟩ ∧
      Arranges move index list.toList arranged := by
  obtain ⟨values, rfl⟩ := list.exists_ofList
  obtain ⟨before, item, after, rfl, rfl⟩ := exists_append_cons_of_lt hindex
  cases move with
  | up =>
    cases before using List.reverseRecOn with
    | nil => exact ⟨_, SwapList.moveUp_zero after item, .first item after⟩
    | append_singleton before previous =>
      have hup := SwapList.moveUp_apply before after previous item
      have harranges := Arranges.up before after previous item
      exact ⟨_, by simpa [perform] using hup, by simpa using harranges⟩
  | down =>
    cases after with
    | nil => exact ⟨_, SwapList.moveDown_last before item, .last before item⟩
    | cons next after => exact ⟨_, SwapList.moveDown_apply before after item next, .down ..⟩
  | toFront => exact ⟨_, SwapList.moveToFront_apply before after item, .toFront ..⟩
  | toBack => exact ⟨_, SwapList.moveToBack_apply before after item, .toBack ..⟩

/-- A move of a value that is there is answered: it rearranges the values as it is to.  A move to
the front comes to the steps up from there, a move to the back to the steps down from there, and a
step up undoes the step down before it.  Past the values a move is refused and changes nothing. -/
theorem perform_by_steps (list : SwapList α) :
    (∀ index < list.length,
      (∀ move : SwapMove, ∃ arranged, move.perform index list = ⟨.ok (), .ofList arranged, []⟩ ∧
        arranged.Perm list.toList ∧ Arranges move index list.toList arranged) ∧
      Call.Leads SwapList.moveUp (List.range' 1 index).reverse list
        (SwapList.moveToFront index list).state ∧
      Call.Leads SwapList.moveDown (List.range' index (list.length - 1 - index)) list
        (SwapList.moveToBack index list).state ∧
      (index + 1 < list.length →
        SwapList.moveUp (index + 1) (SwapList.moveDown index list).state = ⟨.ok (), list, []⟩)) ∧
    ∀ (move : SwapMove) (index : Nat), list.length ≤ index →
      move.perform index list = ⟨.error (.indexOutOfRange index list.length), list, []⟩ := by
  refine ⟨?_, fun move index => move.perform_refused⟩
  intro index hindex
  have hmoves : ∀ move : SwapMove, ∃ arranged,
      move.perform index list = ⟨.ok (), .ofList arranged, []⟩ ∧
        arranged.Perm list.toList ∧ Arranges move index list.toList arranged := by
    intro move
    obtain ⟨arranged, hmove, harranges⟩ := move.perform_arranges hindex
    exact ⟨arranged, hmove, harranges.perm, harranges⟩
  obtain ⟨values, rfl⟩ := list.exists_ofList
  obtain ⟨before, item, after, rfl, rfl⟩ := exists_append_cons_of_lt hindex
  refine ⟨hmoves, ?_, ?_, ?_⟩
  · rw [SwapList.moveToFront_apply]
    simpa using SwapList.moveUp_leads [] after item before
  · have hsteps := SwapList.moveDown_leads before [] item after
    have hcount : (before ++ item :: after).length - 1 - before.length = after.length := by
      simp
    rw [SwapList.moveToBack_apply, SwapList.length_ofList, hcount]
    simpa using hsteps
  · intro hnext
    cases after with
    | nil => simp at hnext
    | cons next after =>
      rw [SwapList.moveDown_apply]
      exact SwapList.moveUp_apply before after next item

/-- Of four letters, two of them the same, the second of these goes to the front in two steps; the
last goes nowhere when it moves to the back. -/
theorem perform_by_steps_letters :
    let list := SwapList.ofList ['a', 'b', 'a', 'c']
    (SwapList.moveToFront 2 list).state = SwapList.ofList ['a', 'a', 'b', 'c'] ∧
      Call.Leads SwapList.moveUp [2, 1] list (SwapList.ofList ['a', 'a', 'b', 'c']) ∧
      Call.Leads SwapList.moveDown [] list (SwapList.moveToBack 3 list).state ∧
      SwapList.moveUp 2 (SwapList.moveDown 1 list).state = ⟨.ok (), list, []⟩ ∧
      SwapMove.toBack.perform 4 list = ⟨.error (.indexOutOfRange 4 4), list, []⟩ := by
  intro list
  obtain ⟨hmoves, hrefused⟩ := perform_by_steps list
  obtain ⟨-, hfront, -, -⟩ := hmoves 2 (by decide)
  have harranged : (SwapList.moveToFront 2 list).state = SwapList.ofList ['a', 'a', 'b', 'c'] := by
    decide +kernel
  rw [harranged] at hfront
  obtain ⟨-, -, hback, -⟩ := hmoves 3 (by decide)
  obtain ⟨-, -, -, hundone⟩ := hmoves 1 (by decide)
  exact ⟨harranged, hfront, hback, hundone (by decide), hrefused .toBack 4 (by decide)⟩

end SwapMove

end Enrollment
