import Enrollment.Proofs.Sequence.Queue
import Enrollment.Roster.Basic

/-!
What shows of a roster whatever its storages are, and when what shows fits the limits of the
roster.
-/
namespace Enrollment

structure RosterView (C E : Type) where
  course : C
  limits : RosterLimits
  enrollmentCap : Nat
  audited : Bool
  enrolled : List E
  waitlisted : List E

namespace RosterView

variable {C E : Type}

def filled (view : RosterView C E) (enrolled waitlisted : List E) : RosterView C E :=
  { view with enrolled, waitlisted }

variable [BEq E]

structure Fits (view : RosterView C E) : Prop where
  minCap_le : view.limits.minCap ≤ view.enrollmentCap
  le_maxCap : view.enrollmentCap ≤ view.limits.maxCap
  enrolled_le : view.enrolled.length ≤ view.enrollmentCap
  waitlisted_le : view.waitlisted.length ≤ view.limits.waitlistCapacity
  distinct : Distinct (view.enrolled ++ view.waitlisted)

variable {view : RosterView C E} {enrolled waitlisted : List E} {entity : E}

/-- Fewer people fit where more do. -/
theorem Fits.sublist (h : view.Fits) (henrolled : enrolled.Sublist view.enrolled)
    (hwaitlisted : waitlisted.Sublist view.waitlisted) :
    (view.filled enrolled waitlisted).Fits where
  minCap_le := h.minCap_le
  le_maxCap := h.le_maxCap
  enrolled_le := Nat.le_trans henrolled.length_le h.enrolled_le
  waitlisted_le := Nat.le_trans hwaitlisted.length_le h.waitlisted_le
  distinct := h.distinct.sublist (henrolled.append hwaitlisted)

theorem Fits.seat [PartialEquivBEq E] (h : view.Fits)
    (hopen : view.enrolled.length < view.enrollmentCap)
    (hany : (view.enrolled ++ view.waitlisted).any (· == entity) = false) :
    (view.filled (view.enrolled ++ [entity]) view.waitlisted).Fits where
  minCap_le := h.minCap_le
  le_maxCap := h.le_maxCap
  enrolled_le := by
    rw [filled, List.length_append]
    exact hopen
  waitlisted_le := h.waitlisted_le
  distinct := by
    rw [filled, List.append_assoc]
    exact (h.distinct.cons hany).perm List.perm_middle.symm

theorem Fits.wait [PartialEquivBEq E] (h : view.Fits)
    (hroom : view.waitlisted.length < view.limits.waitlistCapacity)
    (hany : (view.enrolled ++ view.waitlisted).any (· == entity) = false) :
    (view.filled view.enrolled (view.waitlisted ++ [entity])).Fits where
  minCap_le := h.minCap_le
  le_maxCap := h.le_maxCap
  enrolled_le := h.enrolled_le
  waitlisted_le := by
    rw [filled, List.length_append]
    exact hroom
  distinct := by
    rw [filled, ← List.append_assoc]
    exact h.distinct.append_singleton hany

/-- The head of the waitlist is seated where a seat is free. -/
theorem Fits.promote {rest : List E} (h : view.Fits)
    (hopen : view.enrolled.length < view.enrollmentCap) (hnext : view.waitlisted = entity :: rest) :
    (view.filled (view.enrolled ++ [entity]) rest).Fits where
  minCap_le := h.minCap_le
  le_maxCap := h.le_maxCap
  enrolled_le := by
    rw [filled, List.length_append]
    exact hopen
  waitlisted_le := by
    have hle := h.waitlisted_le
    rw [hnext] at hle
    exact Nat.le_of_succ_le hle
  distinct := by
    have hdistinct := h.distinct
    rw [hnext] at hdistinct
    rw [filled, List.append_assoc]
    exact hdistinct

/-- Whoever has a seat does not wait for it. -/
theorem Fits.head_ne [PartialEquivBEq E] {next : E} {rest : List E} {index : Nat} (h : view.Fits)
    (hfound : view.enrolled.findIdx? (· == entity) = some index)
    (hnext : view.waitlisted = next :: rest) : (entity == next) = false := by
  obtain ⟨hlt, heq, -⟩ := List.findIdx?_eq_some_iff_getElem.mp hfound
  have hne := (List.pairwise_append.mp h.distinct).2.2 _ (List.getElem_mem hlt) next (by
    rw [hnext]
    exact List.mem_cons_self)
  rwa [BEq.congr_left heq] at hne

/-- The head of the waitlist is seated where somebody else was. -/
theorem Fits.replace {rest : List E} {index : Nat} (h : view.Fits)
    (hindex : index < view.enrolled.length) (hnext : view.waitlisted = entity :: rest) :
    (view.filled (view.enrolled.eraseIdx index ++ [entity]) rest).Fits := by
  have hleft := h.sublist (List.eraseIdx_sublist view.enrolled index)
    (List.Sublist.refl view.waitlisted)
  refine hleft.promote ?_ hnext
  have hle := h.enrolled_le
  simp only [filled, List.length_eraseIdx_of_lt hindex]
  omega

end RosterView

namespace Roster

variable {C E S T ε β : Type} [BoundedSeq S E] [BoundedSeq T E]

def view (roster : Roster C S T) : RosterView C E where
  course := roster.course
  limits := roster.limits
  enrollmentCap := roster.enrollmentCap
  audited := roster.audited
  enrolled := roster.enrolled
  waitlisted := roster.waitlisted

variable [BEq E] [LawfulSeq S E] [LawfulSeq T E]

structure Stands (view : RosterView C E) (roster : Roster C S T) : Prop where
  view_eq : roster.view = view
  seats : LawfulSeq.Holds view.enrolled view.enrollmentCap roster.seats
  line : LawfulSeq.Holds view.waitlisted view.limits.waitlistCapacity roster.waitlist.line

namespace Stands

variable {view : RosterView C E} {roster : Roster C S T}

theorem enrolledCount_eq (h : Stands view roster) :
    roster.enrolledCount = view.enrolled.length :=
  h.seats.length_eq

theorem waitlistCount_eq (h : Stands view roster) :
    roster.waitlistCount = view.waitlisted.length :=
  Queue.Holds.length_eq h.line

theorem openSeats_eq (h : Stands view roster) :
    roster.openSeats = view.enrollmentCap - view.enrolled.length := by
  rw [openSeats, h.enrolledCount_eq, ← h.view_eq]
  rfl

theorem isEnrolled_eq (h : Stands view roster) (entity : E) :
    roster.isEnrolled entity = view.enrolled.any (· == entity) := by
  rw [isEnrolled, BoundedSeq.contains_eq, h.seats.items]

theorem isWaitlisted_eq (h : Stands view roster) (entity : E) :
    roster.isWaitlisted entity = view.waitlisted.any (· == entity) :=
  Queue.Holds.contains_eq h.line entity

theorem isFull_iff (h : Stands view roster) :
    roster.waitlist.isFull = true ↔ view.limits.waitlistCapacity ≤ view.waitlisted.length :=
  Queue.Holds.isFull_iff h.line

theorem isEmpty_eq (h : Stands view roster) :
    roster.waitlist.isEmpty = view.waitlisted.isEmpty :=
  Queue.Holds.isEmpty_eq h.line

theorem with_seats (h : Stands view roster) {seats : S} {enrolled : List E}
    (hseats : LawfulSeq.Holds enrolled view.enrollmentCap seats) :
    Stands (view.filled enrolled view.waitlisted) { roster with seats } := by
  obtain ⟨rfl, -, hline⟩ := h
  refine ⟨?_, hseats, hline⟩
  simp only [Roster.view, RosterView.filled, Roster.enrolled, hseats.items, Roster.waitlisted]

theorem with_line (h : Stands view roster) {line : T} {waitlisted : List E}
    (hline : LawfulSeq.Holds waitlisted view.limits.waitlistCapacity line) :
    Stands (view.filled view.enrolled waitlisted) { roster with waitlist := ⟨line⟩ } := by
  obtain ⟨rfl, hseats, -⟩ := h
  refine ⟨?_, hseats, hline⟩
  simp only [Roster.view, RosterView.filled, Roster.waitlisted, Queue.toList, hline.items,
    Roster.enrolled]

theorem with_cap (h : Stands view roster) {seats : S} {cap : Nat}
    (hseats : LawfulSeq.Holds view.enrolled cap seats) :
    Stands { view with enrollmentCap := cap } { roster with seats, enrollmentCap := cap } := by
  obtain ⟨rfl, -, hline⟩ := h
  refine ⟨?_, hseats, hline⟩
  simp only [Roster.view, Roster.enrolled, hseats.items, Roster.waitlisted]

theorem onSeats_answers (h : Stands view roster) {call : Call S SequenceError β} {b : β}
    {enrolled : List E} {heard : List Notice}
    (hcall : call.Answers roster.seats b (LawfulSeq.Holds enrolled view.enrollmentCap) heard) :
    ((onSeats call).mapError RosterError.internal).Answers roster b
      (Stands (view.filled enrolled view.waitlisted)) heard :=
  (hcall.within fun _ => h.with_seats).mapError _

theorem onWaitlist_answers (h : Stands view roster) {call : Call (Queue T) ε β} {b : β}
    {waitlisted : List E} {heard : List Notice}
    (hcall : call.Answers roster.waitlist b
      (Queue.Holds waitlisted view.limits.waitlistCapacity) heard) :
    (onWaitlist call).Answers roster b (Stands (view.filled view.enrolled waitlisted)) heard :=
  hcall.within fun _ => h.with_line

theorem pushSeat_answers (h : Stands view roster) {entity : E}
    (hany : view.enrolled.any (· == entity) = false)
    (hopen : view.enrolled.length < view.enrollmentCap) :
    ((onSeats (BoundedSeq.push (some entity))).mapError RosterError.internal).Answers roster ()
      (Stands (view.filled (view.enrolled ++ [entity]) view.waitlisted)) [] :=
  h.onSeats_answers (LawfulSeq.push_answers h.seats hany hopen)

theorem removeSeat_answers (h : Stands view roster) {index : Nat} {entity : E}
    (hentity : view.enrolled[index]? = some entity) :
    ((onSeats (BoundedSeq.removeAt index)).mapError RosterError.internal).Answers roster entity
      (Stands (view.filled (view.enrolled.eraseIdx index) view.waitlisted)) [] :=
  h.onSeats_answers (LawfulSeq.removeAt_answers h.seats hentity)

theorem enqueue_answers (h : Stands view roster) {entity : E}
    (hany : view.waitlisted.any (· == entity) = false)
    (hroom : view.waitlisted.length < view.limits.waitlistCapacity) :
    ((onWaitlist (Queue.enqueue (some entity))).mapError RosterError.internal).Answers roster ()
      (Stands (view.filled view.enrolled (view.waitlisted ++ [entity]))) [] :=
  (h.onWaitlist_answers (Queue.Holds.enqueue_answers h.line hany hroom)).mapError _

theorem dequeue_answers (h : Stands view roster) {next : E} {rest : List E}
    (hnext : view.waitlisted = next :: rest) :
    ((onWaitlist Queue.dequeue).mapError RosterError.internal).Answers roster next
      (Stands (view.filled view.enrolled rest)) [] := by
  have hline := h.line
  rw [hnext] at hline
  exact (h.onWaitlist_answers (Queue.Holds.dequeue_cons hline)).mapError _

theorem removeWaiting_answers (h : Stands view roster) {index : Nat} {entity removed : E}
    (hfound : view.waitlisted.findIdx? (· == entity) = some index)
    (hremoved : view.waitlisted[index]? = some removed) :
    (onWaitlist (Queue.removeItem entity) : Call (Roster C S T) RosterError (Option E)).Answers
      roster (some removed)
      (Stands (view.filled view.enrolled (view.waitlisted.eraseIdx index))) [] :=
  h.onWaitlist_answers (Queue.onLine_answers (LawfulSeq.removeItem_answers h.line hfound hremoved))

theorem removeWaiting_absent (h : Stands view roster) {entity : E}
    (habsent : view.waitlisted.findIdx? (· == entity) = none) :
    (onWaitlist (Queue.removeItem entity) : Call (Roster C S T) RosterError (Option E)) roster =
      ⟨.ok none, roster, []⟩ :=
  Call.within_of_eq (Queue.Holds.removeItem_absent h.line habsent)

end Stands

structure Sound (roster : Roster C S T) : Prop where
  stands : Stands roster.view roster
  fits : roster.view.Fits

theorem Stands.sound {view : RosterView C E} {roster : Roster C S T} (h : Stands view roster)
    (hfits : view.Fits) : roster.Sound := by
  obtain rfl := h.view_eq
  exact ⟨h, hfits⟩

end Roster

end Enrollment
