import Enrollment.Proofs.Roster.Invariant

/-!
What comes of it when an entity asks for a seat: the first of five rules that applies, whatever has
happened to the roster.  Whether a seat or a place would be given may be asked before, and the same
rules answer it; nothing that a container checks on its own account has a say.
-/
namespace Enrollment

variable {C E S T ω : Type} [BEq E]

namespace RosterView

/-- What an entity that asks for a seat is answered: the first of these that applies. -/
def placement (view : RosterView C E) : Option E → Except RosterError EnrollmentStatus
  | none => .error .nullEntity
  | some entity =>
    if ∃ seated ∈ view.enrolled, seated == entity then .error .alreadyEnrolled
    else if ∃ waiting ∈ view.waitlisted, waiting == entity then .error .alreadyWaitlisted
    else if view.enrolled.length < view.enrollmentCap then .ok .enrolled
    else if view.waitlisted.length < view.limits.waitlistCapacity then .ok .waitlisted
    else .error .noRoom

def placed (view : RosterView C E) (entity : Option E) :
    Except RosterError EnrollmentStatus → RosterView C E
  | .ok .enrolled => view.filled (view.enrolled ++ entity.toList) view.waitlisted
  | .ok .waitlisted => view.filled view.enrolled (view.waitlisted ++ entity.toList)
  | .error _ => view

variable {view : RosterView C E} {entity : E}

theorem placement_of_seated (h : view.enrolled.any (· == entity) = true) :
    view.placement (some entity) = .error .alreadyEnrolled :=
  if_pos (List.any_eq_true.mp h)

theorem placement_of_waiting (hseated : view.enrolled.any (· == entity) = false)
    (h : view.waitlisted.any (· == entity) = true) :
    view.placement (some entity) = .error .alreadyWaitlisted := by
  rw [← Bool.not_eq_true, List.any_eq_true] at hseated
  exact (if_neg hseated).trans (if_pos (List.any_eq_true.mp h))

/-- Only the seats and the line decide about an entity that is on neither. -/
theorem placement_of_absent (h : (view.enrolled ++ view.waitlisted).any (· == entity) = false) :
    view.placement (some entity) =
      if view.enrolled.length < view.enrollmentCap then .ok .enrolled
      else if view.waitlisted.length < view.limits.waitlistCapacity then .ok .waitlisted
      else .error .noRoom := by
  rw [List.any_append, Bool.or_eq_false_iff] at h
  obtain ⟨hseated, hwaiting⟩ := h
  rw [← Bool.not_eq_true, List.any_eq_true] at hseated hwaiting
  exact (if_neg hseated).trans (if_neg hwaiting)

/-- An entity is given something exactly if it is on neither list and there is room on one. -/
theorem placement_eq_ok_iff : (∃ status, view.placement (some entity) = .ok status) ↔
    (view.enrolled ++ view.waitlisted).any (· == entity) = false ∧
      (view.enrolled.length < view.enrollmentCap ∨
        view.waitlisted.length < view.limits.waitlistCapacity) := by
  cases hany : (view.enrolled ++ view.waitlisted).any (· == entity) with
  | false =>
    rw [placement_of_absent hany]
    split_ifs with hopen hroom
    · exact iff_of_true ⟨_, rfl⟩ ⟨rfl, .inl hopen⟩
    · exact iff_of_true ⟨_, rfl⟩ ⟨rfl, .inr hroom⟩
    · exact iff_of_false (by simp) (by simp [hopen, hroom])
  | true =>
    rw [List.any_append, Bool.or_eq_true] at hany
    cases hseated : view.enrolled.any (· == entity) with
    | true => simp [placement_of_seated hseated]
    | false => simp [placement_of_waiting hseated (by simpa [hseated] using hany)]

end RosterView

variable [BoundedSeq S E] [BoundedSeq T E] [LawfulSeq S E] [LawfulSeq T E]

namespace Roster.Stands

variable {view : RosterView C E} {roster : Roster C S T}

/-- Whether an entity would be taken is said by the same rules. -/
theorem canEnroll_iff (h : Stands view roster) (entity : Option E) :
    roster.canEnroll entity = true ↔ ∃ status, view.placement entity = .ok status := by
  cases entity with
  | none => exact iff_of_false Bool.false_ne_true nofun
  | some entity =>
    have hopen : roster.openSeats > 0 ↔ view.enrolled.length < view.enrollmentCap := by
      rw [h.openSeats_eq]
      omega
    have hroom : roster.waitlist.isFull = false ↔
        view.waitlisted.length < view.limits.waitlistCapacity := by
      rw [← Bool.not_eq_true, h.isFull_iff, Nat.not_le]
    rw [RosterView.placement_eq_ok_iff, ← hopen, ← hroom, canEnroll, h.isEnrolled_eq,
      h.isWaitlisted_eq, ← List.any_append]
    cases (view.enrolled ++ view.waitlisted).any (· == entity) <;> simp

variable [ToString C] [ToString E]

/-- An entity is answered by the rules: refused, the roster is as it was and the audit trail is told
of nothing; given a seat or a place, it comes after those who are there. -/
theorem enroll_placement (h : Stands view roster) (entity : Option E) :
    (∃ e notices, view.placement entity = .error e ∧ Notice.audits notices = [] ∧
      enroll entity roster = ⟨.error e, roster, notices⟩) ∨
    ∃ status heard, view.placement entity = .ok status ∧
      (enroll entity).Answers roster status (Stands (view.placed entity (.ok status))) heard := by
  cases entity with
  | none => exact .inl ⟨_, [], rfl, rfl, rfl⟩
  | some entity =>
    obtain ⟨hseated, hcall⟩ | ⟨hseated, hwaiting, hcall⟩ | ⟨hany, hopen, hcall⟩ |
      ⟨hany, hfull, hline, hcall⟩ | ⟨hany, hfull, hroom, hcall⟩ := h.enroll_cases entity
    · exact .inl ⟨_, _, RosterView.placement_of_seated hseated, rfl, hcall⟩
    · exact .inl ⟨_, _, RosterView.placement_of_waiting hseated hwaiting, rfl, hcall⟩
    · refine .inr ⟨_, _, ?_, hcall⟩
      rw [RosterView.placement_of_absent hany, if_pos hopen]
    · refine .inl ⟨_, _, ?_, rfl, hcall⟩
      rw [RosterView.placement_of_absent hany, if_neg (Nat.not_lt.mpr hfull),
        if_neg (Nat.not_lt.mpr hline)]
    · refine .inr ⟨_, _, ?_, hcall⟩
      rw [RosterView.placement_of_absent hany, if_neg (Nat.not_lt.mpr hfull), if_pos hroom]

end Roster.Stands

namespace RosterCall

open Roster

variable [ToString C] [ToString E] [PartialEquivBEq E] {seats waiting : Backend}

/-- On any storages, after any calls and however those told of their seats answer: an entity that
asks for a seat is answered by the rules; a refusal leaves the roster, the audit trail and those who
are told of seats alone; and to ask whether the entity would be taken comes to the same. -/
theorem placed_finalState {course : C} {cap : Nat} {limits : RosterLimits} {audited : Bool}
    {start : Roster C (seats.Store E) (waiting.Store E)}
    (hstart : make course cap limits audited = .ok start) (attach : Attach ω E C) (world : ω)
    (calls : List (RosterCall E)) (entity : Option E) :
    let reached := Call.finalState (perform attach) calls (start, world)
    let reply := Call.onFirst (Roster.enroll entity) reached
    reached.1.limits = limits ∧ reply.result = reached.1.view.placement entity ∧
      reply.state.1.view = reached.1.view.placed entity reply.result ∧ reply.state.2 = reached.2 ∧
      (∀ e, reply.result = .error e → reply.state = reached ∧ Notice.audits reply.notices = []) ∧
      (reached.1.canEnroll entity = true ↔ ∃ status, reply.result = .ok status) := by
  intro reached reply
  obtain ⟨⟨hstands, -⟩, hlimits⟩ := sound_finalState hstart attach world calls
  have hcan := hstands.canEnroll_iff entity
  obtain ⟨e, notices, hanswer, haudits, hcall⟩ | ⟨status, heard, hanswer, hcall⟩ :=
    hstands.enroll_placement entity
  · have hreply : reply = ⟨.error e, reached, notices⟩ := Call.onFirst_of_eq hcall reached.2
    rw [hreply]
    refine ⟨hlimits, hanswer.symm, rfl, rfl, fun _ _ => ⟨rfl, haudits⟩, ?_⟩
    rwa [hanswer] at hcan
  · have hplaced := hcall.onFirst reached.2
    obtain ⟨after, hafter, hstate⟩ := hplaced.state
    have hresult : reply.result = .ok status := hplaced.result
    have hleft : reply.state = (after, reached.2) := hstate
    rw [hresult, hleft]
    refine ⟨hlimits, hanswer.symm, hafter.view_eq, rfl, nofun, ?_⟩
    rwa [hanswer] at hcan

/-- A seat has come free that nobody is moved into.  The student who waits may not ask for it, but
another may, and then only the line is left. -/
theorem placed_finalState_students :
    let attach := recordedAttach fun _ _ _ => .ok ()
    let ada : Student := ⟨"ada", 9⟩
    let bob : Student := ⟨"bob", 9⟩
    let cy : Student := ⟨"cy", 9⟩
    let calls := [enroll (some ada), enroll (some bob), setEnrollmentCap 2]
    ∃ start : Roster String (Backend.slots.Store Student) (Backend.chain.Store Student),
      make "Logic" 1 ⟨1, 2, 1⟩ true = .ok start ∧
      let reached := Call.finalState (perform attach) calls (start, [])
      let full := Call.finalState (perform attach) (calls ++ [enroll (some cy)]) (start, [])
      let ask (student : Student) := Call.onFirst (Roster.enroll (some student))
      (ask bob reached).result = .error .alreadyWaitlisted ∧ (ask bob reached).state = reached ∧
      reached.1.waitlisted = [bob] ∧
      (ask cy reached).state.1.view = reached.1.view.placed (some cy) (.ok .enrolled) ∧
      full.1.canEnroll (some ⟨"dan", 9⟩) = false := by
  intro attach ada bob cy calls
  let start : Roster String (Backend.slots.Store Student) (Backend.chain.Store Student) :=
    ⟨"Logic", ⟨1, 2, 1⟩, 1, BoundedSeq.bounded 1, Queue.bounded 1, true⟩
  have hmake : make "Logic" 1 ⟨1, 2, 1⟩ true = .ok start := rfl
  obtain ⟨-, hbob, -, -, hrefused, -⟩ := placed_finalState hmake attach [] calls (some bob)
  obtain ⟨-, hcy, hplaced, -⟩ := placed_finalState hmake attach [] calls (some cy)
  obtain ⟨-, hdan, -, -, -, hcan⟩ := placed_finalState hmake attach []
    (calls ++ [enroll (some cy)]) (some ⟨"dan", 9⟩)
  have hwaits := hbob.trans (show _ = .error .alreadyWaitlisted by decide +kernel)
  have hseated := hcy.trans (show _ = .ok .enrolled by decide +kernel)
  have hnoRoom := hdan.trans (show _ = .error .noRoom by decide +kernel)
  rw [hseated] at hplaced
  refine ⟨start, hmake, hwaits, (hrefused _ hwaits).1, by decide +kernel, hplaced, ?_⟩
  rw [← Bool.not_eq_true, hcan, hnoRoom]
  exact nofun

end RosterCall

end Enrollment
