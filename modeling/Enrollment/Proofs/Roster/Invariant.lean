import Enrollment.Proofs.Roster.Moves
import Enrollment.Proofs.Run
import Enrollment.Proofs.Sequence.Backend
import Enrollment.Student

/-!
Runs of a roster: whatever is asked of it, and however those told of their seats answer, no one is
on the roster twice, seats and waitlist keep their bounds, and no container refuses a call.
-/
namespace Enrollment

inductive RosterCall (E : Type)
  | enroll (entity : Option E)
  | drop (entity : Option E)
  | setEnrollmentCap (cap : Nat)

inductive RosterAnswer (E : Type)
  | placed (status : EnrollmentStatus)
  | dropped (outcome : DropOutcome E)
  | capped
  deriving DecidableEq

variable {C E S T ω : Type} [BEq E] [BoundedSeq S E] [BoundedSeq T E]

def RosterCall.perform [ToString C] [ToString E] (attach : Attach ω E C) :
    RosterCall E → Call (Roster C S T × ω) RosterError (RosterAnswer E)
  | enroll entity => do
    let status ← Call.onFirst (Roster.enroll entity)
    return .placed status
  | drop entity => do
    let outcome ← Roster.drop attach entity
    return .dropped outcome
  | setEnrollmentCap cap => do
    Call.onFirst (Roster.setEnrollmentCap cap)
    return .capped

namespace Roster

structure Orderly (limits : RosterLimits) (roster : Roster C S T) : Prop where
  enrolled_distinct : Distinct roster.enrolled
  waitlisted_distinct : Distinct roster.waitlisted
  not_both : ∀ a ∈ roster.enrolled, ∀ b ∈ roster.waitlisted, (a == b) = false
  enrolled_le : roster.enrolledCount ≤ roster.enrollmentCap
  minCap_le : limits.minCap ≤ roster.enrollmentCap
  le_maxCap : roster.enrollmentCap ≤ limits.maxCap
  waitlist_capacity : roster.waitlist.capacity = limits.waitlistCapacity
  waitlisted_le : roster.waitlistCount ≤ roster.waitlist.capacity
  seats_capacity : BoundedSeq.capacity roster.seats = roster.enrollmentCap
  openSeats_add : roster.openSeats + roster.enrolledCount = roster.enrollmentCap

variable [LawfulSeq S E] [LawfulSeq T E] {roster : Roster C S T}

theorem Sound.orderly (h : roster.Sound) : roster.Orderly roster.limits := by
  obtain ⟨hstands, hfits⟩ := h
  have hle := hfits.enrolled_le
  obtain ⟨henrolled, hwaitlisted, hboth⟩ := List.pairwise_append.mp hfits.distinct
  refine ⟨henrolled, hwaitlisted, hboth, ?_, hfits.minCap_le, hfits.le_maxCap,
    hstands.line.capacity, ?_, hstands.seats.capacity, ?_⟩
  · rw [hstands.enrolledCount_eq]
    exact hle
  · rw [hstands.waitlistCount_eq]
    exact Nat.le_trans hfits.waitlisted_le (Nat.le_of_eq hstands.line.capacity.symm)
  · rw [hstands.openSeats_eq, hstands.enrolledCount_eq]
    exact Nat.sub_add_cancel hle

theorem make_cases (course : C) (cap : Nat) (limits : RosterLimits) (audited : Bool) :
    ((cap < limits.minCap ∨ cap > limits.maxCap) ∧
      (make course cap limits audited : Except RosterError (Roster C S T)) =
        .error (.invalidCapacity cap limits.minCap limits.maxCap 0)) ∨
    ∃ roster : Roster C S T, limits.minCap ≤ cap ∧ cap ≤ limits.maxCap ∧
      make course cap limits audited = .ok roster ∧
      Stands ⟨course, limits, cap, audited, [], []⟩ roster := by
  by_cases hcap : cap < limits.minCap ∨ cap > limits.maxCap ∨ cap < 0
  · have hcheck : limits.checkCap cap 0 =
        .error (.invalidCapacity cap limits.minCap limits.maxCap 0) := if_pos hcap
    refine .inl ⟨by omega, ?_⟩
    rw [make, hcheck]
    rfl
  · have hcheck : limits.checkCap cap 0 = .ok () := if_neg hcap
    have hseats : LawfulSeq.Holds [] cap (BoundedSeq.bounded cap : S) :=
      LawfulSeq.holds_bounded cap
    have hline : LawfulSeq.Holds [] limits.waitlistCapacity
        (BoundedSeq.bounded limits.waitlistCapacity : T) := LawfulSeq.holds_bounded _
    refine .inr ⟨_, by omega, by omega, by rw [make, hcheck]; rfl, ?_, hseats, hline⟩
    simp only [view, enrolled, waitlisted, Queue.toList, Queue.bounded, hseats.items, hline.items]

theorem sound_make {course : C} {cap : Nat} {limits : RosterLimits} {audited : Bool}
    (h : make course cap limits audited = .ok roster) :
    roster.Sound ∧ roster.limits = limits := by
  obtain ⟨-, hmake⟩ | ⟨made, hmin, hmax, hmake, hstands⟩ :=
    make_cases (S := S) (T := T) course cap limits audited
  · rw [hmake] at h
    cases h
  · rw [hmake] at h
    cases h
    refine ⟨hstands.sound ⟨hmin, hmax, Nat.zero_le _, Nat.zero_le _, List.Pairwise.nil⟩, ?_⟩
    exact congrArg RosterView.limits hstands.view_eq

/-- A roster starts with no one on it. -/
theorem view_make {course : C} {cap : Nat} {limits : RosterLimits} {audited : Bool}
    (h : make course cap limits audited = .ok roster) :
    roster.view = ⟨course, limits, cap, audited, [], []⟩ := by
  obtain ⟨-, hmake⟩ | ⟨made, -, -, hmake, hstands⟩ :=
    make_cases (S := S) (T := T) course cap limits audited
  · rw [hmake] at h
    cases h
  · rw [hmake] at h
    cases h
    exact hstands.view_eq

/-- How a call ends: it is refused, for no fault of a container, and nothing has changed, nor has
anything gone on the audit trail; or it is answered, and the roster is sound under the limits it
had. -/
def Settles {β : Type} (call : Call (Roster C S T × ω) RosterError β) (roster : Roster C S T)
    (world : ω) : Prop :=
  (∃ e notices, call (roster, world) = ⟨.error e, (roster, world), notices⟩ ∧
    (∀ fault, e ≠ .internal fault) ∧ Notice.audits notices = []) ∨
  ∃ answer heard, call.Answers (roster, world) answer
    (fun both => both.1.Sound ∧ both.1.limits = roster.limits) heard

namespace Settles

variable {β γ : Type} {call : Call (Roster C S T × ω) RosterError β} {world : ω}

theorem map (h : Settles call roster world) (f : β → γ) :
    Settles (do return f (← call)) roster world := by
  obtain ⟨e, notices, hcall, hfault, haudits⟩ | ⟨answer, heard, hcall⟩ := h
  · exact .inl ⟨e, notices, Call.bind_of_error hcall _, hfault, haudits⟩
  · exact .inr ⟨f answer, heard, hcall.bind_quiet fun _ ht => Call.Answers.pure ht⟩

theorem state (h : Settles call roster world) :
    (call (roster, world)).state.1.Sound ∧
      (call (roster, world)).state.1.limits = roster.limits ∨
      (call (roster, world)).state = (roster, world) := by
  obtain ⟨e, notices, hcall, -⟩ | ⟨answer, heard, hcall⟩ := h
  · rw [hcall]
    exact .inr rfl
  · exact .inl hcall.state

theorem result_ne_internal (h : Settles call roster world) (fault : SequenceError) :
    (call (roster, world)).result ≠ .error (.internal fault) := by
  obtain ⟨e, notices, hcall, hfault, -⟩ | ⟨answer, heard, hcall⟩ := h
  · rw [hcall]
    intro heq
    cases heq
    exact hfault fault rfl
  · rw [hcall.result]
    intro heq
    cases heq

theorem of_refused {e : RosterError} {notices : List Notice}
    (hcall : call (roster, world) = ⟨.error e, (roster, world), notices⟩)
    (hfault : ∀ fault, e ≠ .internal fault) (haudits : Notice.audits notices = []) :
    Settles call roster world :=
  .inl ⟨e, notices, hcall, hfault, haudits⟩

theorem of_stands {answer : β} {heard : List Notice} {view : RosterView C E} {told : ω}
    (hcall : call.Answers (roster, world) answer
      (fun both => ∃ t, Stands view t ∧ both = (t, told)) heard)
    (hlimits : view.limits = roster.limits) (hfits : view.Fits) : Settles call roster world := by
  refine .inr ⟨answer, heard, hcall.mono ?_⟩
  intro both hboth
  obtain ⟨t, ht, rfl⟩ := hboth
  exact ⟨ht.sound hfits, (congrArg RosterView.limits ht.view_eq).trans hlimits⟩

end Settles

variable [ToString C]

theorem Sound.setEnrollmentCap_settles (h : roster.Sound) (world : ω) (cap : Nat) :
    Settles (Call.onFirst (setEnrollmentCap cap)) roster world := by
  obtain ⟨hstands, hfits⟩ := h
  obtain ⟨-, hcall⟩ | ⟨hmin, hmax, henrolled, hcall⟩ := hstands.setEnrollmentCap_cases cap
  · exact Settles.of_refused (Call.onFirst_of_eq hcall world) nofun rfl
  · exact Settles.of_stands (hcall.onFirst world) rfl
      ⟨hmin, hmax, henrolled, hfits.waitlisted_le, hfits.distinct⟩

variable [ToString E]

theorem Sound.enroll_settles [PartialEquivBEq E] (h : roster.Sound) (world : ω)
    (entity : Option E) : Settles (Call.onFirst (enroll entity)) roster world := by
  obtain ⟨hstands, hfits⟩ := h
  cases entity with
  | none => exact Settles.of_refused rfl nofun rfl
  | some entity =>
    obtain ⟨-, hcall⟩ | ⟨-, -, hcall⟩ | ⟨hany, hopen, hcall⟩ | ⟨-, -, -, hcall⟩ |
      ⟨hany, -, hroom, hcall⟩ := hstands.enroll_cases entity
    · exact Settles.of_refused (Call.onFirst_of_eq hcall world) nofun rfl
    · exact Settles.of_refused (Call.onFirst_of_eq hcall world) nofun rfl
    · exact Settles.of_stands (hcall.onFirst world) rfl (hfits.seat hopen hany)
    · exact Settles.of_refused (Call.onFirst_of_eq hcall world) nofun rfl
    · exact Settles.of_stands (hcall.onFirst world) rfl (hfits.wait hroom hany)

theorem Sound.drop_settles (h : roster.Sound) (attach : Attach ω E C) (world : ω)
    (entity : Option E) : Settles (drop attach entity) roster world := by
  obtain ⟨hstands, hfits⟩ := h
  cases entity with
  | none => exact Settles.of_refused rfl nofun rfl
  | some entity =>
    obtain ⟨index, removed, -, -, hnone, hcall⟩ |
      ⟨index, removed, next, rest, hfound, hremoved, hnext, hcall⟩ |
      ⟨index, removed, -, -, -, hcall⟩ | ⟨-, -, hcall⟩ :=
      hstands.drop_cases hfits attach world entity
    · exact Settles.of_stands hcall rfl
        (hfits.sublist (List.eraseIdx_sublist _ _) (List.nil_sublist _))
    · have hlt := (List.findIdx?_eq_some_iff_getElem.mp hfound).1
      exact Settles.of_stands hcall rfl (hfits.replace hlt hnext)
    · exact Settles.of_stands hcall rfl
        (hfits.sublist (List.Sublist.refl _) (List.eraseIdx_sublist _ _))
    · exact Settles.of_refused hcall nofun rfl

end Roster

namespace RosterCall

open Roster

variable [ToString C] [ToString E] [PartialEquivBEq E] {limits : RosterLimits}

section

variable [LawfulSeq S E] [LawfulSeq T E] {roster : Roster C S T}

theorem perform_settles (h : roster.Sound) (attach : Attach ω E C) (world : ω)
    (call : RosterCall E) : Settles (perform attach call) roster world := by
  cases call with
  | enroll entity => exact (h.enroll_settles world entity).map RosterAnswer.placed
  | drop entity => exact (h.drop_settles attach world entity).map RosterAnswer.dropped
  | setEnrollmentCap cap =>
    exact (h.setEnrollmentCap_settles world cap).map fun _ => RosterAnswer.capped

theorem perform_sound (h : roster.Sound) (hlimits : roster.limits = limits)
    (attach : Attach ω E C) (world : ω) (call : RosterCall E) :
    (perform attach call (roster, world)).state.1.Sound ∧
      (perform attach call (roster, world)).state.1.limits = limits := by
  obtain ⟨hsound, hkept⟩ | hsame := (perform_settles h attach world call).state
  · exact ⟨hsound, hkept.trans hlimits⟩
  · rw [hsame]
    exact ⟨h, hlimits⟩

/-- A roster is sound after any calls, under the limits it was made with. -/
theorem sound_finalState {course : C} {cap : Nat} {audited : Bool}
    (hstart : make course cap limits audited = .ok roster) (attach : Attach ω E C) (world : ω)
    (calls : List (RosterCall E)) :
    (Call.finalState (perform attach) calls (roster, world)).1.Sound ∧
      (Call.finalState (perform attach) calls (roster, world)).1.limits = limits :=
  @Call.finalState_induction _ _ _ _ (perform attach)
    (fun both : Roster C S T × ω => both.1.Sound ∧ both.1.limits = limits)
    (fun call both h => perform_sound h.1 h.2 attach both.2 call) calls (roster, world)
    (sound_make hstart)

end

variable {seats waiting : Backend}

/-- On any storages, from any start that its limits allow, and however those told of their seats
answer: a roster is orderly after every run of calls, and none of the calls fails on a container. -/
theorem orderly_finalState {course : C} {cap : Nat} {audited : Bool}
    {start : Roster C (seats.Store E) (waiting.Store E)}
    (hstart : make course cap limits audited = .ok start) (attach : Attach ω E C) (world : ω)
    (calls : List (RosterCall E)) :
    (Call.finalState (perform attach) calls (start, world)).1.Orderly limits ∧
      ∀ reply ∈ Call.run (perform attach) calls (start, world),
        ∀ fault, reply.result ≠ .error (.internal fault) := by
  have hmake : (start, world).1.Sound ∧ (start, world).1.limits = limits := sound_make hstart
  have hstep : ∀ (call : RosterCall E) (both : Roster C (seats.Store E) (waiting.Store E) × ω),
      both.1.Sound ∧ both.1.limits = limits →
      (perform attach call both).state.1.Sound ∧
        (perform attach call both).state.1.limits = limits :=
    fun call both h => perform_sound h.1 h.2 attach both.2 call
  constructor
  · obtain ⟨hsound, hlimits⟩ := Call.finalState_induction hstep calls hmake
    have horderly := hsound.orderly
    rwa [hlimits] at horderly
  · refine Call.run_induction hstep ?_ calls hmake
    intro call both h
    exact (perform_settles h.1 attach both.2 call).result_ne_internal

/-- One seat and one place to wait, for three students who never take the course they get. -/
theorem orderly_finalState_students :
    let attach := recordedAttach fun _ _ _ => .error (.creditLimit 9)
    let calls : List (RosterCall Student) :=
      [enroll (some ⟨"ada", 9⟩), enroll (some ⟨"bob", 9⟩), enroll (some ⟨"cy", 9⟩),
        drop (some ⟨"ada", 9⟩), setEnrollmentCap 0, enroll none]
    ∃ start : Roster String (Backend.slots.Store Student) (Backend.chain.Store Student),
      make "Logic" 1 ⟨1, 2, 1⟩ true = .ok start ∧
      (Call.finalState (perform attach) calls (start, [])).1.Orderly ⟨1, 2, 1⟩ ∧
      (Call.finalState (perform attach) calls (start, [])).1.enrolled = [⟨"bob", 9⟩] := by
  have hmake : make "Logic" 1 ⟨1, 2, 1⟩ true =
      .ok (⟨"Logic", ⟨1, 2, 1⟩, 1, BoundedSeq.bounded 1, Queue.bounded 1, true⟩ :
        Roster String (Backend.slots.Store Student) (Backend.chain.Store Student)) := rfl
  exact ⟨_, hmake, (orderly_finalState hmake _ [] _).1, by decide +kernel⟩

end RosterCall

end Enrollment
