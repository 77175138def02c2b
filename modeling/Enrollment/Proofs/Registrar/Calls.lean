import Enrollment.Proofs.Registrar.Moves
import Enrollment.Proofs.Run

/-!
The calls on a registrar as one kind of call, the seats that they give, and the step that each of
them takes where everything fits.
-/
namespace Enrollment

inductive SeatOrigin
  | enrolled
  | promoted (attached : Bool)
  deriving DecidableEq

structure SeatGrant where
  id : String
  key : String × String
  origin : SeatOrigin
  deriving DecidableEq

def EnrollmentStatus.grants (id : String) (key : String × String) :
    EnrollmentStatus → List SeatGrant
  | enrolled => [⟨id, key, .enrolled⟩]
  | waitlisted => []

def DropOutcome.grants (key : String × String) : DropOutcome Student → List SeatGrant
  | withdrawn _ (some promotion) => [⟨promotion.entity.id, key, .promoted promotion.attached⟩]
  | withdrawn _ none => []
  | leftWaitlist _ => []

def DropOutcome.grantsOfAll : List (Course × DropOutcome Student) → List SeatGrant
  | [] => []
  | (course, outcome) :: rest => grantsOfAll rest ++ outcome.grants course.key

inductive RegistrarCall
  | addCourse (course : Course) (cap : Nat)
  | removeCourse (name code : String)
  | setEnrollmentCap (name code : String) (cap : Nat)
  | addStudent (id : String) (maxCredits : UInt32)
  | enroll (id name code : String)
  | drop (id name code : String)
  | resetSchedule (id : String)

inductive RegistrarAnswer
  | done
  | removed (found : Bool)
  | added (student : Student)
  | placed (status : EnrollmentStatus)
  | dropped (outcome : DropOutcome Student)
  | left (count : Nat)
  deriving DecidableEq

namespace RegistrarCall

def perform : RegistrarCall → Call Registrar RegistrationError RegistrarAnswer
  | addCourse course cap => do
    Registrar.addCourse course cap
    return .done
  | removeCourse name code => do return .removed (← Registrar.removeCourse name code)
  | setEnrollmentCap name code cap => do
    Registrar.setEnrollmentCap name code cap
    return .done
  | addStudent id maxCredits => do return .added (← Registrar.addStudent id maxCredits)
  | enroll id name code => do return .placed (← Registrar.enroll id name code)
  | drop id name code => do return .dropped (← Registrar.drop id name code)
  | resetSchedule id => do return .left (← Registrar.resetSchedule id)

/-- The seats that a call gives, as its answer tells, the newest first.  A reset answers a number
only; its drops tell. -/
def grants (registrar : Registrar) : RegistrarCall → List SeatGrant
  | enroll id name code =>
    match (Registrar.enroll id name code registrar).result with
    | .ok status => status.grants id (name, code)
    | .error _ => []
  | drop id name code =>
    match (Registrar.drop id name code registrar).result with
    | .ok outcome => outcome.grants (name, code)
    | .error _ => []
  | resetSchedule id =>
    match registrar.record id with
    | .ok record =>
      match (Registrar.leaveAll record.student registrar.courses registrar).result with
      | .ok left => DropOutcome.grantsOfAll left
      | .error _ => []
    | .error _ => []
  | _ => []

def ledger : List RegistrarCall → Registrar → List SeatGrant → List SeatGrant
  | [], _, earlier => earlier
  | call :: rest, registrar, earlier =>
    ledger rest (call.perform registrar).state (call.grants registrar ++ earlier)

end RegistrarCall

/-- A step of a registrar: a call that is answered, the seats it gives, what is heard and what shows
afterwards. -/
inductive RegistrarView.Steps (view : RegistrarView) : RegistrarCall → RegistrarAnswer →
    List SeatGrant → List Notice → RegistrarView → Prop
  | addCourse {course : Course} {cap : Nat} {heard : List Notice} (hadd : view.CanAdd course cap) :
      Steps view (.addCourse course cap) .done [] heard (view.withCourse course cap)
  | removeCourse {course : Course} {shown : RosterView Course Student} {heard : List Notice}
      (hcourse : course ∈ view.courses) (hshown : view.rosters course.key = some shown) :
      Steps view (.removeCourse course.name course.sectionCode) (.removed true) [] heard
        (view.withoutCourse course shown.enrolled)
  | removeNothing {name code : String}
      (hnone : ∀ course ∈ view.courses, course.key ≠ (name, code)) :
      Steps view (.removeCourse name code) (.removed false) [] [] view
  | setEnrollmentCap {name code : String} {cap : Nat} {shown : RosterView Course Student}
      {heard : List Notice} (hshown : view.rosters (name, code) = some shown)
      (hmin : shown.limits.minCap ≤ cap) (hmax : cap ≤ shown.limits.maxCap)
      (henrolled : shown.enrolled.length ≤ cap) (hheard : Notice.audits heard = []) :
      Steps view (.setEnrollmentCap name code cap) .done [] heard
        (view.withRoster (name, code) { shown with enrollmentCap := cap } heard)
  | addStudent {id : String} {maxCredits : UInt32} {heard : List Notice}
      (hmin : view.config.minStudentCredits ≤ maxCredits)
      (hmax : maxCredits ≤ view.config.maxStudentCredits) (hnone : view.students id = none) :
      Steps view (.addStudent id maxCredits) (.added ⟨id, maxCredits⟩) [] heard
        (view.withRecord id ⟨⟨id, maxCredits⟩, Schedule.defaultTitle, []⟩)
  | enroll {id name code : String} {status : EnrollmentStatus} {heard : List Notice}
      {after : RegistrarView} (henters : view.Enters id (name, code) status heard after) :
      Steps view (.enroll id name code) (.placed status) (status.grants id (name, code)) heard after
  | drop {id name code : String} {record : RecordView} {shown : RosterView Course Student}
      {outcome : DropOutcome Student} {heard : List Notice} {after : RegistrarView}
      (hrecord : view.students id = some record) (hshown : view.rosters (name, code) = some shown)
      (hleaves : view.Leaves record.student (name, code) outcome heard after) :
      Steps view (.drop id name code) (.dropped outcome) (outcome.grants (name, code)) heard
        (after.withRecord id { record with items := record.items.eraseP (· == shown.course) })
  | resetSchedule {id : String} {record : RecordView} {left : List (Course × DropOutcome Student)}
      {heard more : List Notice} {after : RegistrarView} (hrecord : view.students id = some record)
      (hleaves : RegistrarView.LeavesAll record.student view view.courses left heard after) :
      Steps view (.resetSchedule id) (.left left.length) (DropOutcome.grantsOfAll left)
        (heard ++ more) (after.withRecord id ⟨record.student, Schedule.defaultTitle, []⟩)

theorem RegistrarView.Steps.fits {view after : RegistrarView} {call : RegistrarCall}
    {answer : RegistrarAnswer} {grants : List SeatGrant} {heard : List Notice}
    (h : view.Steps call answer grants heard after) (hfits : view.Fits) : after.Fits := by
  cases h with
  | addCourse hadd => exact hfits.withCourse hadd
  | removeCourse hcourse hshown => exact hfits.withoutCourse _ _
  | removeNothing hnone => exact hfits
  | setEnrollmentCap hshown hmin hmax henrolled => exact hfits.withCap hshown hmin hmax henrolled _
  | addStudent hmin hmax hnone => exact hfits.withStudent hnone _
  | enroll henters => exact henters.fits hfits
  | drop hrecord hshown hleaves =>
    exact (hleaves.fits hfits).withRecord (hleaves.record_eq hfits hrecord) rfl
  | resetSchedule hrecord hleaves =>
    exact (hleaves.fits hfits).withRecord (hleaves.record_eq hfits hrecord) rfl

namespace Registrar.Stands

variable {view : RegistrarView} {registrar : Registrar}

/-- Where everything fits, a call is refused and changes nothing, or takes a step, or a schedule is
overfull. -/
theorem perform_cases (h : Stands view registrar) (hfits : view.Fits) (call : RegistrarCall) :
    (∃ e heard, call.perform.Refuses registrar e heard ∧ call.grants registrar = []) ∨
    (∃ answer heard after, view.Steps call answer (call.grants registrar) heard after ∧
      call.perform.Answers registrar answer (Stands after) heard) ∨
    view.Overfull ∧ ∃ after, after.Fits ∧ Stands after (call.perform registrar).state := by
  cases call with
  | addCourse course cap =>
    obtain ⟨e, heard, -, hcall⟩ | ⟨hadd, hcall⟩ := h.addCourse_cases course cap
    · exact .inl ⟨e, heard, hcall.bind _, rfl⟩
    · exact .inr (.inl ⟨_, _, _, .addCourse hadd, hcall.map fun _ => RegistrarAnswer.done⟩)
  | removeCourse name code =>
    obtain ⟨hnone, hcall⟩ | ⟨course, shown, hcourse, hshown, hcall⟩ :=
      h.removeCourse_cases hfits name code
    · refine .inr (.inl ⟨_, _, _, .removeNothing ?_, hcall.map RegistrarAnswer.removed⟩)
      intro course hmem hkey
      exact List.find?_eq_none.mp hnone course hmem (Course.isNamed_iff.mpr hkey)
    · cases RegistrarView.key_of_find? hcourse
      exact .inr (.inl ⟨_, _, _, .removeCourse (List.mem_of_find?_eq_some hcourse) hshown,
        hcall.map RegistrarAnswer.removed⟩)
  | setEnrollmentCap name code cap =>
    obtain ⟨e, heard, hcall⟩ | ⟨shown, hshown, hmin, hmax, henrolled, hcall⟩ :=
      h.setEnrollmentCap_cases name code cap
    · exact .inl ⟨e, heard, hcall.bind _, rfl⟩
    · exact .inr (.inl ⟨_, _, _, .setEnrollmentCap hshown hmin hmax henrolled rfl,
        hcall.map fun _ => RegistrarAnswer.done⟩)
  | addStudent id maxCredits =>
    obtain ⟨e, -, hcall⟩ | ⟨⟨hmin, hmax, hnone⟩, hcall⟩ := h.addStudent_cases id maxCredits
    · exact .inl ⟨e, _, hcall.bind _, rfl⟩
    · exact .inr (.inl ⟨_, _, _, .addStudent hmin hmax hnone, hcall.map RegistrarAnswer.added⟩)
  | enroll id name code =>
    obtain ⟨e, heard, -, hcall⟩ | ⟨status, heard, after, henters, hcall⟩ |
      ⟨hover, -, after, hafter, hcall⟩ := h.enroll_cases hfits id name code
    · exact .inl ⟨e, heard, hcall.bind _, by rw [RegistrarCall.grants, hcall.result]⟩
    · have hgrants : (RegistrarCall.enroll id name code).grants registrar =
          status.grants id (name, code) := by
        rw [RegistrarCall.grants, hcall.result]
      rw [hgrants]
      exact .inr (.inl ⟨_, _, _, .enroll henters, hcall.map RegistrarAnswer.placed⟩)
    · refine .inr (.inr ⟨hover, after, hafter, ?_⟩)
      rw [RegistrarCall.perform, Call.bind_pure_apply]
      exact hcall
  | drop id name code =>
    obtain ⟨e, heard, -, hcall⟩ | ⟨record, shown, outcome, heard, after, hrecord, hshown, hleaves,
      hcall⟩ := h.drop_cases hfits id name code
    · exact .inl ⟨e, heard, hcall.bind _, by rw [RegistrarCall.grants, hcall.result]⟩
    · have hgrants : (RegistrarCall.drop id name code).grants registrar =
          outcome.grants (name, code) := by
        rw [RegistrarCall.grants, hcall.result]
      rw [hgrants]
      exact .inr (.inl ⟨_, _, _, .drop hrecord hshown hleaves, hcall.map RegistrarAnswer.dropped⟩)
  | resetSchedule id =>
    obtain ⟨hnone, hcall⟩ | ⟨record, left, heard, after, hrecord, hleaves, hleave, hcall⟩ :=
      h.resetSchedule_cases hfits id
    · refine .inl ⟨_, _, hcall.bind _, ?_⟩
      simp only [RegistrarCall.grants, h.record_unknown hnone]
    · have hgrants : (RegistrarCall.resetSchedule id).grants registrar =
          DropOutcome.grantsOfAll left := by
        obtain ⟨found, hfound, hview⟩ := h.record_eq hrecord
        obtain rfl := hview.view_eq
        have hresult : (leaveAll found.student registrar.courses registrar).result = .ok left :=
          hleave.result
        simp only [RegistrarCall.grants, hfound, hresult]
      rw [hgrants]
      exact .inr (.inl ⟨_, _, _, .resetSchedule hrecord hleaves, hcall.map RegistrarAnswer.left⟩)

end Registrar.Stands

end Enrollment
