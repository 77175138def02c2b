import Enrollment.Proofs.Registrar.Events
import Enrollment.Registrar.Request

/-!
Requests at a distance beside the calls that they make.  A request makes its call and then looks at
the roster: the look never fails where the call was answered, and what it sees balances.
-/
namespace Enrollment

def DropOutcome.promotedId : DropOutcome Student → Option String
  | withdrawn _ promotion => promotion.map (·.entity.id)
  | leftWaitlist _ => none

structure RosterSnapshot.Balances (snapshot : RosterSnapshot) : Prop where
  seats_eq : snapshot.enrolled + snapshot.openSeats = snapshot.enrollmentCap
  waitlisted_le : snapshot.waitlisted ≤ snapshot.waitlistCapacity

/-- A request that was submitted, beside the call that it makes: both leave the same; a refusal is
told in its own words, and an answer comes with how full the roster is afterwards. -/
structure EnrollmentRequest.Conveys {α : Type} (request : EnrollmentRequest)
    (made : Reply Registrar RegistrationError α)
    (respond : α → RosterSnapshot → EnrollmentResponse)
    (submitted : Reply Registrar String EnrollmentResponse) : Prop where
  state_eq : submitted.state = made.state
  refused : ∀ e, made.result = .error e → submitted.result = .error e.message
  answered : ∀ a, made.result = .ok a → ∃ roster,
    made.state.roster request.courseName request.sectionCode = .ok roster ∧
      roster.snapshot.Balances ∧ submitted.result = .ok (respond a roster.snapshot)

namespace RegistrarView.Leaves

variable {view after : RegistrarView} {student : Student} {key : String × String}
  {outcome : DropOutcome Student} {heard : List Notice} {shown : RosterView Course Student}

end RegistrarView.Leaves

namespace Registrar

variable {registrar : Registrar}

def Tells (registrar : Registrar) (request : EnrollmentRequest) : Prop :=
  ∃ view shown, Stands view registrar ∧ view.Fits ∧
    view.rosters (request.courseName, request.sectionCode) = some shown

/-- The look at the roster is at one that balances, and changes nothing. -/
theorem Tells.snapshot_eq {request : EnrollmentRequest} (h : registrar.Tells request) :
    ∃ roster, registrar.roster request.courseName request.sectionCode = .ok roster ∧
      roster.snapshot.Balances ∧
      request.snapshot registrar = ⟨.ok roster.snapshot, registrar, []⟩ := by
  obtain ⟨view, shown, hstands, hfits, hshown⟩ := h
  obtain ⟨roster, hfound, hroster⟩ := hstands.rosters.exists_roster hshown
  have horderly := (hroster.sound (hfits.roster_fits hshown)).orderly
  refine ⟨roster, roster_of_find? hfound, ⟨?_, horderly.waitlisted_le⟩, ?_⟩
  · exact (Nat.add_comm _ _).trans horderly.openSeats_add
  · simp [EnrollmentRequest.snapshot, roster_of_find? hfound]

/-- A request conveys a call after which there is a roster to look at. -/
theorem conveys_of_tells {α : Type} {call : Call Registrar RegistrationError α}
    {request : EnrollmentRequest}
    (hmade : ∀ a, (call registrar).result = .ok a → (call registrar).state.Tells request)
    (respond : α → RosterSnapshot → EnrollmentResponse) :
    request.Conveys (call registrar) respond (Call.mapError RegistrationError.message (do
      let a ← call
      let roster ← request.snapshot
      return respond a roster) registrar) := by
  cases hcall : call registrar with
  | mk result left notices =>
    cases result with
    | error e =>
      rw [Call.mapError_of_eq (Call.bind_of_error hcall _)]
      exact ⟨rfl, fun _ he => by cases he; rfl, nofun⟩
    | ok a =>
      rw [hcall] at hmade
      obtain ⟨roster, hroster, hbalances, hsnapshot⟩ := (hmade a rfl).snapshot_eq
      have hrespond := Call.bind_of_ok hcall fun a => do
        let roster ← request.snapshot
        return respond a roster
      rw [Call.bind_of_ok hsnapshot] at hrespond
      rw [Call.mapError_of_eq hrespond]
      refine ⟨rfl, nofun, ?_⟩
      intro answer hanswer
      cases hanswer
      exact ⟨roster, hroster, hbalances, rfl⟩

namespace Stands

variable {view : RegistrarView}

theorem submitEnrollment_conveys (h : Stands view registrar) (hfits : view.Fits)
    (request : EnrollmentRequest) :
    request.Conveys
      (enroll request.studentId request.courseName request.sectionCode registrar)
      (fun status roster => ⟨some status, none, roster⟩) (request.submitEnrollment registrar) := by
  apply conveys_of_tells
  intro status hstatus
  obtain ⟨e, heard, -, hcall⟩ | ⟨placed, heard, after, henters, hcall⟩ | ⟨-, ⟨e, hrefused⟩, -⟩ :=
    h.enroll_cases hfits request.studentId request.courseName request.sectionCode
  · cases hcall.result.symm.trans hstatus
  · obtain ⟨shown, hshown⟩ := henters.rosters_self
    exact ⟨after, shown, hcall.state, henters.fits hfits, hshown⟩
  · cases hrefused.symm.trans hstatus

theorem submitDrop_conveys (h : Stands view registrar) (hfits : view.Fits)
    (request : EnrollmentRequest) :
    request.Conveys
      (drop request.studentId request.courseName request.sectionCode registrar)
      (fun outcome roster => ⟨none, outcome.promotedId, roster⟩)
      (request.submitDrop registrar) := by
  apply conveys_of_tells
  intro outcome houtcome
  obtain ⟨e, heard, -, hcall⟩ |
    ⟨record, shown, dropped, heard, after, hrecord, -, hleaves, hcall⟩ :=
    h.drop_cases hfits request.studentId request.courseName request.sectionCode
  · cases hcall.result.symm.trans houtcome
  · obtain ⟨left, hleft⟩ := hleaves.rosters_self
    have hself := hleaves.record_eq hfits hrecord
    exact ⟨_, left, hcall.state, (hleaves.fits hfits).withRecord hself rfl, hleft⟩

end Stands

end Registrar

namespace RegistrarEvent

end RegistrarEvent

end Enrollment
