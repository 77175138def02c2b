import Enrollment.Proofs.Registrar.Requests

/-!
A call on a registrar that is refused changes nothing, whatever has happened to the registrar: calls
on it, and calls on schedules through handles on their students.
-/
namespace Enrollment

open Call (Spares)

/-- Refused requests change nothing where refused calls do not. -/
theorem EnrollmentRequest.Conveys.spares {α : Type} {request : EnrollmentRequest}
    {call : Call Registrar RegistrationError α} {respond : α → RosterSnapshot → EnrollmentResponse}
    {submit : Call Registrar String EnrollmentResponse} {registrar : Registrar}
    (h : request.Conveys (call registrar) respond (submit registrar))
    (hcall : Spares call registrar) : Spares submit registrar := by
  intro told htold
  rw [h.state_eq]
  cases hresult : (call registrar).result with
  | error e => exact hcall e hresult
  | ok a =>
    obtain ⟨roster, -, -, hanswered⟩ := h.answered a hresult
    cases hanswered.symm.trans htold

namespace Registrar.Stands

variable {view : RegistrarView} {registrar : Registrar}

theorem enroll_spares (h : Stands view registrar) (hfits : view.Fits) (hroom : ¬ view.Overfull)
    (id name code : String) : Spares (enroll id name code) registrar := by
  obtain ⟨e, heard, -, hcall⟩ | ⟨status, heard, after, -, hcall⟩ | ⟨hover, -⟩ :=
    h.enroll_cases hfits id name code
  · exact hcall.spares
  · exact hcall.spares
  · exact absurd hover hroom

theorem drop_spares (h : Stands view registrar) (hfits : view.Fits) (id name code : String) :
    Spares (drop id name code) registrar := by
  obtain ⟨e, heard, -, hcall⟩ | ⟨record, shown, outcome, heard, after, -, -, -, hcall⟩ :=
    h.drop_cases hfits id name code
  · exact hcall.spares
  · exact hcall.spares

end Registrar.Stands

namespace RegistrarEvent

/-- Whatever has happened to a registrar, a call or a request that is refused leaves it as it is, as
long as no schedule is full. -/
theorem spares_finalState {config : RegistrarConfig} {audit : Option AuditSink} {start : Registrar}
    (hstart : Registrar.make config audit = .ok start) (events : List RegistrarEvent)
    (hroom : ∀ id record, (Call.finalState perform events start).record id = .ok record →
      record.schedule.length < Bounds.count) :
    (∀ call : RegistrarCall, Spares call.perform (Call.finalState perform events start)) ∧
      ∀ request : EnrollmentRequest,
        Spares request.submitEnrollment (Call.finalState perform events start) ∧
        Spares request.submitDrop (Call.finalState perform events start) := by
  obtain ⟨view, hstands, hfits⟩ := sound_finalState hstart events
  -- Through a handle a schedule can fill up, and only a full one refuses after a seat is given.
  have hroom' : ¬ view.Overfull := by
    intro hover
    obtain ⟨id, shown, course, hseen, -, -, hle⟩ := hover
    obtain ⟨record, hfound, hrecord⟩ := hstands.record_eq hseen
    obtain rfl := hrecord.view_eq
    have hlt := hroom id record hfound
    rw [hrecord.sound.length_eq] at hlt
    exact Nat.not_le_of_lt hlt hle
  refine ⟨?_, ?_⟩
  · intro call
    obtain ⟨e, heard, hcall, -⟩ | ⟨answer, heard, after, -, hcall⟩ | ⟨hover, -⟩ :=
      hstands.perform_cases hfits call
    · exact hcall.spares
    · exact hcall.spares
    · exact absurd hover hroom'
  · intro request
    have henroll := hstands.enroll_spares hfits hroom' request.studentId request.courseName
      request.sectionCode
    have hdrop := hstands.drop_spares hfits request.studentId request.courseName
      request.sectionCode
    exact ⟨(hstands.submitEnrollment_conveys hfits request).spares henroll,
      (hstands.submitDrop_conveys hfits request).spares hdrop⟩

/-- Two students and one seat, and the one who has it has taken the course off the schedule: the
second enrollment of either is refused, and changes nothing. -/
theorem spares_finalState_students :
    let logic : Course := ⟨"Logic", "Logic", "001", 3, none, .arranged⟩
    let events : List RegistrarEvent :=
      [call (.addCourse logic 1), call (.addStudent "ada" 9), call (.addStudent "bob" 9),
        call (.enroll "ada" "Logic" "001"), call (.enroll "bob" "Logic" "001"),
        edit "ada" (.remove logic), renew "bob" [.setTitle "Spring"]]
    ∃ start, Registrar.make ⟨⟨1, 2, 1⟩, 3, 18⟩ (some (AuditSink.empty 8)) = .ok start ∧
      let left := Call.finalState perform events start
      ((RegistrarCall.enroll "ada" "Logic" "001").perform left).result =
        .error (.roster .alreadyEnrolled) ∧
      ((RegistrarCall.enroll "ada" "Logic" "001").perform left).state = left := by
  intro logic events
  have hmake : Registrar.make ⟨⟨1, 2, 1⟩, 3, 18⟩ (some (AuditSink.empty 8)) =
      .ok ⟨⟨⟨1, 2, 1⟩, 3, 18⟩, SortedList.empty, Directory.empty, Directory.empty,
        some (AuditSink.empty 8)⟩ := rfl
  refine ⟨_, hmake, ?_⟩
  intro left
  have hresult : ((RegistrarCall.enroll "ada" "Logic" "001").perform left).result =
      .error (.roster .alreadyEnrolled) := by decide +kernel
  have hroom : ∀ id record, left.record id = .ok record →
      record.schedule.length < Bounds.count := by
    have hall : ∀ record ∈ left.students.values, record.schedule.length < Bounds.count := by
      decide +kernel
    intro id record hrecord
    exact hall record (Directory.mem_values_of_find? (Registrar.find?_of_record hrecord))
  exact ⟨hresult, (spares_finalState hmake events hroom).1 _ _ hresult⟩

end RegistrarEvent

end Enrollment
