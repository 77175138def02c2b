import Enrollment.Proofs.Registrar.Calls

/-!
What may happen to a registrar: calls on it, and calls on schedules through handles on their
students.  Whatever happens, what shows of the registrar fits together.
-/
namespace Enrollment

inductive RegistrarEvent
  | call (made : RegistrarCall)
  /-- A call on the schedule of a student. -/
  | edit (id : String) (made : ScheduleCall Course)
  /-- A schedule made anew by some calls takes the place of that of a student. -/
  | renew (id : String) (made : List (ScheduleCall Course))

namespace Registrar

variable {α : Type}

/-- A call on the schedule of the student with an id, through a handle on the student. -/
def onSchedule (id : String) (call : Call (Schedule Course) ScheduleError α) :
    Call Registrar RegistrationError α := do
  let registrar ← Call.current
  let record ← Call.ofExcept (registrar.record id)
  (onStudents (Students.onRecord record.student (StudentRecord.onSchedule call))).mapError .schedule

def Sound (registrar : Registrar) : Prop := ∃ view, Stands view registrar ∧ view.Fits

theorem Sound.of_make {config : RegistrarConfig} {audit : Option AuditSink} {registrar : Registrar}
    (hmake : make config audit = .ok registrar) : registrar.Sound :=
  ⟨_, Stands.of_make hmake, RegistrarView.fits_opened config audit⟩

theorem Sound.perform {registrar : Registrar} (h : registrar.Sound) (call : RegistrarCall) :
    (call.perform registrar).state.Sound := by
  obtain ⟨view, hstands, hfits⟩ := h
  obtain ⟨e, heard, hcall, -⟩ | ⟨answer, heard, after, hsteps, hcall⟩ |
    ⟨-, after, hafter, hcall⟩ := hstands.perform_cases hfits call
  · rw [hcall.state]
    exact ⟨view, hstands, hfits⟩
  · exact ⟨after, hcall.state, hsteps.fits hfits⟩
  · exact ⟨after, hcall, hafter⟩

theorem Sound.onSchedule {registrar : Registrar} (h : registrar.Sound) (id : String)
    {call : Call (Schedule Course) ScheduleError α}
    (hcall : ∀ schedule : Schedule Course, schedule.Sound → (call schedule).state.Sound) :
    (Registrar.onSchedule id call registrar).state.Sound := by
  obtain ⟨view, hstands, hfits⟩ := h
  cases hseen : view.students id with
  | none =>
    have hrefused : (Registrar.onSchedule id call).Refuses registrar (.unknownStudent id) [] :=
      Call.Refuses.current_bind (Call.Refuses.ofExcept_error (hstands.record_unknown hseen) _)
    rw [hrefused.state]
    exact ⟨view, hstands, hfits⟩
  | some record =>
    obtain ⟨found, hfound, hview⟩ := hstands.students.exists_record hseen
    obtain rfl := hview.view_eq
    obtain rfl : found.student.id = id := hfits.id_eq hseen
    have hstate : (Registrar.onSchedule found.student.id call registrar).state =
        { registrar with
          students := registrar.students.put found.student.id
            ⟨found.student, (call found.schedule).state⟩ } := by
      simp [Registrar.onSchedule, record, hfound, Call.mapError, onStudents, Students.onRecord,
        StudentRecord.onSchedule, Call.within, Students.recordOf]
    have hsound := hcall found.schedule hview.sound
    have hrecord : StudentRecord.Shows _ ⟨found.student, (call found.schedule).state⟩ :=
      StudentRecord.shows_of_schedule ⟨hsound, rfl, rfl⟩
    rw [hstate]
    exact ⟨_, hstands.with_students (hstands.students.put hrecord), hfits.withRecord hseen rfl⟩

end Registrar

def RegistrarEvent.perform : RegistrarEvent → Call Registrar RegistrationError Unit
  | call made => do let _ ← made.perform
  | edit id made => Registrar.onSchedule id made.perform
  | renew id made =>
    Registrar.onSchedule id
      (Call.become (Call.finalState ScheduleCall.perform made Schedule.empty))

namespace Registrar.Sound

variable {registrar : Registrar}

theorem event (h : registrar.Sound) (event : RegistrarEvent) :
    (event.perform registrar).state.Sound := by
  cases event with
  | call made =>
    rw [RegistrarEvent.perform, Call.bind_pure_apply made.perform fun _ => ()]
    exact h.perform made
  | edit id made => exact h.onSchedule id fun _ hschedule => hschedule.perform made
  | renew id made =>
    apply h.onSchedule id
    intro _ _
    exact Call.finalState_induction (fun call _ hschedule => hschedule.perform call) made
      Schedule.sound_empty

end Registrar.Sound

/-- Whatever happens to a registrar, it stays sound. -/
theorem RegistrarEvent.sound_finalState {config : RegistrarConfig} {audit : Option AuditSink}
    {start : Registrar} (hstart : Registrar.make config audit = .ok start)
    (events : List RegistrarEvent) : (Call.finalState perform events start).Sound :=
  Call.finalState_induction (fun event _ h => h.event event) events
    (Registrar.Sound.of_make hstart)

end Enrollment
