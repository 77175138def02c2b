import Enrollment.Proofs.Audit
import Enrollment.Proofs.Registrar.Calls
import Enrollment.Proofs.Silent

/-!
What goes into the sink of a registrar: just the audit entries that its calls give notice of, in
their order.
-/
namespace Enrollment

namespace Registrar

variable {ε ε' α β : Type} {call : Call Registrar ε α} {registrar : Registrar}

/-- What a call gives the audit trail goes into the sink, and nothing else does. -/
def Files (call : Call Registrar ε α) (registrar : Registrar) : Prop :=
  (call registrar).state.audit = registrar.audit.map (·.file (call registrar).notices)

namespace Files

theorem of_silent (h : call.Silent) (haudit : (call registrar).state.audit = registrar.audit) :
    Files call registrar := by
  rw [Files, haudit]
  cases registrar.audit with
  | none => rfl
  | some sink => exact congrArg some (AuditSink.file_of_audits (h registrar)).symm

theorem pure (a : α) : Files (Pure.pure a : Call Registrar ε α) registrar :=
  of_silent (Call.Silent.pure a) rfl

theorem refuse (e : ε) : Files (Call.refuse e : Call Registrar ε α) registrar :=
  of_silent (Call.Silent.refuse e) rfl

theorem panic (e : ε) : Files (Call.panic e : Call Registrar ε α) registrar :=
  of_silent (fun _ => rfl) rfl

theorem log (level : LogLevel) (message : String) (fields : List (String × LogValue)) :
    Files (Call.log level message fields : Call Registrar ε Unit) registrar :=
  of_silent (Call.Silent.log level message fields) rfl

theorem become {after : Registrar} (haudit : after.audit = registrar.audit) :
    Files (Call.become after : Call Registrar ε Unit) registrar :=
  of_silent (Call.Silent.become after) haudit

theorem ofExcept (check : Except ε α) :
    Files (Call.ofExcept check : Call Registrar ε α) registrar := by
  cases check with
  | ok a => exact pure a
  | error e => exact refuse e

theorem current_bind {next : Registrar → Call Registrar ε β}
    (h : Files (next registrar) registrar) : Files (Call.current >>= next) registrar := h

theorem bind {next : α → Call Registrar ε β} (h : Files call registrar)
    (hnext : ∀ a after, Files (next a) after) : Files (call >>= next) registrar := by
  rw [Files, Call.bind_apply]
  cases (call registrar).result with
  | error e => exact h
  | ok a =>
    have hboth := hnext a (call registrar).state
    rw [Files, h, Option.map_map] at hboth
    simp only [hboth, Function.comp_def, AuditSink.file_append]

theorem mapError (h : Files call registrar) (f : ε → ε') :
    Files (Call.mapError f call) registrar := h

theorem ite {other : Call Registrar ε α} {P : Prop} [Decidable P] (h : Files call registrar)
    (hother : Files other registrar) : Files (if P then call else other) registrar := by
  by_cases hP : P
  · rwa [if_pos hP]
  · rwa [if_neg hP]

theorem onStudents {call : Call Students ε α} (h : call.Silent) :
    Files (Registrar.onStudents call) registrar :=
  of_silent (h.within _ _) rfl

theorem onCatalog {call : Call (SortedList Course) ε α} (h : call.Silent) :
    Files (Registrar.onCatalog call) registrar :=
  of_silent (h.within _ _) rfl

theorem onRoster (name code : String) (call : Call (CourseRoster × Students) RosterError α) :
    Files (Registrar.onRoster name code call) registrar := by
  cases hroster : registrar.roster name code with
  | error e =>
    simp only [Files, Registrar.onRoster, hroster]
    cases registrar.audit <;> rfl
  | ok roster => simp only [Files, Registrar.onRoster, hroster]

end Files

theorem addCourse_files (course : Course) (cap : Nat) (registrar : Registrar) :
    Files (addCourse course cap) registrar := by
  refine Files.current_bind ((Files.ofExcept _).bind fun _ after => Files.ite (Files.refuse _) ?_)
  refine (Files.ofExcept _).bind fun roster after => (Files.log _ _ _).bind fun _ after => ?_
  refine ((Files.onCatalog (SortedList.minor_add _).silent).mapError _).bind fun _ after => ?_
  exact Files.current_bind (Files.become rfl)

theorem removeCourse_files (name code : String) (registrar : Registrar) :
    Files (removeCourse name code : Call Registrar ε Bool) registrar := by
  refine (Files.onCatalog (SortedList.minor_removeWhere _).silent).bind fun found after => ?_
  cases found with
  | none => exact Files.pure false
  | some course =>
    have hlog : ∀ after, Files (do
        Call.log .info "course removed" [("course", .text course.describe)]
        return true : Call Registrar ε Bool) after :=
      fun _ => (Files.log _ _ _).bind fun _ _ => Files.pure true
    refine Files.current_bind ?_
    cases after.rosters.find? (name, code) with
    | none => exact hlog after
    | some roster =>
      have herase : Files (Call.become { after with
          rosters := after.rosters.erase (name, code) } : Call Registrar ε Unit) after :=
        Files.become rfl
      refine herase.bind fun _ _ => ?_
      exact (Files.onStudents (Students.minor_detachAll _ _).silent).bind fun _ after => hlog after

theorem addStudent_files (id : String) (maxCredits : UInt32) (registrar : Registrar) :
    Files (addStudent id maxCredits) registrar := by
  refine Files.current_bind (Files.ite (Files.refuse _) (Files.ite (Files.refuse _) ?_))
  exact (Files.become rfl).bind fun _ after => (Files.log _ _ _).bind fun _ after => Files.pure _

theorem enter_files (name code : String) (student : Student) (course : Course)
    (registrar : Registrar) : Files (enter name code student course) registrar := by
  refine (Files.onRoster name code _).bind fun status after => Files.ite ?_ (Files.pure status)
  exact ((Files.onStudents (Students.silent_attach _ _)).mapError _).bind fun _ _ =>
    Files.pure status

theorem enroll_files (id name code : String) (registrar : Registrar) :
    Files (enroll id name code) registrar := by
  refine Files.current_bind ((Files.ofExcept _).bind fun record _ => ?_)
  refine (Files.ofExcept _).bind fun course _ => (Files.ofExcept _).bind fun roster after => ?_
  refine Files.ite (Files.refuse _) (Files.ite (Files.refuse _) ?_)
  cases record.checkCanAdd course with
  | error error =>
    cases error with
    | overflow => exact Files.panic _
    | _ => exact (Files.log _ _ _).bind fun _ _ => Files.refuse _
  | ok => exact enter_files name code record.student course after

theorem drop_files (id name code : String) (registrar : Registrar) :
    Files (drop id name code) registrar := by
  refine Files.current_bind ((Files.ofExcept _).bind fun record _ => ?_)
  refine (Files.ofExcept _).bind fun roster _ => ?_
  refine (Files.onRoster name code _).bind fun outcome _ => ?_
  exact (Files.onStudents (Students.minor_detach _ _).silent).bind fun _ _ => Files.pure outcome

theorem leaveAll_files (student : Student) (courses : List Course) (registrar : Registrar) :
    Files (leaveAll student courses) registrar := by
  induction courses generalizing registrar with
  | nil => exact Files.pure []
  | cons course rest ih =>
    refine Files.current_bind ?_
    cases registrar.rosters.find? course.key with
    | none => exact ih registrar
    | some roster =>
      refine Files.ite ((Files.onRoster _ _ _).bind fun outcome after => ?_) (ih registrar)
      exact (ih after).bind fun left _ => Files.pure _

theorem resetSchedule_files (id : String) (registrar : Registrar) :
    Files (resetSchedule id) registrar := by
  refine Files.current_bind ((Files.ofExcept _).bind fun record _ => ?_)
  refine (leaveAll_files _ _ _).bind fun left _ => ?_
  refine (Files.onStudents (Students.minor_reset _).silent).bind fun _ _ => ?_
  exact (Files.log _ _ _).bind fun _ _ => Files.pure _

theorem perform_files (call : RegistrarCall) (registrar : Registrar) :
    Files call.perform registrar := by
  cases call with
  | addCourse course cap =>
    exact (addCourse_files course cap registrar).bind fun _ _ => Files.pure _
  | removeCourse name code =>
    exact (removeCourse_files name code registrar).bind fun _ _ => Files.pure _
  | setEnrollmentCap name code cap =>
    exact (Files.onRoster name code _).bind fun _ _ => Files.pure _
  | addStudent id maxCredits =>
    exact (addStudent_files id maxCredits registrar).bind fun _ _ => Files.pure _
  | enroll id name code => exact (enroll_files id name code registrar).bind fun _ _ => Files.pure _
  | drop id name code => exact (drop_files id name code registrar).bind fun _ _ => Files.pure _
  | resetSchedule id => exact (resetSchedule_files id registrar).bind fun _ _ => Files.pure _

end Registrar

end Enrollment
