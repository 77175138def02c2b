import Enrollment.Proofs.Registrar.Catalog

/-!
What a drop comes to.  It reaches one roster and at most two schedules: whoever waited longest moves
into the seat given up, and the course goes on that student's schedule just when it could be added
to it before.  That nothing else leaves the schedule of the student who drops, and that the
schedule of the student who moves up says nothing new, is what the seats and schedules agree on.
-/
namespace Enrollment

namespace RecordView

def without (record : RecordView) (course : Course) : RecordView :=
  { record with items := record.items.filter (· ≠ course) }

end RecordView

namespace StudentRecord

variable {record : StudentRecord} {course : Course}

def offered (record : StudentRecord) (course : Course) : RecordView :=
  if record.canAdd course then { record.view with items := record.view.items ++ [course] }
  else record.view

theorem canAdd_iff : record.canAdd course = true ↔ record.view.Admits course := by
  rw [← checkCanAdd_eq_ok, canAdd]
  cases record.checkCanAdd course with
  | error e => exact iff_of_false Bool.false_ne_true nofun
  | ok => exact iff_of_true rfl rfl

end StudentRecord

namespace Registrar

inductive Drops (before : Registrar) (record : StudentRecord) (roster : CourseRoster) :
    Except RegistrationError (DropOutcome Student) → RegistrarView → Prop
  | alone (hseated : roster.isEnrolled record.student = true) (hline : roster.waitlisted = []) :
      Drops before record roster (.ok (.withdrawn record.student none))
        ((before.view.withRoster roster.course.key
          (roster.view.filled (roster.enrolled.filter (· ≠ record.student)) [])
          (roster.view.entry record.student .drop none)).withRecord record.student.id
            (record.view.without roster.course))
  | replaced {next : Student} {rest : List Student} {waiting : StudentRecord}
      (hseated : roster.isEnrolled record.student = true)
      (hline : roster.waitlisted = next :: rest) (hne : next.id ≠ record.student.id)
      (hwaiting : before.record next.id = .ok waiting) :
      Drops before record roster
        (.ok (.withdrawn record.student (some ⟨next, waiting.canAdd roster.course⟩)))
        (((before.view.withRoster roster.course.key
          (roster.view.filled (roster.enrolled.filter (· ≠ record.student) ++ [next]) rest)
          (roster.view.entry record.student .drop none ++ roster.view.entry next .promote
            (if waiting.canAdd roster.course then none else some "schedule rejected course"))
          ).withRecord next.id (waiting.offered roster.course)).withRecord record.student.id
            (record.view.without roster.course))
  | waiting (hseated : roster.isEnrolled record.student = false)
      (hwaiting : roster.isWaitlisted record.student = true) :
      Drops before record roster (.ok (.leftWaitlist record.student))
        (before.view.withRoster roster.course.key
          (roster.view.filled roster.enrolled (roster.waitlisted.filter (· ≠ record.student)))
          (roster.view.entry record.student .leaveWaitlist none))
  | absent (hseated : roster.isEnrolled record.student = false)
      (hwaiting : roster.isWaitlisted record.student = false) :
      Drops before record roster (.error (.roster .notFound)) before.view

namespace Drops

variable {before : Registrar} {record : StudentRecord} {roster : CourseRoster}
  {result : Except RegistrationError (DropOutcome Student)} {after : RegistrarView}

/-- The rosters of other courses are as they were. -/
theorem rosters_of_ne (h : before.Drops record roster result after) {key : String × String}
    (hkey : key ≠ roster.course.key) : after.rosters key = before.view.rosters key := by
  cases h with
  | alone => exact RegistrarView.withRoster_of_ne before.view hkey _ []
  | replaced => exact RegistrarView.withRoster_of_ne before.view hkey _ []
  | waiting => exact RegistrarView.withRoster_of_ne before.view hkey _ []
  | absent => rfl

theorem courses_eq (h : before.Drops record roster result after) :
    after.courses = before.view.courses := by
  cases h <;> rfl

end Drops

end Registrar

namespace RegistrarView

variable {view : RegistrarView} {ledger : List SeatGrant} {shown : RosterView Course Student}
  {key : String × String} {student : Student}

end RegistrarView

namespace Registrar

open RegistrarView

variable {registrar : Registrar} {record : StudentRecord} {roster : CourseRoster}
  {ledger : List SeatGrant} {outcome : DropOutcome Student} {heard : List Notice}
  {after : RegistrarView}

namespace Stands

section Leaving

variable (hstands : Stands registrar.view registrar) (hfits : registrar.view.Fits)
  (hrecord : registrar.view.students record.student.id = some record.view)
  (hroster : registrar.rosters.find? roster.course.key = some roster)

include hstands hfits hrecord hroster

end Leaving

end Stands

end Registrar

namespace RegistrarCall

open Registrar

end RegistrarCall

end Enrollment
