import Enrollment.Audit.Sink
import Enrollment.Config.Basic
import Enrollment.Directory
import Enrollment.Roster.Basic
import Enrollment.Sequence.SortedList
import Enrollment.Student

/-!
The registrar keeps a catalog of courses, a roster for each of them, and a record of each student.
A course is on a student's schedule because the student has a seat in it; every call here works on
both sides.
-/
namespace Enrollment

abbrev CourseRoster : Type := Roster Course (ChainList Student) (ChainList Student)

abbrev Students : Type := Directory String StudentRecord

namespace Students

variable {ε α : Type}

/-- The record of a student; one not on file has nothing scheduled. -/
def recordOf (students : Students) (student : Student) : StudentRecord :=
  (students.find? student.id).getD (StudentRecord.new student)

def onRecord (student : Student) (call : Call StudentRecord ε α) : Call Students ε α :=
  Call.within (fun students => students.recordOf student)
    (fun students record => students.put student.id record) call

def attach : Attach Students Student Course := fun student course =>
  onRecord student (StudentRecord.attach course)

def detach (student : Student) (course : Course) : Call Students ε Unit := do
  let _ ← onRecord student (StudentRecord.onSchedule (Schedule.remove course))

def detachAll (course : Course) : List Student → Call Students ε Unit
  | [] => pure ()
  | student :: rest => do
    detach student course
    detachAll course rest

end Students

structure Registrar where
  config : RegistrarConfig
  catalog : SortedList Course
  rosters : Directory (String × String) CourseRoster
  students : Students
  audit : Option AuditSink

namespace Registrar

variable {ε α : Type}

def make (config : RegistrarConfig) (audit : Option AuditSink) :
    Except RegistrationError Registrar := do
  config.validate.mapError .invalidConfig
  return {
    config, audit
    catalog := SortedList.empty
    rosters := Directory.empty
    students := Directory.empty }

def courses (registrar : Registrar) : List Course := registrar.catalog.toList

def course (registrar : Registrar) (name code : String) : Except RegistrationError Course :=
  match registrar.catalog.find? fun course => course.isNamed name code with
  | some course => .ok course
  | none => .error (.unknownCourse name code)

def record (registrar : Registrar) (id : String) : Except RegistrationError StudentRecord :=
  match registrar.students.find? id with
  | some record => .ok record
  | none => .error (.unknownStudent id)

def roster (registrar : Registrar) (name code : String) : Except RegistrationError CourseRoster :=
  match registrar.rosters.find? (name, code) with
  | some roster => .ok roster
  | none => .error (.unknownCourse name code)

def courseCount (registrar : Registrar) : Nat := registrar.catalog.length

def studentCount (registrar : Registrar) : Nat := registrar.students.size

def snapshots (registrar : Registrar) : List RosterSnapshot :=
  registrar.courses.filterMap fun course =>
    (registrar.rosters.find? course.key).map Roster.snapshot

def describe (registrar : Registrar) : String :=
  "Registrar \x7b config: " ++ registrar.config.describe ++
    s!", courses: {registrar.courseCount}, students: {registrar.studentCount}" ++
    s!", audit: {registrar.audit.isSome} " ++ "\x7d"

def onStudents (call : Call Students ε α) : Call Registrar ε α :=
  Call.within students (fun registrar students => { registrar with students }) call

def onCatalog (call : Call (SortedList Course) ε α) : Call Registrar ε α :=
  Call.within catalog (fun registrar catalog => { registrar with catalog }) call

/-- A call on a roster and the records of students.  The roster goes back under its key, and what
it had to say to the audit trail goes into the sink. -/
def onRoster (name code : String) (call : Call (CourseRoster × Students) RosterError α) :
    Call Registrar RegistrationError α := fun registrar =>
  match registrar.roster name code with
  | .error error => ⟨.error error, registrar, []⟩
  | .ok roster =>
    let reply := call (roster, registrar.students)
    let after := { registrar with
      rosters := registrar.rosters.put (name, code) reply.state.1
      students := reply.state.2
      audit := registrar.audit.map (·.file reply.notices) }
    ⟨reply.result.mapError .roster, after, reply.notices⟩

def addCourse (course : Course) (cap : Nat) : Call Registrar RegistrationError Unit := do
  let registrar ← Call.current
  Call.ofExcept course.validate
  if registrar.catalog.contains course then
    Call.refuse (.duplicateCourse course.name course.sectionCode)
  else
    let roster ← Call.ofExcept ((Roster.make course cap registrar.config.roster
      registrar.audit.isSome : Except RosterError CourseRoster).mapError .roster)
    Call.log .info "course added"
      [("course", .text course.describe), ("enrollment_cap", .count cap)]
    let _ ← (onCatalog (SortedList.add (some course))).mapError .catalog
    let registrar ← Call.current
    Call.become { registrar with rosters := registrar.rosters.put course.key roster }

/-- Take a course out of the catalog, and off the schedule of everyone with a seat in it; answers
whether there was one. -/
def removeCourse (name code : String) : Call Registrar ε Bool := do
  match ← onCatalog (SortedList.removeWhere fun course => course.isNamed name code) with
  | none => return false
  | some course =>
    let registrar ← Call.current
    match registrar.rosters.find? (name, code) with
    | some roster =>
      Call.become { registrar with rosters := registrar.rosters.erase (name, code) }
      onStudents (Students.detachAll course roster.enrolled)
    | none => pure ()
    Call.log .info "course removed" [("course", .text course.describe)]
    return true

def setEnrollmentCap (name code : String) (cap : Nat) : Call Registrar RegistrationError Unit :=
  onRoster name code (Call.onFirst (Roster.setEnrollmentCap cap))

def addStudent (id : String) (maxCredits : UInt32) : Call Registrar RegistrationError Student := do
  let registrar ← Call.current
  let config := registrar.config
  if maxCredits < config.minStudentCredits ∨ config.maxStudentCredits < maxCredits then
    Call.refuse (.invalidCredits maxCredits config.minStudentCredits config.maxStudentCredits)
  else if registrar.students.contains id then Call.refuse (.duplicateStudent id)
  else
    let student : Student := ⟨id, maxCredits⟩
    Call.become { registrar with
      students := registrar.students.put id (StudentRecord.new student) }
    Call.log .debug "student added"
      [("student", .text id), ("max_credits", .count maxCredits.toNat)]
    return student

def enter (name code : String) (student : Student) (course : Course) :
    Call Registrar RegistrationError EnrollmentStatus := do
  let status ← onRoster name code (Call.onFirst (Roster.enroll (some student)))
  if status = .enrolled then
    (onStudents (Students.attach student course)).mapError .schedule
  return status

/-- Give a student a seat in a course that fits on the student's schedule, or let the student
wait.  Only a seat puts the course on the schedule. -/
def enroll (id name code : String) : Call Registrar RegistrationError EnrollmentStatus := do
  let registrar ← Call.current
  let record ← Call.ofExcept (registrar.record id)
  let course ← Call.ofExcept (registrar.course name code)
  let roster ← Call.ofExcept (registrar.roster name code)
  let student := record.student
  if roster.isEnrolled student then Call.refuse (.roster .alreadyEnrolled)
  else if roster.isWaitlisted student then Call.refuse (.roster .alreadyWaitlisted)
  else
    match record.checkCanAdd course with
    | .error .overflow => Call.panic .overflow
    | .error error =>
      Call.log .debug s!"enrollment refused: {error.message}"
        [("student", .text id), ("course", .text course.describe)]
      Call.refuse error
    | .ok () => enter name code student course

def drop (id name code : String) : Call Registrar RegistrationError (DropOutcome Student) := do
  let registrar ← Call.current
  let record ← Call.ofExcept (registrar.record id)
  let roster ← Call.ofExcept (registrar.roster name code)
  let outcome ← onRoster name code (Roster.drop Students.attach (some record.student))
  onStudents (Students.detach record.student roster.course)
  return outcome

def leaveAll (student : Student) :
    List Course → Call Registrar RegistrationError (List (Course × DropOutcome Student))
  | [] => return []
  | course :: rest => do
    let registrar ← Call.current
    match registrar.rosters.find? course.key with
    | none => leaveAll student rest
    | some roster =>
      if roster.isEnrolled student || roster.isWaitlisted student then
        let outcome ← onRoster course.name course.sectionCode
          (Roster.drop Students.attach (some student))
        let left ← leaveAll student rest
        return (course, outcome) :: left
      else leaveAll student rest

/-- Take a student off every roster and waitlist, and everything off the student's schedule;
answers how many rosters the student left. -/
def resetSchedule (id : String) : Call Registrar RegistrationError Nat := do
  let registrar ← Call.current
  let record ← Call.ofExcept (registrar.record id)
  let left ← leaveAll record.student registrar.courses
  onStudents (Students.onRecord record.student (StudentRecord.onSchedule do
    let schedule ← Call.current
    Call.become schedule.reset))
  Call.log .info "schedule reset" [("student", .text id), ("rosters", .count left.length)]
  return left.length

end Registrar

end Enrollment
