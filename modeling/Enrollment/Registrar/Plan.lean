import Enrollment.Registrar.Basic

/-!
Plans for a registrar: all that is to be in it, added in one go, the courses first.
-/
namespace Enrollment

structure RegistrarPlan where
  config : RegistrarConfig
  audit : Option AuditSink
  courses : List (Course × Nat)
  students : List (String × UInt32)

namespace RegistrarPlan

def addCourses : List (Course × Nat) → Call Registrar RegistrationError Unit
  | [] => pure ()
  | (course, cap) :: rest => do
    Registrar.addCourse course cap
    addCourses rest

def addStudents : List (String × UInt32) → Call Registrar RegistrationError Unit
  | [] => pure ()
  | (id, maxCredits) :: rest => do
    let _ ← Registrar.addStudent id maxCredits
    addStudents rest

def fill (plan : RegistrarPlan) : Call Registrar RegistrationError Unit := do
  addCourses plan.courses
  addStudents plan.students
  let registrar ← Call.current
  Call.log .info "registrar built"
    [("courses", .count registrar.courseCount), ("students", .count registrar.studentCount)]

def build (plan : RegistrarPlan) : Except RegistrationError Registrar := do
  let registrar ← Registrar.make plan.config plan.audit
  let reply := plan.fill registrar
  reply.result
  return reply.state

end RegistrarPlan

end Enrollment
