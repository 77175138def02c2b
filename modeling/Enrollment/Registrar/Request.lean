import Enrollment.Registrar.Basic
import Enrollment.Roster.Form

/-!
Requests to a registrar and its responses, for use at a distance: refusals are sentences, and
every response tells how full the roster is afterwards.
-/
namespace Enrollment

open Json

structure EnrollmentRequest where
  studentId : String
  courseName : String
  sectionCode : String
  deriving DecidableEq, Repr

structure EnrollmentResponse where
  /-- Where the student landed; a drop has no status. -/
  status : Option EnrollmentStatus
  /-- The id of the student that a drop moved into a seat. -/
  promoted : Option String
  roster : RosterSnapshot
  deriving DecidableEq, Repr

namespace EnrollmentRequest

def snapshot (request : EnrollmentRequest) : Call Registrar RegistrationError RosterSnapshot := do
  let registrar ← Call.current
  let roster ← Call.ofExcept (registrar.roster request.courseName request.sectionCode)
  return roster.snapshot

def submitEnrollment (request : EnrollmentRequest) : Call Registrar String EnrollmentResponse :=
  Call.mapError RegistrationError.message do
    let status ← Registrar.enroll request.studentId request.courseName request.sectionCode
    let roster ← request.snapshot
    return { status := some status, promoted := none, roster }

def submitDrop (request : EnrollmentRequest) : Call Registrar String EnrollmentResponse :=
  Call.mapError RegistrationError.message do
    let outcome ← Registrar.drop request.studentId request.courseName request.sectionCode
    let promoted :=
      match outcome with
      | .withdrawn _ promotion => promotion.map (·.entity.id)
      | .leftWaitlist _ => none
    let roster ← request.snapshot
    return { status := none, promoted, roster }

def toJson (request : EnrollmentRequest) : Json :=
  .object [("student_id", .string request.studentId),
    ("course_name", .string request.courseName), ("section", .string request.sectionCode)]

def fields : List Field :=
  [field "student_id" Decoder.text, field "course_name" Decoder.text,
    field "section" Decoder.text]

def decode : Decoder EnrollmentRequest := fun reading => do
  let found ← Found.ofReading fields false reading
  let studentId ← found.get "student_id" Decoder.text
  let courseName ← found.get "course_name" Decoder.text
  let sectionCode ← found.get "section" Decoder.text
  return { studentId, courseName, sectionCode }

end EnrollmentRequest

namespace EnrollmentResponse

def toJson (response : EnrollmentResponse) : Json :=
  .object [("status", Json.optional EnrollmentStatus.toJson response.status),
    ("promoted", Json.optional .string response.promoted), ("roster", response.roster.toJson)]

def fields : List Field :=
  [field "status" (Decoder.optional EnrollmentStatus.decode),
    field "promoted" (Decoder.optional Decoder.text), field "roster" RosterSnapshot.decode]

def decode : Decoder EnrollmentResponse := fun reading => do
  let found ← Found.ofReading fields false reading
  let status ← found.getD "status" (Decoder.optional EnrollmentStatus.decode) none
  let promoted ← found.getD "promoted" (Decoder.optional Decoder.text) none
  let roster ← found.get "roster" RosterSnapshot.decode
  return { status, promoted, roster }

end EnrollmentResponse

end Enrollment
