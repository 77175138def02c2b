import Enrollment.Json.Decoder
import Enrollment.Json.Value
import Enrollment.Roster.Outcome
import Enrollment.Sequence.Bounded

/-!
The JSON forms of what rosters answer.
-/
namespace Enrollment

open Json

def EnrollmentStatus.toJson (status : EnrollmentStatus) : Json := .string status.name

def EnrollmentStatus.decode : Decoder EnrollmentStatus :=
  Decoder.oneOf [("enrolled", .enrolled), ("waitlisted", .waitlisted)]

namespace RosterSnapshot

def toJson (snapshot : RosterSnapshot) : Json :=
  .object [("course", .string snapshot.course),
    ("enrollment_cap", .natural snapshot.enrollmentCap),
    ("enrolled", .natural snapshot.enrolled), ("open_seats", .natural snapshot.openSeats),
    ("waitlisted", .natural snapshot.waitlisted),
    ("waitlist_capacity", .natural snapshot.waitlistCapacity)]

def fields : List Field :=
  field "course" Decoder.text ::
    ["enrollment_cap", "enrolled", "open_seats", "waitlisted", "waitlist_capacity"].map
      fun name => field name (Decoder.natural Bounds.count)

def decode : Decoder RosterSnapshot := fun reading => do
  let found ← Found.ofReading fields false reading
  let count := Decoder.natural Bounds.count
  let course ← found.get "course" Decoder.text
  let enrollmentCap ← found.get "enrollment_cap" count
  let enrolled ← found.get "enrolled" count
  let openSeats ← found.get "open_seats" count
  let waitlisted ← found.get "waitlisted" count
  let waitlistCapacity ← found.get "waitlist_capacity" count
  return { course, enrollmentCap, enrolled, openSeats, waitlisted, waitlistCapacity }

end RosterSnapshot

end Enrollment
