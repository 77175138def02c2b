import Enrollment.Config.Basic
import Enrollment.Json.Decoder
import Enrollment.Json.Value

/-!
The JSON form of configurations.  Every field may be missing and then has its standard value; in
an array fields may be missing at the end.
-/
namespace Enrollment

open Json

namespace RosterLimits

def toJson (limits : RosterLimits) : Json :=
  .object [("min_enrollment_cap", .natural limits.minCap),
    ("max_enrollment_cap", .natural limits.maxCap),
    ("waitlist_capacity", .natural limits.waitlistCapacity)]

def fields : List Field :=
  [field "min_enrollment_cap" (Decoder.natural Bounds.count),
    field "max_enrollment_cap" (Decoder.natural Bounds.count),
    field "waitlist_capacity" (Decoder.natural Bounds.count)]

def decode : Decoder RosterLimits := fun reading => do
  let found ← Found.ofReading fields true reading
  let count := Decoder.natural Bounds.count
  let minCap ← found.getD "min_enrollment_cap" count standard.minCap
  let maxCap ← found.getD "max_enrollment_cap" count standard.maxCap
  let waitlistCapacity ← found.getD "waitlist_capacity" count standard.waitlistCapacity
  return { minCap, maxCap, waitlistCapacity }

end RosterLimits

inductive ConfigTextFault
  | unreadable (error : DecodeError)
  | invalid (fault : ConfigFault)
  deriving DecidableEq, Repr

namespace RegistrarConfig

def toJson (config : RegistrarConfig) : Json :=
  .object [("roster", config.roster.toJson),
    ("min_student_credits", .natural config.minStudentCredits.toNat),
    ("max_student_credits", .natural config.maxStudentCredits.toNat)]

def decodeCredits : Decoder UInt32 := fun reading =>
  (Decoder.natural Bounds.credits reading).map UInt32.ofNat

def fields : List Field :=
  [field "roster" RosterLimits.decode, field "min_student_credits" decodeCredits,
    field "max_student_credits" decodeCredits]

def decode : Decoder RegistrarConfig := fun reading => do
  let found ← Found.ofReading fields true reading
  let roster ← found.getD "roster" RosterLimits.decode standard.roster
  let minStudentCredits ←
    found.getD "min_student_credits" decodeCredits standard.minStudentCredits
  let maxStudentCredits ←
    found.getD "max_student_credits" decodeCredits standard.maxStudentCredits
  return { roster, minStudentCredits, maxStudentCredits }

def render (config : RegistrarConfig) : String := config.toJson.render

def ofText (text : String) : Except ConfigTextFault RegistrarConfig := do
  let config ← (decodeText decode text).mapError .unreadable
  config.validate.mapError .invalid
  return config

end RegistrarConfig

end Enrollment
