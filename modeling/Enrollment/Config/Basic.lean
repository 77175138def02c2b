import Enrollment.RegistrationError

/-!
The configuration of a registrar: the limits of its rosters and of its students' credits.
-/
namespace Enrollment

structure RegistrarConfig where
  roster : RosterLimits
  minStudentCredits : UInt32
  maxStudentCredits : UInt32
  deriving DecidableEq, Repr

namespace RegistrarConfig

def standard : RegistrarConfig := ⟨RosterLimits.standard, 3, 18⟩

def validate (config : RegistrarConfig) : Except ConfigFault Unit := do
  config.roster.validate.mapError .roster
  if config.minStudentCredits = 0 then throw .zeroMinCredits
  else if config.maxStudentCredits < config.minStudentCredits then
    throw (.maxCreditsBelowMin config.maxStudentCredits config.minStudentCredits)

def describe (config : RegistrarConfig) : String :=
  "RegistrarConfig \x7b roster: RosterConfig \x7b " ++
    s!"min_enrollment_cap: {config.roster.minCap}, max_enrollment_cap: {config.roster.maxCap}" ++
    s!", waitlist_capacity: {config.roster.waitlistCapacity} " ++ "\x7d" ++
    s!", min_student_credits: {config.minStudentCredits}" ++
    s!", max_student_credits: {config.maxStudentCredits} " ++ "\x7d"

end RegistrarConfig

end Enrollment
