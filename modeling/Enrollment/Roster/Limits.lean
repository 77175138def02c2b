import Enrollment.Sequence.Bounded

/-!
The bounds of a roster's enrollment cap and of its waitlist, and why a roster refuses a call.
-/
namespace Enrollment

structure RosterLimits where
  minCap : Nat
  maxCap : Nat
  waitlistCapacity : Nat
  deriving DecidableEq, Repr

inductive RosterError
  | nullEntity
  | alreadyEnrolled
  | alreadyWaitlisted
  | noRoom
  | notFound
  /-- The cap is outside its bounds or below the number of taken seats. -/
  | invalidCapacity (requested min max enrolled : Nat)
  /-- A container refused what the roster had passed. -/
  | internal (error : SequenceError)
  deriving DecidableEq, Repr

namespace RosterError

def message : RosterError → String
  | nullEntity => "null entity"
  | alreadyEnrolled => "already enrolled"
  | alreadyWaitlisted => "already waitlisted"
  | noRoom => "no room in roster or waitlist"
  | notFound => "entity not found"
  | invalidCapacity requested min max enrolled =>
    s!"invalid enrollment cap {requested} (allowed {min}..={max}, enrolled {enrolled})"
  | internal error => s!"roster invariant violated: {error.message}"

end RosterError

inductive LimitsFault
  | zeroMinCap
  | maxCapBelowMin (max min : Nat)
  deriving DecidableEq, Repr

def LimitsFault.message : LimitsFault → String
  | zeroMinCap => "min_enrollment_cap must be greater than 0"
  | maxCapBelowMin max min => s!"max_enrollment_cap {max} is below min_enrollment_cap {min}"

namespace RosterLimits

def validate (limits : RosterLimits) : Except LimitsFault Unit :=
  if limits.minCap = 0 then .error .zeroMinCap
  else if limits.maxCap < limits.minCap then
    .error (.maxCapBelowMin limits.maxCap limits.minCap)
  else .ok ()

def standard : RosterLimits := ⟨10, 250, 10⟩

/-- Pass a cap that is within the limits and leaves every enrolled entity its seat. -/
def checkCap (limits : RosterLimits) (cap enrolled : Nat) : Except RosterError Unit :=
  if cap < limits.minCap ∨ cap > limits.maxCap ∨ cap < enrolled then
    .error (.invalidCapacity cap limits.minCap limits.maxCap enrolled)
  else .ok ()

end RosterLimits

end Enrollment
