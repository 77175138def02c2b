import Enrollment.Roster.Limits
import Enrollment.Schedule

/-!
Why a registrar refuses a call, and what can be wrong with a course or a configuration.
-/
namespace Enrollment

inductive CourseFault
  | emptyName
  | emptyTitle
  | badSection (code : String)
  deriving DecidableEq, Repr

def CourseFault.message : CourseFault → String
  | emptyName => "empty name"
  | emptyTitle => "empty title"
  | badSection code => s!"section `{code}` must be three digits"

inductive ConfigFault
  | roster (fault : LimitsFault)
  | zeroMinCredits
  | maxCreditsBelowMin (max min : UInt32)
  deriving DecidableEq, Repr

def ConfigFault.message : ConfigFault → String
  | roster fault => s!"roster invalid: {fault.message}"
  | zeroMinCredits => "min_student_credits must be greater than 0"
  | maxCreditsBelowMin max min =>
    s!"max_student_credits {max} is below min_student_credits {min}"

inductive Misfit
  /-- It has the name of a scheduled course or meets at its time. -/
  | clash (course : String)
  /-- It brings the credits to a total above the limit. -/
  | overload (course : String) (total limit : UInt32)
  deriving DecidableEq, Repr

def Misfit.message : Misfit → String
  | clash course => s!"{course} is a duplicate of or conflicts with a scheduled course"
  | overload course total limit => s!"{course} would raise credits to {total}, above {limit}"

inductive RegistrationError
  | unknownCourse (name code : String)
  | unknownStudent (id : String)
  | duplicateCourse (name code : String)
  | duplicateStudent (id : String)
  | invalidCredits (value min max : UInt32)
  | invalidCourse (fault : CourseFault)
  | invalidConfig (fault : ConfigFault)
  | cannotAdd (misfit : Misfit)
  /-- The credits do not add up in 32 bits.  Nobody is told: the call panics. -/
  | overflow
  | roster (error : RosterError)
  | schedule (error : ScheduleError)
  | catalog (error : SequenceError)
  deriving DecidableEq, Repr

def RegistrationError.message : RegistrationError → String
  | unknownCourse name code => s!"unknown course {name}-{code}"
  | unknownStudent id => s!"unknown student {id}"
  | duplicateCourse name code => s!"duplicate course {name}-{code}"
  | duplicateStudent id => s!"duplicate student {id}"
  | invalidCredits value min max => s!"invalid credits {value} (allowed {min}..={max})"
  | invalidCourse fault => s!"invalid course: {fault.message}"
  | invalidConfig fault => s!"config invalid: {fault.message}"
  | cannotAdd misfit => s!"cannot add course: {misfit.message}"
  | overflow => ScheduleError.overflow.message
  | roster error => error.message
  | schedule error => error.message
  | catalog error => error.message

end Enrollment
