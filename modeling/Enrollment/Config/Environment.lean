import Enrollment.Call
import Enrollment.Config.Basic
import Enrollment.Directory
import Enrollment.Text.Typed

/-!
Configurations from an environment: five variables, each a number, over the standard values.  A
variable whose bytes are no text counts as not set.  The environment is loaded first, which may set
more variables.
-/
namespace Enrollment

/-- The variables that are set, with their bytes. -/
abbrev Environment : Type := Directory String ByteArray

def Environment.text? (environment : Environment) (key : String) : Option String :=
  (environment.find? key).bind String.fromUTF8?

inductive EnvironmentFault
  | notNumber (key text : String) (cause : Text.NumberFault)
  | invalid (fault : ConfigFault)
  deriving DecidableEq, Repr

namespace EnvironmentFault

def message : EnvironmentFault → String
  | notNumber key text _ => s!"{key} must be a number, got `{text}`"
  | invalid fault => fault.message

def causes : EnvironmentFault → List String
  | notNumber _ _ cause => [cause.message]
  | invalid _ => []

end EnvironmentFault

namespace Environment

/-- The number a variable is set to, white space around it put aside, or another if it is not
set. -/
def numberD (environment : Environment) (key : String) (bound default : Nat) :
    Except EnvironmentFault Nat :=
  match environment.text? key with
  | none => .ok default
  | some text =>
    (Text.readUnsigned bound (Text.trim text).toList).mapError (.notNumber key text)

def creditsD (environment : Environment) (key : String) (default : UInt32) :
    Except EnvironmentFault UInt32 :=
  (environment.numberD key Bounds.credits default.toNat).map UInt32.ofNat

def toConfig (environment : Environment) : Except EnvironmentFault RegistrarConfig := do
  let standard := RegistrarConfig.standard
  let minCap ← environment.numberD "ROSTER_MIN_CAP" Bounds.count standard.roster.minCap
  let maxCap ← environment.numberD "ROSTER_MAX_CAP" Bounds.count standard.roster.maxCap
  let waitlistCapacity ←
    environment.numberD "ROSTER_WAITLIST_CAPACITY" Bounds.count standard.roster.waitlistCapacity
  let minCredits ← environment.creditsD "STUDENT_MIN_CREDITS" standard.minStudentCredits
  let maxCredits ← environment.creditsD "STUDENT_MAX_CREDITS" standard.maxStudentCredits
  let config : RegistrarConfig := ⟨⟨minCap, maxCap, waitlistCapacity⟩, minCredits, maxCredits⟩
  config.validate.mapError .invalid
  return config

end Environment

/-- Load the environment, and make a configuration of what it is then.  It makes no difference
whether the loading is refused. -/
def RegistrarConfig.ofEnvironment {ε : Type} (load : Call Environment ε Unit) :
    Call Environment EnvironmentFault RegistrarConfig := do
  let _ ← Call.attempt load
  Call.ofExcept (← Call.current).toConfig

end Enrollment
