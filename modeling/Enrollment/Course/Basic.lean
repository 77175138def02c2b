import Enrollment.RegistrationError
import Enrollment.Text.Typed

/-!
Courses: one section of a course as the catalog offers it.  Two courses are the same if name and
section are; on a schedule the name alone identifies a course.
-/
namespace Enrollment

structure Course where
  name : String
  title : String
  sectionCode : String
  credits : UInt32
  instructorId : Option String
  meeting : Meeting
  deriving DecidableEq

namespace Course

def minCredits : UInt32 := 1

def maxCredits : UInt32 := 5

def isSectionCode (code : String) : Bool :=
  code.toList.length == 3 && code.toList.all Char.isDigit

/-- Pass a course whose fields follow the rules, told in the order of the fields. -/
def validate (course : Course) : Except RegistrationError Unit :=
  if Text.isBlank course.name then .error (.invalidCourse .emptyName)
  else if Text.isBlank course.title then .error (.invalidCourse .emptyTitle)
  else if !isSectionCode course.sectionCode then
    .error (.invalidCourse (.badSection course.sectionCode))
  else if course.credits < minCredits ∨ maxCredits < course.credits then
    .error (.invalidCredits course.credits minCredits maxCredits)
  else course.meeting.validate.mapError fun fault => .schedule (.invalidMeeting fault)

def make (name title sectionCode : String) (credits : UInt32) (instructorId : Option String)
    (meeting : Meeting) : Except RegistrationError Course := do
  let course : Course := { name, title, sectionCode, credits, instructorId, meeting }
  course.validate
  return course

def isNamed (course : Course) (name code : String) : Bool :=
  course.name == name && course.sectionCode == code

def assign (course : Course) (instructorId : Option String) : Course := { course with instructorId }

def key (course : Course) : String × String := (course.name, course.sectionCode)

def describe (course : Course) : String := s!"{course.name}-{course.sectionCode}"

instance : ToString Course := ⟨describe⟩

instance : BEq Course := ⟨fun a b => a.isNamed b.name b.sectionCode⟩

theorem isNamed_iff {course : Course} {name code : String} :
    course.isNamed name code = true ↔ course.key = (name, code) := by
  simp [isNamed, key]

theorem beq_iff {a b : Course} : (a == b) = true ↔ a.key = b.key := isNamed_iff

theorem key_ne {a b : Course} (h : (a == b) = false) : a.key ≠ b.key := by
  rwa [Ne, ← beq_iff, Bool.not_eq_true]

instance : EquivBEq Course where
  rfl := beq_iff.mpr rfl
  symm h := beq_iff.mpr (beq_iff.mp h).symm
  trans h g := beq_iff.mpr ((beq_iff.mp h).trans (beq_iff.mp g))

instance : Ord Course :=
  ⟨fun a b => (compare a.name b.name).then (compare a.sectionCode b.sectionCode)⟩

instance : Schedulable Course String where
  identity course := course.name
  meeting course := course.meeting

theorem identity_beq {a b : Course} (h : (a == b) = true) :
    (Schedulable.identity a == Schedulable.identity b) = true :=
  beq_iff_eq.mpr (congrArg Prod.fst (beq_iff.mp h))

end Course

end Enrollment
