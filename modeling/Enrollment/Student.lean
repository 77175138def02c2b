import Enrollment.Course.Basic
import Enrollment.Text.Quoted

/-!
Students, and the record that is kept of each: the student and the student's schedule.
-/
namespace Enrollment

structure Student where
  id : String
  maxCredits : UInt32
  deriving DecidableEq, Repr

namespace Student

def describe (student : Student) : String :=
  "Student \x7b id: " ++ Text.quoted student.id ++ s!", max_credits: {student.maxCredits}, .. " ++
    "\x7d"

instance : ToString Student := ⟨describe⟩

instance : BEq Student := ⟨fun a b => a.id == b.id⟩

theorem beq_iff {a b : Student} : (a == b) = true ↔ a.id = b.id := by
  show (a.id == b.id) = true ↔ a.id = b.id
  rw [beq_iff_eq]

theorem id_ne {a b : Student} (h : (a == b) = false) : a.id ≠ b.id := by
  rwa [Ne, ← beq_iff, Bool.not_eq_true]

instance : EquivBEq Student where
  rfl := beq_iff.mpr rfl
  symm h := beq_iff.mpr (beq_iff.mp h).symm
  trans h g := beq_iff.mpr ((beq_iff.mp h).trans (beq_iff.mp g))

end Student

namespace Credits

/-- The sum of two numbers of credits, if it is one: it has to fit in 32 bits. -/
def add? (a b : UInt32) : Option UInt32 :=
  if a.toNat + b.toNat < UInt32.size then some (a + b) else none

def sum? (credits : List UInt32) : Option UInt32 := credits.foldlM add? 0

end Credits

structure StudentRecord where
  student : Student
  schedule : Schedule Course
  deriving DecidableEq

namespace StudentRecord

variable {ε α : Type}

def new (student : Student) : StudentRecord := ⟨student, Schedule.empty⟩

def onSchedule (call : Call (Schedule Course) ε α) : Call StudentRecord ε α :=
  Call.within schedule (fun record schedule => { record with schedule }) call

/-- The credits of what is scheduled; none where they do not add up in 32 bits and adding them
panics. -/
def scheduledCredits (record : StudentRecord) : Option UInt32 :=
  Credits.sum? (record.schedule.toList.map Course.credits)

def creditsWith? (record : StudentRecord) (course : Course) : Option UInt32 := do
  Credits.add? (← record.scheduledCredits) course.credits

def checkCanAdd (record : StudentRecord) (course : Course) : Except RegistrationError Unit :=
  if !record.schedule.canAdd (some course) then .error (.cannotAdd (.clash course.describe))
  else
    match record.creditsWith? course with
    | none => .error .overflow
    | some total =>
      if record.student.maxCredits < total then
        .error (.cannotAdd (.overload course.describe total record.student.maxCredits))
      else .ok ()

/-- Whether the check passes.  A check that panics does not. -/
def canAdd (record : StudentRecord) (course : Course) : Bool := (record.checkCanAdd course).isOk

/-- Put a course on the schedule: the limit is looked at first, then the schedule. -/
def attach (course : Course) : Call StudentRecord ScheduleError Unit := do
  let record ← Call.current
  match record.creditsWith? course with
  | none => Call.panic .overflow
  | some total =>
    if record.student.maxCredits < total then Call.refuse (.creditLimit record.student.maxCredits)
    else onSchedule (Schedule.add (some course))

end StudentRecord

end Enrollment
