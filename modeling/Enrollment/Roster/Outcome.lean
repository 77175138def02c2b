/-!
What calls on a roster answer: where an entity landed, what a drop led to, and how full the
roster is.
-/
namespace Enrollment

inductive EnrollmentStatus
  | enrolled
  | waitlisted
  deriving DecidableEq, Repr

def EnrollmentStatus.name : EnrollmentStatus → String
  | enrolled => "enrolled"
  | waitlisted => "waitlisted"

/-- An entity that moved from the waitlist into a seat, and whether its schedule took the
course. -/
structure Promotion (E : Type) where
  entity : E
  attached : Bool
  deriving DecidableEq, Repr

inductive DropOutcome (E : Type)
  /-- A seat was given up; the head of the waitlist may have moved into it. -/
  | withdrawn (entity : E) (promoted : Option (Promotion E))
  | leftWaitlist (entity : E)
  deriving DecidableEq, Repr

structure RosterSnapshot where
  course : String
  enrollmentCap : Nat
  enrolled : Nat
  openSeats : Nat
  waitlisted : Nat
  waitlistCapacity : Nat
  deriving DecidableEq, Repr

end Enrollment
