import Enrollment.Roster.Limits
import Enrollment.Roster.Outcome
import Enrollment.Schedule
import Enrollment.Sequence.Queue
import Enrollment.Text.Quoted

/-!
Rosters: seats up to a cap, and a waitlist for those who come when every seat is taken.  A seat
given up goes at once to the head of the waitlist, who is told through its own schedule; the
promotion stands even if that schedule rejects the course.
-/
namespace Enrollment

/-- How an entity is told of its seat: a call on the world `ω` that schedules live in. -/
abbrev Attach (ω E C : Type) : Type := E → C → Call ω ScheduleError Unit

structure Roster (C S T : Type) where
  course : C
  limits : RosterLimits
  enrollmentCap : Nat
  seats : S
  waitlist : Queue T
  /-- Whether changes give audit entries. -/
  audited : Bool

namespace Roster

variable {C E S T ω ε α : Type}

def onSeats (call : Call S ε α) : Call (Roster C S T) ε α :=
  Call.within seats (fun roster seats => { roster with seats }) call

def onWaitlist (call : Call (Queue T) ε α) : Call (Roster C S T) ε α :=
  Call.within waitlist (fun roster waitlist => { roster with waitlist }) call

variable [BoundedSeq S E] [BoundedSeq T E]

def make (course : C) (cap : Nat) (limits : RosterLimits) (audited : Bool) :
    Except RosterError (Roster C S T) := do
  limits.checkCap cap 0
  return {
    course, limits, audited
    enrollmentCap := cap
    seats := BoundedSeq.bounded cap
    waitlist := Queue.bounded limits.waitlistCapacity }

def enrolled (roster : Roster C S T) : List E := BoundedSeq.toList roster.seats

def waitlisted (roster : Roster C S T) : List E := roster.waitlist.toList

def enrolledCount (roster : Roster C S T) : Nat := BoundedSeq.length roster.seats

def waitlistCount (roster : Roster C S T) : Nat := roster.waitlist.length

def openSeats (roster : Roster C S T) : Nat := roster.enrollmentCap - roster.enrolledCount

section Texts

variable [ToString C]

def snapshot (roster : Roster C S T) : RosterSnapshot where
  course := toString roster.course
  enrollmentCap := roster.enrollmentCap
  enrolled := roster.enrolledCount
  openSeats := roster.openSeats
  waitlisted := roster.waitlistCount
  waitlistCapacity := roster.waitlist.capacity

def describe (roster : Roster C S T) : String :=
  "EnrollmentRoster \x7b course: " ++ Text.quoted (toString roster.course) ++
    s!", enrollment_cap: {roster.enrollmentCap}, enrolled: {roster.enrolledCount}" ++
    s!", waitlisted: {roster.waitlistCount}, .. " ++ "\x7d"

def log (level : LogLevel) (message : String) (fields : List (String × LogValue)) :
    Call (Roster C S T) ε Unit := do
  let roster ← Call.current
  Call.log level message (("course", .text (toString roster.course)) :: fields)

def record [ToString E] (entity : E) (action : AuditAction) (detail : Option String) :
    Call (Roster C S T) ε Unit := do
  let roster ← Call.current
  if roster.audited then
    Call.notify (.audit ⟨toString entity, toString roster.course, action, detail⟩)

/-- Change the cap.  No one is promoted, even into new seats. -/
def setEnrollmentCap (cap : Nat) : Call (Roster C S T) RosterError Unit := do
  let roster ← Call.current
  Call.ofExcept (roster.limits.checkCap cap roster.enrolledCount)
  (onSeats (BoundedSeq.setCapacity cap)).mapError .internal
  log .info "enrollment cap changed" [("cap", .count cap)]
  let roster ← Call.current
  Call.become { roster with enrollmentCap := cap }

end Texts

variable [BEq E]

def isEnrolled (roster : Roster C S T) (entity : E) : Bool :=
  BoundedSeq.contains roster.seats entity

def isWaitlisted (roster : Roster C S T) (entity : E) : Bool := roster.waitlist.contains entity

def canEnroll (roster : Roster C S T) : Option E → Bool
  | none => false
  | some entity =>
    if roster.isEnrolled entity || roster.isWaitlisted entity then false
    else roster.openSeats > 0 || !roster.waitlist.isFull

variable [ToString C] [ToString E]

def takeSeat (entity : E) : Call (Roster C S T) RosterError EnrollmentStatus := do
  (onSeats (BoundedSeq.push (some entity))).mapError .internal
  let roster ← Call.current
  match BoundedSeq.get roster.seats (roster.enrolledCount - 1) with
  | .ok seated => record seated .enroll none
  | .error _ => pure ()
  log .info "seat taken" [("enrolled", .count roster.enrolledCount)]
  return .enrolled

def takePlace (entity : E) : Call (Roster C S T) RosterError EnrollmentStatus := do
  (onWaitlist (Queue.enqueue (some entity))).mapError .internal
  let roster ← Call.current
  match BoundedSeq.get roster.waitlist.line (roster.waitlistCount - 1) with
  | .ok queued => record queued .waitlist none
  | .error _ => pure ()
  log .info "waitlisted" [("position", .count roster.waitlistCount)]
  return .waitlisted

def enroll : Option E → Call (Roster C S T) RosterError EnrollmentStatus
  | none => Call.refuse .nullEntity
  | some entity => do
    let roster ← Call.current
    if roster.isEnrolled entity then Call.refuse .alreadyEnrolled
    else if roster.isWaitlisted entity then Call.refuse .alreadyWaitlisted
    else if roster.openSeats > 0 then takeSeat entity
    else if roster.waitlist.isFull then
      log .debug "roster and waitlist full" []
      Call.refuse .noRoom
    else takePlace entity

def promoteHead (attach : Attach ω E C) :
    Call (Roster C S T × ω) RosterError (Option (Promotion E)) := do
  let (roster, _) ← Call.current
  if roster.waitlist.isEmpty || roster.openSeats == 0 then return none
  else
    let next ← Call.onFirst ((onWaitlist Queue.dequeue).mapError .internal)
    Call.onFirst ((onSeats (BoundedSeq.push (some next))).mapError .internal)
    let told ← Call.onSecond (Call.outcome (attach next roster.course))
    match told with
    | .ok () =>
      Call.onFirst (record next .promote none)
    | .error error =>
      Call.onFirst (log .warn
        s!"promoted entity's schedule rejected the course: {error.message}"
        [("entity", .text (toString next))])
      Call.onFirst (record next .promote (some "schedule rejected course"))
    Call.onFirst (log .info "promoted from waitlist" [])
    return some ⟨next, told.isOk⟩

/-- Take an entity off the roster or the waitlist; a seat given up is filled from the waitlist. -/
def drop (attach : Attach ω E C) :
    Option E → Call (Roster C S T × ω) RosterError (DropOutcome E)
  | none => Call.refuse .nullEntity
  | some entity => do
    let (roster, _) ← Call.current
    match BoundedSeq.position roster.seats entity with
    | some index =>
      let removed ← Call.onFirst ((onSeats (BoundedSeq.removeAt index)).mapError .internal)
      Call.onFirst (record removed .drop none)
      Call.onFirst (log .info "seat released" [])
      let promoted ← promoteHead attach
      return .withdrawn removed promoted
    | none =>
      match ← Call.onFirst (onWaitlist (Queue.removeItem entity)) with
      | some removed =>
        Call.onFirst (record removed .leaveWaitlist none)
        Call.onFirst (log .info "left waitlist" [])
        return .leftWaitlist removed
      | none =>
        Call.onFirst (log .debug "drop of unknown entity" [("entity", .text (toString entity))])
        Call.refuse .notFound

end Roster

/-- Telling that keeps a list of who was told of which course, and rejects by a verdict on the
list so far. -/
def recordedAttach {E C : Type} (verdict : List (E × C) → E → C → Except ScheduleError Unit) :
    Attach (List (E × C)) E C := fun entity course => do
  let told ← Call.current
  Call.become (told ++ [(entity, course)])
  Call.ofExcept (verdict told entity course)

end Enrollment
