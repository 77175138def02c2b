/-!
What an audit trail says about a change on a roster: who, where, which change, and a remark.
-/
namespace Enrollment

inductive AuditAction
  | enroll
  | waitlist
  | drop
  | leaveWaitlist
  | promote
  deriving DecidableEq, Repr

namespace AuditAction

def all : List AuditAction := [enroll, waitlist, drop, leaveWaitlist, promote]

def name : AuditAction → String
  | enroll => "enroll"
  | waitlist => "waitlist"
  | drop => "drop"
  | leaveWaitlist => "leave_waitlist"
  | promote => "promote"

end AuditAction

structure AuditEntry where
  entity : String
  roster : String
  action : AuditAction
  detail : Option String
  deriving DecidableEq, Repr

end Enrollment
