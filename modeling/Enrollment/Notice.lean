import Enrollment.Audit.Entry

/-!
What a call gives notice of while it runs: lines for the log and entries for the audit trail, in
one sequence, so that their order relative to each other is kept.  A panic is a notice too: the
program stops there, and nobody sees what comes after.
-/
namespace Enrollment

inductive LogLevel
  | trace
  | debug
  | info
  | warn
  deriving DecidableEq, Repr

inductive LogValue
  | text (value : String)
  | count (value : Nat)
  deriving DecidableEq, Repr

structure LogLine where
  level : LogLevel
  message : String
  fields : List (String × LogValue)
  deriving DecidableEq, Repr

inductive Notice
  | log (line : LogLine)
  | audit (entry : AuditEntry)
  | panic
  deriving DecidableEq, Repr

namespace Notice

def logs (notices : List Notice) : List LogLine :=
  notices.filterMap fun
    | log line => some line
    | _ => none

def audits (notices : List Notice) : List AuditEntry :=
  notices.filterMap fun
    | audit entry => some entry
    | _ => none

@[simp] theorem logs_append (a b : List Notice) : logs (a ++ b) = logs a ++ logs b :=
  List.filterMap_append

@[simp] theorem audits_append (a b : List Notice) : audits (a ++ b) = audits a ++ audits b :=
  List.filterMap_append

/-- Whether a notice is a log line about inner workings only. -/
def isTrace : Notice → Bool
  | log line => line.level == .trace
  | _ => false

def heard (notices : List Notice) : List Notice := notices.filter (!·.isTrace)

@[simp] theorem heard_append (a b : List Notice) : heard (a ++ b) = heard a ++ heard b :=
  List.filter_append a b

theorem audits_heard (notices : List Notice) : audits (heard notices) = audits notices := by
  induction notices with
  | nil => rfl
  | cons notice rest ih =>
    cases notice with
    | log line =>
      by_cases h : line.level = .trace <;> simpa [heard, isTrace, audits, h] using ih
    | audit entry => simpa [heard, isTrace, audits] using ih
    | panic => simpa [heard, isTrace, audits] using ih

end Notice

end Enrollment
