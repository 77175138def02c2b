import Enrollment.Audit.Entry
import Enrollment.Notice

/-!
A sink keeps the newest audit entries, oldest first.  Recording makes room before it appends, so
a sink that may hold nothing still holds the entry just recorded.
-/
namespace Enrollment

structure AuditSink where
  maxEvents : Nat
  entries : List AuditEntry
  deriving DecidableEq, Repr

namespace AuditSink

def empty (maxEvents : Nat) : AuditSink := ⟨maxEvents, []⟩

/-- Append an entry; a sink already at its limit loses its oldest entry first. -/
def record (sink : AuditSink) (entry : AuditEntry) : AuditSink :=
  if sink.entries.length ≥ sink.maxEvents then
    { sink with entries := sink.entries.drop 1 ++ [entry] }
  else
    { sink with entries := sink.entries ++ [entry] }

def actions (sink : AuditSink) : List AuditAction := sink.entries.map (·.action)

def file (sink : AuditSink) (notices : List Notice) : AuditSink :=
  (Notice.audits notices).foldl record sink

end AuditSink

end Enrollment
