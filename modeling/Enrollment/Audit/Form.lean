import Enrollment.Audit.Entry
import Enrollment.Json.Decoder
import Enrollment.Json.Value

/-!
Audit events, which are entries with an id and a moment, and their JSON form.
-/
namespace Enrollment

open Json

def Bounds.moment : Nat := 340282366920938463463374607431768211455

structure AuditEvent where
  eventId : String
  entry : AuditEntry
  createdAtMs : Nat
  deriving DecidableEq, Repr

def AuditAction.toJson (action : AuditAction) : Json := .string action.name

def AuditAction.decode : Decoder AuditAction :=
  Decoder.oneOf (AuditAction.all.map fun action => (action.name, action))

namespace AuditEvent

def toJson (event : AuditEvent) : Json :=
  .object [("event_id", .string event.eventId), ("entity", .string event.entry.entity),
    ("roster", .string event.entry.roster), ("action", event.entry.action.toJson),
    ("created_at_ms", .natural event.createdAtMs),
    ("detail", Json.optional .string event.entry.detail)]

def fields : List Field :=
  [field "event_id" Decoder.text, field "entity" Decoder.text, field "roster" Decoder.text,
    field "action" AuditAction.decode, field "created_at_ms" (Decoder.natural Bounds.moment),
    field "detail" (Decoder.optional Decoder.text)]

def decode : Decoder AuditEvent := fun reading => do
  let found ← Found.ofReading fields false reading
  let eventId ← found.get "event_id" Decoder.text
  let entity ← found.get "entity" Decoder.text
  let roster ← found.get "roster" Decoder.text
  let action ← found.get "action" AuditAction.decode
  let createdAtMs ← found.get "created_at_ms" (Decoder.natural Bounds.moment)
  let detail ← found.getD "detail" (Decoder.optional Decoder.text) none
  return { eventId, entry := ⟨entity, roster, action, detail⟩, createdAtMs }

end AuditEvent

end Enrollment
