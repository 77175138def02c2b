import Enrollment.Json.Reading
import Enrollment.Meeting.Basic

/-!
Decoders take values out of readings.  They look at a reading in the order of its text, so of two
faults the one that comes first is told.  Records are read from an object by the names of their
fields, other members being passed over, or from an array in the order of their fields.
-/
namespace Enrollment.Json

inductive DecodeError
  | malformed
  | meeting (fault : MeetingFault)
  deriving DecidableEq, Repr

/-- A way to take an `α` out of a reading. -/
abbrev Decoder (α : Type) : Type := Reading → Except DecodeError α

namespace Decoder

variable {α : Type}

def ofMeeting : Except MeetingFault α → Except DecodeError α := Except.mapError .meeting

def text : Decoder String
  | .string (some text) => .ok text
  | _ => .error .malformed

def natural (bound : Nat) : Decoder Nat
  | .natural value => if value ≤ bound then .ok value else .error .malformed
  | _ => .error .malformed

def optional (decode : Decoder α) : Decoder (Option α)
  | .null => .ok none
  | reading => (decode reading).map some

def ignored : Decoder Unit := fun reading =>
  if reading.isWhole then .ok () else .error .malformed

/-- One of some names, alone or as the only key of an object whose value is null. -/
def oneOf (names : List (String × α)) : Decoder α
  | .string (some name) => find name
  | .object [(some name, .null)] true => find name
  | _ => .error .malformed
where
  find (name : String) : Except DecodeError α :=
    match names.lookup name with
    | some value => .ok value
    | none => .error .malformed

end Decoder

structure Field where
  name : String
  check : Decoder Unit

def field {α : Type} (name : String) (decode : Decoder α) : Field :=
  ⟨name, fun reading => (decode reading).map fun _ => ()⟩

abbrev Found : Type := List (String × Reading)

namespace Found

/-- Look through members in turn, given the fields found before them: each field may come once,
and other members are passed over. -/
def ofMembers (fields : List Field) (found : Found) :
    List (Option String × Reading) → Except DecodeError Found
  | [] => .ok found
  | (none, _) :: _ => .error .malformed
  | (some name, reading) :: rest =>
    match fields.find? (·.name == name) with
    | none => do
      Decoder.ignored reading
      ofMembers fields found rest
    | some field => do
      if (found.lookup name).isSome then throw .malformed
      field.check reading
      ofMembers fields (found ++ [(name, reading)]) rest

/-- Go through items in the order of the fields; whether fields at the end may be missing is for
the record to say. -/
def ofItems (mayStop : Bool) : List Field → List Reading → Except DecodeError Found
  | [], [] => .ok []
  | [], _ :: _ => .error .malformed
  | _ :: _, [] => if mayStop then .ok [] else .error .malformed
  | field :: fields, reading :: rest => do
    field.check reading
    let found ← ofItems mayStop fields rest
    return (field.name, reading) :: found

def ofReading (fields : List Field) (mayStop : Bool) : Decoder Found
  | .object members closed => do
    let found ← ofMembers fields [] members
    if closed then return found else throw .malformed
  | .array items closed => do
    let found ← ofItems mayStop fields items
    if closed then return found else throw .malformed
  | _ => .error .malformed

variable {α : Type}

def get (found : Found) (name : String) (decode : Decoder α) : Except DecodeError α :=
  match found.lookup name with
  | some reading => decode reading
  | none => .error .malformed

def getD (found : Found) (name : String) (decode : Decoder α) (default : α) :
    Except DecodeError α :=
  match found.lookup name with
  | some reading => decode reading
  | none => .ok default

end Found

def decodeText {α : Type} (decode : Decoder α) (text : String) : Except DecodeError α := do
  let document := Document.ofText text
  let value ← decode document.root
  if document.alone then return value else throw .malformed

end Enrollment.Json
