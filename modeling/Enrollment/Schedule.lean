import Enrollment.Meeting.Basic
import Enrollment.Sequence.SlotList
import Enrollment.Text.Typed

/-!
Schedules: a title and a list of items, no two of one identity and no two whose meetings conflict.
Identity and equality of items are two things: an item is refused by identity and taken off by
equality.
-/
namespace Enrollment

class Schedulable (ι : Type) (κ : outParam Type) where
  identity : ι → κ
  meeting : ι → Meeting

inductive ScheduleError
  | nullItem
  | duplicateItem (identity : String)
  | scheduleConflict (identity : String)
  | invalidMeeting (fault : MeetingFault)
  | creditLimit (limit : UInt32)
  /-- The credits do not add up in 32 bits.  Nobody is told: the call panics. -/
  | overflow
  | invalidTitle
  /-- The list of items refused what the schedule had passed. -/
  | internal (error : SequenceError)
  deriving DecidableEq, Repr

namespace ScheduleError

def message : ScheduleError → String
  | nullItem => "null item"
  | duplicateItem identity => s!"already scheduled: {identity}"
  | scheduleConflict identity => s!"schedule conflict with {identity}"
  | invalidMeeting fault => s!"invalid meeting days and times: {fault.message}"
  | creditLimit limit => s!"credit limit {limit} exceeded"
  | overflow => "attempt to add with overflow"
  | invalidTitle => "invalid schedule title"
  | internal error => s!"schedule invariant violated: {error.message}"

end ScheduleError

structure Schedule (ι : Type) where
  title : String
  items : SlotList ι
  deriving DecidableEq, Repr

namespace Schedule

variable {ι κ ε α : Type}

def defaultTitle : String := "My Schedule"

def empty : Schedule ι := ⟨defaultTitle, SlotList.withCapacity Bounds.count⟩

def toList (schedule : Schedule ι) : List ι := schedule.items.toList

def length (schedule : Schedule ι) : Nat := schedule.items.size

def isEmpty (schedule : Schedule ι) : Bool := schedule.length == 0

def onItems (call : Call (SlotList ι) ε α) : Call (Schedule ι) ε α :=
  Call.within items (fun schedule items => { schedule with items }) call

def setTitle (title : String) : Call (Schedule ι) ScheduleError Unit := do
  let schedule ← Call.current
  if Text.isBlank title then Call.refuse .invalidTitle
  else Call.become { schedule with title }

def get (schedule : Schedule ι) (index : Nat) : Except ScheduleError ι :=
  (schedule.items.get index).mapError .internal

def reset (schedule : Schedule ι) : Schedule ι := ⟨defaultTitle, schedule.items.clear⟩

def remove [BEq ι] (item : ι) : Call (Schedule ι) ε Bool := do
  let removed ← onItems (BoundedSeq.removeItem item)
  return removed.isSome

variable [Schedulable ι κ] [BEq κ] [ToString κ]

/-- Pass an item that differs in identity from each of some items and meets with none of them;
the first item in its way is named. -/
def checkAgainst (item : ι) : List ι → Except ScheduleError Unit
  | [] => .ok ()
  | existing :: rest =>
    if Schedulable.identity existing == Schedulable.identity item then
      .error (.duplicateItem (toString (Schedulable.identity item)))
    else if (Schedulable.meeting existing).conflictsWith (Schedulable.meeting item) then
      .error (.scheduleConflict (toString (Schedulable.identity existing)))
    else checkAgainst item rest

def check (schedule : Schedule ι) (item : ι) : Except ScheduleError Unit :=
  checkAgainst item schedule.toList

def canAdd (schedule : Schedule ι) : Option ι → Bool
  | none => false
  | some item => (schedule.check item).isOk

def add [BEq ι] : Option ι → Call (Schedule ι) ScheduleError Unit
  | none => Call.refuse .nullItem
  | some item => do
    let schedule ← Call.current
    Call.ofExcept (schedule.check item)
    Call.log .debug "added to schedule"
      [("item", .text (toString (Schedulable.identity item)))]
    (onItems (BoundedSeq.push (some item))).mapError .internal

end Schedule

end Enrollment
