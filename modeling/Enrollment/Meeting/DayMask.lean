import Enrollment.Meeting.DaySet

/-!
Sets of teaching days in one byte, a bit for each day with Monday's the lowest.
-/
namespace Enrollment

namespace Weekday

def index : Weekday → UInt8
  | monday => 0
  | tuesday => 1
  | wednesday => 2
  | thursday => 3
  | friday => 4

def bit (day : Weekday) : UInt8 := 1 <<< day.index

end Weekday

structure DayMask where
  bits : UInt8
  deriving DecidableEq, Repr

namespace DayMask

def contains (mask : DayMask) (day : Weekday) : Bool := mask.bits &&& day.bit != 0

def intersects (a b : DayMask) : Bool := a.bits &&& b.bits != 0

def insert (mask : DayMask) (day : Weekday) : DayMask := ⟨mask.bits ||| day.bit⟩

def readLetters (mask : DayMask) : List Char → Except MeetingFault DayMask
  | [] => .ok mask
  | letter :: rest =>
    match Weekday.ofLetter? letter with
    | none => .error (.unknownDay letter)
    | some day =>
      if mask.contains day then .error (.repeatedDay letter)
      else readLetters (mask.insert day) rest

def parse (letters : String) : Except MeetingFault DayMask :=
  if letters.isEmpty then .error .noDays else readLetters ⟨0⟩ letters.toList

def days (mask : DayMask) : List Weekday := Weekday.all.filter mask.contains

instance : ToString DayMask := ⟨fun mask => String.ofList (mask.days.map Weekday.letter)⟩

end DayMask

end Enrollment
