import Enrollment.Meeting.DaySet

/-!
Windows of time on some teaching days.  A time is a number whose last two digits are the minute
and whose other digits are the hour; a window holds both its ends.
-/
namespace Enrollment

def Bounds.time : Nat := 65535

/-- Whether a number is a time of the day: an hour below 24 and a minute below 60. -/
def isTime (time : Nat) : Bool := time / 100 < 24 && time % 100 < 60

/-- A time as a clock with twelve hours shows it. -/
def clockTime (time : Nat) : String :=
  let hour := time / 100
  let minute := time % 100
  let shown := if hour % 12 = 0 then 12 else hour % 12
  let pad := if minute < 10 then "0" else ""
  let half := if hour ≥ 12 then "PM" else "AM"
  s!"{shown}:{pad}{minute}{half}"

structure TimeWindow where
  days : DaySet
  start : Nat
  finish : Nat
  start_isTime : isTime start = true
  finish_isTime : isTime finish = true
  start_le_finish : start ≤ finish
  deriving DecidableEq

namespace TimeWindow

def make (days : DaySet) (start finish : Nat) : Except MeetingFault TimeWindow :=
  if hs : isTime start = true then
    if hf : isTime finish = true then
      if hle : start ≤ finish then .ok ⟨days, start, finish, hs, hf, hle⟩
      else .error (.endBeforeStart start finish)
    else .error (.invalidTime finish)
  else .error (.invalidTime start)

/-- Whether two windows share a day and meet in time, if only at an end. -/
def overlaps (a b : TimeWindow) : Bool :=
  a.days.intersects b.days && a.start ≤ b.finish && b.start ≤ a.finish

theorem make_self (window : TimeWindow) :
    make window.days window.start window.finish = .ok window := by
  simp [make, window.start_isTime, window.finish_isTime, window.start_le_finish]

end TimeWindow

end Enrollment
