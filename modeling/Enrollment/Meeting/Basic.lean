import Enrollment.Meeting.TimeWindow

/-!
Meetings: by arrangement, or in a window of time.  Reading a meeting from its day letters and two
times asks more than a window does: a scheduled meeting never starts or ends at time 0.
-/
namespace Enrollment

inductive Meeting
  | arranged
  | scheduled (window : TimeWindow)
  deriving DecidableEq

namespace Meeting

/-- The meeting named by day letters and two times; the letter A alone is by arrangement. -/
def parse (letters : String) (start finish : Nat) : Except MeetingFault Meeting :=
  if letters = "A" then
    if start = 0 ∧ finish = 0 then .ok arranged else .error .arrangedTimes
  else if start = 0 ∨ finish = 0 then .error .missingTimes
  else do
    let days ← DaySet.parse letters
    let window ← TimeWindow.make days start finish
    return scheduled window

/-- Whether a meeting is one that `parse` accepts: its own letters and times are read again. -/
def validate : Meeting → Except MeetingFault Unit
  | arranged => .ok ()
  | scheduled window => do
    let _ ← parse window.days.letters window.start window.finish

def conflictsWith : Meeting → Meeting → Bool
  | scheduled a, scheduled b => a.overlaps b
  | _, _ => false

def describe : Meeting → String
  | arranged => "Arranged"
  | scheduled window =>
    s!"{window.days} {clockTime window.start}-{clockTime window.finish}"

instance : ToString Meeting := ⟨describe⟩

end Meeting

end Enrollment
