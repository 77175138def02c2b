import Enrollment.Json.Decoder
import Enrollment.Json.Value

/-!
The JSON forms of days, windows and meetings.  A window is checked once all its fields are read.
-/
namespace Enrollment

open Json

def Weekday.toJson (day : Weekday) : Json := .string day.name

def Weekday.decode : Decoder Weekday := Decoder.oneOf (Weekday.all.map fun day => (day.name, day))

def DaySet.toJson (set : DaySet) : Json := .string set.letters

def DaySet.decode : Decoder DaySet := fun reading => do
  let letters ← Decoder.text reading
  Decoder.ofMeeting (DaySet.parse letters)

namespace TimeWindow

def toJson (window : TimeWindow) : Json :=
  .object [("days", window.days.toJson), ("start", .natural window.start),
    ("end", .natural window.finish)]

def fields : List Field :=
  [field "days" DaySet.decode, field "start" (Decoder.natural Bounds.time),
    field "end" (Decoder.natural Bounds.time)]

def decode : Decoder TimeWindow := fun reading => do
  let found ← Found.ofReading fields false reading
  let days ← found.get "days" DaySet.decode
  let start ← found.get "start" (Decoder.natural Bounds.time)
  let finish ← found.get "end" (Decoder.natural Bounds.time)
  Decoder.ofMeeting (make days start finish)

end TimeWindow

namespace Meeting

def toJson : Meeting → Json
  | arranged => .string "Arranged"
  | scheduled window => .object [("Scheduled", window.toJson)]

def decode : Decoder Meeting
  | .string (some "Arranged") => .ok arranged
  | .object [(some "Arranged", .null)] true => .ok arranged
  | .object ((some "Scheduled", window) :: rest) closed => do
    let window ← TimeWindow.decode window
    if rest.isEmpty && closed then return scheduled window else throw .malformed
  | _ => .error .malformed

end Meeting

end Enrollment
