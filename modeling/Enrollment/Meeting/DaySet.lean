import Enrollment.Meeting.Weekday

/-!
Sets of teaching days, never empty, and the letter strings they are read from and written as.
Reading takes the letters in any order; writing puts them in calendar order.
-/
namespace Enrollment

inductive MeetingFault
  | noDays
  | unknownDay (letter : Char)
  | repeatedDay (letter : Char)
  /-- A meeting by arrangement was given a time. -/
  | arrangedTimes
  | missingTimes
  | invalidTime (time : Nat)
  | endBeforeStart (start finish : Nat)
  deriving DecidableEq, Repr

namespace MeetingFault

def message : MeetingFault → String
  | noDays => "no meeting days"
  | unknownDay letter => s!"unknown day '{letter}'"
  | repeatedDay letter => s!"day '{letter}' repeated"
  | arrangedTimes => "arranged meetings have no times"
  | missingTimes => "scheduled meetings need a start and end time"
  | invalidTime time => s!"invalid time {time}"
  | endBeforeStart start finish => s!"end {finish} precedes start {start}"

end MeetingFault

/-- One or more teaching days, listed in calendar order. -/
structure DaySet where
  days : List Weekday
  inOrder : days = Weekday.all.filter (days.contains ·)
  nonempty : days ≠ []
  deriving DecidableEq

namespace DaySet

def arrange (days : List Weekday) : List Weekday := Weekday.all.filter (days.contains ·)

theorem contains_arrange (days : List Weekday) (day : Weekday) :
    (arrange days).contains day = days.contains day := by
  have h : day ∈ Weekday.all := Weekday.mem_all day
  by_cases hd : day ∈ days <;> simp [arrange, List.contains_eq_mem, List.mem_filter, h, hd]

theorem arrange_arrange (days : List Weekday) : arrange days = arrange (arrange days) := by
  simp only [arrange]
  refine List.filter_congr fun day _ => ?_
  exact (contains_arrange days day).symm

theorem arrange_ne_nil {days : List Weekday} (h : days ≠ []) : arrange days ≠ [] := by
  obtain ⟨day, hd⟩ := List.exists_mem_of_ne_nil days h
  refine List.ne_nil_of_mem (a := day) ?_
  have hc := contains_arrange days day
  rw [List.contains_eq_mem, List.contains_eq_mem] at hc
  simpa [hd] using hc

def ofDays (days : List Weekday) (h : days ≠ []) : DaySet :=
  ⟨arrange days, arrange_arrange days, arrange_ne_nil h⟩

/-- Read letters in turn, given the days already read: each names a day not yet named. -/
def readLetters (seen : List Weekday) : List Char → Except MeetingFault (List Weekday)
  | [] => .ok seen
  | letter :: rest =>
    match Weekday.ofLetter? letter with
    | none => .error (.unknownDay letter)
    | some day =>
      if seen.contains day then .error (.repeatedDay letter)
      else readLetters (seen ++ [day]) rest

def parse (letters : String) : Except MeetingFault DaySet := do
  let days ← readLetters [] letters.toList
  if h : days ≠ [] then return ofDays days h else throw .noDays

def contains (set : DaySet) (day : Weekday) : Bool := set.days.contains day

def intersects (a b : DaySet) : Bool := a.days.any b.contains

def letters (set : DaySet) : String := String.ofList (set.days.map Weekday.letter)

instance : ToString DaySet := ⟨letters⟩

end DaySet

end Enrollment
