/-!
The five teaching days and the letters that stand for them.
-/
namespace Enrollment

inductive Weekday
  | monday
  | tuesday
  | wednesday
  | thursday
  | friday
  deriving DecidableEq, Repr

namespace Weekday

def all : List Weekday := [monday, tuesday, wednesday, thursday, friday]

def letter : Weekday → Char
  | monday => 'M'
  | tuesday => 'T'
  | wednesday => 'W'
  | thursday => 'H'
  | friday => 'F'

def ofLetter? : Char → Option Weekday
  | 'M' => some monday
  | 'T' => some tuesday
  | 'W' => some wednesday
  | 'H' => some thursday
  | 'F' => some friday
  | _ => none

def name : Weekday → String
  | monday => "Monday"
  | tuesday => "Tuesday"
  | wednesday => "Wednesday"
  | thursday => "Thursday"
  | friday => "Friday"

theorem mem_all (day : Weekday) : day ∈ all := by
  cases day <;> decide

theorem ofLetter?_eq_some_iff {c : Char} {day : Weekday} :
    ofLetter? c = some day ↔ c = day.letter := by
  constructor
  · intro h
    unfold ofLetter? at h
    split at h <;> first | (cases h; rfl) | contradiction
  · intro hsame
    subst hsame
    cases day <;> rfl

end Weekday

end Enrollment
