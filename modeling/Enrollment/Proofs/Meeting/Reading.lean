import Enrollment.Proofs.Meeting
import Mathlib.Data.List.Nodup

/-!
Reading meetings: the day letters and times that a meeting can be read from, and which meeting that
is. A meeting passes its validation exactly if it can be read from something, and then it is read
again from its own letters and times.
-/
namespace Enrollment

namespace Weekday

theorem letter_injective : Function.Injective letter := by
  intro a b heq
  have ha : ofLetter? a.letter = some a := ofLetter?_eq_some_iff.mpr rfl
  have hb : ofLetter? a.letter = some b := ofLetter?_eq_some_iff.mpr heq
  exact Option.some.inj (ha.symm.trans hb)

theorem exists_letter_iff {c : Char} :
    (∃ day : Weekday, day.letter = c) ↔ c ∈ ['M', 'T', 'W', 'H', 'F'] := by
  have hall : all.map letter = ['M', 'T', 'W', 'H', 'F'] := rfl
  rw [← hall, List.mem_map]
  exact exists_congr fun day => (and_iff_right (mem_all day)).symm

end Weekday

namespace DaySet

structure NamesDays (letters : String) : Prop where
  nonempty : letters ≠ ""
  distinct : letters.toList.Nodup
  known : ∀ letter ∈ letters.toList, letter ∈ ['M', 'T', 'W', 'H', 'F']

theorem exists_map_letter {letters : List Char}
    (h : ∀ letter ∈ letters, letter ∈ ['M', 'T', 'W', 'H', 'F']) :
    ∃ days : List Weekday, letters = days.map Weekday.letter := by
  induction letters with
  | nil => exact ⟨[], rfl⟩
  | cons letter rest ih =>
    obtain ⟨hfirst, hrest⟩ := List.forall_mem_cons.mp h
    obtain ⟨day, rfl⟩ := Weekday.exists_letter_iff.mpr hfirst
    obtain ⟨days, rfl⟩ := ih hrest
    exact ⟨day :: days, rfl⟩

/-- The letters that can be read as days are those that name days. -/
theorem exists_parse_iff {letters : String} :
    (∃ set, parse letters = .ok set) ↔ NamesDays letters := by
  constructor
  · rintro ⟨set, hparse⟩
    obtain ⟨days, hne, hdistinct, -, hletters⟩ := parse_eq_ok_iff.mp hparse
    refine ⟨?_, ?_, ?_⟩
    · rintro rfl
      exact hne (List.map_eq_nil_iff.mp hletters.symm)
    · rw [hletters]
      exact hdistinct.map Weekday.letter_injective
    · intro letter hmem
      rw [hletters] at hmem
      obtain ⟨day, -, hday⟩ := List.mem_map.mp hmem
      exact Weekday.exists_letter_iff.mp ⟨day, hday⟩
  · intro h
    obtain ⟨days, hletters⟩ := exists_map_letter h.known
    have hne : days ≠ [] := by
      rintro rfl
      exact h.nonempty (String.toList_eq_nil_iff.mp hletters)
    have hdistinct : days.Nodup := by
      have hnodup := h.distinct
      rw [hletters] at hnodup
      exact hnodup.of_map
    exact ⟨ofDays days hne, parse_eq_ok_iff.mpr ⟨days, hne, hdistinct, rfl, hletters⟩⟩

theorem contains_iff_of_parse {letters : String} {set : DaySet} (h : parse letters = .ok set)
    (day : Weekday) : set.contains day = true ↔ day.letter ∈ letters.toList := by
  obtain ⟨days, -, -, hdays, hletters⟩ := parse_eq_ok_iff.mp h
  rw [contains, hdays, contains_arrange, List.contains_iff_mem, hletters,
    List.mem_map_of_injective Weekday.letter_injective]

end DaySet

namespace Meeting

structure Legible (letters : String) (start finish : Nat) : Prop where
  days : DaySet.NamesDays letters
  start_ne : start ≠ 0
  finish_ne : finish ≠ 0
  start_time : start / 100 < 24 ∧ start % 100 < 60
  finish_time : finish / 100 < 24 ∧ finish % 100 < 60
  start_le_finish : start ≤ finish

theorem parse_eq_arranged_iff {letters : String} {start finish : Nat} :
    parse letters start finish = .ok arranged ↔ letters = "A" ∧ start = 0 ∧ finish = 0 := by
  constructor
  · intro h
    obtain ⟨-, hread⟩ | ⟨window, hsame, -⟩ := parse_cases h
    · exact hread
    · cases hsame
  · rintro ⟨rfl, rfl, rfl⟩
    rfl

theorem exists_parse_scheduled_iff {letters : String} {start finish : Nat} :
    (∃ window, parse letters start finish = .ok (scheduled window)) ↔
      Legible letters start finish := by
  constructor
  · rintro ⟨window, hparse⟩
    obtain ⟨hdays, rfl, rfl, hstart, hfinish⟩ := parse_eq_scheduled_iff.mp hparse
    exact ⟨DaySet.exists_parse_iff.mp ⟨_, hdays⟩, hstart, hfinish,
      isTime_iff.mp window.start_isTime, isTime_iff.mp window.finish_isTime,
      window.start_le_finish⟩
  · intro h
    obtain ⟨set, hset⟩ := DaySet.exists_parse_iff.mpr h.days
    exact ⟨⟨set, start, finish, isTime_iff.mpr h.start_time, isTime_iff.mpr h.finish_time,
      h.start_le_finish⟩, parse_eq_scheduled_iff.mpr ⟨hset, rfl, rfl, h.start_ne, h.finish_ne⟩⟩

/-- No time that a meeting is read from is greater than times can be. -/
theorem parse_le {letters : String} {start finish : Nat} {meeting : Meeting}
    (h : parse letters start finish = .ok meeting) :
    start ≤ Bounds.time ∧ finish ≤ Bounds.time := by
  obtain ⟨-, -, rfl, rfl⟩ | ⟨window, -, -, rfl, rfl, -⟩ := parse_cases h
  · exact ⟨Nat.zero_le _, Nat.zero_le _⟩
  · exact ⟨isTime_le window.start_isTime, isTime_le window.finish_isTime⟩

/-- A meeting by arrangement is read from the letter A alone without times, a meeting in a window
from what is legible, and the window then has the days and times that were written. Any meeting
passes if it can be read from something, and only then; and one in a window is read again from the
way it shows its days and from its own times. -/
theorem validated_by_reading (letters : String) (start finish : Nat) (meeting : Meeting) :
    (parse letters start finish = .ok arranged ↔ letters = "A" ∧ start = 0 ∧ finish = 0) ∧
    ((∃ window, parse letters start finish = .ok (scheduled window)) ↔
      Legible letters start finish) ∧
    (∀ window, parse letters start finish = .ok (scheduled window) →
      (∀ day, window.days.contains day = true ↔ day.letter ∈ letters.toList) ∧
        window.start = start ∧ window.finish = finish) ∧
    (meeting.validate = .ok () ↔ ∃ written first last, first ≤ Bounds.time ∧
      last ≤ Bounds.time ∧ parse written first last = .ok meeting) ∧
    ∀ window, meeting = scheduled window → meeting.validate = .ok () →
      parse (toString window.days) window.start window.finish = .ok meeting := by
  refine ⟨parse_eq_arranged_iff, exists_parse_scheduled_iff, ?_, ?_, ?_⟩
  · intro window hparse
    obtain ⟨hdays, hstart, hfinish, -⟩ := parse_eq_scheduled_iff.mp hparse
    exact ⟨DaySet.contains_iff_of_parse hdays, hstart, hfinish⟩
  · rw [validate_eq_ok_iff]
    constructor
    · rintro ⟨written, first, last, hparse⟩
      obtain ⟨hfirst, hlast⟩ := parse_le hparse
      exact ⟨written, first, last, hfirst, hlast, hparse⟩
    · rintro ⟨written, first, last, -, -, hparse⟩
      exact ⟨written, first, last, hparse⟩
  · rintro window rfl hvalid
    exact parse_again (validate_scheduled_iff.mp hvalid)

/-- Days written backwards are read and shown in the order of the calendar, and read again from
there. A window that begins at midnight can be made, but is read from nothing. -/
theorem validated_by_reading_midnight :
    let lecture : TimeWindow :=
      ⟨⟨[.monday, .wednesday, .friday], rfl, nofun⟩, 900, 1000, rfl, rfl, by decide⟩
    let midnight : TimeWindow := ⟨⟨[.monday], rfl, nofun⟩, 0, 100, rfl, rfl, by decide⟩
    parse "FWM" 900 1000 = .ok (scheduled lecture) ∧ Legible "FWM" 900 1000 ∧
      toString lecture.days = "MWF" ∧
      parse (toString lecture.days) 900 1000 = .ok (scheduled lecture) ∧
      TimeWindow.make midnight.days 0 100 = .ok midnight ∧
      ¬ ∃ written first last, first ≤ Bounds.time ∧ last ≤ Bounds.time ∧
        parse written first last = .ok (scheduled midnight) := by
  intro lecture midnight
  have hparse : parse "FWM" 900 1000 = .ok (scheduled lecture) := by decide +kernel
  have hvalid : (scheduled lecture).validate = .ok () := by decide +kernel
  have hrefused : (scheduled midnight).validate ≠ .ok () := by decide +kernel
  obtain ⟨-, hlegible, -, -, hagain⟩ := validated_by_reading "FWM" 900 1000 (scheduled lecture)
  obtain ⟨-, -, -, hread, -⟩ := validated_by_reading "M" 0 100 (scheduled midnight)
  exact ⟨hparse, hlegible.mp ⟨lecture, hparse⟩, by decide +kernel, hagain lecture rfl hvalid,
    TimeWindow.make_self midnight, fun h => hrefused (hread.mpr h)⟩

end Meeting

end Enrollment
