import Enrollment.Proofs.Meeting

/-!
Conflict, said by the minute: two meetings conflict if on some day there is a minute that both take
up. Times are compared as they are written, hour before minute, and not every number is a time; but
among those that are, the written order is the order of the minutes they tell.
-/
namespace Enrollment

def minuteOfDay (time : Nat) : Nat := time / 100 * 60 + time % 100

theorem minuteOfDay_le_iff {a b : Nat} (ha : isTime a = true) (hb : isTime b = true) :
    minuteOfDay a ≤ minuteOfDay b ↔ a ≤ b := by
  obtain ⟨-, ha⟩ := isTime_iff.mp ha
  obtain ⟨-, hb⟩ := isTime_iff.mp hb
  -- With both minutes below sixty, the hours decide first in either order.
  unfold minuteOfDay
  omega

namespace TimeWindow

variable {a b wide narrow : TimeWindow}

structure Covers (window : TimeWindow) (day : Weekday) (moment : Nat) : Prop where
  day : window.days.contains day = true
  start_le : minuteOfDay window.start ≤ moment
  le_finish : moment ≤ minuteOfDay window.finish

theorem covers_minuteOfDay {window : TimeWindow} {day : Weekday} {time : Nat}
    (htime : isTime time = true) (hday : window.days.contains day = true)
    (hstart : window.start ≤ time) (hfinish : time ≤ window.finish) :
    window.Covers day (minuteOfDay time) :=
  ⟨hday, (minuteOfDay_le_iff window.start_isTime htime).mpr hstart,
    (minuteOfDay_le_iff htime window.finish_isTime).mpr hfinish⟩

theorem overlaps_iff : a.overlaps b = true ↔
    a.days.intersects b.days = true ∧ a.start ≤ b.finish ∧ b.start ≤ a.finish := by
  simp only [overlaps, Bool.and_eq_true, decide_eq_true_eq, and_assoc]

/-- Two windows on one day that meet have the later of their starts in common. -/
theorem exists_common_time (h : a.overlaps b = true) :
    ∃ day time, isTime time = true ∧ a.Covers day (minuteOfDay time) ∧
      b.Covers day (minuteOfDay time) := by
  obtain ⟨hdays, hab, hba⟩ := overlaps_iff.mp h
  obtain ⟨day, ha, hb⟩ := DaySet.intersects_iff.mp hdays
  -- The later start is not past the end of its own window, nor of the other.
  rcases Nat.le_total a.start b.start with hle | hle
  · exact ⟨day, b.start, b.start_isTime, covers_minuteOfDay b.start_isTime ha hle hba,
      covers_minuteOfDay b.start_isTime hb (Nat.le_refl _) b.start_le_finish⟩
  · exact ⟨day, a.start, a.start_isTime,
      covers_minuteOfDay a.start_isTime ha (Nat.le_refl _) a.start_le_finish,
      covers_minuteOfDay a.start_isTime hb hle hab⟩

theorem overlaps_of_covers {day : Weekday} {moment : Nat} (ha : a.Covers day moment)
    (hb : b.Covers day moment) : a.overlaps b = true := by
  refine overlaps_iff.mpr ⟨DaySet.intersects_iff.mpr ⟨day, ha.day, hb.day⟩, ?_, ?_⟩
  · exact (minuteOfDay_le_iff a.start_isTime b.finish_isTime).mp
      (Nat.le_trans ha.start_le hb.le_finish)
  · exact (minuteOfDay_le_iff b.start_isTime a.finish_isTime).mp
      (Nat.le_trans hb.start_le ha.le_finish)

theorem overlaps_self (window : TimeWindow) : window.overlaps window = true := by
  obtain ⟨day, hday⟩ := List.exists_mem_of_ne_nil _ window.days.nonempty
  have hcontains : window.days.contains day = true := List.contains_iff_mem.mpr hday
  exact overlaps_iff.mpr ⟨DaySet.intersects_iff.mpr ⟨day, hcontains, hcontains⟩,
    window.start_le_finish, window.start_le_finish⟩

structure Widens (wide narrow : TimeWindow) : Prop where
  days : ∀ day, narrow.days.contains day = true → wide.days.contains day = true
  start_le : wide.start ≤ narrow.start
  finish_le : narrow.finish ≤ wide.finish

theorem Widens.overlaps (h : wide.Widens narrow) (hoverlaps : narrow.overlaps b = true) :
    wide.overlaps b = true := by
  obtain ⟨hdays, hstart, hfinish⟩ := overlaps_iff.mp hoverlaps
  obtain ⟨day, hday, hother⟩ := DaySet.intersects_iff.mp hdays
  exact overlaps_iff.mpr ⟨DaySet.intersects_iff.mpr ⟨day, h.days day hday, hother⟩,
    Nat.le_trans h.start_le hstart, Nat.le_trans hfinish h.finish_le⟩

end TimeWindow

namespace Meeting

/-- Two meetings conflict exactly if both are in a window and some minute of some day is in both
windows. Conflict goes both ways, a meeting in a window conflicts with itself, and no conflict goes
away when a window gets wider. -/
theorem conflict_by_minutes (a b : Meeting) :
    (a.conflictsWith b = true ↔ ∃ v w : TimeWindow, a = scheduled v ∧ b = scheduled w ∧
      ∃ day hour minute, hour < 24 ∧ minute < 60 ∧ v.Covers day (hour * 60 + minute) ∧
        w.Covers day (hour * 60 + minute)) ∧
    a.conflictsWith b = b.conflictsWith a ∧
    (∀ window, a = scheduled window → a.conflictsWith a = true) ∧
    ∀ narrow wide : TimeWindow, a = scheduled narrow → wide.Widens narrow →
      a.conflictsWith b = true → (scheduled wide).conflictsWith b = true := by
  refine ⟨⟨?_, ?_⟩, conflictsWith_comm a b, ?_, ?_⟩
  · intro h
    cases a with
    | arranged => cases h
    | scheduled v =>
      cases b with
      | arranged => cases h
      | scheduled w =>
        obtain ⟨day, time, htime, hv, hw⟩ := TimeWindow.exists_common_time h
        obtain ⟨hhour, hminute⟩ := isTime_iff.mp htime
        exact ⟨v, w, rfl, rfl, day, time / 100, time % 100, hhour, hminute, hv, hw⟩
  · rintro ⟨v, w, rfl, rfl, day, hour, minute, -, -, hv, hw⟩
    exact TimeWindow.overlaps_of_covers hv hw
  · rintro window rfl
    exact window.overlaps_self
  · rintro narrow wide rfl hwidens h
    cases b with
    | arranged => cases h
    | scheduled w => exact hwidens.overlaps h

/-- Two windows that touch at ten share that minute, and still do when one begins earlier; a minute
apart they share none. -/
theorem conflict_by_minutes_touching :
    let morning : TimeWindow := ⟨⟨[.monday, .wednesday], rfl, nofun⟩, 900, 1000, rfl, rfl, by decide⟩
    let noon : TimeWindow := ⟨⟨[.wednesday], rfl, nofun⟩, 1000, 1100, rfl, rfl, by decide⟩
    let later : TimeWindow := ⟨⟨[.wednesday], rfl, nofun⟩, 1001, 1100, rfl, rfl, by decide⟩
    let early : TimeWindow :=
      ⟨⟨[.monday, .wednesday, .friday], rfl, nofun⟩, 859, 1000, rfl, rfl, by decide⟩
    early.Widens morning ∧ (scheduled morning).conflictsWith (scheduled noon) = true ∧
      (scheduled early).conflictsWith (scheduled noon) = true ∧
      ¬ ∃ day hour minute, hour < 24 ∧ minute < 60 ∧ morning.Covers day (hour * 60 + minute) ∧
        later.Covers day (hour * 60 + minute) := by
  intro morning noon later early
  have hdays : ∀ day, morning.days.contains day = true → early.days.contains day = true := by
    intro day
    cases day <;> decide
  have hwidens : early.Widens morning := ⟨hdays, by decide, by decide⟩
  have hmeet : (scheduled morning).conflictsWith (scheduled noon) = true := by decide +kernel
  have hapart : (scheduled morning).conflictsWith (scheduled later) = false := by decide +kernel
  obtain ⟨-, -, -, hwide⟩ := conflict_by_minutes (scheduled morning) (scheduled noon)
  obtain ⟨hminutes, -⟩ := conflict_by_minutes (scheduled morning) (scheduled later)
  refine ⟨hwidens, hmeet, hwide morning early rfl hwidens hmeet, ?_⟩
  intro hshared
  have hconflict := hminutes.mpr ⟨morning, later, rfl, rfl, hshared⟩
  rw [hapart] at hconflict
  cases hconflict

end Meeting

end Enrollment
