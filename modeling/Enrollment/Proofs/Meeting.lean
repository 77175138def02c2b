import Enrollment.Meeting.Basic

/-!
Days, windows and meetings: which letters and times they are read from, and that conflict goes both
ways.
-/
namespace Enrollment

section Checks

variable {ε ε' α β : Type}

@[simp] theorem ok_bind (a : α) (next : α → Except ε β) : (Except.ok a >>= next) = next a := rfl

/-- A check made of two passes if both do. -/
theorem bind_eq_ok_iff {first : Except ε α} {next : α → Except ε β} {b : β} :
    (first >>= next) = .ok b ↔ ∃ a, first = .ok a ∧ next a = .ok b := by
  cases first with
  | error e => exact ⟨nofun, nofun⟩
  | ok a =>
    refine ⟨fun h => ⟨a, rfl, h⟩, ?_⟩
    rintro ⟨_, ⟨⟩, h⟩
    exact h

theorem mapError_eq_ok_iff {check : Except ε α} {f : ε → ε'} {a : α} :
    check.mapError f = .ok a ↔ check = .ok a := by
  cases check with
  | error e => exact ⟨nofun, nofun⟩
  | ok b =>
    constructor
    · intro h
      cases h
      rfl
    · intro h
      cases h
      rfl

end Checks

namespace DaySet

theorem ext {a b : DaySet} (h : a.days = b.days) : a = b := by
  cases a
  cases b
  cases h
  rfl

/-- Of days that are distinct, the letters are read as the days. -/
theorem readLetters_map_letter {seen more : List Weekday} (hdistinct : (seen ++ more).Nodup) :
    readLetters seen (more.map Weekday.letter) = .ok (seen ++ more) := by
  induction more generalizing seen with
  | nil => rw [List.append_nil]; rfl
  | cons day more ih =>
    have hnew : day ∉ seen := by
      intro hmem
      exact (List.nodup_append.mp hdistinct).2.2 day hmem day List.mem_cons_self rfl
    have happend : seen ++ day :: more = (seen ++ [day]) ++ more := by simp
    rw [happend] at hdistinct ⊢
    rw [← ih hdistinct, List.map_cons, readLetters, Weekday.ofLetter?_eq_some_iff.mpr rfl]
    simp [hnew]

/-- Letters that are read are the letters of the days they are read as, and no day comes twice. -/
theorem letters_of_readLetters {seen days : List Weekday} {letters : List Char}
    (hread : readLetters seen letters = .ok days) (hseen : seen.Nodup) :
    ∃ more, days = seen ++ more ∧ days.Nodup ∧ letters = more.map Weekday.letter := by
  induction letters generalizing seen with
  | nil =>
    cases hread
    exact ⟨[], by simp, hseen, rfl⟩
  | cons letter rest ih =>
    rw [readLetters] at hread
    cases hday : Weekday.ofLetter? letter with
    | none =>
      rw [hday] at hread
      cases hread
    | some day =>
      simp only [hday] at hread
      split at hread
      · cases hread
      · rename_i hnew
        have hmore : (seen ++ [day]).Nodup := by
          rw [List.contains_eq_mem, decide_eq_true_eq] at hnew
          refine List.nodup_append.mpr ⟨hseen, List.pairwise_singleton _ day, ?_⟩
          intro other hother last hlast heq
          rw [heq, List.mem_singleton.mp hlast] at hother
          exact hnew hother
        obtain ⟨more, rfl, hdistinct, rfl⟩ := ih hread hmore
        exact ⟨day :: more, by simp, hdistinct, by
          rw [List.map_cons, Weekday.ofLetter?_eq_some_iff.mp hday]⟩

theorem parse_eq_ok_iff {letters : String} {set : DaySet} :
    parse letters = .ok set ↔ ∃ days, days ≠ [] ∧ days.Nodup ∧ set.days = arrange days ∧
      letters.toList = days.map Weekday.letter := by
  rw [parse, bind_eq_ok_iff]
  constructor
  · rintro ⟨days, hread, hset⟩
    obtain ⟨more, rfl, hdistinct, hletters⟩ := letters_of_readLetters hread List.nodup_nil
    split at hset
    · rename_i hne
      cases hset
      exact ⟨_, hne, hdistinct, rfl, hletters⟩
    · cases hset
  · rintro ⟨days, hne, hdistinct, hdays, hletters⟩
    refine ⟨days, by rw [hletters]; exact readLetters_map_letter hdistinct, ?_⟩
    rw [dif_pos hne]
    exact congrArg Except.ok (ext hdays.symm)

theorem nodup_arrange (days : List Weekday) : (arrange days).Nodup :=
  List.Nodup.sublist List.filter_sublist (by decide : Weekday.all.Nodup)

/-- A set is read again from its letters. -/
theorem parse_letters (set : DaySet) : parse set.letters = .ok set := by
  refine parse_eq_ok_iff.mpr ⟨set.days, set.nonempty, ?_, set.inOrder, String.toList_ofList⟩
  rw [set.inOrder]
  exact nodup_arrange _

/-- The letters of a set come in the order of the calendar. -/
theorem letters_sublist (set : DaySet) : set.letters.toList.Sublist ['M', 'T', 'W', 'H', 'F'] := by
  have hdays : set.days.Sublist Weekday.all := by
    rw [set.inOrder]
    exact List.filter_sublist
  rw [letters, String.toList_ofList]
  exact hdays.map Weekday.letter

theorem arrange_perm {days : List Weekday} (hdistinct : days.Nodup) : (arrange days).Perm days := by
  rw [List.perm_ext_iff_of_nodup (nodup_arrange days) hdistinct]
  intro day
  have hsame := contains_arrange days day
  rwa [List.contains_eq_mem, List.contains_eq_mem, decide_eq_decide] at hsame

/-- The letters of a set are those that it was read from, in some order. -/
theorem letters_perm {written : String} {set : DaySet} (h : parse written = .ok set) :
    set.letters.toList.Perm written.toList := by
  obtain ⟨days, -, hdistinct, hdays, hletters⟩ := parse_eq_ok_iff.mp h
  rw [letters, String.toList_ofList, hdays, hletters]
  exact (arrange_perm hdistinct).map Weekday.letter

theorem parse_arranged_letter (set : DaySet) : parse "A" ≠ .ok set := by
  intro h
  have hmem : 'A' ∈ set.letters.toList := (letters_perm h).mem_iff.mpr (by decide)
  exact absurd ((letters_sublist set).subset hmem) (by decide)

theorem intersects_iff {a b : DaySet} :
    a.intersects b = true ↔ ∃ day, a.contains day = true ∧ b.contains day = true := by
  simp only [intersects, contains, List.any_eq_true, List.contains_eq_mem, decide_eq_true_eq]

theorem intersects_comm (a b : DaySet) : a.intersects b = b.intersects a := by
  rw [Bool.eq_iff_iff, intersects_iff, intersects_iff]
  exact exists_congr fun day => and_comm

end DaySet

theorem isTime_iff {time : Nat} : isTime time = true ↔ time / 100 < 24 ∧ time % 100 < 60 := by
  simp [isTime]

theorem isTime_le {time : Nat} (h : isTime time = true) : time ≤ Bounds.time := by
  obtain ⟨hhour, -⟩ := isTime_iff.mp h
  rw [Bounds.time]
  omega

namespace TimeWindow

theorem make_eq_ok_iff {days : DaySet} {start finish : Nat} {window : TimeWindow} :
    make days start finish = .ok window ↔
      window.days = days ∧ window.start = start ∧ window.finish = finish := by
  constructor
  · intro h
    rw [make] at h
    split at h
    · split at h
      · split at h
        · cases h
          exact ⟨rfl, rfl, rfl⟩
        · cases h
      · cases h
    · cases h
  · rintro ⟨rfl, rfl, rfl⟩
    exact make_self window

theorem overlaps_comm (a b : TimeWindow) : a.overlaps b = b.overlaps a := by
  rw [overlaps, overlaps, DaySet.intersects_comm, Bool.and_assoc, Bool.and_assoc,
    Bool.and_comm (decide (a.start ≤ b.finish))]

end TimeWindow

namespace Meeting

/-- What is read is by arrangement, from the letter A alone without times; or in a window, from days
and two times that are not zero. -/
theorem parse_cases {letters : String} {start finish : Nat} {meeting : Meeting}
    (h : parse letters start finish = .ok meeting) :
    (meeting = arranged ∧ letters = "A" ∧ start = 0 ∧ finish = 0) ∨
    ∃ window, meeting = scheduled window ∧ DaySet.parse letters = .ok window.days ∧
      window.start = start ∧ window.finish = finish ∧ start ≠ 0 ∧ finish ≠ 0 := by
  rw [parse] at h
  split at h
  · rename_i hletters
    split at h
    · rename_i htimes
      cases h
      exact .inl ⟨rfl, hletters, htimes⟩
    · cases h
  split at h
  · cases h
  · rename_i htimes
    obtain ⟨days, hdays, h⟩ := bind_eq_ok_iff.mp h
    obtain ⟨window, hmake, h⟩ := bind_eq_ok_iff.mp h
    cases h
    obtain ⟨rfl, rfl, rfl⟩ := TimeWindow.make_eq_ok_iff.mp hmake
    exact .inr ⟨window, rfl, hdays, rfl, rfl, not_or.mp htimes⟩

theorem parse_eq_scheduled_iff {letters : String} {start finish : Nat} {window : TimeWindow} :
    parse letters start finish = .ok (scheduled window) ↔
      DaySet.parse letters = .ok window.days ∧ window.start = start ∧ window.finish = finish ∧
        start ≠ 0 ∧ finish ≠ 0 := by
  constructor
  · intro h
    obtain ⟨harranged, -⟩ | ⟨read, hsame, hread⟩ := parse_cases h
    · cases harranged
    · cases hsame
      exact hread
  · rintro ⟨hdays, rfl, rfl, htimes⟩
    have hletters : letters ≠ "A" := by
      rintro rfl
      exact DaySet.parse_arranged_letter _ hdays
    rw [parse, if_neg hletters, if_neg (not_or.mpr htimes), hdays, ok_bind, TimeWindow.make_self]
    rfl

/-- A window is read again from the letters of its days and its times, unless one of these is zero. -/
theorem parse_again {window : TimeWindow} (htimes : window.start ≠ 0 ∧ window.finish ≠ 0) :
    parse window.days.letters window.start window.finish = .ok (scheduled window) :=
  parse_eq_scheduled_iff.mpr ⟨DaySet.parse_letters window.days, rfl, rfl, htimes⟩

theorem validate_scheduled_iff {window : TimeWindow} :
    (scheduled window).validate = .ok () ↔ window.start ≠ 0 ∧ window.finish ≠ 0 := by
  rw [validate, bind_eq_ok_iff]
  constructor
  · rintro ⟨meeting, hparse, -⟩
    obtain ⟨-, hletters, -⟩ | ⟨read, -, -, -, -, htimes⟩ := parse_cases hparse
    · exact absurd (hletters ▸ DaySet.parse_letters window.days) (DaySet.parse_arranged_letter _)
    · exact htimes
  · intro htimes
    exact ⟨scheduled window, parse_again htimes, rfl⟩

/-- The meetings that pass are those that can be read from day letters and two times. -/
theorem validate_eq_ok_iff {meeting : Meeting} :
    meeting.validate = .ok () ↔
      ∃ letters start finish, parse letters start finish = .ok meeting := by
  cases meeting with
  | arranged => exact ⟨fun _ => ⟨"A", 0, 0, rfl⟩, fun _ => rfl⟩
  | scheduled window =>
    rw [validate_scheduled_iff]
    constructor
    · intro htimes
      exact ⟨_, _, _, parse_again htimes⟩
    · rintro ⟨letters, start, finish, hparse⟩
      obtain ⟨-, rfl, rfl, htimes⟩ := parse_eq_scheduled_iff.mp hparse
      exact htimes

theorem conflictsWith_comm (a b : Meeting) : a.conflictsWith b = b.conflictsWith a := by
  cases a with
  | arranged => cases b <;> rfl
  | scheduled a =>
    cases b with
    | arranged => rfl
    | scheduled b => exact TimeWindow.overlaps_comm a b

end Meeting

end Enrollment
