import Enrollment.Proofs.Meeting.Reading

/-!
Reading day letters: at which letter it stops and why, which set is read, and that two texts are read
as the same set exactly if they hold the same letters.
-/
namespace Enrollment.DaySet

/-- The first of some letters that is no day's, or that came before, and which of the two it is. -/
inductive FirstFault : List Char → MeetingFault → Prop
  | unknown {before after : List Char} {letter : Char} (hdistinct : before.Nodup)
      (hknown : ∀ earlier ∈ before, earlier ∈ ['M', 'T', 'W', 'H', 'F'])
      (hletter : letter ∉ ['M', 'T', 'W', 'H', 'F']) :
      FirstFault (before ++ letter :: after) (.unknownDay letter)
  | repeated {before after : List Char} {letter : Char} (hdistinct : before.Nodup)
      (hknown : ∀ earlier ∈ before, earlier ∈ ['M', 'T', 'W', 'H', 'F'])
      (hletter : letter ∈ before) :
      FirstFault (before ++ letter :: after) (.repeatedDay letter)

section Faults

variable {seen : List Weekday} {letters : List Char} {fault : MeetingFault}

theorem ofLetter?_eq_none_iff {letter : Char} :
    Weekday.ofLetter? letter = none ↔ letter ∉ ['M', 'T', 'W', 'H', 'F'] := by
  rw [← Weekday.exists_letter_iff, not_exists, Option.eq_none_iff_forall_ne_some]
  apply forall_congr'
  intro day
  rw [Ne, Weekday.ofLetter?_eq_some_iff, eq_comm]

theorem map_letter_known (days : List Weekday) :
    ∀ letter ∈ days.map Weekday.letter, letter ∈ ['M', 'T', 'W', 'H', 'F'] := by
  intro letter hmem
  obtain ⟨day, -, hday⟩ := List.mem_map.mp hmem
  exact Weekday.exists_letter_iff.mp ⟨day, hday⟩

/-- Letters are read one after another, each given the days that the ones before it name. -/
theorem readLetters_append (seen : List Weekday) (letters more : List Char) :
    readLetters seen (letters ++ more) =
      (readLetters seen letters >>= fun days => readLetters days more) := by
  induction letters generalizing seen with
  | nil => rfl
  | cons letter rest ih =>
    simp only [List.cons_append, readLetters]
    cases Weekday.ofLetter? letter with
    | none => rfl
    | some day =>
      by_cases hday : seen.contains day = true
      · simp only [hday, if_true]
        rfl
      · simp only [hday]
        exact ih _

/-- What is said of letters that cannot be read is their first fault. -/
theorem firstFault_of_readLetters (hread : readLetters seen letters = .error fault)
    (hseen : seen.Nodup) : FirstFault (seen.map Weekday.letter ++ letters) fault := by
  -- The days already read grow from letter to letter, so the induction is for any such days.
  induction letters generalizing seen with
  | nil => cases hread
  | cons letter rest ih =>
    have hdistinct := hseen.map Weekday.letter_injective
    rw [readLetters] at hread
    cases hday : Weekday.ofLetter? letter with
    | none =>
      rw [hday] at hread
      cases hread
      exact .unknown hdistinct (map_letter_known seen) (ofLetter?_eq_none_iff.mp hday)
    | some day =>
      obtain rfl := Weekday.ofLetter?_eq_some_iff.mp hday
      simp only [hday] at hread
      by_cases hmem : day ∈ seen
      · simp only [List.contains_eq_mem, hmem, decide_true, if_true] at hread
        cases hread
        exact .repeated hdistinct (map_letter_known seen) (List.mem_map_of_mem hmem)
      · simp only [List.contains_eq_mem, hmem, decide_false] at hread
        have hmore : (seen ++ [day]).Nodup := by
          simpa [List.nodup_append] using ⟨hseen, fun other hother => by
            rintro rfl
            exact hmem hother⟩
        simpa using ih hread hmore

/-- Letters without a fault are all read before the first fault is met. -/
theorem readLetters_of_firstFault (h : FirstFault letters fault) :
    readLetters [] letters = .error fault := by
  cases h with
  | unknown hdistinct hknown hletter =>
    obtain ⟨days, rfl⟩ := exists_map_letter hknown
    have hread : readLetters [] (days.map Weekday.letter) = .ok days :=
      readLetters_map_letter hdistinct.of_map
    rw [readLetters_append, hread, ok_bind, readLetters, ofLetter?_eq_none_iff.mpr hletter]
  | repeated hdistinct hknown hletter =>
    obtain ⟨days, rfl⟩ := exists_map_letter hknown
    obtain ⟨day, hday, rfl⟩ := List.mem_map.mp hletter
    have hread : readLetters [] (days.map Weekday.letter) = .ok days :=
      readLetters_map_letter hdistinct.of_map
    rw [readLetters_append, hread, ok_bind, readLetters, Weekday.ofLetter?_eq_some_iff.mpr rfl]
    simp [hday]

end Faults

section Sets

variable {letters other : String} {set : DaySet}

theorem parse_eq_error_iff {fault : MeetingFault} :
    parse letters = .error fault ↔
      letters = "" ∧ fault = .noDays ∨ FirstFault letters.toList fault := by
  constructor
  · intro h
    rw [parse] at h
    cases hread : readLetters [] letters.toList with
    | error found =>
      rw [hread] at h
      cases h
      exact .inr (firstFault_of_readLetters hread List.nodup_nil)
    | ok days =>
      obtain ⟨_, rfl, -, hletters⟩ := letters_of_readLetters hread List.nodup_nil
      rw [hread, ok_bind] at h
      cases days with
      | nil =>
        cases h
        exact .inl ⟨String.toList_eq_nil_iff.mp hletters, rfl⟩
      | cons day days => cases h
  · rintro (⟨rfl, rfl⟩ | h)
    · rfl
    · rw [parse, readLetters_of_firstFault h]
      rfl

theorem eq_of_contains {a b : DaySet} (h : ∀ day, a.contains day = true ↔ b.contains day = true) :
    a = b := by
  apply ext
  rw [a.inOrder, b.inOrder]
  exact List.filter_congr fun day _ => Bool.eq_iff_iff.mpr (h day)

/-- Two texts are read as one set if they hold the same letters, in whatever order. -/
theorem eq_iff_perm {a b : DaySet} (ha : parse letters = .ok a) (hb : parse other = .ok b) :
    a = b ↔ letters.toList.Perm other.toList := by
  constructor
  · rintro rfl
    exact (letters_perm ha).symm.trans (letters_perm hb)
  · intro hperm
    apply eq_of_contains
    intro day
    rw [contains_iff_of_parse ha, contains_iff_of_parse hb]
    exact hperm.mem_iff

end Sets

/-- A text is read as days exactly if it is made of distinct day letters; what is said of another is
its first fault, unless it is empty. The set has the days whose letters are there, is shown by these
letters in the order of the calendar, and is read again from there; and another text is read as the
same set if and only if it is made of the same letters. -/
theorem parsed_by_letters (letters : String) :
    ((∃ set, parse letters = .ok set) ↔ NamesDays letters) ∧
    (∀ fault, parse letters = .error fault ↔
      letters = "" ∧ fault = .noDays ∨ FirstFault letters.toList fault) ∧
    ∀ set, parse letters = .ok set →
      (∀ day, set.contains day = true ↔ day.letter ∈ letters.toList) ∧
      (toString set).toList.Perm letters.toList ∧
      (toString set).toList.Sublist ['M', 'T', 'W', 'H', 'F'] ∧
      parse (toString set) = .ok set ∧
      ∀ other same, parse other = .ok same → (set = same ↔ letters.toList.Perm other.toList) := by
  refine ⟨exists_parse_iff, fun fault => parse_eq_error_iff, ?_⟩
  intro set hset
  exact ⟨contains_iff_of_parse hset, letters_perm hset, letters_sublist set, parse_letters set,
    fun other same hsame => eq_iff_perm hset hsame⟩

/-- The letters of three days in two orders are read as one set; a letter that comes again is told
before one that is unknown if it comes first. -/
theorem parsed_by_letters_lectures :
    let lectures : DaySet := ⟨[.monday, .wednesday, .friday], rfl, nofun⟩
    parse "FWM" = .ok lectures ∧ parse "WFM" = .ok lectures ∧ toString lectures = "MWF" ∧
      "FWM".toList.Perm "WFM".toList ∧
      FirstFault "MTMX".toList (.repeatedDay 'M') ∧
      (MeetingFault.repeatedDay 'M').message = "day 'M' repeated" ∧
      FirstFault "MXM".toList (.unknownDay 'X') ∧
      (MeetingFault.unknownDay 'X').message = "unknown day 'X'" := by
  intro lectures
  have hfirst : parse "FWM" = .ok lectures := by decide +kernel
  have hsecond : parse "WFM" = .ok lectures := by decide +kernel
  have hrepeated : parse "MTMX" = .error (.repeatedDay 'M') := by decide +kernel
  have hunknown : parse "MXM" = .error (.unknownDay 'X') := by decide +kernel
  obtain ⟨-, -, hread⟩ := parsed_by_letters "FWM"
  obtain ⟨-, -, -, -, hsame⟩ := hread lectures hfirst
  have hmtmx := ((parsed_by_letters "MTMX").2.1 _).mp hrepeated
  have hmxm := ((parsed_by_letters "MXM").2.1 _).mp hunknown
  exact ⟨hfirst, hsecond, by decide +kernel, (hsame "WFM" lectures hsecond).mp rfl,
    hmtmx.resolve_left (by decide), by decide, hmxm.resolve_left (by decide), by decide⟩

end Enrollment.DaySet
