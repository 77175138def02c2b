import Enrollment.Meeting.DayMask
import Enrollment.Proofs.Meeting.Letters
import Mathlib.Data.List.Induction

/-!
Days kept as bits beside days kept in a list: letters are read as the mask of the set that they are
read as, and what is asked of a set is answered the same from its mask.
-/
namespace Enrollment

namespace DayMask

theorem bit_and_bit (a b : Weekday) : a.bit &&& b.bit = if a = b then a.bit else 0 := by
  cases a <;> cases b <;> rfl

theorem bit_ne_zero (day : Weekday) : day.bit ≠ 0 := by
  cases day <;> decide

theorem insert_and (mask : DayMask) (added : Weekday) (bits : UInt8) :
    (mask.insert added).bits &&& bits = (mask.bits &&& bits) ||| (added.bit &&& bits) := by
  rw [insert, ← UInt8.toBitVec_inj]
  exact BitVec.and_or_distrib_right

theorem contains_insert (mask : DayMask) (added day : Weekday) :
    (mask.insert added).contains day = (mask.contains day || day == added) := by
  rw [Bool.eq_iff_iff, contains, contains, insert_and, bit_and_bit]
  by_cases hsame : added = day
  · simp [hsame, bit_ne_zero]
  · simp [hsame, Ne.symm hsame]

theorem intersects_insert (mask other : DayMask) (added : Weekday) :
    (mask.insert added).intersects other = (mask.intersects other || other.contains added) := by
  rw [Bool.eq_iff_iff, intersects, intersects, contains, insert_and, UInt8.and_comm other.bits]
  simp only [bne_iff_ne, ne_eq, UInt8.or_eq_zero_iff, Bool.or_eq_true]
  tauto

theorem insert_comm (mask : DayMask) (first second : Weekday) :
    (mask.insert first).insert second = (mask.insert second).insert first := by
  simp only [insert, UInt8.or_assoc, UInt8.or_comm first.bit]

def ofDays (days : List Weekday) : DayMask := days.foldl insert ⟨0⟩

theorem ofDays_concat (days : List Weekday) (day : Weekday) :
    ofDays (days ++ [day]) = (ofDays days).insert day := by
  rw [ofDays, List.foldl_append]
  rfl

theorem ofDays_perm {days others : List Weekday} (h : days.Perm others) :
    ofDays days = ofDays others :=
  h.foldl_eq' (fun first _ second _ mask => insert_comm mask first second) ⟨0⟩

theorem contains_ofDays (days : List Weekday) (day : Weekday) :
    (ofDays days).contains day = days.contains day := by
  -- A day is put in last, so the induction is from that end.
  induction days using List.reverseRecOn with
  | nil => simp [ofDays, contains]
  | append_singleton days last ih =>
    rw [ofDays_concat, contains_insert, ih, List.contains_append, List.contains_cons,
      List.contains_nil, Bool.or_false]

theorem intersects_ofDays (days : List Weekday) (other : DayMask) :
    (ofDays days).intersects other = days.any other.contains := by
  induction days using List.reverseRecOn with
  | nil => simp [ofDays, intersects]
  | append_singleton days last ih =>
    rw [ofDays_concat, intersects_insert, ih, List.any_append, List.any_cons, List.any_nil,
      Bool.or_false]

/-- Letters are read bit by bit as they are read day by day. -/
theorem readLetters_ofDays (seen : List Weekday) (letters : List Char) :
    readLetters (ofDays seen) letters = (DaySet.readLetters seen letters).map ofDays := by
  induction letters generalizing seen with
  | nil => rfl
  | cons letter rest ih =>
    rw [readLetters, DaySet.readLetters]
    cases Weekday.ofLetter? letter with
    | none => rfl
    | some day =>
      simp only [contains_ofDays]
      by_cases hday : seen.contains day = true
      · rw [if_pos hday, if_pos hday]
        rfl
      · rw [if_neg hday, if_neg hday, ← ofDays_concat, ih]

end DayMask

namespace DaySet

variable {letters : String}

def mask (set : DaySet) : DayMask := DayMask.ofDays set.days

theorem contains_mask (set : DaySet) (day : Weekday) :
    set.mask.contains day = set.contains day :=
  DayMask.contains_ofDays set.days day

theorem intersects_mask (a b : DaySet) : a.mask.intersects b.mask = a.intersects b := by
  rw [mask, DayMask.intersects_ofDays, intersects]
  exact congrArg a.days.any (funext b.contains_mask)

theorem days_mask (set : DaySet) : set.mask.days = set.days := by
  rw [DayMask.days, set.inOrder]
  exact List.filter_congr fun day _ => set.contains_mask day

theorem toString_mask (set : DaySet) : toString set.mask = toString set :=
  congrArg (fun days => String.ofList (days.map Weekday.letter)) set.days_mask

theorem mask_inj {a b : DaySet} : a.mask = b.mask ↔ a = b := by
  refine ⟨fun h => ext ?_, congrArg mask⟩
  rw [← days_mask a, h, days_mask b]

/-- The same letters are read, as the mask of the set that they are read as; and others are refused
with the same fault. -/
theorem parse_mask (letters : String) : DayMask.parse letters = (parse letters).map mask := by
  have hread : DayMask.readLetters ⟨0⟩ letters.toList =
      (readLetters [] letters.toList).map DayMask.ofDays :=
    DayMask.readLetters_ofDays [] letters.toList
  rw [DayMask.parse, parse]
  by_cases hempty : letters = ""
  · subst hempty
    rfl
  rw [if_neg (by simpa using hempty), hread]
  cases hresult : readLetters [] letters.toList with
  | error fault => rfl
  | ok days =>
    obtain ⟨_, rfl, hdistinct, hletters⟩ := letters_of_readLetters hresult List.nodup_nil
    have hne : days ≠ [] := by
      rintro rfl
      exact hempty (String.toList_eq_nil_iff.mp hletters)
    rw [ok_bind, dif_pos hne]
    exact congrArg Except.ok (DayMask.ofDays_perm (arrange_perm hdistinct)).symm

end DaySet

end Enrollment
