import Enrollment.Course.Basic
import Enrollment.Proofs.Meeting
import Mathlib.Data.String.Basic

/-!
Courses: the rules for their fields, which courses can be made, and their order.
-/
namespace Enrollment.Course

variable {course : Course}

structure Valid (course : Course) : Prop where
  name : Text.isBlank course.name = false
  title : Text.isBlank course.title = false
  sectionCode : isSectionCode course.sectionCode = true
  minCredits_le : minCredits ≤ course.credits
  le_maxCredits : course.credits ≤ maxCredits
  meeting : course.meeting.validate = .ok ()

theorem validate_eq_ok_iff : course.validate = .ok () ↔ course.Valid := by
  constructor
  · intro h
    rw [validate] at h
    split at h
    · cases h
    rename_i hname
    split at h
    · cases h
    rename_i htitle
    split at h
    · cases h
    rename_i hcode
    split at h
    · cases h
    rename_i hcredits
    obtain ⟨hmin, hmax⟩ := not_or.mp hcredits
    rw [Bool.not_eq_true] at hname htitle
    rw [Bool.not_eq_true, Bool.not_eq_false'] at hcode
    exact ⟨hname, htitle, hcode, UInt32.not_lt.mp hmin, UInt32.not_lt.mp hmax,
      mapError_eq_ok_iff.mp h⟩
  · intro ⟨hname, htitle, hcode, hmin, hmax, hmeeting⟩
    have hcredits : ¬ (course.credits < minCredits ∨ maxCredits < course.credits) :=
      not_or.mpr ⟨UInt32.not_lt.mpr hmin, UInt32.not_lt.mpr hmax⟩
    simp only [validate, hname, htitle, hcode, hcredits, hmeeting]
    rfl

theorem make_eq_ok_iff :
    make course.name course.title course.sectionCode course.credits course.instructorId
      course.meeting = .ok course ↔ course.validate = .ok () := by
  rw [make, bind_eq_ok_iff]
  exact ⟨fun ⟨_, h, _⟩ => h, fun h => ⟨(), h, rfl⟩⟩

def Built (course : Course) : Prop :=
  ∃ letters start finish, Meeting.parse letters start finish = .ok course.meeting ∧
    make course.name course.title course.sectionCode course.credits course.instructorId
      course.meeting = .ok course

theorem built_of_validate (h : course.validate = .ok ()) : course.Built := by
  obtain ⟨letters, start, finish, hparse⟩ :=
    Meeting.validate_eq_ok_iff.mp (validate_eq_ok_iff.mp h).meeting
  exact ⟨letters, start, finish, hparse, make_eq_ok_iff.mpr h⟩

section Order

instance : Std.TransOrd Course :=
  inferInstanceAs
    (Std.TransCmp (compareLex (compareOn Course.name) (compareOn Course.sectionCode)))

theorem compare_eq (a b : Course) :
    compare a b = (compare a.name b.name).then (compare a.sectionCode b.sectionCode) := rfl

theorem compare_eq_lt {a b : Course} :
    compare a b = .lt ↔ a.name < b.name ∨ a.name = b.name ∧ a.sectionCode < b.sectionCode := by
  rw [compare_eq, Ordering.then_eq_lt, compare_lt_iff_lt, compare_lt_iff_lt, compare_eq_iff_eq]

instance : Std.LawfulBEqOrd Course where
  compare_eq_iff_beq {a b} := by
    rw [compare_eq, Ordering.then_eq_eq, compare_eq_iff_eq, compare_eq_iff_eq, beq_iff, key, key,
      Prod.mk.injEq]

end Order

end Enrollment.Course
