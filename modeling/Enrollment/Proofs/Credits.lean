import Enrollment.Student
import Mathlib.Algebra.GroupWithZero.Nat
import Mathlib.Algebra.Order.Group.Nat
import Mathlib.Algebra.Order.BigOperators.Group.List

/-!
The credits of some courses: their sum, and what becomes of it when they are added up in 32 bits.
-/
namespace Enrollment

namespace Credits

theorem add?_eq_some_iff {a b total : UInt32} :
    add? a b = some total ↔ total.toNat = a.toNat + b.toNat := by
  by_cases hfits : a.toNat + b.toNat < UInt32.size
  · have hsum : (a + b).toNat = a.toNat + b.toNat := by
      rw [UInt32.toNat_add]
      exact Nat.mod_eq_of_lt hfits
    rw [add?, if_pos hfits, Option.some.injEq, ← UInt32.toNat_inj, hsum, eq_comm]
  · rw [add?, if_neg hfits]
    refine iff_of_false (Option.some_ne_none total).symm ?_
    intro htotal
    exact hfits (htotal ▸ total.toNat_lt_size)

theorem foldlM_add?_eq_some_iff {credits : List UInt32} {start total : UInt32} :
    credits.foldlM add? start = some total ↔
      total.toNat = start.toNat + (credits.map UInt32.toNat).sum := by
  induction credits generalizing start with
  | nil =>
    rw [List.foldlM_nil, Option.pure_def, Option.some.injEq, List.map_nil, List.sum_nil,
      Nat.add_zero, UInt32.toNat_inj, eq_comm]
  | cons first rest ih =>
    rw [List.foldlM_cons, List.map_cons, List.sum_cons, ← Nat.add_assoc]
    cases hadd : add? start first with
    | some next =>
      rw [← add?_eq_some_iff.mp hadd]
      exact ih
    | none =>
      refine iff_of_false (Option.some_ne_none total).symm ?_
      intro htotal
      -- A sum that fits has fitted all along.
      have hfits : start.toNat + first.toNat < UInt32.size := by
        have hlt := total.toNat_lt_size
        omega
      rw [add?, if_pos hfits] at hadd
      cases hadd

theorem sum?_append_singleton (credits : List UInt32) (last : UInt32) :
    sum? (credits ++ [last]) = (sum? credits).bind (add? · last) := by
  rw [sum?, List.foldlM_append]
  cases hsum : sum? credits <;> rw [sum?] at hsum <;> simp [hsum]

theorem sum?_eq_some_iff {credits : List UInt32} {total : UInt32} :
    sum? credits = some total ↔ total.toNat = (credits.map UInt32.toNat).sum := by
  rw [sum?, foldlM_add?_eq_some_iff, UInt32.toNat_zero, Nat.zero_add]

theorem sum?_eq_none_iff {credits : List UInt32} :
    sum? credits = none ↔ UInt32.size ≤ (credits.map UInt32.toNat).sum := by
  cases hsum : sum? credits with
  | some total =>
    rw [← sum?_eq_some_iff.mp hsum]
    exact iff_of_false (Option.some_ne_none total) (Nat.not_le.mpr total.toNat_lt_size)
  | none =>
    refine iff_of_true rfl (Nat.le_of_not_lt ?_)
    intro hfits
    have htotal := sum?_eq_some_iff.mpr (UInt32.toNat_ofNat_of_lt' hfits)
    rw [hsum] at htotal
    cases htotal

end Credits

namespace Course

variable {courses fewer : List Course} {total : UInt32}

def totalCredits (courses : List Course) : Nat :=
  (courses.map fun course => course.credits.toNat).sum

theorem totalCredits_append (courses more : List Course) :
    totalCredits (courses ++ more) = totalCredits courses + totalCredits more := by
  rw [totalCredits, List.map_append, List.sum_append]
  rfl

theorem totalCredits_le_of_sublist (h : fewer.Sublist courses) :
    totalCredits fewer ≤ totalCredits courses :=
  (h.map _).sum_le_sum fun _ _ => Nat.zero_le _

theorem sum?_credits_eq_some_iff :
    Credits.sum? (courses.map credits) = some total ↔ total.toNat = totalCredits courses := by
  rw [Credits.sum?_eq_some_iff, List.map_map]
  rfl

theorem map_toNat_sum?_credits (hfits : totalCredits courses < UInt32.size) :
    (Credits.sum? (courses.map credits)).map UInt32.toNat = some (totalCredits courses) := by
  have htotal := UInt32.toNat_ofNat_of_lt' hfits
  rw [sum?_credits_eq_some_iff.mpr htotal, Option.map_some, htotal]

theorem sum?_credits_eq_none_iff :
    Credits.sum? (courses.map credits) = none ↔ UInt32.size ≤ totalCredits courses := by
  rw [Credits.sum?_eq_none_iff, List.map_map]
  rfl

end Course

end Enrollment
