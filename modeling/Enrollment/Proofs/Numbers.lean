import Enrollment.Text.Typed

/-!
Numbers as they are typed: a text is read as a number if it is a plus sign or none, decimal digits
whose number is in range, and white space around them, and no other text is.
-/
namespace Enrollment.Text

inductive Numeral : List Char → Nat → Prop
  | plain {digits : List Char} (hne : digits ≠ []) (hdigits : ∀ c ∈ digits, c.isDigit = true) :
      Numeral digits (Nat.ofDigitChars 10 digits 0)
  | signed {digits : List Char} (hne : digits ≠ []) (hdigits : ∀ c ∈ digits, c.isDigit = true) :
      Numeral ('+' :: digits) (Nat.ofDigitChars 10 digits 0)

/-- A text says a number, with white space before and after it or not. -/
def Says (text : String) (number : Nat) : Prop :=
  ∃ before numeral after, text.toList = before ++ (numeral ++ after) ∧
    (∀ c ∈ before ++ after, isWhiteSpace c = true) ∧ Numeral numeral number

variable {bound value number : Nat} {cs before middle after : List Char} {text : String}

theorem le_ofDigitChars (cs : List Char) (value : Nat) : value ≤ Nat.ofDigitChars 10 cs value := by
  induction cs generalizing value with
  | nil => exact Nat.le_refl value
  | cons c rest ih =>
    rw [Nat.ofDigitChars_cons]
    have hrest := ih (10 * value + (c.toNat - '0'.toNat))
    omega

/-- A number past the bound is refused at the digit that takes it there, since further digits only
make it greater. -/
theorem readDigits_eq_ok_iff (hvalue : value ≤ bound) :
    readDigits bound value cs = .ok number ↔
      (∀ c ∈ cs, c.isDigit = true) ∧ number = Nat.ofDigitChars 10 cs value ∧ number ≤ bound := by
  induction cs generalizing value with
  | nil =>
    rw [readDigits, Nat.ofDigitChars_nil, Except.ok.injEq]
    refine ⟨?_, fun h => h.2.1.symm⟩
    rintro rfl
    exact ⟨List.forall_mem_nil _, rfl, hvalue⟩
  | cons c rest ih =>
    rw [readDigits, Nat.ofDigitChars_cons, List.forall_mem_cons, Nat.mul_comm 10 value]
    by_cases hdigit : c.isDigit = true
    · rw [if_pos hdigit]
      by_cases hfits : value * 10 + (c.toNat - '0'.toNat) ≤ bound
      · simp only [if_pos hfits, ih hfits, hdigit, true_and]
      · have hgreater := le_ofDigitChars rest (value * 10 + (c.toNat - '0'.toNat))
        simp only [if_neg hfits, reduceCtorEq, false_iff, not_and]
        omega
    · rw [if_neg hdigit]
      exact ⟨nofun, fun h => absurd h.1.1 hdigit⟩

theorem readUnsigned_digits (hne : cs ≠ []) (hdigits : ∀ c ∈ cs, c.isDigit = true) :
    readUnsigned bound cs = readDigits bound 0 cs := by
  have hplus : '+' ∉ cs := fun hmem => absurd (hdigits '+' hmem) (by decide)
  unfold readUnsigned
  split
  · exact absurd rfl hne
  · exact absurd List.mem_cons_self hplus
  · exact absurd List.mem_cons_self hplus
  · rfl

theorem readUnsigned_signed (hne : cs ≠ []) :
    readUnsigned bound ('+' :: cs) = readDigits bound 0 cs := by
  obtain ⟨c, rest, rfl⟩ := List.exists_cons_of_ne_nil hne
  rfl

theorem readUnsigned_eq_ok_iff :
    readUnsigned bound cs = .ok number ↔ Numeral cs number ∧ number ≤ bound := by
  constructor
  · intro h
    unfold readUnsigned at h
    split at h
    · cases h
    · cases h
    · rename_i digits hmore
      obtain ⟨hdigits, rfl, hle⟩ := (readDigits_eq_ok_iff (Nat.zero_le bound)).mp h
      exact ⟨.signed (by simpa using hmore) hdigits, hle⟩
    · rename_i hsome _ _
      obtain ⟨hdigits, rfl, hle⟩ := (readDigits_eq_ok_iff (Nat.zero_le bound)).mp h
      exact ⟨.plain (by simpa using hsome) hdigits, hle⟩
  · intro ⟨hnumeral, hle⟩
    cases hnumeral with
    | plain hne hdigits =>
      rw [readUnsigned_digits hne hdigits]
      exact (readDigits_eq_ok_iff (Nat.zero_le bound)).mpr ⟨hdigits, rfl, hle⟩
    | signed hne hdigits =>
      rw [readUnsigned_signed hne]
      exact (readDigits_eq_ok_iff (Nat.zero_le bound)).mpr ⟨hdigits, rfl, hle⟩

theorem isWhiteSpace_of_isDigit {c : Char} (h : c.isDigit = true) : isWhiteSpace c = false := by
  simp only [Char.isDigit, Bool.and_eq_true, decide_eq_true_eq] at h
  have hleast : 0x30 ≤ c.toNat := h.1
  have hgreatest : c.toNat ≤ 0x39 := h.2
  simp only [isWhiteSpace, Bool.or_eq_false_iff, Bool.and_eq_false_iff, decide_eq_false_iff_not,
    beq_eq_false_iff_ne]
  omega

theorem Numeral.not_blank (h : Numeral cs number) : ∀ c ∈ cs, isWhiteSpace c = false := by
  cases h with
  | plain hne hdigits => exact fun c hc => isWhiteSpace_of_isDigit (hdigits c hc)
  | signed hne hdigits =>
    exact List.forall_mem_cons.mpr
      ⟨by decide, fun c hc => isWhiteSpace_of_isDigit (hdigits c hc)⟩

theorem Numeral.ne_nil (h : Numeral cs number) : cs ≠ [] := by
  cases h with
  | plain hne hdigits => exact hne
  | signed hne hdigits => exact List.cons_ne_nil _ _

theorem dropWhile_blank (hbefore : ∀ c ∈ before, isWhiteSpace c = true)
    (hmiddle : ∀ c ∈ middle, isWhiteSpace c = false) (hne : middle ≠ []) :
    (before ++ (middle ++ after)).dropWhile isWhiteSpace = middle ++ after := by
  obtain ⟨c, rest, rfl⟩ := List.exists_cons_of_ne_nil hne
  have hc : ¬ isWhiteSpace c = true := by simp [hmiddle c List.mem_cons_self]
  rw [List.dropWhile_append_of_pos hbefore, List.cons_append, List.dropWhile_cons_of_neg hc]

theorem trim_eq (htext : text.toList = before ++ (middle ++ after))
    (hblank : ∀ c ∈ before ++ after, isWhiteSpace c = true)
    (hmiddle : ∀ c ∈ middle, isWhiteSpace c = false) (hne : middle ≠ []) :
    (trim text).toList = middle := by
  obtain ⟨hbefore, hafter⟩ := List.forall_mem_append.mp hblank
  have hreverse : ((middle ++ after).reverse.dropWhile isWhiteSpace).reverse = middle := by
    have hback := @dropWhile_blank after.reverse middle.reverse [] (by simpa using hafter)
      (by simpa using hmiddle) (by simpa using hne)
    rw [List.append_nil] at hback
    rw [List.reverse_append, hback, List.reverse_reverse]
  rw [trim, htext, dropWhile_blank hbefore hmiddle hne, hreverse, String.toList_ofList]

theorem exists_trim (text : String) :
    ∃ before after, text.toList = before ++ ((trim text).toList ++ after) ∧
      ∀ c ∈ before ++ after, isWhiteSpace c = true := by
  let rest := text.toList.dropWhile isWhiteSpace
  have hfront := @List.takeWhile_append_dropWhile _ isWhiteSpace text.toList
  have hback := congrArg List.reverse (@List.takeWhile_append_dropWhile _ isWhiteSpace rest.reverse)
  rw [List.reverse_append, List.reverse_reverse] at hback
  refine ⟨text.toList.takeWhile isWhiteSpace, (rest.reverse.takeWhile isWhiteSpace).reverse, ?_, ?_⟩
  · rw [trim, String.toList_ofList, hback, hfront]
  · refine List.forall_mem_append.mpr ⟨List.all_eq_true.mp List.all_takeWhile, ?_⟩
    intro c hc
    exact List.all_eq_true.mp List.all_takeWhile c (List.mem_reverse.mp hc)

/-- What is read of a text without the white space around it is the number that it says, if that is
in range. -/
theorem readUnsigned_trim_eq_ok_iff :
    readUnsigned bound (trim text).toList = .ok number ↔ Says text number ∧ number ≤ bound := by
  rw [readUnsigned_eq_ok_iff, and_congr_left_iff]
  intro _
  constructor
  · intro hnumeral
    obtain ⟨before, after, htext, hblank⟩ := exists_trim text
    exact ⟨before, _, after, htext, hblank, hnumeral⟩
  · intro ⟨before, numeral, after, htext, hblank, hnumeral⟩
    rwa [trim_eq htext hblank hnumeral.not_blank hnumeral.ne_nil]

end Enrollment.Text
