import Enrollment.Proofs.Course
import Enrollment.Roster.Basic
import Enrollment.Sequence.ChainList
import Enrollment.Student

/-!
What is written of students and of courses tells them apart: a text in quotes can be read back, and
the section code of a course that follows the rules has a fixed length.  So nobody can choose an id
or a name with which the entries on an audit trail read like those of somebody or something else.
-/
namespace Enrollment

namespace Text

def digitValue (digit : Char) : Nat :=
  if digit.isDigit then digit.toNat - '0'.toNat else digit.toNat - 'a'.toNat + 10

def readNumber : Nat → List Char → Option (Nat × List Char)
  | _, [] => none
  | number, digit :: rest =>
    if digit = '\x7d' then some (number, rest)
    else readNumber (16 * number + digitValue digit) rest

def readChar : List Char → Option (Char × List Char)
  | '\\' :: 'u' :: '\x7b' :: rest =>
    (readNumber 0 rest).map fun (number, rest) => (Char.ofNat number, rest)
  | '\\' :: '0' :: rest => some ('\x00', rest)
  | '\\' :: 't' :: rest => some ('\t', rest)
  | '\\' :: 'n' :: rest => some ('\n', rest)
  | '\\' :: 'r' :: rest => some ('\r', rest)
  | '\\' :: c :: rest => some (c, rest)
  | '"' :: _ => none
  | c :: rest => some (c, rest)
  | [] => none

theorem readNumber_digitChar {digit : Nat} (h : digit < 16) (number : Nat) (rest : List Char) :
    readNumber number (digit.digitChar :: rest) = readNumber (16 * number + digit) rest := by
  have hdigits : ∀ digit : Fin 16, digit.val.digitChar ≠ '\x7d' ∧
      digitValue digit.val.digitChar = digit.val := by decide
  obtain ⟨hbrace, hvalue⟩ := hdigits ⟨digit, h⟩
  rw [readNumber, if_neg hbrace, hvalue]

theorem readNumber_toDigits (n : Nat) (rest : List Char) :
    readNumber 0 (Nat.toDigits 16 n ++ rest) = readNumber n rest := by
  induction n using Nat.strongRecOn generalizing rest with
  | ind n ih =>
    by_cases hdigit : n < 16
    · rw [Nat.toDigits_of_lt_base hdigit, List.singleton_append, readNumber_digitChar hdigit,
        Nat.mul_zero, Nat.zero_add]
    · rw [Nat.toDigits_of_base_le (by decide) (Nat.not_lt.mp hdigit), List.append_assoc,
        ih (n / 16) (by omega), List.singleton_append, readNumber_digitChar (by omega),
        Nat.div_add_mod]

theorem readChar_numbered (c : Char) (rest : List Char) :
    readChar (numbered c ++ rest) = some (c, rest) := by
  have hread := readNumber_toDigits c.toNat ('\x7d' :: rest)
  simp [numbered, readChar, hread, readNumber]

theorem readChar_quotedChar (c : Char) (rest : List Char) :
    readChar (quotedChar c ++ rest) = some (c, rest) := by
  by_cases hnull : c = '\x00'
  · rw [hnull]
    rfl
  by_cases htab : c = '\t'
  · rw [htab]
    rfl
  by_cases hline : c = '\n'
  · rw [hline]
    rfl
  by_cases hreturn : c = '\r'
  · rw [hreturn]
    rfl
  by_cases hquote : c = '"'
  · rw [hquote]
    rfl
  by_cases hslash : c = '\\'
  · rw [hslash]
    rfl
  rw [quotedChar, if_neg hnull, if_neg htab, if_neg hline, if_neg hreturn, if_neg hquote,
    if_neg hslash]
  cases isHidden c || isExtender c with
  | true => exact readChar_numbered c rest
  | false => simp [readChar, hslash]

/-- What is between quotes is read back up to the closing quote, whatever follows it. -/
theorem flatMap_quotedChar_inj {a b rest rest' : List Char}
    (h : a.flatMap quotedChar ++ '"' :: rest = b.flatMap quotedChar ++ '"' :: rest') :
    a = b ∧ rest = rest' := by
  have hread := congrArg readChar h
  induction a generalizing b with
  | nil =>
    cases b with
    | nil => exact ⟨rfl, List.tail_eq_of_cons_eq h⟩
    | cons d b =>
      rw [List.flatMap_cons, List.append_assoc, readChar_quotedChar] at hread
      cases hread
  | cons c a ih =>
    rw [List.flatMap_cons, List.append_assoc, readChar_quotedChar] at hread
    cases b with
    | nil => cases hread
    | cons d b =>
      rw [List.flatMap_cons, List.append_assoc, readChar_quotedChar] at hread
      simp only [Option.some.injEq, Prod.mk.injEq] at hread
      obtain ⟨rfl, htail⟩ := hread
      obtain ⟨rfl, hrest⟩ := ih htail (congrArg readChar htail)
      exact ⟨rfl, hrest⟩

theorem quoted_append_inj {a b rest rest' : String} (h : quoted a ++ rest = quoted b ++ rest') :
    a = b ∧ rest = rest' := by
  have hchars := congrArg String.toList h
  simp only [quoted, String.toList_append, String.toList_ofList, List.cons_append,
    List.append_assoc, List.cons.injEq, true_and, List.nil_append] at hchars
  obtain ⟨htext, hrest⟩ := flatMap_quotedChar_inj hchars
  exact ⟨String.toList_inj.mp htext, String.toList_inj.mp hrest⟩

/-- The digits of a number are read back. -/
theorem toString_inj {m n : UInt32} (h : toString m = toString n) : m = n := by
  have hdigits : Nat.toDigits 10 m.toNat = Nat.toDigits 10 n.toNat := by
    have hchars : (toString m.toNat).toList = (toString n.toNat).toList :=
      congrArg String.toList h
    simpa only [Nat.toString_eq_ofList_toDigits, String.toList_ofList] using hchars
  apply UInt32.toNat_inj.mp
  calc m.toNat = Nat.ofDigitChars 10 (Nat.toDigits 10 m.toNat) 0 :=
        Nat.ofDigitChars_ten_toDigits.symm
    _ = Nat.ofDigitChars 10 (Nat.toDigits 10 n.toNat) 0 := by rw [hdigits]
    _ = n.toNat := Nat.ofDigitChars_ten_toDigits

end Text

/-- Students who are written the same are the same student. -/
theorem Student.describe_inj {a b : Student} (h : a.describe = b.describe) : a = b := by
  delta describe at h
  simp only [String.append_assoc] at h
  obtain ⟨hid, hrest⟩ := Text.quoted_append_inj (String.append_right_inj _ |>.mp h)
  rw [String.append_right_inj, String.append_left_inj] at hrest
  exact (Student.mk.injEq ..).mpr ⟨hid, Text.toString_inj hrest⟩

namespace Course

/-- A section code is the last three characters of what is written of the course. -/
theorem describe_inj {a b : Course} (ha : a.validate = .ok ()) (hb : b.validate = .ok ())
    (h : a.describe = b.describe) : a.key = b.key := by
  have hlength : ∀ course : Course, course.validate = .ok () →
      course.sectionCode.toList.length = 3 := by
    intro course hvalid
    have hcode := (validate_eq_ok_iff.mp hvalid).sectionCode
    simp only [isSectionCode, Bool.and_eq_true, beq_iff_eq] at hcode
    exact hcode.1
  have hchars : (a.name.toList ++ ['-']) ++ a.sectionCode.toList =
      (b.name.toList ++ ['-']) ++ b.sectionCode.toList := by
    have hchars := congrArg String.toList h
    simp only [describe, String.toList_append] at hchars
    exact hchars
  obtain ⟨hname, hcode⟩ := List.append_inj' hchars (by rw [hlength a ha, hlength b hb])
  have hname := String.toList_inj.mp (List.append_cancel_right hname)
  exact Prod.ext hname (String.toList_inj.mp hcode)

end Course

namespace Roster

variable {C E S T U V : Type}

def Records [ToString C] [ToString E] (roster : Roster C S T) (entity : E) (entry : AuditEntry) :
    Prop :=
  ∃ action detail, entry ∈ Notice.audits
    ((record entity action detail : Call (Roster C S T) RosterError Unit) roster).notices

theorem Records.texts [ToString C] [ToString E] {roster : Roster C S T} {entity : E}
    {entry : AuditEntry} (h : roster.Records entity entry) :
    entry.entity = toString entity ∧ entry.roster = toString roster.course := by
  obtain ⟨action, detail, hentry⟩ := h
  cases haudited : roster.audited with
  | false => simp [record, haudited, Notice.audits] at hentry
  | true =>
    have heq : entry = ⟨toString entity, toString roster.course, action, detail⟩ := by
      simpa [record, haudited, Notice.audits] using hentry
    rw [heq]
    exact ⟨rfl, rfl⟩

theorem records_of_audited [ToString C] [ToString E] {roster : Roster C S T}
    (haudited : roster.audited = true) (entity : E) (action : AuditAction)
    (detail : Option String) :
    roster.Records entity ⟨toString entity, toString roster.course, action, detail⟩ := by
  refine ⟨action, detail, ?_⟩
  simp [record, haudited, Notice.audits]

/-- Entries with the same two texts, recorded on whichever rosters of courses that follow the rules
and of whichever changes, are about the same student and the same section of the same course. -/
theorem told_apart_by_texts {a b : Student} {roster : Roster Course S T}
    {other : Roster Course U V} (hvalid : roster.course.validate = .ok ())
    (hother : other.course.validate = .ok ()) {entry entry' : AuditEntry}
    (h : roster.Records a entry) (h' : other.Records b entry')
    (hentity : entry.entity = entry'.entity) (hroster : entry.roster = entry'.roster) :
    a.id = b.id ∧ a.maxCredits = b.maxCredits ∧ roster.course.name = other.course.name ∧
      roster.course.sectionCode = other.course.sectionCode := by
  obtain ⟨hstudent, hcourse⟩ := h.texts
  obtain ⟨hstudent', hcourse'⟩ := h'.texts
  rw [hstudent, hstudent'] at hentity
  rw [hcourse, hcourse'] at hroster
  obtain rfl := Student.describe_inj hentity
  obtain ⟨hname, hcode⟩ := Prod.mk.inj (Course.describe_inj hvalid hother hroster)
  exact ⟨rfl, rfl, hname, hcode⟩

/-- An id and a name that end like the texts of others, on two rosters of the same section under
different titles. -/
theorem told_apart_by_texts_crafted :
    let ada : Student := ⟨"ada\", max_credits: 9, .. \x7d", 18⟩
    let logic : Course := ⟨"Logic-001", "Logic", "002", 3, none, .arranged⟩
    let roster : Roster Course (SlotList Student) (SlotList Student) :=
      ⟨logic, ⟨1, 2, 1⟩, 1, BoundedSeq.bounded 1, Queue.bounded 1, true⟩
    let other : Roster Course (ChainList Student) (ChainList Student) :=
      ⟨{ logic with title := "Logic, again", credits := 4 }, ⟨1, 2, 1⟩, 1, BoundedSeq.bounded 1,
        Queue.bounded 1, true⟩
    let text := "Student \x7b id: \"ada\\\", max_credits: 9, .. \x7d\", max_credits: 18, .. \x7d"
    let seated : AuditEntry := ⟨text, "Logic-001-002", .enroll, none⟩
    let promoted : AuditEntry :=
      ⟨text, "Logic-001-002", .promote, some "schedule rejected course"⟩
    roster.course.validate = .ok () ∧ other.course.validate = .ok () ∧
      roster.Records ada seated ∧ other.Records ada promoted ∧ roster.course ≠ other.course ∧
      roster.course.name = other.course.name ∧
      roster.course.sectionCode = other.course.sectionCode := by
  intro ada logic roster other text seated promoted
  have hvalid : roster.course.validate = .ok () := by decide +kernel
  have hother : other.course.validate = .ok () := by decide +kernel
  have htext : toString ada = text := by decide +kernel
  have hcourse : toString roster.course = "Logic-001-002" := by decide +kernel
  have hseated : roster.Records ada seated := by
    have hrecords := records_of_audited (show roster.audited = true from rfl) ada .enroll none
    rwa [htext, hcourse] at hrecords
  have hpromoted : other.Records ada promoted := by
    have hrecords := records_of_audited (show other.audited = true from rfl) ada .promote
      (some "schedule rejected course")
    rwa [htext, show toString other.course = toString roster.course from rfl, hcourse] at hrecords
  obtain ⟨-, -, hname, hcode⟩ := told_apart_by_texts hvalid hother hseated hpromoted rfl rfl
  exact ⟨hvalid, hother, hseated, hpromoted, by decide +kernel, hname, hcode⟩

end Roster

end Enrollment
