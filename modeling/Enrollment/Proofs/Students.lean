import Enrollment.Proofs.Credits
import Enrollment.Proofs.Schedule
import Enrollment.Registrar.Basic
import Mathlib.Logic.Function.Basic

/-!
What the calls on the records of students do, said of what shows of the records.
-/
namespace Enrollment

namespace Directory

variable {κ ν β : Type} [BEq κ] [LawfulBEq κ] {directory : Directory κ ν}

/-- What is found after a value has been put is the value or was found before. -/
theorem of_find?_put {key other : κ} {value found : ν}
    (hfound : (directory.put key value).find? other = some found) :
    found = value ∨ directory.find? other = some found := by
  by_cases hother : other = key
  · rw [hother, find?_put_self] at hfound
    exact .inl (Option.some.inj hfound).symm
  · rw [find?_put_of_ne directory hother] at hfound
    exact .inr hfound

theorem of_find?_erase {key other : κ} {found : ν}
    (hfound : (directory.erase key).find? other = some found) :
    directory.find? other = some found := by
  by_cases hother : other = key
  · rw [hother, find?_erase_self] at hfound
    cases hfound
  · rwa [find?_erase_of_ne directory hother] at hfound

omit [LawfulBEq κ] in
/-- A value that is put under a new key is counted. -/
theorem size_put {key : κ} (hnone : directory.find? key = none) (value : ν) :
    (directory.put key value).size = directory.size + 1 := by
  obtain ⟨entries⟩ := directory
  simp only [find?] at hnone
  simp only [size, put]
  induction entries with
  | nil => rfl
  | cons entry rest ih =>
    obtain ⟨k, v⟩ := entry
    cases hk : key == k with
    | true => simp [List.lookup_cons, hk] at hnone
    | false =>
      rw [List.lookup_cons, hk] at hnone
      simp [putEntry, hk, ih hnone]

variable [DecidableEq κ] (f : ν → β)

theorem map_find?_put (key : κ) (value : ν) :
    (fun other => ((directory.put key value).find? other).map f) =
      Function.update (fun other => (directory.find? other).map f) key (some (f value)) := by
  funext other
  by_cases hother : other = key
  · rw [hother, Function.update_self, find?_put_self, Option.map_some]
  · rw [Function.update_of_ne hother, find?_put_of_ne directory hother]

theorem map_find?_erase (key : κ) :
    (fun other => ((directory.erase key).find? other).map f) =
      Function.update (fun other => (directory.find? other).map f) key none := by
  funext other
  by_cases hother : other = key
  · rw [hother, Function.update_self, find?_erase_self, Option.map_none]
  · rw [Function.update_of_ne hother, find?_erase_of_ne directory hother]

end Directory

structure RecordView where
  student : Student
  title : String
  items : List Course

namespace RecordView

def creditsWith (shown : RecordView) (course : Course) : Nat :=
  Course.totalCredits shown.items + course.credits.toNat

def Admits (shown : RecordView) (course : Course) : Prop :=
  Schedule.checkAgainst course shown.items = .ok () ∧
    shown.creditsWith course ≤ shown.student.maxCredits.toNat

inductive Rejects (shown : RecordView) (course : Course) : Misfit → Prop
  | clash {error : ScheduleError}
      (hcheck : Schedule.checkAgainst course shown.items = .error error) :
      Rejects shown course (.clash course.describe)
  | overload (hcheck : Schedule.checkAgainst course shown.items = .ok ())
      (hfits : shown.creditsWith course < UInt32.size)
      (hover : shown.student.maxCredits.toNat < shown.creditsWith course) :
      Rejects shown course (.overload course.describe
        (UInt32.ofNat (shown.creditsWith course)) shown.student.maxCredits)

def Overflows (shown : RecordView) (course : Course) : Prop :=
  Schedule.checkAgainst course shown.items = .ok () ∧ UInt32.size ≤ shown.creditsWith course

variable {shown : RecordView} {course : Course}

theorem Overflows.not_admits (h : shown.Overflows course) : ¬ shown.Admits course := by
  intro hadmits
  exact Nat.not_lt.mpr h.2 (hadmits.2.trans_lt shown.student.maxCredits.toNat_lt_size)

theorem Rejects.not_admits {misfit : Misfit} (h : shown.Rejects course misfit) :
    ¬ shown.Admits course := by
  intro ⟨hclear, hunder⟩
  cases h with
  | clash hclash =>
    rw [hclear] at hclash
    cases hclash
  | overload _ _ hover => exact Nat.not_lt.mpr hunder hover

end RecordView

namespace StudentRecord

variable {record : StudentRecord} {course : Course}

def view (record : StudentRecord) : RecordView :=
  ⟨record.student, record.schedule.title, record.schedule.toList⟩

structure Shows (view : RecordView) (record : StudentRecord) : Prop where
  sound : record.schedule.Sound
  view_eq : record.view = view

theorem shows_of_schedule {schedule : Schedule Course} {student : Student} {title : String}
    {items : List Course} (h : Schedule.Shows title items schedule) :
    Shows ⟨student, title, items⟩ ⟨student, schedule⟩ := by
  refine ⟨h.sound, ?_⟩
  simp only [view, h.title, h.items]

theorem creditsWith?_eq (record : StudentRecord) (course : Course) :
    record.creditsWith? course =
      Credits.sum? ((record.schedule.toList ++ [course]).map Course.credits) := by
  rw [List.map_append, List.map_singleton, Credits.sum?_append_singleton]
  rfl

theorem creditsWith?_eq_some_iff {total : UInt32} :
    record.creditsWith? course = some total ↔ total.toNat = record.view.creditsWith course := by
  rw [creditsWith?_eq, Course.sum?_credits_eq_some_iff, Course.totalCredits_append]
  rfl

theorem map_toNat_creditsWith? (hfits : record.view.creditsWith course < UInt32.size) :
    (record.creditsWith? course).map UInt32.toNat = some (record.view.creditsWith course) := by
  have htotal := UInt32.toNat_ofNat_of_lt' hfits
  rw [creditsWith?_eq_some_iff.mpr htotal, Option.map_some, htotal]

theorem creditsWith?_eq_none_iff :
    record.creditsWith? course = none ↔ UInt32.size ≤ record.view.creditsWith course := by
  rw [creditsWith?_eq, Course.sum?_credits_eq_none_iff, Course.totalCredits_append]
  rfl

theorem checkCanAdd_cases (record : StudentRecord) (course : Course) :
    (∃ misfit, record.view.Rejects course misfit ∧
      record.checkCanAdd course = .error (.cannotAdd misfit)) ∨
    record.view.Overflows course ∧ record.checkCanAdd course = .error .overflow ∨
    record.view.Admits course ∧ record.checkCanAdd course = .ok () := by
  cases hcheck : record.schedule.check course with
  | error e =>
    refine .inl ⟨_, .clash hcheck, ?_⟩
    simp [checkCanAdd, Schedule.canAdd, hcheck, Except.isOk, Except.toBool]
  | ok =>
    cases htotal : record.creditsWith? course with
    | none =>
      refine .inr (.inl ⟨⟨hcheck, creditsWith?_eq_none_iff.mp htotal⟩, ?_⟩)
      simp [checkCanAdd, Schedule.canAdd, hcheck, Except.isOk, Except.toBool, htotal]
    | some total =>
      have hsum := creditsWith?_eq_some_iff.mp htotal
      by_cases hover : record.student.maxCredits < total
      · have hcall : record.checkCanAdd course = .error (.cannotAdd (.overload course.describe
            (UInt32.ofNat (record.view.creditsWith course)) record.student.maxCredits)) := by
          rw [← hsum, UInt32.ofNat_toNat]
          simp [checkCanAdd, Schedule.canAdd, hcheck, Except.isOk, Except.toBool, htotal, hover]
        refine .inl ⟨_, .overload hcheck ?_ ?_, hcall⟩
        · exact hsum ▸ total.toNat_lt_size
        · exact hsum ▸ UInt32.lt_iff_toNat_lt.mp hover
      · refine .inr (.inr ⟨⟨hcheck, ?_⟩, ?_⟩)
        · exact hsum ▸ UInt32.le_iff_toNat_le.mp (UInt32.not_lt.mp hover)
        · simp [checkCanAdd, Schedule.canAdd, hcheck, Except.isOk, Except.toBool, htotal, hover]

theorem checkCanAdd_eq_ok : record.checkCanAdd course = .ok () ↔ record.view.Admits course := by
  obtain ⟨misfit, hrejects, hcheck⟩ | ⟨hoverflows, hcheck⟩ | ⟨hadmits, hcheck⟩ :=
    record.checkCanAdd_cases course
  · rw [hcheck]
    exact iff_of_false (by simp) hrejects.not_admits
  · rw [hcheck]
    exact iff_of_false (by simp) hoverflows.not_admits
  · exact iff_of_true hcheck hadmits

/-- Where the credits do not add up, the student's record is looked at and left alone. -/
theorem attach_of_overflow (hover : UInt32.size ≤ record.view.creditsWith course) :
    attach course record = ⟨.error .overflow, record, [.panic]⟩ := by
  simp [attach, creditsWith?_eq_none_iff.mpr hover]

/-- A course goes on the schedule exactly when it can be added, if there is room. -/
theorem attach_cases (h : record.schedule.Sound) (course : Course) :
    (∃ e heard, (attach course).Refuses record e heard ∧ Notice.audits heard = [] ∧
      (¬ record.view.Admits course ∨ Bounds.count ≤ record.schedule.toList.length)) ∨
    record.view.Admits course ∧
      (attach course).Answers record ()
        (Shows ⟨record.student, record.schedule.title, record.schedule.toList ++ [course]⟩)
        [.log ⟨.debug, "added to schedule", [("item", .text course.name)]⟩] := by
  cases htotal : record.creditsWith? course with
  | none =>
    have hover := creditsWith?_eq_none_iff.mp htotal
    refine .inl ⟨_, _, Call.Refuses.of_eq (attach_of_overflow hover) rfl, rfl, .inl ?_⟩
    intro hadmits
    exact Nat.not_lt.mpr hover (hadmits.2.trans_lt record.student.maxCredits.toNat_lt_size)
  | some total =>
    have hsum := creditsWith?_eq_some_iff.mp htotal
    by_cases hcredits : record.student.maxCredits < total
    · have hcall : attach course record =
          ⟨.error (.creditLimit record.student.maxCredits), record, []⟩ := by
        simp [attach, htotal, hcredits]
      refine .inl ⟨_, [], Call.Refuses.of_eq hcall rfl, rfl, .inl ?_⟩
      intro hadmits
      exact Nat.not_lt.mpr (hsum ▸ hadmits.2) (UInt32.lt_iff_toNat_lt.mp hcredits)
    · have hcall : attach course record = onSchedule (Schedule.add (some course)) record := by
        simp [attach, htotal, hcredits]
      obtain ⟨e, heard, hadd, haudits, hcause⟩ | ⟨hcheck, hadd⟩ := Schedule.add_cases h course
      · refine .inl ⟨e, heard, (hadd.within rfl).congr hcall, haudits, hcause.imp_left ?_⟩
        intro hcheck hadmits
        have hok : record.schedule.check course = .ok () := hadmits.1
        rw [hcheck] at hok
        cases hok
      · refine .inr ⟨⟨hcheck, ?_⟩, (hadd.within fun _ ht => shows_of_schedule ht).congr hcall⟩
        exact hsum ▸ UInt32.le_iff_toNat_le.mp (UInt32.not_lt.mp hcredits)

end StudentRecord

namespace Students

variable {ε : Type} {students : Students} {student : Student} {course : Course}

def view (students : Students) (id : String) : Option RecordView :=
  (students.find? id).map StudentRecord.view

theorem recordOf_eq {record : StudentRecord} (hfound : students.find? student.id = some record) :
    students.recordOf student = record := by
  rw [recordOf, hfound, Option.getD_some]

section OnRecord

variable {β : Type} {call : Call StudentRecord ε β} {record : StudentRecord}
  {heard : List Notice}

theorem onRecord_answers {b : β} {P : StudentRecord → Prop} {Q : Students → Prop}
    (hfound : students.find? student.id = some record) (hcall : call.Answers record b P heard)
    (hput : ∀ t, P t → Q (students.put student.id t)) :
    (onRecord student call).Answers students b Q heard := by
  rw [← recordOf_eq hfound] at hcall
  refine Call.Answers.within (P := P) ?_ ?_
  · exact hcall
  · exact hput

theorem onRecord_refuses {e : ε} (hfound : students.find? student.id = some record)
    (hcall : call.Refuses record e heard) :
    (onRecord student call).Refuses students e heard := by
  have hput : students.put student.id (students.recordOf student) = students := by
    rw [recordOf_eq hfound, Directory.put_of_find? hfound]
  rw [← recordOf_eq hfound] at hcall
  refine Call.Refuses.within ?_ ?_
  · exact hcall
  · exact hput

end OnRecord

structure Shows (view : String → Option RecordView) (students : Students) : Prop where
  sound : ∀ id record, students.find? id = some record → record.schedule.Sound
  view_eq : students.view = view

def without (seen : String → Option RecordView) (course : Course) (students : List Student)
    (id : String) : Option RecordView :=
  if students.any (·.id == id) then
    (seen id).map fun shown => { shown with items := shown.items.eraseP (· == course) }
  else seen id

theorem without_of_mem {seen : String → Option RecordView} {shown : RecordView}
    (hseen : seen student.id = some shown) {leaving : List Student} (hmem : student ∈ leaving)
    (course : Course) : without seen course leaving student.id =
      some { shown with items := shown.items.eraseP (· == course) } := by
  have hany : leaving.any (·.id == student.id) = true :=
    List.any_eq_true.mpr ⟨student, hmem, beq_self_eq_true student.id⟩
  rw [without, if_pos hany, hseen, Option.map_some]

theorem without_of_forall_ne {seen : String → Option RecordView} {id : String}
    {leaving : List Student} (course : Course) (hne : ∀ student ∈ leaving, student.id ≠ id) :
    without seen course leaving id = seen id := by
  have hany : ¬ leaving.any (·.id == id) = true := by
    rw [List.any_eq_true]
    intro ⟨student, hmem, heq⟩
    exact hne student hmem (beq_iff_eq.mp heq)
  rw [without, if_neg hany]

namespace Shows

variable {seen : String → Option RecordView} {shown : RecordView}

theorem put (h : Shows seen students) {id : String} {record : StudentRecord}
    (hrecord : record.Shows shown) :
    Shows (Function.update seen id (some shown)) (students.put id record) := by
  constructor
  · intro other found hfound
    obtain rfl | hfound := Directory.of_find?_put hfound
    · exact hrecord.sound
    · exact h.sound other found hfound
  · rw [← h.view_eq, ← hrecord.view_eq]
    exact Directory.map_find?_put StudentRecord.view id record

theorem exists_record (h : Shows seen students) {id : String} (hseen : seen id = some shown) :
    ∃ record, students.find? id = some record ∧ record.Shows shown := by
  rw [← h.view_eq, view, Option.map_eq_some_iff] at hseen
  obtain ⟨record, hfound, hview⟩ := hseen
  exact ⟨record, hfound, h.sound id record hfound, hview⟩

theorem find?_eq_none_iff (h : Shows seen students) {id : String} :
    students.find? id = none ↔ seen id = none := by
  rw [← h.view_eq, view, Option.map_eq_none_iff]

/-- A course goes on the schedule of a student on file, or nothing changes. -/
theorem attach_cases (h : Shows seen students) (hseen : seen student.id = some shown)
    (course : Course) :
    (∃ e heard, (attach student course).Refuses students e heard ∧ Notice.audits heard = [] ∧
      (¬ shown.Admits course ∨ Bounds.count ≤ shown.items.length)) ∨
    shown.Admits course ∧
      (attach student course).Answers students ()
        (Shows (Function.update seen student.id
          (some { shown with items := shown.items ++ [course] })))
        [.log ⟨.debug, "added to schedule", [("item", .text course.name)]⟩] := by
  obtain ⟨record, hfound, hrecord⟩ := h.exists_record hseen
  obtain rfl := hrecord.view_eq
  obtain ⟨e, heard, hattach, haudits, hcause⟩ | ⟨hadmits, hattach⟩ :=
    StudentRecord.attach_cases hrecord.sound course
  · exact .inl ⟨e, heard, onRecord_refuses hfound hattach, haudits, hcause⟩
  · exact .inr ⟨hadmits, onRecord_answers hfound hattach fun _ => h.put⟩

theorem detach_answers (h : Shows seen students) (hseen : seen student.id = some shown)
    (course : Course) :
    (detach student course : Call Students ε Unit).Answers students ()
      (Shows (Function.update seen student.id
        (some { shown with items := shown.items.eraseP (· == course) }))) [] := by
  obtain ⟨record, hfound, hrecord⟩ := h.exists_record hseen
  obtain rfl := hrecord.view_eq
  have hremove : (StudentRecord.onSchedule (Schedule.remove course) :
      Call StudentRecord ε Bool).Answers record _ _ _ :=
    (Schedule.remove_answers hrecord.sound course).within fun _ ht =>
      StudentRecord.shows_of_schedule ht
  exact (onRecord_answers hfound hremove fun _ => h.put).map fun _ => ()

theorem reset_answers (h : Shows seen students) (hseen : seen student.id = some shown) :
    (onRecord student (StudentRecord.onSchedule do
      let schedule ← Call.current
      Call.become schedule.reset) : Call Students ε Unit).Answers students ()
      (Shows (Function.update seen student.id
        (some ⟨shown.student, Schedule.defaultTitle, []⟩))) [] := by
  obtain ⟨record, hfound, hrecord⟩ := h.exists_record hseen
  obtain rfl := hrecord.view_eq
  have hreset : (do
      let schedule ← Call.current
      Call.become schedule.reset : Call (Schedule Course) ε Unit).Answers record.schedule ()
      (Schedule.Shows Schedule.defaultTitle []) [] :=
    Call.Answers.of_eq rfl (Schedule.shows_reset hrecord.sound) rfl
  have hrecordReset : (StudentRecord.onSchedule do
      let schedule ← Call.current
      Call.become schedule.reset : Call StudentRecord ε Unit).Answers record () _ [] :=
    hreset.within fun _ ht => StudentRecord.shows_of_schedule ht
  exact onRecord_answers hfound hrecordReset fun _ => h.put

theorem without_cons {rest : List Student} (hseen : seen student.id = some shown)
    (hother : ∀ other ∈ rest, other.id ≠ student.id) :
    without (Function.update seen student.id
        (some { shown with items := shown.items.eraseP (· == course) })) course rest =
      without seen course (student :: rest) := by
  funext id
  by_cases hid : id = student.id
  · rw [hid, without_of_forall_ne course hother, Function.update_self,
      without_of_mem hseen List.mem_cons_self]
  · have hne : (student.id == id) = false := by
      rw [beq_eq_false_iff_ne]
      exact Ne.symm hid
    rw [without, without, List.any_cons, hne, Function.update_of_ne hid, Bool.false_or]

theorem detachAll_answers (h : Shows seen students) {leaving : List Student}
    (hknown : ∀ student ∈ leaving, ∃ shown, seen student.id = some shown)
    (hdistinct : Distinct leaving) (course : Course) :
    (detachAll course leaving : Call Students ε Unit).Answers students ()
      (Shows (without seen course leaving)) [] := by
  induction leaving generalizing seen students with
  | nil => exact Call.Answers.pure h
  | cons student rest ih =>
    obtain ⟨hfirst, hrest⟩ := List.pairwise_cons.mp hdistinct
    obtain ⟨shown, hseen⟩ := hknown student List.mem_cons_self
    have hother : ∀ other ∈ rest, other.id ≠ student.id := by
      intro other hmem
      exact (Student.id_ne (hfirst other hmem)).symm
    apply Call.Answers.quiet_bind (h.detach_answers hseen course)
    intro detached hdetached
    have hknown' : ∀ other ∈ rest, ∃ shown', Function.update seen student.id
        (some { shown with items := shown.items.eraseP (· == course) }) other.id = some shown' := by
      intro other hmem
      rw [Function.update_of_ne (hother other hmem)]
      exact hknown other (List.mem_cons_of_mem _ hmem)
    apply (ih hdetached hknown' hrest).mono
    intro left hleft
    exact ⟨hleft.sound, hleft.view_eq.trans (without_cons hseen hother)⟩

end Shows

end Students

end Enrollment
