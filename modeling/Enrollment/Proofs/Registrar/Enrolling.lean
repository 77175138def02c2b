import Enrollment.Proofs.Registrar.Credits

/-!
What an enrollment comes to.  The registrar looks at the roster and at the schedule, and then both
are asked again while they change: the second answers are never other than the first, so a student
who passes the checks has a seat and the course on the schedule, or a place on the waitlist, or
there is no room.
-/
namespace Enrollment

namespace Student

variable {student : Student} {students : List Student}

theorem id_mem_iff : student.id ∈ students.map Student.id ↔ students.any (· == student) = true := by
  simp [List.any_eq_true, beq_iff]

/-- Who is on neither of two lists. -/
theorem ids_of_any_append {enrolled waitlisted : List Student}
    (h : (enrolled ++ waitlisted).any (· == student) = false) :
    student.id ∉ enrolled.map Student.id ∧ student.id ∉ waitlisted.map Student.id := by
  rw [List.any_append, Bool.or_eq_false_iff] at h
  rw [id_mem_iff, id_mem_iff, Bool.not_eq_true, Bool.not_eq_true]
  exact h

end Student

namespace RecordView

def Clashes (record : RecordView) (course : Course) : Prop :=
  ∃ scheduled ∈ record.items,
    scheduled.name = course.name ∨ scheduled.meeting.conflictsWith course.meeting = true

instance (record : RecordView) (course : Course) : Decidable (record.Clashes course) :=
  inferInstanceAs (Decidable (∃ scheduled ∈ record.items, _))

variable {record : RecordView} {course : Course}

theorem clashes_iff :
    record.Clashes course ↔ Schedule.checkAgainst course record.items ≠ .ok () := by
  rw [Ne, Schedule.checkAgainst_eq_ok_iff, Clashes]
  simp only [not_forall, not_and_or, Bool.not_eq_false, beq_iff_eq, exists_prop]
  rfl

theorem Admits.clear (h : record.Admits course) :
    ¬ record.Clashes course ∧ ¬ record.student.maxCredits.toNat < record.creditsWith course := by
  rw [clashes_iff, Nat.not_lt]
  exact ⟨fun hcheck => hcheck h.1, h.2⟩

theorem Rejects.cause {misfit : Misfit} (h : record.Rejects course misfit) :
    record.Clashes course ∧ misfit = .clash course.describe ∨
    ¬ record.Clashes course ∧ record.student.maxCredits.toNat < record.creditsWith course ∧
      misfit = .overload course.describe (UInt32.ofNat (record.creditsWith course))
        record.student.maxCredits := by
  rw [clashes_iff]
  cases h with
  | clash hcheck =>
    left
    simp [hcheck]
  | overload hcheck _ hover =>
    right
    exact ⟨not_not.mpr hcheck, hover, rfl⟩

end RecordView

namespace RosterView

/-- What a roster and the record of a student make of an enrollment: the first of these that
applies. -/
def verdict (shown : RosterView Course Student) (record : RecordView) :
    Except RegistrationError EnrollmentStatus :=
  if record.student.id ∈ shown.enrolled.map Student.id then .error (.roster .alreadyEnrolled)
  else if record.student.id ∈ shown.waitlisted.map Student.id then
    .error (.roster .alreadyWaitlisted)
  else if record.Clashes shown.course then .error (.cannotAdd (.clash shown.course.describe))
  else if record.student.maxCredits.toNat < record.creditsWith shown.course then
    .error (.cannotAdd (.overload shown.course.describe
      (UInt32.ofNat (record.creditsWith shown.course)) record.student.maxCredits))
  else if shown.enrolled.length < shown.enrollmentCap then .ok .enrolled
  else if shown.waitlisted.length < shown.limits.waitlistCapacity then .ok .waitlisted
  else .error (.roster .noRoom)

variable {shown : RosterView Course Student} {record : RecordView}

section Passed

variable (hany : (shown.enrolled ++ shown.waitlisted).any (· == record.student) = false)

include hany

theorem verdict_of_rejects {misfit : Misfit} (hrejects : record.Rejects shown.course misfit) :
    shown.verdict record = .error (.cannotAdd misfit) := by
  obtain ⟨henrolled, hwaitlisted⟩ := Student.ids_of_any_append hany
  obtain ⟨hclash, rfl⟩ | ⟨hclear, hover, rfl⟩ := hrejects.cause
  · rw [verdict, if_neg henrolled, if_neg hwaitlisted, if_pos hclash]
  · rw [verdict, if_neg henrolled, if_neg hwaitlisted, if_neg hclear, if_pos hover]

/-- A student whom the checks have passed gets what there is. -/
theorem verdict_of_admits (hadmits : record.Admits shown.course) :
    shown.verdict record =
      if shown.enrolled.length < shown.enrollmentCap then .ok .enrolled
      else if shown.waitlisted.length < shown.limits.waitlistCapacity then .ok .waitlisted
      else .error (.roster .noRoom) := by
  obtain ⟨henrolled, hwaitlisted⟩ := Student.ids_of_any_append hany
  obtain ⟨hclear, hunder⟩ := hadmits.clear
  rw [verdict, if_neg henrolled, if_neg hwaitlisted, if_neg hclear, if_neg hunder]

end Passed

end RosterView

namespace RegistrarView

def afterEnrollment (view : RegistrarView) (shown : RosterView Course Student)
    (record : RecordView) : RegistrarView :=
  match shown.verdict record with
  | .ok .enrolled =>
    (view.withRoster shown.course.key
      (shown.filled (shown.enrolled ++ [record.student]) shown.waitlisted)
      (shown.entry record.student .enroll none)).withRecord record.student.id
        { record with items := record.items ++ [shown.course] }
  | .ok .waitlisted =>
    view.withRoster shown.course.key
      (shown.filled shown.enrolled (shown.waitlisted ++ [record.student]))
      (shown.entry record.student .waitlist none)
  | .error _ => view

inductive Enrolls (view : RegistrarView) (id name code : String) :
    Except RegistrationError EnrollmentStatus → RegistrarView → Prop
  | unknownStudent (hnone : view.students id = none) :
      Enrolls view id name code (.error (.unknownStudent id)) view
  | unknownCourse {record : RecordView} (hrecord : view.students id = some record)
      (hnone : ∀ course ∈ view.courses, course.key ≠ (name, code)) :
      Enrolls view id name code (.error (.unknownCourse name code)) view
  | decided {record : RecordView} {shown : RosterView Course Student}
      (hrecord : view.students id = some record) (hcourse : shown.course ∈ view.courses)
      (hkey : shown.course.key = (name, code)) (hshown : view.rosters (name, code) = some shown) :
      Enrolls view id name code (shown.verdict record) (view.afterEnrollment shown record)

variable {config : RegistrarConfig} {view after : RegistrarView} {id name code : String}
  {shown : RosterView Course Student} {record : RecordView}

/-- A roster and a record decide what an enrollment comes to. -/
theorem Fits.enrolls (h : view.Fits) {result : Except RegistrationError EnrollmentStatus}
    (hrecord : view.students id = some record) (hshown : view.rosters (name, code) = some shown)
    (hresult : shown.verdict record = result) (hafter : view.afterEnrollment shown record = after) :
    view.Enrolls id name code result after := by
  have hhosts := h.hosts _ _ hshown
  rw [← hresult, ← hafter]
  exact .decided hrecord hhosts.course_mem hhosts.key_eq hshown

theorem Fits.enrolls_error (h : view.Fits) {error : RegistrationError}
    (hrecord : view.students id = some record) (hshown : view.rosters (name, code) = some shown)
    (hresult : shown.verdict record = .error error) :
    view.Enrolls id name code (.error error) view :=
  h.enrolls hrecord hshown hresult (by rw [afterEnrollment, hresult])

theorem Bars.enrolls {error : RegistrationError} (h : view.Bars id name code error)
    (hfits : view.Fits) (hroom : config.Roomy) (hview : view.Catalogued config)
    (haffordable : view.Affordable config) : view.Enrolls id name code (.error error) view := by
  cases h with
  | unknownStudent hnone => exact .unknownStudent hnone
  | unknownCourse hrecord hnone =>
    refine .unknownCourse hrecord ?_
    intro course hmem hkey
    exact List.find?_eq_none.mp hnone course hmem (Course.isNamed_iff.mpr hkey)
  | alreadyEnrolled hrecord hshown henrolled =>
    refine hfits.enrolls_error hrecord hshown ?_
    rw [RosterView.verdict, if_pos (Student.id_mem_iff.mpr henrolled)]
  | alreadyWaitlisted hrecord hshown henrolled hwaitlisted =>
    refine hfits.enrolls_error hrecord hshown ?_
    have hnot : ¬ _ ∈ _ := Student.id_mem_iff.not.mpr (Bool.eq_false_iff.mp henrolled)
    rw [RosterView.verdict, if_neg hnot, if_pos (Student.id_mem_iff.mpr hwaitlisted)]
  | cannotAdd hrecord hshown hany hrejects =>
    exact hfits.enrolls_error hrecord hshown (RosterView.verdict_of_rejects hany hrejects)
  | overflow hrecord hshown hany hoverflows =>
    have hcredits := hview.credits_le (hfits.hosts _ _ hshown).course_mem
    exact absurd hoverflows ((haffordable _ _ hrecord).not_overflows hroom hcredits)
  | noRoom hrecord hshown hany hadmits hfull hline =>
    refine hfits.enrolls_error hrecord hshown ?_
    rw [RosterView.verdict_of_admits hany hadmits, if_neg (Nat.not_lt.mpr hfull),
      if_neg (Nat.not_lt.mpr hline)]

theorem Enters.enrolls {status : EnrollmentStatus} {heard : List Notice}
    (h : view.Enters id (name, code) status heard after) (hfits : view.Fits) :
    view.Enrolls id name code (.ok status) after := by
  cases h with
  | @seated shown record heard hrecord hshown hany hadmits hopen hheard =>
    have hhosts := hfits.hosts _ _ hshown
    have hverdict : shown.verdict record = .ok .enrolled := by
      rw [RosterView.verdict_of_admits hany hadmits, if_pos hopen]
    have haudits : Notice.audits heard =
        Notice.audits (shown.entry record.student .enroll none) := by
      rw [hheard, RosterView.audits_append_line]
    refine hfits.enrolls hrecord hshown hverdict ?_
    simp only [afterEnrollment, hverdict, hhosts.key_eq, hfits.id_eq hrecord]
    rw [view.withRoster_congr haudits]
  | @waiting shown record heard hrecord hshown hany hadmits hfull hline hheard =>
    have hhosts := hfits.hosts _ _ hshown
    have hverdict : shown.verdict record = .ok .waitlisted := by
      rw [RosterView.verdict_of_admits hany hadmits, if_neg (Nat.not_lt.mpr hfull), if_pos hline]
    have haudits : Notice.audits heard =
        Notice.audits (shown.entry record.student .waitlist none) := by
      rw [hheard, RosterView.audits_append_line]
    refine hfits.enrolls hrecord hshown hverdict ?_
    simp only [afterEnrollment, hverdict, hhosts.key_eq]
    rw [view.withRoster_congr haudits]

/-- No enrollment answers an error from inside a list or a schedule. -/
theorem Enrolls.result_ne {result : Except RegistrationError EnrollmentStatus}
    (h : view.Enrolls id name code result after) :
    (∀ error, result ≠ .error (.roster (.internal error))) ∧
      (∀ error, result ≠ .error (.schedule error)) ∧
      ∀ error, result ≠ .error (.catalog error) := by
  cases h with
  | unknownStudent | unknownCourse => simp
  | decided =>
    simp only [RosterView.verdict]
    split_ifs <;> simp

end RegistrarView

namespace RegistrarCall

open Registrar

/-- After any calls on a registrar whose limits are far enough from what 32 bits hold, an enrollment
comes to the first thing that applies, and never to an error from inside a list or a schedule. -/
theorem enrolls_finalState {config : RegistrarConfig} {audit : Option AuditSink}
    {start : Registrar} (hstart : Registrar.make config audit = .ok start) (hroom : config.Roomy)
    (calls : List RegistrarCall) (id name code : String) :
    let reached := Call.finalState perform calls start
    let reply := Registrar.enroll id name code reached
    reached.view.Enrolls id name code reply.result reply.state.view ∧
      (∀ error, reply.result ≠ .error (.roster (.internal error))) ∧
      (∀ error, reply.result ≠ .error (.schedule error)) ∧
      ∀ error, reply.result ≠ .error (.catalog error) := by
  intro reached reply
  obtain ⟨view, hstands, hfits, hsettled, hview, haffordable⟩ :=
    affordable_finalState hstart calls
  have henrolls : reached.view.Enrolls id name code reply.result reply.state.view := by
    rw [hstands.view_eq]
    obtain ⟨e, heard, hbars, hcall⟩ | ⟨status, heard, after, henters, hcall⟩ | ⟨hover, -⟩ :=
      hstands.enroll_cases hfits id name code
    · rw [hcall.result, hcall.state, hstands.view_eq]
      exact hbars.enrolls hfits hroom hview haffordable
    · rw [hcall.result, hcall.state.view_eq]
      exact henters.enrolls hfits
    · exact absurd hover (hfits.not_overfull hsettled)
  exact ⟨henrolls, henrolls.result_ne⟩

/-- A student who may carry no more is told so before the line is looked at; another waits. -/
theorem enrolls_finalState_students :
    let config : RegistrarConfig := ⟨⟨1, 2, 1⟩, 3, 4294967290⟩
    let logic : Course := ⟨"Logic", "Logic", "001", 3, none, .arranged⟩
    let sets : Course := ⟨"Sets", "Sets", "002", 5, none, .arranged⟩
    let calls : List RegistrarCall :=
      [addCourse logic 1, addCourse sets 1, addStudent "ada" 7, addStudent "bob" 4294967290,
        addStudent "eve" 5, enroll "ada" "Logic" "001", enroll "eve" "Sets" "002"]
    ∃ start, Registrar.make config none = .ok start ∧
      let reached := Call.finalState perform calls start
      let reply (id : String) := Registrar.enroll id "Sets" "002" reached
      reached.view.Enrolls "ada" "Sets" "002"
        (.error (.cannotAdd (.overload "Sets-002" 8 7))) (reply "ada").state.view ∧
      reached.view.Enrolls "bob" "Sets" "002" (.ok .waitlisted) (reply "bob").state.view ∧
      reached.view.Enrolls "eve" "Sets" "002" (.error (.roster .alreadyEnrolled))
        (reply "eve").state.view := by
  intro config logic sets calls
  let start : Registrar :=
    ⟨config, SortedList.empty, Directory.empty, Directory.empty, none⟩
  have hmake : Registrar.make config none = .ok start := rfl
  have henrolls (id : String) :=
    (enrolls_finalState hmake (by decide) calls id "Sets" "002").1
  have hada := henrolls "ada"
  have hbob := henrolls "bob"
  have heve := henrolls "eve"
  refine ⟨start, hmake, ?_, ?_, ?_⟩
  · rwa [show (Registrar.enroll "ada" "Sets" "002" (Call.finalState perform calls start)).result =
      .error (.cannotAdd (.overload "Sets-002" 8 7)) by decide +kernel] at hada
  · rwa [show (Registrar.enroll "bob" "Sets" "002" (Call.finalState perform calls start)).result =
      .ok .waitlisted by decide +kernel] at hbob
  · rwa [show (Registrar.enroll "eve" "Sets" "002" (Call.finalState perform calls start)).result =
      .error (.roster .alreadyEnrolled) by decide +kernel] at heve

end RegistrarCall

end Enrollment
