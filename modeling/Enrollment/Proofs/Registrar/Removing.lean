import Enrollment.Proofs.Registrar.Seats

/-!
What the removal of a course comes to.  It goes through the schedules of those with a seat in the
course only; nobody else has the course on the schedule, so it is gone from all of them, and a
course that comes into the catalog under the same name and section starts with nobody on it.
-/
namespace Enrollment

def Course.dropNamed (name code : String) (courses : List Course) : List Course :=
  courses.eraseP (·.isNamed name code)

namespace Course

variable {name code : String} {courses : List Course}

/-- Of courses of which no two are equal, none of the name and the section is left. -/
theorem key_ne_of_mem_dropNamed (h : Distinct courses) :
    ∀ course ∈ dropNamed name code courses, course.key ≠ (name, code) := by
  intro course hmem hkey
  cases hkey
  have hne := (h.mem_eraseP_iff.mp hmem).2
  rw [beq_self_eq_true course] at hne
  cases hne

theorem dropNamed_eq_self (hnone : ∀ course ∈ courses, course.key ≠ (name, code)) :
    dropNamed name code courses = courses :=
  List.eraseP_of_forall_not fun course hmem hnamed => hnone course hmem (isNamed_iff.mp hnamed)

end Course

namespace RegistrarView

structure Lacks (view : RegistrarView) (name code : String) : Prop where
  course_key_ne : ∀ course ∈ view.courses, course.key ≠ (name, code)
  roster_eq_none : view.rosters (name, code) = none
  scheduled_key_ne : ∀ id record, view.students id = some record →
    ∀ course ∈ record.items, course.key ≠ (name, code)

structure Removes (before : RegistrarView) (name code : String) (after : RegistrarView) :
    Prop where
  courses_eq : after.courses = Course.dropNamed name code before.courses
  rosters_of_ne : ∀ key, key ≠ (name, code) → after.rosters key = before.rosters key
  students_eq : ∀ id, after.students id = (before.students id).map fun record =>
    { record with items := Course.dropNamed name code record.items }
  config_eq : after.config = before.config
  audit_eq : after.audit = before.audit

variable {view after : RegistrarView} {ledger : List SeatGrant} {id name code : String}

/-- Who has no seat in a course has none of its name and section on the schedule. -/
theorem Settled.dropNamed_eq_self (h : view.Settled ledger id) {record : RecordView}
    (hrecord : view.students id = some record) (hfree : ¬ view.Seats id (name, code)) :
    { record with items := Course.dropNamed name code record.items } = record := by
  have hnone : ∀ course ∈ record.items, course.key ≠ (name, code) := by
    intro course hmem hkey
    have howes := (h.mem_iff record hrecord course).mp hmem
    exact hfree (hkey ▸ howes.2.1)
  rw [Course.dropNamed_eq_self hnone]

/-- What is not in the catalog is nowhere else either. -/
theorem Fits.lacks (h : view.Fits) (hsettled : ∀ id, view.Settled ledger id)
    (hnone : ∀ course ∈ view.courses, course.key ≠ (name, code)) : view.Lacks name code where
  course_key_ne := hnone
  roster_eq_none := by
    refine Option.eq_none_iff_forall_ne_some.mpr ?_
    intro shown hshown
    have hhosts := h.hosts _ _ hshown
    exact hnone _ hhosts.course_mem hhosts.key_eq
  scheduled_key_ne id record hrecord course hmem :=
    hnone course (((hsettled id).mem_iff record hrecord course).mp hmem).1

theorem Lacks.removes_self (h : view.Lacks name code) : view.Removes name code view where
  courses_eq := (Course.dropNamed_eq_self h.course_key_ne).symm
  rosters_of_ne _ _ := rfl
  students_eq id := by
    cases hrecord : view.students id with
    | none => rfl
    | some record =>
      rw [Option.map_some, Course.dropNamed_eq_self (h.scheduled_key_ne id record hrecord)]
  config_eq := rfl
  audit_eq := rfl

/-- A course that goes off the schedules of those with a seat in it is on no other. -/
theorem Fits.removes (h : view.Fits) (hsettled : ∀ id, view.Settled ledger id) {course : Course}
    {shown : RosterView Course Student} (hshown : view.rosters course.key = some shown) :
    view.Removes course.name course.sectionCode (view.withoutCourse course shown.enrolled) where
  courses_eq := rfl
  rosters_of_ne _ hkey := withoutCourse_of_ne view _ hkey
  students_eq id := by
    by_cases hon : Student.IsAmong id shown.enrolled
    · obtain ⟨student, hmem, rfl⟩ := hon
      have hknown := (h.hosts _ _ hshown).known student (List.mem_append_left _ hmem)
      obtain ⟨record, hrecord, -⟩ := students_of_onFile hknown
      rw [hrecord]
      exact Students.without_of_mem hrecord hmem course
    · have hkept : (view.withoutCourse course shown.enrolled).students id = view.students id :=
        Students.without_of_forall_ne course fun student hmem hid => hon ⟨student, hmem, hid⟩
      rw [hkept]
      cases hrecord : view.students id with
      | none => rfl
      | some record =>
        have hfree : ¬ view.Seats id course.key := fun hseat => hon ((seats_iff hshown).mp hseat)
        rw [Option.map_some, (hsettled id).dropNamed_eq_self hrecord hfree]
  config_eq := rfl
  audit_eq := rfl

/-- Catalogs and schedules have no course twice, so one that is removed is gone. -/
theorem Removes.lacks (h : view.Removes name code after) (hfits : view.Fits)
    (hsettled : ∀ id, view.Settled ledger id) (hnone : after.rosters (name, code) = none) :
    after.Lacks name code where
  course_key_ne := by
    rw [h.courses_eq]
    exact Course.key_ne_of_mem_dropNamed hfits.courses_distinct
  roster_eq_none := hnone
  scheduled_key_ne id changed hchanged := by
    rw [h.students_eq, Option.map_eq_some_iff] at hchanged
    obtain ⟨record, hrecord, rfl⟩ := hchanged
    exact Course.key_ne_of_mem_dropNamed ((hsettled id).distinct record hrecord)

theorem Lacks.canAdd (h : view.Lacks name code) {course : Course} {cap : Nat}
    (hkey : course.key = (name, code)) (hvalid : course.validate = .ok ())
    (hmin : view.config.roster.minCap ≤ cap) (hmax : cap ≤ view.config.roster.maxCap)
    (hroom : view.courses.length < Bounds.count) : view.CanAdd course cap := by
  refine ⟨hvalid, List.any_eq_false.mpr ?_, hmin, hmax, hroom⟩
  intro other hmem hsame
  exact h.course_key_ne other hmem ((Course.beq_iff.mp hsame).trans hkey)

/-- A course that is taken out of a catalog leaves room for one. -/
theorem Removes.room (h : view.Removes name code after) (hfits : view.Fits)
    (hroom : (∃ course ∈ view.courses, course.key = (name, code)) ∨
      view.courses.length < Bounds.count) : after.courses.length < Bounds.count := by
  rw [h.courses_eq]
  obtain ⟨course, hmem, hkey⟩ | hroom := hroom
  · have hnamed : course.isNamed name code = true := Course.isNamed_iff.mpr hkey
    have hlength : (Course.dropNamed name code view.courses).length = view.courses.length - 1 :=
      List.length_eraseP_of_mem hmem hnamed
    have hpos := List.length_pos_of_mem hmem
    have hle := hfits.courses_le
    omega
  · exact Nat.lt_of_le_of_lt List.eraseP_sublist.length_le hroom

end RegistrarView

namespace Registrar

structure Opens (registrar : Registrar) (course : Course) (cap : Nat) : Prop where
  roster : ∃ roster, registrar.roster course.name course.sectionCode = .ok roster ∧
    roster.course = course ∧ roster.enrollmentCap = cap ∧ roster.enrolled = [] ∧
    roster.waitlisted = []
  off_schedules : ∀ id record, registrar.record id = .ok record →
    ∀ scheduled ∈ record.schedule.toList, scheduled.key ≠ course.key

namespace Stands

variable {view : RegistrarView} {registrar : Registrar}

/-- A course that may come into the catalog, and that nothing has, comes with nobody on its
roster. -/
theorem addCourse_opens (h : Stands view registrar) {course : Course} {cap : Nat}
    (hlacks : view.Lacks course.name course.sectionCode) (hadd : view.CanAdd course cap) :
    let added := addCourse course cap registrar
    added.result = .ok () ∧ added.state.Opens course cap ∧
      added.state.view.students = registrar.view.students := by
  intro added
  obtain ⟨-, -, hnot, -⟩ | ⟨-, hcall⟩ := h.addCourse_cases course cap
  · exact absurd hadd hnot
  · have hstands := hcall.state
    refine ⟨hcall.result, ⟨?_, ?_⟩, ?_⟩
    · obtain ⟨roster, hfound, hroster⟩ :=
        hstands.rosters.exists_roster (RegistrarView.withCourse_self course cap)
      exact ⟨roster, roster_of_find? hfound, congrArg RosterView.course hroster.view_eq,
        congrArg RosterView.enrollmentCap hroster.view_eq, hroster.seats.items,
        hroster.line.items⟩
    · intro id record hrecord
      obtain ⟨shown, hshown, hview⟩ := hstands.exists_record hrecord
      obtain rfl := hview.view_eq
      exact hlacks.scheduled_key_ne id record.view hshown
    · rw [hstands.view_eq, h.view_eq]
      rfl

/-- Where everything is settled, a removal tells whether there was a course, and none is left. -/
theorem removeCourse_removes (h : Stands view registrar) (hfits : view.Fits)
    {ledger : List SeatGrant} (hsettled : ∀ id, view.Settled ledger id) (name code : String) :
    ∃ found heard after, (found = true ↔ ∃ course ∈ view.courses, course.key = (name, code)) ∧
      view.Removes name code after ∧ after.Lacks name code ∧
      (removeCourse name code : Call Registrar RegistrationError Bool).Answers registrar found
        (Stands after) heard := by
  obtain ⟨hnone, hcall⟩ | ⟨course, shown, hcourse, hshown, hcall⟩ :=
    h.removeCourse_cases hfits name code
  · have habsent : ∀ course ∈ view.courses, course.key ≠ (name, code) := by
      intro course hmem hkey
      exact List.find?_eq_none.mp hnone course hmem (Course.isNamed_iff.mpr hkey)
    have hlacks := hfits.lacks hsettled habsent
    refine ⟨_, _, _, iff_of_false Bool.false_ne_true ?_, hlacks.removes_self, hlacks, hcall⟩
    intro ⟨course, hmem, hkey⟩
    exact habsent course hmem hkey
  · cases RegistrarView.key_of_find? hcourse
    have hremoves := hfits.removes hsettled hshown
    exact ⟨_, _, _, iff_of_true rfl ⟨course, List.mem_of_find?_eq_some hcourse, rfl⟩, hremoves,
      hremoves.lacks hfits hsettled (RegistrarView.withoutCourse_self course _), hcall⟩

end Stands

end Registrar

namespace RegistrarCall

open Registrar

/-- After any calls on a registrar, the removal of a course tells whether it was in the catalog; it
is gone from there and from every schedule, and nothing else has changed.  Once it is added again,
with whatever data, nobody is on its roster and it is on no schedule. -/
theorem removed_finalState {config : RegistrarConfig} {audit : Option AuditSink}
    {start : Registrar} (hstart : Registrar.make config audit = .ok start)
    (calls : List RegistrarCall) (name code : String) :
    let reached := Call.finalState perform calls start
    let removed : Reply Registrar RegistrationError Bool := Registrar.removeCourse name code reached
    (∃ found, removed.result = .ok found ∧
      (found = true ↔ ∃ course ∈ reached.courses, course.key = (name, code))) ∧
    reached.view.Removes name code removed.state.view ∧
    removed.state.view.Lacks name code ∧
    ∀ course cap, course.key = (name, code) → course.validate = .ok () →
      reached.config.roster.minCap ≤ cap → cap ≤ reached.config.roster.maxCap →
      removed.result = .ok true ∨ reached.courses.length < Bounds.count →
      let added := Registrar.addCourse course cap removed.state
      added.result = .ok () ∧ added.state.Opens course cap ∧
        added.state.view.students = removed.state.view.students := by
  intro reached removed
  obtain ⟨hstands, hfits, hsettled⟩ := shown_finalState hstart calls
  obtain ⟨found, heard, after, hfound, hremoves, hlacks, hcall⟩ :=
    hstands.removeCourse_removes hfits hsettled name code
  have hafter : Stands after removed.state := hcall.state
  obtain rfl := hafter.view_eq
  refine ⟨⟨found, hcall.result, hfound⟩, hremoves, hlacks, ?_⟩
  intro course cap hkey hvalid hmin hmax hroom
  have hroom' : (∃ course ∈ reached.view.courses, course.key = (name, code)) ∨
      reached.view.courses.length < Bounds.count := by
    refine hroom.imp_left ?_
    intro htrue
    exact hfound.mp (Except.ok.inj (hcall.result.symm.trans htrue))
  have hconfig : removed.state.view.config = reached.config := hremoves.config_eq
  rw [← hconfig] at hmin hmax
  cases hkey
  exact hafter.addCourse_opens hlacks
    (hlacks.canAdd rfl hvalid hmin hmax (hremoves.room hfits hroom'))

/-- One student has a seat that the schedule did not take for another section, and one waits; both
sections are of the same name, and only the one that is removed is gone. -/
theorem removed_finalState_students :
    let first : Course := ⟨"Logic", "Logic", "001", 3, none, .arranged⟩
    let second : Course := ⟨"Logic", "Logic", "002", 3, none, .arranged⟩
    let again : Course := ⟨"Logic", "Proofs", "001", 4, some "t1", .arranged⟩
    let calls : List RegistrarCall :=
      [addCourse first 1, addCourse second 2, addStudent "ada" 9, addStudent "bob" 9,
        addStudent "eve" 9, enroll "ada" "Logic" "001", enroll "bob" "Logic" "001",
        enroll "eve" "Logic" "001", enroll "bob" "Logic" "002", drop "ada" "Logic" "001"]
    ∃ start, Registrar.make ⟨⟨1, 2, 2⟩, 3, 18⟩ none = .ok start ∧
      let reached := Call.finalState perform calls start
      let removed : Reply Registrar RegistrationError Bool :=
        Registrar.removeCourse "Logic" "001" reached
      reached.courses = [first, second] ∧ removed.result = .ok true ∧
      reached.view.Removes "Logic" "001" removed.state.view ∧
      removed.state.view.Lacks "Logic" "001" ∧
      (Registrar.addCourse again 2 removed.state).state.Opens again 2 := by
  intro first second again calls
  let start : Registrar :=
    ⟨⟨⟨1, 2, 2⟩, 3, 18⟩, SortedList.empty, Directory.empty, Directory.empty, none⟩
  have hmake : Registrar.make ⟨⟨1, 2, 2⟩, 3, 18⟩ none = .ok start := rfl
  have hresult : (Registrar.removeCourse "Logic" "001" (Call.finalState perform calls start) :
      Reply Registrar RegistrationError Bool).result = .ok true := by decide +kernel
  obtain ⟨-, hremoves, hlacks, hagain⟩ := removed_finalState hmake calls "Logic" "001"
  obtain ⟨-, hopens, -⟩ := hagain again 2 rfl (by decide +kernel) (by decide +kernel)
    (by decide +kernel) (.inl hresult)
  exact ⟨start, hmake, by decide +kernel, hresult, hremoves, hlacks, hopens⟩

end RegistrarCall

end Enrollment
