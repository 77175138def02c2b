import Enrollment.Proofs.Roster.Moves
import Enrollment.Proofs.Sequence.SortedList
import Enrollment.Proofs.Students

/-!
What shows of a registrar, when what shows fits together, and what the calls on its parts do to it.
-/
namespace Enrollment

theorem AuditSink.file_heard (sink : AuditSink) (notices : List Notice) :
    sink.file (Notice.heard notices) = sink.file notices := by
  rw [file, file, Notice.audits_heard]

theorem AuditSink.file_of_audits {sink : AuditSink} {notices : List Notice}
    (h : Notice.audits notices = []) : sink.file notices = sink := by
  rw [file, h, List.foldl_nil]

structure RegistrarView where
  config : RegistrarConfig
  courses : List Course
  rosters : String × String → Option (RosterView Course Student)
  students : String → Option RecordView
  audit : Option AuditSink

namespace RegistrarView

def opened (config : RegistrarConfig) (audit : Option AuditSink) : RegistrarView :=
  ⟨config, [], fun _ => none, fun _ => none, audit⟩

def withRoster (view : RegistrarView) (key : String × String) (roster : RosterView Course Student)
    (heard : List Notice) : RegistrarView :=
  { view with
    rosters := Function.update view.rosters key (some roster)
    audit := view.audit.map (·.file heard) }

def withRecord (view : RegistrarView) (id : String) (record : RecordView) : RegistrarView :=
  { view with students := Function.update view.students id (some record) }

section

variable (view : RegistrarView)

theorem withRoster_self (key : String × String) (roster : RosterView Course Student)
    (heard : List Notice) : (view.withRoster key roster heard).rosters key = some roster := by
  simp only [withRoster, Function.update_self]

theorem withRoster_of_ne {key other : String × String} (h : other ≠ key)
    (roster : RosterView Course Student) (heard : List Notice) :
    (view.withRoster key roster heard).rosters other = view.rosters other := by
  simp only [withRoster, Function.update_of_ne h]

/-- Of what is heard, only what is for the audit trail matters. -/
theorem withRoster_congr {heard more : List Notice} (h : Notice.audits heard = Notice.audits more)
    (key : String × String) (roster : RosterView Course Student) :
    view.withRoster key roster heard = view.withRoster key roster more := by
  have hfile : (fun sink : AuditSink => sink.file heard) = fun sink => sink.file more := by
    funext sink
    rw [AuditSink.file, AuditSink.file, h]
  rw [withRoster, withRoster, hfile]

theorem withRecord_self (id : String) (record : RecordView) :
    (view.withRecord id record).students id = some record := by
  simp only [withRecord, Function.update_self]

theorem withRecord_of_ne {id other : String} (h : other ≠ id) (record : RecordView) :
    (view.withRecord id record).students other = view.students other := by
  simp only [withRecord, Function.update_of_ne h]

end

def onFile (view : RegistrarView) (id : String) : Option Student :=
  (view.students id).map RecordView.student

structure Hosts (view : RegistrarView) (key : String × String)
    (roster : RosterView Course Student) : Prop where
  fits : roster.Fits
  limits : roster.limits = view.config.roster
  course_mem : roster.course ∈ view.courses
  key_eq : roster.course.key = key
  known : ∀ student ∈ roster.enrolled ++ roster.waitlisted, view.onFile student.id = some student

/-- No course is in the catalog twice, each has a roster, and each roster and record is where it
belongs. -/
structure Fits (view : RegistrarView) : Prop where
  courses_distinct : Distinct view.courses
  courses_le : view.courses.length ≤ Bounds.count
  hosts : ∀ key roster, view.rosters key = some roster → view.Hosts key roster
  rostered : ∀ course ∈ view.courses, ∃ roster, view.rosters course.key = some roster
  student_id : ∀ id student, view.onFile id = some student → student.id = id

theorem fits_opened (config : RegistrarConfig) (audit : Option AuditSink) :
    (opened config audit).Fits where
  courses_distinct := List.Pairwise.nil
  courses_le := Nat.zero_le _
  hosts := nofun
  rostered := nofun
  student_id := nofun

variable {view : RegistrarView} {key : String × String} {shown : RosterView Course Student}

theorem Fits.course_eq (h : view.Fits) {course other : Course} (hcourse : course ∈ view.courses)
    (hother : other ∈ view.courses) (hkey : course.key = other.key) : course = other :=
  h.courses_distinct.eq_of_beq hcourse hother (Course.beq_iff.mpr hkey)

/-- The course found in the catalog under a name and a section is the one that has them. -/
theorem key_of_find? {name code : String} {course : Course}
    (hcourse : view.courses.find? (·.isNamed name code) = some course) :
    course.key = (name, code) :=
  Course.isNamed_iff.mp
    (List.find?_some (p := fun course : Course => course.isNamed name code) hcourse)

theorem Fits.roster_fits (h : view.Fits) (hshown : view.rosters key = some shown) : shown.Fits :=
  (h.hosts key shown hshown).fits

theorem onFile_of_students {id : String} {record : RecordView}
    (hrecord : view.students id = some record) : view.onFile id = some record.student := by
  rw [onFile, hrecord, Option.map_some]

theorem students_of_onFile {id : String} {student : Student}
    (hknown : view.onFile id = some student) :
    ∃ record, view.students id = some record ∧ record.student = student :=
  Option.map_eq_some_iff.mp hknown

/-- Whoever of a roster has the id of a student on file is that student. -/
theorem Hosts.eq_of_id (h : view.Hosts key shown) {student other : Student}
    (hstudent : view.onFile student.id = some student)
    (hon : other ∈ shown.enrolled ++ shown.waitlisted) (hid : other.id = student.id) :
    other = student := by
  have hknown := h.known other hon
  rw [hid, hstudent] at hknown
  exact (Option.some.inj hknown).symm

theorem Fits.id_eq (h : view.Fits) {id : String} {record : RecordView}
    (hrecord : view.students id = some record) : record.student.id = id :=
  h.student_id id record.student (onFile_of_students hrecord)

theorem Fits.known_of_students (h : view.Fits) {id : String} {record : RecordView}
    (hrecord : view.students id = some record) :
    view.onFile record.student.id = some record.student := by
  rw [h.id_eq hrecord, onFile_of_students hrecord]

/-- A record that is put back changes nothing, whatever has become of the rosters. -/
theorem withRoster_withRecord {id : String} {record : RecordView}
    (hrecord : view.students id = some record) (changed : RosterView Course Student)
    (heard : List Notice) :
    (view.withRoster key changed heard).withRecord id record =
      view.withRoster key changed heard := by
  have hkept : Function.update view.students id (some record) = view.students := by
    rw [← hrecord, Function.update_eq_self]
  rw [withRecord, withRoster, hkept]

/-- A record may change as long as it stays that of the student. -/
theorem onFile_withRecord {id : String} {record changed : RecordView}
    (hrecord : view.students id = some record) (hstudent : changed.student = record.student) :
    (view.withRecord id changed).onFile = view.onFile := by
  funext other
  by_cases hother : other = id
  · rw [hother, onFile, withRecord_self, onFile_of_students hrecord, Option.map_some, hstudent]
  · rw [onFile, withRecord_of_ne view hother, onFile]

/-- What fits does not depend on what is on the schedules. -/
theorem Fits.of_onFile (h : view.Fits) {seen : String → Option RecordView}
    (honFile : onFile { view with students := seen } = view.onFile) :
    Fits { view with students := seen } where
  courses_distinct := h.courses_distinct
  courses_le := h.courses_le
  hosts key roster hroster := by
    obtain ⟨hfits, hlimits, hmem, hkey, hknown⟩ := h.hosts key roster hroster
    refine ⟨hfits, hlimits, hmem, hkey, ?_⟩
    rwa [honFile]
  rostered := h.rostered
  student_id := by
    rw [honFile]
    exact h.student_id

theorem Fits.withRecord (h : view.Fits) {id : String} {record changed : RecordView}
    (hrecord : view.students id = some record) (hstudent : changed.student = record.student) :
    (view.withRecord id changed).Fits :=
  h.of_onFile (onFile_withRecord hrecord hstudent)

/-- A roster may change as long as it fits and those on it are on file. -/
theorem Fits.withRoster (h : view.Fits) (changed : RosterView Course Student)
    (hshown : view.rosters key = some shown) (hcourse : changed.course = shown.course)
    (hlimits : changed.limits = shown.limits) (hfits : changed.Fits)
    (hknown : ∀ student ∈ changed.enrolled ++ changed.waitlisted,
      view.onFile student.id = some student) (heard : List Notice) :
    (view.withRoster key changed heard).Fits where
  courses_distinct := h.courses_distinct
  courses_le := h.courses_le
  hosts other roster hroster := by
    by_cases hother : other = key
    · rw [hother, withRoster_self] at hroster
      cases hroster
      obtain ⟨-, hshownLimits, hmem, hkey, -⟩ := h.hosts key shown hshown
      refine ⟨hfits, hlimits.trans hshownLimits, ?_, ?_, hknown⟩
      · rwa [hcourse]
      · rw [hcourse, hother, hkey]
    · rw [withRoster_of_ne view hother] at hroster
      obtain ⟨hfits', hlimits', hmem', hkey', hknown'⟩ := h.hosts other roster hroster
      exact ⟨hfits', hlimits', hmem', hkey', hknown'⟩
  rostered course hcourseMem := by
    by_cases hother : course.key = key
    · exact ⟨changed, by rw [hother, withRoster_self]⟩
    · rw [withRoster_of_ne view hother]
      exact h.rostered course hcourseMem
  student_id := h.student_id

end RegistrarView

abbrev Rosters : Type := Directory (String × String) CourseRoster

namespace Rosters

structure Shows (seen : String × String → Option (RosterView Course Student)) (rosters : Rosters) :
    Prop where
  stands : ∀ key roster, rosters.find? key = some roster → Roster.Stands roster.view roster
  view_eq : (fun key => (rosters.find? key).map Roster.view) = seen

namespace Shows

variable {seen : String × String → Option (RosterView Course Student)} {rosters : Rosters}

theorem find?_map (h : Shows seen rosters) (key : String × String) :
    (rosters.find? key).map Roster.view = seen key :=
  congrFun h.view_eq key

theorem view_of_find? (h : Shows seen rosters) {key : String × String} {roster : CourseRoster}
    (hfound : rosters.find? key = some roster) : seen key = some roster.view := by
  rw [← h.find?_map, hfound, Option.map_some]

theorem exists_roster (h : Shows seen rosters) {key : String × String}
    {shown : RosterView Course Student} (hshown : seen key = some shown) :
    ∃ roster, rosters.find? key = some roster ∧ Roster.Stands shown roster := by
  rw [← h.find?_map, Option.map_eq_some_iff] at hshown
  obtain ⟨roster, hfound, rfl⟩ := hshown
  exact ⟨roster, hfound, h.stands key roster hfound⟩

theorem find?_eq_none (h : Shows seen rosters) {key : String × String} (hnone : seen key = none) :
    rosters.find? key = none := by
  rwa [← h.find?_map, Option.map_eq_none_iff] at hnone

theorem put (h : Shows seen rosters) {roster : CourseRoster} {shown : RosterView Course Student}
    (hroster : Roster.Stands shown roster) (key : String × String) :
    Shows (Function.update seen key (some shown)) (rosters.put key roster) := by
  obtain rfl := hroster.view_eq
  constructor
  · intro other found hfound
    obtain rfl | hfound := Directory.of_find?_put hfound
    · exact hroster
    · exact h.stands other found hfound
  · rw [← h.view_eq]
    exact Directory.map_find?_put Roster.view key roster

theorem erase (h : Shows seen rosters) (key : String × String) :
    Shows (Function.update seen key none) (rosters.erase key) := by
  constructor
  · intro other found hfound
    exact h.stands other found (Directory.of_find?_erase hfound)
  · rw [← h.view_eq]
    exact Directory.map_find?_erase Roster.view key

end Shows

end Rosters

namespace Registrar

variable {ε β : Type}

theorem roster_of_find? {registrar : Registrar} {name code : String} {roster : CourseRoster}
    (hfound : registrar.rosters.find? (name, code) = some roster) :
    registrar.roster name code = .ok roster := by
  rw [Registrar.roster, hfound]

theorem find?_of_roster {registrar : Registrar} {name code : String} {roster : CourseRoster}
    (hroster : registrar.roster name code = .ok roster) :
    registrar.rosters.find? (name, code) = some roster := by
  rw [Registrar.roster] at hroster
  split at hroster
  · cases hroster
    assumption
  · cases hroster

theorem find?_of_record {registrar : Registrar} {id : String} {record : StudentRecord}
    (hrecord : registrar.record id = .ok record) : registrar.students.find? id = some record := by
  rw [Registrar.record] at hrecord
  split at hrecord
  · cases hrecord
    assumption
  · cases hrecord

def view (registrar : Registrar) : RegistrarView where
  config := registrar.config
  courses := registrar.courses
  rosters key := (registrar.rosters.find? key).map Roster.view
  students := registrar.students.view
  audit := registrar.audit

structure Stands (view : RegistrarView) (registrar : Registrar) : Prop where
  config : registrar.config = view.config
  catalog : SortedList.Holds view.courses Bounds.count registrar.catalog
  rosters : Rosters.Shows view.rosters registrar.rosters
  students : Students.Shows view.students registrar.students
  audit : registrar.audit = view.audit

namespace Stands

variable {view : RegistrarView} {registrar : Registrar} {name code : String}

theorem view_eq (h : Stands view registrar) : registrar.view = view := by
  simp only [Registrar.view, h.config, courses, h.catalog.toList_eq, h.rosters.view_eq,
    h.students.view_eq, h.audit]

theorem of_make {config : RegistrarConfig} {audit : Option AuditSink}
    (hmake : Registrar.make config audit = .ok registrar) :
    Stands (RegistrarView.opened config audit) registrar := by
  cases hvalid : config.validate with
  | error fault =>
    rw [Registrar.make, hvalid] at hmake
    cases hmake
  | ok =>
    rw [Registrar.make, hvalid] at hmake
    cases hmake
    exact ⟨rfl, SortedList.holds_empty, ⟨nofun, rfl⟩, ⟨nofun, rfl⟩, rfl⟩

theorem course_of_find? (h : Stands view registrar) {course : Course}
    (hcourse : view.courses.find? (·.isNamed name code) = some course) :
    registrar.course name code = .ok course := by
  rw [Registrar.course, SortedList.find?, h.catalog.toList_eq, hcourse]

theorem course_unknown (h : Stands view registrar)
    (hnone : view.courses.find? (·.isNamed name code) = none) :
    registrar.course name code = .error (.unknownCourse name code) := by
  rw [course, SortedList.find?, h.catalog.toList_eq, hnone]

theorem mem_of_course (h : Stands view registrar) {course : Course}
    (hcourse : registrar.course name code = .ok course) : course ∈ view.courses := by
  cases hfound : view.courses.find? (·.isNamed name code) with
  | none =>
    rw [h.course_unknown hfound] at hcourse
    cases hcourse
  | some found =>
    rw [h.course_of_find? hfound] at hcourse
    cases hcourse
    exact List.mem_of_find?_eq_some hfound

theorem record_eq (h : Stands view registrar) {id : String} {shown : RecordView}
    (hseen : view.students id = some shown) :
    ∃ record, registrar.record id = .ok record ∧ record.Shows shown := by
  obtain ⟨record, hfound, hrecord⟩ := h.students.exists_record hseen
  exact ⟨record, by rw [Registrar.record, hfound], hrecord⟩

theorem record_unknown (h : Stands view registrar) {id : String} (hnone : view.students id = none) :
    registrar.record id = .error (.unknownStudent id) := by
  rw [Registrar.record, h.students.find?_eq_none_iff.mpr hnone]

theorem roster_unknown (h : Stands view registrar) (hnone : view.rosters (name, code) = none) :
    registrar.roster name code = .error (.unknownCourse name code) := by
  rw [Registrar.roster, h.rosters.find?_eq_none hnone]

theorem exists_record (h : Stands view registrar) {id : String} {record : StudentRecord}
    (hrecord : registrar.record id = .ok record) :
    ∃ shown, view.students id = some shown ∧ record.Shows shown := by
  have hfound := find?_of_record hrecord
  refine ⟨record.view, ?_, h.students.sound id record hfound, rfl⟩
  rw [← h.students.view_eq, Students.view, hfound, Option.map_some]

theorem exists_shown (h : Stands view registrar) {roster : CourseRoster}
    (hroster : registrar.roster name code = .ok roster) :
    ∃ shown, view.rosters (name, code) = some shown ∧ Roster.Stands shown roster := by
  have hfound := find?_of_roster hroster
  exact ⟨roster.view, h.rosters.view_of_find? hfound, h.rosters.stands _ roster hfound⟩

theorem with_students (h : Stands view registrar) {seen : String → Option RecordView}
    {students : Students} (hstudents : Students.Shows seen students) :
    Stands { view with students := seen } { registrar with students } :=
  ⟨h.config, h.catalog, h.rosters, hstudents, h.audit⟩

theorem onStudents_answers (h : Stands view registrar) {call : Call Students ε β} {b : β}
    {seen : String → Option RecordView} {heard : List Notice}
    (hcall : call.Answers registrar.students b (Students.Shows seen) heard) :
    (onStudents call).Answers registrar b (Stands { view with students := seen }) heard :=
  hcall.within fun _ => h.with_students

/-- A call on a roster and the records is answered, and what it leaves is put back. -/
theorem onRoster_answers (h : Stands view registrar) {roster : CourseRoster}
    (hfound : registrar.rosters.find? (name, code) = some roster)
    {call : Call (CourseRoster × Students) RosterError β} {b : β}
    {shown : RosterView Course Student} {seen : String → Option RecordView} {students : Students}
    {heard : List Notice} (hstudents : Students.Shows seen students)
    (hcall : call.Answers (roster, registrar.students) b
      (fun both => ∃ changed, Roster.Stands shown changed ∧ both = (changed, students)) heard) :
    (onRoster name code call).Answers registrar b
      (Stands { view.withRoster (name, code) shown heard with students := seen }) heard := by
  obtain ⟨_, notices, heq, ⟨changed, hchanged, rfl⟩, rfl⟩ := hcall.reply
  have hfile : (fun sink : AuditSink => sink.file (Notice.heard notices)) =
      fun sink => sink.file notices := funext fun sink => sink.file_heard notices
  have hstands : Stands
      { view.withRoster (name, code) shown (Notice.heard notices) with students := seen }
      { registrar with
        rosters := registrar.rosters.put (name, code) changed
        students
        audit := registrar.audit.map (·.file notices) } :=
    ⟨h.config, h.catalog, h.rosters.put hchanged (name, code), hstudents, by
      rw [RegistrarView.withRoster, hfile, h.audit]⟩
  refine Call.Answers.of_eq ?_ hstands rfl
  simp only [onRoster, roster_of_find? hfound, heq]
  rfl

/-- A call on a roster and the records is refused, and so everything is put back as it was. -/
theorem onRoster_refuses {roster : CourseRoster}
    (hfound : registrar.rosters.find? (name, code) = some roster)
    {call : Call (CourseRoster × Students) RosterError β} {e : RosterError} {notices : List Notice}
    (hcall : call (roster, registrar.students) =
      ⟨.error e, (roster, registrar.students), notices⟩)
    (haudits : Notice.audits notices = []) :
    (onRoster name code call).Refuses registrar (.roster e) (Notice.heard notices) := by
  refine Call.Refuses.of_eq ?_ rfl
  have hfile : registrar.audit.map (·.file notices) = registrar.audit := by
    cases registrar.audit with
    | none => rfl
    | some sink => exact congrArg some (AuditSink.file_of_audits haudits)
  simp only [onRoster, roster_of_find? hfound, hcall, Directory.put_of_find? hfound, hfile]
  rfl

end Stands

end Registrar

end Enrollment
