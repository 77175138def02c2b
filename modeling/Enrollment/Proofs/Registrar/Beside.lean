import Enrollment.Proofs.Registrar.Commuting

/-!
Two registrars that differ in the record of one student only, while that student leaves courses.  A
seat that is given up goes to somebody else, whose record is the same on both sides, so it does not
matter whether the course goes off the student's own schedule at once or later.
-/
namespace Enrollment

open Call (Alike SameAt)
open Directory (find?)

/-- Whoever moves into a seat that a student gives up is somebody else. -/
theorem Roster.Stands.promoted_id_ne {ω : Type} {shown : RosterView Course Student}
    {roster : CourseRoster} (h : Stands shown roster) (hfits : shown.Fits)
    (attach : Attach ω Student Course) (world : ω) {student removed : Student}
    {promotion : Promotion Student}
    (hpromoted : (drop attach (some student) (roster, world)).result =
      .ok (.withdrawn removed (some promotion))) : promotion.entity.id ≠ student.id := by
  obtain ⟨index, gone, -, -, -, hcall⟩ | ⟨index, gone, next, rest, hfound, -, hline, hcall⟩ |
    ⟨index, gone, -, -, -, hcall⟩ | ⟨-, -, hcall⟩ := h.drop_cases hfits attach world student
  · cases hcall.result.symm.trans hpromoted
  · cases hcall.result.symm.trans hpromoted
    exact (Student.id_ne (hfits.head_ne hfound hline)).symm
  · cases hcall.result.symm.trans hpromoted
  · rw [hcall] at hpromoted
    cases hpromoted

namespace Registrar

structure Beside (id : String) (registrar other : Registrar) : Prop where
  config : registrar.config = other.config
  catalog : registrar.catalog = other.catalog
  rosters : registrar.rosters = other.rosters
  audit : registrar.audit = other.audit
  students : SameAt find? {id}ᶜ registrar.students other.students

def Knows (registrar : Registrar) (student : Student) : Prop :=
  ∃ view, Stands view registrar ∧ view.Fits ∧ view.onFile student.id = some student

def dropEach (id : String) :
    List Course → Call Registrar RegistrationError (List (Course × DropOutcome Student))
  | [] => return []
  | course :: rest => do
    let outcome ← drop id course.name course.sectionCode
    let left ← dropEach id rest
    return (course, outcome) :: left

variable {registrar other : Registrar} {student : Student} {id name code : String}
  {roster : CourseRoster}

/-- A call on one roster leaves the others. -/
theorem find?_onRoster_of_ne {β : Type} (call : Call (CourseRoster × Students) RosterError β)
    {key : String × String} (hkey : key ≠ (name, code)) :
    (onRoster name code call registrar).state.rosters.find? key =
      registrar.rosters.find? key := by
  cases hroster : registrar.roster name code with
  | error e => simp only [onRoster, hroster]
  | ok roster => simp only [onRoster, hroster, Directory.find?_put_of_ne _ hkey]

theorem Knows.exists_shown (h : registrar.Knows student)
    (hfound : registrar.rosters.find? (name, code) = some roster) :
    ∃ shown, Roster.Stands shown roster ∧ shown.Fits := by
  obtain ⟨view, hstands, hfits, -⟩ := h
  exact ⟨_, hstands.rosters.stands _ _ hfound,
    hfits.roster_fits (hstands.rosters.view_of_find? hfound)⟩

/-- A student who is on a roster and leaves it is still on file. -/
theorem Knows.leave (h : registrar.Knows student)
    (hfound : registrar.rosters.find? (name, code) = some roster)
    (hon : (roster.isEnrolled student || roster.isWaitlisted student) = true) :
    ∃ outcome heard, (onRoster name code (Roster.drop Students.attach (some student))).Answers
      registrar outcome (fun left => left.Knows student) heard := by
  obtain ⟨view, hstands, hfits, hstudent⟩ := h
  have hshown := hstands.rosters.view_of_find? hfound
  have hroster := hstands.rosters.stands _ _ hfound
  obtain ⟨heard, hoff, -⟩ | ⟨outcome, heard, after, hleaves, hleave⟩ :=
    hstands.leave_cases hfits hshown hstudent
  · rw [hroster.isEnrolled_eq, hroster.isWaitlisted_eq, ← List.any_append, hoff] at hon
    cases hon
  · refine ⟨outcome, heard, hleave.mono ?_⟩
    intro left hleft
    exact ⟨after, hleft, hleaves.fits hfits, by rw [hleaves.onFile_eq, hstudent]⟩

/-- Nothing is heard when a course goes off the schedule of a student on file. -/
theorem Knows.detach (h : registrar.Knows student) (course : Course) {ε : Type} :
    (onStudents (Students.detach student course) : Call Registrar ε Unit).Answers registrar ()
      (fun left => left.Knows student) [] := by
  obtain ⟨view, hstands, hfits, hstudent⟩ := h
  obtain ⟨record, hrecord, hsame⟩ := RegistrarView.students_of_onFile hstudent
  refine (hstands.onStudents_answers (hstands.students.detach_answers hrecord course)).mono ?_
  intro left hleft
  have hkept : (view.withRecord student.id
      { record with items := record.items.eraseP (· == course) }).onFile = view.onFile :=
    RegistrarView.onFile_withRecord hrecord rfl
  refine ⟨_, hleft, hfits.withRecord hrecord rfl, ?_⟩
  exact (congrFun hkept _).trans hstudent

/-- Whoever drops whatever, a student stays on file. -/
theorem Knows.drop (h : registrar.Knows student) (id name code : String) :
    (Registrar.drop id name code registrar).state.Knows student := by
  obtain ⟨view, hstands, hfits, hstudent⟩ := h
  obtain ⟨e, heard, -, hcall⟩ |
    ⟨record, shown, outcome, heard, after, hrecord, -, hleaves, hcall⟩ :=
    hstands.drop_cases hfits id name code
  · rw [hcall.state]
    exact ⟨view, hstands, hfits, hstudent⟩
  · have hself := hleaves.record_eq hfits hrecord
    have hkept : (after.withRecord id
        { record with items := record.items.eraseP (· == shown.course) }).onFile = after.onFile :=
      RegistrarView.onFile_withRecord hself rfl
    refine ⟨_, hcall.state, (hleaves.fits hfits).withRecord hself rfl, ?_⟩
    rw [hkept, hleaves.onFile_eq, hstudent]

theorem Knows.dropEach (h : registrar.Knows student) (id : String) (courses : List Course) :
    (Registrar.dropEach id courses registrar).state.Knows student := by
  induction courses generalizing registrar with
  | nil => exact h
  | cons course rest ih =>
    have hfirst := h.drop id course.name course.sectionCode
    cases hcall : Registrar.drop id course.name course.sectionCode registrar with
    | mk result gone notices =>
      rw [hcall] at hfirst
      cases result with
      | error e =>
        rw [Registrar.dropEach, Call.bind_of_error hcall]
        exact hfirst
      | ok outcome =>
        rw [Registrar.dropEach, Call.bind_of_ok hcall, Reply.after_state, Call.bind_pure_apply]
        exact ih hfirst

/-- A drop by a student on file is a leave, and then the course goes off the schedule. -/
theorem Knows.drop_eq (h : registrar.Knows student)
    (hfound : registrar.rosters.find? (name, code) = some roster) :
    Registrar.drop student.id name code registrar = (do
      let outcome ← onRoster name code (Roster.drop Students.attach (some student))
      onStudents (Students.detach student roster.course)
      return outcome) registrar := by
  obtain ⟨view, hstands, hfits, hstudent⟩ := h
  obtain ⟨shown, hshown, hsame⟩ := RegistrarView.students_of_onFile hstudent
  obtain ⟨record, hrecord, hview⟩ := hstands.record_eq hshown
  obtain rfl := hview.view_eq
  obtain rfl : record.student = student := hsame
  simp [Registrar.drop, hrecord, roster_of_find? hfound]

namespace Beside

theorem detach (h : Beside student.id registrar other) (course : Course) {ε : Type} :
    Beside student.id registrar
      (onStudents (Students.detach student course) other : Reply Registrar ε Unit).state where
  config := h.config
  catalog := h.catalog
  rosters := h.rosters
  audit := h.audit
  students := h.students.trans
    (Students.detach_local course (Set.mem_singleton _) other.students (SameAt.refl _)).2

/-- A call on a roster that does not look at the record of the student. -/
theorem onRoster {β : Type} (h : Beside id registrar other)
    (hfound : registrar.rosters.find? (name, code) = some roster)
    {call : Call (CourseRoster × Students) RosterError β}
    (hlocal : Roster.LocalBeside {id}ᶜ call roster registrar.students) :
    Alike (Beside id) (Registrar.onRoster name code call registrar)
      (Registrar.onRoster name code call other) := by
  obtain ⟨⟨hresult, ⟨hleft, hstudents⟩, hheard⟩, -⟩ := hlocal other.students h.students
  have hfile : ∀ sink : AuditSink, sink.file (call (roster, registrar.students)).notices =
      sink.file (call (roster, other.students)).notices := by
    intro sink
    rw [← AuditSink.file_heard, hheard, AuditSink.file_heard]
  have hfound' : other.rosters.find? (name, code) = some roster := h.rosters ▸ hfound
  simp only [Registrar.onRoster, roster_of_find? hfound, roster_of_find? hfound']
  refine ⟨by rw [hresult], ⟨h.config, h.catalog, ?_, ?_, hstudents⟩, hheard⟩
  · rw [h.rosters, hleft]
  · rw [h.audit, funext hfile]

/-- A student leaves a roster on the one side and drops the course on the other. -/
theorem drop (h : Beside student.id registrar other) (hknows : registrar.Knows student)
    (hknows' : other.Knows student)
    (hfound : registrar.rosters.find? (name, code) = some roster)
    (hon : (roster.isEnrolled student || roster.isWaitlisted student) = true) :
    Alike (Beside student.id)
      (Registrar.onRoster name code (Roster.drop Students.attach (some student)) registrar)
      (Registrar.drop student.id name code other) := by
  obtain ⟨shown, hstands, hfits⟩ := hknows.exists_shown hfound
  -- Only the record of whoever moves up is looked at, and that is the same on both sides.
  have hleft := h.onRoster hfound (Roster.drop_local student fun removed promotion hpromoted =>
    hstands.promoted_id_ne hfits _ _ hpromoted)
  have hfound' : other.rosters.find? (name, code) = some roster := h.rosters ▸ hfound
  obtain ⟨outcome, heard, hleave⟩ := hknows'.leave hfound' hon
  obtain ⟨left, hleftKnows, hthere⟩ := hleave.exists_state
  obtain ⟨gone, -, hdetach⟩ := (hleftKnows.detach roster.course).exists_state
  have hdrop : (Registrar.drop student.id name code).Answers other outcome
      (fun state => state = gone) heard := by
    refine Call.Answers.congr (hthere.bind_quiet ?_) (hknows'.drop_eq hfound')
    intro state hstate
    rw [hstate]
    exact hdetach.map fun _ => outcome
  have hbeside : Beside student.id
      (Registrar.onRoster name code (Roster.drop Students.attach (some student)) registrar).state
      left := hthere.state ▸ hleft.state
  refine ⟨?_, ?_, ?_⟩
  · rw [hleft.result, hthere.result, hdrop.result]
  · rw [hdrop.state, ← hdetach.state]
    exact hbeside.detach roster.course
  · rw [hleft.heard, hthere.heard, hdrop.heard]

/-- A student leaves some rosters on the one side, and drops the courses one by one on the other. -/
theorem leaveAll (h : Beside student.id registrar other) (hknows : registrar.Knows student)
    (hknows' : other.Knows student) {courses : List Course} (hdistinct : Distinct courses) :
    Alike (Beside student.id) (Registrar.leaveAll student courses registrar)
      (dropEach student.id (courses.filter (registrar.lists student)) other) := by
  -- Leaving one course does not change who is on the rosters of those that come after it.
  induction courses generalizing registrar other with
  | nil => exact ⟨rfl, h, rfl⟩
  | cons course rest ih =>
    obtain ⟨hfirst, hrest⟩ := List.pairwise_cons.mp hdistinct
    cases hlists : registrar.lists student course with
    | false =>
      rw [leaveAll_of_not_lists hlists, List.filter_cons_of_neg (by simp [hlists])]
      exact ih h hknows hknows' hrest
    | true =>
      obtain ⟨roster, hfound, hon⟩ := exists_of_lists hlists
      have hdrop := h.drop hknows hknows' hfound hon
      obtain ⟨outcome, heard, hleave⟩ := hknows.leave hfound hon
      have hlater : rest.filter (registrar.lists student) = rest.filter
          ((Registrar.onRoster course.name course.sectionCode
            (Roster.drop Students.attach (some student)) registrar).state.lists student) := by
        refine List.filter_congr ?_
        intro later hmem
        rw [lists, lists, find?_onRoster_of_ne _ (Course.key_ne (hfirst later hmem)).symm]
      rw [leaveAll_of_lists hlists, List.filter_cons_of_pos hlists, hlater]
      have hothers := ih hdrop.state hleave.state (hknows'.drop _ _ _) hrest
      exact hdrop.bind fun outcome _ => hothers.bind fun left _ => ⟨rfl, hothers.state, rfl⟩

end Beside

end Registrar

end Enrollment
