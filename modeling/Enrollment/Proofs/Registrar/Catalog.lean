import Enrollment.Proofs.Course
import Enrollment.Proofs.Registrar.Seats

/-!
The three stores of a registrar agree at any time: the catalog is in order and holds courses that
follow the rules, each of which has the one roster under its name and section, and no other roster
is there; and everybody on a roster is on file.
-/
namespace Enrollment

namespace RegistrarView

structure Catalogued (config : RegistrarConfig) (view : RegistrarView) : Prop where
  ascending : SortedList.Ascending view.courses
  valid : ∀ course ∈ view.courses, course.validate = .ok ()
  config_eq : view.config = config

variable {config : RegistrarConfig} {view after : RegistrarView} {id : String}
  {key : String × String} {student : Student} {heard : List Notice}

theorem catalogued_opened (config : RegistrarConfig) (audit : Option AuditSink) :
    (opened config audit).Catalogued config :=
  ⟨List.Pairwise.nil, List.forall_mem_nil _, rfl⟩

theorem Catalogued.withCourse (h : view.Catalogued config) {course : Course} {cap : Nat}
    (hadd : view.CanAdd course cap) : (view.withCourse course cap).Catalogued config where
  ascending := by
    refine h.ascending.insertIdx_placeIn ?_
    intro stored hstored hequal
    exact List.any_eq_false.mp hadd.new stored hstored (Std.compare_eq_iff_beq.mp hequal)
  valid other hmem := by
    cases mem_withCourse.mp hmem with
    | inl hsame => rw [hsame, hadd.valid]
    | inr hmem => exact h.valid other hmem
  config_eq := h.config_eq

theorem Catalogued.withoutCourse (h : view.Catalogued config) (course : Course)
    (leaving : List Student) : (view.withoutCourse course leaving).Catalogued config where
  ascending := h.ascending.sublist List.eraseP_sublist
  valid other hmem := h.valid other (List.eraseP_subset hmem)
  config_eq := h.config_eq

/-- Who is on the rosters and the schedules does not matter to the catalog. -/
theorem Catalogued.keep (h : view.Catalogued config) (hcourses : after.courses = view.courses)
    (hconfig : after.config = view.config) : after.Catalogued config where
  ascending := hcourses ▸ h.ascending
  valid := hcourses ▸ h.valid
  config_eq := hconfig.trans h.config_eq

theorem Enters.catalogued {status : EnrollmentStatus} (h : view.Enters id key status heard after)
    (hview : view.Catalogued config) : after.Catalogued config := by
  cases h <;> exact hview.keep rfl rfl

theorem Leaves.catalogued {outcome : DropOutcome Student}
    (h : view.Leaves student key outcome heard after) (hview : view.Catalogued config) :
    after.Catalogued config := by
  cases h <;> exact hview.keep rfl rfl

theorem LeavesAll.catalogued {courses : List Course} {left : List (Course × DropOutcome Student)}
    (h : LeavesAll student view courses left heard after) (hview : view.Catalogued config) :
    after.Catalogued config := by
  induction h with
  | nil => exact hview
  | pass hoff hrest ih => exact ih hview
  | leave hleaves hrest ih => exact ih (hleaves.catalogued hview)

theorem Steps.catalogued {call : RegistrarCall} {answer : RegistrarAnswer}
    {grants : List SeatGrant} (h : view.Steps call answer grants heard after)
    (hview : view.Catalogued config) : after.Catalogued config := by
  cases h with
  | addCourse hadd => exact hview.withCourse hadd
  | removeCourse hcourse hshown => exact hview.withoutCourse _ _
  | removeNothing hnone => exact hview
  | setEnrollmentCap hshown => exact hview.keep rfl rfl
  | addStudent => exact hview.keep rfl rfl
  | enroll henters => exact henters.catalogued hview
  | drop hrecord hshown hleaves => exact (hleaves.catalogued hview).keep rfl rfl
  | resetSchedule hrecord hleaves => exact (hleaves.catalogued hview).keep rfl rfl

end RegistrarView

structure RosterSnapshot.Shows (config : RegistrarConfig) (course : Course) (roster : CourseRoster)
    (snapshot : RosterSnapshot) : Prop where
  course_eq : snapshot.course = course.name ++ "-" ++ course.sectionCode
  enrollmentCap_eq : snapshot.enrollmentCap = roster.enrollmentCap
  enrolled_eq : snapshot.enrolled = roster.enrolled.length
  openSeats_eq : snapshot.openSeats = roster.enrollmentCap - roster.enrolled.length
  waitlisted_eq : snapshot.waitlisted = roster.waitlisted.length
  waitlistCapacity_eq : snapshot.waitlistCapacity = config.roster.waitlistCapacity

namespace Registrar

structure Aligned (config : RegistrarConfig) (registrar : Registrar) : Prop where
  ascending : registrar.courses.Pairwise fun a b =>
    a.name < b.name ∨ a.name = b.name ∧ a.sectionCode < b.sectionCode
  valid : ∀ course ∈ registrar.courses, course.validate = .ok ()
  rostered : ∀ key, (registrar.rosters.find? key).isSome = true ↔
    ∃ course ∈ registrar.courses, course.key = key
  course_eq : ∀ course ∈ registrar.courses, ∀ roster,
    registrar.rosters.find? course.key = some roster → roster.course = course
  cap_mem : ∀ key roster, registrar.rosters.find? key = some roster →
    config.roster.minCap ≤ roster.enrollmentCap ∧ roster.enrollmentCap ≤ config.roster.maxCap
  on_file : ∀ key roster, registrar.rosters.find? key = some roster →
    ∀ student ∈ roster.enrolled ++ roster.waitlisted,
      ∃ record, registrar.record student.id = .ok record ∧ record.student = student
  course_iff : ∀ name code, (∃ course, registrar.course name code = .ok course) ↔
    ∃ roster, registrar.roster name code = .ok roster
  snapshots : List.Forall₂ (fun course snapshot => ∃ roster,
      registrar.rosters.find? course.key = some roster ∧ roster.snapshot = snapshot ∧
        snapshot.Shows config course roster)
    registrar.courses registrar.snapshots

namespace Stands

variable {config : RegistrarConfig} {view : RegistrarView} {registrar : Registrar}

theorem rostered_iff (h : Stands view registrar) (hfits : view.Fits) (key : String × String) :
    (registrar.rosters.find? key).isSome = true ↔ ∃ course ∈ view.courses, course.key = key := by
  rw [Option.isSome_iff_exists]
  constructor
  · intro ⟨roster, hfound⟩
    have hhosts := hfits.hosts key _ (h.rosters.view_of_find? hfound)
    exact ⟨_, hhosts.course_mem, hhosts.key_eq⟩
  · intro ⟨course, hmem, hkey⟩
    subst hkey
    obtain ⟨shown, hshown⟩ := hfits.rostered course hmem
    obtain ⟨roster, hfound, -⟩ := h.rosters.exists_roster hshown
    exact ⟨roster, hfound⟩

theorem course_iff (h : Stands view registrar) (hfits : view.Fits) (name code : String) :
    (∃ course, registrar.course name code = .ok course) ↔
      ∃ roster, registrar.roster name code = .ok roster := by
  have hrostered := h.rostered_iff hfits (name, code)
  rw [Option.isSome_iff_exists] at hrostered
  constructor
  · intro ⟨course, hcourse⟩
    cases hfound : view.courses.find? (·.isNamed name code) with
    | none =>
      rw [h.course_unknown hfound] at hcourse
      cases hcourse
    | some found =>
      obtain ⟨roster, hroster⟩ := hrostered.mpr
        ⟨found, List.mem_of_find?_eq_some hfound, RegistrarView.key_of_find? hfound⟩
      exact ⟨roster, roster_of_find? hroster⟩
  · intro ⟨roster, hroster⟩
    obtain ⟨course, hmem, hkey⟩ := hrostered.mp ⟨roster, find?_of_roster hroster⟩
    cases hkey
    exact ⟨course, h.course_ok hfits hmem⟩

/-- The roster of a course shows that course and its own numbers. -/
theorem snapshot_shows (h : Stands view registrar) (hfits : view.Fits)
    (hview : view.Catalogued config) {course : Course} (hmem : course ∈ view.courses)
    {roster : CourseRoster} (hfound : registrar.rosters.find? course.key = some roster) :
    roster.snapshot.Shows config course roster := by
  have hhosts := hfits.hosts course.key _ (h.rosters.view_of_find? hfound)
  have hstands := h.rosters.stands course.key roster hfound
  have hcourse : roster.course = course := hfits.course_eq hhosts.course_mem hmem hhosts.key_eq
  have hlimits : roster.limits = config.roster := by
    rw [← hview.config_eq]
    exact hhosts.limits
  refine ⟨?_, rfl, hstands.enrolledCount_eq, hstands.openSeats_eq, hstands.waitlistCount_eq, ?_⟩
  · rw [Roster.snapshot, hcourse]
    rfl
  · rw [← hlimits]
    exact hstands.line.capacity

theorem snapshots_eq (h : Stands view registrar) (hfits : view.Fits)
    (hview : view.Catalogued config) {courses : List Course} (hsub : courses ⊆ view.courses) :
    List.Forall₂ (fun course snapshot => ∃ roster,
        registrar.rosters.find? course.key = some roster ∧ roster.snapshot = snapshot ∧
          snapshot.Shows config course roster) courses
      (courses.filterMap fun course =>
        (registrar.rosters.find? course.key).map Roster.snapshot) := by
  induction courses with
  | nil => exact .nil
  | cons course rest ih =>
    obtain ⟨hmem, hrest⟩ := List.cons_subset.mp hsub
    obtain ⟨roster, hfound⟩ :=
      Option.isSome_iff_exists.mp ((h.rostered_iff hfits course.key).mpr ⟨course, hmem, rfl⟩)
    have hsnapshot : (registrar.rosters.find? course.key).map Roster.snapshot =
        some roster.snapshot := by
      rw [hfound, Option.map_some]
    simp only [List.filterMap_cons, hsnapshot]
    exact .cons ⟨roster, hfound, rfl, h.snapshot_shows hfits hview hmem hfound⟩ (ih hrest)

theorem aligned (h : Stands view registrar) (hfits : view.Fits) (hview : view.Catalogued config) :
    registrar.Aligned config := by
  have hcourses : registrar.courses = view.courses := h.catalog.toList_eq
  have hhosts : ∀ key roster, registrar.rosters.find? key = some roster →
      view.Hosts key roster.view := by
    intro key roster hfound
    exact hfits.hosts key _ (h.rosters.view_of_find? hfound)
  refine ⟨?_, ?_, ?_, ?_, ?_, ?_, h.course_iff hfits, ?_⟩
  · rw [hcourses]
    exact hview.ascending.imp Course.compare_eq_lt.mp
  · rw [hcourses]
    exact hview.valid
  · rw [hcourses]
    exact h.rostered_iff hfits
  · intro course hmem roster hfound
    rw [hcourses] at hmem
    have hhosts := hhosts _ roster hfound
    exact hfits.course_eq hhosts.course_mem hmem hhosts.key_eq
  · intro key roster hfound
    obtain ⟨hfit, hlimits, -⟩ := hhosts key roster hfound
    rw [← hview.config_eq, ← hlimits]
    exact ⟨hfit.minCap_le, hfit.le_maxCap⟩
  · intro key roster hfound student hon
    obtain ⟨shown, hshown, hstudent⟩ :=
      RegistrarView.students_of_onFile ((hhosts key roster hfound).known student hon)
    obtain ⟨record, hrecord, hview⟩ := h.record_eq hshown
    refine ⟨record, hrecord, ?_⟩
    rw [← hstudent, ← hview.view_eq]
    rfl
  · rw [snapshots, hcourses]
    exact h.snapshots_eq hfits hview (List.Subset.refl view.courses)

end Stands

end Registrar

namespace RegistrarCall

open Registrar

/-- After any calls on a registrar, its catalog, rosters and records agree. -/
theorem aligned_finalState {config : RegistrarConfig} {audit : Option AuditSink}
    {start : Registrar} (hstart : Registrar.make config audit = .ok start)
    (calls : List RegistrarCall) : (Call.finalState perform calls start).Aligned config := by
  obtain ⟨view, hstands, hfits, -, hview⟩ := kept_finalState
    (fun hsteps hview => hsteps.catalogued hview) calls (Stands.of_make hstart)
    (RegistrarView.fits_opened config audit) (RegistrarView.settled_opened config audit)
    (RegistrarView.catalogued_opened config audit)
  exact hstands.aligned hfits hview

/-- A section is taken out of the catalog while somebody waits for it, and comes in again with more
credits, in its place. -/
theorem aligned_finalState_students :
    let algebra : Course := ⟨"Algebra", "Algebra", "001", 3, none, .arranged⟩
    let logic : Course := ⟨"Logic", "Logic", "002", 3, none, .arranged⟩
    let calls : List RegistrarCall :=
      [addCourse logic 1, addCourse { logic with sectionCode := "003" } 1, addCourse algebra 2,
        addStudent "ada" 9, addStudent "bob" 9, enroll "ada" "Logic" "002",
        enroll "bob" "Logic" "002", removeCourse "Logic" "002",
        addCourse { logic with credits := 4 } 2, enroll "bob" "Logic" "002"]
    ∃ start, Registrar.make ⟨⟨1, 2, 1⟩, 3, 18⟩ none = .ok start ∧
      (Call.finalState perform calls start).Aligned ⟨⟨1, 2, 1⟩, 3, 18⟩ ∧
      (Call.finalState perform calls start).courses =
        [algebra, { logic with credits := 4 }, { logic with sectionCode := "003" }] := by
  have hmake : Registrar.make ⟨⟨1, 2, 1⟩, 3, 18⟩ none =
      .ok ⟨⟨⟨1, 2, 1⟩, 3, 18⟩, SortedList.empty, Directory.empty, Directory.empty, none⟩ := rfl
  exact ⟨_, hmake, aligned_finalState hmake _, by decide +kernel⟩

end RegistrarCall

end Enrollment
