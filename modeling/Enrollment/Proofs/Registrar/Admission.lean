import Enrollment.Proofs.Course
import Enrollment.Proofs.Forms
import Enrollment.Proofs.Registrar.Catalog
import Enrollment.Registrar.Plan

/-!
What comes into a catalog: whatever text a course is read from, and however a registrar is built
and used, the catalog holds only courses that can be made of their fields, the meeting being one
that can be read from day letters and two times.
-/
namespace Enrollment

open Json

namespace Registrar

theorem validate_of_addCourse {registrar : Registrar} {course : Course} {cap : Nat}
    (h : (addCourse course cap registrar).result = .ok ()) : course.validate = .ok () := by
  cases hvalidate : course.validate with
  | ok _ => rfl
  | error e =>
    rw [addCourse, Call.current_bind, hvalidate] at h
    cases h

/-- However a registrar is used that was opened without courses, its courses follow the rules. -/
theorem validate_of_mem_courses {config : RegistrarConfig} {audit : Option AuditSink}
    {start : Registrar} (hstart : make config audit = .ok start) (calls : List RegistrarCall) :
    ∀ course ∈ (Call.finalState RegistrarCall.perform calls start).courses,
      course.validate = .ok () := by
  obtain ⟨view, hstands, -, -, hview⟩ := RegistrarCall.kept_finalState
    (fun hsteps hview => hsteps.catalogued hview) calls (Stands.of_make hstart)
    (RegistrarView.fits_opened config audit) (RegistrarView.settled_opened config audit)
    (RegistrarView.catalogued_opened config audit)
  rw [courses, hstands.catalog.toList_eq]
  exact hview.valid

end Registrar

namespace RegistrarPlan

def calls (plan : RegistrarPlan) : List RegistrarCall :=
  plan.courses.map (fun (course, cap) => .addCourse course cap) ++
    plan.students.map fun (id, maxCredits) => .addStudent id maxCredits

theorem state_of_addCourses {courses : List (Course × Nat)} {registrar : Registrar}
    (h : (addCourses courses registrar).result = .ok ()) :
    (addCourses courses registrar).state = Call.finalState RegistrarCall.perform
      (courses.map fun (course, cap) => .addCourse course cap) registrar := by
  induction courses generalizing registrar with
  | nil => rfl
  | cons entry rest ih =>
    obtain ⟨_, -, hrest, hstate⟩ := Call.of_bind_result_eq_ok h
    have hperform : ((RegistrarCall.addCourse entry.1 entry.2).perform registrar).state =
        (Registrar.addCourse entry.1 entry.2 registrar).state := by
      rw [RegistrarCall.perform, Call.bind_pure_apply (f := fun _ => RegistrarAnswer.done)]
    rw [List.map_cons, Call.finalState, hperform, ← ih hrest]
    exact hstate

theorem state_of_addStudents {students : List (String × UInt32)} {registrar : Registrar}
    (h : (addStudents students registrar).result = .ok ()) :
    (addStudents students registrar).state = Call.finalState RegistrarCall.perform
      (students.map fun (id, maxCredits) => .addStudent id maxCredits) registrar := by
  induction students generalizing registrar with
  | nil => rfl
  | cons entry rest ih =>
    obtain ⟨_, -, hrest, hstate⟩ := Call.of_bind_result_eq_ok h
    have hperform : ((RegistrarCall.addStudent entry.1 entry.2).perform registrar).state =
        (Registrar.addStudent entry.1 entry.2 registrar).state := by
      rw [RegistrarCall.perform, Call.bind_pure_apply]
    rw [List.map_cons, Call.finalState, hperform, ← ih hrest]
    exact hstate

/-- A registrar that is built is what the calls of its plan make of an empty one. -/
theorem eq_finalState_of_build {plan : RegistrarPlan} {start : Registrar}
    (h : plan.build = .ok start) :
    ∃ opened, Registrar.make plan.config plan.audit = .ok opened ∧
      start = Call.finalState RegistrarCall.perform plan.calls opened := by
  obtain ⟨opened, hopened, hreply⟩ := bind_eq_ok_iff.mp h
  obtain ⟨_, hfill, hstart⟩ := bind_eq_ok_iff.mp hreply
  cases hstart
  refine ⟨opened, hopened, ?_⟩
  obtain ⟨_, hcourses, hrest, hstate⟩ := Call.of_bind_result_eq_ok hfill
  obtain ⟨_, hstudents, -, hstate'⟩ := Call.of_bind_result_eq_ok hrest
  rw [calls, Call.finalState_append, ← state_of_addCourses hcourses,
    ← state_of_addStudents hstudents]
  exact hstate.trans hstate'

end RegistrarPlan

/-- Whatever text a course is read from, it meets by arrangement or in the window that is written,
which is one of real times in order on some days; it passes if and only if it can be made of its
fields; no registrar adds it unless it passes; and all courses of a registrar can be made so. -/
theorem courses_from_texts_built :
    (∀ (text : String) (course : Course), Course.ofText text = .ok course →
      (course.meeting = .arranged ∨ ∃ window letters, course.meeting = .scheduled window ∧
        Course.WrittenBy text letters window.start window.finish ∧
        DaySet.parse letters = .ok window.days ∧ window.days.days ≠ [] ∧
        (window.start / 100 < 24 ∧ window.start % 100 < 60) ∧
        (window.finish / 100 < 24 ∧ window.finish % 100 < 60) ∧
        window.start ≤ window.finish) ∧
      (course.validate = .ok () ↔
        ∃ made, Course.make course.name course.title course.sectionCode course.credits
          course.instructorId course.meeting = .ok made) ∧
      ∀ (registrar : Registrar) (cap : Nat),
        (Registrar.addCourse course cap registrar).result = .ok () → course.validate = .ok ()) ∧
    ∀ (plan : RegistrarPlan) (start : Registrar), plan.build = .ok start →
      ∀ (calls : List RegistrarCall),
        ∀ course ∈ (Call.finalState RegistrarCall.perform calls start).courses,
          course.Built := by
  constructor
  · intro text course hread
    refine ⟨?_, ?_, fun registrar cap hadd => Registrar.validate_of_addCourse hadd⟩
    · cases hmeeting : course.meeting with
      | arranged => exact .inl rfl
      | scheduled window =>
        obtain ⟨letters, hwritten, hdays⟩ := Course.exists_writtenBy hread hmeeting
        exact .inr ⟨window, letters, rfl, hwritten, hdays, window.days.nonempty,
          isTime_iff.mp window.start_isTime, isTime_iff.mp window.finish_isTime,
          window.start_le_finish⟩
    · constructor
      · intro hvalid
        exact ⟨course, Course.make_eq_ok_iff.mpr hvalid⟩
      · intro ⟨made, hmake⟩
        obtain ⟨_, hvalid, -⟩ := bind_eq_ok_iff.mp hmake
        exact hvalid
  · intro plan start hbuild calls course hmem
    obtain ⟨opened, hopened, rfl⟩ := RegistrarPlan.eq_finalState_of_build hbuild
    rw [← Call.finalState_append] at hmem
    exact Course.built_of_validate (Registrar.validate_of_mem_courses hopened _ course hmem)

/-- A course that meets at midnight is read, but no registrar adds it; one at eight is added. -/
theorem courses_from_texts_built_midnight :
    let text (start : String) := "[\"Logic\",\"Logic\",\"001\",3,null,\x7b\"Scheduled\":[\"FM\"," ++
      start ++ ",850]\x7d]"
    let days : DaySet := DaySet.ofDays [.monday, .friday] (by decide)
    let midnight : Course := ⟨"Logic", "Logic", "001", 3, none,
      .scheduled ⟨days, 0, 850, by decide, by decide, by decide⟩⟩
    let eight : Course := ⟨"Logic", "Logic", "001", 3, none,
      .scheduled ⟨days, 800, 850, by decide, by decide, by decide⟩⟩
    let plan : RegistrarPlan := ⟨⟨⟨1, 2, 1⟩, 3, 18⟩, none, [(eight, 2)], [("ada", 9)]⟩
    Course.ofText (text "0") = .ok midnight ∧ Course.ofText (text "800") = .ok eight ∧
      (∃ letters, Course.WrittenBy (text "0") letters 0 850) ∧
      (∀ registrar cap, (Registrar.addCourse midnight cap registrar).result ≠ .ok ()) ∧
      ∃ start, plan.build = .ok start ∧ start.courses = [eight] ∧ eight.Built := by
  intro text days midnight eight plan
  have hmidnight : Course.ofText (text "0") = .ok midnight := by decide +kernel
  have height : Course.ofText (text "800") = .ok eight := by decide +kernel
  have hinvalid : midnight.validate ≠ .ok () := by decide +kernel
  obtain ⟨hread, hbuilt⟩ := courses_from_texts_built
  obtain ⟨hmeeting, -, hadd⟩ := hread (text "0") midnight hmidnight
  have hplan : plan.build.map Registrar.courses = .ok [eight] := by decide +kernel
  obtain ⟨start, hstart, hcourses⟩ : ∃ start, plan.build = .ok start ∧ start.courses = [eight] := by
    cases hbuild : plan.build with
    | error e =>
      rw [hbuild] at hplan
      cases hplan
    | ok start =>
      rw [hbuild] at hplan
      exact ⟨start, rfl, Except.ok.inj hplan⟩
  refine ⟨hmidnight, height, ?_, ?_, start, hstart, hcourses, ?_⟩
  · obtain hnone | ⟨window, letters, hwindow, hwritten, -⟩ := hmeeting
    · cases hnone
    · cases hwindow
      exact ⟨letters, hwritten⟩
  · intro registrar cap hresult
    exact hinvalid (hadd registrar cap hresult)
  · exact hbuilt plan start hstart [] eight (by rw [Call.finalState, hcourses]; simp)

end Enrollment
