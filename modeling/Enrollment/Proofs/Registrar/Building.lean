import Enrollment.Proofs.Course
import Enrollment.Proofs.Registrar.Catalog
import Enrollment.Proofs.Roster.Decision
import Enrollment.Registrar.Plan

/-!
Building a registrar as planned.  A plan is refused for a fault in one of its entries or for two
entries of the same key, and nothing else; and what is built does not depend on the order in which
the plan has its courses and its students.
-/
namespace Enrollment

section Tables

variable {κ ν ω : Type} {seen other : κ → Option ν} {entries more : List ω} {key : ω → κ}
  {value : ω → ν}

def Tabulates (seen : κ → Option ν) (entries : List ω) (key : ω → κ) (value : ω → ν) : Prop :=
  ∀ k found, seen k = some found ↔ ∃ entry ∈ entries, key entry = k ∧ value entry = found

theorem tabulates_nil (key : ω → κ) (value : ω → ν) :
    Tabulates (fun _ => none) [] key value := by
  intro k found
  simp

/-- Nothing is seen under the key of an entry to come: the entries have other keys. -/
theorem Tabulates.key_ne (h : Tabulates seen entries key value) (new : ω)
    (hnone : seen (key new) = none) : ∀ entry ∈ entries, key entry ≠ key new := by
  intro entry hentry hsame
  have hseen := (h (key new) (value entry)).mpr ⟨entry, hentry, hsame, rfl⟩
  rw [hnone] at hseen
  cases hseen

theorem Tabulates.update [DecidableEq κ] (h : Tabulates seen entries key value) (new : ω)
    (hnone : seen (key new) = none) :
    Tabulates (Function.update seen (key new) (some (value new))) (entries ++ [new]) key value := by
  intro k found
  have hne := h.key_ne new hnone
  by_cases hk : k = key new
  · subst hk
    rw [Function.update_self]
    constructor
    · intro hfound
      exact ⟨new, by simp, rfl, Option.some.inj hfound⟩
    · rintro ⟨entry, hentry, hkey, rfl⟩
      obtain hentry | hentry := List.mem_append.mp hentry
      · exact absurd hkey (hne entry hentry)
      · rw [List.mem_singleton.mp hentry]
  · rw [Function.update_of_ne hk, h k found]
    constructor
    · rintro ⟨entry, hentry, hkey⟩
      exact ⟨entry, List.mem_append_left _ hentry, hkey⟩
    · rintro ⟨entry, hentry, hkey⟩
      obtain hentry | hentry := List.mem_append.mp hentry
      · exact ⟨entry, hentry, hkey⟩
      · rw [List.mem_singleton.mp hentry] at hkey
        exact absurd hkey.1.symm hk

/-- The order of the entries does not show. -/
theorem Tabulates.eq_of_perm (h : Tabulates seen entries key value)
    (hother : Tabulates other more key value) (hperm : entries.Perm more) : seen = other := by
  funext k
  apply Option.ext
  intro found
  rw [h k found, hother k found]
  simp only [hperm.mem_iff]

theorem nodup_map_append_singleton (hdistinct : (entries.map key).Nodup) {new : ω}
    (hne : ∀ entry ∈ entries, key entry ≠ key new) : ((entries ++ [new]).map key).Nodup := by
  rw [List.map_append, List.nodup_append]
  refine ⟨hdistinct, List.pairwise_singleton _ _, ?_⟩
  intro k hk k' hk'
  obtain ⟨entry, hentry, rfl⟩ := List.mem_map.mp hk
  rw [List.mem_singleton.mp hk']
  exact hne entry hentry

end Tables

namespace RegistrarPlan

open Registrar (Stands)

/-- Every entry of a plan may stand, and no two courses have the same name and section, nor two
students the same id. -/
structure Buildable (plan : RegistrarPlan) : Prop where
  config_valid : plan.config.validate = .ok ()
  course_valid : ∀ entry ∈ plan.courses, entry.1.validate = .ok ()
  cap_mem : ∀ entry ∈ plan.courses,
    plan.config.roster.minCap ≤ entry.2 ∧ entry.2 ≤ plan.config.roster.maxCap
  keys_distinct : (plan.courses.map fun entry => entry.1.key).Nodup
  credits_mem : ∀ entry ∈ plan.students,
    plan.config.minStudentCredits ≤ entry.2 ∧ entry.2 ≤ plan.config.maxStudentCredits
  ids_distinct : (plan.students.map Prod.fst).Nodup

structure Ready (plan : RegistrarPlan) : Prop where
  buildable : plan.Buildable
  count_le : plan.courses.length ≤ Bounds.count

/-- What shows of a registrar is what a plan has: the courses in order, a roster that no one is on
for each of them, and a record with nothing scheduled for each student. -/
structure Yields (plan : RegistrarPlan) (view : RegistrarView) : Prop where
  config_eq : view.config = plan.config
  audit_eq : view.audit = plan.audit
  ascending : SortedList.Ascending view.courses
  courses_perm : view.courses.Perm (plan.courses.map Prod.fst)
  rosters : Tabulates view.rosters plan.courses (fun entry => entry.1.key)
    fun entry => ⟨entry.1, plan.config.roster, entry.2, plan.audit.isSome, [], []⟩
  students : Tabulates view.students plan.students Prod.fst
    fun entry => ⟨⟨entry.1, entry.2⟩, Schedule.defaultTitle, []⟩

structure Reorders (plan other : RegistrarPlan) : Prop where
  config_eq : other.config = plan.config
  audit_eq : other.audit = plan.audit
  courses_perm : other.courses.Perm plan.courses
  students_perm : other.students.Perm plan.students

variable {plan other : RegistrarPlan} {view : RegistrarView} {registrar : Registrar}

theorem Reorders.ready (h : plan.Reorders other) (hready : plan.Ready) : other.Ready := by
  obtain ⟨hconfig, -, hcourses, hstudents⟩ := h
  obtain ⟨hplan, hcount⟩ := hready
  refine ⟨⟨?_, ?_, ?_, ?_, ?_, ?_⟩, ?_⟩
  · rw [hconfig]
    exact hplan.config_valid
  · intro entry hmem
    exact hplan.course_valid entry (hcourses.mem_iff.mp hmem)
  · rw [hconfig]
    intro entry hmem
    exact hplan.cap_mem entry (hcourses.mem_iff.mp hmem)
  · rw [(hcourses.map _).nodup_iff]
    exact hplan.keys_distinct
  · rw [hconfig]
    intro entry hmem
    exact hplan.credits_mem entry (hstudents.mem_iff.mp hmem)
  · rw [(hstudents.map _).nodup_iff]
    exact hplan.ids_distinct
  · rw [hcourses.length_eq]
    exact hcount

/-- The same shows of what is built, whichever order the plan has. -/
theorem Reorders.view_eq (h : plan.Reorders other) (hplan : plan.Yields view)
    {shown : RegistrarView} (hother : other.Yields shown) : shown = view := by
  obtain ⟨config, audit, courses, students⟩ := plan
  obtain ⟨config', audit', courses', students'⟩ := other
  obtain ⟨rfl, rfl, hcourses, hstudents⟩ := h
  have hlist : shown.courses = view.courses := by
    apply hother.ascending.eq_of_perm hplan.ascending
    exact hother.courses_perm.trans ((hcourses.map _).trans hplan.courses_perm.symm)
  have hrosters : shown.rosters = view.rosters := hother.rosters.eq_of_perm hplan.rosters hcourses
  have hrecords : shown.students = view.students :=
    hother.students.eq_of_perm hplan.students hstudents
  calc shown = ⟨shown.config, shown.courses, shown.rosters, shown.students, shown.audit⟩ := rfl
    _ = ⟨view.config, view.courses, view.rosters, view.students, view.audit⟩ := by
      rw [hother.config_eq, hplan.config_eq, hother.audit_eq, hplan.audit_eq, hlist, hrosters,
        hrecords]

def withCourses (plan : RegistrarPlan) (more : List (Course × Nat)) : RegistrarPlan :=
  { plan with courses := plan.courses ++ more }

def withStudents (plan : RegistrarPlan) (more : List (String × UInt32)) : RegistrarPlan :=
  { plan with students := plan.students ++ more }

theorem withCourses_cons (plan : RegistrarPlan) (entry : Course × Nat)
    (rest : List (Course × Nat)) :
    plan.withCourses (entry :: rest) = (plan.withCourses [entry]).withCourses rest := by
  simp [withCourses]

theorem withStudents_cons (plan : RegistrarPlan) (entry : String × UInt32)
    (rest : List (String × UInt32)) :
    plan.withStudents (entry :: rest) = (plan.withStudents [entry]).withStudents rest := by
  simp [withStudents]

section Courses

variable {course : Course} {cap : Nat} {rest : List (Course × Nat)}

/-- A course of a plan may come into the catalog after those that stand before it. -/
theorem Yields.canAdd (h : plan.Yields view)
    (hready : (plan.withCourses ((course, cap) :: rest)).Ready) : view.CanAdd course cap := by
  obtain ⟨hbuildable, hcount⟩ := hready
  have hmem : (course, cap) ∈ (plan.withCourses ((course, cap) :: rest)).courses :=
    List.mem_append_right _ List.mem_cons_self
  obtain ⟨hmin, hmax⟩ := hbuildable.cap_mem _ hmem
  have hlength := h.courses_perm.length_eq
  rw [List.length_map] at hlength
  refine ⟨hbuildable.course_valid _ hmem, ?_, ?_, ?_, ?_⟩
  · rw [List.any_eq_false]
    intro stored hstored hsame
    obtain ⟨entry, hentry, rfl⟩ := List.mem_map.mp (h.courses_perm.mem_iff.mp hstored)
    have hkeys := hbuildable.keys_distinct
    rw [withCourses, List.map_append, List.map_cons, List.nodup_append] at hkeys
    exact hkeys.2.2 _ (List.mem_map_of_mem hentry) _ List.mem_cons_self (Course.beq_iff.mp hsame)
  · rwa [h.config_eq]
  · rwa [h.config_eq]
  · rw [withCourses, List.length_append, List.length_cons] at hcount
    omega

/-- A course that is not in the catalog has no roster yet. -/
theorem Yields.rosters_none (h : plan.Yields view)
    (hnew : view.courses.any (· == course) = false) : view.rosters course.key = none := by
  rw [Option.eq_none_iff_forall_ne_some]
  intro roster hroster
  obtain ⟨entry, hentry, hkey, -⟩ := (h.rosters _ _).mp hroster
  have hmem := h.courses_perm.mem_iff.mpr (List.mem_map_of_mem hentry)
  exact List.any_eq_false.mp hnew entry.1 hmem (Course.beq_iff.mpr hkey)

theorem Yields.withCourse (h : plan.Yields view) (hadd : view.CanAdd course cap) :
    (plan.withCourses [(course, cap)]).Yields (view.withCourse course cap) where
  config_eq := h.config_eq
  audit_eq := h.audit_eq
  ascending := by
    refine h.ascending.insertIdx_placeIn ?_
    intro stored hstored hequal
    exact List.any_eq_false.mp hadd.new stored hstored (Std.compare_eq_iff_beq.mp hequal)
  courses_perm := by
    have hinsert : (view.withCourse course cap).courses.Perm (course :: view.courses) :=
      List.perm_insertIdx _ _ (SortedList.placeIn_le _ _)
    have happend : (plan.courses.map Prod.fst ++ [course]).Perm
        (course :: plan.courses.map Prod.fst) := List.perm_append_singleton _ _
    rw [withCourses, List.map_append]
    exact hinsert.trans ((h.courses_perm.cons course).trans happend.symm)
  rosters := by
    have hupdate := h.rosters.update (course, cap) (h.rosters_none hadd.new)
    simp only [RegistrarView.withCourse, h.config_eq, h.audit_eq]
    exact hupdate
  students := h.students

theorem Ready.withCourse (h : plan.Ready) (hyields : plan.Yields view)
    (hadd : view.CanAdd course cap) : (plan.withCourses [(course, cap)]).Ready := by
  obtain ⟨hbuildable, hcount⟩ := h
  have hlength := hyields.courses_perm.length_eq
  rw [List.length_map] at hlength
  have hne := hyields.rosters.key_ne (course, cap) (hyields.rosters_none hadd.new)
  obtain ⟨hvalid, -, hmin, hmax, hroom⟩ := hadd
  rw [hyields.config_eq] at hmin hmax
  refine ⟨⟨hbuildable.config_valid, ?_, ?_, ?_, hbuildable.credits_mem, hbuildable.ids_distinct⟩,
    ?_⟩
  · simpa [withCourses, or_imp, forall_and, hvalid] using hbuildable.course_valid
  · simpa [withCourses, or_imp, forall_and, hmin, hmax] using hbuildable.cap_mem
  · exact nodup_map_append_singleton hbuildable.keys_distinct hne
  · rw [withCourses, List.length_append, List.length_singleton]
    omega

/-- Courses are added to what a plan yields so far, unless one of them may not stand. -/
theorem addCourses_cases (h : Stands view registrar) (hready : plan.Ready)
    (hyields : plan.Yields view) (courses : List (Course × Nat)) :
    (¬ (plan.withCourses courses).Ready ∧
      ∃ e, (addCourses courses registrar).result = .error e) ∨
    (plan.withCourses courses).Ready ∧ (addCourses courses registrar).result = .ok () ∧
      ∃ after, (plan.withCourses courses).Yields after ∧
        Stands after (addCourses courses registrar).state := by
  induction courses generalizing plan view registrar with
  | nil =>
    have hplan : plan.withCourses [] = plan := by simp [withCourses]
    rw [hplan]
    exact .inr ⟨hready, rfl, view, hyields, h⟩
  | cons entry rest ih =>
    obtain ⟨course, cap⟩ := entry
    obtain ⟨e, heard, hnot, hcall⟩ | ⟨hadd, hcall⟩ := h.addCourse_cases course cap
    · exact .inl ⟨fun hwhole => hnot (hyields.canAdd hwhole), e,
        Call.bind_result_error hcall.result fun _ => addCourses rest⟩
    · obtain ⟨hresult, hstate⟩ := Call.bind_result_ok hcall.result fun _ => addCourses rest
      rw [withCourses_cons, addCourses, hresult, hstate]
      exact ih hcall.state (hready.withCourse hyields hadd) (hyields.withCourse hadd)

end Courses

section Students

variable {id : String} {maxCredits : UInt32} {rest : List (String × UInt32)}

/-- A student of a plan may come on file after those that stand before. -/
theorem Yields.canRegister (h : plan.Yields view)
    (hready : (plan.withStudents ((id, maxCredits) :: rest)).Ready) :
    view.CanRegister id maxCredits := by
  obtain ⟨hbuildable, -⟩ := hready
  have hmem : (id, maxCredits) ∈ (plan.withStudents ((id, maxCredits) :: rest)).students :=
    List.mem_append_right _ List.mem_cons_self
  obtain ⟨hmin, hmax⟩ := hbuildable.credits_mem _ hmem
  refine ⟨by rwa [h.config_eq], by rwa [h.config_eq], ?_⟩
  rw [Option.eq_none_iff_forall_ne_some]
  intro record hrecord
  obtain ⟨entry, hentry, hid, -⟩ := (h.students _ _).mp hrecord
  have hids := hbuildable.ids_distinct
  rw [withStudents, List.map_append, List.map_cons, List.nodup_append] at hids
  exact hids.2.2 _ (List.mem_map_of_mem hentry) _ List.mem_cons_self hid

theorem Yields.withStudent (h : plan.Yields view) (hregister : view.CanRegister id maxCredits) :
    (plan.withStudents [(id, maxCredits)]).Yields
      (view.withRecord id ⟨⟨id, maxCredits⟩, Schedule.defaultTitle, []⟩) where
  config_eq := h.config_eq
  audit_eq := h.audit_eq
  ascending := h.ascending
  courses_perm := h.courses_perm
  rosters := h.rosters
  students := h.students.update (id, maxCredits) hregister.new

theorem Ready.withStudent (h : plan.Ready) (hyields : plan.Yields view)
    (hregister : view.CanRegister id maxCredits) :
    (plan.withStudents [(id, maxCredits)]).Ready := by
  obtain ⟨hbuildable, hcount⟩ := h
  have hne := hyields.students.key_ne (id, maxCredits) hregister.new
  obtain ⟨hmin, hmax, -⟩ := hregister
  rw [hyields.config_eq] at hmin hmax
  refine ⟨⟨hbuildable.config_valid, hbuildable.course_valid, hbuildable.cap_mem,
    hbuildable.keys_distinct, ?_, ?_⟩, hcount⟩
  · simpa [withStudents, or_imp, forall_and, hmin, hmax] using hbuildable.credits_mem
  · exact nodup_map_append_singleton hbuildable.ids_distinct hne

theorem addStudents_cases (h : Stands view registrar) (hready : plan.Ready)
    (hyields : plan.Yields view) (students : List (String × UInt32)) :
    (¬ (plan.withStudents students).Ready ∧
      ∃ e, (addStudents students registrar).result = .error e) ∨
    (plan.withStudents students).Ready ∧ (addStudents students registrar).result = .ok () ∧
      ∃ after, (plan.withStudents students).Yields after ∧
        Stands after (addStudents students registrar).state := by
  induction students generalizing plan view registrar with
  | nil =>
    have hplan : plan.withStudents [] = plan := by simp [withStudents]
    rw [hplan]
    exact .inr ⟨hready, rfl, view, hyields, h⟩
  | cons entry rest ih =>
    obtain ⟨id, maxCredits⟩ := entry
    obtain ⟨e, hnot, hcall⟩ | ⟨hregister, hcall⟩ := h.addStudent_cases id maxCredits
    · exact .inl ⟨fun hwhole => hnot (hyields.canRegister hwhole), e,
        Call.bind_result_error hcall.result fun _ => addStudents rest⟩
    · obtain ⟨hresult, hstate⟩ := Call.bind_result_ok hcall.result fun _ => addStudents rest
      rw [withStudents_cons, addStudents, hresult, hstate]
      exact ih hcall.state (hready.withStudent hyields hregister) (hyields.withStudent hregister)

end Students

theorem ready_opened {config : RegistrarConfig} (hvalid : config.validate = .ok ())
    (audit : Option AuditSink) : Ready ⟨config, audit, [], []⟩ where
  buildable := ⟨hvalid, List.forall_mem_nil _, List.forall_mem_nil _, List.Pairwise.nil,
    List.forall_mem_nil _, List.Pairwise.nil⟩
  count_le := Nat.zero_le _

theorem yields_opened (config : RegistrarConfig) (audit : Option AuditSink) :
    Yields ⟨config, audit, [], []⟩ (RegistrarView.opened config audit) :=
  ⟨rfl, rfl, List.Pairwise.nil, .nil, tabulates_nil _ _, tabulates_nil _ _⟩

theorem Ready.without_students {config : RegistrarConfig} {audit : Option AuditSink}
    {courses : List (Course × Nat)} {students : List (String × UInt32)}
    (h : Ready ⟨config, audit, courses, students⟩) : Ready ⟨config, audit, courses, []⟩ where
  buildable :=
    { h.buildable with
      credits_mem := List.forall_mem_nil _
      ids_distinct := List.Pairwise.nil }
  count_le := h.count_le

/-- An empty registrar is filled as planned if the plan is ready, and else refuses. -/
theorem fill_cases (h : Stands (RegistrarView.opened plan.config plan.audit) registrar)
    (hvalid : plan.config.validate = .ok ()) :
    (¬ plan.Ready ∧ ∃ e, (plan.fill registrar).result = .error e) ∨
    plan.Ready ∧ (plan.fill registrar).result = .ok () ∧
      ∃ view, plan.Yields view ∧ Stands view (plan.fill registrar).state := by
  obtain ⟨config, audit, courses, students⟩ := plan
  rw [fill]
  obtain ⟨hnot, e, hcourses⟩ | ⟨hready, hcourses, view, hyields, hview⟩ :=
    addCourses_cases h (ready_opened hvalid audit) (yields_opened config audit) courses
  · exact .inl ⟨fun hready => hnot hready.without_students, e,
      Call.bind_result_error hcourses _⟩
  · obtain ⟨hresult, hstate⟩ := Call.bind_result_ok hcourses _
    rw [hresult, hstate]
    obtain ⟨hnot, e, hstudents⟩ | ⟨hready, hstudents, after, hyields, hafter⟩ :=
      addStudents_cases hview hready hyields students
    · exact .inl ⟨hnot, e, Call.bind_result_error hstudents _⟩
    · obtain ⟨hresult, hstate⟩ := Call.bind_result_ok hstudents _
      rw [hresult, hstate]
      exact .inr ⟨hready, rfl, after, hyields, hafter⟩

theorem addCourse_keeps_students (course : Course) (cap : Nat) :
    Call.Keeps Registrar.students (Registrar.addCourse course cap) := by
  refine Call.Keeps.current_bind fun registrar => (Call.Keeps.ofExcept _).bind fun _ => ?_
  refine Call.Keeps.ite (Call.Keeps.refuse _) ((Call.Keeps.ofExcept _).bind fun roster => ?_)
  exact Call.Keeps.bind (fun _ => rfl) fun _ => Call.Keeps.bind (fun _ => rfl) fun _ _ => rfl

theorem addCourses_keeps_students (courses : List (Course × Nat)) :
    Call.Keeps Registrar.students (addCourses courses) := by
  induction courses with
  | nil => exact Call.Keeps.pure ()
  | cons entry rest ih => exact (addCourse_keeps_students entry.1 entry.2).bind fun _ => ih

theorem studentCount_of_addStudent {id : String} {maxCredits : UInt32} {student : Student}
    (h : (Registrar.addStudent id maxCredits registrar).result = .ok student) :
    (Registrar.addStudent id maxCredits registrar).state.studentCount =
      registrar.studentCount + 1 := by
  rw [Registrar.addStudent, Call.current_bind] at h ⊢
  split at h
  · cases h
  rename_i hcredits
  split at h
  · cases h
  rename_i hnew
  have hnone : registrar.students.find? id = none := by simpa [Directory.contains] using hnew
  simp [hcredits, hnew, Registrar.studentCount, Directory.size_put hnone]

theorem studentCount_of_addStudents {students : List (String × UInt32)}
    (h : (addStudents students registrar).result = .ok ()) :
    (addStudents students registrar).state.studentCount =
      registrar.studentCount + students.length := by
  induction students generalizing registrar with
  | nil => rfl
  | cons entry rest ih =>
    obtain ⟨_, hfirst, hrest, hstate⟩ := Call.of_bind_result_eq_ok h
    rw [addStudents, hstate, ih hrest, studentCount_of_addStudent hfirst, List.length_cons]
    omega

/-- Every student of a plan is counted. -/
theorem studentCount_of_fill (h : (plan.fill registrar).result = .ok ()) :
    (plan.fill registrar).state.studentCount =
      registrar.studentCount + plan.students.length := by
  obtain ⟨_, hcourses, hrest, hstate⟩ := Call.of_bind_result_eq_ok h
  obtain ⟨_, hstudents, -, hstate'⟩ := Call.of_bind_result_eq_ok hrest
  have hkept : (addCourses plan.courses registrar).state.studentCount = registrar.studentCount :=
    congrArg Directory.size (addCourses_keeps_students plan.courses registrar)
  rw [← hkept, ← studentCount_of_addStudents hstudents]
  exact congrArg Registrar.studentCount (hstate.trans hstate')

/-- A plan is built if it is ready, and else refused. -/
theorem build_cases (plan : RegistrarPlan) :
    (¬ plan.Ready ∧ ∃ e, plan.build = .error e) ∨
    plan.Ready ∧ ∃ built, plan.build = .ok built ∧ plan.Yields built.view ∧
      built.courseCount = plan.courses.length ∧ built.studentCount = plan.students.length := by
  cases hmake : Registrar.make plan.config plan.audit with
  | error e =>
    refine .inl ⟨?_, e, by rw [build, hmake]; rfl⟩
    intro hready
    have hvalid := hready.buildable.config_valid
    rw [Registrar.make, hvalid] at hmake
    cases hmake
  | ok opened =>
    obtain ⟨_, hcheck, hopened⟩ := bind_eq_ok_iff.mp hmake
    cases hopened
    obtain ⟨hnot, e, hfill⟩ | ⟨hready, hfill, view, hyields, hview⟩ :=
      fill_cases (Stands.of_make hmake) (mapError_eq_ok_iff.mp hcheck)
    · exact .inl ⟨hnot, e, by simp only [build, hmake, ok_bind, hfill]; rfl⟩
    · refine .inr ⟨hready, _, by simp only [build, hmake, ok_bind, hfill]; rfl, ?_, ?_, ?_⟩
      · rwa [hview.view_eq]
      · have hlength := hyields.courses_perm.length_eq
        rw [List.length_map] at hlength
        rw [Registrar.courseCount, hview.catalog.length_eq, hlength]
      · rw [studentCount_of_fill hfill]
        exact Nat.zero_add _

/-- A plan with no more courses than can be counted is built if and only if each of its entries may
stand and no two are of one key; what is built is what the plan has, and nothing else; and the order
in which the plan has it does not show. -/
theorem build_reordered :
    (∀ plan : RegistrarPlan, (∃ built, plan.build = .ok built) ↔
      plan.Buildable ∧ plan.courses.length ≤ Bounds.count) ∧
    (∀ (plan : RegistrarPlan) (built : Registrar), plan.build = .ok built →
      plan.Yields built.view ∧ built.courseCount = plan.courses.length ∧
        built.studentCount = plan.students.length) ∧
    ∀ (plan other : RegistrarPlan) (built : Registrar), plan.build = .ok built →
      plan.Reorders other →
      ∃ same, other.build = .ok same ∧ same.view = built.view ∧
        same.courseCount = built.courseCount ∧ same.studentCount = built.studentCount := by
  have hbuilt : ∀ (plan : RegistrarPlan) (built : Registrar), plan.build = .ok built →
      plan.Ready ∧ plan.Yields built.view ∧ built.courseCount = plan.courses.length ∧
        built.studentCount = plan.students.length := by
    intro plan built hbuild
    obtain ⟨-, e, hrefused⟩ | ⟨hready, found, hfound, hyields⟩ := plan.build_cases
    · rw [hrefused] at hbuild
      cases hbuild
    · rw [hfound] at hbuild
      cases hbuild
      exact ⟨hready, hyields⟩
  refine ⟨?_, fun plan built hbuild => (hbuilt plan built hbuild).2, ?_⟩
  · intro plan
    constructor
    · intro ⟨built, hbuild⟩
      obtain ⟨hbuildable, hcount⟩ := (hbuilt plan built hbuild).1
      exact ⟨hbuildable, hcount⟩
    · intro ⟨hbuildable, hcount⟩
      obtain ⟨hnot, -⟩ | ⟨-, built, hbuild, -⟩ := plan.build_cases
      · exact absurd ⟨hbuildable, hcount⟩ hnot
      · exact ⟨built, hbuild⟩
  · intro plan other built hbuild hreorders
    obtain ⟨hready, hyields, hcourses, hstudents⟩ := hbuilt plan built hbuild
    have hready' : other.Ready := hreorders.ready hready
    obtain ⟨hnot, -⟩ | ⟨-, same, hsame, hyields', hcourses', hstudents'⟩ := other.build_cases
    · exact absurd hready' hnot
    · refine ⟨same, hsame, hreorders.view_eq hyields hyields', ?_, ?_⟩
      · rw [hcourses, hcourses', hreorders.courses_perm.length_eq]
      · rw [hstudents, hstudents', hreorders.students_perm.length_eq]

/-- Two courses and two students come in either order; one course for another of the same section is
not taken. -/
theorem build_reordered_pairs :
    let algebra : Course := ⟨"Algebra", "Algebra", "001", 3, none, .arranged⟩
    let logic : Course := ⟨"Logic", "Logic", "002", 3, none, .arranged⟩
    let plan : RegistrarPlan :=
      ⟨⟨⟨1, 2, 1⟩, 3, 18⟩, none, [(logic, 2), (algebra, 1)], [("bob", 9), ("ada", 18)]⟩
    let other : RegistrarPlan :=
      { plan with courses := [(algebra, 1), (logic, 2)], students := [("ada", 18), ("bob", 9)] }
    let doubled := plan.withCourses [({ logic with title := "Sets" }, 1)]
    ∃ built same, plan.build = .ok built ∧ other.build = .ok same ∧ same.view = built.view ∧
      built.view.courses = [algebra, logic] ∧ built.studentCount = 2 ∧
      ∀ refused, doubled.build ≠ .ok refused := by
  intro algebra logic plan other doubled
  obtain ⟨hiff, hyields, hreordered⟩ := build_reordered
  have hbuildable : plan.Buildable := by
    constructor <;> decide +kernel
  have hreorders : plan.Reorders other := ⟨rfl, rfl, .swap _ _ _, .swap _ _ _⟩
  obtain ⟨built, hbuild⟩ := (hiff plan).mpr ⟨hbuildable, by decide⟩
  obtain ⟨same, hsame, hview, -⟩ := hreordered plan other built hbuild hreorders
  obtain ⟨hshown, -, hcount⟩ := hyields plan built hbuild
  have hcourses : built.view.courses = [algebra, logic] := by
    have hlt : compare algebra logic = .lt := by decide +kernel
    exact hshown.ascending.eq_of_perm (by simpa [SortedList.Ascending] using hlt)
      (hshown.courses_perm.trans (.swap _ _ _))
  refine ⟨built, same, hbuild, hsame, hview, hcourses, hcount, ?_⟩
  intro refused hrefused
  obtain ⟨hdoubled, -⟩ := (hiff doubled).mp ⟨refused, hrefused⟩
  exact absurd hdoubled.keys_distinct (by decide)

end RegistrarPlan

end Enrollment
