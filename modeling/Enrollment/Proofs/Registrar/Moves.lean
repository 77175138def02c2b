import Enrollment.Proofs.Registrar.Changes
import Enrollment.Proofs.Roster.Invariant

/-!
What each call on a registrar does where everything fits: it is refused and changes nothing, or it
is answered, and what shows after it is said in terms of what showed before it.
-/
namespace Enrollment

namespace Registrar

def lists (registrar : Registrar) (student : Student) (course : Course) : Bool :=
  match registrar.rosters.find? course.key with
  | none => false
  | some roster => roster.isEnrolled student || roster.isWaitlisted student

section Lists

variable {registrar : Registrar} {student : Student}

theorem exists_of_lists {course : Course} (h : registrar.lists student course = true) :
    ∃ roster, registrar.rosters.find? course.key = some roster ∧
      (roster.isEnrolled student || roster.isWaitlisted student) = true := by
  rw [lists] at h
  split at h
  · cases h
  · exact ⟨_, ‹_›, h⟩

theorem leaveAll_of_lists {course : Course} (h : registrar.lists student course = true)
    (rest : List Course) :
    leaveAll student (course :: rest) registrar = (do
      let outcome ← onRoster course.name course.sectionCode
        (Roster.drop Students.attach (some student))
      let left ← leaveAll student rest
      return (course, outcome) :: left) registrar := by
  obtain ⟨roster, hfound, hon⟩ := exists_of_lists h
  simp only [leaveAll, Call.current_bind, hfound, hon, if_true]

theorem leaveAll_of_not_lists {course : Course} (h : registrar.lists student course = false)
    (rest : List Course) :
    leaveAll student (course :: rest) registrar = leaveAll student rest registrar := by
  rw [lists] at h
  cases hfound : registrar.rosters.find? course.key with
  | none => simp only [leaveAll, Call.current_bind, hfound]
  | some roster =>
    rw [hfound] at h
    simp only [leaveAll, Call.current_bind, hfound, h, Bool.false_eq_true, if_false]

end Lists

end Registrar

namespace Registrar.Stands

variable {ε : Type} {view : RegistrarView} {registrar : Registrar}

theorem with_course (h : Stands view registrar) {course : Course} {cap : Nat}
    {catalog : SortedList Course} {roster : CourseRoster}
    (hcatalog : SortedList.Holds
      (view.courses.insertIdx (SortedList.placeIn view.courses course) course) Bounds.count catalog)
    (hroster : Roster.Stands ⟨course, view.config.roster, cap, view.audit.isSome, [], []⟩ roster) :
    Stands (view.withCourse course cap)
      { registrar with catalog, rosters := registrar.rosters.put course.key roster } :=
  ⟨h.config, hcatalog, h.rosters.put hroster course.key, h.students, h.audit⟩

theorem without_course (h : Stands view registrar) {course : Course} {leaving : List Student}
    {catalog : SortedList Course} {students : Students}
    (hcatalog : SortedList.Holds
      (view.courses.eraseP (·.isNamed course.name course.sectionCode)) Bounds.count catalog)
    (hstudents : Students.Shows (Students.without view.students course leaving) students) :
    Stands (view.withoutCourse course leaving)
      { registrar with catalog, rosters := registrar.rosters.erase course.key, students } :=
  ⟨h.config, hcatalog, h.rosters.erase course.key, hstudents, h.audit⟩

/-- A course with a sound roster goes into the catalog where there is room, and its roster under
its key. -/
theorem storeCourse_cases (h : Stands view registrar) {course : Course} {cap : Nat}
    {roster : CourseRoster} (hnew : view.courses.any (· == course) = false)
    (hroster : Roster.Stands ⟨course, view.config.roster, cap, view.audit.isSome, [], []⟩ roster) :
    let store : Call Registrar RegistrationError Unit := do
      let _ ← (onCatalog (SortedList.add (some course))).mapError RegistrationError.catalog
      let registrar ← Call.current
      Call.become { registrar with rosters := registrar.rosters.put course.key roster }
    (∃ e, Bounds.count ≤ view.courses.length ∧ store.Refuses registrar e []) ∨
    view.courses.length < Bounds.count ∧
      store.Answers registrar () (Stands (view.withCourse course cap)) [] := by
  intro store
  obtain ⟨e, hadd, hcause⟩ | ⟨-, hroom, hadd⟩ := h.catalog.add_cases course
  · have hrefused : (onCatalog (SortedList.add (some course))).Refuses registrar e [] :=
      hadd.within rfl
    refine .inl ⟨_, ?_, (hrefused.mapError _).bind _⟩
    obtain hany | hfull := hcause
    · rw [hnew] at hany
      cases hany
    · exact hfull
  · have hstored : (onCatalog (SortedList.add (some course))).Answers registrar _
        (fun stored => ∃ catalog, stored = { registrar with catalog } ∧
          SortedList.Holds _ Bounds.count catalog) [] :=
      hadd.within fun catalog hcatalog => ⟨catalog, rfl, hcatalog⟩
    refine .inr ⟨hroom, Call.Answers.quiet_bind (hstored.mapError _) ?_⟩
    intro stored hstored
    obtain ⟨catalog, rfl, hcatalog⟩ := hstored
    exact Call.Answers.of_eq rfl (h.with_course hcatalog hroster) rfl

/-- The checks in front of a course: one of them refuses, or there is a roster for the course. -/
theorem addCourse_checks (h : Stands view registrar) (course : Course) (cap : Nat) :
    (∃ e, ¬ view.CanAdd course cap ∧ (addCourse course cap).Refuses registrar e []) ∨
    ∃ roster, (view.courses.length < Bounds.count → view.CanAdd course cap) ∧
      view.courses.any (· == course) = false ∧
      Roster.Stands ⟨course, view.config.roster, cap, view.audit.isSome, [], []⟩ roster ∧
      addCourse course cap registrar = (do
        Call.log .info "course added"
          [("course", .text course.describe), ("enrollment_cap", .count cap)]
        let _ ← (onCatalog (SortedList.add (some course))).mapError RegistrationError.catalog
        let registrar ← Call.current
        Call.become { registrar with rosters := registrar.rosters.put course.key roster } :
          Call Registrar RegistrationError Unit) registrar := by
  have hcontains := h.catalog.contains_eq course
  cases hvalid : course.validate with
  | error e =>
    refine .inl ⟨e, ?_, Call.Refuses.current_bind (Call.Refuses.ofExcept_error hvalid _)⟩
    intro hadd
    rw [hadd.valid] at hvalid
    cases hvalid
  | ok =>
    cases hnew : view.courses.any (· == course) with
    | true =>
      rw [hnew] at hcontains
      have hcall : addCourse course cap registrar =
          ⟨.error (.duplicateCourse course.name course.sectionCode), registrar, []⟩ := by
        simp [addCourse, hvalid, hcontains]
      refine .inl ⟨_, ?_, Call.Refuses.of_eq hcall rfl⟩
      intro hadd
      rw [hadd.new] at hnew
      cases hnew
    | false =>
      rw [hnew] at hcontains
      obtain ⟨hcap, hmake⟩ | ⟨roster, hmin, hmax, hmake, hroster⟩ :=
        Roster.make_cases (S := ChainList Student) (T := ChainList Student) course cap
          view.config.roster view.audit.isSome
      · have hcall : addCourse course cap registrar =
            ⟨.error (.roster (.invalidCapacity cap view.config.roster.minCap
              view.config.roster.maxCap 0)), registrar, []⟩ := by
          simp [addCourse, hvalid, hcontains, h.config, h.audit, hmake, Except.mapError]
        refine .inl ⟨_, ?_, Call.Refuses.of_eq hcall rfl⟩
        intro hadd
        have hmin := hadd.minCap_le
        have hmax := hadd.le_maxCap
        omega
      · refine .inr ⟨roster, fun hroom => ⟨hvalid, hnew, hmin, hmax, hroom⟩, rfl, hroster, ?_⟩
        simp [addCourse, hvalid, hcontains, h.config, h.audit, hmake, Except.mapError]

theorem addCourse_cases (h : Stands view registrar) (course : Course) (cap : Nat) :
    (∃ e heard, ¬ view.CanAdd course cap ∧ (addCourse course cap).Refuses registrar e heard) ∨
    view.CanAdd course cap ∧ (addCourse course cap).Answers registrar ()
      (Stands (view.withCourse course cap))
      [.log ⟨.info, "course added",
        [("course", .text course.describe), ("enrollment_cap", .count cap)]⟩] := by
  obtain ⟨e, hnot, hcall⟩ | ⟨roster, hcan, hnew, hroster, hcall⟩ := h.addCourse_checks course cap
  · exact .inl ⟨e, [], hnot, hcall⟩
  · have hlog : (Call.log .info "course added"
        [("course", .text course.describe), ("enrollment_cap", .count cap)] :
        Call Registrar RegistrationError Unit).Answers registrar ()
        (fun logged => logged = registrar) [.log ⟨.info, "course added",
          [("course", .text course.describe), ("enrollment_cap", .count cap)]⟩] :=
      Call.Answers.log (by decide) _ _ rfl
    obtain ⟨e, hfull, hstore⟩ | ⟨hroom, hstore⟩ := h.storeCourse_cases hnew hroster
    · refine .inl ⟨_, _, ?_, (Call.Refuses.bind_second hlog hstore).congr hcall⟩
      intro hadd
      have hroom := hadd.room
      omega
    · refine .inr ⟨hcan hroom, Call.Answers.congr (hlog.bind_quiet ?_) hcall⟩
      intro logged hlogged
      rw [hlogged]
      exact hstore

theorem addStudent_cases (h : Stands view registrar) (id : String) (maxCredits : UInt32) :
    (∃ e, ¬ view.CanRegister id maxCredits ∧ (addStudent id maxCredits).Refuses registrar e []) ∨
    view.CanRegister id maxCredits ∧ (addStudent id maxCredits).Answers registrar ⟨id, maxCredits⟩
      (Stands (view.withRecord id ⟨⟨id, maxCredits⟩, Schedule.defaultTitle, []⟩))
      [.log ⟨.debug, "student added",
        [("student", .text id), ("max_credits", .count maxCredits.toNat)]⟩] := by
  by_cases hcredits : maxCredits < view.config.minStudentCredits ∨
      view.config.maxStudentCredits < maxCredits
  · have hcall : addStudent id maxCredits registrar =
        ⟨.error (.invalidCredits maxCredits view.config.minStudentCredits
          view.config.maxStudentCredits), registrar, []⟩ := by
      simp [addStudent, h.config, hcredits]
    refine .inl ⟨_, ?_, Call.Refuses.of_eq hcall rfl⟩
    intro ⟨hmin, hmax, _⟩
    exact hcredits.elim (UInt32.not_lt.mpr hmin) (UInt32.not_lt.mpr hmax)
  · obtain ⟨hmin, hmax⟩ := not_or.mp hcredits
    cases hseen : view.students id with
    | some shown =>
      obtain ⟨record, hfound, -⟩ := h.students.exists_record hseen
      have hcall : addStudent id maxCredits registrar =
          ⟨.error (.duplicateStudent id), registrar, []⟩ := by
        simp [addStudent, h.config, hcredits, Directory.contains, hfound]
      refine .inl ⟨_, ?_, Call.Refuses.of_eq hcall rfl⟩
      intro hregister
      rw [hregister.new] at hseen
      cases hseen
    | none =>
      have hfound := h.students.find?_eq_none_iff.mpr hseen
      have hcall : addStudent id maxCredits registrar =
          ⟨.ok ⟨id, maxCredits⟩, { registrar with
            students := registrar.students.put id (StudentRecord.new ⟨id, maxCredits⟩) },
            [.log ⟨.debug, "student added",
              [("student", .text id), ("max_credits", .count maxCredits.toNat)]⟩]⟩ := by
        simp [addStudent, h.config, hcredits, Directory.contains, hfound]
      have hrecord := @StudentRecord.shows_of_schedule _ ⟨id, maxCredits⟩ _ _ Schedule.shows_empty
      exact .inr ⟨⟨UInt32.not_lt.mp hmin, UInt32.not_lt.mp hmax, hseen⟩,
        Call.Answers.of_eq hcall (h.with_students (h.students.put hrecord)) rfl⟩

/-- A course goes off the schedules of those who have a seat in it. -/
theorem detachSeated_answers (h : Stands view registrar) (hfits : view.Fits) {course : Course}
    {shown : RosterView Course Student} (hshown : view.rosters course.key = some shown)
    {catalog : SortedList Course} (hcatalog : SortedList.Holds
      (view.courses.eraseP (·.isNamed course.name course.sectionCode)) Bounds.count catalog) :
    (onStudents (Students.detachAll course shown.enrolled) : Call Registrar ε Unit).Answers
      { registrar with catalog, rosters := registrar.rosters.erase course.key } ()
      (Stands (view.withoutCourse course shown.enrolled)) [] := by
  have hhosts := hfits.hosts _ _ hshown
  have hknown : ∀ student ∈ shown.enrolled, ∃ record, view.students student.id = some record := by
    intro student hmem
    obtain ⟨record, hrecord, -⟩ := RegistrarView.students_of_onFile
      (hhosts.known student (List.mem_append_left _ hmem))
    exact ⟨record, hrecord⟩
  have hdetach : (Students.detachAll course shown.enrolled : Call Students ε Unit).Answers
      registrar.students () _ [] :=
    h.students.detachAll_answers hknown (List.pairwise_append.mp hhosts.fits.distinct).1 course
  refine Call.Answers.within
    (P := Students.Shows (Students.without view.students course shown.enrolled)) ?_ ?_
  · exact hdetach
  · exact fun _ => h.without_course hcatalog

/-- A course goes out of the catalog and off every schedule, if there is one of the name and the
section. -/
theorem removeCourse_cases (h : Stands view registrar) (hfits : view.Fits) (name code : String) :
    (view.courses.find? (·.isNamed name code) = none ∧
      (removeCourse name code : Call Registrar ε Bool).Answers registrar false (Stands view) []) ∨
    ∃ course shown, view.courses.find? (·.isNamed name code) = some course ∧
      view.rosters course.key = some shown ∧
      (removeCourse name code : Call Registrar ε Bool).Answers registrar true
        (Stands (view.withoutCourse course shown.enrolled))
        [.log ⟨.info, "course removed", [("course", .text course.describe)]⟩] := by
  have hremove : (onCatalog (SortedList.removeWhere fun course => course.isNamed name code) :
      Call Registrar ε (Option Course)).Answers registrar
      (view.courses.find? (·.isNamed name code))
      (fun left => ∃ catalog, left = { registrar with catalog } ∧ SortedList.Holds
        (view.courses.eraseP (·.isNamed name code)) Bounds.count catalog) [] :=
    (h.catalog.removeWhere_answers _).within fun catalog hcatalog => ⟨catalog, rfl, hcatalog⟩
  cases hcourse : view.courses.find? (·.isNamed name code) with
  | none =>
    rw [hcourse, List.eraseP_of_forall_not (List.find?_eq_none.mp hcourse)] at hremove
    refine .inl ⟨rfl, Call.Answers.quiet_bind hremove ?_⟩
    intro stored hstored
    obtain ⟨catalog, rfl, hcatalog⟩ := hstored
    exact Call.Answers.pure ⟨h.config, hcatalog, h.rosters, h.students, h.audit⟩
  | some course =>
    rw [hcourse] at hremove
    cases RegistrarView.key_of_find? hcourse
    obtain ⟨shown, hshown⟩ := hfits.rostered course (List.mem_of_find?_eq_some hcourse)
    obtain ⟨roster, hfound, hroster⟩ := h.rosters.exists_roster hshown
    have henrolled : roster.enrolled = shown.enrolled := hroster.seats.items
    refine .inr ⟨course, shown, rfl, hshown, Call.Answers.quiet_bind hremove ?_⟩
    intro stored hstored
    obtain ⟨catalog, rfl, hcatalog⟩ := hstored
    apply Call.Answers.current_bind
    simp only [show registrar.rosters.find? (course.name, course.sectionCode) = some roster from
      hfound, henrolled]
    refine Call.Answers.become_bind
      (Call.Answers.quiet_bind (h.detachSeated_answers hfits hshown hcatalog) ?_)
    intro left hleft
    exact (Call.Answers.log (by decide) _ _ hleft).bind_quiet fun _ ht => Call.Answers.pure ht

theorem setEnrollmentCap_cases (h : Stands view registrar) (name code : String) (cap : Nat) :
    (∃ e heard, (setEnrollmentCap name code cap).Refuses registrar e heard) ∨
    ∃ shown, view.rosters (name, code) = some shown ∧ shown.limits.minCap ≤ cap ∧
      cap ≤ shown.limits.maxCap ∧ shown.enrolled.length ≤ cap ∧
      (setEnrollmentCap name code cap).Answers registrar ()
        (Stands (view.withRoster (name, code) { shown with enrollmentCap := cap }
          (shown.line .info "enrollment cap changed" [("cap", .count cap)])))
        (shown.line .info "enrollment cap changed" [("cap", .count cap)]) := by
  cases hshown : view.rosters (name, code) with
  | none =>
    have hcall : setEnrollmentCap name code cap registrar =
        ⟨.error (.unknownCourse name code), registrar, []⟩ := by
      rw [setEnrollmentCap, onRoster, h.roster_unknown hshown]
    exact .inl ⟨_, _, Call.Refuses.of_eq hcall rfl⟩
  | some shown =>
    obtain ⟨roster, hfound, hroster⟩ := h.rosters.exists_roster hshown
    obtain ⟨-, hcall⟩ | ⟨hmin, hmax, henrolled, hcall⟩ := hroster.setEnrollmentCap_cases cap
    · exact .inl ⟨_, _, onRoster_refuses hfound (Call.onFirst_of_eq hcall _) rfl⟩
    · exact .inr ⟨shown, rfl, hmin, hmax, henrolled,
        h.onRoster_answers hfound h.students (hcall.onFirst _)⟩

/-- A seat is taken, and the course goes on the schedule if the schedule is not full. -/
theorem enter_seated (hfits : view.Fits) {name code : String}
    {shown : RosterView Course Student} {record : RecordView} {taken : List Notice}
    (hshown : view.rosters (name, code) = some shown)
    (hrecord : view.students record.student.id = some record) (hadmits : record.Admits shown.course)
    (hseat : (onRoster name code (Call.onFirst (Roster.enroll (some record.student)))).Answers
      registrar .enrolled (Stands (view.withRoster (name, code)
        (shown.filled (shown.enrolled ++ [record.student]) shown.waitlisted) taken)) taken) :
    (enter name code record.student shown.course).Answers registrar .enrolled
      (Stands ((view.withRoster (name, code)
        (shown.filled (shown.enrolled ++ [record.student]) shown.waitlisted) taken).withRecord
          record.student.id { record with items := record.items ++ [shown.course] }))
      (taken ++ [.log ⟨.debug, "added to schedule", [("item", .text shown.course.name)]⟩]) ∨
    view.Overfull ∧
      (∃ e, (enter name code record.student shown.course registrar).result = .error e) ∧
      Stands (view.withRoster (name, code)
        (shown.filled (shown.enrolled ++ [record.student]) shown.waitlisted) taken)
        (enter name code record.student shown.course registrar).state := by
  obtain ⟨seated, hseated, hthere⟩ := hseat.exists_state
  obtain ⟨e, heard, hattach, -, hcause⟩ | ⟨-, hattach⟩ :=
    hseated.students.attach_cases hrecord shown.course
  · have hle := hcause.resolve_left fun hnot => hnot hadmits
    have hover : view.Overfull :=
      ⟨_, record, shown.course, hrecord, (hfits.hosts _ _ hshown).course_mem, hadmits, hle⟩
    -- The roster has given the seat by now, and the refusal does not take it back.
    have hschedule : (onStudents (Students.attach record.student shown.course)).Refuses seated
        e heard := hattach.within rfl
    obtain ⟨hresult, hstate⟩ : (enter name code record.student shown.course registrar).result =
        .error (.schedule e) ∧
        (enter name code record.student shown.course registrar).state = seated := by
      obtain ⟨_, _, heq, rfl, -⟩ := hthere.reply
      rw [enter, Call.bind_of_ok heq, Reply.after_result, Reply.after_state]
      have hrefused := (hschedule.mapError RegistrationError.schedule).bind
        fun _ => pure EnrollmentStatus.enrolled
      exact ⟨hrefused.result, hrefused.state⟩
    rw [hstate]
    exact .inr ⟨hover, ⟨_, hresult⟩, hseated⟩
  · refine .inl (hthere.bind ?_)
    intro left hleft
    rw [hleft]
    exact ((hseated.onStudents_answers hattach).mapError _).map fun _ => EnrollmentStatus.enrolled

/-- The checks in front of an enrollment: one of them refuses, or the student may enter. -/
theorem enroll_checks (h : Stands view registrar) {id name code : String} {record : StudentRecord}
    {shown : RosterView Course Student} (hrecord : registrar.record id = .ok record)
    (hseen : view.students id = some record.view)
    (hcourse : registrar.course name code = .ok shown.course)
    (hshown : view.rosters (name, code) = some shown) :
    (∃ e heard, view.Bars id name code e ∧ (enroll id name code).Refuses registrar e heard) ∨
    (shown.enrolled ++ shown.waitlisted).any (· == record.student) = false ∧
      record.view.Admits shown.course ∧
      enroll id name code registrar = enter name code record.student shown.course registrar := by
  obtain ⟨roster, hfound, hstands⟩ := h.rosters.exists_roster hshown
  have hroster := roster_of_find? hfound
  have hseated := hstands.isEnrolled_eq record.student
  have hwaiting := hstands.isWaitlisted_eq record.student
  cases henrolled : shown.enrolled.any (· == record.student) with
  | true =>
    rw [henrolled] at hseated
    have hcall : enroll id name code registrar =
        ⟨.error (.roster .alreadyEnrolled), registrar, []⟩ := by
      simp [enroll, hrecord, hcourse, hroster, hseated]
    exact .inl ⟨_, _, .alreadyEnrolled hseen hshown henrolled, Call.Refuses.of_eq hcall rfl⟩
  | false =>
    rw [henrolled] at hseated
    cases hwaitlisted : shown.waitlisted.any (· == record.student) with
    | true =>
      rw [hwaitlisted] at hwaiting
      have hcall : enroll id name code registrar =
          ⟨.error (.roster .alreadyWaitlisted), registrar, []⟩ := by
        simp [enroll, hrecord, hcourse, hroster, hseated, hwaiting]
      exact .inl ⟨_, _, .alreadyWaitlisted hseen hshown henrolled hwaitlisted,
        Call.Refuses.of_eq hcall rfl⟩
    | false =>
      rw [hwaitlisted] at hwaiting
      have hany : (shown.enrolled ++ shown.waitlisted).any (· == record.student) = false := by
        rw [List.any_append, henrolled, hwaitlisted]
        rfl
      obtain ⟨misfit, hrejects, hcheck⟩ | ⟨hoverflows, hcheck⟩ | ⟨hadmits, hcheck⟩ :=
        record.checkCanAdd_cases shown.course
      · have hcall : enroll id name code registrar =
            ⟨.error (.cannotAdd misfit), registrar, [.log ⟨.debug,
              s!"enrollment refused: {(RegistrationError.cannotAdd misfit).message}",
              [("student", .text id), ("course", .text shown.course.describe)]⟩]⟩ := by
          simp [enroll, hrecord, hcourse, hroster, hseated, hwaiting, hcheck]
        exact .inl ⟨_, _, .cannotAdd hseen hshown hany hrejects, Call.Refuses.of_eq hcall rfl⟩
      · have hcall : enroll id name code registrar = ⟨.error .overflow, registrar, [.panic]⟩ := by
          simp [enroll, hrecord, hcourse, hroster, hseated, hwaiting, hcheck]
        exact .inl ⟨_, _, .overflow hseen hshown hany hoverflows, Call.Refuses.of_eq hcall rfl⟩
      · refine .inr ⟨hany, hadmits, ?_⟩
        simp [enroll, hrecord, hcourse, hroster, hseated, hwaiting, hcheck]

/-- A student whom the checks have passed enters the course, or there is no room, or the student has
a seat for which a full schedule has no room. -/
theorem enter_cases (h : Stands view registrar) (hfits : view.Fits) {id name code : String}
    {shown : RosterView Course Student} {record : RecordView}
    (hshown : view.rosters (name, code) = some shown) (hrecord : view.students id = some record)
    (hany : (shown.enrolled ++ shown.waitlisted).any (· == record.student) = false)
    (hadmits : record.Admits shown.course) :
    (∃ e heard, view.Bars id name code e ∧
      (enter name code record.student shown.course).Refuses registrar e heard) ∨
    (∃ status heard after, view.Enters id (name, code) status heard after ∧
      (enter name code record.student shown.course).Answers registrar status (Stands after)
        heard) ∨
    view.Overfull ∧
      (∃ e, (enter name code record.student shown.course registrar).result = .error e) ∧
      ∃ after, after.Fits ∧
        Stands after (enter name code record.student shown.course registrar).state := by
  obtain ⟨roster, hfound, hroster⟩ := h.rosters.exists_roster hshown
  have hon := hany
  rw [List.any_append, Bool.or_eq_false_iff] at hon
  obtain ⟨henrolled, -⟩ | ⟨-, hwaitlisted, -⟩ | ⟨-, hopen, hcall⟩ | ⟨-, hfull, hline, hcall⟩ |
    ⟨-, hfull, hline, hcall⟩ := hroster.enroll_cases record.student
  · rw [hon.1] at henrolled
    cases henrolled
  · rw [hon.2] at hwaitlisted
    cases hwaitlisted
  · obtain rfl := hfits.id_eq hrecord
    have hseat := h.onRoster_answers hfound h.students (hcall.onFirst registrar.students)
    obtain henter | ⟨hover, hrefused, henter⟩ := enter_seated hfits hshown hrecord hadmits hseat
    · exact .inr (.inl ⟨_, _, _, .seated hrecord hshown hany hadmits hopen rfl, henter⟩)
    · exact .inr (.inr ⟨hover, hrefused, _, hfits.seated hrecord hshown hany hopen _, henter⟩)
  · exact .inl ⟨_, _, .noRoom hrecord hshown hany hadmits hfull hline,
      (onRoster_refuses hfound (Call.onFirst_of_eq hcall _) rfl).bind _⟩
  · refine .inr (.inl ⟨_, _, _, .waiting hrecord hshown hany hadmits hfull hline rfl, ?_⟩)
    exact (h.onRoster_answers hfound h.students (hcall.onFirst _)).bind_quiet fun _ ht =>
      Call.Answers.pure ht

/-- A student is barred from the course and refused, or enters it, or has a seat for which a full
schedule has no room. -/
theorem enroll_cases (h : Stands view registrar) (hfits : view.Fits) (id name code : String) :
    (∃ e heard, view.Bars id name code e ∧ (enroll id name code).Refuses registrar e heard) ∨
    (∃ status heard after, view.Enters id (name, code) status heard after ∧
      (enroll id name code).Answers registrar status (Stands after) heard) ∨
    view.Overfull ∧ (∃ e, (enroll id name code registrar).result = .error e) ∧
      ∃ after, after.Fits ∧ Stands after (enroll id name code registrar).state := by
  cases hseen : view.students id with
  | none =>
    exact .inl ⟨_, _, .unknownStudent hseen, Call.Refuses.current_bind
      (Call.Refuses.ofExcept_error (h.record_unknown hseen) _)⟩
  | some record =>
    obtain ⟨found, hfound, hview⟩ := h.record_eq hseen
    obtain rfl := hview.view_eq
    cases hcourse : view.courses.find? (·.isNamed name code) with
    | none =>
      exact .inl ⟨_, _, .unknownCourse hseen hcourse, Call.Refuses.current_bind
        (Call.Refuses.ofExcept_bind hfound
          (Call.Refuses.ofExcept_error (h.course_unknown hcourse) _))⟩
    | some course =>
      have hknown := h.course_of_find? hcourse
      have hmem := List.mem_of_find?_eq_some hcourse
      cases RegistrarView.key_of_find? hcourse
      obtain ⟨shown, hshown⟩ := hfits.rostered course hmem
      have hhosts := hfits.hosts _ _ hshown
      obtain rfl : shown.course = course := hfits.course_eq hhosts.course_mem hmem hhosts.key_eq
      obtain hrefused | ⟨hany, hadmits, hcall⟩ := h.enroll_checks hfound hseen hknown hshown
      · exact .inl hrefused
      · obtain ⟨e, heard, hbars, henter⟩ | ⟨status, heard, after, henters, henter⟩ |
          ⟨hover, hrefused, after, hafter, henter⟩ := h.enter_cases hfits hshown hseen hany hadmits
        · exact .inl ⟨e, heard, hbars, henter.congr hcall⟩
        · exact .inr (.inl ⟨status, heard, after, henters, henter.congr hcall⟩)
        · refine .inr (.inr ⟨hover, ?_, after, hafter, ?_⟩)
          · rwa [hcall]
          · rwa [hcall]

/-- A student who is on no list of a course is refused; one who is leaves it. -/
theorem leave_cases (h : Stands view registrar) (hfits : view.Fits) {name code : String}
    {shown : RosterView Course Student} {student : Student}
    (hshown : view.rosters (name, code) = some shown)
    (hstudent : view.onFile student.id = some student) :
    (∃ heard, (shown.enrolled ++ shown.waitlisted).any (· == student) = false ∧
      (onRoster name code (Roster.drop Students.attach (some student))).Refuses registrar
        (.roster .notFound) heard) ∨
    ∃ outcome heard after, view.Leaves student (name, code) outcome heard after ∧
      (onRoster name code (Roster.drop Students.attach (some student))).Answers registrar outcome
        (Stands after) heard := by
  obtain ⟨roster, hfound, hroster⟩ := h.rosters.exists_roster hshown
  have hhosts := hfits.hosts _ _ hshown
  -- Whoever of the roster equals the student is the student on file under the id.
  have hsame : ∀ {index : Nat} {removed : Student} {list : List Student},
      list ⊆ shown.enrolled ++ shown.waitlisted → list.findIdx? (· == student) = some index →
      list[index]? = some removed → removed = student := by
    intro index removed list hsub hindex hremoved
    obtain ⟨hlt, heq, -⟩ := List.findIdx?_eq_some_iff_getElem.mp hindex
    rw [List.getElem?_eq_getElem hlt] at hremoved
    cases hremoved
    exact hhosts.eq_of_id hstudent (hsub (List.getElem_mem hlt)) (Student.beq_iff.mp heq)
  obtain ⟨index, removed, hindex, hremoved, hline, hcall⟩ |
    ⟨index, removed, next, rest, hindex, hremoved, hline, hcall⟩ |
    ⟨index, removed, hnone, hindex, hremoved, hcall⟩ | ⟨hnone, hnone', hcall⟩ :=
    hroster.drop_cases hhosts.fits Students.attach registrar.students student
  · obtain rfl := hsame (List.subset_append_left _ _) hindex hremoved
    exact .inr ⟨_, _, _, .alone hshown hindex hline rfl,
      h.onRoster_answers hfound h.students hcall⟩
  · obtain rfl := hsame (List.subset_append_left _ _) hindex hremoved
    have hnext : next ∈ shown.enrolled ++ shown.waitlisted := by simp [hline]
    obtain ⟨record, hrecord, -⟩ := RegistrarView.students_of_onFile (hhosts.known next hnext)
    obtain ⟨e, told, hattach, htold, hcause⟩ | ⟨hadmits, hattach⟩ :=
      h.students.attach_cases hrecord shown.course
    · rw [hattach.result, hattach.state, hattach.heard] at hcall
      exact .inr ⟨_, _, _, .unattached hshown hindex hline hrecord hcause htold rfl,
        h.onRoster_answers hfound h.students hcall⟩
    · rw [hattach.result, hattach.heard] at hcall
      exact .inr ⟨_, _, _, .attached hshown hindex hline hrecord hadmits rfl,
        h.onRoster_answers hfound hattach.state hcall⟩
  · obtain rfl := hsame (List.subset_append_right _ _) hindex hremoved
    exact .inr ⟨_, _, _, .waiting hshown hnone hindex rfl,
      h.onRoster_answers hfound h.students hcall⟩
  · refine .inl ⟨_, ?_, onRoster_refuses hfound hcall rfl⟩
    rw [List.findIdx?_eq_none_iff] at hnone hnone'
    simpa [List.any_eq_false, or_imp, forall_and] using ⟨hnone, hnone'⟩

/-- A student has nothing to leave and is refused, or leaves the course and has it no more on the
schedule. -/
theorem drop_cases (h : Stands view registrar) (hfits : view.Fits) (id name code : String) :
    (∃ e heard, view.Misses id name code e ∧ (drop id name code).Refuses registrar e heard) ∨
    ∃ record shown outcome heard after, view.students id = some record ∧
      view.rosters (name, code) = some shown ∧
      view.Leaves record.student (name, code) outcome heard after ∧
      (drop id name code).Answers registrar outcome
        (Stands (after.withRecord id
          { record with items := record.items.eraseP (· == shown.course) })) heard := by
  cases hseen : view.students id with
  | none =>
    exact .inl ⟨_, _, .unknownStudent hseen, Call.Refuses.current_bind
      (Call.Refuses.ofExcept_error (h.record_unknown hseen) _)⟩
  | some record =>
    obtain ⟨found, hfound, hview⟩ := h.record_eq hseen
    obtain rfl := hview.view_eq
    cases hshown : view.rosters (name, code) with
    | none =>
      exact .inl ⟨_, _, .unknownCourse hseen hshown, Call.Refuses.current_bind
        (Call.Refuses.ofExcept_bind hfound
          (Call.Refuses.ofExcept_error (h.roster_unknown hshown) _))⟩
    | some shown =>
      obtain ⟨roster, hroster, hstands⟩ := h.rosters.exists_roster hshown
      have hid : found.student.id = id := hfits.id_eq hseen
      have hcourse : roster.course = shown.course := congrArg RosterView.course hstands.view_eq
      obtain ⟨heard, hany, hleave⟩ | ⟨outcome, heard, after, hleaves, hleave⟩ :=
        h.leave_cases hfits hshown (hfits.known_of_students hseen)
      · exact .inl ⟨_, _, .notFound hseen hshown hany, Call.Refuses.current_bind
          (Call.Refuses.ofExcept_bind hfound
            (Call.Refuses.ofExcept_bind (roster_of_find? hroster) (hleave.bind _)))⟩
      · refine .inr ⟨_, shown, outcome, heard, after, rfl, rfl, hleaves, ?_⟩
        refine Call.Answers.current_bind (Call.Answers.ofExcept_bind hfound
          (Call.Answers.ofExcept_bind (roster_of_find? hroster) (hleave.bind_quiet ?_)))
        intro left hleft
        subst hid
        have hself := (hleaves.students_self hfits).trans hseen
        rw [hcourse]
        refine Call.Answers.bind_quiet
          (hleft.onStudents_answers (hleft.students.detach_answers hself shown.course)) ?_
        intro detached hdetached
        exact Call.Answers.pure hdetached

theorem lists_eq (h : Stands view registrar) {student : Student} {course : Course}
    {shown : RosterView Course Student} (hshown : view.rosters course.key = some shown) :
    registrar.lists student course =
      (shown.enrolled ++ shown.waitlisted).any (· == student) := by
  obtain ⟨roster, hfound, hstands⟩ := h.rosters.exists_roster hshown
  simp only [lists, hfound]
  rw [hstands.isEnrolled_eq, hstands.isWaitlisted_eq, ← List.any_append]

theorem lists_eq_false (h : Stands view registrar) {student : Student} {course : Course}
    (hoff : ∀ shown, view.rosters course.key = some shown →
      (shown.enrolled ++ shown.waitlisted).any (· == student) = false) :
    registrar.lists student course = false := by
  cases hshown : view.rosters course.key with
  | none => simp only [lists, h.rosters.find?_eq_none hshown]
  | some shown => rw [h.lists_eq hshown, hoff shown hshown]

/-- A student on file leaves the rosters of some courses, and no course is in the way. -/
theorem leaveAll_answers (h : Stands view registrar) (hfits : view.Fits) {student : Student}
    (hstudent : view.onFile student.id = some student) (courses : List Course) :
    ∃ left heard after, RegistrarView.LeavesAll student view courses left heard after ∧
      (leaveAll student courses).Answers registrar left (Stands after) heard := by
  -- Each course is left on the registrar that the one before it left.
  induction courses generalizing view registrar with
  | nil => exact ⟨_, _, _, .nil, Call.Answers.pure h⟩
  | cons course rest ih =>
    by_cases hoff : ∀ shown, view.rosters course.key = some shown →
        (shown.enrolled ++ shown.waitlisted).any (· == student) = false
    · obtain ⟨left, heard, after, hrest, hcall⟩ := ih h hfits hstudent
      exact ⟨left, heard, after, .pass hoff hrest,
        hcall.congr (leaveAll_of_not_lists (h.lists_eq_false hoff) rest)⟩
    · simp only [not_forall, Bool.not_eq_false] at hoff
      obtain ⟨shown, hshown, hany⟩ := hoff
      obtain ⟨heard, hoff, -⟩ | ⟨outcome, heard, between, hleaves, hleave⟩ :=
        h.leave_cases hfits hshown hstudent
      · rw [hany] at hoff
        cases hoff
      · obtain ⟨left, hleft, hthere⟩ := hleave.exists_state
        have hknown : between.onFile student.id = some student := by
          rw [hleaves.onFile_eq, hstudent]
        obtain ⟨outcomes, more, after, hrest, hcall⟩ := ih hleft (hleaves.fits hfits) hknown
        have hstep := leaveAll_of_lists ((h.lists_eq hshown).trans hany) rest
        refine ⟨_, _, after, .leave hleaves hrest, (hthere.bind ?_).congr hstep⟩
        intro found hfound
        rw [hfound]
        exact hcall.map fun outcomes => (course, outcome) :: outcomes

/-- A student who is not on file is refused; one who is leaves every roster and has nothing on the
schedule. -/
theorem resetSchedule_cases (h : Stands view registrar) (hfits : view.Fits) (id : String) :
    (view.students id = none ∧
      (resetSchedule id).Refuses registrar (.unknownStudent id) []) ∨
    ∃ record left heard after, view.students id = some record ∧
      RegistrarView.LeavesAll record.student view view.courses left heard after ∧
      (leaveAll record.student registrar.courses).Answers registrar left (Stands after) heard ∧
      (resetSchedule id).Answers registrar left.length
        (Stands (after.withRecord id ⟨record.student, Schedule.defaultTitle, []⟩))
        (heard ++ [.log ⟨.info, "schedule reset",
          [("student", .text id), ("rosters", .count left.length)]⟩]) := by
  cases hseen : view.students id with
  | none =>
    exact .inl ⟨rfl, Call.Refuses.current_bind
      (Call.Refuses.ofExcept_error (h.record_unknown hseen) _)⟩
  | some record =>
    obtain ⟨found, hfound, hview⟩ := h.record_eq hseen
    obtain rfl := hview.view_eq
    have hid : found.student.id = id := hfits.id_eq hseen
    have hcourses : registrar.courses = view.courses := h.catalog.toList_eq
    obtain ⟨left, heard, after, hleaves, hleave⟩ :=
      h.leaveAll_answers hfits (hfits.known_of_students hseen) registrar.courses
    refine .inr ⟨found.view, left, heard, after, rfl, ?_, hleave, ?_⟩
    · rwa [← hcourses]
    · refine Call.Answers.current_bind (Call.Answers.ofExcept_bind hfound (hleave.bind ?_))
      intro gone hgone
      subst hid
      have hself := (hleaves.students_self hfits).trans hseen
      refine Call.Answers.quiet_bind
        (hgone.onStudents_answers (hgone.students.reset_answers hself)) ?_
      intro reset hreset
      exact (Call.Answers.log (by decide) _ _ hreset).bind_quiet fun _ ht => Call.Answers.pure ht

end Registrar.Stands

end Enrollment
