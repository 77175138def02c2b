import Enrollment.Proofs.Registrar.View

/-!
The changes that calls on a registrar make to what shows of it.  What fits together still does
after each of them.
-/
namespace Enrollment

namespace RegistrarView

structure CanAdd (view : RegistrarView) (course : Course) (cap : Nat) : Prop where
  valid : course.validate = .ok ()
  new : view.courses.any (· == course) = false
  minCap_le : view.config.roster.minCap ≤ cap
  le_maxCap : cap ≤ view.config.roster.maxCap
  room : view.courses.length < Bounds.count

structure CanRegister (view : RegistrarView) (id : String) (maxCredits : UInt32) : Prop where
  min_le : view.config.minStudentCredits ≤ maxCredits
  le_max : maxCredits ≤ view.config.maxStudentCredits
  new : view.students id = none

def withCourse (view : RegistrarView) (course : Course) (cap : Nat) : RegistrarView :=
  { view with
    courses := view.courses.insertIdx (SortedList.placeIn view.courses course) course
    rosters := Function.update view.rosters course.key
      (some ⟨course, view.config.roster, cap, view.audit.isSome, [], []⟩) }

def withoutCourse (view : RegistrarView) (course : Course) (students : List Student) :
    RegistrarView :=
  { view with
    courses := view.courses.eraseP (·.isNamed course.name course.sectionCode)
    rosters := Function.update view.rosters course.key none
    students := Students.without view.students course students }

def Overfull (view : RegistrarView) : Prop :=
  ∃ id record course, view.students id = some record ∧ course ∈ view.courses ∧
    record.Admits course ∧ Bounds.count ≤ record.items.length

inductive Bars (view : RegistrarView) (id name code : String) : RegistrationError → Prop
  | unknownStudent (hnone : view.students id = none) : Bars view id name code (.unknownStudent id)
  | unknownCourse {record : RecordView} (hrecord : view.students id = some record)
      (hnone : view.courses.find? (·.isNamed name code) = none) :
      Bars view id name code (.unknownCourse name code)
  | alreadyEnrolled {record : RecordView} {shown : RosterView Course Student}
      (hrecord : view.students id = some record) (hshown : view.rosters (name, code) = some shown)
      (henrolled : shown.enrolled.any (· == record.student) = true) :
      Bars view id name code (.roster .alreadyEnrolled)
  | alreadyWaitlisted {record : RecordView} {shown : RosterView Course Student}
      (hrecord : view.students id = some record) (hshown : view.rosters (name, code) = some shown)
      (henrolled : shown.enrolled.any (· == record.student) = false)
      (hwaitlisted : shown.waitlisted.any (· == record.student) = true) :
      Bars view id name code (.roster .alreadyWaitlisted)
  | cannotAdd {record : RecordView} {shown : RosterView Course Student} {misfit : Misfit}
      (hrecord : view.students id = some record) (hshown : view.rosters (name, code) = some shown)
      (hany : (shown.enrolled ++ shown.waitlisted).any (· == record.student) = false)
      (hrejects : record.Rejects shown.course misfit) :
      Bars view id name code (.cannotAdd misfit)
  | overflow {record : RecordView} {shown : RosterView Course Student}
      (hrecord : view.students id = some record) (hshown : view.rosters (name, code) = some shown)
      (hany : (shown.enrolled ++ shown.waitlisted).any (· == record.student) = false)
      (hoverflows : record.Overflows shown.course) :
      Bars view id name code .overflow
  | noRoom {record : RecordView} {shown : RosterView Course Student}
      (hrecord : view.students id = some record) (hshown : view.rosters (name, code) = some shown)
      (hany : (shown.enrolled ++ shown.waitlisted).any (· == record.student) = false)
      (hadmits : record.Admits shown.course)
      (hfull : shown.enrollmentCap ≤ shown.enrolled.length)
      (hline : shown.limits.waitlistCapacity ≤ shown.waitlisted.length) :
      Bars view id name code (.roster .noRoom)

inductive Enters (view : RegistrarView) (id : String) (key : String × String) :
    EnrollmentStatus → List Notice → RegistrarView → Prop
  | seated {shown : RosterView Course Student} {record : RecordView} {heard : List Notice}
      (hrecord : view.students id = some record) (hshown : view.rosters key = some shown)
      (hany : (shown.enrolled ++ shown.waitlisted).any (· == record.student) = false)
      (hadmits : record.Admits shown.course)
      (hopen : shown.enrolled.length < shown.enrollmentCap)
      (hheard : heard = shown.entry record.student .enroll none ++
        shown.line .info "seat taken" [("enrolled", .count (shown.enrolled.length + 1))]) :
      Enters view id key .enrolled
        (heard ++ [.log ⟨.debug, "added to schedule", [("item", .text shown.course.name)]⟩])
        ((view.withRoster key (shown.filled (shown.enrolled ++ [record.student]) shown.waitlisted)
          heard).withRecord id { record with items := record.items ++ [shown.course] })
  | waiting {shown : RosterView Course Student} {record : RecordView} {heard : List Notice}
      (hrecord : view.students id = some record) (hshown : view.rosters key = some shown)
      (hany : (shown.enrolled ++ shown.waitlisted).any (· == record.student) = false)
      (hadmits : record.Admits shown.course)
      (hfull : shown.enrollmentCap ≤ shown.enrolled.length)
      (hroom : shown.waitlisted.length < shown.limits.waitlistCapacity)
      (hheard : heard = shown.entry record.student .waitlist none ++
        shown.line .info "waitlisted" [("position", .count (shown.waitlisted.length + 1))]) :
      Enters view id key .waitlisted heard
        (view.withRoster key (shown.filled shown.enrolled (shown.waitlisted ++ [record.student]))
          heard)

/-- A student who has a seat in a course, or waits for one, leaves its roster.  Somebody who waits
moves into a seat given up, and the course goes on that student's schedule if it admits the
course. -/
inductive Leaves (view : RegistrarView) (student : Student) (key : String × String) :
    DropOutcome Student → List Notice → RegistrarView → Prop
  | alone {shown : RosterView Course Student} {index : Nat} {heard : List Notice}
      (hshown : view.rosters key = some shown)
      (hfound : shown.enrolled.findIdx? (· == student) = some index)
      (hline : shown.waitlisted = [])
      (hheard : heard = shown.entry student .drop none ++ shown.line .info "seat released" []) :
      Leaves view student key (.withdrawn student none) heard
        (view.withRoster key (shown.filled (shown.enrolled.eraseIdx index) []) heard)
  | attached {shown : RosterView Course Student} {index : Nat} {heard : List Notice}
      {next : Student} {rest : List Student} {record : RecordView}
      (hshown : view.rosters key = some shown)
      (hfound : shown.enrolled.findIdx? (· == student) = some index)
      (hline : shown.waitlisted = next :: rest)
      (hrecord : view.students next.id = some record) (hadmits : record.Admits shown.course)
      (hheard : heard = shown.entry student .drop none ++ (shown.line .info "seat released" [] ++
        ([.log ⟨.debug, "added to schedule", [("item", .text shown.course.name)]⟩] ++
          shown.promotion next (.ok ())))) :
      Leaves view student key (.withdrawn student (some ⟨next, true⟩)) heard
        ((view.withRoster key (shown.filled (shown.enrolled.eraseIdx index ++ [next]) rest)
          heard).withRecord next.id { record with items := record.items ++ [shown.course] })
  | unattached {shown : RosterView Course Student} {index : Nat} {told heard : List Notice}
      {next : Student} {rest : List Student} {record : RecordView} {error : ScheduleError}
      (hshown : view.rosters key = some shown)
      (hfound : shown.enrolled.findIdx? (· == student) = some index)
      (hline : shown.waitlisted = next :: rest)
      (hrecord : view.students next.id = some record)
      (hcause : ¬ record.Admits shown.course ∨ Bounds.count ≤ record.items.length)
      (htold : Notice.audits told = [])
      (hheard : heard = shown.entry student .drop none ++ (shown.line .info "seat released" [] ++
        (told ++ shown.promotion next (.error error)))) :
      Leaves view student key (.withdrawn student (some ⟨next, false⟩)) heard
        (view.withRoster key (shown.filled (shown.enrolled.eraseIdx index ++ [next]) rest) heard)
  | waiting {shown : RosterView Course Student} {index : Nat} {heard : List Notice}
      (hshown : view.rosters key = some shown)
      (hfound : shown.enrolled.findIdx? (· == student) = none)
      (hwaiting : shown.waitlisted.findIdx? (· == student) = some index)
      (hheard : heard =
        shown.entry student .leaveWaitlist none ++ shown.line .info "left waitlist" []) :
      Leaves view student key (.leftWaitlist student) heard
        (view.withRoster key (shown.filled shown.enrolled (shown.waitlisted.eraseIdx index)) heard)

inductive Misses (view : RegistrarView) (id name code : String) : RegistrationError → Prop
  | unknownStudent (hnone : view.students id = none) : Misses view id name code (.unknownStudent id)
  | unknownCourse {record : RecordView} (hrecord : view.students id = some record)
      (hnone : view.rosters (name, code) = none) :
      Misses view id name code (.unknownCourse name code)
  | notFound {record : RecordView} {shown : RosterView Course Student}
      (hrecord : view.students id = some record) (hshown : view.rosters (name, code) = some shown)
      (hany : (shown.enrolled ++ shown.waitlisted).any (· == record.student) = false) :
      Misses view id name code (.roster .notFound)

inductive LeavesAll (student : Student) : RegistrarView → List Course →
    List (Course × DropOutcome Student) → List Notice → RegistrarView → Prop
  | nil {view : RegistrarView} : LeavesAll student view [] [] [] view
  | pass {view after : RegistrarView} {course : Course} {rest : List Course}
      {left : List (Course × DropOutcome Student)} {heard : List Notice}
      (hoff : ∀ shown, view.rosters course.key = some shown →
        (shown.enrolled ++ shown.waitlisted).any (· == student) = false)
      (hrest : LeavesAll student view rest left heard after) :
      LeavesAll student view (course :: rest) left heard after
  | leave {view between after : RegistrarView} {course : Course} {rest : List Course}
      {outcome : DropOutcome Student} {left : List (Course × DropOutcome Student)}
      {heard more : List Notice} (hleaves : view.Leaves student course.key outcome heard between)
      (hrest : LeavesAll student between rest left more after) :
      LeavesAll student view (course :: rest) ((course, outcome) :: left) (heard ++ more) after

section

variable {view after : RegistrarView} {student : Student} {id : String} {key : String × String}
  {status : EnrollmentStatus} {outcome : DropOutcome Student} {heard : List Notice}

/-- A roster may come to have other people on it, if they fit and were on it or are on file. -/
theorem Fits.filled (h : view.Fits) {shown : RosterView Course Student}
    (hshown : view.rosters key = some shown) {enrolled waitlisted : List Student}
    (hfits : (shown.filled enrolled waitlisted).Fits)
    (hknown : ∀ other ∈ enrolled ++ waitlisted, other ∈ shown.enrolled ++ shown.waitlisted ∨
      view.onFile other.id = some other) (heard : List Notice) :
    (view.withRoster key (shown.filled enrolled waitlisted) heard).Fits := by
  refine h.withRoster (shown.filled enrolled waitlisted) hshown rfl rfl hfits ?_ heard
  intro other hmem
  obtain hon | hfile := hknown other hmem
  · exact (h.hosts key shown hshown).known other hon
  · exact hfile

theorem Fits.thinned (h : view.Fits) {shown : RosterView Course Student}
    (hshown : view.rosters key = some shown) {enrolled waitlisted : List Student}
    (henrolled : enrolled.Sublist shown.enrolled)
    (hwaitlisted : waitlisted.Sublist shown.waitlisted) (heard : List Notice) :
    (view.withRoster key (shown.filled enrolled waitlisted) heard).Fits := by
  refine h.filled hshown ((h.roster_fits hshown).sublist henrolled hwaitlisted) ?_ heard
  intro other hmem
  exact .inl ((henrolled.append hwaitlisted).subset hmem)

theorem Leaves.courses_eq (h : view.Leaves student key outcome heard after) :
    after.courses = view.courses := by
  cases h <;> rfl

theorem Leaves.onFile_eq (h : view.Leaves student key outcome heard after) :
    after.onFile = view.onFile := by
  cases h with
  | alone => rfl
  | attached hshown hfound hline hrecord => exact onFile_withRecord hrecord rfl
  | unattached => rfl
  | waiting => rfl

theorem Enters.rosters_self (h : view.Enters id key status heard after) :
    ∃ shown, after.rosters key = some shown := by
  cases h with
  | seated => exact ⟨_, withRoster_self view key _ []⟩
  | waiting => exact ⟨_, withRoster_self view _ _ _⟩

theorem Leaves.rosters_self (h : view.Leaves student key outcome heard after) :
    ∃ shown, after.rosters key = some shown := by
  cases h with
  | alone => exact ⟨_, withRoster_self view _ _ _⟩
  | attached => exact ⟨_, withRoster_self view key _ []⟩
  | unattached => exact ⟨_, withRoster_self view _ _ _⟩
  | waiting => exact ⟨_, withRoster_self view _ _ _⟩

/-- Who leaves a roster keeps the record for now. -/
theorem Leaves.students_self (h : view.Leaves student key outcome heard after) (hfits : view.Fits) :
    after.students student.id = view.students student.id := by
  cases h with
  | alone => rfl
  | attached hshown hfound hline =>
    have hne := (hfits.roster_fits hshown).head_ne hfound hline
    exact withRecord_of_ne _ (Student.id_ne hne) _
  | unattached => rfl
  | waiting => rfl

theorem Leaves.record_eq {record : RecordView}
    (h : view.Leaves record.student key outcome heard after) (hfits : view.Fits)
    (hrecord : view.students id = some record) : after.students id = some record := by
  rw [← hrecord, ← hfits.id_eq hrecord, h.students_self hfits]

/-- The rosters of other courses are as they were. -/
theorem Leaves.rosters_of_ne (h : view.Leaves student key outcome heard after)
    {other : String × String} (hne : other ≠ key) : after.rosters other = view.rosters other := by
  cases h with
  | alone => exact withRoster_of_ne view hne _ heard
  | attached => exact withRoster_of_ne view hne _ []
  | unattached => exact withRoster_of_ne view hne _ heard
  | waiting => exact withRoster_of_ne view hne _ heard

theorem Leaves.fits (h : view.Leaves student key outcome heard after) (hfits : view.Fits) :
    after.Fits := by
  have hreplace : ∀ {shown : RosterView Course Student} {index : Nat} {next : Student}
      {rest : List Student}, view.rosters key = some shown →
      shown.enrolled.findIdx? (· == student) = some index → shown.waitlisted = next :: rest →
      (view.withRoster key (shown.filled (shown.enrolled.eraseIdx index ++ [next]) rest)
        heard).Fits := by
    intro shown index next rest hshown hfound hline
    have hlt := (List.findIdx?_eq_some_iff_getElem.mp hfound).1
    refine hfits.filled hshown ((hfits.roster_fits hshown).replace hlt hline) ?_ heard
    intro other hmem
    left
    rw [List.append_assoc, List.mem_append] at hmem
    rw [hline]
    exact List.mem_append.mpr (hmem.imp_left (List.mem_of_mem_eraseIdx))
  cases h with
  | alone hshown hfound hline =>
    exact hfits.thinned hshown (List.eraseIdx_sublist _ _) (List.nil_sublist _) heard
  | attached hshown hfound hline hrecord =>
    exact (hreplace hshown hfound hline).withRecord hrecord rfl
  | unattached hshown hfound hline => exact hreplace hshown hfound hline
  | waiting hshown hfound hwaiting =>
    exact hfits.thinned hshown (List.Sublist.refl _) (List.eraseIdx_sublist _ _) heard

theorem Fits.seated (h : view.Fits) {shown : RosterView Course Student} {record : RecordView}
    (hrecord : view.students id = some record) (hshown : view.rosters key = some shown)
    (hany : (shown.enrolled ++ shown.waitlisted).any (· == record.student) = false)
    (hopen : shown.enrolled.length < shown.enrollmentCap) (heard : List Notice) :
    (view.withRoster key (shown.filled (shown.enrolled ++ [record.student]) shown.waitlisted)
      heard).Fits := by
  refine h.filled hshown ((h.roster_fits hshown).seat hopen hany) ?_ heard
  intro other hmem
  rw [List.append_assoc, List.singleton_append, List.mem_append, List.mem_cons] at hmem
  rw [List.mem_append]
  obtain henrolled | rfl | hwaitlisted := hmem
  · exact .inl (.inl henrolled)
  · exact .inr (h.known_of_students hrecord)
  · exact .inl (.inr hwaitlisted)

theorem Enters.fits (h : view.Enters id key status heard after) (hfits : view.Fits) :
    after.Fits := by
  cases h with
  | seated hrecord hshown hany hadmits hopen =>
    exact (hfits.seated hrecord hshown hany hopen _).withRecord hrecord rfl
  | waiting hrecord hshown hany hadmits hfull hroom =>
    refine hfits.filled hshown ((hfits.roster_fits hshown).wait hroom hany) ?_ heard
    intro other hmem
    rw [← List.append_assoc, List.mem_append, List.mem_singleton] at hmem
    obtain hon | rfl := hmem
    · exact .inl hon
    · exact .inr (hfits.known_of_students hrecord)

end

section

variable {view after : RegistrarView} {student : Student} {courses : List Course}
  {left : List (Course × DropOutcome Student)} {heard : List Notice}

theorem LeavesAll.fits (h : LeavesAll student view courses left heard after) (hfits : view.Fits) :
    after.Fits := by
  induction h with
  | nil => exact hfits
  | pass hoff hrest ih => exact ih hfits
  | leave hleaves hrest ih => exact ih (hleaves.fits hfits)

theorem LeavesAll.students_self (h : LeavesAll student view courses left heard after)
    (hfits : view.Fits) : after.students student.id = view.students student.id := by
  induction h with
  | nil => rfl
  | pass hoff hrest ih => exact ih hfits
  | leave hleaves hrest ih => exact (ih (hleaves.fits hfits)).trans (hleaves.students_self hfits)

theorem LeavesAll.record_eq {id : String} {record : RecordView}
    (h : LeavesAll record.student view courses left heard after) (hfits : view.Fits)
    (hrecord : view.students id = some record) : after.students id = some record := by
  rw [← hrecord, ← hfits.id_eq hrecord, h.students_self hfits]

end

section

variable {view : RegistrarView}

theorem Fits.withCap (h : view.Fits) {key : String × String} {shown : RosterView Course Student}
    (hshown : view.rosters key = some shown) {cap : Nat} (hmin : shown.limits.minCap ≤ cap)
    (hmax : cap ≤ shown.limits.maxCap) (henrolled : shown.enrolled.length ≤ cap)
    (heard : List Notice) :
    (view.withRoster key { shown with enrollmentCap := cap } heard).Fits := by
  have hhosts := h.hosts key shown hshown
  exact h.withRoster { shown with enrollmentCap := cap } hshown rfl rfl
    ⟨hmin, hmax, henrolled, hhosts.fits.waitlisted_le, hhosts.fits.distinct⟩ hhosts.known heard

/-- A course that comes into the catalog takes no roster's place. -/
theorem Fits.key_ne (h : view.Fits) {course : Course}
    (hnew : view.courses.any (· == course) = false) {key : String × String}
    {roster : RosterView Course Student} (hroster : view.rosters key = some roster) :
    key ≠ course.key := by
  intro hkey
  have hhosts := h.hosts key roster hroster
  have hsame : (roster.course == course) = true :=
    Course.beq_iff.mpr (hhosts.key_eq.trans hkey)
  rw [List.any_eq_false] at hnew
  exact hnew _ hhosts.course_mem hsame

theorem mem_withCourse {course other : Course} {cap : Nat} :
    other ∈ (view.withCourse course cap).courses ↔ other = course ∨ other ∈ view.courses :=
  List.mem_insertIdx (SortedList.placeIn_le _ _)

theorem withCourse_self (course : Course) (cap : Nat) :
    (view.withCourse course cap).rosters course.key =
      some ⟨course, view.config.roster, cap, view.audit.isSome, [], []⟩ := by
  simp only [RegistrarView.withCourse, Function.update_self]

theorem withCourse_of_ne (view : RegistrarView) {course : Course} (cap : Nat)
    {key : String × String} (h : key ≠ course.key) :
    (view.withCourse course cap).rosters key = view.rosters key := by
  simp only [RegistrarView.withCourse, Function.update_of_ne h]

theorem Fits.mem_withoutCourse (h : view.Fits) {course other : Course} {leaving : List Student} :
    other ∈ (view.withoutCourse course leaving).courses ↔
      other ∈ view.courses ∧ other.key ≠ course.key := by
  refine h.courses_distinct.mem_eraseP_iff.trans (and_congr_right' ?_)
  rw [← Bool.not_eq_true, Course.beq_iff]

theorem withoutCourse_self (course : Course) (leaving : List Student) :
    (view.withoutCourse course leaving).rosters course.key = none := by
  simp only [RegistrarView.withoutCourse, Function.update_self]

theorem withoutCourse_of_ne (view : RegistrarView) {course : Course} (leaving : List Student)
    {key : String × String} (h : key ≠ course.key) :
    (view.withoutCourse course leaving).rosters key = view.rosters key := by
  simp only [RegistrarView.withoutCourse, Function.update_of_ne h]

theorem onFile_withoutCourse (course : Course) (leaving : List Student) :
    (view.withoutCourse course leaving).onFile = view.onFile := by
  funext id
  simp only [onFile, RegistrarView.withoutCourse, Students.without]
  split
  · rw [Option.map_map]
    rfl
  · rfl

theorem Fits.withCourse (h : view.Fits) {course : Course} {cap : Nat}
    (hadd : view.CanAdd course cap) : (view.withCourse course cap).Fits where
  courses_distinct := h.courses_distinct.insertIdx hadd.new (SortedList.placeIn_le _ _)
  courses_le := by
    rw [RegistrarView.withCourse, List.length_insertIdx_of_le_length (SortedList.placeIn_le _ _)]
    exact hadd.room
  hosts key roster hroster := by
    by_cases hkey : key = course.key
    · rw [hkey, withCourse_self] at hroster
      cases hroster
      exact ⟨⟨hadd.minCap_le, hadd.le_maxCap, Nat.zero_le _, Nat.zero_le _, List.Pairwise.nil⟩, rfl,
        mem_withCourse.mpr (.inl rfl), hkey.symm, List.forall_mem_nil _⟩
    · rw [withCourse_of_ne view cap hkey] at hroster
      obtain ⟨hfits, hlimits, hmem, hkey', hknown⟩ := h.hosts key roster hroster
      exact ⟨hfits, hlimits, mem_withCourse.mpr (.inr hmem), hkey', hknown⟩
  rostered other hmem := by
    by_cases hkey : other.key = course.key
    · exact ⟨_, by rw [hkey, withCourse_self]⟩
    · rw [withCourse_of_ne view cap hkey]
      obtain rfl | hmem := mem_withCourse.mp hmem
      · exact absurd rfl hkey
      · exact h.rostered other hmem
  student_id := h.student_id

theorem Fits.withoutCourse (h : view.Fits) (course : Course) (leaving : List Student) :
    (view.withoutCourse course leaving).Fits where
  courses_distinct := h.courses_distinct.sublist List.eraseP_sublist
  courses_le := Nat.le_trans List.eraseP_sublist.length_le h.courses_le
  hosts key roster hroster := by
    by_cases hkey : key = course.key
    · rw [hkey, withoutCourse_self] at hroster
      cases hroster
    · rw [withoutCourse_of_ne view leaving hkey] at hroster
      obtain ⟨hfits, hlimits, hmem, hkey', hknown⟩ := h.hosts key roster hroster
      refine ⟨hfits, hlimits, h.mem_withoutCourse.mpr ⟨hmem, ?_⟩, hkey', ?_⟩
      · rwa [hkey']
      · rwa [onFile_withoutCourse]
  rostered other hmem := by
    obtain ⟨hmem, hkey⟩ := h.mem_withoutCourse.mp hmem
    rw [withoutCourse_of_ne view leaving hkey]
    exact h.rostered other hmem
  student_id := by
    rw [onFile_withoutCourse]
    exact h.student_id

/-- A student who comes on file takes nobody's id. -/
theorem Fits.withStudent (h : view.Fits) {id : String} (hnone : view.students id = none)
    (maxCredits : UInt32) :
    (view.withRecord id ⟨⟨id, maxCredits⟩, Schedule.defaultTitle, []⟩).Fits where
  courses_distinct := h.courses_distinct
  courses_le := h.courses_le
  hosts key roster hroster := by
    obtain ⟨hfits, hlimits, hmem, hkey, hknown⟩ := h.hosts key roster hroster
    refine ⟨hfits, hlimits, hmem, hkey, ?_⟩
    intro student hon
    have hfile := hknown student hon
    have hid : student.id ≠ id := by
      intro hid
      rw [hid, onFile, hnone] at hfile
      cases hfile
    rwa [onFile, withRecord_of_ne view hid]
  rostered := h.rostered
  student_id other student hfile := by
    by_cases hother : other = id
    · rw [hother, onFile, withRecord_self] at hfile
      cases hfile
      exact hother.symm
    · rw [onFile, withRecord_of_ne view hother] at hfile
      exact h.student_id other student hfile

end

end RegistrarView

end Enrollment
