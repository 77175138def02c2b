import Enrollment.Proofs.Registrar.Catalog
import Enrollment.Proofs.Registrar.Filing
import Enrollment.Proofs.Texts

/-!
What the audit trail of a registrar tells of its rosters: the entries of a course, replayed on
empty lists, lead to those who have seats in it and those who wait for one.
-/
namespace Enrollment

/-- The seats and the waitlist of a course as the audit trail tells of them: everybody is named by a
text. -/
structure Occupancy where
  seats : List String
  line : List String
  deriving DecidableEq

namespace Occupancy

def apply (occupancy : Occupancy) (entry : AuditEntry) : Option Occupancy :=
  match entry.action with
  | .enroll => some { occupancy with seats := occupancy.seats ++ [entry.entity] }
  | .waitlist => some { occupancy with line := occupancy.line ++ [entry.entity] }
  | .drop =>
    if entry.entity ∈ occupancy.seats then
      some { occupancy with seats := occupancy.seats.erase entry.entity }
    else none
  | .leaveWaitlist =>
    if entry.entity ∈ occupancy.line then
      some { occupancy with line := occupancy.line.erase entry.entity }
    else none
  | .promote =>
    if occupancy.line.head? = some entry.entity then
      some ⟨occupancy.seats ++ [entry.entity], occupancy.line.tail⟩
    else none

def replay (entries : List AuditEntry) : Option Occupancy := entries.foldlM apply ⟨[], []⟩

end Occupancy

def AuditSink.entriesOf (sink : AuditSink) (roster : String) : List AuditEntry :=
  sink.entries.filter (·.roster == roster)

/-- Where a student is in a list as the only one of the id, taking the text out of the texts takes
out the student. -/
theorem Student.erase_text {students : List Student} {student : Student} {index : Nat}
    (hsame : ∀ other ∈ students, other.id = student.id → other = student)
    (hfound : students.findIdx? (· == student) = some index) :
    toString student ∈ students.map toString ∧
      (students.map toString).erase (toString student) =
        (students.eraseIdx index).map toString := by
  obtain ⟨hlt, heq, hearlier⟩ := List.findIdx?_eq_some_iff_getElem.mp hfound
  obtain ⟨before, found, after, rfl, rfl⟩ := exists_append_cons_of_lt hlt
  have hid : found.id = student.id := by simpa [Student.beq_iff] using heq
  obtain rfl := hsame found (by simp) hid
  have hbefore : toString found ∉ before.map toString := by
    intro hmem
    obtain ⟨other, hother, htext⟩ := List.mem_map.mp hmem
    obtain ⟨place, hplace, rfl⟩ := List.getElem_of_mem hother
    have hne := hearlier place hplace
    rw [List.getElem_append_left hplace, Student.beq_iff] at hne
    exact hne (congrArg Student.id (Student.describe_inj htext))
  rw [eraseIdx_length_append, List.map_append, List.map_cons, List.erase_append_right _ hbefore,
    List.erase_cons_head, List.map_append]
  exact ⟨by simp, rfl⟩

namespace RosterView

variable {C : Type} {view : RosterView C Student} {student next : Student} {rest : List Student}
  {index : Nat} {roster : String} {detail : Option String}

def occupancy (view : RosterView C Student) : Occupancy :=
  ⟨view.enrolled.map toString, view.waitlisted.map toString⟩

theorem apply_enroll (view : RosterView C Student) (student : Student) :
    view.occupancy.apply ⟨toString student, roster, .enroll, detail⟩ =
      some (view.filled (view.enrolled ++ [student]) view.waitlisted).occupancy := by
  simp [Occupancy.apply, occupancy, filled]

theorem apply_waitlist (view : RosterView C Student) (student : Student) :
    view.occupancy.apply ⟨toString student, roster, .waitlist, detail⟩ =
      some (view.filled view.enrolled (view.waitlisted ++ [student])).occupancy := by
  simp [Occupancy.apply, occupancy, filled]

theorem apply_drop (hsame : ∀ other ∈ view.enrolled, other.id = student.id → other = student)
    (hfound : view.enrolled.findIdx? (· == student) = some index) :
    view.occupancy.apply ⟨toString student, roster, .drop, detail⟩ =
      some (view.filled (view.enrolled.eraseIdx index) view.waitlisted).occupancy := by
  obtain ⟨hmem, herase⟩ := Student.erase_text hsame hfound
  simp only [Occupancy.apply, occupancy, hmem, herase, if_true, filled]

theorem apply_leaveWaitlist
    (hsame : ∀ other ∈ view.waitlisted, other.id = student.id → other = student)
    (hfound : view.waitlisted.findIdx? (· == student) = some index) :
    view.occupancy.apply ⟨toString student, roster, .leaveWaitlist, detail⟩ =
      some (view.filled view.enrolled (view.waitlisted.eraseIdx index)).occupancy := by
  obtain ⟨hmem, herase⟩ := Student.erase_text hsame hfound
  simp only [Occupancy.apply, occupancy, hmem, herase, if_true, filled]

theorem apply_promote (hline : view.waitlisted = next :: rest) :
    view.occupancy.apply ⟨toString next, roster, .promote, detail⟩ =
      some (view.filled (view.enrolled ++ [next]) rest).occupancy := by
  simp [Occupancy.apply, occupancy, hline, filled]

section Entries

variable [ToString C]

theorem audits_entry (h : view.audited = true) (student : Student) (action : AuditAction)
    (detail : Option String) :
    Notice.audits (view.entry student action detail) =
      [⟨toString student, toString view.course, action, detail⟩] := by
  rw [entry, if_pos h]
  rfl

/-- Besides the entry there is a line for the log, which the trail does not tell. -/
theorem audits_entry_line (h : view.audited = true) (student : Student) (action : AuditAction)
    (detail : Option String) (level : LogLevel) (message : String)
    (fields : List (String × LogValue)) :
    Notice.audits (view.entry student action detail ++ view.line level message fields) =
      [⟨toString student, toString view.course, action, detail⟩] := by
  rw [audits_append_line, audits_entry h]

theorem audits_replaced (h : view.audited = true) (student next : Student) {told : List Notice}
    (htold : Notice.audits told = []) (verdict : Except ScheduleError Unit) :
    Notice.audits (view.entry student .drop none ++ (view.line .info "seat released" [] ++
      (told ++ view.promotion next verdict))) =
      [⟨toString student, toString view.course, .drop, none⟩,
        ⟨toString next, toString view.course, .promote,
          if verdict.isOk then none else some "schedule rejected course"⟩] := by
  rw [audits_replacing view student next htold, Notice.audits_append, audits_entry h,
    audits_entry h]
  rfl

end Entries

end RosterView

namespace AuditSink

variable {sink : AuditSink} {notices : List Notice}

theorem entriesOf_file
    (hroom : sink.entries.length + (Notice.audits notices).length ≤ sink.maxEvents)
    (roster : String) : (sink.file notices).entriesOf roster =
      sink.entriesOf roster ++ (Notice.audits notices).filter (·.roster == roster) := by
  rw [file_of_room hroom, entriesOf, entriesOf, List.filter_append]

end AuditSink

namespace RegistrarView

def Audited (view : RegistrarView) : Prop :=
  ∀ key shown, view.rosters key = some shown → shown.audited = true

structure Traces (view : RegistrarView) (sink : AuditSink) : Prop where
  audit_eq : view.audit = some sink
  audited : view.Audited
  replayed : ∀ key shown, view.rosters key = some shown →
    Occupancy.replay (sink.entriesOf (toString shown.course)) = some shown.occupancy
  of_course : ∀ entry ∈ sink.entries, ∃ course ∈ view.courses, entry.roster = toString course

variable {config : RegistrarConfig} {view after : RegistrarView} {sink : AuditSink} {id : String}
  {key : String × String} {student : Student} {heard : List Notice}

theorem Catalogued.key_eq (h : view.Catalogued config) {a b : Course} (ha : a ∈ view.courses)
    (hb : b ∈ view.courses) (htext : toString a = toString b) : a.key = b.key :=
  Course.describe_inj (h.valid a ha) (h.valid b hb) htext

theorem Audited.withRoster (h : view.Audited) {shown : RosterView Course Student}
    (hshown : view.rosters key = some shown) (changed : RosterView Course Student)
    (haudited : changed.audited = shown.audited) (heard : List Notice) :
    (view.withRoster key changed heard).Audited := by
  intro other roster hroster
  by_cases hother : other = key
  · rw [hother, withRoster_self] at hroster
    cases hroster
    rw [haudited, h key shown hshown]
  · rw [withRoster_of_ne view hother] at hroster
    exact h other roster hroster

theorem Audited.filled (h : view.Audited) {shown : RosterView Course Student}
    (hshown : view.rosters key = some shown) (enrolled waitlisted : List Student)
    (heard : List Notice) :
    (view.withRoster key (shown.filled enrolled waitlisted) heard).Audited :=
  h.withRoster hshown (shown.filled enrolled waitlisted) rfl heard

theorem Leaves.audited {outcome : DropOutcome Student}
    (h : view.Leaves student key outcome heard after) (haudited : view.Audited) :
    after.Audited := by
  cases h with
  | alone hshown => exact haudited.filled hshown _ _ _
  | attached hshown => exact haudited.filled hshown _ _ heard
  | unattached hshown => exact haudited.filled hshown _ _ _
  | waiting hshown => exact haudited.filled hshown _ _ _

theorem traces_opened (config : RegistrarConfig) (maxEvents : Nat) :
    (opened config (some (.empty maxEvents))).Traces (.empty maxEvents) where
  audit_eq := rfl
  audited := nofun
  replayed := nofun
  of_course := nofun

namespace Traces

/-- Who is on file, and what is on the schedules, does not matter to the trail. -/
theorem keep (h : view.Traces sink) (hrosters : after.rosters = view.rosters)
    (hcourses : after.courses = view.courses) (haudit : after.audit = view.audit) :
    after.Traces sink where
  audit_eq := haudit.trans h.audit_eq
  audited key shown hshown := h.audited key shown (hrosters ▸ hshown)
  replayed := hrosters ▸ h.replayed
  of_course := hcourses ▸ h.of_course

theorem withRecord (h : view.Traces sink) (id : String) (record : RecordView) :
    (view.withRecord id record).Traces sink :=
  h.keep rfl rfl rfl

/-- A roster may change as its entries tell, if they are named for its course. -/
theorem withRoster (h : view.Traces sink) (hfits : view.Fits) (hview : view.Catalogued config)
    {shown : RosterView Course Student} (hshown : view.rosters key = some shown)
    (changed : RosterView Course Student) (hcourse : changed.course = shown.course)
    (haudited : changed.audited = shown.audited)
    (hroom : sink.entries.length + (Notice.audits heard).length ≤ sink.maxEvents)
    (hnamed : ∀ entry ∈ Notice.audits heard, entry.roster = toString shown.course)
    (hreplay : (Notice.audits heard).foldlM Occupancy.apply shown.occupancy =
      some changed.occupancy) :
    (view.withRoster key changed heard).Traces (sink.file heard) where
  audit_eq := by
    rw [RegistrarView.withRoster, h.audit_eq]
    rfl
  audited := h.audited.withRoster hshown changed haudited heard
  replayed other roster hroster := by
    rw [AuditSink.entriesOf_file hroom]
    by_cases hother : other = key
    · rw [hother, withRoster_self] at hroster
      cases hroster
      have hall : (Notice.audits heard).filter (·.roster == toString shown.course) =
          Notice.audits heard := by
        rw [List.filter_eq_self]
        intro entry hentry
        exact beq_iff_eq.mpr (hnamed entry hentry)
      have hbefore := h.replayed key shown hshown
      rw [Occupancy.replay] at hbefore
      rw [hcourse, hall, Occupancy.replay, List.foldlM_append, hbefore]
      exact hreplay
    · rw [withRoster_of_ne view hother] at hroster
      have hnone : (Notice.audits heard).filter (·.roster == toString roster.course) = [] := by
        rw [List.filter_eq_nil_iff]
        intro entry hentry htext
        rw [beq_iff_eq, hnamed entry hentry] at htext
        have hhosts := hfits.hosts _ _ hroster
        have hhere := hfits.hosts _ _ hshown
        have hkey := hview.key_eq hhere.course_mem hhosts.course_mem htext
        exact hother (hhosts.key_eq.symm.trans (hkey.symm.trans hhere.key_eq))
      rw [hnone, List.append_nil]
      exact h.replayed other roster hroster
  of_course entry hentry := by
    rw [AuditSink.file_of_room hroom] at hentry
    cases List.mem_append.mp hentry with
    | inl hbefore => exact h.of_course entry hbefore
    | inr hnew => exact ⟨_, (hfits.hosts _ _ hshown).course_mem, hnamed entry hnew⟩

/-- A roster may come to have other people on it, as its one entry tells. -/
theorem filled (h : view.Traces sink) (hfits : view.Fits) (hview : view.Catalogued config)
    {shown : RosterView Course Student} (hshown : view.rosters key = some shown)
    (enrolled waitlisted : List Student)
    (hroom : sink.entries.length + (Notice.audits heard).length ≤ sink.maxEvents)
    {entity : String} {action : AuditAction} {detail : Option String}
    (haudits : Notice.audits heard = [⟨entity, toString shown.course, action, detail⟩])
    (happly : shown.occupancy.apply ⟨entity, toString shown.course, action, detail⟩ =
      some (shown.filled enrolled waitlisted).occupancy) :
    (view.withRoster key (shown.filled enrolled waitlisted) heard).Traces (sink.file heard) := by
  refine h.withRoster hfits hview hshown _ rfl rfl hroom ?_ ?_
  · simp [haudits]
  · simp [haudits, happly]

/-- The head of the waitlist may come into a seat given up, as the two entries tell. -/
theorem replaced (h : view.Traces sink) (hfits : view.Fits) (hview : view.Catalogued config)
    {shown : RosterView Course Student} (hshown : view.rosters key = some shown) {index : Nat}
    {next : Student} {rest : List Student} {detail : Option String}
    (hsame : ∀ other ∈ shown.enrolled, other.id = student.id → other = student)
    (hfound : shown.enrolled.findIdx? (· == student) = some index)
    (hline : shown.waitlisted = next :: rest)
    (hroom : sink.entries.length + (Notice.audits heard).length ≤ sink.maxEvents)
    (haudits : Notice.audits heard = [⟨toString student, toString shown.course, .drop, none⟩,
      ⟨toString next, toString shown.course, .promote, detail⟩]) :
    (view.withRoster key (shown.filled (shown.enrolled.eraseIdx index ++ [next]) rest)
      heard).Traces (sink.file heard) := by
  have hleft : (shown.filled (shown.enrolled.eraseIdx index) shown.waitlisted).waitlisted =
      next :: rest := hline
  refine h.withRoster hfits hview hshown _ rfl rfl hroom ?_ ?_
  · simp [haudits]
  · simp [haudits, shown.apply_drop hsame hfound, RosterView.apply_promote hleft]
    rfl

/-- A course that comes into the catalog has no entries yet. -/
theorem withCourse (h : view.Traces sink) (hview : view.Catalogued config) {course : Course}
    {cap : Nat} (hadd : view.CanAdd course cap) :
    (view.withCourse course cap).Traces sink where
  audit_eq := h.audit_eq
  audited key shown hshown := by
    by_cases hkey : key = course.key
    · rw [hkey, withCourse_self] at hshown
      cases hshown
      simp [h.audit_eq]
    · rw [withCourse_of_ne view cap hkey] at hshown
      exact h.audited key shown hshown
  replayed key shown hshown := by
    by_cases hkey : key = course.key
    · rw [hkey, withCourse_self] at hshown
      cases hshown
      have hnone : sink.entriesOf (toString course) = [] := by
        rw [AuditSink.entriesOf, List.filter_eq_nil_iff]
        intro entry hentry htext
        obtain ⟨other, hother, hroster⟩ := h.of_course entry hentry
        rw [beq_iff_eq, hroster] at htext
        have hsame := Course.describe_inj (hview.valid other hother) hadd.valid htext
        exact List.any_eq_false.mp hadd.new other hother (Course.beq_iff.mpr hsame)
      rw [hnone]
      rfl
    · rw [withCourse_of_ne view cap hkey] at hshown
      exact h.replayed key shown hshown
  of_course entry hentry := by
    obtain ⟨other, hother, hroster⟩ := h.of_course entry hentry
    exact ⟨other, mem_withCourse.mpr (.inr hother), hroster⟩

end Traces

theorem Enters.traces {status : EnrollmentStatus} (h : view.Enters id key status heard after)
    (hfits : view.Fits) (hview : view.Catalogued config) (htraces : view.Traces sink)
    (hroom : sink.entries.length + (Notice.audits heard).length ≤ sink.maxEvents) :
    after.Traces (sink.file heard) := by
  cases h with
  | @seated shown record heard hrecord hshown hany hadmits hopen hheard =>
    have haudits : Notice.audits heard =
        [⟨toString record.student, toString shown.course, .enroll, none⟩] := by
      rw [hheard, RosterView.audits_entry_line (htraces.audited _ _ hshown)]
    have hlog : Notice.audits
        [.log ⟨.debug, "added to schedule", [("item", .text shown.course.name)]⟩] = [] := rfl
    rw [Notice.audits_append, hlog, List.append_nil] at hroom
    rw [AuditSink.file_append, AuditSink.file_of_audits hlog]
    exact (htraces.filled hfits hview hshown _ _ hroom haudits
      (shown.apply_enroll record.student)).withRecord id _
  | @waiting shown record heard hrecord hshown hany hadmits hfull hline hheard =>
    have haudits : Notice.audits heard =
        [⟨toString record.student, toString shown.course, .waitlist, none⟩] := by
      rw [hheard, RosterView.audits_entry_line (htraces.audited _ _ hshown)]
    exact htraces.filled hfits hview hshown _ _ hroom haudits (shown.apply_waitlist record.student)

theorem Leaves.traces {outcome : DropOutcome Student}
    (h : view.Leaves student key outcome heard after) (hfits : view.Fits)
    (hview : view.Catalogued config) (htraces : view.Traces sink)
    (hstudent : view.onFile student.id = some student)
    (hroom : sink.entries.length + (Notice.audits heard).length ≤ sink.maxEvents) :
    after.Traces (sink.file heard) := by
  have hseated : ∀ {shown : RosterView Course Student}, view.rosters key = some shown →
      ∀ other ∈ shown.enrolled, other.id = student.id → other = student :=
    fun hshown _ hon => (hfits.hosts _ _ hshown).eq_of_id hstudent (List.mem_append_left _ hon)
  cases h with
  | @alone shown index heard hshown hfound hline hheard =>
    have haudits : Notice.audits heard =
        [⟨toString student, toString shown.course, .drop, none⟩] := by
      rw [hheard, RosterView.audits_entry_line (htraces.audited _ _ hshown)]
    rw [← hline]
    exact htraces.filled hfits hview hshown _ _ hroom haudits
      (shown.apply_drop (hseated hshown) hfound)
  | @attached shown index heard next rest record hshown hfound hline hrecord hadmits hheard =>
    subst hheard
    exact (htraces.replaced hfits hview hshown (hseated hshown) hfound hline hroom
      (RosterView.audits_replaced (htraces.audited _ _ hshown) student next rfl
        (.ok ()))).withRecord next.id _
  | @unattached shown index told heard next rest record error hshown hfound hline hrecord hcause
      htold hheard =>
    subst hheard
    exact htraces.replaced hfits hview hshown (hseated hshown) hfound hline hroom
      (RosterView.audits_replaced (htraces.audited _ _ hshown) student next htold (.error error))
  | @waiting shown index heard hshown hfound hwaiting hheard =>
    have haudits : Notice.audits heard =
        [⟨toString student, toString shown.course, .leaveWaitlist, none⟩] := by
      rw [hheard, RosterView.audits_entry_line (htraces.audited _ _ hshown)]
    have hsame : ∀ other ∈ shown.waitlisted, other.id = student.id → other = student :=
      fun _ hon => (hfits.hosts _ _ hshown).eq_of_id hstudent (List.mem_append_right _ hon)
    exact htraces.filled hfits hview hshown _ _ hroom haudits
      (shown.apply_leaveWaitlist hsame hwaiting)

theorem LeavesAll.traces {courses : List Course} {left : List (Course × DropOutcome Student)}
    (h : LeavesAll student view courses left heard after) (hfits : view.Fits)
    (hview : view.Catalogued config) (htraces : view.Traces sink)
    (hstudent : view.onFile student.id = some student)
    (hroom : sink.entries.length + (Notice.audits heard).length ≤ sink.maxEvents) :
    after.Traces (sink.file heard) := by
  induction h generalizing sink with
  | nil => exact htraces
  | pass hoff hrest ih => exact ih hfits hview htraces hstudent hroom
  | leave hleaves hrest ih =>
    obtain ⟨hnow, hlater⟩ := AuditSink.room_append hroom
    rw [AuditSink.file_append]
    refine ih (hleaves.fits hfits) (hleaves.catalogued hview)
      (hleaves.traces hfits hview htraces hstudent hnow) ?_ hlater
    rwa [hleaves.onFile_eq]

/-- A step that takes no course out of the catalog is told by the trail, if the sink has room. -/
theorem Steps.traces {call : RegistrarCall} {answer : RegistrarAnswer} {grants : List SeatGrant}
    (h : view.Steps call answer grants heard after) (hfits : view.Fits)
    (hview : view.Catalogued config) (htraces : view.Traces sink) (hkept : answer ≠ .removed true)
    (hroom : sink.entries.length + (Notice.audits heard).length ≤ sink.maxEvents) :
    ∃ later, after.Traces later := by
  cases h with
  | addCourse hadd => exact ⟨_, htraces.withCourse hview hadd⟩
  | removeCourse => exact absurd rfl hkept
  | removeNothing => exact ⟨_, htraces⟩
  | @setEnrollmentCap name code cap shown heard hshown hmin hmax henrolled hheard =>
    refine ⟨_, htraces.withRoster hfits hview hshown _ rfl rfl hroom ?_ ?_⟩
    · simp [hheard]
    · rw [hheard]
      rfl
  | addStudent => exact ⟨_, htraces.withRecord _ _⟩
  | enroll henters => exact ⟨_, henters.traces hfits hview htraces hroom⟩
  | drop hrecord hshown hleaves =>
    exact ⟨_, (hleaves.traces hfits hview htraces (hfits.known_of_students hrecord)
      hroom).withRecord _ _⟩
  | resetSchedule hrecord hleaves =>
    exact ⟨_, (hleaves.traces hfits hview htraces (hfits.known_of_students hrecord)
      (AuditSink.room_append hroom).1).withRecord _ _⟩

end RegistrarView

end Enrollment
