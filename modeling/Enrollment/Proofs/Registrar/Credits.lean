import Enrollment.Proofs.Course
import Enrollment.Proofs.Credits
import Enrollment.Proofs.Registrar.Catalog

/-!
No schedule has more credits than its student may carry, whichever way its courses came on it: by
enrollment, or by a promotion when other courses have come on it since.  So where the limits are
far enough from what 32 bits hold, every sum of credits fits there.
-/
namespace Enrollment

/-- There is room in 32 bits for one more course above the limit of any student. -/
def RegistrarConfig.Roomy (config : RegistrarConfig) : Prop :=
  config.maxStudentCredits.toNat + Course.maxCredits.toNat < UInt32.size

instance (config : RegistrarConfig) : Decidable config.Roomy :=
  inferInstanceAs (Decidable (_ < _))

namespace RecordView

structure Affords (config : RegistrarConfig) (record : RecordView) : Prop where
  min_le : config.minStudentCredits ≤ record.student.maxCredits
  le_max : record.student.maxCredits ≤ config.maxStudentCredits
  credits_le : Course.totalCredits record.items ≤ record.student.maxCredits.toNat

variable {config : RegistrarConfig} {record : RecordView} {course : Course}

theorem Affords.sublist (h : record.Affords config) {items : List Course}
    (hitems : items.Sublist record.items) : Affords config { record with items } where
  min_le := h.min_le
  le_max := h.le_max
  credits_le := Nat.le_trans (Course.totalCredits_le_of_sublist hitems) h.credits_le

theorem Affords.scheduled_lt (h : record.Affords config) (hroom : config.Roomy) :
    Course.totalCredits record.items + Course.maxCredits.toNat < UInt32.size := by
  have hcredits := h.credits_le
  have hmax := UInt32.le_iff_toNat_le.mp h.le_max
  rw [RegistrarConfig.Roomy] at hroom
  omega

theorem Affords.creditsWith_lt (h : record.Affords config) (hroom : config.Roomy)
    (hcredits : course.credits ≤ Course.maxCredits) : record.creditsWith course < UInt32.size :=
  (Nat.add_le_add_left (UInt32.le_iff_toNat_le.mp hcredits) _).trans_lt (h.scheduled_lt hroom)

theorem Affords.not_overflows (h : record.Affords config) (hroom : config.Roomy)
    (hcredits : course.credits ≤ Course.maxCredits) : ¬ record.Overflows course :=
  fun hoverflows => Nat.not_lt.mpr hoverflows.2 (h.creditsWith_lt hroom hcredits)

theorem Affords.append (h : record.Affords config) (hadmits : record.Admits course) :
    Affords config { record with items := record.items ++ [course] } where
  min_le := h.min_le
  le_max := h.le_max
  credits_le := by
    rw [Course.totalCredits_append]
    exact hadmits.2

end RecordView

namespace RegistrarView

variable {config : RegistrarConfig} {view after : RegistrarView} {id : String}
  {key : String × String} {student : Student} {heard : List Notice}

def Affordable (config : RegistrarConfig) (view : RegistrarView) : Prop :=
  ∀ id record, view.students id = some record → record.Affords config

theorem affordable_opened (config : RegistrarConfig) (audit : Option AuditSink) :
    (opened config audit).Affordable config := by
  intro id record hrecord
  cases hrecord

theorem Affordable.withRecord (h : view.Affordable config) {record : RecordView}
    (hrecord : record.Affords config) : (view.withRecord id record).Affordable config := by
  intro other found hfound
  by_cases hother : other = id
  · rw [hother, withRecord_self] at hfound
    cases hfound
    exact hrecord
  · rw [withRecord_of_ne view hother] at hfound
    exact h other found hfound

theorem Affordable.withoutCourse (h : view.Affordable config) (course : Course)
    (leaving : List Student) : (view.withoutCourse course leaving).Affordable config := by
  intro other found hfound
  simp only [RegistrarView.withoutCourse, Students.without] at hfound
  split at hfound
  · obtain ⟨record, hrecord, rfl⟩ := Option.map_eq_some_iff.mp hfound
    exact (h other record hrecord).sublist List.eraseP_sublist
  · exact h other found hfound

theorem Catalogued.credits_le (h : view.Catalogued config) {course : Course}
    (hmem : course ∈ view.courses) : course.credits ≤ Course.maxCredits :=
  (Course.validate_eq_ok_iff.mp (h.valid course hmem)).le_maxCredits

/-- Who is on a roster does not matter to the schedules. -/
theorem Affordable.withRoster (h : view.Affordable config) (shown : RosterView Course Student) :
    (view.withRoster key shown heard).Affordable config := h

theorem Enters.affordable {status : EnrollmentStatus}
    (henters : view.Enters id key status heard after) (h : view.Affordable config) :
    after.Affordable config := by
  cases henters with
  | seated hrecord hshown _ hadmits =>
    exact (h.withRoster _).withRecord ((h _ _ hrecord).append hadmits)
  | waiting => exact h.withRoster _

theorem Leaves.affordable {outcome : DropOutcome Student}
    (hleaves : view.Leaves student key outcome heard after) (h : view.Affordable config) :
    after.Affordable config := by
  cases hleaves with
  | alone => exact h.withRoster _
  | attached hshown _ _ hrecord hadmits =>
    exact (h.withRoster _).withRecord ((h _ _ hrecord).append hadmits)
  | unattached => exact h.withRoster _
  | waiting => exact h.withRoster _

theorem LeavesAll.affordable {courses : List Course} {left : List (Course × DropOutcome Student)}
    (hleaves : LeavesAll student view courses left heard after) (h : view.Affordable config) :
    after.Affordable config := by
  induction hleaves with
  | nil => exact h
  | pass _ _ ih => exact ih h
  | leave hleaves _ ih => exact ih (hleaves.affordable h)

theorem Steps.affordable {call : RegistrarCall} {answer : RegistrarAnswer}
    {grants : List SeatGrant} (hsteps : view.Steps call answer grants heard after)
    (hview : view.Catalogued config) (h : view.Affordable config) : after.Affordable config := by
  cases hsteps with
  | addCourse => exact h
  | removeCourse => exact h.withoutCourse _ _
  | removeNothing => exact h
  | setEnrollmentCap => exact h.withRoster _
  | addStudent hmin hmax =>
    rw [hview.config_eq] at hmin hmax
    exact h.withRecord ⟨hmin, hmax, Nat.zero_le _⟩
  | enroll henters => exact henters.affordable h
  | drop hrecord _ hleaves =>
    exact (hleaves.affordable h).withRecord ((h _ _ hrecord).sublist List.eraseP_sublist)
  | resetSchedule hrecord hleaves =>
    obtain ⟨hmin, hmax, -⟩ := h _ _ hrecord
    exact (hleaves.affordable h).withRecord ⟨hmin, hmax, Nat.zero_le _⟩

end RegistrarView

structure StudentRecord.WithinLimit (config : RegistrarConfig) (courses : List Course)
    (record : StudentRecord) : Prop where
  min_le : config.minStudentCredits ≤ record.student.maxCredits
  le_max : record.student.maxCredits ≤ config.maxStudentCredits
  credits_le : Course.totalCredits record.schedule.toList ≤ record.student.maxCredits.toNat
  toNat_scheduled : record.scheduledCredits.map UInt32.toNat =
    some (Course.totalCredits record.schedule.toList)
  toNat_with : ∀ course ∈ courses, (record.creditsWith? course).map UInt32.toNat =
    some (Course.totalCredits record.schedule.toList + course.credits.toNat)

namespace Registrar

variable {config : RegistrarConfig} {view : RegistrarView} {registrar : Registrar}

def WithinLimits (config : RegistrarConfig) (registrar : Registrar) : Prop :=
  ∀ id record, registrar.record id = .ok record →
    record.WithinLimit config registrar.courses

theorem Stands.withinLimits (hstands : Stands view registrar) (hroom : config.Roomy)
    (hview : view.Catalogued config) (h : view.Affordable config) :
    registrar.WithinLimits config := by
  intro id record hrecord
  obtain ⟨shown, hshown, hview'⟩ := hstands.exists_record hrecord
  obtain rfl := hview'.view_eq
  have haffords := h id _ hshown
  have hcourses : registrar.courses = view.courses := hstands.catalog.toList_eq
  have hscheduled := Nat.lt_of_add_right_lt (haffords.scheduled_lt hroom)
  refine ⟨haffords.min_le, haffords.le_max, haffords.credits_le,
    Course.map_toNat_sum?_credits hscheduled, ?_⟩
  intro course hmem
  rw [hcourses] at hmem
  exact StudentRecord.map_toNat_creditsWith? (haffords.creditsWith_lt hroom (hview.credits_le hmem))

end Registrar

namespace RegistrarCall

open Registrar

theorem affordable_finalState {config : RegistrarConfig} {audit : Option AuditSink}
    {start : Registrar} (hstart : Registrar.make config audit = .ok start)
    (calls : List RegistrarCall) :
    ∃ view, Stands view (Call.finalState perform calls start) ∧ view.Fits ∧
      (∀ id, view.Settled (ledger calls start []) id) ∧ view.Catalogued config ∧
      view.Affordable config := by
  obtain ⟨view, hstands, -, hsettled, hfits, hview, haffordable⟩ := @kept_finalState
    (fun view => view.Fits ∧ view.Catalogued config ∧ view.Affordable config)
    (fun hsteps ⟨hfits, hview, h⟩ =>
      ⟨hsteps.fits hfits, hsteps.catalogued hview, hsteps.affordable hview h⟩)
    calls _ _ _ (Stands.of_make hstart) (RegistrarView.fits_opened config audit)
    (RegistrarView.settled_opened config audit)
    ⟨RegistrarView.fits_opened config audit, RegistrarView.catalogued_opened config audit,
      RegistrarView.affordable_opened config audit⟩
  exact ⟨view, hstands, hfits, hsettled, hview, haffordable⟩

/-- After any calls on a registrar whose limits are far enough from what 32 bits hold, every student
is within the limit; so are all while a student leaves one roster after another. -/
theorem withinLimits_finalState {config : RegistrarConfig} {audit : Option AuditSink}
    {start : Registrar} (hstart : Registrar.make config audit = .ok start) (hroom : config.Roomy)
    (calls : List RegistrarCall) :
    let reached := Call.finalState perform calls start
    reached.WithinLimits config ∧
      ∀ id leaver courses, reached.record id = .ok leaver →
        (leaveAll leaver.student courses reached).state.WithinLimits config := by
  intro reached
  obtain ⟨view, hstands, hfits, -, hview, haffordable⟩ := affordable_finalState hstart calls
  refine ⟨hstands.withinLimits hroom hview haffordable, ?_⟩
  intro id leaver courses hleaver
  obtain ⟨shown, hshown, hrecord⟩ := hstands.exists_record hleaver
  obtain rfl := hrecord.view_eq
  obtain ⟨left, heard, after, hleaves, hleave⟩ :=
    hstands.leaveAll_answers hfits (hfits.known_of_students hshown) courses
  exact hleave.state.withinLimits hroom (hleaves.catalogued hview) (hleaves.affordable haffordable)

/-- The limits are as wide as they may be.  Who waits is at the limit once a seat is given up. -/
theorem withinLimits_finalState_students :
    let config : RegistrarConfig := ⟨⟨1, 2, 2⟩, 3, 4294967290⟩
    let logic : Course := ⟨"Logic", "Logic", "001", 3, none, .arranged⟩
    let calls : List RegistrarCall :=
      [addCourse logic 1, addCourse { logic with name := "Sets", credits := 5 } 1,
        addStudent "ada" 4294967290, addStudent "bob" 8, enroll "ada" "Logic" "001",
        enroll "bob" "Logic" "001", enroll "bob" "Sets" "001"]
    ∃ start, Registrar.make config none = .ok start ∧
      let reached := Call.finalState perform calls start
      let without := (leaveAll ⟨"ada", 4294967290⟩ reached.courses reached).state
      reached.WithinLimits config ∧ without.WithinLimits config ∧
        (reached.record "bob").map StudentRecord.scheduledCredits = .ok (some 5) ∧
        (without.record "bob").map StudentRecord.scheduledCredits = .ok (some 8) := by
  intro config logic calls
  let start : Registrar :=
    ⟨config, SortedList.empty, Directory.empty, Directory.empty, none⟩
  have hmake : Registrar.make config none = .ok start := rfl
  obtain ⟨hreached, hwithout⟩ := withinLimits_finalState hmake (by decide) calls
  have hada : ((Call.finalState perform calls start).record "ada").map StudentRecord.student =
      .ok ⟨"ada", 4294967290⟩ := by decide +kernel
  cases hleaver : (Call.finalState perform calls start).record "ada" with
  | error e =>
    rw [hleaver] at hada
    cases hada
  | ok leaver =>
    rw [hleaver] at hada
    have hleft := hwithout "ada" leaver (Call.finalState perform calls start).courses hleaver
    rw [Except.ok.inj hada] at hleft
    exact ⟨start, hmake, hreached, hleft, by decide +kernel, by decide +kernel⟩

end RegistrarCall

end Enrollment
