import Enrollment.Proofs.Registrar.Ledger

/-!
Runs of a registrar: what is on a student's schedule is at any time what the student has seats in,
but for seats that came from promotions which the schedule did not take.
-/
namespace Enrollment

namespace RosterView

variable {shown : RosterView Course Student} {next : Student} {rest : List Student} {index : Nat}
  {student : Student}

theorem Fits.head_free (h : shown.Fits) (hline : shown.waitlisted = next :: rest) :
    ¬ Student.IsAmong next.id shown.enrolled := by
  intro ⟨other, hmem, hid⟩
  have hne := (List.pairwise_append.mp h.distinct).2.2 other hmem next (by simp [hline])
  exact Student.id_ne hne hid

theorem Fits.head_id_ne (h : shown.Fits)
    (hfound : shown.enrolled.findIdx? (· == student) = some index)
    (hline : shown.waitlisted = next :: rest) : student.id ≠ next.id :=
  Student.id_ne (h.head_ne hfound hline)

theorem Fits.isAmong_eraseIdx (h : shown.Fits)
    (hfound : shown.enrolled.findIdx? (· == student) = some index) {id : String} :
    Student.IsAmong id (shown.enrolled.eraseIdx index) ↔
      Student.IsAmong id shown.enrolled ∧ id ≠ student.id :=
  Student.isAmong_eraseIdx (List.pairwise_append.mp h.distinct).1 hfound

/-- Whoever leaves a seat to the head of the waitlist has no seat then. -/
theorem Fits.not_isAmong_replaced (h : shown.Fits)
    (hfound : shown.enrolled.findIdx? (· == student) = some index)
    (hline : shown.waitlisted = next :: rest) :
    ¬ Student.IsAmong student.id (shown.enrolled.eraseIdx index ++ [next]) := by
  intro hon
  obtain hon | hid := Student.isAmong_append_singleton.mp hon
  · exact ((h.isAmong_eraseIdx hfound).mp hon).2 rfl
  · exact h.head_id_ne hfound hline hid

end RosterView

namespace RegistrarView

variable {view after : RegistrarView} {ledger : List SeatGrant} {id : String}
  {key : String × String} {student : Student} {outcome : DropOutcome Student} {heard : List Notice}

/-- Who leaves a roster has no seat in the course, and every other seat as before. -/
theorem Leaves.seats_self (h : view.Leaves student key outcome heard after) (hfits : view.Fits)
    (other : String × String) :
    after.Seats student.id other ↔ view.Seats student.id other ∧ other ≠ key := by
  have hkept : ∀ other, other ≠ key →
      (view.Seats student.id other ↔ view.Seats student.id other ∧ other ≠ key) := by
    intro other hne
    rw [and_iff_left hne]
  have hgone : ∀ changed : RosterView Course Student,
      ¬ Student.IsAmong student.id changed.enrolled → ∀ other,
      (view.withRoster key changed heard).Seats student.id other ↔
        view.Seats student.id other ∧ other ≠ key := by
    intro changed hnot
    exact seats_withRoster changed heard (iff_of_false hnot fun hseat => hseat.2 rfl) hkept
  cases h with
  | alone hshown hfound hline =>
    refine hgone _ ?_ other
    intro hon
    exact ((hfits.roster_fits hshown).isAmong_eraseIdx hfound |>.mp hon).2 rfl
  | attached hshown hfound hline =>
    exact hgone _ ((hfits.roster_fits hshown).not_isAmong_replaced hfound hline) other
  | unattached hshown hfound hline =>
    exact hgone _ ((hfits.roster_fits hshown).not_isAmong_replaced hfound hline) other
  | waiting hshown hfound =>
    refine hgone _ ?_ other
    exact Student.not_isAmong_of_findIdx? hfound

/-- The seats that a leave gives are others'. -/
theorem Leaves.latest_self (h : view.Leaves student key outcome heard after) (hfits : view.Fits)
    (other : String × String) :
    SeatGrant.latest (outcome.grants key ++ ledger) student.id other =
      SeatGrant.latest ledger student.id other := by
  cases h with
  | alone => rfl
  | attached hshown hfound hline =>
    have hne := (hfits.roster_fits hshown).head_id_ne hfound hline
    exact SeatGrant.latest_cons_of_ne (fun hid => absurd hid.symm hne) _ _
  | unattached hshown hfound hline =>
    have hne := (hfits.roster_fits hshown).head_id_ne hfound hline
    exact SeatGrant.latest_cons_of_ne (fun hid => absurd hid.symm hne) _ _
  | waiting => rfl

section Join

variable {shown changed : RosterView Course Student} {new : String} {record : RecordView}
  {origin : SeatOrigin}

theorem seats_join (hshown : view.rosters key = some shown)
    (hjoin : Student.IsAmong id changed.enrolled ↔ Student.IsAmong id shown.enrolled ∨ id = new)
    (heard : List Notice) (other : String × String) :
    (view.withRoster key changed heard).Seats id other ↔
      view.Seats id other ∨ (id = new ∧ other = key) := by
  refine seats_withRoster
    (P := fun other => view.Seats id other ∨ (id = new ∧ other = key)) _ heard ?_ ?_ other
  · rw [hjoin, seats_iff hshown, and_iff_left rfl]
  · intro other hother
    simp only [hother, and_false, or_false]

/-- One more student is on a roster and has the course on the schedule. -/
theorem Settled.join_attached (h : view.Settled ledger id) (hfits : view.Fits)
    (hshown : view.rosters key = some shown)
    (hjoin : Student.IsAmong id changed.enrolled ↔ Student.IsAmong id shown.enrolled ∨ id = new)
    (hfree : ¬ Student.IsAmong new shown.enrolled) (hrecord : view.students new = some record)
    (horigin : origin ≠ .promoted false) (heard : List Notice) :
    ((view.withRoster key changed heard).withRecord new
      { record with items := record.items ++ [shown.course] }).Settled
      (⟨new, key, origin⟩ :: ledger) id := by
  obtain ⟨-, -, hcourse, rfl, -⟩ := hfits.hosts _ _ hshown
  have hseats := seats_join hshown hjoin heard
  by_cases hid : id = new
  · subst hid
    refine h.attach hfits hcourse hrecord ?_ ?_ rfl horigin (withRecord_self _ _ _)
    · rwa [seats_iff hshown]
    · intro other
      exact (hseats other).trans (by rw [eq_self_iff_true, true_and])
  · refine h.keep ?_ ?_ (fun _ _ => Iff.rfl) (withRecord_of_ne _ hid _)
    · intro other
      exact (hseats other).trans (by simp only [hid, false_and, or_false])
    · intro other
      exact SeatGrant.latest_cons_of_ne (fun heq => absurd heq.symm hid) _ _

/-- One more student is on a roster, by a promotion that the schedule did not take. -/
theorem Settled.join_unattached (h : view.Settled ledger id) (hfits : view.Fits)
    (hshown : view.rosters key = some shown)
    (hjoin : Student.IsAmong id changed.enrolled ↔ Student.IsAmong id shown.enrolled ∨ id = new)
    (hfree : ¬ Student.IsAmong new shown.enrolled) (heard : List Notice) :
    (view.withRoster key changed heard).Settled (⟨new, key, .promoted false⟩ :: ledger) id := by
  obtain ⟨-, -, -, rfl, -⟩ := hfits.hosts _ _ hshown
  have hseats := seats_join hshown hjoin heard
  by_cases hid : id = new
  · subst hid
    refine h.pass_over ?_ ?_ rfl rfl
    · rwa [seats_iff hshown]
    · intro other
      exact (hseats other).trans (by rw [eq_self_iff_true, true_and])
  · refine h.keep ?_ ?_ (fun _ _ => Iff.rfl) rfl
    · intro other
      exact (hseats other).trans (by simp only [hid, false_and, or_false])
    · intro other
      exact SeatGrant.latest_cons_of_ne (fun heq => absurd heq.symm hid) _ _

end Join

/-- What is settled by others stays so when a student leaves a roster. -/
theorem Leaves.settled_of_ne (h : view.Leaves student key outcome heard after) (hfits : view.Fits)
    (hne : id ≠ student.id) (hsettled : view.Settled ledger id) :
    after.Settled (outcome.grants key ++ ledger) id := by
  have hjoin : ∀ {shown : RosterView Course Student} {index : Nat} {next : Student},
      view.rosters key = some shown → shown.enrolled.findIdx? (· == student) = some index →
      (Student.IsAmong id (shown.enrolled.eraseIdx index ++ [next]) ↔
        Student.IsAmong id shown.enrolled ∨ id = next.id) := by
    intro shown index next hshown hfound
    rw [Student.isAmong_append_singleton, (hfits.roster_fits hshown).isAmong_eraseIdx hfound,
      and_iff_left hne]
  cases h with
  | alone hshown hfound hline =>
    refine hsettled.keep ?_ (fun _ => rfl) (fun _ _ => Iff.rfl) rfl
    refine seats_withRoster _ heard ?_ fun _ _ => Iff.rfl
    rw [RosterView.filled, (hfits.roster_fits hshown).isAmong_eraseIdx hfound, and_iff_left hne,
      seats_iff hshown]
  | attached hshown hfound hline hrecord hadmits =>
    exact hsettled.join_attached hfits hshown (hjoin hshown hfound)
      ((hfits.roster_fits hshown).head_free hline) hrecord (by simp) heard
  | unattached hshown hfound hline hrecord =>
    exact hsettled.join_unattached hfits hshown (hjoin hshown hfound)
      ((hfits.roster_fits hshown).head_free hline) heard
  | waiting hshown hfound =>
    refine hsettled.keep ?_ (fun _ => rfl) (fun _ _ => Iff.rfl) rfl
    exact seats_withRoster _ heard (seats_iff hshown).symm fun _ _ => Iff.rfl

/-- Who has left the rosters of some courses has no seat in any of them. -/
theorem LeavesAll.seats_self {courses : List Course} {left : List (Course × DropOutcome Student)}
    (h : LeavesAll student view courses left heard after) (hfits : view.Fits)
    {other : String × String} (hseat : after.Seats student.id other) :
    view.Seats student.id other ∧ ∀ course ∈ courses, other ≠ course.key := by
  induction h with
  | nil => exact ⟨hseat, List.forall_mem_nil _⟩
  | @pass view after course rest left heard hoff hrest ih =>
    obtain ⟨hbefore, hnone⟩ := ih hfits hseat
    refine ⟨hbefore, List.forall_mem_cons.mpr ⟨?_, hnone⟩⟩
    intro hkey
    obtain ⟨shown, hshown, on, hmem, hid⟩ := hbefore
    have hany := List.any_eq_false.mp (hoff shown (hkey ▸ hshown)) on
      (List.mem_append_left _ hmem)
    exact hany (Student.beq_iff.mpr hid)
  | leave hleaves hrest ih =>
    obtain ⟨hbetween, hnone⟩ := ih (hleaves.fits hfits) hseat
    obtain ⟨hbefore, hkey⟩ := (hleaves.seats_self hfits other).mp hbetween
    exact ⟨hbefore, List.forall_mem_cons.mpr ⟨hkey, hnone⟩⟩

theorem LeavesAll.settled_of_ne {courses : List Course}
    {left : List (Course × DropOutcome Student)}
    (h : LeavesAll student view courses left heard after) (hfits : view.Fits)
    (hne : id ≠ student.id) (hsettled : view.Settled ledger id) :
    after.Settled (DropOutcome.grantsOfAll left ++ ledger) id := by
  induction h generalizing ledger with
  | nil => exact hsettled
  | pass hoff hrest ih => exact ih hfits hsettled
  | leave hleaves hrest ih =>
    rw [DropOutcome.grantsOfAll, List.append_assoc]
    exact ih (hleaves.fits hfits) (hleaves.settled_of_ne hfits hne hsettled)

theorem Enters.settled {status : EnrollmentStatus} {acting : String}
    (h : view.Enters acting key status heard after) (hfits : view.Fits)
    (hsettled : view.Settled ledger id) :
    after.Settled (status.grants acting key ++ ledger) id := by
  cases h with
  | @seated shown record heard hrecord hshown hany =>
    obtain rfl := hfits.id_eq hrecord
    refine hsettled.join_attached hfits hshown Student.isAmong_append_singleton ?_ hrecord (by simp)
      heard
    intro ⟨other, hmem, hid⟩
    exact List.any_eq_false.mp hany other (List.mem_append_left _ hmem) (Student.beq_iff.mpr hid)
  | @waiting shown record heard hrecord hshown hany =>
    refine hsettled.keep ?_ (fun _ => rfl) (fun _ _ => Iff.rfl) rfl
    exact seats_withRoster _ heard (seats_iff hshown).symm fun _ _ => Iff.rfl

namespace Settled

theorem withRecord_of_ne (h : view.Settled ledger id) {other : String} (hne : id ≠ other)
    (record : RecordView) : (view.withRecord other record).Settled ledger id :=
  h.keep (fun _ => Iff.rfl) (fun _ => rfl) (fun _ _ => Iff.rfl)
    (RegistrarView.withRecord_of_ne view hne record)

theorem withStudent (h : view.Settled ledger id) (hfits : view.Fits) {new : String}
    (hnone : view.students new = none) (maxCredits : UInt32) :
    (view.withRecord new ⟨⟨new, maxCredits⟩, Schedule.defaultTitle, []⟩).Settled ledger id := by
  by_cases hid : id = new
  · subst hid
    refine of_empty ?_ ?_
    · intro key hseat
      obtain ⟨roster, hroster, student, hmem, hid⟩ := hseat
      have hknown := (hfits.hosts _ _ hroster).known student (List.mem_append_left _ hmem)
      rw [hid, onFile, hnone] at hknown
      cases hknown
    · intro record hrecord
      rw [withRecord_self] at hrecord
      cases hrecord
      rfl
  · exact h.withRecord_of_ne hid _

theorem withCourse (h : view.Settled ledger id) (hfits : view.Fits) {course : Course} {cap : Nat}
    (hadd : view.CanAdd course cap) : (view.withCourse course cap).Settled ledger id := by
  have hnone : ∀ other, view.Seats id other → other ≠ course.key := by
    intro other hseat
    obtain ⟨roster, hroster, -⟩ := hseat
    exact hfits.key_ne hadd.new hroster
  refine h.keep ?_ (fun _ => rfl) ?_ rfl
  · intro other
    by_cases hkey : other = course.key
    · rw [hkey, seats_iff (withCourse_self course cap)]
      refine iff_of_false ?_ fun hseat => hnone _ hseat rfl
      intro ⟨student, hmem, _⟩
      exact List.not_mem_nil hmem
    · rw [Seats, withCourse_of_ne view cap hkey, Seats]
  · intro other hseat
    rw [mem_withCourse]
    apply or_iff_right
    intro heq
    exact hnone _ hseat (congrArg Course.key heq)

theorem withoutCourse (h : view.Settled ledger id) (hfits : view.Fits) {course : Course}
    {shown : RosterView Course Student} (hshown : view.rosters course.key = some shown) :
    (view.withoutCourse course shown.enrolled).Settled ledger id := by
  have hseats : ∀ other, (view.withoutCourse course shown.enrolled).Seats id other ↔
      view.Seats id other ∧ other ≠ course.key := by
    intro other
    by_cases hkey : other = course.key
    · refine iff_of_false ?_ fun hseat => hseat.2 hkey
      intro hseat
      obtain ⟨roster, hroster, -⟩ := hseat
      rw [hkey, withoutCourse_self] at hroster
      cases hroster
    · rw [and_iff_left hkey, Seats, withoutCourse_of_ne view _ hkey, Seats]
  by_cases hon : Student.IsAmong id shown.enrolled
  · obtain ⟨student, hmem, rfl⟩ := hon
    have hknown := (hfits.hosts _ _ hshown).known student (List.mem_append_left _ hmem)
    obtain ⟨record, hrecord, -⟩ := students_of_onFile hknown
    refine h.give_up hrecord hseats (fun _ => rfl) ?_
      (Students.without_of_mem hrecord hmem course)
    intro other hkey
    rw [hfits.mem_withoutCourse, and_iff_left hkey]
  · have hfree : ∀ other, view.Seats id other → other ≠ course.key := by
      intro other hseat hkey
      rw [hkey, seats_iff hshown] at hseat
      exact hon hseat
    refine h.keep ?_ (fun _ => rfl) ?_ ?_
    · intro other
      exact (hseats other).trans (and_iff_left_of_imp (hfree other))
    · intro other hseat
      rw [hfits.mem_withoutCourse, and_iff_left (hfree _ hseat)]
    · apply Students.without_of_forall_ne course
      intro student hmem hid
      exact hon ⟨student, hmem, hid⟩

end Settled

theorem Steps.settled {call : RegistrarCall} {answer : RegistrarAnswer} {grants : List SeatGrant}
    (h : view.Steps call answer grants heard after) (hfits : view.Fits)
    (hsettled : ∀ id, view.Settled ledger id) (id : String) :
    after.Settled (grants ++ ledger) id := by
  cases h with
  | addCourse hadd => exact (hsettled id).withCourse hfits hadd
  | removeCourse hcourse hshown => exact (hsettled id).withoutCourse hfits hshown
  | removeNothing => exact hsettled id
  | setEnrollmentCap hshown =>
    refine (hsettled id).keep ?_ (fun _ => rfl) (fun _ _ => Iff.rfl) rfl
    exact seats_withRoster _ heard (seats_iff hshown).symm fun _ _ => Iff.rfl
  | addStudent hmin hmax hnone => exact (hsettled id).withStudent hfits hnone _
  | enroll henters => exact henters.settled hfits (hsettled id)
  | @drop acting name code record shown outcome heard between hrecord hshown hleaves =>
    obtain rfl := hfits.id_eq hrecord
    by_cases hid : id = record.student.id
    · subst hid
      have hkey := (hfits.hosts _ _ hshown).key_eq
      refine (hsettled _).give_up hrecord ?_ (hleaves.latest_self hfits) ?_ (withRecord_self _ _ _)
      · intro other
        rw [hkey]
        exact hleaves.seats_self hfits other
      · intro other _
        exact iff_of_eq (congrArg (other ∈ ·) hleaves.courses_eq)
    · exact (hleaves.settled_of_ne hfits hid (hsettled id)).withRecord_of_ne hid _
  | @resetSchedule acting record left heard more between hrecord hleaves =>
    obtain rfl := hfits.id_eq hrecord
    by_cases hid : id = record.student.id
    · subst hid
      refine Settled.of_empty ?_ ?_
      · intro key hseat
        obtain ⟨hbefore, hnone⟩ := hleaves.seats_self hfits hseat
        obtain ⟨roster, hroster, -⟩ := hbefore
        have hhosts := hfits.hosts _ _ hroster
        exact hnone _ hhosts.course_mem hhosts.key_eq.symm
      · intro emptied hemptied
        rw [withRecord_self] at hemptied
        cases hemptied
        rfl
    · exact (hleaves.settled_of_ne hfits hid (hsettled id)).withRecord_of_ne hid _

/-- A schedule holds courses of the catalog only, and so it has room for each of them. -/
theorem Fits.not_overfull (h : view.Fits) (hsettled : ∀ id, view.Settled ledger id) :
    ¬ view.Overfull := by
  intro ⟨id, record, course, hrecord, hcourse, hadmits, hfull⟩
  have hany := Schedule.any_of_checkAgainst hadmits.1
  have hdistinct : Distinct (course :: record.items) :=
    ((hsettled id).distinct record hrecord).cons hany
  have hsub : course :: record.items ⊆ view.courses := by
    refine List.cons_subset.mpr ⟨hcourse, ?_⟩
    intro other hmem
    exact (((hsettled id).mem_iff record hrecord other).mp hmem).1
  -- The course and those scheduled are different courses of the catalog, which is bounded.
  have hlength := hdistinct.nodup.length_le_of_subset hsub
  have hbound := h.courses_le
  rw [List.length_cons] at hlength
  omega

end RegistrarView

namespace Registrar

def Seats (registrar : Registrar) (student : Student) (course : Course) : Prop :=
  ∃ roster, registrar.roster course.name course.sectionCode = .ok roster ∧
    roster.isEnrolled student = true

/-- The schedule of a student is what the student's seats make of it: it holds, each once, just the
courses of the catalog in which the student has a seat, but for seats that came from a promotion
which the schedule did not take; it holds them as they are in the catalog; and how each seat came
about is in the ledger. -/
structure Accords (registrar : Registrar) (ledger : List SeatGrant) (record : StudentRecord) :
    Prop where
  distinct : Distinct record.schedule.toList
  mem_iff : ∀ course, course ∈ record.schedule.toList ↔
    course ∈ registrar.courses ∧ registrar.Seats record.student course ∧
      SeatGrant.latest ledger record.student.id course.key ≠ some (.promoted false)
  entry : ∀ course ∈ record.schedule.toList,
    registrar.course course.name course.sectionCode = .ok course
  accounted : ∀ course, registrar.Seats record.student course →
    (SeatGrant.latest ledger record.student.id course.key).isSome

namespace Stands

variable {view : RegistrarView} {registrar : Registrar}

theorem seats_iff (h : Stands view registrar) (student : Student) (course : Course) :
    registrar.Seats student course ↔ view.Seats student.id course.key := by
  have hon : ∀ {roster : CourseRoster} {shown : RosterView Course Student},
      Roster.Stands shown roster →
      (roster.isEnrolled student = true ↔ Student.IsAmong student.id shown.enrolled) := by
    intro roster shown hroster
    rw [hroster.isEnrolled_eq, List.any_eq_true]
    exact exists_congr fun _ => and_congr_right' Student.beq_iff
  constructor
  · intro ⟨roster, hroster, henrolled⟩
    obtain ⟨shown, hshown, hstands⟩ := h.exists_shown hroster
    exact ⟨shown, hshown, (hon hstands).mp henrolled⟩
  · intro ⟨shown, hshown, hamong⟩
    obtain ⟨roster, hfound, hstands⟩ := h.rosters.exists_roster hshown
    exact ⟨roster, roster_of_find? hfound, (hon hstands).mpr hamong⟩

theorem course_ok (h : Stands view registrar) (hfits : view.Fits) {course : Course}
    (hcourse : course ∈ view.courses) :
    registrar.course course.name course.sectionCode = .ok course := by
  cases hfound : view.courses.find? (·.isNamed course.name course.sectionCode) with
  | none => exact absurd (Course.isNamed_iff.mpr rfl) (List.find?_eq_none.mp hfound course hcourse)
  | some found =>
    rw [h.course_of_find? hfound, hfits.course_eq (List.mem_of_find?_eq_some hfound) hcourse
      (RegistrarView.key_of_find? hfound)]

end Stands

end Registrar

theorem RegistrarView.settled_opened (config : RegistrarConfig) (audit : Option AuditSink)
    (id : String) : (opened config audit).Settled [] id :=
  Settled.of_empty (by simp [Seats, opened]) nofun

namespace Registrar.Stands

variable {view : RegistrarView} {registrar : Registrar} {earlier : List SeatGrant}

/-- Where everything is settled, a call is refused and changes nothing, or takes a step, after which
everything is settled again. -/
theorem settled_cases (h : Stands view registrar) (hfits : view.Fits)
    (hsettled : ∀ id, view.Settled earlier id) (call : RegistrarCall) :
    (∃ e heard, call.perform.Refuses registrar e heard ∧ call.grants registrar = []) ∨
    ∃ answer heard after, view.Steps call answer (call.grants registrar) heard after ∧
      call.perform.Answers registrar answer (Stands after) heard ∧ after.Fits ∧
      ∀ id, after.Settled (call.grants registrar ++ earlier) id := by
  obtain hrefused | ⟨answer, heard, after, hsteps, hcall⟩ | ⟨hover, -⟩ := h.perform_cases hfits call
  · exact .inl hrefused
  · exact .inr ⟨answer, heard, after, hsteps, hcall, hsteps.fits hfits,
      hsteps.settled hfits hsettled⟩
  · exact absurd hover (hfits.not_overfull hsettled)

end Registrar.Stands

namespace RegistrarCall

open Registrar

/-- What every step keeps, a run keeps, besides that everything is settled. -/
theorem kept_finalState {Inv : RegistrarView → Prop}
    (hstep : ∀ {view after : RegistrarView} {call : RegistrarCall} {answer : RegistrarAnswer}
      {grants : List SeatGrant} {heard : List Notice},
      view.Steps call answer grants heard after → Inv view → Inv after)
    (calls : List RegistrarCall) {view : RegistrarView} {registrar : Registrar}
    {earlier : List SeatGrant} (h : Stands view registrar) (hfits : view.Fits)
    (hsettled : ∀ id, view.Settled earlier id) (hInv : Inv view) :
    ∃ after, Stands after (Call.finalState perform calls registrar) ∧ after.Fits ∧
      (∀ id, after.Settled (ledger calls registrar earlier) id) ∧ Inv after := by
  -- A refused call adds nothing to the ledger; an answered one is a step, which keeps `Settled`.
  induction calls generalizing view registrar earlier with
  | nil => exact ⟨view, h, hfits, hsettled, hInv⟩
  | cons call rest ih =>
    obtain ⟨e, heard, hcall, hgrants⟩ | ⟨answer, heard, after, hsteps, hcall, hafter, hlater⟩ :=
      h.settled_cases hfits hsettled call
    · rw [Call.finalState, ledger, hcall.state, hgrants, List.nil_append]
      exact ih h hfits hsettled hInv
    · exact ih hcall.state hafter hlater (hstep hsteps hInv)

theorem settled_finalState (calls : List RegistrarCall) {view : RegistrarView}
    {registrar : Registrar} {earlier : List SeatGrant} (h : Stands view registrar)
    (hfits : view.Fits) (hsettled : ∀ id, view.Settled earlier id) :
    ∃ after, Stands after (Call.finalState perform calls registrar) ∧ after.Fits ∧
      ∀ id, after.Settled (ledger calls registrar earlier) id := by
  obtain ⟨after, hafter, hkept, hlater, -⟩ :=
    @kept_finalState (fun _ => True) (fun _ _ => trivial) calls _ _ _ h hfits hsettled trivial
  exact ⟨after, hafter, hkept, hlater⟩

/-- What shows after any calls on a registrar fits together, and everything is settled. -/
theorem shown_finalState {config : RegistrarConfig} {audit : Option AuditSink} {start : Registrar}
    (hstart : Registrar.make config audit = .ok start) (calls : List RegistrarCall) :
    let reached := Call.finalState perform calls start
    Stands reached.view reached ∧ reached.view.Fits ∧
      ∀ id, reached.view.Settled (ledger calls start []) id := by
  intro reached
  obtain ⟨view, hstands, hfits, hsettled⟩ := settled_finalState calls (Stands.of_make hstart)
    (RegistrarView.fits_opened config audit) (RegistrarView.settled_opened config audit)
  obtain rfl := hstands.view_eq
  exact ⟨hstands, hfits, hsettled⟩

/-- After any calls on a registrar, the schedule of every student accords with the student's
seats. -/
theorem accords_finalState {config : RegistrarConfig} {audit : Option AuditSink}
    {start : Registrar} (hstart : Registrar.make config audit = .ok start)
    (calls : List RegistrarCall) {id : String} {record : StudentRecord}
    (hrecord : (Call.finalState perform calls start).record id = .ok record) :
    (Call.finalState perform calls start).Accords (ledger calls start []) record := by
  obtain ⟨view, hstands, hfits, hsettled⟩ := settled_finalState calls (Stands.of_make hstart)
    (RegistrarView.fits_opened config audit) (RegistrarView.settled_opened config audit)
  obtain ⟨shown, hshown, hview⟩ := hstands.exists_record hrecord
  obtain rfl := hview.view_eq
  obtain rfl := hfits.id_eq hshown
  have hcourses : (Call.finalState perform calls start).courses = view.courses :=
    hstands.catalog.toList_eq
  have hmem : ∀ course, course ∈ record.schedule.toList ↔
      view.Owes (ledger calls start []) record.student.id course :=
    (hsettled record.student.id).mem_iff record.view hshown
  refine ⟨(hsettled _).distinct record.view hshown, ?_, ?_, ?_⟩
  · intro course
    rw [hmem, RegistrarView.Owes, hcourses, hstands.seats_iff]
  · intro course hon
    exact hstands.course_ok hfits ((hmem course).mp hon).1
  · intro course hseat
    exact (hsettled _).accounted _ ((hstands.seats_iff _ _).mp hseat)

/-- A student who took another section while waiting gets a seat that the schedule does not take. -/
theorem accords_finalState_students :
    let first : Course := ⟨"Logic", "Logic", "001", 3, none, .arranged⟩
    let second : Course := ⟨"Logic", "Logic", "002", 3, none, .arranged⟩
    let calls : List RegistrarCall :=
      [addCourse first 1, addCourse second 1, addStudent "ada" 9, addStudent "bob" 9,
        enroll "ada" "Logic" "001", enroll "bob" "Logic" "001", enroll "bob" "Logic" "002",
        drop "ada" "Logic" "001"]
    ∃ start record, Registrar.make ⟨⟨1, 2, 1⟩, 3, 18⟩ none = .ok start ∧
      (Call.finalState perform calls start).record "bob" = .ok record ∧
      record.schedule.toList = [second] ∧
      (Call.finalState perform calls start).Accords
        [⟨"bob", ("Logic", "001"), .promoted false⟩, ⟨"bob", ("Logic", "002"), .enrolled⟩,
          ⟨"ada", ("Logic", "001"), .enrolled⟩] record := by
  intro first second calls
  let start : Registrar :=
    ⟨⟨⟨1, 2, 1⟩, 3, 18⟩, SortedList.empty, Directory.empty, Directory.empty, none⟩
  have hmake : Registrar.make ⟨⟨1, 2, 1⟩, 3, 18⟩ none = .ok start := rfl
  have hledger : ledger calls start [] =
      [⟨"bob", ("Logic", "001"), .promoted false⟩, ⟨"bob", ("Logic", "002"), .enrolled⟩,
        ⟨"ada", ("Logic", "001"), .enrolled⟩] := by decide +kernel
  have hitems : ((Call.finalState perform calls start).record "bob").map (·.schedule.toList) =
      .ok [second] := by decide +kernel
  cases hrecord : (Call.finalState perform calls start).record "bob" with
  | error e =>
    rw [hrecord] at hitems
    cases hitems
  | ok record =>
    rw [hrecord] at hitems
    rw [← hledger]
    exact ⟨start, record, hmake, hrecord, Except.ok.inj hitems,
      accords_finalState hmake calls hrecord⟩

end RegistrarCall

end Enrollment
