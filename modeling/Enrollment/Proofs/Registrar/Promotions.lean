import Enrollment.Proofs.Registrar.Trail

/-!
Runs of a registrar with an audit trail that loses nothing: replayed, the trail leads to the rosters
as they are, and it tells of every promotion what the schedule of the promoted student said to it.
-/
namespace Enrollment

structure Telling where
  student : Student
  course : Course
  verdict : Except ScheduleError Unit

def Telling.entry (telling : Telling) : AuditEntry :=
  ⟨toString telling.student, toString telling.course, .promote,
    if telling.verdict.isOk then none else some "schedule rejected course"⟩

def AuditEntry.promotions (entries : List AuditEntry) : List AuditEntry :=
  entries.filter (·.action == .promote)

open AuditEntry

def Roster.tellings (roster : CourseRoster) (student : Student) (students : Students) :
    List Telling :=
  match (Roster.drop Students.attach (some student) (roster, students)).result with
  | .ok (.withdrawn _ (some promotion)) =>
    [⟨promotion.entity, roster.course,
      (Students.attach promotion.entity roster.course students).result⟩]
  | _ => []

def Registrar.tellingsOfAll (student : Student) : List Course → Registrar → List Telling
  | [], _ => []
  | course :: rest, registrar =>
    match registrar.rosters.find? course.key with
    | none => tellingsOfAll student rest registrar
    | some roster =>
      if roster.isEnrolled student || roster.isWaitlisted student then
        roster.tellings student registrar.students ++
          tellingsOfAll student rest (onRoster course.name course.sectionCode
            (Roster.drop Students.attach (some student)) registrar).state
      else tellingsOfAll student rest registrar

namespace RegistrarCall

def tellings (registrar : Registrar) : RegistrarCall → List Telling
  | drop id name code =>
    match registrar.record id, registrar.roster name code with
    | .ok record, .ok roster => roster.tellings record.student registrar.students
    | _, _ => []
  | resetSchedule id =>
    match registrar.record id with
    | .ok record => Registrar.tellingsOfAll record.student registrar.courses registrar
    | .error _ => []
  | _ => []

def allTellings : List RegistrarCall → Registrar → List Telling
  | [], _ => []
  | call :: rest, registrar =>
    call.tellings registrar ++ allTellings rest (call.perform registrar).state

end RegistrarCall

theorem promotions_append (entries more : List AuditEntry) :
    promotions (entries ++ more) = promotions entries ++ promotions more :=
  List.filter_append entries more

theorem Roster.Sound.drop_promotions {roster : CourseRoster} (h : roster.Sound)
    (haudited : roster.audited = true) (student : Student) (students : Students) :
    promotions (Notice.audits
      (Roster.drop Students.attach (some student) (roster, students)).notices) =
      (roster.tellings student students).map Telling.entry := by
  obtain ⟨hstands, hfits⟩ := h
  have haudited : roster.view.audited = true := haudited
  have hheard : ∀ {outcome : DropOutcome Student} {P : CourseRoster × Students → Prop}
      {heard : List Notice}, (Roster.drop Students.attach (some student)).Answers (roster, students)
        outcome P heard →
      Notice.audits (Roster.drop Students.attach (some student) (roster, students)).notices =
        Notice.audits heard := by
    intro outcome P heard hcall
    rw [← hcall.heard, Notice.audits_heard]
  obtain ⟨index, removed, -, -, -, hcall⟩ | ⟨index, removed, next, rest, -, -, -, hcall⟩ |
    ⟨index, removed, -, -, -, hcall⟩ | ⟨-, -, hcall⟩ :=
    hstands.drop_cases hfits Students.attach students student
  · rw [hheard hcall, RosterView.audits_entry_line haudited, tellings, hcall.result]
    rfl
  · have htold : Notice.audits (Notice.heard
        (Students.attach next roster.view.course students).notices) = [] := by
      rw [Notice.audits_heard]
      exact Students.silent_attach next roster.view.course students
    rw [hheard hcall, RosterView.audits_replaced haudited removed next htold, tellings,
      hcall.result]
    rfl
  · rw [hheard hcall, RosterView.audits_entry_line haudited, tellings, hcall.result]
    rfl
  · rw [tellings, hcall]
    rfl

/-- What comes after a call and has nothing for the audit trail tells of no promotion. -/
theorem promotions_bind_silent {σ ε α β : Type} {call : Call σ ε α} {next : α → Call σ ε β}
    (hnext : ∀ a, (next a).Silent) (s : σ) :
    promotions (Notice.audits ((call >>= next) s).notices) =
      promotions (Notice.audits (call s).notices) := by
  rw [Call.bind_apply]
  cases (call s).result with
  | error e => rfl
  | ok a => rw [Notice.audits_append, hnext a, List.append_nil]

namespace Registrar.Stands

variable {view : RegistrarView} {registrar : Registrar}

theorem onRoster_promotions (h : Stands view registrar) (hfits : view.Fits)
    (haudited : view.Audited) {name code : String} {roster : CourseRoster}
    (hfound : registrar.rosters.find? (name, code) = some roster) (student : Student) :
    promotions (Notice.audits (onRoster name code
      (Roster.drop Students.attach (some student)) registrar).notices) =
      (roster.tellings student registrar.students).map Telling.entry := by
  have hshown := h.rosters.view_of_find? hfound
  have hstands := h.rosters.stands _ roster hfound
  have hsound : roster.Sound := ⟨hstands, hfits.roster_fits hshown⟩
  simp only [onRoster, roster_of_find? hfound]
  exact hsound.drop_promotions (haudited _ _ hshown) student registrar.students

theorem drop_promotions (h : Stands view registrar) (hfits : view.Fits) (haudited : view.Audited)
    (id name code : String) :
    promotions (Notice.audits (drop id name code registrar).notices) =
      ((RegistrarCall.drop id name code).tellings registrar).map Telling.entry := by
  rw [RegistrarCall.tellings, drop, Call.current_bind]
  cases registrar.record id with
  | error e => rfl
  | ok record =>
    cases hroster : registrar.roster name code with
    | error e => rfl
    | ok roster =>
      have hsilent : ∀ outcome, (do
          onStudents (Students.detach record.student roster.course)
          return outcome : Call Registrar RegistrationError (DropOutcome Student)).Silent := by
        intro outcome
        exact ((Students.minor_detach _ _).silent.within _ _).bind fun _ => Call.Silent.pure outcome
      simp only [Call.ofExcept_ok, Call.pure_bind]
      rw [promotions_bind_silent hsilent]
      exact h.onRoster_promotions hfits haudited (find?_of_roster hroster) record.student

theorem leaveAll_promotions (h : Stands view registrar) (hfits : view.Fits)
    (haudited : view.Audited) {student : Student} (hstudent : view.onFile student.id = some student)
    (courses : List Course) :
    promotions (Notice.audits (leaveAll student courses registrar).notices) =
      (tellingsOfAll student courses registrar).map Telling.entry := by
  induction courses generalizing view registrar with
  | nil => rfl
  | cons course rest ih =>
    rw [leaveAll, tellingsOfAll, Call.current_bind]
    cases hshown : view.rosters course.key with
    | none =>
      simp only [h.rosters.find?_eq_none hshown]
      exact ih h hfits haudited hstudent
    | some shown =>
      obtain ⟨roster, hfound, hstands⟩ := h.rosters.exists_roster hshown
      simp only [hfound]
      by_cases hon : (roster.isEnrolled student || roster.isWaitlisted student) = true
      · rw [if_pos hon, if_pos hon]
        obtain ⟨heard, hoff, -⟩ | ⟨outcome, heard, between, hleaves, hleave⟩ :=
          h.leave_cases hfits hshown hstudent
        · rw [hstands.isEnrolled_eq, hstands.isWaitlisted_eq, ← List.any_append, hoff] at hon
          cases hon
        · obtain ⟨left, notices, hreply, hleft, -⟩ := hleave.reply
          have htold := h.onRoster_promotions hfits haudited hfound student
          have hknown : between.onFile student.id = some student := by
            rw [hleaves.onFile_eq, hstudent]
          have hrest := ih hleft (hleaves.fits hfits) (hleaves.audited haudited) hknown
          rw [hreply] at htold
          rw [Call.bind_of_ok hreply, Reply.after, Notice.audits_append, promotions_append, htold,
            promotions_bind_silent fun _ => Call.Silent.pure _, hrest, hreply, List.map_append]
      · rw [if_neg hon, if_neg hon]
        exact ih h hfits haudited hstudent

theorem resetSchedule_promotions (h : Stands view registrar) (hfits : view.Fits)
    (haudited : view.Audited) (id : String) :
    promotions (Notice.audits (resetSchedule id registrar).notices) =
      ((RegistrarCall.resetSchedule id).tellings registrar).map Telling.entry := by
  rw [RegistrarCall.tellings, resetSchedule, Call.current_bind]
  cases hrecord : registrar.record id with
  | error e => rfl
  | ok record =>
    obtain ⟨shown, hshown, hview⟩ := h.exists_record hrecord
    obtain rfl := hview.view_eq
    simp only [Call.ofExcept_ok, Call.pure_bind]
    rw [promotions_bind_silent]
    · exact h.leaveAll_promotions hfits haudited (hfits.known_of_students hshown) registrar.courses
    · intro left
      refine Call.Silent.bind ((Students.minor_reset _).silent.within _ _) fun _ => ?_
      exact (Call.Silent.log _ _ _).bind fun _ => Call.Silent.pure _

end Registrar.Stands

theorem AuditSink.audits_eq_nil {sink : AuditSink} {notices : List Notice}
    (hroom : sink.entries.length + (Notice.audits notices).length ≤ sink.maxEvents)
    (hsame : sink.file notices = sink) : Notice.audits notices = [] := by
  rw [file_of_room hroom] at hsame
  have hentries := congrArg AuditSink.entries hsame
  simpa using hentries

theorem RegistrarView.Enters.promotions_eq_nil {view after : RegistrarView} {id : String}
    {key : String × String} {status : EnrollmentStatus} {heard : List Notice}
    (h : view.Enters id key status heard after) (haudited : view.Audited) :
    promotions (Notice.audits heard) = [] := by
  cases h with
  | seated hrecord hshown hany hadmits hopen hheard =>
    rw [hheard, Notice.audits_append, RosterView.audits_entry_line (haudited _ _ hshown)]
    rfl
  | waiting hrecord hshown hany hadmits hfull hline hheard =>
    rw [hheard, RosterView.audits_entry_line (haudited _ _ hshown)]
    rfl

namespace RegistrarCall

open Registrar

variable {config : RegistrarConfig} {view : RegistrarView} {registrar : Registrar}
  {earlier : List SeatGrant} {sink : AuditSink} {call : RegistrarCall}

theorem audit_eq_file (h : Stands view registrar) (htraces : view.Traces sink)
    (call : RegistrarCall) : (call.perform registrar).state.audit =
      some (sink.file (call.perform registrar).notices) := by
  have hfiles := perform_files call registrar
  rwa [Files, h.audit, htraces.audit_eq, Option.map_some] at hfiles

/-- A call that takes no course out of the catalog is told by the trail, if the sink has room for
what the call gives. -/
theorem perform_traces (h : Stands view registrar) (hfits : view.Fits)
    (hsettled : ∀ id, view.Settled earlier id) (hview : view.Catalogued config)
    (htraces : view.Traces sink) (hkept : (call.perform registrar).result ≠ .ok (.removed true))
    (hroom : sink.entries.length + (Notice.audits (call.perform registrar).notices).length ≤
      sink.maxEvents) :
    ∃ after, Stands after (call.perform registrar).state ∧ after.Fits ∧
      (∀ id, after.Settled (call.grants registrar ++ earlier) id) ∧ after.Catalogued config ∧
      after.Traces (sink.file (call.perform registrar).notices) := by
  have hfile := audit_eq_file h htraces call
  obtain ⟨e, heard, hcall, hgrants⟩ | ⟨answer, heard, after, hsteps, hcall, hafter, hlater⟩ :=
    h.settled_cases hfits hsettled call
  · rw [hcall.state, h.audit, htraces.audit_eq] at hfile
    rw [hcall.state, hgrants, List.nil_append, ← Option.some.inj hfile]
    exact ⟨view, h, hfits, hsettled, hview, htraces⟩
  · have haudits : Notice.audits (call.perform registrar).notices = Notice.audits heard := by
      rw [← hcall.heard, Notice.audits_heard]
    have hanswer : answer ≠ .removed true := by
      intro hremoved
      exact hkept (hremoved ▸ hcall.result)
    rw [haudits] at hroom
    obtain ⟨later, hkeeps⟩ := hsteps.traces hfits hview htraces hanswer hroom
    rw [hcall.state.audit, hkeeps.audit_eq] at hfile
    rw [← Option.some.inj hfile]
    exact ⟨after, hcall.state, hafter, hlater, hsteps.catalogued hview, hkeeps⟩

/-- A call whose steps leave the sink as it was, or tell of no promotion, promotes nobody. -/
theorem promotions_eq_nil (h : Stands view registrar) (hfits : view.Fits)
    (hsettled : ∀ id, view.Settled earlier id) (htraces : view.Traces sink)
    (hroom : sink.entries.length + (Notice.audits (call.perform registrar).notices).length ≤
      sink.maxEvents)
    (hquiet : ∀ {answer grants heard after}, view.Steps call answer grants heard after →
      after.audit = view.audit ∨ promotions (Notice.audits heard) = []) :
    promotions (Notice.audits (call.perform registrar).notices) = [] := by
  have hfile := audit_eq_file h htraces call
  have hsame : (call.perform registrar).state.audit = some sink →
      promotions (Notice.audits (call.perform registrar).notices) = [] := by
    intro hsink
    rw [hsink] at hfile
    rw [AuditSink.audits_eq_nil hroom (Option.some.inj hfile).symm]
    rfl
  obtain ⟨e, heard, hcall, -⟩ | ⟨answer, heard, after, hsteps, hcall, -⟩ :=
    h.settled_cases hfits hsettled call
  · exact hsame (by rw [hcall.state, h.audit, htraces.audit_eq])
  · cases hquiet hsteps with
    | inl haudit => exact hsame (by rw [hcall.state.audit, haudit, htraces.audit_eq])
    | inr hnone =>
      rw [← hcall.heard, Notice.audits_heard] at hnone
      exact hnone

theorem perform_promotions (h : Stands view registrar) (hfits : view.Fits)
    (hsettled : ∀ id, view.Settled earlier id) (htraces : view.Traces sink)
    (hroom : sink.entries.length + (Notice.audits (call.perform registrar).notices).length ≤
      sink.maxEvents) :
    promotions (Notice.audits (call.perform registrar).notices) =
      (call.tellings registrar).map Telling.entry := by
  have hnone := fun hquiet => promotions_eq_nil h hfits hsettled htraces hroom hquiet
  cases call with
  | drop id name code =>
    rw [perform, promotions_bind_silent fun _ => Call.Silent.pure _]
    exact h.drop_promotions hfits htraces.audited id name code
  | resetSchedule id =>
    rw [perform, promotions_bind_silent fun _ => Call.Silent.pure _]
    exact h.resetSchedule_promotions hfits htraces.audited id
  | enroll id name code =>
    apply hnone
    intro answer grants heard after hsteps
    cases hsteps with
    | enroll henters => exact .inr (henters.promotions_eq_nil htraces.audited)
  | setEnrollmentCap name code cap =>
    apply hnone
    intro answer grants heard after hsteps
    cases hsteps with
    | setEnrollmentCap hshown hmin hmax henrolled hheard =>
      rw [hheard]
      exact .inr rfl
  | addCourse course cap =>
    apply hnone
    intro answer grants heard after hsteps
    cases hsteps
    exact .inl rfl
  | removeCourse name code =>
    apply hnone
    intro answer grants heard after hsteps
    cases hsteps <;> exact .inl rfl
  | addStudent id maxCredits =>
    apply hnone
    intro answer grants heard after hsteps
    cases hsteps
    exact .inl rfl

/-- Calls that take no course out of the catalog are told by the trail, one after another, if the
sink has room for what all of them give. -/
theorem run_traces (calls : List RegistrarCall) (h : Stands view registrar) (hfits : view.Fits)
    (hsettled : ∀ id, view.Settled earlier id) (hview : view.Catalogued config)
    (htraces : view.Traces sink)
    (hkept : ∀ reply ∈ Call.run perform calls registrar, reply.result ≠ .ok (.removed true))
    (hroom : sink.entries.length +
      (Notice.audits (Call.allNotices perform calls registrar)).length ≤ sink.maxEvents) :
    (∃ after, Stands after (Call.finalState perform calls registrar) ∧ after.Fits ∧
      after.Traces (sink.file (Call.allNotices perform calls registrar))) ∧
    promotions (Notice.audits (Call.allNotices perform calls registrar)) =
      (allTellings calls registrar).map Telling.entry := by
  -- The sink grows with the calls: what the first gives is in it when the rest are made.
  induction calls generalizing view registrar earlier sink with
  | nil => exact ⟨⟨view, h, hfits, htraces⟩, rfl⟩
  | cons call rest ih =>
    obtain ⟨hfirst, hlater⟩ := List.forall_mem_cons.mp hkept
    rw [Call.allNotices_cons] at hroom
    obtain ⟨hnow, hthen⟩ := AuditSink.room_append hroom
    obtain ⟨between, hstands, hfit, hseats, hcatalog, htold⟩ :=
      perform_traces h hfits hsettled hview htraces hfirst hnow
    obtain ⟨hafter, hrest⟩ := ih hstands hfit hseats hcatalog htold hlater hthen
    rw [Call.allNotices_cons, AuditSink.file_append, Notice.audits_append, promotions_append,
      perform_promotions h hfits hsettled htraces hnow, hrest, allTellings, List.map_append]
    exact ⟨hafter, rfl⟩

/-- After calls that take no course out of the catalog, on a registrar whose sink has room for all
that they give: the sink has just that, the entries of each course lead to who is on its roster,
and those of promotions say what the schedules said. -/
theorem traced_finalState {maxEvents : Nat} {start : Registrar}
    (hstart : Registrar.make config (some (AuditSink.empty maxEvents)) = .ok start)
    (calls : List RegistrarCall)
    (hkept : ∀ reply ∈ Call.run perform calls start, reply.result ≠ .ok (.removed true))
    (hroom : (Notice.audits (Call.allNotices perform calls start)).length ≤ maxEvents) :
    ∃ sink, (Call.finalState perform calls start).audit = some sink ∧
      sink.entries = Notice.audits (Call.allNotices perform calls start) ∧
      (∀ course ∈ (Call.finalState perform calls start).courses, ∃ roster,
        (Call.finalState perform calls start).roster course.name course.sectionCode = .ok roster ∧
        Occupancy.replay (sink.entriesOf (toString course)) =
          some ⟨roster.enrolled.map toString, roster.waitlisted.map toString⟩) ∧
      promotions sink.entries = (allTellings calls start).map Telling.entry := by
  have hempty : (AuditSink.empty maxEvents).entries.length +
      (Notice.audits (Call.allNotices perform calls start)).length ≤
        (AuditSink.empty maxEvents).maxEvents := by
    simpa [AuditSink.empty] using hroom
  obtain ⟨⟨view, hstands, hfits, htraces⟩, htold⟩ := run_traces calls (Stands.of_make hstart)
    (RegistrarView.fits_opened config _) (RegistrarView.settled_opened config _)
    (RegistrarView.catalogued_opened config _) (RegistrarView.traces_opened config maxEvents)
    hkept hempty
  have hentries : ((AuditSink.empty maxEvents).file
      (Call.allNotices perform calls start)).entries =
        Notice.audits (Call.allNotices perform calls start) := by
    rw [AuditSink.file_of_room hempty]
    rfl
  refine ⟨_, hstands.audit.trans htraces.audit_eq, hentries, ?_, by rw [hentries, htold]⟩
  intro course hmem
  have hcourse : course ∈ view.courses := hstands.catalog.toList_eq ▸ hmem
  obtain ⟨shown, hshown⟩ := hfits.rostered course hcourse
  obtain ⟨roster, hfound, hroster⟩ := hstands.rosters.exists_roster hshown
  have hhosts := hfits.hosts _ _ hshown
  have hsame := hfits.course_eq hhosts.course_mem hcourse hhosts.key_eq
  have hreplayed := htraces.replayed _ _ hshown
  obtain rfl := hroster.view_eq
  rw [hsame] at hreplayed
  exact ⟨roster, roster_of_find? hfound, hreplayed⟩

/-- The seat of a student who leaves goes to one who has taken another section while waiting, and
then, when that one leaves, to one whose schedule takes the course. -/
theorem traced_finalState_students :
    let logic : Course := ⟨"Logic", "Logic", "001", 3, none, .arranged⟩
    let calls : List RegistrarCall :=
      [addCourse logic 1, addCourse { logic with sectionCode := "002" } 1, addStudent "ada" 9,
        addStudent "bob" 9, addStudent "cid" 9, enroll "ada" "Logic" "001",
        enroll "bob" "Logic" "001", enroll "cid" "Logic" "001", enroll "bob" "Logic" "002",
        removeCourse "Algebra" "001", drop "ada" "Logic" "001", resetSchedule "bob"]
    ∃ start sink, Registrar.make ⟨⟨1, 2, 2⟩, 3, 18⟩ (some (AuditSink.empty 9)) = .ok start ∧
      (Call.finalState perform calls start).audit = some sink ∧
      (∀ course ∈ (Call.finalState perform calls start).courses, ∃ roster,
        (Call.finalState perform calls start).roster course.name course.sectionCode = .ok roster ∧
        Occupancy.replay (sink.entriesOf (toString course)) =
          some ⟨roster.enrolled.map toString, roster.waitlisted.map toString⟩) ∧
      promotions sink.entries =
        [⟨toString (Student.mk "bob" 9), toString logic, .promote, some "schedule rejected course"⟩,
          ⟨toString (Student.mk "cid" 9), toString logic, .promote, none⟩] := by
  intro logic calls
  let start : Registrar := ⟨⟨⟨1, 2, 2⟩, 3, 18⟩, SortedList.empty, Directory.empty, Directory.empty,
    some (AuditSink.empty 9)⟩
  have hmake : Registrar.make ⟨⟨1, 2, 2⟩, 3, 18⟩ (some (AuditSink.empty 9)) = .ok start := rfl
  have htold : (allTellings calls start).map Telling.entry =
      [⟨toString (Student.mk "bob" 9), toString logic, .promote, some "schedule rejected course"⟩,
        ⟨toString (Student.mk "cid" 9), toString logic, .promote, none⟩] := by decide +kernel
  obtain ⟨sink, hsink, -, hreplayed, hpromotions⟩ :=
    traced_finalState hmake calls (by decide +kernel) (by decide +kernel)
  exact ⟨start, sink, hmake, hsink, hreplayed, hpromotions.trans htold⟩

end RegistrarCall

end Enrollment
