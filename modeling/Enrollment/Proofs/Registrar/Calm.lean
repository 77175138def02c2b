import Enrollment.Proofs.Registrar.Credits
import Enrollment.Proofs.Silent

/-!
Where the limits are far enough from what 32 bits hold, no call on a registrar panics.  Credits are
added up ahead of an enrollment and where a course goes on a schedule, and the second of these is
also reached out of a roster, for whoever is promoted there.
-/
namespace Enrollment

theorem Notice.panic_mem_heard {notices : List Notice} :
    .panic ∈ heard notices ↔ .panic ∈ notices := by
  simp [heard, isTrace]

namespace Call

variable {σ ε α β : Type} {call : Call σ ε α} {s : σ}

def Calm (call : Call σ ε α) (s : σ) : Prop := .panic ∉ (call s).notices

namespace Calm

theorem panics_eq (h : Calm call s) : (call s).panics = false := by
  rwa [Reply.panics, ← Bool.not_eq_true, List.contains_iff_mem]

theorem of_heard {heard : List Notice} (hheard : Notice.heard (call s).notices = heard)
    (h : .panic ∉ heard) : Calm call s := by
  rwa [← hheard, Notice.panic_mem_heard] at h

theorem of_eq {t : σ} {result : Except ε α} {notices : List Notice}
    (hcall : call s = ⟨result, t, notices⟩) (h : .panic ∉ notices) : Calm call s := by
  rwa [Calm, hcall]

theorem of_gives {P : Notice → Prop} (hcall : call.Gives P) (h : ¬ P .panic) (s : σ) :
    Calm call s :=
  fun hmem => h (hcall s _ hmem)

theorem of_minor (hcall : call.Gives Notice.Minor) (s : σ) : Calm call s := of_gives hcall id s

theorem bind {next : α → Call σ ε β} (h : Calm call s)
    (hnext : ∀ a, (call s).result = .ok a → Calm (next a) (call s).state) :
    Calm (call >>= next) s := by
  rw [Calm, bind_apply]
  cases hresult : (call s).result with
  | error e => exact h
  | ok a =>
    rw [List.mem_append, not_or]
    exact ⟨h, hnext a hresult⟩

theorem pure (a : α) (s : σ) : Calm (Pure.pure a : Call σ ε α) s := List.not_mem_nil

theorem refuse (e : ε) (s : σ) : Calm (Call.refuse e : Call σ ε α) s := List.not_mem_nil

theorem current_bind {next : σ → Call σ ε α} (hnext : Calm (next s) s) :
    Calm (current >>= next) s := hnext

theorem ite {other : Call σ ε α} {Q : Prop} [Decidable Q] (h : Calm call s)
    (hother : Calm other s) : Calm (if Q then call else other) s := by
  by_cases hQ : Q
  · rwa [if_pos hQ]
  · rwa [if_neg hQ]

theorem ofExcept_bind {check : Except ε α} {next : α → Call σ ε β}
    (hnext : ∀ a, check = .ok a → Calm (next a) s) : Calm (ofExcept check >>= next) s := by
  cases check with
  | error e => exact List.not_mem_nil
  | ok a => exact hnext a rfl

end Calm

end Call

open Call

namespace RosterView

variable {C E : Type} [ToString C] {view : RosterView C E}

@[simp] theorem panic_notMem_line (level : LogLevel) (message : String)
    (fields : List (String × LogValue)) : .panic ∉ view.line level message fields := by
  simp [line]

variable [ToString E]

@[simp] theorem panic_notMem_entry (entity : E) (action : AuditAction) (detail : Option String) :
    .panic ∉ view.entry entity action detail := by
  rw [entry]
  split <;> simp

@[simp] theorem panic_notMem_promotion (next : E) (verdict : Except ScheduleError Unit) :
    .panic ∉ view.promotion next verdict := by
  cases verdict <;> simp [promotion]

end RosterView

/-- A course goes on a schedule calmly if the credits with it add up. -/
theorem Students.Shows.attach_calm {seen : String → Option RecordView} {students : Students}
    {student : Student} {shown : RecordView} {course : Course} (h : Shows seen students)
    (hseen : seen student.id = some shown) (hfits : shown.creditsWith course < UInt32.size) :
    (attach student course).Calm students := by
  obtain ⟨record, hfound, hrecord⟩ := h.exists_record hseen
  obtain rfl := hrecord.view_eq
  have hattach : (StudentRecord.attach course).Calm record := by
    rw [Calm, StudentRecord.attach, current_bind]
    cases htotal : record.creditsWith? course with
    | none => exact absurd (StudentRecord.creditsWith?_eq_none_iff.mp htotal) (Nat.not_le.mpr hfits)
    | some total =>
      have hadd : (StudentRecord.onSchedule (Schedule.add (some course))).Gives Notice.Minor :=
        (Schedule.minor_add _).within _ _
      exact Calm.of_minor (Gives.ite (Gives.refuse _) hadd) record
  rw [← recordOf_eq hfound] at hattach
  exact hattach

namespace Registrar

theorem onRoster_calm {α : Type} {name code : String} {registrar : Registrar}
    {call : Call (CourseRoster × Students) RosterError α}
    (hcall : ∀ roster, registrar.rosters.find? (name, code) = some roster →
      call.Calm (roster, registrar.students)) :
    (onRoster name code call).Calm registrar := by
  rw [Calm, onRoster]
  cases hroster : registrar.roster name code with
  | error e => exact List.not_mem_nil
  | ok roster => exact hcall roster (find?_of_roster hroster)

theorem addCourse_calm (course : Course) (cap : Nat) (registrar : Registrar) :
    (addCourse course cap).Calm registrar := by
  refine Calm.of_gives (P := (· ≠ .panic)) (Gives.current_bind fun registrar => ?_) (by simp) _
  refine (Gives.ofExcept _).bind fun _ => Gives.ite (Gives.refuse _) ?_
  refine (Gives.ofExcept _).bind fun roster => (Gives.log (by simp)).bind fun _ => ?_
  have hadd : (onCatalog (SortedList.add (some course))).Gives (· ≠ .panic) :=
    ((SortedList.minor_add _).within _ _).mono (by rintro _ hminor rfl; exact hminor)
  exact (hadd.mapError _).bind fun _ => Gives.current_bind fun _ => Gives.become _

namespace Stands

variable {config : RegistrarConfig} {view : RegistrarView} {registrar : Registrar}

theorem setEnrollmentCap_calm (h : Stands view registrar) (name code : String) (cap : Nat) :
    (setEnrollmentCap name code cap).Calm registrar := by
  apply onRoster_calm
  intro roster hfound
  obtain ⟨-, hcall⟩ | ⟨-, -, -, hcall⟩ :=
    (h.rosters.stands _ roster hfound).setEnrollmentCap_cases cap
  · exact Calm.of_eq (Call.onFirst_of_eq hcall _) List.not_mem_nil
  · exact Calm.of_heard (hcall.onFirst registrar.students).heard (by simp)

theorem removeCourse_calm {ε : Type} (h : Stands view registrar) (hfits : view.Fits)
    (name code : String) : (removeCourse name code : Call Registrar ε Bool).Calm registrar := by
  obtain ⟨-, hcall⟩ | ⟨_, _, -, -, hcall⟩ := h.removeCourse_cases hfits name code
  · exact Calm.of_heard hcall.heard List.not_mem_nil
  · exact Calm.of_heard hcall.heard (by simp)

theorem addStudent_calm (h : Stands view registrar) (id : String) (maxCredits : UInt32) :
    (addStudent id maxCredits).Calm registrar := by
  obtain ⟨e, -, hcall⟩ | ⟨-, hcall⟩ := h.addStudent_cases id maxCredits
  · exact Calm.of_heard hcall.heard List.not_mem_nil
  · exact Calm.of_heard hcall.heard (by simp)

theorem onRoster_enroll_calm (h : Stands view registrar) (name code : String) (student : Student) :
    (onRoster name code (Call.onFirst (Roster.enroll (some student)))).Calm registrar := by
  apply onRoster_calm
  intro roster hfound
  obtain ⟨-, hcall⟩ | ⟨-, -, hcall⟩ | ⟨-, -, hcall⟩ | ⟨-, -, -, hcall⟩ | ⟨-, -, -, hcall⟩ :=
    (h.rosters.stands _ roster hfound).enroll_cases student
  · exact Calm.of_eq (Call.onFirst_of_eq hcall _) List.not_mem_nil
  · exact Calm.of_eq (Call.onFirst_of_eq hcall _) List.not_mem_nil
  · exact Calm.of_heard (hcall.onFirst registrar.students).heard (by simp)
  · exact Calm.of_eq (Call.onFirst_of_eq hcall _) (by simp)
  · exact Calm.of_heard (hcall.onFirst registrar.students).heard (by simp)

theorem enter_calm (h : Stands view registrar) {student : Student} {record : RecordView}
    {course : Course} (hseen : view.students student.id = some record)
    (hfits : record.creditsWith course < UInt32.size) (name code : String) :
    (enter name code student course).Calm registrar := by
  refine (h.onRoster_enroll_calm name code student).bind fun status _ => ?_
  have hstudents : (onRoster name code (Call.onFirst (Roster.enroll (some student)))
      registrar).state.students = registrar.students := by
    rw [onRoster]
    cases registrar.roster name code <;> rfl
  have hattach := h.students.attach_calm hseen hfits
  rw [← hstudents] at hattach
  cases status with
  | enrolled => exact Calm.bind hattach fun _ _ => Calm.pure _ _
  | waitlisted => exact Calm.pure _ _

section Roomy

variable (h : Stands view registrar) (hfits : view.Fits) (hroom : config.Roomy)
  (hview : view.Catalogued config) (haffordable : view.Affordable config)

include h hfits hroom hview haffordable

/-- The check ahead of an enrollment finds that the credits add up, as does the schedule then. -/
theorem enroll_calm (id name code : String) : (enroll id name code).Calm registrar := by
  refine Calm.current_bind (Calm.ofExcept_bind fun record hrecord => ?_)
  refine Calm.ofExcept_bind fun course hcourse => Calm.ofExcept_bind fun roster _ => ?_
  obtain ⟨shown, hseen, hshows⟩ := h.exists_record hrecord
  obtain rfl := hshows.view_eq
  have hlt := (haffordable _ _ hseen).creditsWith_lt hroom
    (hview.credits_le (h.mem_of_course hcourse))
  refine Calm.ite (Calm.refuse _ _) (Calm.ite (Calm.refuse _ _) ?_)
  obtain ⟨misfit, -, hcheck⟩ | ⟨hoverflows, -⟩ | ⟨-, hcheck⟩ := record.checkCanAdd_cases course
  · simp only [hcheck]
    exact Calm.of_eq rfl (by simp)
  · exact absurd hoverflows.2 (Nat.not_le.mpr hlt)
  · simp only [hcheck]
    obtain rfl := hfits.id_eq hseen
    exact h.enter_calm hseen hlt name code

theorem onRoster_drop_calm (name code : String) (student : Student) :
    (onRoster name code (Roster.drop Students.attach (some student))).Calm registrar := by
  apply onRoster_calm
  intro roster hfound
  have hhosts := hfits.hosts _ _ (h.rosters.view_of_find? hfound)
  obtain ⟨_, _, -, -, -, hcall⟩ | ⟨_, _, next, rest, -, -, hline, hcall⟩ | ⟨_, _, -, -, -, hcall⟩ |
    ⟨-, -, hcall⟩ := (h.rosters.stands _ roster hfound).drop_cases hhosts.fits Students.attach
      registrar.students student
  · exact Calm.of_heard hcall.heard (by simp)
  · have hnext : next ∈ roster.view.enrolled ++ roster.view.waitlisted := by simp [hline]
    obtain ⟨record, hrecord, -⟩ := RegistrarView.students_of_onFile (hhosts.known next hnext)
    have hattach := h.students.attach_calm hrecord
      ((haffordable _ _ hrecord).creditsWith_lt hroom (hview.credits_le hhosts.course_mem))
    rw [Calm, ← Notice.panic_mem_heard] at hattach
    exact Calm.of_heard hcall.heard (by simpa using hattach)
  · exact Calm.of_heard hcall.heard (by simp)
  · exact Calm.of_eq hcall (by simp)

theorem drop_calm (id name code : String) : (drop id name code).Calm registrar := by
  refine Calm.current_bind (Calm.ofExcept_bind fun record hrecord => ?_)
  refine Calm.ofExcept_bind fun roster hroster => ?_
  have hleave := h.onRoster_drop_calm hfits hroom hview haffordable name code record.student
  refine hleave.bind fun _ _ => ?_
  refine Calm.bind (Calm.of_minor ((Students.minor_detach _ _).within _ _) _) fun _ _ => ?_
  exact Calm.pure _ _

theorem leaveAll_calm {student : Student} (hstudent : view.onFile student.id = some student)
    (courses : List Course) : (leaveAll student courses).Calm registrar := by
  -- Each course is left on the registrar that the one before it left.
  induction courses generalizing view registrar with
  | nil => exact Calm.pure _ _
  | cons course rest ih =>
    cases hlists : registrar.lists student course with
    | false =>
      rw [Calm, leaveAll_of_not_lists hlists]
      exact ih h hfits hview haffordable hstudent
    | true =>
      rw [Calm, leaveAll_of_lists hlists]
      have hcalm := h.onRoster_drop_calm hfits hroom hview haffordable course.name
        course.sectionCode student
      refine hcalm.bind fun outcome hleft => ?_
      obtain ⟨roster, hfound, -⟩ := exists_of_lists hlists
      obtain ⟨heard, -, hleave⟩ | ⟨_, heard, between, hleaves, hleave⟩ :=
        h.leave_cases hfits (h.rosters.view_of_find? hfound) hstudent
      · rw [hleave.result] at hleft
        cases hleft
      · have hknown : between.onFile student.id = some student := by
          rw [hleaves.onFile_eq, hstudent]
        exact (ih hleave.state (hleaves.fits hfits) (hleaves.catalogued hview)
          (hleaves.affordable haffordable) hknown).bind fun _ _ => Calm.pure _ _

theorem resetSchedule_calm (id : String) : (resetSchedule id).Calm registrar := by
  refine Calm.current_bind (Calm.ofExcept_bind fun record hrecord => ?_)
  obtain ⟨shown, hseen, hshows⟩ := h.exists_record hrecord
  obtain rfl := hshows.view_eq
  have hleave := h.leaveAll_calm hfits hroom hview haffordable
    (hfits.known_of_students hseen) registrar.courses
  refine hleave.bind fun left _ => ?_
  refine Calm.bind (Calm.of_minor ((Students.minor_reset _).within _ _) _) fun _ _ => ?_
  exact Calm.of_eq rfl (by simp)

theorem perform_calm (call : RegistrarCall) : call.perform.Calm registrar := by
  cases call with
  | addCourse course cap =>
    exact (addCourse_calm course cap registrar).bind fun _ _ => Calm.pure _ _
  | removeCourse name code =>
    exact (h.removeCourse_calm hfits name code).bind fun _ _ => Calm.pure _ _
  | setEnrollmentCap name code cap =>
    exact (h.setEnrollmentCap_calm name code cap).bind fun _ _ => Calm.pure _ _
  | addStudent id maxCredits =>
    exact (h.addStudent_calm id maxCredits).bind fun _ _ => Calm.pure _ _
  | enroll id name code =>
    exact (h.enroll_calm hfits hroom hview haffordable id name code).bind fun _ _ => Calm.pure _ _
  | drop id name code =>
    exact (h.drop_calm hfits hroom hview haffordable id name code).bind fun _ _ => Calm.pure _ _
  | resetSchedule id =>
    exact (h.resetSchedule_calm hfits hroom hview haffordable id).bind fun _ _ => Calm.pure _ _

end Roomy

end Stands

end Registrar

/-- After any calls on a registrar whose limits are far enough from what 32 bits hold, the next call
does not panic either. -/
theorem RegistrarCall.calm_finalState {config : RegistrarConfig} {audit : Option AuditSink}
    {start : Registrar} (hstart : Registrar.make config audit = .ok start) (hroom : config.Roomy)
    (calls : List RegistrarCall) (call : RegistrarCall) :
    (call.perform (Call.finalState perform calls start)).panics = false := by
  obtain ⟨view, hstands, hfits, -, hview, haffordable⟩ := affordable_finalState hstart calls
  exact (hstands.perform_calm hfits hroom hview haffordable call).panics_eq

end Enrollment
