import Enrollment.Proofs.Registrar.Seats

/-!
An enrollment taken back at once.  It puts the student last on the roster or the waitlist and the
course last on the schedule; a drop goes through these lists from the front, and finds nobody and
nothing equal to what it looks for before the end.
-/
namespace Enrollment

section

variable {α : Type} [BEq α] [ReflBEq α] {items : List α} {item : α}

theorem eraseP_append_self (hany : items.any (· == item) = false) :
    (items ++ [item]).eraseP (· == item) = items := by
  rw [List.eraseP_append_right _ (by simpa [List.any_eq_false] using hany),
    List.eraseP_cons_of_pos (p := (· == item)) BEq.rfl, List.append_nil]

theorem eraseIdx_append_self (hany : items.any (· == item) = false) {index : Nat}
    (hfound : (items ++ [item]).findIdx? (· == item) = some index) :
    (items ++ [item]).eraseIdx index = items := by
  have herase := eraseP_append_self hany
  rwa [List.eraseP_eq_eraseIdx, hfound] at herase

theorem findIdx?_append_self_ne_none : (items ++ [item]).findIdx? (· == item) ≠ none := by
  rw [Ne, List.findIdx?_eq_none_iff]
  intro hnone
  have hself := hnone item (by simp)
  rw [beq_self_eq_true] at hself
  cases hself

end

def EnrollmentStatus.undone (student : Student) : EnrollmentStatus → DropOutcome Student
  | enrolled => .withdrawn student none
  | waitlisted => .leftWaitlist student

namespace RegistrarView

/-- Everything shows as it did, but for the audit trail. -/
def Restores (view after : RegistrarView) : Prop := after = { view with audit := after.audit }

variable {view after left : RegistrarView} {id : String} {key : String × String}
  {status : EnrollmentStatus} {outcome : DropOutcome Student} {heard more : List Notice}
  {shown : RosterView Course Student} {record : RecordView}

/-- A roster and a record are put back as they were. -/
theorem restores_of_put_back (hrecord : view.students id = some record)
    (hshown : view.rosters key = some shown) (changed : RosterView Course Student)
    (between : RecordView) (heard more : List Notice) :
    view.Restores ((((view.withRoster key changed heard).withRecord id between).withRoster key shown
      more).withRecord id record) := by
  have hrosters : Function.update view.rosters key (some shown) = view.rosters := by
    rw [← hshown, Function.update_eq_self]
  have hstudents : Function.update view.students id (some record) = view.students := by
    rw [← hrecord, Function.update_eq_self]
  simp only [Restores, withRoster, withRecord, Function.update_idem, hrosters, hstudents]

theorem Enters.onFile_eq (h : view.Enters id key status heard after) :
    after.onFile = view.onFile := by
  cases h with
  | seated hrecord => exact onFile_withRecord hrecord rfl
  | waiting => rfl

/-- Who has entered a course is on its roster then, or on its waitlist. -/
theorem Enters.on_roster (h : view.Enters id key status heard after) :
    ∃ record shown, after.students id = some record ∧ after.rosters key = some shown ∧
      (shown.enrolled ++ shown.waitlisted).any (· == record.student) = true := by
  cases h with
  | @seated shown record heard hrecord =>
    refine ⟨_, _, withRecord_self _ id _, withRoster_self view key _ heard, ?_⟩
    simp [RosterView.filled]
  | waiting hrecord =>
    refine ⟨_, _, hrecord, withRoster_self view key _ heard, ?_⟩
    simp [RosterView.filled]

/-- Who was seated last gives the seat up, and there is nobody to move into it. -/
theorem Leaves.of_seated (hrecord : view.students id = some record)
    (hshown : view.rosters key = some shown)
    (hnone : shown.enrolled.any (· == record.student) = false) (hline : shown.waitlisted = [])
    {between : RecordView}
    (hleaves : ((view.withRoster key (shown.filled (shown.enrolled ++ [record.student]) [])
      heard).withRecord id between).Leaves record.student key outcome more left) :
    outcome = .withdrawn record.student none ∧ view.Restores (left.withRecord id record) := by
  have hself := withRoster_self view key (shown.filled (shown.enrolled ++ [record.student]) []) heard
  cases hleaves with
  | @alone _ index _ hchanged hfound =>
    cases hself.symm.trans hchanged
    have hback : shown.filled ((shown.enrolled ++ [record.student]).eraseIdx index) [] = shown := by
      rw [eraseIdx_append_self hnone hfound, ← hline]
      rfl
    refine ⟨rfl, ?_⟩
    show view.Restores ((((view.withRoster key _ heard).withRecord id between).withRoster key
      (shown.filled ((shown.enrolled ++ [record.student]).eraseIdx index) []) more).withRecord id
        record)
    rw [hback]
    exact restores_of_put_back hrecord hshown _ between heard more
  | attached hchanged _ hnext =>
    cases hself.symm.trans hchanged
    cases hnext
  | unattached hchanged _ hnext =>
    cases hself.symm.trans hchanged
    cases hnext
  | waiting hchanged hfound =>
    cases hself.symm.trans hchanged
    exact absurd hfound findIdx?_append_self_ne_none

/-- Who came last on the waitlist leaves it. -/
theorem Leaves.of_waiting (hrecord : view.students id = some record)
    (hshown : view.rosters key = some shown)
    (hany : (shown.enrolled ++ shown.waitlisted).any (· == record.student) = false)
    (hleaves : (view.withRoster key
      (shown.filled shown.enrolled (shown.waitlisted ++ [record.student])) heard).Leaves
        record.student key outcome more left) :
    outcome = .leftWaitlist record.student ∧ view.Restores (left.withRecord id record) := by
  have hself := withRoster_self view key
    (shown.filled shown.enrolled (shown.waitlisted ++ [record.student])) heard
  rw [List.any_append, Bool.or_eq_false_iff] at hany
  have hseated : shown.enrolled.findIdx? (· == record.student) = none := by
    rw [List.findIdx?_eq_none_iff]
    exact fun other hmem => Bool.eq_false_iff.mpr (List.any_eq_false.mp hany.1 other hmem)
  cases hleaves with
  | alone hchanged hfound =>
    cases hself.symm.trans hchanged
    cases hseated.symm.trans hfound
  | attached hchanged hfound =>
    cases hself.symm.trans hchanged
    cases hseated.symm.trans hfound
  | unattached hchanged hfound =>
    cases hself.symm.trans hchanged
    cases hseated.symm.trans hfound
  | @waiting _ index _ hchanged _ hfound =>
    cases hself.symm.trans hchanged
    have hback : shown.filled shown.enrolled
        ((shown.waitlisted ++ [record.student]).eraseIdx index) = shown := by
      rw [eraseIdx_append_self hany.2 hfound]
      rfl
    refine ⟨rfl, ?_⟩
    rw [← withRoster_withRecord hrecord]
    show view.Restores ((((view.withRoster key _ heard).withRecord id record).withRoster key
      (shown.filled shown.enrolled ((shown.waitlisted ++ [record.student]).eraseIdx index))
        more).withRecord id record)
    rw [hback]
    exact restores_of_put_back hrecord hshown _ record heard more

/-- A drop right after an enrollment takes the course off the schedule again, if it was put there. -/
theorem Enters.leaves_undone (h : view.Enters id key status heard after)
    (hline : status = .enrolled → ∀ shown, view.rosters key = some shown → shown.waitlisted = [])
    (hrecord : after.students id = some record) (hshown : after.rosters key = some shown)
    (hleaves : after.Leaves record.student key outcome more left) :
    outcome = status.undone record.student ∧ view.Restores
      (left.withRecord id { record with items := record.items.eraseP (· == shown.course) }) := by
  cases h with
  | @seated before entered heard hentered hbefore hany hadmits =>
    cases (withRecord_self _ id _).symm.trans hrecord
    cases (withRoster_self view key _ heard).symm.trans hshown
    have hnobody := hline rfl before hbefore
    have hitems : (entered.items ++ [before.course]).eraseP (· == before.course) = entered.items :=
      eraseP_append_self (Schedule.any_of_checkAgainst hadmits.1)
    rw [hnobody, List.append_nil] at hany
    rw [hnobody] at hleaves
    show _ ∧ view.Restores (left.withRecord id
      { entered with items := (entered.items ++ [before.course]).eraseP (· == before.course) })
    rw [hitems]
    exact hleaves.of_seated hentered hbefore hany hnobody
  | @waiting before entered heard hentered hbefore hany hadmits =>
    cases hentered.symm.trans hrecord
    cases (withRoster_self view key _ heard).symm.trans hshown
    have hitems : record.items.eraseP (· == before.course) = record.items :=
      List.eraseP_of_forall_not
        (List.any_eq_false.mp (Schedule.any_of_checkAgainst hadmits.1))
    show _ ∧ view.Restores (left.withRecord id
      { record with items := record.items.eraseP (· == before.course) })
    rw [hitems]
    exact hleaves.of_waiting hentered hbefore hany

end RegistrarView

namespace Registrar.Stands

variable {view after : RegistrarView} {registrar : Registrar}

/-- A drop by a student who has just entered the course finds the student there. -/
theorem drop_entered (h : Stands after registrar) (hfits : after.Fits) {id name code : String}
    {status : EnrollmentStatus} {heard : List Notice}
    (henters : view.Enters id (name, code) status heard after)
    (hline : status = .enrolled →
      ∀ shown, view.rosters (name, code) = some shown → shown.waitlisted = []) :
    ∃ record more left, after.students id = some record ∧ view.Restores left ∧
      (drop id name code).Answers registrar (status.undone record.student) (Stands left) more := by
  obtain ⟨record, shown, hrecord, hshown, hany⟩ := henters.on_roster
  obtain ⟨e, more, hmisses, -⟩ |
    ⟨found, seen, outcome, more, left, hfound, hseen, hleaves, hcall⟩ :=
    h.drop_cases hfits id name code
  · cases hmisses with
    | unknownStudent hnone => cases hnone.symm.trans hrecord
    | unknownCourse _ hnone => cases hnone.symm.trans hshown
    | notFound hfound hseen hnot =>
      cases hrecord.symm.trans hfound
      cases hshown.symm.trans hseen
      rw [hany] at hnot
      cases hnot
  · cases hrecord.symm.trans hfound
    cases hshown.symm.trans hseen
    obtain ⟨rfl, hrestores⟩ := henters.leaves_undone hline hrecord hshown hleaves
    exact ⟨record, more, _, hrecord, hrestores, hcall⟩

end Registrar.Stands

namespace RegistrarCall

open Registrar

/-- After any calls on a registrar: an enrollment that put the student on the waitlist, or in a seat
for which nobody waited, is taken back by the drop that follows it.  Nobody is promoted, and the
rosters, waitlists and schedules are as they were, in their order. -/
theorem undone_finalState {config : RegistrarConfig} {audit : Option AuditSink} {start : Registrar}
    (hstart : Registrar.make config audit = .ok start) (calls : List RegistrarCall)
    (id name code : String) :
    let reached := Call.finalState perform calls start
    let entered := Registrar.enroll id name code reached
    let left := Registrar.drop id name code entered.state
    ∀ status, entered.result = .ok status →
      (status = .enrolled →
        ∀ roster, reached.roster name code = .ok roster → roster.waitlisted = []) →
      ∃ record, reached.record id = .ok record ∧
        left.result = .ok (status.undone record.student) ∧
        reached.view.Restores left.state.view := by
  intro reached entered left status hstatus hnobody
  obtain ⟨hstands, hfits, hsettled⟩ := shown_finalState hstart calls
  obtain ⟨e, heard, -, hcall⟩ | ⟨placed, heard, after, henters, hcall⟩ | ⟨hover, -⟩ :=
    hstands.enroll_cases hfits id name code
  · cases hcall.result.symm.trans hstatus
  · cases hcall.result.symm.trans hstatus
    have hline : status = .enrolled →
        ∀ shown, reached.view.rosters (name, code) = some shown → shown.waitlisted = [] := by
      intro hseated shown hshown
      obtain ⟨roster, hfound, hroster⟩ := hstands.rosters.exists_roster hshown
      obtain rfl := hroster.view_eq
      exact hnobody hseated roster (roster_of_find? hfound)
    obtain ⟨record, more, shown, hrecord, hrestores, hdrop⟩ :=
      hcall.state.drop_entered (henters.fits hfits) henters hline
    have hknown : reached.view.onFile id = some record.student := by
      rw [← henters.onFile_eq, RegistrarView.onFile_of_students hrecord]
    obtain ⟨_, hseen, hstudent⟩ := RegistrarView.students_of_onFile hknown
    obtain ⟨found, hfound, hview⟩ := hstands.record_eq hseen
    obtain rfl := hview.view_eq
    refine ⟨found, hfound, ?_, ?_⟩
    · rw [show found.student = record.student from hstudent]
      exact hdrop.result
    · rw [hdrop.state.view_eq]
      exact hrestores
  · exact absurd hover (hfits.not_overfull hsettled)

/-- A student with one course on the schedule takes back a place on a waitlist, and a seat behind
another student's. -/
theorem undone_finalState_students :
    let logic : Course := ⟨"Logic", "Logic", "001", 3, none, .arranged⟩
    let calls : List RegistrarCall :=
      [addCourse logic 1, addCourse { logic with name := "Sets" } 2,
        addCourse { logic with name := "Algebra" } 1, addStudent "ada" 9, addStudent "bob" 9,
        enroll "ada" "Logic" "001", enroll "ada" "Sets" "001", enroll "bob" "Algebra" "001"]
    ∃ start, Registrar.make ⟨⟨1, 2, 2⟩, 3, 18⟩ (some (AuditSink.empty 8)) = .ok start ∧
      let reached := Call.finalState perform calls start
      let left (name : String) :=
        Registrar.drop "bob" name "001" (Registrar.enroll "bob" name "001" reached).state
      (left "Logic").result = .ok (.leftWaitlist ⟨"bob", 9⟩) ∧
        reached.view.Restores (left "Logic").state.view ∧
        (left "Sets").result = .ok (.withdrawn ⟨"bob", 9⟩ none) ∧
        reached.view.Restores (left "Sets").state.view := by
  intro logic calls
  let start : Registrar :=
    ⟨⟨⟨1, 2, 2⟩, 3, 18⟩, SortedList.empty, Directory.empty, Directory.empty,
      some (AuditSink.empty 8)⟩
  have hmake : Registrar.make ⟨⟨1, 2, 2⟩, 3, 18⟩ (some (AuditSink.empty 8)) = .ok start := rfl
  have hnobody : ∀ roster, (Call.finalState perform calls start).roster "Sets" "001" = .ok roster →
      roster.waitlisted = [] := by
    have hsets : ((Call.finalState perform calls start).roster "Sets" "001").map
        Roster.waitlisted = .ok [] := by decide +kernel
    intro roster hroster
    rw [hroster] at hsets
    exact Except.ok.inj hsets
  obtain ⟨-, -, -, hlogic⟩ := undone_finalState hmake calls "bob" "Logic" "001" .waitlisted
    (by decide +kernel) nofun
  obtain ⟨-, -, -, hsets⟩ := undone_finalState hmake calls "bob" "Sets" "001" .enrolled
    (by decide +kernel) fun _ => hnobody
  exact ⟨start, hmake, by decide +kernel, hlogic, by decide +kernel, hsets⟩

end RegistrarCall

end Enrollment
