import Enrollment.Proofs.Registrar.Calls

/-!
What a student has on the schedule, said by the seats and by a ledger of how the seats came about;
and how this is kept when a seat is given or given up.
-/
namespace Enrollment

namespace SeatGrant

def latest (ledger : List SeatGrant) (id : String) (key : String × String) : Option SeatOrigin :=
  (ledger.find? fun grant => grant.id == id && grant.key == key).map SeatGrant.origin

theorem latest_cons_self (id : String) (key : String × String) (origin : SeatOrigin)
    (ledger : List SeatGrant) : latest (⟨id, key, origin⟩ :: ledger) id key = some origin := by
  simp [latest]

theorem latest_cons_of_ne {id other : String} {key otherKey : String × String}
    (hne : id = other → key ≠ otherKey) (origin : SeatOrigin) (ledger : List SeatGrant) :
    latest (⟨id, key, origin⟩ :: ledger) other otherKey = latest ledger other otherKey := by
  have hfalse : (id == other && key == otherKey) = false := by
    rw [Bool.and_eq_false_imp]
    intro hid
    rw [beq_eq_false_iff_ne]
    exact hne (beq_iff_eq.mp hid)
  simp [latest, hfalse]

end SeatGrant

def Student.IsAmong (id : String) (students : List Student) : Prop :=
  ∃ student ∈ students, student.id = id

namespace Student

variable {id : String} {student : Student} {students : List Student}

theorem isAmong_append_singleton :
    IsAmong id (students ++ [student]) ↔ IsAmong id students ∨ id = student.id := by
  simp only [IsAmong, List.mem_append, List.mem_singleton]
  constructor
  · intro ⟨other, hmem, hid⟩
    obtain hmem | rfl := hmem
    · exact .inl ⟨other, hmem, hid⟩
    · exact .inr hid.symm
  · intro h
    obtain ⟨other, hmem, hid⟩ | hid := h
    · exact ⟨other, .inl hmem, hid⟩
    · exact ⟨student, .inr rfl, hid.symm⟩

/-- When a student is taken out of a list with no student twice, the id is gone. -/
theorem isAmong_eraseIdx {index : Nat} (h : Distinct students)
    (hfound : students.findIdx? (· == student) = some index) :
    IsAmong id (students.eraseIdx index) ↔ IsAmong id students ∧ id ≠ student.id := by
  have herase : students.eraseP (· == student) = students.eraseIdx index := by
    rw [List.eraseP_eq_eraseIdx, hfound]
  rw [← herase]
  simp only [IsAmong, h.mem_eraseP_iff, ← Bool.not_eq_true, Student.beq_iff]
  constructor
  · intro ⟨other, ⟨hmem, hne⟩, hid⟩
    exact ⟨⟨other, hmem, hid⟩, hid ▸ hne⟩
  · intro ⟨⟨other, hmem, hid⟩, hne⟩
    exact ⟨other, ⟨hmem, hid ▸ hne⟩, hid⟩

theorem not_isAmong_of_findIdx? (hnone : students.findIdx? (· == student) = none) :
    ¬ IsAmong student.id students := by
  intro ⟨other, hmem, hid⟩
  exact id_ne (List.findIdx?_eq_none_iff.mp hnone other hmem) hid

end Student

namespace RegistrarView

def Seats (view : RegistrarView) (id : String) (key : String × String) : Prop :=
  ∃ roster, view.rosters key = some roster ∧ Student.IsAmong id roster.enrolled

/-- A course is owed a place on the schedule of a student: it is in the catalog, and the student has
a seat in it that did not come from a promotion which the schedule did not take. -/
def Owes (view : RegistrarView) (ledger : List SeatGrant) (id : String) (course : Course) : Prop :=
  course ∈ view.courses ∧ view.Seats id course.key ∧
    SeatGrant.latest ledger id course.key ≠ some (.promoted false)

structure Settled (view : RegistrarView) (ledger : List SeatGrant) (id : String) : Prop where
  accounted : ∀ key, view.Seats id key → (SeatGrant.latest ledger id key).isSome
  distinct : ∀ record, view.students id = some record → Distinct record.items
  mem_iff : ∀ record, view.students id = some record →
    ∀ course, course ∈ record.items ↔ view.Owes ledger id course

variable {view after : RegistrarView} {ledger later : List SeatGrant} {id : String}

theorem seats_iff {key : String × String} {shown : RosterView Course Student}
    (hshown : view.rosters key = some shown) :
    view.Seats id key ↔ Student.IsAmong id shown.enrolled := by
  constructor
  · intro ⟨roster, hroster, hon⟩
    rw [hshown] at hroster
    cases hroster
    exact hon
  · intro hon
    exact ⟨shown, hshown, hon⟩

/-- Other people on a roster are other seats in its course only. -/
theorem seats_withRoster {key : String × String} (changed : RosterView Course Student)
    (heard : List Notice) {P : String × String → Prop}
    (hself : Student.IsAmong id changed.enrolled ↔ P key)
    (hother : ∀ other, other ≠ key → (view.Seats id other ↔ P other)) (other : String × String) :
    (view.withRoster key changed heard).Seats id other ↔ P other := by
  by_cases hkey : other = key
  · rw [hkey, seats_iff (withRoster_self view key changed heard)]
    exact hself
  · rw [← hother other hkey, Seats, withRoster_of_ne view hkey, Seats]

namespace Settled

theorem of_empty (hseats : ∀ key, ¬ view.Seats id key)
    (hitems : ∀ record, view.students id = some record → record.items = []) :
    view.Settled ledger id where
  accounted key hseat := absurd hseat (hseats key)
  distinct record hrecord := by
    rw [hitems record hrecord]
    exact List.Pairwise.nil
  mem_iff record hrecord course := by
    rw [hitems record hrecord]
    exact iff_of_false List.not_mem_nil fun howes => hseats _ howes.2.1

/-- A change that touches neither the seats nor the schedule of a student. -/
theorem keep (h : view.Settled ledger id) (hseats : ∀ key, after.Seats id key ↔ view.Seats id key)
    (hlatest : ∀ key, SeatGrant.latest later id key = SeatGrant.latest ledger id key)
    (hcourses : ∀ course, view.Seats id course.key →
      (course ∈ after.courses ↔ course ∈ view.courses))
    (hstudents : after.students id = view.students id) : after.Settled later id where
  accounted key hseat := by
    rw [hlatest]
    exact h.accounted key ((hseats key).mp hseat)
  distinct record hrecord := h.distinct record (hstudents ▸ hrecord)
  mem_iff record hrecord course := by
    rw [h.mem_iff record (hstudents ▸ hrecord), Owes, Owes, hseats, hlatest]
    constructor
    · intro ⟨hmem, hseat, horigin⟩
      exact ⟨(hcourses course hseat).mpr hmem, hseat, horigin⟩
    · intro ⟨hmem, hseat, horigin⟩
      exact ⟨(hcourses course hseat).mp hmem, hseat, horigin⟩

/-- A student gives a seat up, and the course goes off the schedule. -/
theorem give_up (h : view.Settled ledger id) {course : Course} {record : RecordView}
    (hrecord : view.students id = some record)
    (hseats : ∀ key, after.Seats id key ↔ view.Seats id key ∧ key ≠ course.key)
    (hlatest : ∀ key, SeatGrant.latest later id key = SeatGrant.latest ledger id key)
    (hcourses : ∀ other, other.key ≠ course.key →
      (other ∈ after.courses ↔ other ∈ view.courses))
    (hstudents : after.students id =
      some { record with items := record.items.eraseP (· == course) }) :
    after.Settled later id where
  accounted key hseat := by
    rw [hlatest]
    exact h.accounted key ((hseats key).mp hseat).1
  distinct changed hchanged := by
    rw [hstudents] at hchanged
    cases hchanged
    exact (h.distinct record hrecord).sublist List.eraseP_sublist
  mem_iff changed hchanged other := by
    rw [hstudents] at hchanged
    cases hchanged
    rw [(h.distinct record hrecord).mem_eraseP_iff, h.mem_iff record hrecord, ← Bool.not_eq_true,
      Course.beq_iff, Owes, Owes, hseats, hlatest]
    constructor
    · intro ⟨⟨hmem, hseat, horigin⟩, hkey⟩
      exact ⟨(hcourses other hkey).mpr hmem, ⟨hseat, hkey⟩, horigin⟩
    · intro ⟨hmem, ⟨hseat, hkey⟩, horigin⟩
      exact ⟨⟨(hcourses other hkey).mp hmem, hseat, horigin⟩, hkey⟩

section Grant

variable {course : Course} {record : RecordView} {origin : SeatOrigin}

/-- What a student has no seat in is not on the schedule. -/
theorem not_mem_of_free (h : view.Settled ledger id) (hrecord : view.students id = some record)
    (hfree : ¬ view.Seats id course.key) {other : Course} (hkey : other.key = course.key) :
    other ∉ record.items := by
  intro hmem
  have howes := (h.mem_iff record hrecord other).mp hmem
  rw [Owes, hkey] at howes
  exact hfree howes.2.1

theorem accounted_cons (h : view.Settled ledger id)
    (hseats : ∀ key, after.Seats id key ↔ view.Seats id key ∨ key = course.key)
    (key : String × String) (hseat : after.Seats id key) :
    (SeatGrant.latest (⟨id, course.key, origin⟩ :: ledger) id key).isSome := by
  by_cases hkey : key = course.key
  · rw [hkey, SeatGrant.latest_cons_self]
    rfl
  · rw [SeatGrant.latest_cons_of_ne fun _ => Ne.symm hkey]
    exact h.accounted key (((hseats key).mp hseat).resolve_right hkey)

theorem owes_cons_of_ne {other : Course} (hkey : other.key ≠ course.key)
    (hseats : ∀ key, after.Seats id key ↔ view.Seats id key ∨ key = course.key)
    (hcourses : after.courses = view.courses) :
    after.Owes (⟨id, course.key, origin⟩ :: ledger) id other ↔ view.Owes ledger id other := by
  rw [Owes, Owes, hcourses, hseats, SeatGrant.latest_cons_of_ne fun _ => Ne.symm hkey]
  simp only [hkey, or_false]

/-- A student gets a seat, and the course goes on the schedule. -/
theorem attach (h : view.Settled ledger id) (hfits : view.Fits) (hcourse : course ∈ view.courses)
    (hrecord : view.students id = some record) (hfree : ¬ view.Seats id course.key)
    (hseats : ∀ key, after.Seats id key ↔ view.Seats id key ∨ key = course.key)
    (hcourses : after.courses = view.courses) (horigin : origin ≠ .promoted false)
    (hstudents : after.students id = some { record with items := record.items ++ [course] }) :
    after.Settled (⟨id, course.key, origin⟩ :: ledger) id where
  accounted := h.accounted_cons hseats
  distinct changed hchanged := by
    rw [hstudents] at hchanged
    cases hchanged
    apply (h.distinct record hrecord).append_singleton
    rw [List.any_eq_false]
    intro other hmem heq
    exact h.not_mem_of_free hrecord hfree (Course.beq_iff.mp heq) hmem
  mem_iff changed hchanged other := by
    rw [hstudents] at hchanged
    cases hchanged
    rw [List.mem_append, List.mem_singleton]
    by_cases hkey : other.key = course.key
    · have hnot := h.not_mem_of_free hrecord hfree hkey
      rw [Owes, hcourses, hseats, hkey, SeatGrant.latest_cons_self]
      constructor
      · intro hmem
        obtain rfl := hmem.resolve_left hnot
        exact ⟨hcourse, .inr rfl, fun heq => horigin (Option.some.inj heq)⟩
      · intro ⟨hmem, _⟩
        exact .inr (hfits.course_eq hmem hcourse hkey)
    · have hne : other ≠ course := fun heq => hkey (congrArg Course.key heq)
      rw [owes_cons_of_ne hkey hseats hcourses, ← h.mem_iff record hrecord]
      simp only [hne, or_false]

/-- A student gets a seat by a promotion that the schedule does not take. -/
theorem pass_over (h : view.Settled ledger id) (hfree : ¬ view.Seats id course.key)
    (hseats : ∀ key, after.Seats id key ↔ view.Seats id key ∨ key = course.key)
    (hcourses : after.courses = view.courses)
    (hstudents : after.students id = view.students id) :
    after.Settled (⟨id, course.key, .promoted false⟩ :: ledger) id where
  accounted := h.accounted_cons hseats
  distinct record hrecord := h.distinct record (hstudents ▸ hrecord)
  mem_iff record hrecord other := by
    rw [hstudents] at hrecord
    by_cases hkey : other.key = course.key
    · apply iff_of_false (h.not_mem_of_free hrecord hfree hkey)
      intro howes
      rw [Owes, hkey, SeatGrant.latest_cons_self] at howes
      exact howes.2.2 rfl
    · rw [owes_cons_of_ne hkey hseats hcourses, h.mem_iff record hrecord]

end Grant

end Settled

end RegistrarView

end Enrollment
