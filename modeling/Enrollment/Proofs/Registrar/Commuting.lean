import Enrollment.Proofs.Local
import Enrollment.Proofs.Registrar.Events
import Enrollment.Proofs.Roster.Decision
import Enrollment.Proofs.Roster.History

/-!
An enrollment and a drop work on one course, on the student who asks and, when a seat is given up,
on the one who has waited longest.  Two of them on different courses and different students may be
made in any order.
-/
namespace Enrollment

open Call (Local SameAt Alike)

namespace Directory

variable {κ ν : Type} [BEq κ] [LawfulBEq κ] {directory other : Directory κ ν} {keys : Set κ}

theorem sameAt_put (h : SameAt find? keys directory other) (key : κ) (value : ν) :
    SameAt find? keys (directory.put key value) (other.put key value) := by
  intro k hk
  by_cases hkey : k = key
  · rw [hkey, find?_put_self, find?_put_self]
  · rw [find?_put_of_ne _ hkey, find?_put_of_ne _ hkey]
    exact h k hk

theorem sameAt_compl_put (directory : Directory κ ν) {key : κ} (hkey : key ∈ keys) (value : ν) :
    SameAt find? keysᶜ directory (directory.put key value) := by
  intro k hk
  have hne : k ≠ key := by
    rintro rfl
    exact hk hkey
  exact (find?_put_of_ne directory hne value).symm

end Directory

open Directory (find?)

namespace Students

variable {ε β : Type} {ids : Set String} {students : Students} {student : Student}

theorem onRecord_local {call : Call StudentRecord ε β} (hid : student.id ∈ ids) :
    Local find? ids (onRecord student call) students := by
  intro (others : Students) hsame
  have hrecord : others.recordOf student = students.recordOf student := by
    rw [recordOf, recordOf, hsame student.id hid]
  simp only [onRecord, Call.within, hrecord]
  exact ⟨⟨rfl, Directory.sameAt_put hsame _ _, rfl⟩, Directory.sameAt_compl_put others hid _⟩

theorem attach_local (course : Course) (hid : student.id ∈ ids) :
    Local find? ids (attach student course) students :=
  onRecord_local hid

theorem detach_local (course : Course) (hid : student.id ∈ ids) :
    Local find? ids (detach student course : Call Students ε Unit) students :=
  (onRecord_local hid).bind fun _ _ => Local.pure ()

end Students

namespace Roster

variable {β : Type} {ids : Set String} {roster : CourseRoster} {students : Students}

def LocalBeside (ids : Set String) (call : Call (CourseRoster × Students) RosterError β)
    (roster : CourseRoster) (students : Students) : Prop :=
  ∀ others, SameAt find? ids students others →
    Alike (fun both both' => both.1 = both'.1 ∧ SameAt find? ids both.2 both'.2)
      (call (roster, students)) (call (roster, others)) ∧
    SameAt find? idsᶜ others (call (roster, others)).state.2

/-- A drop is made on the roster alone, unless somebody is told of the seat that it gives up. -/
theorem drop_local (student : Student)
    (htold : ∀ removed promotion, (drop Students.attach (some student) (roster, students)).result =
      .ok (.withdrawn removed (some promotion)) → promotion.entity.id ∈ ids) :
    LocalBeside ids (drop Students.attach (some student)) roster students := by
  intro others hsame
  obtain ⟨left, result, notices, -, -, hreply⟩ | ⟨left, next, removed, notices, -, hreply⟩ :=
    drop_decided roster (some student)
  · simp only [hreply]
    exact ⟨⟨rfl, ⟨rfl, hsame⟩, rfl⟩, SameAt.refl others⟩
  · have hid : next.id ∈ ids := htold removed _ (congrArg Reply.result (hreply _ _ _))
    obtain ⟨⟨hresult, hstate, hheard⟩, hrest⟩ :=
      Students.attach_local roster.course hid others hsame
    simp only [hreply]
    refine ⟨⟨?_, ⟨rfl, hstate⟩, ?_⟩, hrest⟩
    · rw [hresult]
    · simp only [Notice.heard_append, hresult, hheard]

end Roster

namespace Registrar

inductive Place
  | course (key : String × String)
  | student (id : String)

def Place.Held : Place → Type
  | course _ => SortedList Course × Option CourseRoster
  | student _ => Option StudentRecord

def held (registrar : Registrar) : (place : Place) → place.Held
  | .course key => (registrar.catalog, registrar.rosters.find? key)
  | .student id => registrar.students.find? id

def around (key : String × String) (ids : Set String) : Set Place :=
  {place | match place with
    | .course other => other = key
    | .student id => id ∈ ids}

variable {ε β : Type} {registrar other : Registrar} {name code : String} {key : String × String}
  {ids : Set String}

theorem sameAt_around_iff : SameAt held (around key ids) registrar other ↔
    registrar.catalog = other.catalog ∧ registrar.rosters.find? key = other.rosters.find? key ∧
      SameAt find? ids registrar.students other.students := by
  constructor
  · intro h
    obtain ⟨hcatalog, hroster⟩ := Prod.mk.inj (h (.course key) rfl)
    exact ⟨hcatalog, hroster, fun id hid => h (.student id) hid⟩
  · rintro ⟨hcatalog, hroster, hstudents⟩ (key | id) hplace
    · obtain rfl : key = _ := hplace
      exact Prod.ext hcatalog hroster
    · exact hstudents id hplace

theorem sameAt_compl_around (hcatalog : registrar.catalog = other.catalog)
    (hrosters : SameAt find? {key}ᶜ registrar.rosters other.rosters)
    (hstudents : SameAt find? idsᶜ registrar.students other.students) :
    SameAt held (around key ids)ᶜ registrar other := by
  rintro (key | id) hplace
  · exact Prod.ext hcatalog (hrosters key hplace)
  · exact hstudents id hplace

theorem record_eq_of_sameAt (h : SameAt held (around key ids) registrar other) {id : String}
    (hid : id ∈ ids) : other.record id = registrar.record id := by
  obtain ⟨-, -, hstudents⟩ := sameAt_around_iff.mp h
  rw [record, record, hstudents id hid]

theorem roster_eq_of_sameAt (h : SameAt held (around (name, code) ids) registrar other) :
    other.roster name code = registrar.roster name code := by
  obtain ⟨-, hroster, -⟩ := sameAt_around_iff.mp h
  rw [roster, roster, hroster]

theorem onStudents_local {call : Call Students ε β} (h : Local find? ids call registrar.students) :
    Local held (around key ids) (onStudents call) registrar := by
  intro other hsame
  obtain ⟨hcatalog, hroster, hstudents⟩ := sameAt_around_iff.mp hsame
  obtain ⟨⟨hresult, hstate, hheard⟩, hrest⟩ := h other.students hstudents
  exact ⟨⟨hresult, sameAt_around_iff.mpr ⟨hcatalog, hroster, hstate⟩, hheard⟩,
    sameAt_compl_around rfl (SameAt.refl _) hrest⟩

theorem onRoster_local {call : Call (CourseRoster × Students) RosterError β}
    (h : ∀ roster, registrar.roster name code = .ok roster →
      Roster.LocalBeside ids call roster registrar.students) :
    Local held (around (name, code) ids) (onRoster name code call) registrar := by
  intro other hsame
  have hroster := roster_eq_of_sameAt hsame
  obtain ⟨hcatalog, hfound, hstudents⟩ := sameAt_around_iff.mp hsame
  cases hown : registrar.roster name code with
  | error e =>
    rw [hown] at hroster
    simp only [onRoster, hown, hroster]
    exact ⟨⟨rfl, hsame, rfl⟩, SameAt.refl other⟩
  | ok roster =>
    rw [hown] at hroster
    obtain ⟨⟨hresult, ⟨hleft, hstate⟩, hheard⟩, hrest⟩ := h roster hown other.students hstudents
    simp only [onRoster, hown, hroster]
    refine ⟨⟨?_, sameAt_around_iff.mpr ⟨hcatalog, ?_, hstate⟩, hheard⟩,
      sameAt_compl_around rfl (Directory.sameAt_compl_put _ (Set.mem_singleton _) _) hrest⟩
    · simp only [hresult]
    · simp only [Directory.find?_put_self, hleft]

theorem Sound.id_eq (h : registrar.Sound) {id : String} {record : StudentRecord}
    (hrecord : registrar.record id = .ok record) : record.student.id = id := by
  obtain ⟨view, hstands, hfits⟩ := h
  obtain ⟨shown, hshown, hview⟩ := hstands.exists_record hrecord
  obtain rfl := hview.view_eq
  exact hfits.id_eq hshown

theorem Sound.roster_sound (h : registrar.Sound) {roster : CourseRoster}
    (hroster : registrar.roster name code = .ok roster) : roster.Sound := by
  obtain ⟨view, hstands, hfits⟩ := h
  obtain ⟨shown, hshown, hroster⟩ := hstands.exists_shown hroster
  exact hroster.sound (hfits.roster_fits hshown)

theorem drop_local (h : registrar.Sound) {id : String} (name code : String) (hid : id ∈ ids)
    (hhead : ∀ roster student, registrar.roster name code = .ok roster →
      roster.waitlisted.head? = some student → student.id ∈ ids) :
    Local held (around (name, code) ids) (drop id name code) registrar := by
  refine Local.current_bind ?_ ?_
  · refine Local.ofExcept_bind fun record hrecord => Local.ofExcept_bind fun roster _ => ?_
    have hstudent : record.student.id ∈ ids := by rwa [h.id_eq hrecord]
    refine (onRoster_local fun found hfound => ?_).bind fun outcome _ => ?_
    · refine Roster.drop_local record.student fun removed promotion htold => ?_
      have hpromoted : (RosterCall.perform Students.attach (.drop (some record.student))
          (found, registrar.students)).result =
            .ok (.dropped (.withdrawn removed (some promotion))) := by
        rw [RosterCall.perform, Call.bind_pure_apply, htold, Except.map]
      have hline := RosterCall.waitlisted_of_promoted (h.roster_sound hfound) _ _ hpromoted
      exact hhead found promotion.entity hfound (by rw [hline, List.head?_cons])
    · exact (onStudents_local (Students.detach_local _ hstudent)).bind fun _ _ => Local.pure outcome
  · intro other hsame
    simp only [record_eq_of_sameAt hsame hid, roster_eq_of_sameAt hsame]

end Registrar

inductive SeatCall
  | enroll (id name code : String)
  | drop (id name code : String)

namespace SeatCall

open Registrar

def perform : SeatCall → Call Registrar RegistrationError RegistrarAnswer
  | enroll id name code => (RegistrarCall.enroll id name code).perform
  | drop id name code => (RegistrarCall.drop id name code).perform

def key : SeatCall → String × String
  | enroll _ name code => (name, code)
  | drop _ name code => (name, code)

variable {registrar : Registrar}

end SeatCall

end Enrollment
