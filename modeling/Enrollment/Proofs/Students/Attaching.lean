import Enrollment.Proofs.Run
import Enrollment.Proofs.Students

/-!
The record of a student through calls of two kinds: courses are attached, under the limit of the
student, and the schedule is changed directly, past that limit. Whatever came before, a course that
passes the check ahead of time is attached, and one that does not is refused.
-/
namespace Enrollment

inductive RecordCall
  | attach (course : Course)
  | change (call : ScheduleCall Course)

def RecordCall.perform : RecordCall → Call StudentRecord ScheduleError Unit
  | attach course => StudentRecord.attach course
  | change call => StudentRecord.onSchedule call.perform

namespace StudentRecord

variable {record : StudentRecord}

/-- A course that is attached was admitted; it comes after the others, and all else that shows
stays. -/
theorem attached_of_ok (h : record.schedule.Sound) {course : Course}
    (hok : (attach course record).result = .ok ()) :
    record.view.Admits course ∧
      Shows { record.view with items := record.schedule.toList ++ [course] }
        (attach course record).state := by
  obtain ⟨e, heard, hattach, -, -⟩ | ⟨hadmits, hattach⟩ := attach_cases h course
  · rw [hattach.result] at hok
    cases hok
  · exact ⟨hadmits, hattach.state⟩

/-- The check looks at the meetings first and at the credits next, attaching does so the other way
round and has the list look for an equal course once more; where there is room, both say the same. -/
theorem attach_eq_ok_iff (h : record.schedule.Sound)
    (hroom : record.schedule.length < Bounds.count) (course : Course) :
    (attach course record).result = .ok () ↔ record.view.Admits course := by
  refine ⟨fun hok => (attached_of_ok h hok).1, fun hadmits => ?_⟩
  obtain ⟨e, heard, -, -, hnot | hfull⟩ | ⟨-, hattach⟩ := attach_cases h course
  · exact absurd hadmits hnot
  · rw [h.length_eq] at hroom
    omega
  · exact hattach.result

theorem attach_spares (h : record.schedule.Sound) (course : Course) :
    (attach course).Spares record := by
  obtain ⟨e, heard, hattach, -, -⟩ | ⟨-, hattach⟩ := attach_cases h course
  · exact hattach.spares
  · exact hattach.spares

theorem attach_sound (h : record.schedule.Sound) (course : Course) :
    (attach course record).state.schedule.Sound := by
  cases hresult : (attach course record).result with
  | error e =>
    rw [attach_spares h course e hresult]
    exact h
  | ok => exact (attached_of_ok h hresult).2.sound

end StudentRecord

namespace RecordCall

theorem perform_sound {record : StudentRecord} (h : record.schedule.Sound) (call : RecordCall) :
    (call.perform record).state.schedule.Sound := by
  cases call with
  | attach course => exact StudentRecord.attach_sound h course
  | change call => exact h.perform call

theorem sound_finalState (student : Student) (calls : List RecordCall) :
    (Call.finalState perform calls (StudentRecord.new student)).schedule.Sound :=
  @Call.finalState_induction _ _ _ _ perform (fun record => record.schedule.Sound)
    (fun call _ h => perform_sound h call) calls _ Schedule.sound_empty

/-- After any calls, a course can be added exactly when it is attached, as long as there is room;
attached, it comes last and nothing else changes; refused, it changes nothing. -/
theorem attached_finalState (student : Student) (calls : List RecordCall) (course : Course) :
    let reached := Call.finalState perform calls (StudentRecord.new student)
    let reply := StudentRecord.attach course reached
    (reached.schedule.length < Bounds.count →
      (reached.checkCanAdd course = .ok () ↔ reply.result = .ok ())) ∧
    (reply.result = .ok () → reply.state.Shows
      { reached.view with items := reached.schedule.toList ++ [course] }) ∧
    ∀ e, reply.result = .error e → reply.state = reached := by
  intro reached reply
  have hsound : reached.schedule.Sound := sound_finalState student calls
  refine ⟨fun hroom => ?_, fun hok => (StudentRecord.attached_of_ok hsound hok).2,
    StudentRecord.attach_spares hsound course⟩
  rw [StudentRecord.checkCanAdd_eq_ok, StudentRecord.attach_eq_ok_iff hsound hroom]

/-- A course of nine credits is put on the schedule past the limit of six, and taken off again.
Three credits more are within the limit then, and four are not. -/
theorem attached_finalState_courses :
    let ada : Student := ⟨"ada", 6⟩
    let logic : Course := ⟨"Logic", "Logic", "001", 3, none,
      .scheduled ⟨⟨[.monday, .wednesday], rfl, nofun⟩, 900, 1000, rfl, rfl, by decide⟩⟩
    let thesis : Course := ⟨"Thesis", "Thesis", "001", 9, none, .arranged⟩
    let sets : Course := { thesis with name := "Sets", credits := 3 }
    let calls := [attach logic, change (.add (some thesis)), attach sets, change (.remove thesis),
      change (.setTitle "Fall")]
    let reached := Call.finalState perform calls (StudentRecord.new ada)
    reached.student = ada ∧ reached.schedule.title = "Fall" ∧
      reached.checkCanAdd sets = .ok () ∧
      (StudentRecord.attach sets reached).state.Shows
        { reached.view with items := [logic, sets] } ∧
      reached.checkCanAdd { sets with credits := 4 } ≠ .ok () ∧
      (StudentRecord.attach { sets with credits := 4 } reached).state = reached := by
  intro ada logic thesis sets calls reached
  obtain ⟨hsame, hadded, -⟩ := attached_finalState ada calls sets
  obtain ⟨hsame', -, hspared⟩ := attached_finalState ada calls { sets with credits := 4 }
  have hitems : reached.schedule.toList = [logic] := by decide +kernel
  have hok : (StudentRecord.attach sets reached).result = .ok () := by decide +kernel
  have herror : (StudentRecord.attach { sets with credits := 4 } reached).result =
      .error (.creditLimit 6) := by decide +kernel
  refine ⟨by decide +kernel, by decide +kernel, (hsame (by decide +kernel)).mpr hok, ?_, ?_,
    hspared _ herror⟩
  · have hshows := hadded hok
    rwa [hitems] at hshows
  · rw [Ne, hsame' (by decide +kernel), herror]
    exact nofun

end RecordCall

end Enrollment
