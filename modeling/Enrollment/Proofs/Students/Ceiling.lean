import Enrollment.Proofs.Students.Attaching

/-!
The limit of a student, and the credits on a schedule that courses came on by being attached. The
limit is compared with a sum in 32 bits, of credits that nobody has to have checked. Where the sum
does not fit there, the call panics and nothing is accepted; where it fits, it is the sum itself. So
a course that is accepted is within the limit.
-/
namespace Enrollment.StudentRecord

variable {student : Student} {record : StudentRecord} {course : Course}

theorem admits_iff : record.view.Admits course ↔
    record.schedule.canAdd (some course) = true ∧
      record.view.creditsWith course ≤ record.student.maxCredits.toNat := by
  rw [Schedule.canAdd_iff_check]
  rfl

/-- The check comes to the credits only if nothing else is in the way of the course. -/
theorem checkCanAdd_of_overflow (hclear : record.schedule.canAdd (some course) = true)
    (hover : UInt32.size ≤ record.view.creditsWith course) :
    record.checkCanAdd course = .error .overflow := by
  simp [checkCanAdd, hclear, creditsWith?_eq_none_iff.mpr hover]

structure Within (student : Student) (record : StudentRecord) : Prop where
  sound : record.schedule.Sound
  student_eq : record.student = student
  credits_le : Course.totalCredits record.schedule.toList ≤ student.maxCredits.toNat

theorem within_new (student : Student) : Within student (new student) :=
  ⟨Schedule.sound_empty, rfl, Nat.zero_le _⟩

theorem Within.attach (h : Within student record) (course : Course) :
    Within student (attach course record).state := by
  cases hresult : (StudentRecord.attach course record).result with
  | error e =>
    rw [attach_spares h.sound course e hresult]
    exact h
  | ok =>
    obtain ⟨hadmits, hshows⟩ := attached_of_ok h.sound hresult
    have hitems : (StudentRecord.attach course record).state.schedule.toList =
        record.schedule.toList ++ [course] := congrArg RecordView.items hshows.view_eq
    refine ⟨hshows.sound, (congrArg RecordView.student hshows.view_eq).trans h.student_eq, ?_⟩
    rw [hitems, Course.totalCredits_append, ← h.student_eq]
    exact hadmits.2

theorem within_finalState (student : Student) (courses : List Course) :
    Within student (Call.finalState StudentRecord.attach courses (new student)) :=
  Call.finalState_induction (fun course _ h => h.attach course) courses (within_new student)

/-- After any courses were attached, what is scheduled is within the limit. The check passes one
course more exactly if nothing is in its way and it is within the limit too; it is attached only
then, and then always, as long as there is room. Where the credits do not add up in 32 bits, both
panic, unless something is in the way and the check tells that first. -/
theorem ceiling_finalState (student : Student) (courses : List Course) (course : Course) :
    let reached := Call.finalState StudentRecord.attach courses (new student)
    let clear := reached.schedule.canAdd (some course) = true
    let total := reached.view.creditsWith course
    let reply := attach course reached
    Course.totalCredits reached.schedule.toList ≤ student.maxCredits.toNat ∧
    (reached.checkCanAdd course = .ok () ↔ clear ∧ total ≤ student.maxCredits.toNat) ∧
    (reply.result = .ok () → clear ∧ total ≤ student.maxCredits.toNat) ∧
    (reached.schedule.length < Bounds.count → clear → total ≤ student.maxCredits.toNat →
      reply.result = .ok ()) ∧
    (UInt32.size ≤ total → reply = ⟨.error .overflow, reached, [.panic]⟩ ∧
      (clear → reached.checkCanAdd course = .error .overflow)) := by
  intro reached clear total reply
  have hwithin : Within student reached := within_finalState student courses
  have hadmits : reached.view.Admits course ↔ clear ∧ total ≤ student.maxCredits.toNat := by
    rw [admits_iff, hwithin.student_eq]
  refine ⟨hwithin.credits_le, checkCanAdd_eq_ok.trans hadmits, ?_, ?_, ?_⟩
  · intro hok
    exact hadmits.mp (attached_of_ok hwithin.sound hok).1
  · intro hroom hclear hle
    exact (attach_eq_ok_iff hwithin.sound hroom course).mpr (hadmits.mpr ⟨hclear, hle⟩)
  · intro hover
    exact ⟨attach_of_overflow hover, fun hclear => checkCanAdd_of_overflow hclear hover⟩

/-- Under a limit of eighteen, eight credits come on top of three and five, and four come next in
vain. With 4294967295 more the credits do not add up. -/
theorem ceiling_finalState_courses :
    let ada : Student := ⟨"ada", 18⟩
    let logic : Course := ⟨"Logic", "Logic", "001", 3, none, .arranged⟩
    let sets : Course := { logic with name := "Sets", credits := 5 }
    let thesis : Course := { logic with name := "Thesis", credits := 8 }
    let vast : Course := { logic with name := "Vast", credits := 4294967295 }
    let reached := Call.finalState StudentRecord.attach [logic, sets, logic] (new ada)
    (attach thesis reached).result = .ok () ∧ reached.view.creditsWith thesis ≤ 18 ∧
      reached.checkCanAdd { thesis with credits := 11 } ≠ .ok () ∧
      (attach vast reached).panics = true ∧ (attach vast reached).state = reached ∧
      reached.checkCanAdd vast = .error .overflow := by
  intro ada logic sets thesis vast reached
  obtain ⟨-, -, hunder, hattached, -⟩ := ceiling_finalState ada [logic, sets, logic] thesis
  obtain ⟨-, hcheck, -⟩ := ceiling_finalState ada [logic, sets, logic] { thesis with credits := 11 }
  obtain ⟨-, -, -, -, hpanics⟩ := ceiling_finalState ada [logic, sets, logic] vast
  obtain ⟨hreply, hoverflow⟩ := hpanics (by decide +kernel)
  have hthesis := hattached (by decide +kernel) (by decide +kernel) (by decide +kernel)
  refine ⟨hthesis, (hunder hthesis).2, ?_, ?_, ?_, hoverflow (by decide +kernel)⟩
  · intro hok
    exact absurd (hcheck.mp hok).2 (by decide +kernel)
  · rw [hreply]
    rfl
  · rw [hreply]

end Enrollment.StudentRecord
