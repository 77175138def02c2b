import Enrollment.Proofs.Roster.Invariant

/-!
The steps of a roster: each call that is answered, what it answers, and what shows of the roster
before and after.
-/
namespace Enrollment

variable {C E S T ω : Type} [BEq E]

inductive RosterView.Steps (view : RosterView C E) :
    RosterCall E → RosterAnswer E → RosterView C E → Prop
  | seat {entity : E} (hany : (view.enrolled ++ view.waitlisted).any (· == entity) = false)
      (hopen : view.enrolled.length < view.enrollmentCap) :
      Steps view (.enroll (some entity)) (.placed .enrolled)
        (view.filled (view.enrolled ++ [entity]) view.waitlisted)
  | wait {entity : E} (hany : (view.enrolled ++ view.waitlisted).any (· == entity) = false)
      (hfull : view.enrollmentCap ≤ view.enrolled.length)
      (hroom : view.waitlisted.length < view.limits.waitlistCapacity) :
      Steps view (.enroll (some entity)) (.placed .waitlisted)
        (view.filled view.enrolled (view.waitlisted ++ [entity]))
  | withdraw {item removed : E} {index : Nat}
      (hfound : view.enrolled.findIdx? (· == item) = some index)
      (hremoved : view.enrolled[index]? = some removed) (hline : view.waitlisted = []) :
      Steps view (.drop (some item)) (.dropped (.withdrawn removed none))
        (view.filled (view.enrolled.eraseIdx index) [])
  | replace {item removed next : E} {rest : List E} {index : Nat}
      (hfound : view.enrolled.findIdx? (· == item) = some index)
      (hremoved : view.enrolled[index]? = some removed) (hline : view.waitlisted = next :: rest)
      (attached : Bool) :
      Steps view (.drop (some item)) (.dropped (.withdrawn removed (some ⟨next, attached⟩)))
        (view.filled (view.enrolled.eraseIdx index ++ [next]) rest)
  | leave {item removed : E} {index : Nat} (hnone : view.enrolled.findIdx? (· == item) = none)
      (hfound : view.waitlisted.findIdx? (· == item) = some index)
      (hremoved : view.waitlisted[index]? = some removed) :
      Steps view (.drop (some item)) (.dropped (.leftWaitlist removed))
        (view.filled view.enrolled (view.waitlisted.eraseIdx index))
  | recap {cap : Nat} (hmin : view.limits.minCap ≤ cap) (hmax : cap ≤ view.limits.maxCap)
      (henrolled : view.enrolled.length ≤ cap) :
      Steps view (.setEnrollmentCap cap) .capped { view with enrollmentCap := cap }

theorem RosterView.Steps.fits [PartialEquivBEq E] {view after : RosterView C E}
    {call : RosterCall E} {answer : RosterAnswer E} (h : view.Steps call answer after)
    (hfits : view.Fits) : after.Fits := by
  cases h with
  | seat hany hopen => exact hfits.seat hopen hany
  | wait hany _ hroom => exact hfits.wait hroom hany
  | withdraw hfound _ _ =>
    exact hfits.sublist (List.eraseIdx_sublist _ _) (List.nil_sublist _)
  | replace hfound _ hline _ =>
    exact hfits.replace (List.findIdx?_eq_some_iff_getElem.mp hfound).1 hline
  | leave _ _ _ => exact hfits.sublist (List.Sublist.refl _) (List.eraseIdx_sublist _ _)
  | recap hmin hmax henrolled =>
    exact ⟨hmin, hmax, henrolled, hfits.waitlisted_le, hfits.distinct⟩

theorem RosterView.Steps.audited_eq {view after : RosterView C E} {call : RosterCall E}
    {answer : RosterAnswer E} (h : view.Steps call answer after) :
    after.audited = view.audited := by
  cases h <;> rfl

variable [BoundedSeq S E] [BoundedSeq T E] [LawfulSeq S E] [LawfulSeq T E] [ToString C] [ToString E]

namespace Roster.Stands

variable {view : RosterView C E} {roster : Roster C S T}

/-- A call that is answered takes a step to what the roster that it leaves stands for. -/
theorem exists_step {attach : Attach ω E C} {call : RosterCall E} {world told : ω}
    {answer : RosterAnswer E} {after : RosterView C E} {heard : List Notice}
    (hcall : (call.perform attach).Answers (roster, world) answer
      (fun both => ∃ t, Stands after t ∧ both = (t, told)) heard)
    (hstep : view.Steps call answer after) :
    ∃ answer after, view.Steps call answer after ∧
      (call.perform attach (roster, world)).result = .ok answer ∧
      Stands after (call.perform attach (roster, world)).state.1 := by
  obtain ⟨t, ht, hstate⟩ := hcall.state
  refine ⟨answer, after, hstep, hcall.result, ?_⟩
  rw [hstate]
  exact ht

/-- A call is refused and changes nothing, or it is answered and takes a step. -/
theorem perform_cases (h : Stands view roster) (hfits : view.Fits) (attach : Attach ω E C)
    (world : ω) (call : RosterCall E) :
    (∃ e notices, call.perform attach (roster, world) = ⟨.error e, (roster, world), notices⟩) ∨
    ∃ answer after, view.Steps call answer after ∧
      (call.perform attach (roster, world)).result = .ok answer ∧
      Stands after (call.perform attach (roster, world)).state.1 := by
  cases call with
  | enroll entity =>
    cases entity with
    | none => exact .inl ⟨_, _, rfl⟩
    | some entity =>
      obtain ⟨-, hcall⟩ | ⟨-, -, hcall⟩ | ⟨hany, hopen, hcall⟩ | ⟨-, -, -, hcall⟩ |
        ⟨hany, hfull, hroom, hcall⟩ := h.enroll_cases entity
      · exact .inl ⟨_, _, Call.bind_of_error (Call.onFirst_of_eq hcall world) _⟩
      · exact .inl ⟨_, _, Call.bind_of_error (Call.onFirst_of_eq hcall world) _⟩
      · exact .inr (exists_step ((hcall.onFirst world).map RosterAnswer.placed) (.seat hany hopen))
      · exact .inl ⟨_, _, Call.bind_of_error (Call.onFirst_of_eq hcall world) _⟩
      · exact .inr (exists_step ((hcall.onFirst world).map RosterAnswer.placed)
          (.wait hany hfull hroom))
  | drop entity =>
    cases entity with
    | none => exact .inl ⟨_, _, rfl⟩
    | some entity =>
      obtain ⟨_, _, hfound, hremoved, hline, hcall⟩ |
        ⟨_, _, next, _, hfound, hremoved, hline, hcall⟩ |
        ⟨_, _, hnone, hfound, hremoved, hcall⟩ | ⟨-, -, hcall⟩ :=
        h.drop_cases hfits attach world entity
      · exact .inr (exists_step (hcall.map RosterAnswer.dropped) (.withdraw hfound hremoved hline))
      · exact .inr (exists_step (hcall.map RosterAnswer.dropped)
          (.replace hfound hremoved hline _))
      · exact .inr (exists_step (hcall.map RosterAnswer.dropped) (.leave hnone hfound hremoved))
      · exact .inl ⟨_, _, Call.bind_of_error hcall _⟩
  | setEnrollmentCap cap =>
    obtain ⟨-, hcall⟩ | ⟨hmin, hmax, henrolled, hcall⟩ := h.setEnrollmentCap_cases cap
    · exact .inl ⟨_, _, Call.bind_of_error (Call.onFirst_of_eq hcall world) _⟩
    · exact .inr (exists_step ((hcall.onFirst world).map fun _ => RosterAnswer.capped)
        (.recap hmin hmax henrolled))

theorem step_of_result (h : Stands view roster) (hfits : view.Fits) {attach : Attach ω E C}
    {world : ω} {call : RosterCall E} {answer : RosterAnswer E}
    (hanswer : (call.perform attach (roster, world)).result = .ok answer) :
    ∃ after, view.Steps call answer after := by
  obtain ⟨e, notices, hcall⟩ | ⟨_, after, hstep, hresult, -⟩ :=
    h.perform_cases hfits attach world call
  · rw [hcall] at hanswer
    cases hanswer
  · rw [hresult] at hanswer
    cases hanswer
    exact ⟨after, hstep⟩

end Roster.Stands

end Enrollment
