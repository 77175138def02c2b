import Enrollment.Proofs.Roster.History
import Enrollment.Proofs.Roster.Steps

/-!
Nobody waits for a seat that is free, as long as the cap is not raised while somebody waits: only a
raise leaves seats open that nobody is promoted into.
-/
namespace Enrollment

variable {C E S T ω : Type}

namespace RosterView

variable {view : RosterView C E} {enrolled waitlisted : List E}

def Saturated (view : RosterView C E) : Prop :=
  view.waitlisted ≠ [] → view.enrollmentCap ≤ view.enrolled.length

theorem Saturated.of_full (h : view.enrollmentCap ≤ enrolled.length) :
    (view.filled enrolled waitlisted).Saturated := fun _ => h

theorem Saturated.of_nobody : (view.filled enrolled []).Saturated := fun h => absurd rfl h

/-- A seat is free only if nobody waits for it. -/
theorem Saturated.waitlisted_eq_nil (h : view.Saturated)
    (hopen : view.enrolled.length < view.enrollmentCap) : view.waitlisted = [] := by
  by_contra hwaiting
  have hfull := h hwaiting
  omega

theorem Saturated.seat (h : view.Saturated) (hopen : view.enrolled.length < view.enrollmentCap) :
    (view.filled enrolled view.waitlisted).Saturated := by
  rw [h.waitlisted_eq_nil hopen]
  exact Saturated.of_nobody

/-- The seat that is given up is taken by the head of the waitlist, so as many are taken. -/
theorem Saturated.replace (h : view.Saturated) {index : Nat} {next : E} {rest : List E}
    (hindex : index < view.enrolled.length) (hline : view.waitlisted = next :: rest) :
    (view.filled (view.enrolled.eraseIdx index ++ [next]) rest).Saturated := by
  have hwaiting : view.waitlisted ≠ [] := by simp [hline]
  have hfull := h hwaiting
  apply Saturated.of_full
  rw [List.length_append, List.length_eraseIdx_of_lt hindex, List.length_singleton]
  omega

theorem Saturated.leave (h : view.Saturated) (index : Nat) :
    (view.filled view.enrolled (view.waitlisted.eraseIdx index)).Saturated := by
  intro hwaiting
  apply h
  intro hnil
  apply hwaiting
  simp [filled, hnil]

/-- Only a cap that is raised while somebody waits leaves a seat free that somebody waits for. -/
theorem Steps.saturated [BEq E] {after : RosterView C E} {call : RosterCall E}
    {answer : RosterAnswer E} (hstep : view.Steps call answer after) (h : view.Saturated)
    (hcap : ∀ cap, call = .setEnrollmentCap cap → view.waitlisted ≠ [] →
      cap ≤ view.enrollmentCap) : after.Saturated := by
  cases hstep with
  | seat _ hopen => exact h.seat hopen
  | wait _ hfull _ => exact Saturated.of_full hfull
  | withdraw _ _ _ => exact Saturated.of_nobody
  | replace hfound _ hline _ =>
    exact h.replace (List.findIdx?_eq_some_iff_getElem.mp hfound).1 hline
  | leave _ _ _ => exact h.leave _
  | recap _ _ _ => exact fun hwaiting => Nat.le_trans (hcap _ rfl hwaiting) (h hwaiting)

/-- No step gives a free seat to anybody while somebody waits. -/
theorem Steps.waitlisted_eq_nil [BEq E] {after : RosterView C E} {entity : Option E}
    (hstep : view.Steps (.enroll entity) (.placed .enrolled) after) (h : view.Saturated) :
    view.waitlisted = [] := by
  cases hstep with
  | seat _ hopen => exact h.waitlisted_eq_nil hopen

/-- Whoever gives up a seat while somebody waits is replaced. -/
theorem Steps.promoted [BEq E] {after : RosterView C E} {item : Option E} {removed : E}
    {promoted : Option (Promotion E)}
    (hstep : view.Steps (.drop item) (.dropped (.withdrawn removed promoted)) after)
    (hwaiting : view.waitlisted ≠ []) : ∃ promotion, promoted = some promotion := by
  cases hstep with
  | withdraw _ _ hline => exact absurd hline hwaiting
  | replace _ _ _ _ => exact ⟨_, rfl⟩

end RosterView

variable [BEq E] [BoundedSeq S E] [BoundedSeq T E] [ToString C] [ToString E]

namespace RosterCall

open Roster

def Raises (attach : Attach ω E C) (both : Roster C S T × ω) : RosterCall E → Prop
  | setEnrollmentCap cap =>
    (perform attach (setEnrollmentCap cap) both).result = .ok .capped ∧
      both.1.waitlisted ≠ [] ∧ both.1.enrollmentCap < cap
  | _ => False

/-- None of some calls, made one after another, raises the cap while somebody waits. -/
def NeverRaise (attach : Attach ω E C) : List (RosterCall E) → Roster C S T × ω → Prop
  | [], _ => True
  | call :: rest, both =>
    ¬ call.Raises attach both ∧ NeverRaise attach rest (perform attach call both).state

instance (attach : Attach ω E C) (both : Roster C S T × ω) [DecidableEq E] (call : RosterCall E) :
    Decidable (call.Raises attach both) :=
  match call with
  | enroll _ => inferInstanceAs (Decidable False)
  | drop _ => inferInstanceAs (Decidable False)
  | setEnrollmentCap _ => inferInstanceAs (Decidable (_ ∧ _ ∧ _))

def decideNeverRaise [DecidableEq E] (attach : Attach ω E C) :
    (calls : List (RosterCall E)) → (both : Roster C S T × ω) →
      Decidable (NeverRaise attach calls both)
  | [], _ => inferInstanceAs (Decidable True)
  | call :: rest, both =>
    have := decideNeverRaise attach rest (perform attach call both).state
    inferInstanceAs (Decidable (¬ call.Raises attach both ∧ _))

instance [DecidableEq E] (attach : Attach ω E C) (calls : List (RosterCall E))
    (both : Roster C S T × ω) : Decidable (NeverRaise attach calls both) :=
  decideNeverRaise attach calls both

theorem neverRaise_append {attach : Attach ω E C} {before after : List (RosterCall E)}
    {both : Roster C S T × ω} : NeverRaise attach (before ++ after) both ↔
      NeverRaise attach before both ∧
        NeverRaise attach after (Call.finalState (perform attach) before both) := by
  induction before generalizing both with
  | nil => simp [NeverRaise, Call.finalState]
  | cons call rest ih => simp only [List.cons_append, NeverRaise, ih, Call.finalState, and_assoc]

variable [LawfulSeq S E] [LawfulSeq T E]

/-- Sound rosters without seats that somebody waits for stay so, until the cap is raised while
somebody waits. -/
theorem perform_saturated [PartialEquivBEq E] {both : Roster C S T × ω} (hsound : both.1.Sound)
    (h : both.1.view.Saturated) {attach : Attach ω E C} {call : RosterCall E}
    (hraise : ¬ call.Raises attach both) :
    (perform attach call both).state.1.Sound ∧
      (perform attach call both).state.1.view.Saturated := by
  obtain ⟨roster, world⟩ := both
  obtain ⟨hstands, hfits⟩ := hsound
  obtain ⟨e, notices, hcall⟩ | ⟨answer, after, hstep, hresult, hafter⟩ :=
    hstands.perform_cases hfits attach world call
  · rw [hcall]
    exact ⟨⟨hstands, hfits⟩, h⟩
  · refine ⟨hafter.sound (hstep.fits hfits), ?_⟩
    rw [hafter.view_eq]
    apply hstep.saturated h
    rintro cap rfl hwaiting
    by_contra hlt
    cases hstep
    exact hraise ⟨hresult, hwaiting, Nat.lt_of_not_le hlt⟩

theorem finalState_saturated [PartialEquivBEq E] {attach : Attach ω E C}
    {calls : List (RosterCall E)} {both : Roster C S T × ω} (hsound : both.1.Sound)
    (h : both.1.view.Saturated) (hcalls : NeverRaise attach calls both) :
    (Call.finalState (perform attach) calls both).1.Sound ∧
      (Call.finalState (perform attach) calls both).1.view.Saturated := by
  induction calls generalizing both with
  | nil => exact ⟨hsound, h⟩
  | cons call rest ih =>
    obtain ⟨hcall, hrest⟩ := hcalls
    obtain ⟨hsound', h'⟩ := perform_saturated hsound h hcall
    exact ih hsound' h' hrest

variable [PartialEquivBEq E] {seats waiting : Backend}

/-- From an empty roster, along calls none of which raises the cap while somebody waits, and however
those told of their seats answer: at any time no seat is free that somebody waits for, nobody else
is given a seat while somebody waits, and whoever gives up a seat then is replaced. -/
theorem saturated_finalState {course : C} {cap : Nat} {limits : RosterLimits} {audited : Bool}
    {start : Roster C (seats.Store E) (waiting.Store E)}
    (hstart : make course cap limits audited = .ok start) (attach : Attach ω E C) (world : ω)
    (calls : List (RosterCall E)) (hcalls : NeverRaise attach calls (start, world)) :
    ∀ before, before <+: calls →
      let reached := Call.finalState (perform attach) before (start, world)
      (reached.1.waitlisted ≠ [] → reached.1.openSeats = 0) ∧
      (∀ entity, (perform attach (enroll entity) reached).result = .ok (.placed .enrolled) →
        reached.1.waitlisted = []) ∧
      ∀ entity removed promoted, reached.1.waitlisted ≠ [] →
        (perform attach (drop entity) reached).result =
          .ok (.dropped (.withdrawn removed promoted)) →
        ∃ promotion, promoted = some promotion := by
  rintro before ⟨after, rfl⟩ reached
  have hempty : start.view.waitlisted = [] := by rw [view_make hstart]
  obtain ⟨hsound, hsaturated⟩ := finalState_saturated (sound_make hstart).1
    (fun hwaiting => absurd hempty hwaiting) (neverRaise_append.mp hcalls).1
  obtain ⟨hstands, hfits⟩ := hsound
  refine ⟨?_, ?_, ?_⟩
  · intro hwaiting
    rw [hstands.openSeats_eq]
    exact Nat.sub_eq_zero_of_le (hsaturated hwaiting)
  · intro entity hanswer
    obtain ⟨after, hstep⟩ := hstands.step_of_result hfits hanswer
    exact hstep.waitlisted_eq_nil hsaturated
  · intro entity removed promoted hwaiting hanswer
    obtain ⟨after, hstep⟩ := hstands.step_of_result hfits hanswer
    exact hstep.promoted hwaiting

/-- Two seats for three students: the cap is raised before anybody waits for a seat. -/
theorem saturated_finalState_students :
    let attach := recordedAttach fun _ _ _ => .ok ()
    let ada : Student := ⟨"ada", 9⟩
    let bob : Student := ⟨"bob", 9⟩
    let cy : Student := ⟨"cy", 9⟩
    let calls := [enroll (some ada), setEnrollmentCap 2, enroll (some bob), enroll (some cy),
      setEnrollmentCap 3, setEnrollmentCap 1, setEnrollmentCap 2, drop (some ada)]
    ∃ start : Roster String (Backend.slots.Store Student) (Backend.chain.Store Student),
      make "Logic" 1 ⟨1, 2, 2⟩ true = .ok start ∧ NeverRaise attach calls (start, []) ∧
      let reached := Call.finalState (perform attach) (calls.take 7) (start, [])
      reached.1.waitlisted = [cy] ∧ reached.1.openSeats = 0 ∧
      (perform attach (drop (some ada)) reached).result =
        .ok (.dropped (.withdrawn ada (some ⟨cy, true⟩))) := by
  intro attach ada bob cy calls
  let start : Roster String (Backend.slots.Store Student) (Backend.chain.Store Student) :=
    ⟨"Logic", ⟨1, 2, 2⟩, 1, BoundedSeq.bounded 1, Queue.bounded 2, true⟩
  have hmake : make "Logic" 1 ⟨1, 2, 2⟩ true = .ok start := rfl
  have hcalls : NeverRaise attach calls (start, []) := by decide +kernel
  have hline : (Call.finalState (perform attach) (calls.take 7) (start, [])).1.waitlisted = [cy] :=
    by decide +kernel
  obtain ⟨hopen, -⟩ := saturated_finalState hmake attach [] calls hcalls (calls.take 7)
    (List.take_prefix 7 calls)
  refine ⟨start, hmake, hcalls, hline, hopen ?_, by decide +kernel⟩
  rw [hline]
  exact List.cons_ne_nil cy []

end RosterCall

end Enrollment
