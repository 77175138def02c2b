import Enrollment.Proofs.Roster.Steps
import Enrollment.Proofs.Sequence.QueueHistory

/-!
The history of a roster, as its answers tell it: the waitlist is first come, first served, and the
seats are in the order they were obtained.
-/
namespace Enrollment

structure RosterHistory (E : Type) where
  joined : List E
  seated : List E
  promoted : List E
  deriving DecidableEq

namespace RosterHistory

variable {E : Type}

def empty : RosterHistory E := ⟨[], [], []⟩

variable [BEq E]

def note (history : RosterHistory E) :
    RosterCall E × Except RosterError (RosterAnswer E) → RosterHistory E
  | (.enroll (some entity), .ok (.placed .enrolled)) =>
    { history with seated := history.seated ++ [entity] }
  | (.enroll (some entity), .ok (.placed .waitlisted)) =>
    { history with joined := history.joined ++ [entity] }
  | (.drop _, .ok (.dropped (.withdrawn entity none))) =>
    { history with seated := strikeLast entity history.seated }
  | (.drop _, .ok (.dropped (.withdrawn entity (some promotion)))) =>
    { history with
      seated := strikeLast entity history.seated ++ [promotion.entity]
      promoted := history.promoted ++ [promotion.entity] }
  | (.drop _, .ok (.dropped (.leftWaitlist entity))) =>
    { history with joined := strikeLast entity history.joined }
  | _ => history

@[simp] theorem note_error (history : RosterHistory E) (call : RosterCall E) (e : RosterError) :
    history.note (call, .error e) = history := by
  obtain (_ | _) | _ | _ := call <;> rfl

/-- The promoted, then those who wait, are those who came to wait; the seated are those who
obtained a seat. -/
structure Recounts (history : RosterHistory E) (enrolled waitlisted : List E) : Prop where
  joined : history.promoted ++ waitlisted = history.joined
  seated : enrolled = history.seated

end RosterHistory

namespace RosterHistory

variable {E : Type} {history : RosterHistory E} {enrolled waitlisted rest : List E} {index : Nat}
  {entity item : E}

theorem Recounts.seat (h : history.Recounts enrolled waitlisted) (entity : E) :
    Recounts { history with seated := history.seated ++ [entity] } (enrolled ++ [entity])
      waitlisted where
  joined := h.joined
  seated := by rw [h.seated]

theorem Recounts.wait (h : history.Recounts enrolled waitlisted) (entity : E) :
    Recounts { history with joined := history.joined ++ [entity] } enrolled
      (waitlisted ++ [entity]) where
  joined := by rw [← h.joined, List.append_assoc]
  seated := h.seated

theorem Recounts.promote (h : history.Recounts enrolled (entity :: rest)) :
    Recounts { history with
        seated := history.seated ++ [entity]
        promoted := history.promoted ++ [entity] } (enrolled ++ [entity]) rest where
  joined := by simp [← h.joined]
  seated := by rw [h.seated]

variable [BEq E] [PartialEquivBEq E]

theorem Recounts.withdraw (h : history.Recounts enrolled waitlisted) (hdistinct : Distinct enrolled)
    (hfound : enrolled.findIdx? (· == item) = some index)
    (hentity : enrolled[index]? = some entity) :
    Recounts { history with seated := strikeLast entity history.seated }
      (enrolled.eraseIdx index) waitlisted where
  joined := h.joined
  seated := by
    rw [← h.seated]
    exact (hdistinct.strikeLast_eq [] hfound hentity).symm

theorem Recounts.leave (h : history.Recounts enrolled waitlisted) (hdistinct : Distinct waitlisted)
    (hfound : waitlisted.findIdx? (· == item) = some index)
    (hentity : waitlisted[index]? = some entity) :
    Recounts { history with joined := strikeLast entity history.joined }
      enrolled (waitlisted.eraseIdx index) where
  joined := by
    rw [← h.joined]
    exact (hdistinct.strikeLast_eq history.promoted hfound hentity).symm
  seated := h.seated

/-- What the answer of a step tells is what has changed on the roster. -/
theorem Recounts.step {C : Type} {view after : RosterView C E} {call : RosterCall E}
    {answer : RosterAnswer E} (h : history.Recounts view.enrolled view.waitlisted)
    (hdistinct : Distinct (view.enrolled ++ view.waitlisted))
    (hstep : view.Steps call answer after) :
    (history.note (call, .ok answer)).Recounts after.enrolled after.waitlisted := by
  obtain ⟨henrolled, hwaitlisted, -⟩ := List.pairwise_append.mp hdistinct
  cases hstep with
  | seat _ _ => exact h.seat _
  | wait _ _ _ => exact h.wait _
  | withdraw hfound hremoved hline =>
    rw [hline] at h
    exact h.withdraw henrolled hfound hremoved
  | replace hfound hremoved hline _ =>
    rw [hline] at h
    exact (h.withdraw henrolled hfound hremoved).promote
  | leave _ hfound hremoved => exact h.leave hwaitlisted hfound hremoved
  | recap _ _ _ => exact h

end RosterHistory

variable {C E S T ω : Type} [BEq E] [ToString C] [ToString E]

namespace RosterCall

open Roster

section Steps

variable [BoundedSeq S E] [BoundedSeq T E] {roster : Roster C S T} {past : RosterHistory E}

def Continues (past : RosterHistory E) (call : RosterCall E)
    (reply : Reply (Roster C S T × ω) RosterError (RosterAnswer E)) : Prop :=
  (past.note (call, reply.result)).Recounts reply.state.1.enrolled reply.state.1.waitlisted

variable [LawfulSeq S E] [LawfulSeq T E]

theorem perform_continues [PartialEquivBEq E] (hsound : roster.Sound)
    (h : past.Recounts roster.enrolled roster.waitlisted) (attach : Attach ω E C) (world : ω)
    (call : RosterCall E) : Continues past call (perform attach call (roster, world)) := by
  obtain ⟨hstands, hfits⟩ := hsound
  obtain ⟨e, notices, hcall⟩ | ⟨answer, after, hstep, hresult, hafter⟩ :=
    hstands.perform_cases hfits attach world call
  · rw [Continues, hcall, RosterHistory.note_error]
    exact h
  · have henrolled : (perform attach call (roster, world)).state.1.enrolled = after.enrolled :=
      congrArg RosterView.enrolled hafter.view_eq
    have hwaitlisted : (perform attach call (roster, world)).state.1.waitlisted =
        after.waitlisted := congrArg RosterView.waitlisted hafter.view_eq
    rw [Continues, hresult, henrolled, hwaitlisted]
    exact RosterHistory.Recounts.step h hfits.distinct hstep

/-- Who is promoted is the head of the waitlist, and nobody else has left it. -/
theorem waitlisted_of_promoted (hsound : roster.Sound) (attach : Attach ω E C) (world : ω)
    {entity : Option E} {removed : E} {promotion : Promotion E}
    (h : (perform attach (drop entity) (roster, world)).result =
      .ok (.dropped (.withdrawn removed (some promotion)))) :
    roster.waitlisted = promotion.entity ::
      (perform attach (drop entity) (roster, world)).state.1.waitlisted := by
  obtain ⟨hstands, hfits⟩ := hsound
  obtain ⟨e, notices, hcall⟩ | ⟨answer, after, hstep, hresult, hafter⟩ :=
    hstands.perform_cases hfits attach world (drop entity)
  · rw [hcall] at h
    cases h
  · rw [hresult] at h
    cases h
    have hrest := congrArg RosterView.waitlisted hafter.view_eq
    cases hstep with
    | replace _ _ hline _ => exact hline.trans (congrArg _ hrest.symm)

def history (calls : List (RosterCall E))
    (replies : List (Reply (Roster C S T × ω) RosterError (RosterAnswer E)))
    (past : RosterHistory E) : RosterHistory E :=
  (calls.zip (replies.map (·.result))).foldl RosterHistory.note past

theorem finalState_recounts [PartialEquivBEq E] (attach : Attach ω E C)
    (calls : List (RosterCall E)) (both : Roster C S T × ω) {past : RosterHistory E}
    (hsound : both.1.Sound) (h : past.Recounts both.1.enrolled both.1.waitlisted) :
    (Call.finalState (perform attach) calls both).1.Sound ∧
      (history calls (Call.run (perform attach) calls both) past).Recounts
        (Call.finalState (perform attach) calls both).1.enrolled
        (Call.finalState (perform attach) calls both).1.waitlisted := by
  refine @Call.recount_induction _ _ _ _ (perform attach) _ RosterHistory.note
    (fun past both => both.1.Sound ∧ past.Recounts both.1.enrolled both.1.waitlisted)
    ?_ calls past both ⟨hsound, h⟩
  intro call past both ⟨hsound, h⟩
  exact ⟨(perform_sound hsound rfl attach both.2 call).1,
    perform_continues hsound h attach both.2 call⟩

end Steps

variable [PartialEquivBEq E] {seats waiting : Backend}

/-- From an empty roster, after any calls and however those told of their seats answer: the promoted
and then the waitlist are those who came to wait, the seats are those obtained, both in order and
less those given up; no one is there twice; and whoever is promoted next is the head of the
waitlist. -/
theorem recounted_finalState {course : C} {cap : Nat} {limits : RosterLimits} {audited : Bool}
    {start : Roster C (seats.Store E) (waiting.Store E)}
    (hstart : make course cap limits audited = .ok start) (attach : Attach ω E C) (world : ω)
    (calls : List (RosterCall E)) :
    let told := history calls (Call.run (perform attach) calls (start, world)) .empty
    let reached := Call.finalState (perform attach) calls (start, world)
    told.promoted ++ reached.1.waitlisted = told.joined ∧ reached.1.enrolled = told.seated ∧
      Distinct (reached.1.enrolled ++ reached.1.waitlisted) ∧
      ∀ entity removed promotion,
        (perform attach (drop entity) reached).result =
          .ok (.dropped (.withdrawn removed (some promotion))) →
        reached.1.waitlisted =
          promotion.entity :: (perform attach (drop entity) reached).state.1.waitlisted := by
  intro told reached
  have hview := view_make hstart
  have hempty : RosterHistory.empty.Recounts start.enrolled start.waitlisted :=
    ⟨congrArg RosterView.waitlisted hview, congrArg RosterView.enrolled hview⟩
  obtain ⟨hsound, hrecounts⟩ := finalState_recounts attach calls (start, world)
    (sound_make hstart).1 hempty
  refine ⟨hrecounts.joined, hrecounts.seated, hsound.fits.distinct, ?_⟩
  intro entity removed promotion hpromoted
  exact waitlisted_of_promoted hsound attach reached.2 hpromoted

/-- One seat for three students, the first of whom gives it up and then waits behind the third. -/
theorem recounted_finalState_students :
    let attach := recordedAttach fun _ _ _ => .ok ()
    let ada : Student := ⟨"ada", 9⟩
    let bob : Student := ⟨"bob", 9⟩
    let cy : Student := ⟨"cy", 9⟩
    let calls := [enroll (some ada), enroll (some bob), enroll (some cy), drop (some ada),
      enroll (some ada)]
    ∃ start : Roster String (Backend.slots.Store Student) (Backend.chain.Store Student),
      make "Logic" 1 ⟨1, 2, 2⟩ true = .ok start ∧
      let told := history calls (Call.run (perform attach) calls (start, [])) .empty
      let reached := Call.finalState (perform attach) calls (start, [])
      told.promoted ++ reached.1.waitlisted = told.joined ∧ reached.1.enrolled = told.seated ∧
      told = ⟨[bob, cy, ada], [bob], [bob]⟩ := by
  have hmake : make "Logic" 1 ⟨1, 2, 2⟩ true =
      .ok (⟨"Logic", ⟨1, 2, 2⟩, 1, BoundedSeq.bounded 1, Queue.bounded 2, true⟩ :
        Roster String (Backend.slots.Store Student) (Backend.chain.Store Student)) := rfl
  intro attach ada bob cy calls
  obtain ⟨hjoined, hseated, -⟩ := recounted_finalState hmake attach [] calls
  exact ⟨_, hmake, hjoined, hseated, by decide +kernel⟩

end RosterCall

end Enrollment
