import Enrollment.Proofs.Roster.Decision
import Enrollment.Proofs.Roster.Storages
import Enrollment.Proofs.Silent

/-!
Those told of a seat have no say in who gets one: two runs of a roster that differ in who takes the
course and who rejects it are one run, but for the flags of the promotions and the remarks on them.
-/
namespace Enrollment

open Call

variable {C E S T ω ω' : Type}

def AuditEntry.unremarked (entry : AuditEntry) : AuditEntry :=
  { entry with detail := if entry.action = .promote then none else entry.detail }

namespace RosterResponse

def promoted : RosterResponse E → Option E
  | changed (.dropped (.withdrawn _ (some promotion))) => some promotion.entity
  | _ => none

theorem promoted_eq_none {response : RosterResponse E}
    (h : ∀ removed promotion,
      response ≠ .changed (.dropped (.withdrawn removed (some promotion)))) :
    response.promoted = none := by
  rcases response with (_ | ⟨removed, _ | promotion⟩ | _) | _ | _
  case changed.dropped.withdrawn.some => exact absurd rfl (h removed promotion)
  all_goals rfl

def unflagged : RosterResponse E → RosterResponse E
  | changed (.dropped (.withdrawn removed (some promotion))) =>
    changed (.dropped (.withdrawn removed (some { promotion with attached := true })))
  | response => response

theorem promoted_unflagged (response : RosterResponse E) :
    response.unflagged.promoted = response.promoted := by
  rcases response with (_ | ⟨_, _ | _⟩ | _) | _ | _ <;> rfl

end RosterResponse

namespace RosterMoment

/-- What shows at a moment, but for how the one promoted took it and for the world it lives in. -/
def unswayed (moment : RosterMoment ω C E) : RosterMoment Unit C E where
  result := moment.result.map RosterResponse.unflagged
  sight := moment.sight
  audits := moment.audits.map AuditEntry.unremarked
  told := moment.told
  world := ()

def promoted (moment : RosterMoment ω C E) : Option E :=
  match moment.result with
  | .ok response => response.promoted
  | .error _ => none

theorem promoted_unswayed (moment : RosterMoment ω C E) :
    moment.unswayed.promoted = moment.promoted := by
  rw [promoted, promoted, unswayed]
  cases moment.result with
  | ok response => exact response.promoted_unflagged
  | error e => rfl

end RosterMoment

/-- How a promotion was taken shows on the audit trail in a remark only. -/
theorem RosterView.unremarked_promotion [ToString C] [ToString E] (view : RosterView C E) (next : E)
    (taken : Except ScheduleError Unit) :
    (Notice.audits (view.promotion next taken)).map AuditEntry.unremarked =
      (Notice.audits (view.promotion next (.ok ()))).map AuditEntry.unremarked := by
  cases taken with
  | ok => rfl
  | error error =>
    cases haudited : view.audited <;>
      simp [promotion, entry, line, haudited, Notice.audits, AuditEntry.unremarked]

/-- Told with a note of it, somebody takes it the same. -/
theorem Attach.noted_apply (attach : Attach ω E C) (entity : E) (course : C) (world : ω)
    (told : List (E × C)) :
    attach.noted entity course (world, told) =
      ⟨(attach entity course world).result,
        ((attach entity course world).state, told ++ [(entity, course)]),
        (attach entity course world).notices⟩ := rfl

/-- After each of some moments, the ones told of `course` are those told before it and then the one
that it reports promoted. -/
def TellsPromoted (course : C) : List (E × C) → List (RosterMoment ω C E) → Prop
  | _, [] => True
  | told, moment :: later =>
    moment.told = told ++ moment.promoted.toList.map (·, course) ∧
      TellsPromoted course moment.told later

variable [BoundedSeq S E] [BoundedSeq T E] [BEq E] [ToString C] [ToString E]

open Roster

omit [BEq E] [ToString C] [ToString E] in
theorem Roster.course_of_make {course : C} {cap : Nat} {limits : RosterLimits} {audited : Bool}
    {roster : Roster C S T} (h : make course cap limits audited = .ok roster) :
    roster.course = course := by
  rw [make] at h
  cases hcheck : limits.checkCap cap 0 with
  | error e =>
    rw [hcheck] at h
    cases h
  | ok =>
    rw [hcheck] at h
    cases h
    rfl

namespace RosterRequest

theorem perform_decided (request : RosterRequest E) (roster : Roster C S T) :
    Decided (fun removed promotion => .changed (.dropped (.withdrawn removed (some promotion))))
      (fun _ attach => perform attach request) roster := by
  cases request with
  | change call =>
    refine (call.perform_decided roster).map (g := id) (fun _ _ => rfl) ?_
    intro answer removed promotion heq
    cases heq
    exact ⟨removed, rfl⟩
  | canEnroll entity =>
    unfold perform
    refine Decided.current_bind (fun _ _ _ => rfl) ?_
    exact Decided.pure nofun
  | snapshot =>
    unfold perform
    refine Decided.current_bind (fun _ _ _ => rfl) ?_
    exact Decided.pure nofun

/-- A request made on a roster comes to the same, on the roster and in all that shows of it, however
those told of a seat take it; and whoever it reports promoted is told, and nobody else. -/
theorem perform_unswayed (request : RosterRequest E) (roster : Roster C S T)
    (told : List (E × C)) :
    ∃ (left : Roster C S T) (moment : RosterMoment Unit C E), left.course = roster.course ∧
      moment.told = told ++ moment.promoted.toList.map (·, roster.course) ∧
      ∀ (ω : Type) (attach : Attach ω E C), (∀ entity course, (attach entity course).Silent) →
        ∀ world : ω, ∃ after : ω,
          (perform attach.noted request (roster, world, told)).state = (left, after, moment.told) ∧
          (observe (perform attach.noted request (roster, world, told))).unswayed = moment := by
  obtain ⟨left, result, notices, hcourse, hne, hreply⟩ |
    ⟨left, next, removed, notices, hcourse, hreply⟩ := request.perform_decided roster
  · refine ⟨left, ⟨result.map RosterResponse.unflagged, left.sight,
      (Notice.audits notices).map AuditEntry.unremarked, told, ()⟩, hcourse, ?_, ?_⟩
    · cases result with
      | error e => exact (List.append_nil told).symm
      | ok response =>
        have hnone : response.promoted = none :=
          RosterResponse.promoted_eq_none fun removed promotion heq =>
            hne removed promotion (congrArg Except.ok heq)
        simp [RosterMoment.promoted, Except.map, RosterResponse.promoted_unflagged, hnone]
    · intro ω attach hsilent world
      have hcall := hreply _ attach.noted (world, told)
      exact ⟨world, by rw [hcall], by rw [hcall]; rfl⟩
  · refine ⟨left, ⟨.ok (.changed (.dropped (.withdrawn removed (some ⟨next, true⟩)))), left.sight,
      (Notice.audits notices ++ Notice.audits (left.view.promotion next (.ok ()))).map
        AuditEntry.unremarked, told ++ [(next, roster.course)], ()⟩, hcourse, rfl, ?_⟩
    intro ω attach hsilent world
    have hcall := hreply _ attach.noted (world, told)
    simp only [Attach.noted_apply] at hcall
    refine ⟨(attach next roster.course world).state, by rw [hcall], ?_⟩
    simp only [hcall, observe, RosterMoment.unswayed, Notice.audits_append, List.map_append,
      hsilent next roster.course world, RosterView.unremarked_promotion, List.nil_append]
    rfl

theorem run_unswayed {attach : Attach ω E C} {attach' : Attach ω' E C}
    (h : ∀ entity course, (attach entity course).Silent)
    (h' : ∀ entity course, (attach' entity course).Silent) (requests : List (RosterRequest E))
    (roster : Roster C S T) (told : List (E × C)) (world : ω) (world' : ω') :
    let moments := (Call.run (perform attach.noted) requests (roster, world, told)).map observe
    let moments' := (Call.run (perform attach'.noted) requests (roster, world', told)).map observe
    moments.map RosterMoment.unswayed = moments'.map RosterMoment.unswayed ∧
      TellsPromoted roster.course told moments := by
  induction requests generalizing roster told world world' with
  | nil => exact ⟨rfl, trivial⟩
  | cons request rest ih =>
    obtain ⟨left, moment, hcourse, htold, hreply⟩ := request.perform_unswayed roster told
    obtain ⟨after, hstate, hmoment⟩ := hreply ω attach h world
    obtain ⟨after', hstate', hmoment'⟩ := hreply ω' attach' h' world'
    obtain ⟨hrest, htells⟩ := ih left moment.told after after'
    rw [hcourse] at htells
    simp only [Call.run, List.map_cons, hstate, hstate', hmoment, hmoment']
    refine ⟨congrArg (moment :: ·) hrest, ?_, ?_⟩
    · rwa [← hmoment, RosterMoment.promoted_unswayed] at htold
    · obtain rfl := hmoment
      exact htells

/-- Two runs of the same requests on the same new roster, whoever takes the course in one of them
and rejects it in the other: both show the same seats, waitlist and cap, the same people are told
of the same course, and the answers and the audit trails differ in the flags of promotions and in
the remarks on them only.  At each moment, who is told is who is reported promoted then. -/
theorem story_unswayed (course : C) (cap : Nat) (limits : RosterLimits) (audited : Bool)
    {attach : Attach ω E C} {attach' : Attach ω' E C}
    (h : ∀ entity course, (attach entity course).Silent)
    (h' : ∀ entity course, (attach' entity course).Silent) (world : ω) (world' : ω')
    (requests : List (RosterRequest E)) :
    (∃ e, story S T course cap limits audited attach world requests = .error e ∧
      story S T course cap limits audited attach' world' requests = .error e) ∨
    ∃ sight moments moments',
      story S T course cap limits audited attach world requests = .ok (sight, moments) ∧
      story S T course cap limits audited attach' world' requests = .ok (sight, moments') ∧
      moments.map RosterMoment.unswayed = moments'.map RosterMoment.unswayed ∧
      TellsPromoted course [] moments ∧ TellsPromoted course [] moments' := by
  cases hmake : (make course cap limits audited : Except RosterError (Roster C S T)) with
  | error e =>
    refine .inl ⟨e, ?_, ?_⟩
    · rw [story, hmake]
      rfl
    · rw [story, hmake]
      rfl
  | ok roster =>
    obtain ⟨hsame, htells⟩ := run_unswayed h h' requests roster [] world world'
    obtain ⟨-, htells'⟩ := run_unswayed h' h requests roster [] world' world
    obtain rfl := course_of_make hmake
    refine .inr ⟨roster.sight, _, _, ?_, ?_, hsame, htells, htells'⟩
    · rw [story, hmake]
      rfl
    · rw [story, hmake]
      rfl

/-- One seat for two students: the one who waits for it has too few credits for the course, or is
asked about nothing. -/
theorem story_unswayed_students :
    let logic : Course := ⟨"Logic", "Logic", "001", 3, none, .arranged⟩
    let always : Attach Unit Student Course := fun _ _ => pure ()
    let requests : List (RosterRequest Student) :=
      [change (.enroll (some ⟨"ada", 9⟩)), change (.enroll (some ⟨"bob", 2⟩)),
        change (.drop (some ⟨"ada", 9⟩)), snapshot]
    ∃ sight moments moments',
      story (ChainList Student) (ChainList Student) logic 1 ⟨1, 2, 1⟩ true Students.attach
        Directory.empty requests = .ok (sight, moments) ∧
      story (ChainList Student) (ChainList Student) logic 1 ⟨1, 2, 1⟩ true always () requests =
        .ok (sight, moments') ∧
      moments.map RosterMoment.unswayed = moments'.map RosterMoment.unswayed ∧
      TellsPromoted logic [] moments ∧ TellsPromoted logic [] moments' ∧
      moments.map (·.result) ≠ moments'.map (·.result) := by
  intro logic always requests
  obtain ⟨e, hstory, -⟩ |
    ⟨sight, moments, moments', hstory, hstory', hsame, htells, htells'⟩ :=
    story_unswayed (S := ChainList Student) (T := ChainList Student) logic 1 ⟨1, 2, 1⟩ true
      Students.silent_attach (fun _ _ => Call.Silent.pure ()) Directory.empty () requests
  · cases hstory
  · refine ⟨sight, moments, moments', hstory, hstory', hsame, htells, htells', ?_⟩
    cases hstory
    cases hstory'
    decide +kernel

end RosterRequest

end Enrollment
