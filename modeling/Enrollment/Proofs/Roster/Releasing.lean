import Enrollment.Proofs.Roster.Invariant

/-!
What comes of it when an entity asks to be taken off a roster.  A seat given up goes to the head of
the line and to nobody else, though more seats may be free: a raised cap leaves seats open beside
those who wait, and no drop makes up for it.
-/
namespace Enrollment

variable {C E S T ω : Type} [BEq E]

namespace RosterView

/-- What an entity that asks to be taken off is answered, and what shows then; `taken` says of the
head of the line whether its schedule takes the course. -/
inductive Releases (view : RosterView C E) (taken : E → Bool) :
    Option E → Except RosterError (DropOutcome E) → RosterView C E → Prop
  | nobody : Releases view taken none (.error .nullEntity) view
  | withdrawn {entity stored : E} {before after : List E}
      (hseat : SoleMatch view.enrolled entity stored before after) :
      Releases view taken (some entity)
        (.ok (.withdrawn stored (view.waitlisted.head?.map fun next => ⟨next, taken next⟩)))
        (view.filled (before ++ after ++ view.waitlisted.head?.toList) view.waitlisted.tail)
  | leftWaitlist {entity stored : E} {before after : List E}
      (hseats : ∀ seated ∈ view.enrolled, (seated == entity) = false)
      (hplace : SoleMatch view.waitlisted entity stored before after) :
      Releases view taken (some entity) (.ok (.leftWaitlist stored))
        (view.filled view.enrolled (before ++ after))
  | notFound {entity : E} (hseats : ∀ seated ∈ view.enrolled, (seated == entity) = false)
      (hline : ∀ waiting ∈ view.waitlisted, (waiting == entity) = false) :
      Releases view taken (some entity) (.error .notFound) view

variable {view : RosterView C E} {taken : E → Bool}

/-- Nobody waits for the seat that is given up. -/
theorem Releases.alone {entity stored : E} {before after : List E}
    (hseat : SoleMatch view.enrolled entity stored before after) (hline : view.waitlisted = []) :
    view.Releases taken (some entity) (.ok (.withdrawn stored none))
      (view.filled (before ++ after) []) := by
  have hreleases : view.Releases taken _ _ _ := .withdrawn hseat
  simpa only [hline, List.head?_nil, Option.map_none, Option.toList_none, List.append_nil,
    List.tail_nil] using hreleases

theorem Releases.replaced {entity stored next : E} {before after rest : List E}
    (hseat : SoleMatch view.enrolled entity stored before after)
    (hline : view.waitlisted = next :: rest) :
    view.Releases taken (some entity) (.ok (.withdrawn stored (some ⟨next, taken next⟩)))
      (view.filled (before ++ after ++ [next]) rest) := by
  have hreleases : view.Releases taken _ _ _ := .withdrawn hseat
  simpa only [hline, List.head?_cons, Option.map_some, Option.toList_some, List.tail_cons] using
    hreleases

theorem Releases.enrollmentCap_eq {entity : Option E} {result : Except RosterError (DropOutcome E)}
    {after : RosterView C E} (h : view.Releases taken entity result after) :
    after.enrollmentCap = view.enrollmentCap := by
  cases h <;> rfl

end RosterView

variable [BoundedSeq S E] [BoundedSeq T E] [LawfulSeq S E] [LawfulSeq T E] [ToString C] [ToString E]
  [PartialEquivBEq E]

/-- An entity is released by the rules: refused, nothing has changed and the audit trail is told of
nothing; or the roster stands for what shows then. -/
theorem Roster.Stands.drop_releases {view : RosterView C E} {roster : Roster C S T}
    (h : Stands view roster) (hfits : view.Fits) (attach : Attach ω E C) (world : ω)
    (entity : Option E) :
    let taken (next : E) := (attach next view.course world).result.isOk
    (∃ e notices, view.Releases taken entity (.error e) view ∧ Notice.audits notices = [] ∧
      drop attach entity (roster, world) = ⟨.error e, (roster, world), notices⟩) ∨
    ∃ outcome after told heard, view.Releases taken entity (.ok outcome) after ∧
      (drop attach entity).Answers (roster, world) outcome
        (fun both => ∃ left, Stands after left ∧ both = (left, told)) heard := by
  intro taken
  cases entity with
  | none => exact .inl ⟨_, [], .nobody, rfl, rfl⟩
  | some entity =>
    have hseats : Distinct view.enrolled :=
      hfits.distinct.sublist (List.sublist_append_left _ _)
    have hplaces : Distinct view.waitlisted :=
      hfits.distinct.sublist (List.sublist_append_right _ _)
    obtain ⟨index, removed, hfound, hremoved, hline, hcall⟩ |
      ⟨index, removed, next, rest, hfound, hremoved, hline, hcall⟩ |
      ⟨index, removed, hnone, hfound, hremoved, hcall⟩ | ⟨hnone, habsent, hcall⟩ :=
      h.drop_cases hfits attach world entity
    · obtain ⟨before, after, hseat, hrest⟩ := hseats.exists_soleMatch hfound hremoved
      rw [hrest] at hcall
      exact .inr ⟨_, _, _, _, .alone hseat hline, hcall⟩
    · obtain ⟨before, after, hseat, hrest⟩ := hseats.exists_soleMatch hfound hremoved
      rw [hrest] at hcall
      exact .inr ⟨_, _, _, _, .replaced hseat hline, hcall⟩
    · obtain ⟨before, after, hplace, hrest⟩ := hplaces.exists_soleMatch hfound hremoved
      rw [hrest] at hcall
      exact .inr ⟨_, _, _, _, .leftWaitlist (List.findIdx?_eq_none_iff.mp hnone) hplace, hcall⟩
    · exact .inl ⟨_, _, .notFound (List.findIdx?_eq_none_iff.mp hnone)
        (List.findIdx?_eq_none_iff.mp habsent), rfl, hcall⟩

namespace RosterCall

open Roster

variable {seats waiting : Backend}

/-- On any storages, after any calls and however those told of their seats answer: an entity that
asks to be taken off is released by the rules, the cap stays, and a refusal changes nothing. -/
theorem released_finalState {course : C} {cap : Nat} {limits : RosterLimits} {audited : Bool}
    {start : Roster C (seats.Store E) (waiting.Store E)}
    (hstart : make course cap limits audited = .ok start) (attach : Attach ω E C) (world : ω)
    (calls : List (RosterCall E)) (entity : Option E) :
    let reached := Call.finalState (perform attach) calls (start, world)
    let taken (next : E) := (attach next reached.1.course reached.2).result.isOk
    let reply := Roster.drop attach entity reached
    reached.1.view.Releases taken entity reply.result reply.state.1.view ∧
      reply.state.1.enrollmentCap = reached.1.enrollmentCap ∧
      ∀ e, reply.result = .error e → reply.state = reached ∧ Notice.audits reply.notices = [] := by
  intro reached taken reply
  obtain ⟨⟨hstands, hfits⟩, -⟩ := sound_finalState hstart attach world calls
  obtain ⟨e, notices, hreleases, haudits, hcall⟩ |
    ⟨outcome, after, told, heard, hreleases, hcall⟩ :=
    hstands.drop_releases hfits attach reached.2 entity
  · have hreply : reply = ⟨.error e, reached, notices⟩ := hcall
    rw [hreply]
    exact ⟨hreleases, rfl, fun _ _ => ⟨rfl, haudits⟩⟩
  · obtain ⟨left, hleft, hstate⟩ := hcall.state
    have hresult : reply.result = .ok outcome := hcall.result
    have hreply : reply.state = (left, told) := hstate
    have hcap := congrArg RosterView.enrollmentCap hleft.view_eq
    rw [hresult, hreply, hleft.view_eq]
    exact ⟨hreleases, hcap.trans hreleases.enrollmentCap_eq, nofun⟩

/-- Three seats, two of them free, and two students in the line: the one seat that is given up goes
to the first of them, and nobody is moved into the others. -/
theorem released_finalState_students :
    let attach := recordedAttach fun _ _ _ => .error (.creditLimit 9)
    let ada : Student := ⟨"ada", 9⟩
    let bob : Student := ⟨"bob", 9⟩
    let cy : Student := ⟨"cy", 9⟩
    let calls := [enroll (some ada), enroll (some bob), enroll (some cy), setEnrollmentCap 3]
    ∃ start : Roster String (Backend.slots.Store Student) (Backend.chain.Store Student),
      make "Logic" 1 ⟨1, 3, 2⟩ true = .ok start ∧
      let reached := Call.finalState (perform attach) calls (start, [])
      let reply := Roster.drop attach (some ⟨"ada", 4⟩) reached
      reached.1.view.Releases (fun _ => false) (some ⟨"ada", 4⟩)
        (.ok (.withdrawn ada (some ⟨bob, false⟩))) reply.state.1.view ∧
      reply.state.1.enrollmentCap = 3 ∧ reply.state.1.openSeats = 2 ∧
      reply.state.1.waitlisted = [cy] ∧
      (Roster.drop attach (some ⟨"dan", 9⟩) reached).state = reached := by
  intro attach ada bob cy calls
  let start : Roster String (Backend.slots.Store Student) (Backend.chain.Store Student) :=
    ⟨"Logic", ⟨1, 3, 2⟩, 1, BoundedSeq.bounded 1, Queue.bounded 2, true⟩
  have hmake : make "Logic" 1 ⟨1, 3, 2⟩ true = .ok start := rfl
  obtain ⟨hada, hcap, -⟩ := released_finalState hmake attach [] calls (some ⟨"ada", 4⟩)
  obtain ⟨-, -, hdan⟩ := released_finalState hmake attach [] calls (some ⟨"dan", 9⟩)
  refine ⟨start, hmake, ?_, hcap.trans (by decide +kernel), by decide +kernel, by decide +kernel,
    (hdan .notFound (by decide +kernel)).1⟩
  rwa [show (Roster.drop attach (some ⟨"ada", 4⟩)
    (Call.finalState (perform attach) calls (start, []))).result =
      .ok (.withdrawn ada (some ⟨bob, false⟩)) by decide +kernel] at hada

end RosterCall

end Enrollment
