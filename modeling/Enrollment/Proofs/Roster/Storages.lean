import Enrollment.Proofs.Mirror
import Enrollment.Proofs.Roster.Invariant

/-!
Nothing that a roster answers or shows tells what its storages are: on any two choices of storages
for the seats and for the waitlist, the same requests have the same story.
-/
namespace Enrollment

variable {C E S U T V ω ε β : Type} [BEq E] [BoundedSeq S E] [BoundedSeq U E] [BoundedSeq T E]
  [BoundedSeq V E] [LawfulSeq S E] [LawfulSeq U E] [LawfulSeq T E] [LawfulSeq V E]

open Call

namespace LawfulSeq

open BoundedSeq

structure Matches (s : S) (s' : U) : Prop where
  sound : Sound s
  sound_other : Sound s'
  plain_eq : plain s = plain s'

namespace Matches

variable {s : S} {s' : U}

theorem toList_eq (h : Matches s s') : toList s = toList s' :=
  congrArg CappedList.items h.plain_eq

theorem capacity_eq (h : Matches s s') : capacity s = capacity s' :=
  congrArg CappedList.capacity h.plain_eq

theorem length_eq (h : Matches s s') : length s = length s' := by
  rw [LawfulSeq.length_eq h.sound, LawfulSeq.length_eq h.sound_other, h.toList_eq]

theorem get_eq (h : Matches s s') (index : Nat) :
    BoundedSeq.get s index = BoundedSeq.get s' index := by
  rw [LawfulSeq.get_eq index h.sound, LawfulSeq.get_eq index h.sound_other, h.plain_eq]

theorem position_eq (h : Matches s s') (value : E) : position s value = position s' value := by
  rw [position, position, h.toList_eq]

theorem contains_eq (h : Matches s s') (value : E) : contains s value = contains s' value := by
  rw [contains, contains, h.position_eq]

end Matches

theorem matches_bounded (bound : Nat) : Matches (bounded bound : S) (bounded bound : U) where
  sound := sound_bounded bound
  sound_other := sound_bounded bound
  plain_eq := (plain_bounded bound).trans (plain_bounded bound).symm

/-- Calls that follow one and the same call on the plain list. -/
theorem mirrors_of_follows {call : Call S ε β} {call' : Call U ε β}
    {model : Call (CappedList E) ε β} (h : ∀ {s : S}, Sound s → Follows Sound call model s)
    (h' : ∀ {s' : U}, Sound s' → Follows Sound call' model s') : Mirrors Matches call call' := by
  intro s s' ⟨hsound, hsound', hplain⟩
  have hcall := h hsound
  have hcall' := h' hsound'
  refine ⟨?_, ⟨hcall.sound, hcall'.sound, ?_⟩, ?_⟩
  · rw [hcall.result, hcall'.result, hplain]
  · rw [hcall.plain, hcall'.plain, hplain]
  · rw [hcall.quiet, hcall'.quiet]

theorem push_mirrors (value : Option E) :
    Mirrors (Matches (S := S) (U := U)) (push value) (push value) :=
  mirrors_of_follows (fun h => push_follows h value) fun h => push_follows h value

theorem removeAt_mirrors (index : Nat) :
    Mirrors (Matches (S := S) (U := U)) (removeAt index) (removeAt index) :=
  mirrors_of_follows (removeAt_follows index) (removeAt_follows index)

theorem removeItem_mirrors (value : E) :
    Mirrors (Matches (S := S) (U := U)) (removeItem value : Call S ε (Option E))
      (removeItem value) :=
  mirrors_of_follows (fun h => removeItem_follows h value) fun h => removeItem_follows h value

theorem setCapacity_mirrors (capacity : Nat) :
    Mirrors (Matches (S := S) (U := U)) (setCapacity capacity) (setCapacity capacity) :=
  mirrors_of_follows (setCapacity_follows capacity) (setCapacity_follows capacity)

end LawfulSeq

namespace Queue

def Matches (queue : Queue T) (other : Queue V) : Prop :=
  LawfulSeq.Matches queue.line other.line

namespace Matches

variable {queue : Queue T} {other : Queue V}

theorem length_eq (h : Matches queue other) : queue.length = other.length :=
  LawfulSeq.Matches.length_eq h

theorem capacity_eq (h : Matches queue other) : queue.capacity = other.capacity :=
  LawfulSeq.Matches.capacity_eq h

theorem isEmpty_eq (h : Matches queue other) : queue.isEmpty = other.isEmpty := by
  rw [isEmpty, isEmpty, h.length_eq]

theorem isFull_eq (h : Matches queue other) : queue.isFull = other.isFull := by
  rw [isFull, isFull, h.length_eq, h.capacity_eq]

theorem contains_eq (h : Matches queue other) (value : E) :
    queue.contains value = other.contains value :=
  LawfulSeq.Matches.contains_eq h value

end Matches

theorem onLine_mirrors {call : Call T ε β} {call' : Call V ε β}
    (h : Mirrors LawfulSeq.Matches call call') : Mirrors Matches (onLine call) (onLine call') :=
  h.within (fun _ _ h => h) fun _ _ _ _ _ hline => hline

theorem enqueue_mirrors (value : Option E) :
    Mirrors (Matches (T := T) (V := V)) (enqueue value) (enqueue value) :=
  onLine_mirrors (LawfulSeq.push_mirrors value)

theorem dequeue_mirrors : Mirrors (Matches (T := T) (V := V)) dequeue dequeue := by
  refine Mirrors.current_bind fun queue other h => ?_
  rw [h.isEmpty_eq]
  exact (Mirrors.refuse _).ite (onLine_mirrors (LawfulSeq.removeAt_mirrors 0))

theorem removeItem_mirrors (value : E) :
    Mirrors (Matches (T := T) (V := V)) (removeItem value : Call (Queue T) ε (Option E))
      (removeItem value) :=
  onLine_mirrors (LawfulSeq.removeItem_mirrors value)

end Queue

namespace Roster

structure Matches (roster : Roster C S T) (other : Roster C U V) : Prop where
  course : roster.course = other.course
  limits : roster.limits = other.limits
  enrollmentCap : roster.enrollmentCap = other.enrollmentCap
  audited : roster.audited = other.audited
  seats : LawfulSeq.Matches roster.seats other.seats
  waitlist : Queue.Matches roster.waitlist other.waitlist

namespace Matches

variable {roster : Roster C S T} {other : Roster C U V}

theorem enrolled_eq (h : Matches roster other) : roster.enrolled = other.enrolled :=
  h.seats.toList_eq

theorem waitlisted_eq (h : Matches roster other) : roster.waitlisted = other.waitlisted :=
  LawfulSeq.Matches.toList_eq h.waitlist

theorem enrolledCount_eq (h : Matches roster other) : roster.enrolledCount = other.enrolledCount :=
  h.seats.length_eq

theorem waitlistCount_eq (h : Matches roster other) : roster.waitlistCount = other.waitlistCount :=
  h.waitlist.length_eq

theorem openSeats_eq (h : Matches roster other) : roster.openSeats = other.openSeats := by
  rw [openSeats, openSeats, h.enrollmentCap, h.enrolledCount_eq]

theorem isEnrolled_eq (h : Matches roster other) (entity : E) :
    roster.isEnrolled entity = other.isEnrolled entity :=
  h.seats.contains_eq entity

theorem isWaitlisted_eq (h : Matches roster other) (entity : E) :
    roster.isWaitlisted entity = other.isWaitlisted entity :=
  h.waitlist.contains_eq entity

theorem canEnroll_eq (h : Matches roster other) (entity : Option E) :
    roster.canEnroll entity = other.canEnroll entity := by
  cases entity with
  | none => rfl
  | some entity =>
    simp only [canEnroll, h.isEnrolled_eq, h.isWaitlisted_eq, h.openSeats_eq, h.waitlist.isFull_eq]

theorem snapshot_eq [ToString C] (h : Matches roster other) :
    roster.snapshot = other.snapshot := by
  simp only [snapshot, h.course, h.enrollmentCap, h.enrolledCount_eq, h.openSeats_eq,
    h.waitlistCount_eq, h.waitlist.capacity_eq]

end Matches

/-- From the same start, both storages allow the roster or both refuse it. -/
theorem make_cases_both (course : C) (cap : Nat) (limits : RosterLimits) (audited : Bool) :
    (∃ e, (make course cap limits audited : Except RosterError (Roster C S T)) = .error e ∧
      (make course cap limits audited : Except RosterError (Roster C U V)) = .error e) ∨
    ∃ (roster : Roster C S T) (other : Roster C U V),
      make course cap limits audited = .ok roster ∧ make course cap limits audited = .ok other ∧
      Matches roster other := by
  cases hcheck : limits.checkCap cap 0 with
  | error e => exact .inl ⟨e, by rw [make, hcheck]; rfl, by rw [make, hcheck]; rfl⟩
  | ok =>
    refine .inr ⟨_, _, by rw [make, hcheck]; rfl, by rw [make, hcheck]; rfl, ?_⟩
    exact ⟨rfl, rfl, rfl, rfl, LawfulSeq.matches_bounded cap,
      LawfulSeq.matches_bounded limits.waitlistCapacity⟩

theorem onSeats_mirrors {call : Call S ε β} {call' : Call U ε β}
    (h : Mirrors LawfulSeq.Matches call call') :
    Mirrors (Matches (C := C) (T := T) (V := V)) (onSeats call) (onSeats call') :=
  h.within (fun _ _ h => h.seats) fun _ _ h _ _ hseats => { h with seats := hseats }

theorem onWaitlist_mirrors {call : Call (Queue T) ε β} {call' : Call (Queue V) ε β}
    (h : Mirrors Queue.Matches call call') :
    Mirrors (Matches (C := C) (S := S) (U := U)) (onWaitlist call) (onWaitlist call') :=
  h.within (fun _ _ h => h.waitlist) fun _ _ h _ _ hwaitlist => { h with waitlist := hwaitlist }

variable [ToString C]

theorem log_mirrors (level : LogLevel) (message : String) (fields : List (String × LogValue)) :
    Mirrors Matches (log level message fields : Call (Roster C S T) ε Unit)
      (log level message fields : Call (Roster C U V) ε Unit) := by
  refine Mirrors.current_bind fun roster other h => ?_
  rw [h.course]
  exact Mirrors.notify _

theorem setEnrollmentCap_mirrors (cap : Nat) :
    Mirrors Matches (setEnrollmentCap cap : Call (Roster C S T) RosterError Unit)
      (setEnrollmentCap cap : Call (Roster C U V) RosterError Unit) := by
  refine Mirrors.current_bind fun roster other h => ?_
  rw [h.limits, h.enrolledCount_eq]
  refine (Mirrors.ofExcept _).bind fun _ => ?_
  refine ((onSeats_mirrors (LawfulSeq.setCapacity_mirrors cap)).mapError _).bind fun _ => ?_
  refine (log_mirrors _ _ _).bind fun _ => ?_
  refine Mirrors.current_bind fun roster other h => ?_
  exact fun _ _ _ => ⟨rfl, { h with enrollmentCap := rfl }, rfl⟩

variable [ToString E]

theorem record_mirrors (entity : E) (action : AuditAction) (detail : Option String) :
    Mirrors Matches (record entity action detail : Call (Roster C S T) ε Unit)
      (record entity action detail : Call (Roster C U V) ε Unit) := by
  refine Mirrors.current_bind fun roster other h => ?_
  rw [h.audited, h.course]
  exact (Mirrors.notify _).ite (Mirrors.pure _)

theorem takeSeat_mirrors (entity : E) :
    Mirrors Matches (takeSeat entity : Call (Roster C S T) RosterError EnrollmentStatus)
      (takeSeat entity : Call (Roster C U V) RosterError EnrollmentStatus) := by
  refine ((onSeats_mirrors (LawfulSeq.push_mirrors _)).mapError _).bind fun _ => ?_
  refine Mirrors.current_bind fun roster other h => ?_
  rw [h.enrolledCount_eq, h.seats.get_eq]
  cases BoundedSeq.get other.seats (other.enrolledCount - 1) with
  | ok seated => exact (record_mirrors seated _ _).bind fun _ => (log_mirrors _ _ _).map _
  | error e => exact (log_mirrors _ _ _).map _

theorem takePlace_mirrors (entity : E) :
    Mirrors Matches (takePlace entity : Call (Roster C S T) RosterError EnrollmentStatus)
      (takePlace entity : Call (Roster C U V) RosterError EnrollmentStatus) := by
  refine ((onWaitlist_mirrors (Queue.enqueue_mirrors _)).mapError _).bind fun _ => ?_
  refine Mirrors.current_bind fun roster other h => ?_
  rw [h.waitlistCount_eq, LawfulSeq.Matches.get_eq h.waitlist]
  cases BoundedSeq.get other.waitlist.line (other.waitlistCount - 1) with
  | ok queued => exact (record_mirrors queued _ _).bind fun _ => (log_mirrors _ _ _).map _
  | error e => exact (log_mirrors _ _ _).map _

theorem enroll_mirrors (entity : Option E) :
    Mirrors Matches (enroll entity : Call (Roster C S T) RosterError EnrollmentStatus)
      (enroll entity : Call (Roster C U V) RosterError EnrollmentStatus) := by
  cases entity with
  | none => exact Mirrors.refuse _
  | some entity =>
    refine Mirrors.current_bind fun roster other h => ?_
    rw [h.isEnrolled_eq, h.isWaitlisted_eq, h.openSeats_eq, h.waitlist.isFull_eq]
    refine (Mirrors.refuse _).ite ((Mirrors.refuse _).ite ((takeSeat_mirrors entity).ite ?_))
    exact ((log_mirrors _ _ _).bind fun _ => Mirrors.refuse _).ite (takePlace_mirrors entity)

/-- Calls go on alike once the audit trail and the log have been told of a change. -/
theorem announce_mirrors (entity : E) (action : AuditAction) (detail : Option String)
    (message : String) {next : Call (Roster C S T × ω) ε β}
    {next' : Call (Roster C U V × ω) ε β} (h : Mirrors (BesideSame Matches) next next') :
    Mirrors (BesideSame Matches)
      (do
        Call.onFirst (record entity action detail)
        Call.onFirst (log .info message [])
        next)
      (do
        Call.onFirst (record entity action detail)
        Call.onFirst (log .info message [])
        next') :=
  (record_mirrors entity action detail).onFirst.bind fun _ =>
    (log_mirrors _ message _).onFirst.bind fun _ => h

theorem promoteHead_mirrors (attach : Attach ω E C) :
    Mirrors (BesideSame Matches)
      (promoteHead attach : Call (Roster C S T × ω) RosterError (Option (Promotion E)))
      (promoteHead attach : Call (Roster C U V × ω) RosterError (Option (Promotion E))) := by
  refine Mirrors.current_beside fun roster other world h => ?_
  simp only
  rw [h.waitlist.isEmpty_eq, h.openSeats_eq, h.course]
  refine (Mirrors.pure _).ite ?_
  refine ((onWaitlist_mirrors Queue.dequeue_mirrors).mapError _).onFirst.bind fun next => ?_
  refine ((onSeats_mirrors (LawfulSeq.push_mirrors _)).mapError _).onFirst.bind fun _ => ?_
  refine (Mirrors.onSecond _).bind fun told => ?_
  cases told with
  | ok => exact announce_mirrors next .promote none _ (Mirrors.pure _)
  | error e =>
    exact (log_mirrors _ _ _).onFirst.bind fun _ =>
      announce_mirrors next .promote _ _ (Mirrors.pure _)

theorem drop_mirrors (attach : Attach ω E C) (entity : Option E) :
    Mirrors (BesideSame Matches)
      (drop attach entity : Call (Roster C S T × ω) RosterError (DropOutcome E))
      (drop attach entity : Call (Roster C U V × ω) RosterError (DropOutcome E)) := by
  cases entity with
  | none => exact Mirrors.refuse _
  | some entity =>
    refine Mirrors.current_beside fun roster other world h => ?_
    simp only
    rw [h.seats.position_eq]
    cases BoundedSeq.position other.seats entity with
    | some index =>
      refine ((onSeats_mirrors (LawfulSeq.removeAt_mirrors index)).mapError _).onFirst.bind
        fun removed => ?_
      exact announce_mirrors removed .drop none _ ((promoteHead_mirrors attach).map _)
    | none =>
      refine (onWaitlist_mirrors (Queue.removeItem_mirrors entity)).onFirst.bind fun removed => ?_
      cases removed with
      | some removed => exact announce_mirrors removed .leaveWaitlist none _ (Mirrors.pure _)
      | none => exact (log_mirrors _ _ _).onFirst.bind fun _ => Mirrors.refuse _

end Roster

theorem RosterCall.perform_mirrors [ToString C] [ToString E] (attach : Attach ω E C)
    (call : RosterCall E) :
    Mirrors (BesideSame Roster.Matches)
      (perform attach call : Call (Roster C S T × ω) RosterError (RosterAnswer E))
      (perform attach call : Call (Roster C U V × ω) RosterError (RosterAnswer E)) := by
  cases call with
  | enroll entity => exact (Roster.enroll_mirrors entity).onFirst.map _
  | drop entity => exact (Roster.drop_mirrors attach entity).map _
  | setEnrollmentCap cap => exact (Roster.setEnrollmentCap_mirrors cap).onFirst.map _

inductive RosterRequest (E : Type)
  | change (call : RosterCall E)
  | canEnroll (entity : Option E)
  | snapshot

inductive RosterResponse (E : Type)
  | changed (answer : RosterAnswer E)
  | verdict (holds : Bool)
  | occupancy (snapshot : RosterSnapshot)
  deriving DecidableEq

structure RosterSight (E : Type) where
  enrolled : List E
  waitlisted : List E
  snapshot : RosterSnapshot

/-- What shows after a request: the answer, the roster, the entries that the audit trail was given
meanwhile, everybody told of a seat so far, and the world they live in. -/
structure RosterMoment (ω C E : Type) where
  result : Except RosterError (RosterResponse E)
  sight : RosterSight E
  audits : List AuditEntry
  told : List (E × C)
  world : ω

def Attach.noted (attach : Attach ω E C) : Attach (ω × List (E × C)) E C := fun entity course => do
  let (_, told) ← Call.current
  Call.onSecond (Call.become (told ++ [(entity, course)]))
  Call.onFirst (attach entity course)

variable [ToString C]

def Roster.sight (roster : Roster C S T) : RosterSight E :=
  ⟨roster.enrolled, roster.waitlisted, roster.snapshot⟩

namespace RosterRequest

variable [ToString E]

def perform (attach : Attach ω E C) :
    RosterRequest E → Call (Roster C S T × ω) RosterError (RosterResponse E)
  | change call => do
    let answer ← call.perform attach
    return .changed answer
  | canEnroll entity => do
    let (roster, _) ← Call.current
    return .verdict (roster.canEnroll entity)
  | snapshot => do
    let (roster, _) ← Call.current
    return .occupancy roster.snapshot

def observe (reply : Reply (Roster C S T × ω × List (E × C)) RosterError (RosterResponse E)) :
    RosterMoment ω C E where
  result := reply.result
  sight := reply.state.1.sight
  audits := Notice.audits reply.notices
  told := reply.state.2.2
  world := reply.state.2.1

/-- The story of a roster on the storages `S` and `T`: what it shows when it is made, and what shows
after each of some requests. -/
def story (S T : Type) [BoundedSeq S E] [BoundedSeq T E] (course : C) (cap : Nat)
    (limits : RosterLimits) (audited : Bool) (attach : Attach ω E C) (world : ω)
    (requests : List (RosterRequest E)) :
    Except RosterError (RosterSight E × List (RosterMoment ω C E)) := do
  let roster : Roster C S T ← Roster.make course cap limits audited
  let replies := Call.run (perform attach.noted) requests (roster, world, [])
  return (roster.sight, replies.map observe)

theorem perform_mirrors (attach : Attach ω E C) (request : RosterRequest E) :
    Mirrors (BesideSame Roster.Matches)
      (perform attach request : Call (Roster C S T × ω) RosterError (RosterResponse E))
      (perform attach request : Call (Roster C U V × ω) RosterError (RosterResponse E)) := by
  cases request with
  | change call => exact (call.perform_mirrors attach).map _
  | canEnroll entity =>
    refine Mirrors.current_beside fun roster other world h => ?_
    simp only [h.canEnroll_eq]
    exact Mirrors.pure _
  | snapshot =>
    refine Mirrors.current_beside fun roster other world h => ?_
    simp only [h.snapshot_eq]
    exact Mirrors.pure _

end RosterRequest

theorem Roster.Matches.sight_eq {roster : Roster C S T} {other : Roster C U V}
    (h : Matches roster other) : roster.sight = other.sight := by
  rw [sight, sight, h.enrolled_eq, h.waitlisted_eq, h.snapshot_eq]

namespace RosterRequest

theorem observe_eq
    {reply : Reply (Roster C S T × ω × List (E × C)) RosterError (RosterResponse E)}
    {other : Reply (Roster C U V × ω × List (E × C)) RosterError (RosterResponse E)}
    (h : Alike (BesideSame Roster.Matches) reply other) : observe reply = observe other := by
  obtain ⟨hresult, ⟨hroster, hworld⟩, hheard⟩ := h
  have haudits : Notice.audits reply.notices = Notice.audits other.notices := by
    rw [← Notice.audits_heard, hheard, Notice.audits_heard]
  rw [observe, observe, hresult, hroster.sight_eq, haudits, hworld]

/-- On any storages that work as the plain list does, there is one story. -/
theorem story_eq [ToString E] (course : C) (cap : Nat) (limits : RosterLimits) (audited : Bool)
    (attach : Attach ω E C) (world : ω) (requests : List (RosterRequest E)) :
    story S T course cap limits audited attach world requests =
      story U V course cap limits audited attach world requests := by
  obtain ⟨e, hmake, hmake'⟩ | ⟨roster, other, hmake, hmake', hmatches⟩ :=
    Roster.make_cases_both (S := S) (U := U) (T := T) (V := V) course cap limits audited
  · rw [story, story, hmake, hmake']
    rfl
  · have hrun := map_run_eq (perform_mirrors attach.noted) (fun _ _ => observe_eq) requests
      (show BesideSame Roster.Matches (roster, world, []) (other, world, []) from ⟨hmatches, rfl⟩)
    rw [story, story, hmake, hmake']
    simp only [Except.bind, bind, hmatches.sight_eq, hrun]

/-- Whichever storages are chosen for the seats and for the waitlist, every request is answered the
same, and the same shows after it. -/
theorem one_story [ToString E] (course : C) (cap : Nat) (limits : RosterLimits) (audited : Bool)
    (attach : Attach ω E C) (world : ω) (requests : List (RosterRequest E))
    (seats waiting seats' waiting' : Backend) :
    story (seats.Store E) (waiting.Store E) course cap limits audited attach world requests =
      story (seats'.Store E) (waiting'.Store E) course cap limits audited attach world requests :=
  story_eq course cap limits audited attach world requests

end RosterRequest

end Enrollment
