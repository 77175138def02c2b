import Enrollment.Proofs.Roster.Invariant

/-!
What a call does to a roster is settled before anybody is told of a seat.  How the telling goes
shows in the flag of the promotion, in what is noted of it and in the world that schedules live in.
-/
namespace Enrollment

namespace Call

variable {σ τ ε ε' β γ κ : Type} {part : σ → κ} {call : Call σ ε β}

def Keeps (part : σ → κ) (call : Call σ ε β) : Prop := ∀ s, part (call s).state = part s

namespace Keeps

theorem pure (b : β) : Keeps part (Pure.pure b : Call σ ε β) := fun _ => rfl

theorem refuse (e : ε) : Keeps part (Call.refuse e : Call σ ε β) := fun _ => rfl

theorem ofExcept (check : Except ε β) : Keeps part (Call.ofExcept check : Call σ ε β) := by
  cases check with
  | ok b => exact pure b
  | error e => exact refuse e

theorem bind {next : β → Call σ ε γ} (h : Keeps part call) (hnext : ∀ b, Keeps part (next b)) :
    Keeps part (call >>= next) := by
  intro s
  rw [bind_apply]
  cases (call s).result with
  | ok b => exact (hnext b _).trans (h s)
  | error e => exact h s

theorem current_bind {next : σ → Call σ ε β} (h : ∀ s, Keeps part (next s)) :
    Keeps part (current >>= next) := fun s => h s s

theorem mapError (h : Keeps part call) (f : ε → ε') : Keeps part (Call.mapError f call) := h

theorem ite {P : Prop} [Decidable P] {other : Call σ ε β} (h : Keeps part call)
    (hother : Keeps part other) : Keeps part (if P then call else other) := by
  by_cases hP : P
  · rwa [if_pos hP]
  · rwa [if_neg hP]

end Keeps

end Call

open Call

variable {C E S T ω : Type} [BoundedSeq S E] [BoundedSeq T E]

namespace Roster

variable {ε β : Type}

theorem onSeats_keeps (call : Call S ε β) : Keeps course (onSeats call : Call (Roster C S T) ε β) :=
  fun _ => rfl

theorem onWaitlist_keeps (call : Call (Queue T) ε β) :
    Keeps course (onWaitlist call : Call (Roster C S T) ε β) := fun _ => rfl

variable [ToString C]

theorem log_keeps (level : LogLevel) (message : String) (fields : List (String × LogValue)) :
    Keeps course (log level message fields : Call (Roster C S T) ε Unit) := fun _ => rfl

omit [BoundedSeq T E] in
theorem setEnrollmentCap_keeps (cap : Nat) :
    Keeps course (setEnrollmentCap cap : Call (Roster C S T) RosterError Unit) := by
  refine Keeps.current_bind fun roster => (Keeps.ofExcept _).bind fun _ => ?_
  refine ((onSeats_keeps _).mapError _).bind fun _ => (log_keeps _ _ _).bind fun _ => ?_
  exact fun _ => rfl

theorem log_apply (level : LogLevel) (message : String) (fields : List (String × LogValue))
    (roster : Roster C S T) :
    (log level message fields : Call (Roster C S T) ε Unit) roster =
      ⟨.ok (), roster, roster.view.line level message fields⟩ := rfl

omit [ToString C] in
theorem course_eq_of_eq {call : Call (Roster C S T) ε β} (h : Keeps course call)
    {roster left : Roster C S T} {result : Except ε β} {notices : List Notice}
    (hcall : call roster = ⟨result, left, notices⟩) : left.course = roster.course := by
  have hcourse := h roster
  rwa [hcall] at hcourse

variable [ToString E]

theorem record_apply (entity : E) (action : AuditAction) (detail : Option String)
    (roster : Roster C S T) :
    (record entity action detail : Call (Roster C S T) ε Unit) roster =
      ⟨.ok (), roster, roster.view.entry entity action detail⟩ := by
  cases haudited : roster.audited <;> simp [record, RosterView.entry, view, haudited]

theorem record_keeps (entity : E) (action : AuditAction) (detail : Option String) :
    Keeps course (record entity action detail : Call (Roster C S T) ε Unit) := by
  intro roster
  rw [record_apply]

/-- A change is announced, and then a call goes on. -/
theorem announce_apply (entity : E) (action : AuditAction) (detail : Option String)
    (message : String) (next : Call (Roster C S T × ω) ε β) (roster : Roster C S T) (world : ω) :
    (do
      Call.onFirst (record entity action detail)
      Call.onFirst (log .info message [])
      next) (roster, world) =
      (next (roster, world)).after
        (roster.view.entry entity action detail ++ roster.view.line .info message []) := by
  rw [Call.bind_of_ok (Call.onFirst_of_eq (record_apply entity action detail roster) world),
    Call.bind_of_ok (Call.onFirst_of_eq (log_apply .info message [] roster) world), Reply.after,
    Reply.after, Reply.after, List.append_assoc]

theorem takeSeat_keeps (entity : E) :
    Keeps course (takeSeat entity : Call (Roster C S T) RosterError EnrollmentStatus) := by
  refine ((onSeats_keeps _).mapError _).bind fun _ => Keeps.current_bind fun roster => ?_
  cases BoundedSeq.get roster.seats (roster.enrolledCount - 1) with
  | ok seated =>
    exact (record_keeps seated _ _).bind fun _ => (log_keeps _ _ _).bind fun _ => Keeps.pure _
  | error e => exact (log_keeps _ _ _).bind fun _ => Keeps.pure _

theorem takePlace_keeps (entity : E) :
    Keeps course (takePlace entity : Call (Roster C S T) RosterError EnrollmentStatus) := by
  refine ((onWaitlist_keeps _).mapError _).bind fun _ => Keeps.current_bind fun roster => ?_
  cases BoundedSeq.get roster.waitlist.line (roster.waitlistCount - 1) with
  | ok queued =>
    exact (record_keeps queued _ _).bind fun _ => (log_keeps _ _ _).bind fun _ => Keeps.pure _
  | error e => exact (log_keeps _ _ _).bind fun _ => Keeps.pure _

variable {κ κ' : Type}

abbrev Teller (C E S T β : Type) : Type 1 :=
  ∀ ω : Type, Attach ω E C → Call (Roster C S T × ω) RosterError β

/-- Made on a roster, a call has settled everything before anybody is told.  It tells nobody, and
then replies one and the same; or it tells one entity, once, and reports that one promoted: how the
telling went shows in the flag that it reports and in what is noted of the promotion. -/
inductive Decided (report : κ → Promotion E → β) (call : Teller C E S T β)
    (roster : Roster C S T) : Prop
  | quiet (left : Roster C S T) (result : Except RosterError β) (notices : List Notice)
    (course : left.course = roster.course)
    (result_ne : ∀ k promotion, result ≠ .ok (report k promotion))
    (reply : ∀ (ω : Type) (attach : Attach ω E C) (world : ω),
      call ω attach (roster, world) = ⟨result, (left, world), notices⟩)
  | telling (left : Roster C S T) (next : E) (k : κ) (notices : List Notice)
    (course : left.course = roster.course)
    (reply : ∀ (ω : Type) (attach : Attach ω E C) (world : ω),
      call ω attach (roster, world) =
        ⟨.ok (report k ⟨next, (attach next roster.course world).result.isOk⟩),
          (left, (attach next roster.course world).state),
          notices ++ ((attach next roster.course world).notices ++
            left.view.promotion next (attach next roster.course world).result)⟩)

namespace Decided

variable {report : κ → Promotion E → β} {call : Teller C E S T β} {roster : Roster C S T}

/-- What is decided of a call is decided of one that comes to the same on this roster. -/
theorem congr (known : Teller C E S T β) (h : Decided report known roster)
    (hcall : ∀ ω attach world, call ω attach (roster, world) = known ω attach (roster, world)) :
    Decided report call roster := by
  obtain ⟨left, result, notices, hcourse, hne, hreply⟩ |
    ⟨left, next, k, notices, hcourse, hreply⟩ := h
  · exact quiet left result notices hcourse hne fun ω attach world =>
      (hcall ω attach world).trans (hreply ω attach world)
  · exact telling left next k notices hcourse fun ω attach world =>
      (hcall ω attach world).trans (hreply ω attach world)

/-- What is read of the roster is known; of the world, nothing is read. -/
theorem current_bind
    {next : ∀ ω : Type, Attach ω E C → Roster C S T × ω → Call (Roster C S T × ω) RosterError β}
    (hnext : ∀ ω attach world, next ω attach (roster, world) = call ω attach)
    (h : Decided report call roster) :
    Decided report (fun ω attach => Call.current >>= next ω attach) roster :=
  h.congr _ fun ω attach world => congrFun (hnext ω attach world) (roster, world)

theorem ite {P : Prop} [Decidable P] {other : Teller C E S T β} (h : Decided report call roster)
    (hother : Decided report other roster) :
    Decided report (fun ω attach => if P then call ω attach else other ω attach) roster := by
  by_cases hP : P
  · simpa only [if_pos hP] using h
  · simpa only [if_neg hP] using hother

theorem refuse (e : RosterError) : Decided report (fun _ _ => Call.refuse e) roster :=
  quiet roster (.error e) [] rfl nofun fun _ _ _ => rfl

theorem pure {b : β} (h : ∀ k promotion, b ≠ report k promotion) :
    Decided report (fun _ _ => Pure.pure b) roster :=
  quiet roster (.ok b) [] rfl (fun k promotion heq => h k promotion (Except.ok.inj heq))
    fun _ _ _ => rfl

/-- A call on the roster alone, and then one on the roster that it leaves. -/
theorem first_bind {first : Call (Roster C S T) RosterError γ} {next : γ → Teller C E S T β}
    (hfirst : Keeps course first)
    (hnext : ∀ c left, left.course = roster.course → Decided report (next c) left) :
    Decided report (fun ω attach => Call.onFirst first >>= fun c => next c ω attach) roster := by
  rcases hcall : first roster with ⟨result, left, notices⟩
  have hcourse := course_eq_of_eq hfirst hcall
  cases result with
  | error e =>
    refine quiet left (.error e) notices hcourse nofun fun ω attach world => ?_
    exact Call.bind_of_error (Call.onFirst_of_eq hcall world) _
  | ok c =>
    obtain ⟨last, result, more, hkept, hne, hreply⟩ | ⟨last, told, k, more, hkept, hreply⟩ :=
      hnext c left hcourse
    · refine quiet last result (notices ++ more) (hkept.trans hcourse) hne fun ω attach world => ?_
      rw [Call.bind_of_ok (Call.onFirst_of_eq hcall world), hreply, Reply.after_mk]
    · refine telling last told k (notices ++ more) (hkept.trans hcourse) fun ω attach world => ?_
      rw [Call.bind_of_ok (Call.onFirst_of_eq hcall world), hreply, Reply.after_mk, hcourse,
        List.append_assoc]

/-- An answer said in other terms, which report the same promotions. -/
theorem map {report' : κ' → Promotion E → γ} {f : β → γ} {g : κ → κ'}
    (h : Decided report call roster)
    (hreport : ∀ k promotion, f (report k promotion) = report' (g k) promotion)
    (hother : ∀ b k promotion, f b = report' k promotion → ∃ k, b = report k promotion) :
    Decided report' (fun ω attach => do return f (← call ω attach)) roster := by
  obtain ⟨left, result, notices, hcourse, hne, hreply⟩ |
    ⟨left, next, k, notices, hcourse, hreply⟩ := h
  · refine quiet left (result.map f) notices hcourse ?_ fun ω attach world => ?_
    · intro k promotion heq
      cases result with
      | error e => cases heq
      | ok b =>
        obtain ⟨k, rfl⟩ := hother b k promotion (Except.ok.inj heq)
        exact hne k promotion rfl
    · rw [Call.bind_pure_apply, hreply]
  · refine telling left next (g k) notices hcourse fun ω attach world => ?_
    rw [Call.bind_pure_apply, hreply, Except.map, hreport]

end Decided

/-- Nobody is promoted, and nobody told; or the head of the waitlist has moved into a seat, and is
told of it then. -/
theorem promoteHead_decided (roster : Roster C S T) :
    Decided (fun _ : Unit => some) (fun _ attach => promoteHead attach) roster := by
  unfold promoteHead
  refine Decided.current_bind (fun _ _ _ => rfl) ?_
  refine Decided.ite (Decided.pure nofun) ?_
  refine Decided.first_bind ((onWaitlist_keeps _).mapError _) fun next dequeued hcourse => ?_
  refine Decided.first_bind ((onSeats_keeps _).mapError _) fun _ seated hcourse' => ?_
  rw [← hcourse, ← hcourse']
  refine Decided.telling seated next () [] rfl fun ω attach world => ?_
  rcases hattach : attach next seated.course world with ⟨told, after, heard⟩
  have htold : (Call.onSecond (Call.outcome (attach next seated.course)) :
      Call (Roster C S T × ω) RosterError (Except ScheduleError Unit)) (seated, world) =
        ⟨.ok told, (seated, after), heard⟩ :=
    Call.onSecond_of_eq (Call.outcome_of_eq hattach) seated
  rw [Call.bind_of_ok htold]
  cases told with
  | ok =>
    simp only [announce_apply, Call.pure_apply, Reply.after_mk, RosterView.promotion,
      List.append_nil, List.nil_append]
  | error error =>
    have hlog := log_apply (ε := RosterError) .warn
      s!"promoted entity's schedule rejected the course: {error.message}"
      [("entity", .text (toString next))] seated
    simp only [Call.bind_of_ok (Call.onFirst_of_eq hlog after), announce_apply, Call.pure_apply,
      Reply.after_mk, RosterView.promotion, List.append_nil, List.nil_append]

variable [BEq E]

theorem enroll_keeps (entity : Option E) :
    Keeps course (enroll entity : Call (Roster C S T) RosterError EnrollmentStatus) := by
  cases entity with
  | none => exact Keeps.refuse _
  | some entity =>
    refine Keeps.current_bind fun roster => (Keeps.refuse _).ite ((Keeps.refuse _).ite ?_)
    refine (takeSeat_keeps entity).ite (Keeps.ite ?_ (takePlace_keeps entity))
    exact (log_keeps _ _ _).bind fun _ => Keeps.refuse _

/-- Nobody is told of a seat when nobody is promoted, and who is promoted is told. -/
theorem drop_decided (roster : Roster C S T) (entity : Option E) :
    Decided (fun removed promotion => .withdrawn removed (some promotion))
      (fun _ attach => drop attach entity) roster := by
  cases entity with
  | none => exact Decided.refuse _
  | some entity =>
    unfold drop
    refine Decided.current_bind (fun _ _ _ => rfl) ?_
    cases BoundedSeq.position roster.seats entity with
    | some index =>
      refine Decided.first_bind ((onSeats_keeps _).mapError _) fun removed _ _ => ?_
      refine Decided.first_bind (record_keeps _ _ _) fun _ _ _ => ?_
      refine Decided.first_bind (log_keeps _ _ _) fun _ left _ => ?_
      refine (promoteHead_decided left).map (g := fun _ => removed) (fun _ _ => rfl) ?_
      intro promoted _ promotion heq
      cases heq
      exact ⟨(), rfl⟩
    | none =>
      refine Decided.first_bind (onWaitlist_keeps _) fun found _ _ => ?_
      cases found with
      | some removed =>
        refine Decided.first_bind (record_keeps _ _ _) fun _ _ _ => ?_
        refine Decided.first_bind (log_keeps _ _ _) fun _ _ _ => ?_
        exact Decided.pure nofun
      | none => exact Decided.first_bind (log_keeps _ _ _) fun _ _ _ => Decided.refuse _

end Roster

variable [ToString C] [ToString E] [BEq E]

open Roster

namespace RosterCall

theorem perform_decided (call : RosterCall E) (roster : Roster C S T) :
    Decided (fun removed promotion => .dropped (.withdrawn removed (some promotion)))
      (fun _ attach => perform attach call) roster := by
  cases call with
  | enroll entity =>
    exact Decided.first_bind (enroll_keeps entity) fun _ _ _ => Decided.pure nofun
  | drop entity =>
    refine (drop_decided roster entity).map (g := id) (fun _ _ => rfl) ?_
    intro outcome removed promotion heq
    cases heq
    exact ⟨removed, rfl⟩
  | setEnrollmentCap cap =>
    exact Decided.first_bind (setEnrollmentCap_keeps cap) fun _ _ _ => Decided.pure nofun

end RosterCall

end Enrollment
