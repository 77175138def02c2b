import Enrollment.Proofs.Roster.View

/-!
What each call on a sound roster does, case by case: its answer, what the roster shows after it
and what is heard on the way.  A refusal leaves the roster itself as it was.
-/
namespace Enrollment

variable {C E S T ω ε : Type} [ToString C]

namespace RosterView

def line (view : RosterView C E) (level : LogLevel) (message : String)
    (fields : List (String × LogValue)) : List Notice :=
  [.log ⟨level, message, ("course", .text (toString view.course)) :: fields⟩]

theorem audits_line (view : RosterView C E) (level : LogLevel) (message : String)
    (fields : List (String × LogValue)) : Notice.audits (view.line level message fields) = [] := rfl

theorem audits_append_line (view : RosterView C E) (heard : List Notice) (level : LogLevel)
    (message : String) (fields : List (String × LogValue)) :
    Notice.audits (heard ++ view.line level message fields) = Notice.audits heard := by
  rw [Notice.audits_append, audits_line, List.append_nil]

def entry [ToString E] (view : RosterView C E) (entity : E) (action : AuditAction)
    (detail : Option String) : List Notice :=
  if view.audited then [.audit ⟨toString entity, toString view.course, action, detail⟩] else []

def promotion [ToString E] (view : RosterView C E) (next : E) :
    Except ScheduleError Unit → List Notice
  | .ok () => view.entry next .promote none ++ view.line .info "promoted from waitlist" []
  | .error error =>
    view.line .warn s!"promoted entity's schedule rejected the course: {error.message}"
      [("entity", .text (toString next))] ++
      (view.entry next .promote (some "schedule rejected course") ++
        view.line .info "promoted from waitlist" [])

theorem audits_promotion [ToString E] (view : RosterView C E) (next : E)
    (verdict : Except ScheduleError Unit) :
    Notice.audits (view.promotion next verdict) = Notice.audits (view.entry next .promote
      (if verdict.isOk then none else some "schedule rejected course")) := by
  cases verdict with
  | ok =>
    rw [promotion, audits_append_line]
    rfl
  | error e =>
    rw [promotion, Notice.audits_append, audits_line, List.nil_append, audits_append_line]
    rfl

/-- Of a seat that changes hands, the trail is told who leaves it and who gets it. -/
theorem audits_replacing [ToString E] (view : RosterView C E) (removed next : E)
    {told : List Notice} (htold : Notice.audits told = []) (verdict : Except ScheduleError Unit) :
    Notice.audits (view.entry removed .drop none ++ (view.line .info "seat released" [] ++
      (told ++ view.promotion next verdict))) =
      Notice.audits (view.entry removed .drop none ++ view.entry next .promote
        (if verdict.isOk then none else some "schedule rejected course")) := by
  simp only [Notice.audits_append, htold, audits_line, audits_promotion, List.nil_append]

end RosterView

namespace Roster

variable [BoundedSeq S E] [BoundedSeq T E] {view : RosterView C E} {roster : Roster C S T}

theorem log_answers (roster : Roster C S T) {P : Roster C S T → Prop} (h : P roster)
    {level : LogLevel} (hlevel : level ≠ .trace) (message : String)
    (fields : List (String × LogValue)) :
    (log level message fields : Call (Roster C S T) ε Unit).Answers roster () P
      (roster.view.line level message fields) := by
  refine Call.Answers.of_eq rfl h ?_
  simp [RosterView.line, Notice.heard, Notice.isTrace, hlevel]
  rfl

variable [BEq E] [LawfulSeq S E] [LawfulSeq T E]

namespace Stands

theorem log_answers (h : Stands view roster) {level : LogLevel} (hlevel : level ≠ .trace)
    (message : String) (fields : List (String × LogValue)) :
    (log level message fields : Call (Roster C S T) ε Unit).Answers roster () (Stands view)
      (view.line level message fields) := by
  obtain rfl := h.view_eq
  exact Roster.log_answers roster h hlevel message fields

theorem record_answers [ToString E] (h : Stands view roster) (entity : E) (action : AuditAction)
    (detail : Option String) :
    (record entity action detail : Call (Roster C S T) ε Unit).Answers roster () (Stands view)
      (view.entry entity action detail) := by
  obtain rfl := h.view_eq
  have hcall : (record entity action detail : Call (Roster C S T) ε Unit) roster =
      ⟨.ok (), roster, roster.view.entry entity action detail⟩ := by
    cases haudited : roster.audited <;> simp [record, RosterView.entry, Roster.view, haudited]
  apply Call.Answers.of_eq hcall h
  cases haudited : roster.audited <;>
    simp [RosterView.entry, Roster.view, haudited, Notice.heard, Notice.isTrace]

/-- The cap changes to one within its bounds that leaves everybody seated the seat. -/
theorem setEnrollmentCap_cases (h : Stands view roster) (cap : Nat) :
    ((cap < view.limits.minCap ∨ cap > view.limits.maxCap ∨ cap < view.enrolled.length) ∧
      setEnrollmentCap cap roster =
        ⟨.error (.invalidCapacity cap view.limits.minCap view.limits.maxCap
          view.enrolled.length), roster, []⟩) ∨
    (view.limits.minCap ≤ cap ∧ cap ≤ view.limits.maxCap ∧ view.enrolled.length ≤ cap ∧
      (setEnrollmentCap cap).Answers roster () (Stands { view with enrollmentCap := cap })
        (view.line .info "enrollment cap changed" [("cap", .count cap)])) := by
  have hlimits : roster.limits = view.limits := congrArg RosterView.limits h.view_eq
  by_cases hcap : cap < view.limits.minCap ∨ cap > view.limits.maxCap ∨ cap < view.enrolled.length
  · refine .inl ⟨hcap, ?_⟩
    have hcheck : view.limits.checkCap cap view.enrolled.length =
        .error (.invalidCapacity cap view.limits.minCap view.limits.maxCap
          view.enrolled.length) := if_pos hcap
    simp only [setEnrollmentCap, Call.current_bind, hlimits, h.enrolledCount_eq, hcheck,
      Call.ofExcept_error, Call.refuse_bind]
  · refine .inr ⟨by omega, by omega, by omega, ?_⟩
    have hcheck : view.limits.checkCap cap view.enrolled.length = .ok () := if_neg hcap
    have hseats := LawfulSeq.setCapacity_answers h.seats (show view.enrolled.length ≤ cap by omega)
    -- Between its two stores the cap is in one of them only, so the roster stands for no view.
    have hresize : ((onSeats (BoundedSeq.setCapacity cap)).mapError RosterError.internal).Answers
        roster () (fun resized : Roster C S T => ∃ seats, resized = { roster with seats } ∧
          LawfulSeq.Holds view.enrolled cap seats) [] :=
      (hseats.within fun seats hholds => ⟨seats, rfl, hholds⟩).mapError _
    apply Call.Answers.current_bind
    apply Call.Answers.ofExcept_bind (by rw [hlimits, h.enrolledCount_eq, hcheck])
    apply Call.Answers.quiet_bind hresize
    intro both hboth
    obtain ⟨seats, rfl, hholds⟩ := hboth
    have hlog : (log .info "enrollment cap changed" [("cap", .count cap)] :
        Call (Roster C S T) RosterError Unit).Answers { roster with seats } ()
        (fun logged => logged = { roster with seats })
        (view.line .info "enrollment cap changed" [("cap", .count cap)]) := by
      rw [← h.view_eq]
      exact Roster.log_answers { roster with seats }
        (P := fun logged => logged = { roster with seats }) rfl
        (show LogLevel.info ≠ .trace by decide) _ _
    apply hlog.bind_quiet
    intro logged hlogged
    subst hlogged
    exact Call.Answers.of_eq rfl (h.with_cap hholds) rfl

variable [ToString E]

/-- A call goes on once the audit trail and the log have been told of a change. -/
theorem announce_bind {β : Type} (h : Stands view roster) (world : ω) (entity : E)
    (action : AuditAction) (detail : Option String) (message : String)
    {next : Call (Roster C S T × ω) ε β} {b : β} {Q : Roster C S T × ω → Prop} {more : List Notice}
    (hnext : ∀ told : Roster C S T, Stands view told → next.Answers (told, world) b Q more) :
    (do
      Call.onFirst (record entity action detail)
      Call.onFirst (log .info message [])
      next).Answers (roster, world) b Q
      (view.entry entity action detail ++ (view.line .info message [] ++ more)) := by
  apply ((h.record_answers entity action detail).onFirst world).bind
  intro both hboth
  obtain ⟨recorded, hrecorded, rfl⟩ := hboth
  have hlog : (log .info message [] : Call (Roster C S T) ε Unit).Answers recorded () (Stands view)
      (view.line .info message []) := hrecorded.log_answers (by decide) message []
  apply (hlog.onFirst world).bind
  intro both hboth
  obtain ⟨told, htold, rfl⟩ := hboth
  exact hnext told htold

theorem announce_answers {β : Type} (h : Stands view roster) (world : ω) (entity : E)
    (action : AuditAction) (detail : Option String) (message : String) (b : β) :
    (do
      Call.onFirst (record entity action detail)
      Call.onFirst (log .info message [])
      return b : Call (Roster C S T × ω) ε β).Answers (roster, world) b
      (fun both => ∃ told, Stands view told ∧ both = (told, world))
      (view.entry entity action detail ++ view.line .info message []) := by
  have hannounce : (do
      Call.onFirst (record entity action detail)
      Call.onFirst (log .info message [])
      return b : Call (Roster C S T × ω) ε β).Answers (roster, world) b
      (fun both => ∃ told, Stands view told ∧ both = (told, world)) _ :=
    h.announce_bind world entity action detail message fun told htold =>
      Call.Answers.pure ⟨told, htold, rfl⟩
  rwa [List.append_nil] at hannounce

theorem takeSeat_answers (h : Stands view roster) {entity : E}
    (hany : view.enrolled.any (· == entity) = false)
    (hopen : view.enrolled.length < view.enrollmentCap) :
    (takeSeat entity).Answers roster .enrolled
      (Stands (view.filled (view.enrolled ++ [entity]) view.waitlisted))
      (view.entry entity .enroll none ++
        view.line .info "seat taken" [("enrolled", .count (view.enrolled.length + 1))]) := by
  apply Call.Answers.quiet_bind (h.pushSeat_answers hany hopen)
  intro seated hseated
  apply Call.Answers.current_bind
  have hcount : seated.enrolledCount = view.enrolled.length + 1 := by
    rw [hseated.enrolledCount_eq, RosterView.filled, List.length_append]
    rfl
  have hget : BoundedSeq.get seated.seats view.enrolled.length = .ok entity :=
    LawfulSeq.get_ok hseated.seats (by simp [RosterView.filled])
  simp only [hcount, Nat.add_sub_cancel, hget]
  apply (hseated.record_answers entity .enroll none).bind
  intro recorded hrecorded
  exact (hrecorded.log_answers (by decide) _ _).bind_quiet fun _ ht => Call.Answers.pure ht

theorem takePlace_answers (h : Stands view roster) {entity : E}
    (hany : view.waitlisted.any (· == entity) = false)
    (hroom : view.waitlisted.length < view.limits.waitlistCapacity) :
    (takePlace entity).Answers roster .waitlisted
      (Stands (view.filled view.enrolled (view.waitlisted ++ [entity])))
      (view.entry entity .waitlist none ++
        view.line .info "waitlisted" [("position", .count (view.waitlisted.length + 1))]) := by
  apply Call.Answers.quiet_bind (h.enqueue_answers hany hroom)
  intro queued hqueued
  apply Call.Answers.current_bind
  have hcount : queued.waitlistCount = view.waitlisted.length + 1 := by
    rw [hqueued.waitlistCount_eq, RosterView.filled, List.length_append]
    rfl
  have hget : BoundedSeq.get queued.waitlist.line view.waitlisted.length = .ok entity :=
    LawfulSeq.get_ok hqueued.line (by simp [RosterView.filled])
  simp only [hcount, Nat.add_sub_cancel, hget]
  apply (hqueued.record_answers entity .waitlist none).bind
  intro recorded hrecorded
  exact (hrecorded.log_answers (by decide) _ _).bind_quiet fun _ ht => Call.Answers.pure ht

/-- An entity is refused that is on the roster, gets a seat that is free, waits where there is
room, and is refused otherwise. -/
theorem enroll_cases (h : Stands view roster) (entity : E) :
    (view.enrolled.any (· == entity) = true ∧
      enroll (some entity) roster = ⟨.error .alreadyEnrolled, roster, []⟩) ∨
    (view.enrolled.any (· == entity) = false ∧ view.waitlisted.any (· == entity) = true ∧
      enroll (some entity) roster = ⟨.error .alreadyWaitlisted, roster, []⟩) ∨
    ((view.enrolled ++ view.waitlisted).any (· == entity) = false ∧
      view.enrolled.length < view.enrollmentCap ∧
      (enroll (some entity)).Answers roster .enrolled
        (Stands (view.filled (view.enrolled ++ [entity]) view.waitlisted))
        (view.entry entity .enroll none ++
          view.line .info "seat taken" [("enrolled", .count (view.enrolled.length + 1))])) ∨
    ((view.enrolled ++ view.waitlisted).any (· == entity) = false ∧
      view.enrollmentCap ≤ view.enrolled.length ∧
      view.limits.waitlistCapacity ≤ view.waitlisted.length ∧
      enroll (some entity) roster =
        ⟨.error .noRoom, roster, view.line .debug "roster and waitlist full" []⟩) ∨
    ((view.enrolled ++ view.waitlisted).any (· == entity) = false ∧
      view.enrollmentCap ≤ view.enrolled.length ∧
      view.waitlisted.length < view.limits.waitlistCapacity ∧
      (enroll (some entity)).Answers roster .waitlisted
        (Stands (view.filled view.enrolled (view.waitlisted ++ [entity])))
        (view.entry entity .waitlist none ++
          view.line .info "waitlisted" [("position", .count (view.waitlisted.length + 1))])) := by
  have hseated := h.isEnrolled_eq entity
  have hwaiting := h.isWaitlisted_eq entity
  have hopen := h.openSeats_eq
  have hfull := h.isFull_iff
  cases henrolled : view.enrolled.any (· == entity) with
  | true =>
    rw [henrolled] at hseated
    exact .inl ⟨rfl, by simp [enroll, hseated]⟩
  | false =>
    rw [henrolled] at hseated
    cases hwaitlisted : view.waitlisted.any (· == entity) with
    | true =>
      rw [hwaitlisted] at hwaiting
      exact .inr (.inl ⟨rfl, rfl, by simp [enroll, hseated, hwaiting]⟩)
    | false =>
      rw [hwaitlisted] at hwaiting
      have hany : (view.enrolled ++ view.waitlisted).any (· == entity) = false := by
        rw [List.any_append, henrolled, hwaitlisted]
        rfl
      by_cases hseat : view.enrolled.length < view.enrollmentCap
      · refine .inr (.inr (.inl ⟨hany, hseat, (h.takeSeat_answers henrolled hseat).congr ?_⟩))
        have hpos : roster.openSeats > 0 := by omega
        simp [enroll, hseated, hwaiting, hpos]
      · have hnone : ¬ roster.openSeats > 0 := by omega
        by_cases hroom : view.limits.waitlistCapacity ≤ view.waitlisted.length
        · refine .inr (.inr (.inr (.inl ⟨hany, by omega, hroom, ?_⟩)))
          rw [← hfull] at hroom
          obtain rfl := h.view_eq
          simp [enroll, hseated, hwaiting, hnone, hroom]
          rfl
        · refine .inr (.inr (.inr (.inr ⟨hany, by omega, by omega, ?_⟩)))
          apply (h.takePlace_answers hwaitlisted (by omega)).congr
          rw [← hfull] at hroom
          simp [enroll, hseated, hwaiting, hnone, hroom]

theorem promoteHead_none (h : Stands view roster) (attach : Attach ω E C) (world : ω)
    (hnone : view.waitlisted = [] ∨ view.enrollmentCap ≤ view.enrolled.length) :
    promoteHead attach (roster, world) = ⟨.ok none, (roster, world), []⟩ := by
  have hempty := h.isEmpty_eq
  have hopen := h.openSeats_eq
  cases hnone with
  | inl hnil =>
    rw [hnil] at hempty
    simp [promoteHead, hempty]
  | inr hle =>
    have hzero : roster.openSeats = 0 := by omega
    simp [promoteHead, hzero]

/-- The head of the waitlist moves into a seat that is free and is told; the promotion stands
whatever the answer. -/
theorem promoteHead_some (h : Stands view roster) (attach : Attach ω E C) (world : ω) {next : E}
    {rest : List E} (hnext : view.waitlisted = next :: rest)
    (hany : view.enrolled.any (· == next) = false)
    (hopen : view.enrolled.length < view.enrollmentCap) :
    (promoteHead attach).Answers (roster, world)
      (some ⟨next, (attach next view.course world).result.isOk⟩)
      (fun both => ∃ promoted, Stands (view.filled (view.enrolled ++ [next]) rest) promoted ∧
        both = (promoted, (attach next view.course world).state))
      (Notice.heard (attach next view.course world).notices ++
        view.promotion next (attach next view.course world).result) := by
  have hempty : roster.waitlist.isEmpty = false := by
    rw [h.isEmpty_eq, hnext]
    rfl
  have hseats : roster.openSeats ≠ 0 := by
    rw [h.openSeats_eq]
    omega
  have hpush : ∀ dequeued : Roster C S T, Stands (view.filled view.enrolled rest) dequeued →
      ((onSeats (BoundedSeq.push (some next))).mapError RosterError.internal).Answers dequeued ()
        (Stands (view.filled (view.enrolled ++ [next]) rest)) [] :=
    fun _ hdequeued => hdequeued.pushSeat_answers hany hopen
  apply Call.Answers.current_bind
  simp only [hempty, hseats, beq_iff_eq, Bool.false_or, if_false]
  apply Call.Answers.quiet_bind ((h.dequeue_answers hnext).onFirst world)
  intro both hboth
  obtain ⟨dequeued, hdequeued, rfl⟩ := hboth
  apply Call.Answers.quiet_bind ((hpush dequeued hdequeued).onFirst world)
  intro both hboth
  obtain ⟨seated, hseated, rfl⟩ := hboth
  have hcourse : roster.course = view.course := congrArg RosterView.course h.view_eq
  rw [hcourse]
  apply (Call.Answers.onSecond_outcome (attach next view.course) seated world).bind
  intro both hboth
  subst hboth
  cases (attach next view.course world).result with
  | ok => exact hseated.announce_answers _ next .promote none "promoted from waitlist" _
  | error error =>
    apply ((hseated.log_answers (show LogLevel.warn ≠ .trace by decide) _ _).onFirst _).bind
    intro both hboth
    obtain ⟨warned, hwarned, rfl⟩ := hboth
    exact hwarned.announce_answers _ next .promote (some "schedule rejected course")
      "promoted from waitlist" _

/-- Who is found in a seat gives it up, whatever follows. -/
theorem withdraw_answers (h : Stands view roster) (attach : Attach ω E C) (world : ω)
    {entity removed : E} {index : Nat} {promoted : Option (Promotion E)}
    {Q : Roster C S T × ω → Prop} {more : List Notice}
    (hfound : view.enrolled.findIdx? (· == entity) = some index)
    (hremoved : view.enrolled[index]? = some removed)
    (hpromote : ∀ left : Roster C S T,
      Stands (view.filled (view.enrolled.eraseIdx index) view.waitlisted) left →
      (promoteHead attach).Answers (left, world) promoted Q more) :
    (drop attach (some entity)).Answers (roster, world) (.withdrawn removed promoted) Q
      (view.entry removed .drop none ++ (view.line .info "seat released" [] ++ more)) := by
  have hposition : BoundedSeq.position roster.seats entity = some index := by
    rw [BoundedSeq.position, h.seats.items, hfound]
  apply Call.Answers.current_bind
  simp only [hposition]
  apply Call.Answers.quiet_bind ((h.removeSeat_answers hremoved).onFirst world)
  intro both hboth
  obtain ⟨left, hleft, rfl⟩ := hboth
  apply hleft.announce_bind world removed .drop none "seat released"
  intro released hreleased
  exact (hpromote released hreleased).map fun promoted => DropOutcome.withdrawn removed promoted

theorem withdraw_alone (h : Stands view roster) (attach : Attach ω E C) (world : ω)
    {entity removed : E} {index : Nat} (hfound : view.enrolled.findIdx? (· == entity) = some index)
    (hremoved : view.enrolled[index]? = some removed) (hline : view.waitlisted = []) :
    (drop attach (some entity)).Answers (roster, world) (.withdrawn removed none)
      (fun both => ∃ dropped, Stands (view.filled (view.enrolled.eraseIdx index) []) dropped ∧
        both = (dropped, world))
      (view.entry removed .drop none ++ view.line .info "seat released" []) := by
  have hnone : ∀ left : Roster C S T,
      Stands (view.filled (view.enrolled.eraseIdx index) view.waitlisted) left →
      (promoteHead attach).Answers (left, world) none (fun both => ∃ dropped,
        Stands (view.filled (view.enrolled.eraseIdx index) []) dropped ∧
        both = (dropped, world)) [] := by
    intro left hleft
    have hcall := hleft.promoteHead_none attach world (.inl hline)
    rw [hline] at hleft
    exact Call.Answers.of_eq hcall ⟨left, hleft, rfl⟩ rfl
  have hdrop := h.withdraw_answers attach world hfound hremoved hnone
  rwa [List.append_nil] at hdrop

theorem withdraw_promoting (h : Stands view roster) (hfits : view.Fits) (attach : Attach ω E C)
    (world : ω) {entity removed next : E} {rest : List E} {index : Nat}
    (hfound : view.enrolled.findIdx? (· == entity) = some index)
    (hremoved : view.enrolled[index]? = some removed) (hline : view.waitlisted = next :: rest) :
    (drop attach (some entity)).Answers (roster, world)
      (.withdrawn removed (some ⟨next, (attach next view.course world).result.isOk⟩))
      (fun both => ∃ dropped,
        Stands (view.filled (view.enrolled.eraseIdx index ++ [next]) rest) dropped ∧
        both = (dropped, (attach next view.course world).state))
      (view.entry removed .drop none ++ (view.line .info "seat released" [] ++
        (Notice.heard (attach next view.course world).notices ++
          view.promotion next (attach next view.course world).result))) := by
  apply h.withdraw_answers attach world hfound hremoved
  intro left hleft
  have hleftFits := hfits.sublist (List.eraseIdx_sublist view.enrolled index)
    (List.Sublist.refl view.waitlisted)
  have hany : (view.enrolled.eraseIdx index).any (· == next) = false := by
    have hdistinct := hleftFits.distinct
    rw [RosterView.filled, hline] at hdistinct
    exact hdistinct.any_eq_false
  have hopen : (view.enrolled.eraseIdx index).length < view.enrollmentCap := by
    obtain ⟨hlt, -⟩ := List.getElem?_eq_some_iff.mp hremoved
    have hle := hfits.enrolled_le
    rw [List.length_eraseIdx_of_lt hlt]
    omega
  exact hleft.promoteHead_some attach world hline hany hopen

theorem leaveWaitlist_answers (h : Stands view roster) (attach : Attach ω E C) (world : ω)
    {entity removed : E} {index : Nat} (hnone : view.enrolled.findIdx? (· == entity) = none)
    (hwaiting : view.waitlisted.findIdx? (· == entity) = some index)
    (hremoved : view.waitlisted[index]? = some removed) :
    (drop attach (some entity)).Answers (roster, world) (.leftWaitlist removed)
      (fun both => ∃ dropped,
        Stands (view.filled view.enrolled (view.waitlisted.eraseIdx index)) dropped ∧
        both = (dropped, world))
      (view.entry removed .leaveWaitlist none ++ view.line .info "left waitlist" []) := by
  have hposition : BoundedSeq.position roster.seats entity = none := by
    rw [BoundedSeq.position, h.seats.items, hnone]
  apply Call.Answers.current_bind
  simp only [hposition]
  apply Call.Answers.quiet_bind ((h.removeWaiting_answers hwaiting hremoved).onFirst world)
  intro both hboth
  obtain ⟨left, hleft, rfl⟩ := hboth
  exact hleft.announce_answers world _ .leaveWaitlist none "left waitlist" _

/-- A seat is given up and taken by the head of the waitlist, if somebody waits; a place on the
waitlist is given up; or the entity is on neither, and nothing happens. -/
theorem drop_cases (h : Stands view roster) (hfits : view.Fits) (attach : Attach ω E C)
    (world : ω) (entity : E) :
    (∃ index removed, view.enrolled.findIdx? (· == entity) = some index ∧
      view.enrolled[index]? = some removed ∧ view.waitlisted = [] ∧
      (drop attach (some entity)).Answers (roster, world) (.withdrawn removed none)
        (fun both => ∃ dropped, Stands (view.filled (view.enrolled.eraseIdx index) []) dropped ∧
          both = (dropped, world))
        (view.entry removed .drop none ++ view.line .info "seat released" [])) ∨
    (∃ index removed next rest, view.enrolled.findIdx? (· == entity) = some index ∧
      view.enrolled[index]? = some removed ∧ view.waitlisted = next :: rest ∧
      (drop attach (some entity)).Answers (roster, world)
        (.withdrawn removed (some ⟨next, (attach next view.course world).result.isOk⟩))
        (fun both => ∃ dropped,
          Stands (view.filled (view.enrolled.eraseIdx index ++ [next]) rest) dropped ∧
          both = (dropped, (attach next view.course world).state))
        (view.entry removed .drop none ++ (view.line .info "seat released" [] ++
          (Notice.heard (attach next view.course world).notices ++
            view.promotion next (attach next view.course world).result)))) ∨
    (∃ index removed, view.enrolled.findIdx? (· == entity) = none ∧
      view.waitlisted.findIdx? (· == entity) = some index ∧
      view.waitlisted[index]? = some removed ∧
      (drop attach (some entity)).Answers (roster, world) (.leftWaitlist removed)
        (fun both => ∃ dropped,
          Stands (view.filled view.enrolled (view.waitlisted.eraseIdx index)) dropped ∧
          both = (dropped, world))
        (view.entry removed .leaveWaitlist none ++ view.line .info "left waitlist" [])) ∨
    (view.enrolled.findIdx? (· == entity) = none ∧
      view.waitlisted.findIdx? (· == entity) = none ∧
      drop attach (some entity) (roster, world) =
        ⟨.error .notFound, (roster, world),
          view.line .debug "drop of unknown entity" [("entity", .text (toString entity))]⟩) := by
  cases hfound : view.enrolled.findIdx? (· == entity) with
  | some index =>
    obtain ⟨hlt, -, -⟩ := List.findIdx?_eq_some_iff_getElem.mp hfound
    have hremoved := List.getElem?_eq_getElem hlt
    cases hline : view.waitlisted with
    | nil =>
      exact .inl ⟨index, _, rfl, hremoved, rfl, h.withdraw_alone attach world hfound hremoved hline⟩
    | cons next rest =>
      exact .inr (.inl ⟨index, _, next, rest, rfl, hremoved, rfl,
        h.withdraw_promoting hfits attach world hfound hremoved hline⟩)
  | none =>
    cases hwaiting : view.waitlisted.findIdx? (· == entity) with
    | some index =>
      obtain ⟨hlt, -, -⟩ := List.findIdx?_eq_some_iff_getElem.mp hwaiting
      have hremoved := List.getElem?_eq_getElem hlt
      exact .inr (.inr (.inl ⟨index, _, rfl, rfl, hremoved,
        h.leaveWaitlist_answers attach world hfound hwaiting hremoved⟩))
    | none =>
      refine .inr (.inr (.inr ⟨rfl, rfl, ?_⟩))
      have hposition : BoundedSeq.position roster.seats entity = none := by
        rw [BoundedSeq.position, h.seats.items, hfound]
      have habsent := Call.onFirst_of_eq (h.removeWaiting_absent hwaiting) world
      obtain rfl := h.view_eq
      simp only [drop, Call.current_bind, hposition, Call.bind_of_ok habsent]
      rfl

end Stands
end Roster
end Enrollment
