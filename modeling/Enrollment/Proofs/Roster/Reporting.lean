import Enrollment.Proofs.Audit
import Enrollment.Proofs.Roster.Steps
import Enrollment.Proofs.Roster.Storages
import Enrollment.Proofs.Silent

/-!
The log of a roster and its audit trail are written by different statements, but tell of the same
changes in the same order, those that the answers are about: over any run, each line that announces
a change has its entry before it, and each warning that a promotion was not taken has its remark.
-/
namespace Enrollment

open Call

def AuditAction.announcement : AuditAction → String
  | enroll => "seat taken"
  | waitlist => "waitlisted"
  | drop => "seat released"
  | leaveWaitlist => "left waitlist"
  | promote => "promoted from waitlist"

inductive Report
  | change (action : AuditAction)
  | rejection
  deriving DecidableEq

def Report.change? : Report → Option AuditAction
  | change action => some action
  | rejection => none

def LogLine.report? (line : LogLine) : Option Report :=
  match line.level with
  | .info => (AuditAction.all.find? (·.announcement = line.message)).map .change
  | .warn =>
    if "promoted entity's schedule rejected the course: ".toList <+: line.message.toList then
      some .rejection
    else none
  | .debug => none
  | .trace => none

def LogLine.Counts (line : LogLine) (enrolled waitlisted : Nat) : Prop :=
  (line.report? = some (.change .enroll) →
    line.fields.lookup "enrolled" = some (.count enrolled)) ∧
  (line.report? = some (.change .waitlist) →
    line.fields.lookup "position" = some (.count waitlisted))

/-- What the log reports of the change that an entry is about: the rejection, if the entry has a
remark on it, and then the change. -/
def AuditEntry.reports (entry : AuditEntry) : List Report :=
  if entry.action = .promote ∧ entry.detail.isSome then [.rejection, .change .promote]
  else [.change entry.action]

def Promotion.reports {E : Type} (promotion : Promotion E) : List Report :=
  if promotion.attached then [.change .promote] else [.rejection, .change .promote]

def RosterAnswer.reports {E : Type} : RosterAnswer E → List Report
  | placed .enrolled => [.change .enroll]
  | placed .waitlisted => [.change .waitlist]
  | dropped (.withdrawn _ none) => [.change .drop]
  | dropped (.withdrawn _ (some promotion)) => .change .drop :: promotion.reports
  | dropped (.leftWaitlist _) => [.change .leaveWaitlist]
  | capped => []

def RosterResponse.reports {E : Type} : RosterResponse E → List Report
  | changed answer => answer.reports
  | verdict _ => []
  | occupancy _ => []

theorem AuditEntry.reports_of_no_detail {entry : AuditEntry} (h : entry.detail = none) :
    entry.reports = [.change entry.action] := by
  rw [reports, if_neg]
  simp [h]

theorem AuditEntry.filterMap_reports (entry : AuditEntry) :
    entry.reports.filterMap Report.change? = [entry.action] := by
  by_cases h : entry.action = .promote ∧ entry.detail.isSome
  · rw [reports, if_pos h, h.1]
    rfl
  · rw [reports, if_neg h]
    rfl

theorem LogLine.report?_announcement (action : AuditAction) (fields : List (String × LogValue)) :
    LogLine.report? ⟨.info, action.announcement, fields⟩ = some (.change action) := by
  cases action <;> rfl

theorem LogLine.report?_rejection (reason : String) (fields : List (String × LogValue)) :
    LogLine.report? ⟨.warn, s!"promoted entity's schedule rejected the course: {reason}", fields⟩ =
      some .rejection := by
  refine if_pos ?_
  simp only [String.toList_append]
  exact ⟨_, rfl⟩

/-- Only seats taken and places on the waitlist are counted. -/
theorem LogLine.counts_of_report? {line : LogLine} {report : Option Report}
    {enrolled waitlisted : Nat} (h : line.report? = report)
    (henroll : report ≠ some (.change .enroll)) (hwaitlist : report ≠ some (.change .waitlist)) :
    line.Counts enrolled waitlisted := by
  obtain rfl := h
  exact ⟨fun heq => absurd heq henroll, fun heq => absurd heq hwaitlist⟩

theorem LogLine.counts_announcement {action : AuditAction} {fields : List (String × LogValue)}
    {enrolled waitlisted : Nat}
    (henroll : action = .enroll → fields.lookup "enrolled" = some (.count enrolled))
    (hwaitlist : action = .waitlist → fields.lookup "position" = some (.count waitlisted)) :
    LogLine.Counts ⟨.info, action.announcement, fields⟩ enrolled waitlisted := by
  rw [LogLine.Counts, report?_announcement]
  simp only [Option.some.injEq, Report.change.injEq]
  exact ⟨henroll, hwaitlist⟩

namespace Notice

def reports (notices : List Notice) : List Report := (logs notices).filterMap LogLine.report?

def changes (notices : List Notice) : List AuditAction :=
  (reports notices).filterMap Report.change?

def Aside : Notice → Prop
  | log line => line.report? = none
  | audit _ => False
  | panic => True

theorem Minor.aside {notice : Notice} (h : notice.Minor) : notice.Aside := by
  cases notice with
  | audit entry => exact h
  | panic => exact h.elim
  | log line =>
    rw [Aside, LogLine.report?]
    cases h with
    | inl htrace => rw [htrace]
    | inr hdebug => rw [hdebug]

theorem Quiet.aside {notice : Notice} (h : notice.Quiet) : notice.Aside := by
  obtain hminor | rfl := h
  · exact hminor.aside
  · trivial

/-- A line about inner workings only reports nothing. -/
theorem aside_of_isTrace {notice : Notice} (h : notice.isTrace = true) : notice.Aside := by
  cases notice with
  | audit entry => cases h
  | panic => cases h
  | log line => exact Minor.aside (.inl (beq_iff_eq.mp h))

theorem reports_cons (line : LogLine) (rest : List Notice) :
    reports (.log line :: rest) = line.report?.toList ++ reports rest := by
  rw [reports, reports]
  cases hline : line.report? with
  | none => exact List.filterMap_cons_none hline
  | some report => exact List.filterMap_cons_some hline

theorem reports_append (notices more : List Notice) :
    reports (notices ++ more) = reports notices ++ reports more := by
  rw [reports, logs_append, List.filterMap_append]
  rfl

/-- Notices in which every change has its entry and right after it its line in the log, and an entry
has a remark where a warning goes before it and nowhere else. -/
inductive InStep : List Notice → Prop
  | nil : InStep []
  | aside {notice : Notice} {rest : List Notice} (haside : notice.Aside) (hrest : InStep rest) :
      InStep (notice :: rest)
  | change {entry : AuditEntry} {line : LogLine} {rest : List Notice}
      (hdetail : entry.detail = none) (hline : line.report? = some (.change entry.action))
      (hrest : InStep rest) : InStep (.audit entry :: .log line :: rest)
  | rejection {warning line : LogLine} {entry : AuditEntry} {rest : List Notice}
      (hwarning : warning.report? = some .rejection) (hdetail : entry.detail.isSome)
      (haction : entry.action = .promote) (hline : line.report? = some (.change .promote))
      (hrest : InStep rest) : InStep (.log warning :: .audit entry :: .log line :: rest)

namespace InStep

variable {notices more : List Notice}

theorem of_asides (h : ∀ notice ∈ notices, notice.Aside) : InStep notices := by
  induction notices with
  | nil => exact nil
  | cons notice rest ih =>
    obtain ⟨hfirst, hrest⟩ := List.forall_mem_cons.mp h
    exact aside hfirst (ih hrest)

theorem append (h : InStep notices) (hmore : InStep more) : InStep (notices ++ more) := by
  induction h with
  | nil => exact hmore
  | aside haside _ ih => exact aside haside ih
  | change hdetail hline _ ih => exact change hdetail hline ih
  | rejection hwarning hdetail haction hline _ ih =>
    exact rejection hwarning hdetail haction hline ih

/-- The log reports just the changes that the entries are about and the rejections that they have
remarks on, in their order. -/
theorem reports_eq (h : InStep notices) :
    reports notices = (audits notices).flatMap AuditEntry.reports := by
  induction h with
  | nil => rfl
  | @aside notice rest haside _ ih =>
    cases notice with
    | audit entry => exact haside.elim
    | panic => exact ih
    | log line =>
      rw [reports_cons, haside]
      exact ih
  | @change entry line rest hdetail hline _ ih =>
    calc reports (.audit entry :: .log line :: rest)
        = line.report?.toList ++ reports rest := reports_cons line rest
      _ = entry.reports ++ (audits rest).flatMap AuditEntry.reports := by
          rw [hline, AuditEntry.reports_of_no_detail hdetail, ih]
          rfl
  | @rejection warning line entry rest hwarning hdetail haction hline _ ih =>
    calc reports (.log warning :: .audit entry :: .log line :: rest)
        = warning.report?.toList ++ reports (.log line :: rest) := reports_cons warning _
      _ = entry.reports ++ (audits rest).flatMap AuditEntry.reports := by
          rw [reports_cons, hwarning, hline, AuditEntry.reports, if_pos ⟨haction, hdetail⟩, ih]
          rfl

theorem changes_eq (h : InStep notices) : changes notices = (audits notices).map (·.action) := by
  rw [changes, h.reports_eq, List.filterMap_flatMap, List.map_eq_flatMap]
  simp only [AuditEntry.filterMap_reports]

/-- A warning in a log that begins with something else is found after that. -/
theorem tail_eq_append {first warning : LogLine} {report : Option Report}
    {rest before after : List LogLine} (hfirst : first.report? = report)
    (hne : report ≠ some .rejection) (hwarning : warning.report? = some .rejection)
    (hlogs : first :: rest = before ++ warning :: after) :
    ∃ between, rest = between ++ warning :: after := by
  obtain ⟨-, heq⟩ | ⟨between, -, hrest⟩ := List.cons_eq_append_iff.mp hlogs
  · obtain ⟨rfl, -⟩ := List.cons.inj heq
    exact absurd (hfirst.symm.trans hwarning) hne
  · exact ⟨between, hrest⟩

/-- The line after a warning announces the promotion that it is about. -/
theorem exists_after_rejection (h : InStep notices) {before after : List LogLine}
    {warning : LogLine} (hlogs : logs notices = before ++ warning :: after)
    (hwarning : warning.report? = some .rejection) :
    ∃ line later, after = line :: later ∧ line.report? = some (.change .promote) := by
  induction h generalizing before with
  | nil => exact absurd hlogs (List.append_ne_nil_of_right_ne_nil _ (List.cons_ne_nil _ _)).symm
  | @aside notice rest haside _ ih =>
    cases notice with
    | audit entry => exact haside.elim
    | panic => exact ih hlogs
    | log line =>
      obtain ⟨between, hrest⟩ := tail_eq_append haside nofun hwarning hlogs
      exact ih hrest
  | @change entry line rest _ hline _ ih =>
    obtain ⟨between, hrest⟩ := tail_eq_append hline nofun hwarning hlogs
    exact ih hrest
  | @rejection first line entry rest _ _ _ hline _ ih =>
    -- The warning is the one in front, or one of those after the promotion that this one is about.
    obtain ⟨-, heq⟩ | ⟨between, -, hrest⟩ := List.cons_eq_append_iff.mp hlogs
    · exact ⟨line, logs rest, (List.cons.inj heq).2, hline⟩
    · obtain ⟨between, hrest⟩ := tail_eq_append hline nofun hwarning hrest
      exact ih hrest

theorem flatMap {σ ε α : Type} {replies : List (Reply σ ε α)}
    (h : ∀ reply ∈ replies, InStep (heard reply.notices)) :
    InStep (heard (replies.flatMap (·.notices))) := by
  induction replies with
  | nil => exact nil
  | cons reply rest ih =>
    obtain ⟨hfirst, hrest⟩ := List.forall_mem_cons.mp h
    rw [List.flatMap_cons, heard_append]
    exact hfirst.append (ih hrest)

end InStep

theorem mem_logs {line : LogLine} {notices : List Notice} :
    line ∈ logs notices ↔ log line ∈ notices := by
  rw [logs, List.mem_filterMap]
  constructor
  · rintro ⟨_ | _ | _, hmem, heq⟩
    · cases heq
      exact hmem
    · cases heq
    · cases heq
  · intro hmem
    exact ⟨log line, hmem, rfl⟩

/-- A line that is not heard reports nothing. -/
theorem mem_logs_heard {line : LogLine} {notices : List Notice} (h : line ∈ logs notices)
    (hreport : line.report? ≠ none) : line ∈ logs (heard notices) := by
  rw [mem_logs] at h ⊢
  refine List.mem_filter.mpr ⟨h, ?_⟩
  rw [Bool.not_eq_true', Bool.eq_false_iff]
  exact fun htrace => hreport (aside_of_isTrace htrace)

theorem reports_heard (notices : List Notice) : reports (heard notices) = reports notices := by
  induction notices with
  | nil => rfl
  | cons notice rest ih =>
    cases notice with
    | audit entry => exact ih
    | panic => exact ih
    | log line =>
      cases htrace : (log line).isTrace with
      | true =>
        have hheard : heard (log line :: rest) = heard rest :=
          List.filter_cons_of_neg (by simp [htrace])
        have hnone : line.report? = none := aside_of_isTrace htrace
        rw [hheard, ih, reports_cons, hnone]
        rfl
      | false =>
        have hheard : heard (log line :: rest) = log line :: heard rest :=
          List.filter_cons_of_pos (by simp [htrace])
        rw [hheard, reports_cons, reports_cons, ih]

structure Tells (enrolled waitlisted : Nat) (changed : List Report) (heard : List Notice) :
    Prop where
  inStep : InStep heard
  reports_eq : reports heard = changed
  counts : ∀ line ∈ logs heard, line.Counts enrolled waitlisted

namespace Tells

variable {enrolled waitlisted : Nat} {changed changed' : List Report} {heard more : List Notice}

theorem of_asides (h : ∀ notice ∈ heard, notice.Aside) : Tells enrolled waitlisted [] heard where
  inStep := InStep.of_asides h
  reports_eq := List.filterMap_eq_nil_iff.mpr fun _ hline => h _ (mem_logs.mp hline)
  counts _ hline := LogLine.counts_of_report? (h _ (mem_logs.mp hline)) nofun nofun

theorem append (h : Tells enrolled waitlisted changed heard)
    (hmore : Tells enrolled waitlisted changed' more) :
    Tells enrolled waitlisted (changed ++ changed') (heard ++ more) where
  inStep := h.inStep.append hmore.inStep
  reports_eq := by rw [reports_append, h.reports_eq, hmore.reports_eq]
  counts := by
    rw [logs_append]
    exact List.forall_mem_append.mpr ⟨h.counts, hmore.counts⟩

end Tells

end Notice

open Notice

variable {C E S T ω β γ : Type}

namespace Roster

variable [BoundedSeq S E] [BoundedSeq T E]

/-- How a call on a roster is told: the log and the audit trail are in step, they tell of what is
answered and count what the roster shows afterwards; and of a refusal there are lines of details at
most. -/
structure Reported (told : β → List Report) (reply : Reply (Roster C S T × ω) RosterError β) :
    Prop where
  tells : Tells reply.state.1.enrolled.length reply.state.1.waitlisted.length
    (reply.result.toOption.elim [] told) (Notice.heard reply.notices)
  refused : ∀ e, reply.result = .error e → ∀ notice ∈ reply.notices, notice.Minor

namespace Reported

variable {told : β → List Report} {reply : Reply (Roster C S T × ω) RosterError β}
  {call : Call (Roster C S T × ω) RosterError β} {both : Roster C S T × ω}

/-- The lines of the log count what the roster shows, heard or not. -/
theorem counts (h : Reported told reply) {line : LogLine} (hline : line ∈ logs reply.notices) :
    line.Counts reply.state.1.enrolled.length reply.state.1.waitlisted.length := by
  by_cases hreport : line.report? = none
  · exact LogLine.counts_of_report? hreport nofun nofun
  · exact h.tells.counts line (mem_logs_heard hline hreport)

theorem reports_eq (h : Reported told reply) {b : β} (hresult : reply.result = .ok b) :
    reports reply.notices = told b := by
  have hreports := h.tells.reports_eq
  rwa [reports_heard, hresult] at hreports

theorem of_refused {e : RosterError} {notices : List Notice}
    (hcall : call both = ⟨.error e, both, notices⟩) (h : ∀ notice ∈ notices, notice.Minor) :
    Reported told (call both) := by
  rw [hcall]
  refine ⟨Tells.of_asides fun notice hnotice => ?_, fun _ _ => h⟩
  exact (h notice (List.mem_of_mem_filter hnotice)).aside

theorem map {told' : γ → List Report} {f : β → γ}
    (h : Reported (fun b => told' (f b)) (call both)) :
    Reported told' ((do return f (← call) : Call (Roster C S T × ω) RosterError γ) both) := by
  obtain ⟨htells, hrefused⟩ := h
  rw [bind_pure_apply]
  cases hresult : (call both).result with
  | error e =>
    rw [hresult] at htells
    exact ⟨htells, fun _ _ => hrefused e hresult⟩
  | ok b =>
    rw [hresult] at htells
    exact ⟨htells, nofun⟩

variable [BEq E] [LawfulSeq S E] [LawfulSeq T E]

theorem of_answers {view : RosterView C E} {roster : Roster C S T} {world after : ω} {answer : β}
    {heard : List Notice}
    (hcall : call.Answers (roster, world) answer
      (fun both => ∃ t, Stands view t ∧ both = (t, after)) heard)
    (htells : Tells view.enrolled.length view.waitlisted.length (told answer) heard) :
    Reported told (call (roster, world)) := by
  obtain ⟨t, ht, hstate⟩ := hcall.state
  have hview := ht.view_eq
  constructor
  · rw [hcall.heard, hcall.result, hstate]
    subst hview
    exact htells
  · intro e he
    rw [hcall.result] at he
    cases he

end Reported

end Roster

variable [ToString C] [ToString E]

namespace RosterView

variable {view : RosterView C E} {enrolled waitlisted : Nat}

/-- An entry and the line that announces its change. -/
theorem tells_announcement (haudited : view.audited = true) (entity : E) {action : AuditAction}
    {fields : List (String × LogValue)}
    (henroll : action = .enroll → fields.lookup "enrolled" = some (.count enrolled))
    (hwaitlist : action = .waitlist → fields.lookup "position" = some (.count waitlisted)) :
    Tells enrolled waitlisted [.change action]
      (view.entry entity action none ++ view.line .info action.announcement fields) := by
  have hline := LogLine.report?_announcement action
    (("course", .text (toString view.course)) :: fields)
  rw [entry, if_pos haudited]
  refine ⟨.change rfl hline .nil, List.filterMap_cons_some hline, ?_⟩
  exact List.forall_mem_singleton.mpr (LogLine.counts_announcement henroll hwaitlist)

/-- An entry and a line that announces a change with nothing to count. -/
theorem tells_uncounted (haudited : view.audited = true) (entity : E) (action : AuditAction)
    (henroll : action ≠ .enroll) (hwaitlist : action ≠ .waitlist) :
    Tells enrolled waitlisted [.change action]
      (view.entry entity action none ++ view.line .info action.announcement []) :=
  tells_announcement haudited entity (fun h => absurd h henroll) fun h => absurd h hwaitlist

theorem tells_promotion (haudited : view.audited = true) (next : E)
    (verdict : Except ScheduleError Unit) :
    Tells enrolled waitlisted (Promotion.mk next verdict.isOk).reports
      (view.promotion next verdict) := by
  have hpromote : AuditAction.promote ≠ .enroll ∧ AuditAction.promote ≠ .waitlist := by decide
  cases verdict with
  | ok => exact tells_uncounted haudited next .promote hpromote.1 hpromote.2
  | error error =>
    have hwarning := LogLine.report?_rejection error.message
      [("course", .text (toString view.course)), ("entity", .text (toString next))]
    have hline := LogLine.report?_announcement .promote
      [("course", .text (toString view.course))]
    rw [promotion, entry, if_pos haudited]
    refine ⟨.rejection hwarning rfl rfl hline .nil, ?_, List.forall_mem_cons.mpr ⟨?_, ?_⟩⟩
    · exact (List.filterMap_cons_some hwarning).trans
        (congrArg (.rejection :: ·) (List.filterMap_cons_some hline))
    · exact LogLine.counts_of_report? hwarning (by decide) (by decide)
    · exact List.forall_mem_singleton.mpr (LogLine.counts_announcement
        (fun h => absurd h hpromote.1) fun h => absurd h hpromote.2)

end RosterView

namespace Roster.Stands

variable [BoundedSeq S E] [BoundedSeq T E] [BEq E] [LawfulSeq S E] [LawfulSeq T E]
  {view : RosterView C E} {roster : Roster C S T}

omit [ToString E] in
theorem setEnrollmentCap_reported (h : Stands view roster) (world : ω) (cap : Nat) :
    Reported (fun _ => []) (Call.onFirst (setEnrollmentCap cap) (roster, world)) := by
  obtain ⟨-, hcall⟩ | ⟨-, -, -, hcall⟩ := h.setEnrollmentCap_cases cap
  · exact Reported.of_refused (Call.onFirst_of_eq hcall world) (List.forall_mem_nil _)
  · refine Reported.of_answers (hcall.onFirst world) (Tells.of_asides ?_)
    exact List.forall_mem_singleton.mpr rfl

theorem enroll_reported (h : Stands view roster) (haudited : view.audited = true) (world : ω)
    (entity : Option E) :
    Reported (fun status => RosterAnswer.reports (.placed status : RosterAnswer E))
      (Call.onFirst (enroll entity) (roster, world)) := by
  have hne : AuditAction.enroll ≠ .waitlist := by decide
  cases entity with
  | none => exact Reported.of_refused rfl (List.forall_mem_nil _)
  | some entity =>
    obtain ⟨-, hcall⟩ | ⟨-, -, hcall⟩ | ⟨-, -, hcall⟩ | ⟨-, -, -, hcall⟩ | ⟨-, -, -, hcall⟩ :=
      h.enroll_cases entity
    · exact Reported.of_refused (Call.onFirst_of_eq hcall world) (List.forall_mem_nil _)
    · exact Reported.of_refused (Call.onFirst_of_eq hcall world) (List.forall_mem_nil _)
    · refine Reported.of_answers (hcall.onFirst world) ?_
      refine RosterView.tells_announcement haudited entity (fun _ => ?_) fun h => absurd h hne
      rw [RosterView.filled, List.length_append]
      rfl
    · exact Reported.of_refused (Call.onFirst_of_eq hcall world)
        (List.forall_mem_singleton.mpr (.inr rfl))
    · refine Reported.of_answers (hcall.onFirst world) ?_
      refine RosterView.tells_announcement haudited entity (fun h => absurd h hne.symm) fun _ => ?_
      rw [RosterView.filled, List.length_append]
      rfl

/-- The roster shows the same whatever the schedules answer; what they give notice of stands between
the seat given up and the promotion. -/
theorem drop_reported (h : Stands view roster) (hfits : view.Fits) (haudited : view.audited = true)
    {attach : Attach ω E C} (hattach : ∀ entity course, (attach entity course).Gives Notice.Aside)
    (world : ω) (entity : Option E) :
    Reported (fun outcome => RosterAnswer.reports (.dropped outcome))
      (drop attach entity (roster, world)) := by
  cases entity with
  | none => exact Reported.of_refused rfl (List.forall_mem_nil _)
  | some entity =>
    obtain ⟨_, removed, -, -, -, hcall⟩ | ⟨_, removed, next, _, -, -, -, hcall⟩ |
      ⟨_, removed, -, -, -, hcall⟩ | ⟨-, -, hcall⟩ := h.drop_cases hfits attach world entity
    · exact Reported.of_answers hcall
        (RosterView.tells_uncounted haudited removed .drop (by decide) (by decide))
    · refine Reported.of_answers hcall ?_
      rw [← List.append_assoc]
      have hasides : ∀ notice ∈ Notice.heard (attach next view.course world).notices,
          notice.Aside :=
        fun notice hnotice => hattach next _ world notice (List.mem_of_mem_filter hnotice)
      refine (RosterView.tells_uncounted haudited removed .drop (by decide) (by decide)).append ?_
      exact (Tells.of_asides hasides).append (RosterView.tells_promotion haudited next _)
    · exact Reported.of_answers hcall
        (RosterView.tells_uncounted haudited removed .leaveWaitlist (by decide) (by decide))
    · exact Reported.of_refused hcall (List.forall_mem_singleton.mpr (.inr rfl))

end Roster.Stands

namespace RosterCall

open Roster

variable [BoundedSeq S E] [BoundedSeq T E] [BEq E] [LawfulSeq S E] [LawfulSeq T E]
  {roster : Roster C S T}

theorem perform_reported (h : roster.Sound) (haudited : roster.audited = true)
    {attach : Attach ω E C} (hattach : ∀ entity course, (attach entity course).Gives Notice.Aside)
    (world : ω) (call : RosterCall E) :
    Reported RosterAnswer.reports (perform attach call (roster, world)) := by
  obtain ⟨hstands, hfits⟩ := h
  cases call with
  | enroll entity => exact (hstands.enroll_reported haudited world entity).map
  | drop entity => exact (hstands.drop_reported hfits haudited hattach world entity).map
  | setEnrollmentCap cap => exact (hstands.setEnrollmentCap_reported world cap).map

theorem perform_audited (h : roster.Sound) (attach : Attach ω E C) (world : ω)
    (call : RosterCall E) :
    (perform attach call (roster, world)).state.1.audited = roster.audited := by
  obtain ⟨_, _, hcall⟩ | ⟨_, after, hstep, -, hafter⟩ :=
    h.stands.perform_cases h.fits attach world call
  · rw [hcall]
  · calc (perform attach call (roster, world)).state.1.audited
        = after.audited := congrArg RosterView.audited hafter.view_eq
      _ = roster.audited := hstep.audited_eq

end RosterCall

namespace RosterRequest

open Roster

variable [BoundedSeq S E] [BoundedSeq T E] [BEq E] [LawfulSeq S E] [LawfulSeq T E]
  {roster : Roster C S T}

theorem perform_reported (h : roster.Sound) (haudited : roster.audited = true)
    {attach : Attach ω E C} (hattach : ∀ entity course, (attach entity course).Gives Notice.Aside)
    (world : ω) (request : RosterRequest E) :
    Reported RosterResponse.reports (perform attach request (roster, world)) := by
  cases request with
  | change call =>
    exact (call.perform_reported h haudited hattach world).map (f := RosterResponse.changed)
  | canEnroll entity => exact ⟨Tells.of_asides (List.forall_mem_nil _), nofun⟩
  | snapshot => exact ⟨Tells.of_asides (List.forall_mem_nil _), nofun⟩

/-- A sound roster stays sound, and audited if it is. -/
theorem perform_sound [PartialEquivBEq E] (h : roster.Sound) (haudited : roster.audited = true)
    (attach : Attach ω E C) (world : ω) (request : RosterRequest E) :
    (perform attach request (roster, world)).state.1.Sound ∧
      (perform attach request (roster, world)).state.1.audited = true := by
  cases request with
  | change call =>
    rw [perform, bind_pure_apply]
    exact ⟨(call.perform_sound h rfl attach world).1,
      (call.perform_audited h attach world).trans haudited⟩
  | canEnroll entity => exact ⟨h, haudited⟩
  | snapshot => exact ⟨h, haudited⟩

/-- Over a run from a sound roster every request is told as it should be. -/
theorem run_reported [PartialEquivBEq E] (h : roster.Sound) (haudited : roster.audited = true)
    {attach : Attach ω E C} (hattach : ∀ entity course, (attach entity course).Gives Notice.Aside)
    (world : ω) (requests : List (RosterRequest E)) :
    ∀ reply ∈ Call.run (perform attach) requests (roster, world),
      Reported RosterResponse.reports reply :=
  @Call.run_induction _ _ _ _ (perform attach)
    (fun both : Roster C S T × ω => both.1.Sound ∧ both.1.audited = true)
    (Reported RosterResponse.reports)
    (fun request both h => request.perform_sound h.1 h.2 attach both.2)
    (fun request both h => request.perform_reported h.1 h.2 hattach both.2) requests
    (roster, world) ⟨h, haudited⟩

/-- From any start that its limits allow, on any storages, and whoever rejects the course: where
the sink has room for all that is recorded, the changes that the log announces are those recorded,
in the same order.  A warning that a schedule rejected the course stands for each promotion recorded
with a remark and for nothing else, and the next line that is heard announces that promotion.  The
lines that count seats and places say how many the roster shows after the request.  What is reported
of a request is what its answer says has changed, and of a request that is refused there are lines
of details only, and nothing is recorded. -/
theorem log_in_step [PartialEquivBEq E] {seats waiting : Backend} {course : C} {cap : Nat}
    {limits : RosterLimits} {start : Roster C (seats.Store E) (waiting.Store E)}
    (hstart : make course cap limits true = .ok start) {attach : Attach ω E C}
    (hattach : ∀ entity course, (attach entity course).Gives Notice.Aside) (world : ω)
    (requests : List (RosterRequest E)) {sink : AuditSink}
    (hroom : sink.entries.length +
      (Notice.audits (Call.allNotices (perform attach) requests (start, world))).length ≤
        sink.maxEvents) :
    let replies := Call.run (perform attach) requests (start, world)
    let notices := Call.allNotices (perform attach) requests (start, world)
    let recorded := Notice.audits notices
    (sink.file notices).entries = sink.entries ++ recorded ∧
    Notice.changes notices = recorded.map (·.action) ∧
    Notice.reports notices = recorded.flatMap AuditEntry.reports ∧
    (∀ before warning after, Notice.logs (Notice.heard notices) = before ++ warning :: after →
      warning.report? = some .rejection →
      ∃ line later, after = line :: later ∧ line.report? = some (.change .promote)) ∧
    ∀ reply ∈ replies,
      (∀ line ∈ Notice.logs reply.notices,
        line.Counts reply.state.1.enrolled.length reply.state.1.waitlisted.length) ∧
      (∀ response, reply.result = .ok response →
        Notice.reports reply.notices = response.reports) ∧
      ∀ e, reply.result = .error e → ∀ notice ∈ reply.notices, notice.Minor := by
  intro replies notices recorded
  have hreported : ∀ reply ∈ replies, Reported RosterResponse.reports reply :=
    run_reported (sound_make hstart).1 (congrArg RosterView.audited (view_make hstart)) hattach
      world requests
  have hinStep : InStep (Notice.heard notices) :=
    InStep.flatMap fun reply hreply => (hreported reply hreply).tells.inStep
  have hreports := hinStep.reports_eq
  have hchanges := hinStep.changes_eq
  rw [changes, reports_heard, audits_heard] at hchanges
  rw [reports_heard, audits_heard] at hreports
  refine ⟨?_, hchanges, hreports, ?_, ?_⟩
  · rw [AuditSink.file_of_room hroom]
  · intro before warning after hlogs hwarning
    exact hinStep.exists_after_rejection hlogs hwarning
  · intro reply hreply
    have htold := hreported reply hreply
    exact ⟨fun line hline => htold.counts hline, fun response => htold.reports_eq, htold.refused⟩

/-- One seat for students who come and go: the first to get it from the waitlist has too few credits
for the course, the next has enough. -/
theorem log_in_step_students :
    let logic : Course := ⟨"Logic", "Logic", "001", 3, none, .arranged⟩
    let requests : List (RosterRequest Student) :=
      [change (.enroll (some ⟨"ada", 9⟩)), change (.enroll (some ⟨"bob", 2⟩)),
        change (.enroll (some ⟨"cy", 9⟩)), change (.enroll (some ⟨"ada", 9⟩)),
        change (.drop (some ⟨"ada", 9⟩)), change (.drop (some ⟨"bob", 2⟩)),
        change (.enroll (some ⟨"dee", 9⟩)), change (.drop (some ⟨"dee", 9⟩)), snapshot]
    let sink := AuditSink.empty 9
    ∃ start : Roster Course (Backend.slots.Store Student) (Backend.chain.Store Student),
      make logic 1 ⟨1, 2, 2⟩ true = .ok start ∧
      (∀ entity course, (Students.attach entity course).Gives Notice.Aside) ∧
      let notices := Call.allNotices (perform Students.attach) requests (start, Directory.empty)
      sink.entries.length + (Notice.audits notices).length ≤ sink.maxEvents ∧
      (sink.file notices).actions = Notice.changes notices ∧
      Notice.changes notices = [.enroll, .waitlist, .waitlist, .drop, .promote, .drop, .promote,
        .waitlist, .leaveWaitlist] ∧
      Notice.reports notices = [.change .enroll, .change .waitlist, .change .waitlist,
        .change .drop, .rejection, .change .promote, .change .drop, .change .promote,
        .change .waitlist, .change .leaveWaitlist] := by
  intro logic requests sink
  have hmake : make logic 1 ⟨1, 2, 2⟩ true =
      .ok (⟨logic, ⟨1, 2, 2⟩, 1, BoundedSeq.bounded 1, Queue.bounded 2, true⟩ :
        Roster Course (Backend.slots.Store Student) (Backend.chain.Store Student)) := rfl
  have hattach : ∀ entity course, (Students.attach entity course).Gives Notice.Aside :=
    fun entity course => (Students.quiet_attach entity course).mono fun _ => Notice.Quiet.aside
  refine ⟨_, hmake, hattach, ?_⟩
  intro notices
  have hroom : sink.entries.length + (Notice.audits notices).length ≤ sink.maxEvents := by
    decide +kernel
  obtain ⟨hentries, hchanges, hreports, -, -⟩ :=
    log_in_step hmake hattach Directory.empty requests hroom
  refine ⟨hroom, ?_, ?_, ?_⟩
  · have hempty : sink.entries = [] := rfl
    rw [hchanges, AuditSink.actions, hentries, hempty, List.nil_append]
  · rw [hchanges]
    decide +kernel
  · rw [hreports]
    decide +kernel

end RosterRequest

end Enrollment
