import Enrollment.Registrar.Basic

/-!
Calls that are quiet: those on storages, on schedules and on the records of students write lines of
details to the log at most, and have nothing for the audit trail.  That they may panic is no entry
either.
-/
namespace Enrollment

def Notice.Minor : Notice → Prop
  | log line => line.level = .trace ∨ line.level = .debug
  | _ => False

def Notice.Quiet (notice : Notice) : Prop := notice.Minor ∨ notice = .panic

theorem Notice.audits_eq_nil {notices : List Notice} (h : ∀ notice ∈ notices, notice.Quiet) :
    audits notices = [] := by
  rw [audits, List.filterMap_eq_nil_iff]
  intro notice hnotice
  cases notice with
  | log line => rfl
  | panic => rfl
  | audit entry =>
    obtain hminor | hpanic := h _ hnotice
    · exact hminor.elim
    · cases hpanic

namespace Call

variable {σ τ ε ε' α β : Type} {P : Notice → Prop} {call : Call σ ε α}

/-- Whatever state it is made on, a call gives notice of nothing but what is `P`. -/
def Gives (P : Notice → Prop) (call : Call σ ε α) : Prop :=
  ∀ s, ∀ notice ∈ (call s).notices, P notice

namespace Gives

theorem mono {Q : Notice → Prop} (h : Gives P call) (hmono : ∀ notice, P notice → Q notice) :
    Gives Q call :=
  fun s notice hnotice => hmono notice (h s notice hnotice)

theorem pure (a : α) : Gives P (Pure.pure a : Call σ ε α) := fun _ => List.forall_mem_nil P

theorem refuse (e : ε) : Gives P (Call.refuse e : Call σ ε α) := fun _ => List.forall_mem_nil P

theorem become (s : σ) : Gives P (Call.become s : Call σ ε Unit) := fun _ => List.forall_mem_nil P

theorem log {level : LogLevel} {message : String} {fields : List (String × LogValue)}
    (h : P (.log ⟨level, message, fields⟩)) :
    Gives P (Call.log level message fields : Call σ ε Unit) :=
  fun _ => List.forall_mem_singleton.mpr h

theorem panic (h : P .panic) (e : ε) : Gives P (Call.panic e : Call σ ε α) :=
  fun _ => List.forall_mem_singleton.mpr h

theorem ofExcept (check : Except ε α) : Gives P (Call.ofExcept check : Call σ ε α) := by
  cases check with
  | ok a => exact pure a
  | error e => exact refuse e

theorem bind {next : α → Call σ ε β} (h : Gives P call) (hnext : ∀ a, Gives P (next a)) :
    Gives P (call >>= next) := by
  intro s
  rw [bind_apply]
  cases (call s).result with
  | ok a => exact List.forall_mem_append.mpr ⟨h s, hnext a _⟩
  | error e => exact h s

theorem current_bind {next : σ → Call σ ε β} (hnext : ∀ s, Gives P (next s)) :
    Gives P (current >>= next) :=
  fun s => hnext s s

theorem mapError (h : Gives P call) (f : ε → ε') : Gives P (Call.mapError f call) := h

theorem attempt (h : Gives P call) : Gives P (Call.attempt call : Call σ ε' (Option α)) := h

theorem within (h : Gives P call) (part : τ → σ) (put : τ → σ → τ) :
    Gives P (Call.within part put call) :=
  fun t => h (part t)

theorem ite {other : Call σ ε α} {Q : Prop} [Decidable Q] (h : Gives P call)
    (hother : Gives P other) : Gives P (if Q then call else other) := by
  by_cases hQ : Q
  · rwa [if_pos hQ]
  · rwa [if_neg hQ]

end Gives

def Silent (call : Call σ ε α) : Prop := ∀ s, Notice.audits (call s).notices = []

theorem Gives.silent (h : Gives Notice.Minor call) : Silent call :=
  fun s => Notice.audits_eq_nil fun notice hmem => .inl (h s notice hmem)

namespace Silent

theorem pure (a : α) : Silent (Pure.pure a : Call σ ε α) := fun _ => rfl

theorem refuse (e : ε) : Silent (Call.refuse e : Call σ ε α) := fun _ => rfl

theorem become (s : σ) : Silent (Call.become s : Call σ ε Unit) := fun _ => rfl

theorem log (level : LogLevel) (message : String) (fields : List (String × LogValue)) :
    Silent (Call.log level message fields : Call σ ε Unit) := fun _ => rfl

theorem bind {next : α → Call σ ε β} (h : Silent call) (hnext : ∀ a, Silent (next a)) :
    Silent (call >>= next) := by
  intro s
  rw [bind_apply]
  cases (call s).result with
  | ok a => rw [Notice.audits_append, h s, hnext a, List.nil_append]
  | error e => exact h s

theorem within (h : Silent call) (part : τ → σ) (put : τ → σ → τ) :
    Silent (Call.within part put call) := fun t => h (part t)

end Silent

end Call

open Call

variable {ε α : Type}

namespace ChainList

theorem minor_linkAt (index : Nat) (value : α) : (linkAt index value).Gives Notice.Minor := by
  intro list
  rw [linkAt, current_bind]
  by_cases hfront : index = 0
  · rw [if_pos hfront]
    exact List.forall_mem_nil _
  · rw [if_neg hfront]
    by_cases hend : index = list.size
    · rw [if_pos hend]
      simp only [become_bind]
      cases (list.allocate ⟨value, none⟩).2.back <;> exact List.forall_mem_nil _
    · rw [if_neg hend]
      cases list.place? (index - 1) <;> exact List.forall_mem_nil _

theorem minor_unlinkAt (index : Nat) :
    (unlinkAt index : Call (ChainList α) _ α).Gives Notice.Minor := by
  intro list
  rw [unlinkAt, current_bind]
  cases list.around? index with
  | none => exact List.forall_mem_nil _
  | some around =>
    obtain ⟨before, place⟩ := around
    cases hrelease : list.release? place <;>
      simp only [Option.bind_eq_bind, Option.bind_some, hrelease] <;>
      exact List.forall_mem_nil _

theorem minor_insert [BEq α] (index : Nat) (value : Option α) :
    (insert index value).Gives Notice.Minor :=
  Gives.current_bind fun _ => (Gives.ofExcept _).bind fun item => minor_linkAt index item

theorem minor_removeAt (index : Nat) :
    (removeAt index : Call (ChainList α) _ α).Gives Notice.Minor :=
  Gives.current_bind fun _ => (Gives.ofExcept _).bind fun _ => minor_unlinkAt index

end ChainList

namespace SortedList

theorem minor_add [BEq α] [Ord α] (value : Option α) : (add value).Gives Notice.Minor := by
  cases value with
  | none => exact Gives.refuse _
  | some value =>
    refine Gives.current_bind fun list => Gives.ite (Gives.refuse _) ?_
    exact ((ChainList.minor_insert _ _).within _ _).bind fun _ => Gives.pure _

theorem minor_removeWhere (property : α → Bool) :
    (removeWhere property : Call (SortedList α) ε (Option α)).Gives Notice.Minor := by
  refine Gives.current_bind fun list => ?_
  cases list.toList.findIdx? property with
  | none => exact Gives.pure none
  | some index => exact ((ChainList.minor_removeAt index).within _ _).attempt

end SortedList

namespace SlotList

theorem minor_grow : (grow : Call (SlotList α) ε Unit).Gives Notice.Minor :=
  Gives.current_bind fun _ => (Gives.become _).bind fun _ => Gives.log (.inl rfl)

theorem minor_insert [BEq α] (index : Nat) (value : Option α) :
    (insert index value).Gives Notice.Minor := by
  refine Gives.current_bind fun list => (Gives.ofExcept _).bind fun item => ?_
  have hstore : ∀ store : SlotList α → SlotList α,
      (do become (store (← current)) : Call (SlotList α) SequenceError Unit).Gives Notice.Minor :=
    fun store => Gives.current_bind fun list => Gives.become (store list)
  exact Gives.ite (minor_grow.bind fun _ => hstore _) (hstore _)

theorem minor_removeAt (index : Nat) :
    (removeAt index : Call (SlotList α) _ α).Gives Notice.Minor := by
  refine Gives.current_bind fun list => (Gives.ofExcept _).bind fun _ => ?_
  refine (Gives.become _).bind fun _ => ?_
  cases list.slots[index]?.join with
  | none => exact Gives.refuse _
  | some value => exact Gives.pure value

theorem minor_push [BEq α] (value : Option α) :
    (BoundedSeq.push value : Call (SlotList α) SequenceError Unit).Gives Notice.Minor :=
  Gives.current_bind fun list => minor_insert list.size value

theorem minor_removeItem [BEq α] (value : α) :
    (BoundedSeq.removeItem value : Call (SlotList α) ε (Option α)).Gives Notice.Minor := by
  refine Gives.current_bind fun list => ?_
  cases BoundedSeq.position list value with
  | none => exact Gives.pure none
  | some index => exact (minor_removeAt index).attempt

end SlotList

theorem Schedule.minor_add {ι κ : Type} [Schedulable ι κ] [BEq κ] [ToString κ] [BEq ι]
    (item : Option ι) : (add item).Gives Notice.Minor := by
  cases item with
  | none => exact Gives.refuse _
  | some item =>
    refine Gives.current_bind fun schedule => (Gives.ofExcept _).bind fun _ => ?_
    exact (Gives.log (.inr rfl)).bind fun _ => ((SlotList.minor_push _).within _ _).mapError _

namespace Students

variable {student : Student} {course : Course}

theorem gives_onRecord {P : Notice → Prop} {call : Call StudentRecord ε α} (h : call.Gives P) :
    (onRecord student call).Gives P :=
  fun students => h (students.recordOf student)

theorem quiet_attach (student : Student) (course : Course) :
    (attach student course).Gives Notice.Quiet := by
  refine gives_onRecord (Gives.current_bind fun record => ?_)
  cases record.creditsWith? course with
  | none => exact Gives.panic (.inr rfl) _
  | some total =>
    exact Gives.ite (Gives.refuse _) (((Schedule.minor_add _).within _ _).mono fun _ => Or.inl)

theorem silent_attach (student : Student) (course : Course) : (attach student course).Silent :=
  fun students => Notice.audits_eq_nil (quiet_attach student course students)

theorem minor_detach (student : Student) (course : Course) :
    (detach student course : Call Students ε Unit).Gives Notice.Minor := by
  refine Gives.bind (gives_onRecord (Gives.within ?_ _ _)) fun _ => Gives.pure ()
  exact ((SlotList.minor_removeItem course).within _ _).bind fun _ => Gives.pure _

theorem minor_detachAll (course : Course) (students : List Student) :
    (detachAll course students : Call Students ε Unit).Gives Notice.Minor := by
  induction students with
  | nil => exact Gives.pure ()
  | cons student rest ih => exact (minor_detach student course).bind fun _ => ih

theorem minor_reset (student : Student) : (onRecord student (StudentRecord.onSchedule do
    let schedule ← Call.current
    Call.become schedule.reset) : Call Students ε Unit).Gives Notice.Minor :=
  gives_onRecord (Gives.within (Gives.current_bind fun _ => Gives.become _) _ _)

end Students

end Enrollment
