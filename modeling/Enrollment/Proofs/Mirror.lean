import Enrollment.Proofs.Run

/-!
Two calls side by side, on two kinds of state: made on states that correspond, they reply alike.
That two calls do so is known from the calls they are made of.
-/
namespace Enrollment.Call

variable {σ τ ω κ ε ε' β γ : Type} {R : σ → τ → Prop}

structure Alike (R : σ → τ → Prop) (reply : Reply σ ε β) (other : Reply τ ε β) : Prop where
  result : reply.result = other.result
  state : R reply.state other.state
  heard : Notice.heard reply.notices = Notice.heard other.notices

/-- What is made next is made on states that correspond, if the first calls were answered. -/
theorem Alike.bind {call : Call σ ε β} {other : Call τ ε β} {next : β → Call σ ε γ}
    {next' : β → Call τ ε γ} {s : σ} {t : τ} (h : Alike R (call s) (other t))
    (hnext : ∀ b, (call s).result = .ok b →
      Alike R (next b (call s).state) (next' b (other t).state)) :
    Alike R ((call >>= next) s) ((other >>= next') t) := by
  obtain ⟨hresult, hstate, hheard⟩ := h
  rw [bind_apply, bind_apply, ← hresult]
  cases hcall : (call s).result with
  | error e => exact ⟨rfl, hstate, hheard⟩
  | ok b =>
    obtain ⟨hresult', hstate', hheard'⟩ := hnext b hcall
    refine ⟨hresult', hstate', ?_⟩
    rw [Notice.heard_append, Notice.heard_append, hheard, hheard']

def Mirrors (R : σ → τ → Prop) (call : Call σ ε β) (other : Call τ ε β) : Prop :=
  ∀ s t, R s t → Alike R (call s) (other t)

namespace Mirrors

theorem pure (b : β) : Mirrors R (Pure.pure b : Call σ ε β) (Pure.pure b) :=
  fun _ _ h => ⟨rfl, h, rfl⟩

theorem refuse (e : ε) : Mirrors R (Call.refuse e : Call σ ε β) (Call.refuse e) :=
  fun _ _ h => ⟨rfl, h, rfl⟩

theorem notify (notice : Notice) :
    Mirrors R (Call.notify notice : Call σ ε Unit) (Call.notify notice) :=
  fun _ _ h => ⟨rfl, h, rfl⟩

theorem ofExcept (check : Except ε β) :
    Mirrors R (Call.ofExcept check : Call σ ε β) (Call.ofExcept check) := by
  cases check with
  | ok b => exact pure b
  | error e => exact refuse e

variable {call : Call σ ε β} {other : Call τ ε β}

theorem bind {next : β → Call σ ε γ} {next' : β → Call τ ε γ} (h : Mirrors R call other)
    (hnext : ∀ b, Mirrors R (next b) (next' b)) : Mirrors R (call >>= next) (other >>= next') :=
  fun s t hst => (h s t hst).bind fun b _ => hnext b _ _ (h s t hst).state

/-- What is read of two states that correspond may differ; what is done with it may not. -/
theorem current_bind {next : σ → Call σ ε β} {next' : τ → Call τ ε β}
    (h : ∀ s t, R s t → Mirrors R (next s) (next' t)) :
    Mirrors R (current >>= next) (current >>= next') :=
  fun s t hst => h s t hst s t hst

theorem map (h : Mirrors R call other) (f : β → γ) :
    Mirrors R (do return f (← call)) (do return f (← other)) :=
  h.bind fun b => pure (f b)

theorem ite {P : Prop} [Decidable P] {call' : Call σ ε β} {other' : Call τ ε β}
    (h : Mirrors R call other) (h' : Mirrors R call' other') :
    Mirrors R (if P then call else call') (if P then other else other') := by
  by_cases hP : P
  · rw [if_pos hP, if_pos hP]
    exact h
  · rw [if_neg hP, if_neg hP]
    exact h'

theorem mapError (h : Mirrors R call other) (f : ε → ε') :
    Mirrors R (Call.mapError f call) (Call.mapError f other) := by
  intro s t hst
  obtain ⟨hresult, hstate, hheard⟩ := h s t hst
  exact ⟨congrArg (Except.mapError f) hresult, hstate, hheard⟩

theorem within {σ' τ' : Type} {R' : σ' → τ' → Prop} {part : σ' → σ} {part' : τ' → τ}
    {put : σ' → σ → σ'} {put' : τ' → τ → τ'} (h : Mirrors R call other)
    (hpart : ∀ s t, R' s t → R (part s) (part' t))
    (hput : ∀ s t, R' s t → ∀ a b, R a b → R' (put s a) (put' t b)) :
    Mirrors R' (Call.within part put call) (Call.within part' put' other) := by
  intro s t hst
  obtain ⟨hresult, hstate, hheard⟩ := h _ _ (hpart s t hst)
  exact ⟨hresult, hput s t hst _ _ hstate, hheard⟩

end Mirrors

def BesideSame (R : σ → τ → Prop) (both : σ × ω) (other : τ × ω) : Prop :=
  R both.1 other.1 ∧ both.2 = other.2

namespace Mirrors

theorem onFirst {call : Call σ ε β} {other : Call τ ε β} (h : Mirrors R call other) :
    Mirrors (BesideSame (ω := ω) R) (Call.onFirst call) (Call.onFirst other) :=
  h.within (fun _ _ hst => hst.1) fun _ _ hst _ _ hab => ⟨hab, hst.2⟩

theorem current_beside {next : σ × ω → Call (σ × ω) ε β} {next' : τ × ω → Call (τ × ω) ε β}
    (h : ∀ s t w, R s t → Mirrors (BesideSame R) (next (s, w)) (next' (t, w))) :
    Mirrors (BesideSame R) (current >>= next) (current >>= next') := by
  refine current_bind fun both other hst => ?_
  obtain ⟨s, w⟩ := both
  obtain ⟨t, v⟩ := other
  obtain ⟨hst, rfl⟩ := hst
  exact h s t _ hst

/-- A call on the part that two states share. -/
theorem onSecond (call : Call ω ε β) :
    Mirrors (BesideSame R) (Call.onSecond call) (Call.onSecond call) := by
  intro both other hst
  obtain ⟨s, w⟩ := both
  obtain ⟨t, v⟩ := other
  obtain ⟨hst, rfl⟩ := hst
  exact ⟨rfl, ⟨hst, rfl⟩, rfl⟩

end Mirrors

/-- Whatever shows of replies that are alike shows of runs of calls that mirror each other. -/
theorem map_run_eq {ρ : Type} {perform : κ → Call σ ε β} {perform' : κ → Call τ ε β}
    {shown : Reply σ ε β → ρ} {shown' : Reply τ ε β → ρ}
    (h : ∀ call, Mirrors R (perform call) (perform' call))
    (hshown : ∀ reply other, Alike R reply other → shown reply = shown' other)
    (calls : List κ) {s : σ} {t : τ} (hst : R s t) :
    (run perform calls s).map shown = (run perform' calls t).map shown' := by
  induction calls generalizing s t with
  | nil => rfl
  | cons call rest ih =>
    have hcall := h call s t hst
    rw [run, run, List.map_cons, List.map_cons, hshown _ _ hcall, ih hcall.state]

end Enrollment.Call
