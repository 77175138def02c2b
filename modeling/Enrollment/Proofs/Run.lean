import Enrollment.Proofs.Answers

/-!
Calls made one after another, each on the state that the one before it left, refused or not.
-/
namespace Enrollment.Call

variable {κ σ ε β : Type} {perform : κ → Call σ ε β}

def Spares (call : Call σ ε β) (s : σ) : Prop :=
  ∀ e, (call s).result = .error e → (call s).state = s

theorem Spares.map {γ : Type} {call : Call σ ε β} {s : σ} (h : Spares call s) (f : β → γ) :
    Spares (do return f (← call)) s := by
  intro e he
  rw [bind_pure_apply] at he ⊢
  cases hresult : (call s).result with
  | ok b => simp [hresult, Except.map] at he
  | error e' => exact h e' hresult

theorem Refuses.spares {call : Call σ ε β} {s : σ} {e : ε} {heard : List Notice}
    (h : Refuses call s e heard) : Spares call s :=
  fun _ _ => h.state

theorem Answers.spares {call : Call σ ε β} {s : σ} {b : β} {P : σ → Prop} {heard : List Notice}
    (h : Answers call s b P heard) : Spares call s := by
  intro e he
  rw [h.result] at he
  cases he

def run (perform : κ → Call σ ε β) : List κ → σ → List (Reply σ ε β)
  | [], _ => []
  | call :: rest, s => perform call s :: run perform rest (perform call s).state

def finalState (perform : κ → Call σ ε β) : List κ → σ → σ
  | [], s => s
  | call :: rest, s => finalState perform rest (perform call s).state

theorem finalState_append (calls more : List κ) (s : σ) :
    finalState perform (calls ++ more) s =
      finalState perform more (finalState perform calls s) := by
  induction calls generalizing s with
  | nil => rfl
  | cons call rest ih => exact ih (perform call s).state

def allNotices (perform : κ → Call σ ε β) (calls : List κ) (s : σ) : List Notice :=
  (run perform calls s).flatMap (·.notices)

theorem allNotices_cons (call : κ) (rest : List κ) (s : σ) :
    allNotices perform (call :: rest) s =
      (perform call s).notices ++ allNotices perform rest (perform call s).state :=
  List.flatMap_cons

/-- What each of its calls keeps, a run keeps. -/
theorem finalState_induction_of_mem {Inv : σ → Prop} {calls : List κ}
    (hstep : ∀ call ∈ calls, ∀ s, Inv s → Inv (perform call s).state) {s : σ} (h : Inv s) :
    Inv (finalState perform calls s) := by
  induction calls generalizing s with
  | nil => exact h
  | cons call rest ih =>
    obtain ⟨hfirst, hrest⟩ := List.forall_mem_cons.mp hstep
    exact ih hrest (hfirst s h)

/-- What every call keeps, a run keeps. -/
theorem finalState_induction {Inv : σ → Prop}
    (hstep : ∀ call s, Inv s → Inv (perform call s).state) (calls : List κ) {s : σ} (h : Inv s) :
    Inv (finalState perform calls s) :=
  finalState_induction_of_mem (fun call _ => hstep call) h

/-- What every call replies, the calls of a run reply. -/
theorem run_induction {Inv : σ → Prop} {Kind : Reply σ ε β → Prop}
    (hstep : ∀ call s, Inv s → Inv (perform call s).state)
    (hreply : ∀ call s, Inv s → Kind (perform call s)) (calls : List κ) {s : σ} (h : Inv s) :
    ∀ reply ∈ run perform calls s, Kind reply := by
  induction calls generalizing s with
  | nil => exact List.forall_mem_nil _
  | cons call rest ih => exact List.forall_mem_cons.mpr ⟨hreply call s h, ih (hstep call s h)⟩

/-- What the answers of a run tell, put together one after another, after what was told before. -/
def recount {τ : Type} (perform : κ → Call σ ε β) (note : τ → κ × Except ε β → τ) (calls : List κ)
    (s : σ) (past : τ) : τ :=
  (calls.zip ((run perform calls s).map (·.result))).foldl note past

/-- What is told agrees with the state that is reached if every answer keeps the two in agreement. -/
theorem recount_induction {τ : Type} {note : τ → κ × Except ε β → τ} {Agrees : τ → σ → Prop}
    (hstep : ∀ call past s, Agrees past s →
      Agrees (note past (call, (perform call s).result)) (perform call s).state)
    (calls : List κ) {past : τ} {s : σ} (h : Agrees past s) :
    Agrees (recount perform note calls s past) (finalState perform calls s) := by
  induction calls generalizing past s with
  | nil => exact h
  | cons call rest ih => exact ih (hstep call past s h)

end Enrollment.Call
