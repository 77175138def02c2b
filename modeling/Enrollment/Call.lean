import Enrollment.Notice

/-!
A call works on a state and may be refused.  Refused or not, it leaves a state and the notices it
gave on the way: that a refusal changes nothing is a fact to prove about a call, not built in.
-/
namespace Enrollment

structure Reply (σ ε α : Type) where
  result : Except ε α
  state : σ
  notices : List Notice

/-- Whether the call panicked.  The rest of the reply is then seen by nobody. -/
def Reply.panics {σ ε α : Type} (reply : Reply σ ε α) : Bool := reply.notices.contains .panic

def Reply.after {σ ε α : Type} (earlier : List Notice) (reply : Reply σ ε α) : Reply σ ε α :=
  { reply with notices := earlier ++ reply.notices }

@[simp] theorem Reply.after_result {σ ε α : Type} (earlier : List Notice) (reply : Reply σ ε α) :
    (reply.after earlier).result = reply.result := rfl

@[simp] theorem Reply.after_state {σ ε α : Type} (earlier : List Notice) (reply : Reply σ ε α) :
    (reply.after earlier).state = reply.state := rfl

@[simp] theorem Reply.after_mk {σ ε α : Type} (earlier : List Notice) (result : Except ε α)
    (state : σ) (notices : List Notice) :
    Reply.after earlier ⟨result, state, notices⟩ = ⟨result, state, earlier ++ notices⟩ := rfl

/-- A computation on a state `σ` that answers an `α` or refuses with an `ε`. -/
def Call (σ ε α : Type) : Type := σ → Reply σ ε α

namespace Call

variable {σ τ ω ε ε' α β : Type}

def answer (a : α) : Call σ ε α := fun s => ⟨.ok a, s, []⟩

def refuse (e : ε) : Call σ ε α := fun s => ⟨.error e, s, []⟩

def andThen (call : Call σ ε α) (next : α → Call σ ε β) : Call σ ε β := fun s =>
  match (call s).result with
  | .ok a =>
    let reply := next a (call s).state
    ⟨reply.result, reply.state, (call s).notices ++ reply.notices⟩
  | .error e => ⟨.error e, (call s).state, (call s).notices⟩

instance : Monad (Call σ ε) where
  pure := answer
  bind := andThen

@[simp] theorem pure_apply (a : α) (s : σ) : (pure a : Call σ ε α) s = ⟨.ok a, s, []⟩ := rfl

@[simp] theorem refuse_apply (e : ε) (s : σ) : (refuse e : Call σ ε α) s = ⟨.error e, s, []⟩ := rfl

theorem bind_apply (call : Call σ ε α) (next : α → Call σ ε β) (s : σ) :
    (call >>= next) s =
      match (call s).result with
      | .ok a =>
        ⟨(next a (call s).state).result, (next a (call s).state).state,
          (call s).notices ++ (next a (call s).state).notices⟩
      | .error e => ⟨.error e, (call s).state, (call s).notices⟩ := rfl

def current : Call σ ε σ := fun s => ⟨.ok s, s, []⟩

def become (s : σ) : Call σ ε Unit := fun _ => ⟨.ok (), s, []⟩

def notify (notice : Notice) : Call σ ε Unit := fun s => ⟨.ok (), s, [notice]⟩

def log (level : LogLevel) (message : String) (fields : List (String × LogValue)) :
    Call σ ε Unit :=
  notify (.log ⟨level, message, fields⟩)

/-- Stop the program, because of `e`. -/
def panic (e : ε) : Call σ ε α := do
  notify .panic
  refuse e

def ofExcept : Except ε α → Call σ ε α
  | .ok a => answer a
  | .error e => refuse e

@[simp] theorem current_apply (s : σ) : (current : Call σ ε σ) s = ⟨.ok s, s, []⟩ := rfl

@[simp] theorem become_apply (s t : σ) : (become s : Call σ ε Unit) t = ⟨.ok (), s, []⟩ := rfl

@[simp] theorem notify_apply (notice : Notice) (s : σ) :
    (notify notice : Call σ ε Unit) s = ⟨.ok (), s, [notice]⟩ := rfl

@[simp] theorem panic_apply (e : ε) (s : σ) :
    (panic e : Call σ ε α) s = ⟨.error e, s, [.panic]⟩ := rfl

@[simp] theorem ofExcept_ok (a : α) : (ofExcept (.ok a) : Call σ ε α) = pure a := rfl

@[simp] theorem ofExcept_error (e : ε) : (ofExcept (.error e) : Call σ ε α) = refuse e := rfl

@[simp] theorem log_apply (level : LogLevel) (message : String)
    (fields : List (String × LogValue)) (s : σ) :
    (log level message fields : Call σ ε Unit) s = ⟨.ok (), s, [.log ⟨level, message, fields⟩]⟩ :=
  rfl

@[simp] theorem pure_bind (a : α) (next : α → Call σ ε β) (s : σ) :
    ((pure a : Call σ ε α) >>= next) s = next a s := rfl

@[simp] theorem refuse_bind (e : ε) (next : α → Call σ ε β) (s : σ) :
    ((refuse e : Call σ ε α) >>= next) s = ⟨.error e, s, []⟩ := rfl

@[simp] theorem current_bind (next : σ → Call σ ε β) (s : σ) :
    (current >>= next) s = next s s := rfl

@[simp] theorem become_bind (t : σ) (next : Unit → Call σ ε β) (s : σ) :
    (become t >>= next) s = next () t := rfl

@[simp] theorem notify_bind (notice : Notice) (next : Unit → Call σ ε β) (s : σ) :
    (notify notice >>= next) s = (next () s).after [notice] := rfl

@[simp] theorem log_bind (level : LogLevel) (message : String)
    (fields : List (String × LogValue)) (next : Unit → Call σ ε β) (s : σ) :
    (log level message fields >>= next) s =
      (next () s).after [.log ⟨level, message, fields⟩] := rfl

theorem bind_of_ok {call : Call σ ε α} {s t : σ} {a : α} {notices : List Notice}
    (h : call s = ⟨.ok a, t, notices⟩) (next : α → Call σ ε β) :
    (call >>= next) s = (next a t).after notices := by
  rw [bind_apply, h]
  rfl

theorem bind_of_error {call : Call σ ε α} {s t : σ} {e : ε} {notices : List Notice}
    (h : call s = ⟨.error e, t, notices⟩) (next : α → Call σ ε β) :
    (call >>= next) s = ⟨.error e, t, notices⟩ := by
  rw [bind_apply, h]

/-- A call whose answer is said in other terms. -/
theorem bind_pure_apply (call : Call σ ε α) (f : α → β) (s : σ) :
    (do return f (← call) : Call σ ε β) s =
      ⟨(call s).result.map f, (call s).state, (call s).notices⟩ := by
  rw [bind_apply]
  cases (call s).result with
  | ok a => simp [Except.map]
  | error e => rfl

def mapError (f : ε → ε') (call : Call σ ε α) : Call σ ε' α := fun s =>
  ⟨(call s).result.mapError f, (call s).state, (call s).notices⟩

def outcome (call : Call σ ε α) : Call σ ε' (Except ε α) := fun s =>
  ⟨.ok (call s).result, (call s).state, (call s).notices⟩

/-- The same call, never refused: a refusal gives no value. -/
def attempt (call : Call σ ε α) : Call σ ε' (Option α) := fun s =>
  ⟨.ok (call s).result.toOption, (call s).state, (call s).notices⟩

def within (part : τ → σ) (put : τ → σ → τ) (call : Call σ ε α) : Call τ ε α := fun t =>
  ⟨(call (part t)).result, put t (call (part t)).state, (call (part t)).notices⟩

def onFirst (call : Call σ ε α) : Call (σ × ω) ε α :=
  within Prod.fst (fun both s => (s, both.2)) call

def onSecond (call : Call ω ε α) : Call (σ × ω) ε α :=
  within Prod.snd (fun both w => (both.1, w)) call

/-! The same, evaluated where the reply of the inner call is known. -/

theorem mapError_of_eq {call : Call σ ε α} {s t : σ} {result : Except ε α}
    {notices : List Notice} (h : call s = ⟨result, t, notices⟩) (f : ε → ε') :
    mapError f call s = ⟨result.mapError f, t, notices⟩ := by
  rw [mapError, h]

theorem attempt_of_eq {call : Call σ ε α} {s t : σ} {result : Except ε α}
    {notices : List Notice} (h : call s = ⟨result, t, notices⟩) :
    (attempt call : Call σ ε' (Option α)) s = ⟨.ok result.toOption, t, notices⟩ := by
  rw [attempt, h]

theorem outcome_of_eq {call : Call σ ε α} {s t : σ} {result : Except ε α}
    {notices : List Notice} (h : call s = ⟨result, t, notices⟩) :
    (outcome call : Call σ ε' (Except ε α)) s = ⟨.ok result, t, notices⟩ := by
  rw [outcome, h]

theorem within_of_eq {part : τ → σ} {put : τ → σ → τ} {call : Call σ ε α} {whole : τ} {s : σ}
    {result : Except ε α} {notices : List Notice}
    (h : call (part whole) = ⟨result, s, notices⟩) :
    within part put call whole = ⟨result, put whole s, notices⟩ := by
  rw [within, h]

theorem onFirst_of_eq {call : Call σ ε α} {s t : σ} {result : Except ε α}
    {notices : List Notice} (h : call s = ⟨result, t, notices⟩) (w : ω) :
    onFirst call (s, w) = ⟨result, (t, w), notices⟩ :=
  within_of_eq h

theorem onSecond_of_eq {call : Call ω ε α} {w v : ω} {result : Except ε α}
    {notices : List Notice} (h : call w = ⟨result, v, notices⟩) (s : σ) :
    onSecond call (s, w) = ⟨result, (s, v), notices⟩ :=
  within_of_eq h

end Call

end Enrollment
