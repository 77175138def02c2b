import Enrollment.Call

/-!
What a call answers on a state, the kind of state it leaves and what is heard meanwhile; and how
this is known of a call from the calls it is made of.
-/
namespace Enrollment.Call

variable {σ τ ω ε ε' β γ : Type} {P Q : σ → Prop} {call : Call σ ε β} {s : σ} {b : β}
  {heard more : List Notice}

structure Answers (call : Call σ ε β) (s : σ) (b : β) (P : σ → Prop) (heard : List Notice) :
    Prop where
  result : (call s).result = .ok b
  state : P (call s).state
  heard : Notice.heard (call s).notices = heard

namespace Answers

theorem of_eq {t : σ} {notices : List Notice} (hcall : call s = ⟨.ok b, t, notices⟩) (ht : P t)
    (hheard : Notice.heard notices = heard) : Answers call s b P heard := by
  refine ⟨?_, ?_, ?_⟩
  · rw [hcall]
  · rwa [hcall]
  · rwa [hcall]

theorem reply (h : Answers call s b P heard) :
    ∃ t notices, call s = ⟨.ok b, t, notices⟩ ∧ P t ∧ Notice.heard notices = heard :=
  ⟨(call s).state, (call s).notices, by rw [← h.result], h.state, h.heard⟩

/-- The one state that is left is of the kind that is left. -/
theorem exists_state (h : Answers call s b P heard) :
    ∃ t, P t ∧ Answers call s b (fun left => left = t) heard :=
  ⟨(call s).state, h.state, h.result, rfl, h.heard⟩

theorem congr {call' : Call σ ε β} (h : Answers call s b P heard) (hcall : call' s = call s) :
    Answers call' s b P heard := by
  obtain ⟨t, notices, heq, ht, hheard⟩ := h.reply
  exact of_eq (hcall.trans heq) ht hheard

theorem mono (h : Answers call s b P heard) (hmono : ∀ t, P t → Q t) :
    Answers call s b Q heard :=
  ⟨h.result, hmono _ h.state, h.heard⟩

theorem pure (h : P s) : Answers (Pure.pure b : Call σ ε β) s b P [] :=
  of_eq rfl h rfl

theorem log {level : LogLevel} (hlevel : level ≠ .trace) (message : String)
    (fields : List (String × LogValue)) (h : P s) :
    Answers (Call.log level message fields : Call σ ε Unit) s () P
      [.log ⟨level, message, fields⟩] := by
  refine of_eq rfl h ?_
  simp [Notice.heard, Notice.isTrace, hlevel]

theorem bind {next : β → Call σ ε γ} {c : γ} (h : Answers call s b P heard)
    (hnext : ∀ t, P t → Answers (next b) t c Q more) :
    Answers (call >>= next) s c Q (heard ++ more) := by
  obtain ⟨t, notices, heq, ht, hheard⟩ := h.reply
  obtain ⟨u, remarks, heq', hu, hheard'⟩ := (hnext t ht).reply
  have hcall : (call >>= next) s = ⟨.ok c, u, notices ++ remarks⟩ := by
    rw [bind_of_ok heq, heq', Reply.after_mk]
  exact of_eq hcall hu (by rw [Notice.heard_append, hheard, hheard'])

/-- Nothing is heard of the first of two calls. -/
theorem quiet_bind {next : β → Call σ ε γ} {c : γ} (h : Answers call s b P [])
    (hnext : ∀ t, P t → Answers (next b) t c Q more) : Answers (call >>= next) s c Q more := by
  have hbind := h.bind hnext
  rwa [List.nil_append] at hbind

/-- Nothing is heard of the second of two calls. -/
theorem bind_quiet {next : β → Call σ ε γ} {c : γ} (h : Answers call s b P heard)
    (hnext : ∀ t, P t → Answers (next b) t c Q []) : Answers (call >>= next) s c Q heard := by
  have hbind := h.bind hnext
  rwa [List.append_nil] at hbind

theorem map (h : Answers call s b P heard) (f : β → γ) :
    Answers (do return f (← call)) s (f b) P heard :=
  h.bind_quiet fun _ ht => pure ht

theorem current_bind {next : σ → Call σ ε β} (h : Answers (next s) s b P heard) :
    Answers (current >>= next) s b P heard :=
  h.congr rfl

theorem become_bind {t : σ} {next : Unit → Call σ ε β} (h : Answers (next ()) t b P heard) :
    Answers (become t >>= next) s b P heard := by
  obtain ⟨u, notices, heq, hu, hheard⟩ := h.reply
  exact of_eq heq hu hheard

theorem ofExcept_bind {check : Except ε β} {next : β → Call σ ε γ} {c : γ} (hcheck : check = .ok b)
    (h : Answers (next b) s c P heard) : Answers (ofExcept check >>= next) s c P heard := by
  obtain rfl := hcheck
  exact h.congr rfl

theorem mapError (h : Answers call s b P heard) (f : ε → ε') :
    Answers (Call.mapError f call) s b P heard := by
  obtain ⟨t, notices, heq, ht, hheard⟩ := h.reply
  exact of_eq (mapError_of_eq heq f) ht hheard

theorem within {part : τ → σ} {put : τ → σ → τ} {whole : τ} {R : τ → Prop}
    (h : Answers call (part whole) b P heard) (hput : ∀ t, P t → R (put whole t)) :
    Answers (Call.within part put call) whole b R heard := by
  obtain ⟨t, notices, heq, ht, hheard⟩ := h.reply
  exact of_eq (within_of_eq heq) (hput t ht) hheard

theorem onFirst (h : Answers call s b P heard) (w : ω) :
    Answers (Call.onFirst call) (s, w) b (fun both => ∃ t, P t ∧ both = (t, w)) heard :=
  within h fun t ht => ⟨t, ht, rfl⟩

/-- On the second of two states any call answers, if its refusal is an answer. -/
theorem onSecond_outcome (call : Call ω ε' β) (s : σ) (w : ω) :
    Answers (Call.onSecond (Call.outcome call) : Call (σ × ω) ε (Except ε' β)) (s, w)
      (call w).result (fun both => both = (s, (call w).state)) (Notice.heard (call w).notices) :=
  of_eq rfl rfl rfl

end Answers

structure Refuses (call : Call σ ε β) (s : σ) (e : ε) (heard : List Notice) : Prop where
  result : (call s).result = .error e
  state : (call s).state = s
  heard : Notice.heard (call s).notices = heard

namespace Refuses

variable {e : ε}

theorem of_eq {notices : List Notice} (hcall : call s = ⟨.error e, s, notices⟩)
    (hheard : Notice.heard notices = heard) : Refuses call s e heard := by
  refine ⟨?_, ?_, ?_⟩
  · rw [hcall]
  · rw [hcall]
  · rwa [hcall]

theorem reply (h : Refuses call s e heard) :
    ∃ notices, call s = ⟨.error e, s, notices⟩ ∧ Notice.heard notices = heard := by
  refine ⟨(call s).notices, ?_, h.heard⟩
  calc call s = ⟨(call s).result, (call s).state, (call s).notices⟩ := rfl
    _ = ⟨.error e, s, (call s).notices⟩ := by rw [h.result, h.state]

theorem congr {call' : Call σ ε β} (h : Refuses call s e heard) (hcall : call' s = call s) :
    Refuses call' s e heard := by
  obtain ⟨notices, heq, hheard⟩ := h.reply
  exact of_eq (hcall.trans heq) hheard

theorem bind (h : Refuses call s e heard) (next : β → Call σ ε γ) :
    Refuses (call >>= next) s e heard := by
  obtain ⟨notices, heq, hheard⟩ := h.reply
  exact of_eq (bind_of_error heq next) hheard

/-- The second of two calls is refused, the first having changed nothing. -/
theorem bind_second {next : β → Call σ ε γ} (h : Answers call s b (fun t => t = s) heard)
    (hnext : Refuses (next b) s e more) : Refuses (call >>= next) s e (heard ++ more) := by
  obtain ⟨t, notices, heq, rfl, hheard⟩ := h.reply
  obtain ⟨remarks, heq', hheard'⟩ := hnext.reply
  have hcall : (call >>= next) t = ⟨.error e, t, notices ++ remarks⟩ := by
    rw [bind_of_ok heq, heq', Reply.after_mk]
  exact of_eq hcall (by rw [Notice.heard_append, hheard, hheard'])

theorem current_bind {next : σ → Call σ ε β} (h : Refuses (next s) s e heard) :
    Refuses (current >>= next) s e heard :=
  h.congr rfl

theorem ofExcept_bind {check : Except ε β} {next : β → Call σ ε γ} (hcheck : check = .ok b)
    (h : Refuses (next b) s e heard) : Refuses (ofExcept check >>= next) s e heard := by
  obtain rfl := hcheck
  exact h.congr rfl

theorem ofExcept_error {check : Except ε β} (hcheck : check = .error e) (next : β → Call σ ε γ) :
    Refuses (ofExcept check >>= next) s e [] := by
  obtain rfl := hcheck
  exact of_eq rfl rfl

theorem mapError (h : Refuses call s e heard) (f : ε → ε') :
    Refuses (Call.mapError f call) s (f e) heard := by
  obtain ⟨notices, heq, hheard⟩ := h.reply
  exact of_eq (mapError_of_eq heq f) hheard

theorem within {part : τ → σ} {put : τ → σ → τ} {whole : τ}
    (h : Refuses call (part whole) e heard) (hput : put whole (part whole) = whole) :
    Refuses (Call.within part put call) whole e heard := by
  obtain ⟨notices, heq, hheard⟩ := h.reply
  have hcall : Call.within part put call whole = ⟨.error e, put whole (part whole), notices⟩ :=
    within_of_eq heq
  rw [hput] at hcall
  exact of_eq hcall hheard

end Refuses

theorem bind_result_error {e : ε} (h : (call s).result = .error e) (next : β → Call σ ε γ) :
    ((call >>= next) s).result = .error e := by
  rw [bind_apply, h]

/-- What two calls answer and leave is what the second does on the state that the first left. -/
theorem bind_result_ok (h : (call s).result = .ok b) (next : β → Call σ ε γ) :
    ((call >>= next) s).result = (next b (call s).state).result ∧
      ((call >>= next) s).state = (next b (call s).state).state := by
  rw [bind_apply, h]
  exact ⟨rfl, rfl⟩

/-- Two calls are answered, one after the other, only if both are. -/
theorem of_bind_result_eq_ok {next : β → Call σ ε γ} {c : γ}
    (h : ((call >>= next) s).result = .ok c) :
    ∃ b, (call s).result = .ok b ∧ (next b (call s).state).result = .ok c ∧
      ((call >>= next) s).state = (next b (call s).state).state := by
  rw [bind_apply] at h ⊢
  cases hresult : (call s).result with
  | error e =>
    rw [hresult] at h
    cases h
  | ok b =>
    rw [hresult] at h
    exact ⟨b, rfl, h, rfl⟩

end Enrollment.Call
