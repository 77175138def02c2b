import Enrollment.Proofs.Mirror
import Mathlib.Order.BooleanAlgebra.Set

/-!
Calls that keep to some places of a state: what they reply is known from there, and they change
nothing elsewhere.  Two calls that keep to places apart from each other may be made in any order.
-/
namespace Enrollment.Call

variable {σ π ε ε' β γ : Type} {Held : π → Type} {read : σ → (place : π) → Held place}
  {places : Set π} {s t : σ}

def SameAt (read : σ → (place : π) → Held place) (places : Set π) (s t : σ) : Prop :=
  ∀ place ∈ places, read s place = read t place

theorem SameAt.refl (s : σ) : SameAt read places s s := fun _ _ => rfl

theorem SameAt.trans {u : σ} (h : SameAt read places s t) (h' : SameAt read places t u) :
    SameAt read places s u :=
  fun place hplace => (h place hplace).trans (h' place hplace)

theorem SameAt.mono {fewer : Set π} (h : SameAt read places s t) (hfewer : fewer ⊆ places) :
    SameAt read fewer s t :=
  fun place hplace => h place (hfewer hplace)

/-- Made on any state that has the same as `s` at some places, a call replies alike, and leaves what
is at other places as it was. -/
def Local (read : σ → (place : π) → Held place) (places : Set π) (call : Call σ ε β) (s : σ) :
    Prop :=
  ∀ t, SameAt read places s t →
    Alike (SameAt read places) (call s) (call t) ∧ SameAt read placesᶜ t (call t).state

namespace Local

theorem pure (b : β) : Local read places (Pure.pure b : Call σ ε β) s :=
  fun t h => ⟨⟨rfl, h, rfl⟩, SameAt.refl t⟩

theorem refuse (e : ε) : Local read places (Call.refuse e : Call σ ε β) s :=
  fun t h => ⟨⟨rfl, h, rfl⟩, SameAt.refl t⟩

theorem panic (e : ε) : Local read places (Call.panic e : Call σ ε β) s :=
  fun t h => ⟨⟨rfl, h, rfl⟩, SameAt.refl t⟩

theorem log (level : LogLevel) (message : String) (fields : List (String × LogValue)) :
    Local read places (Call.log level message fields : Call σ ε Unit) s :=
  fun t h => ⟨⟨rfl, h, rfl⟩, SameAt.refl t⟩

variable {call : Call σ ε β}

/-- The call that is made next is made on the state that the first one left. -/
theorem bind {next : β → Call σ ε γ} (h : Local read places call s)
    (hnext : ∀ b, (call s).result = .ok b → Local read places (next b) (call s).state) :
    Local read places (call >>= next) s := by
  intro t hst
  obtain ⟨⟨hresult, hstate, hheard⟩, hrest⟩ := h t hst
  rw [bind_apply, bind_apply, ← hresult]
  cases hcall : (call s).result with
  | error e => exact ⟨⟨rfl, hstate, hheard⟩, hrest⟩
  | ok b =>
    obtain ⟨⟨hresult', hstate', hheard'⟩, hrest'⟩ := hnext b hcall _ hstate
    refine ⟨⟨hresult', hstate', ?_⟩, hrest.trans hrest'⟩
    rw [Notice.heard_append, Notice.heard_append, hheard, hheard']

theorem map (h : Local read places call s) (f : β → γ) :
    Local read places (do return f (← call)) s :=
  h.bind fun b _ => pure (f b)

/-- A checked value, and what is done with it if it passes. -/
theorem ofExcept_bind {check : Except ε β} {next : β → Call σ ε γ}
    (hnext : ∀ b, check = .ok b → Local read places (next b) s) :
    Local read places (Call.ofExcept check >>= next) s := by
  cases check with
  | ok b => exact hnext b rfl
  | error e => exact refuse e

theorem ite {P : Prop} [Decidable P] {other : Call σ ε β} (h : Local read places call s)
    (hother : Local read places other s) :
    Local read places (if P then call else other) s := by
  by_cases hP : P
  · rwa [if_pos hP]
  · rwa [if_neg hP]

/-- What is read of the state is at the places, too. -/
theorem current_bind {next : σ → Call σ ε β} (h : Local read places (next s) s)
    (hnext : ∀ t, SameAt read places s t → next t = next s) :
    Local read places (current >>= next) s := by
  intro t hst
  rw [Call.current_bind, Call.current_bind, hnext t hst]
  exact h t hst

theorem mapError (h : Local read places call s) (f : ε → ε') :
    Local read places (Call.mapError f call) s := by
  intro t hst
  obtain ⟨⟨hresult, hstate, hheard⟩, hrest⟩ := h t hst
  exact ⟨⟨congrArg (Except.mapError f) hresult, hstate, hheard⟩, hrest⟩

end Local

end Enrollment.Call
