import Mathlib.Tactic.Common

/-!
# Calls one after the other

Calls on something with a state, which they change whether they fail or not. A run of them is listed
as `exchanges`, each with the state before and after it, so that what one call does can be said of
every call of a run, whatever the others came to.
-/

namespace TypedFormat

/-- A call, what it came to, and the state before and after it. -/
structure Exchange (κ ε σ α : Type) where
  call : κ
  before : σ
  result : Except ε α
  after : σ

variable {κ ε σ α : Type} (perform : κ → EStateM ε σ α)

/-- One call. -/
def exchange (call : κ) (s : σ) : Exchange κ ε σ α :=
  match perform call s with
  | .ok a after    => ⟨call, s, .ok a, after⟩
  | .error e after => ⟨call, s, .error e, after⟩

/-- Calls one after the other, also after one that failed. -/
def exchanges : List κ → σ → List (Exchange κ ε σ α)
  | [],            _ => []
  | call :: calls, s => exchange perform call s :: exchanges calls (exchange perform call s).after

/-- The state that calls leave. -/
def stateAfter (calls : List κ) (s : σ) : σ :=
  calls.foldl (fun s call => (exchange perform call s).after) s

variable {perform}

lemma exchange_of_ok {call : κ} {s s' : σ} {a : α} (h : perform call s = .ok a s') :
    exchange perform call s = ⟨call, s, .ok a, s'⟩ := by
  rw [exchange, h]

lemma exchange_of_error {call : κ} {s s' : σ} {e : ε} (h : perform call s = .error e s') :
    exchange perform call s = ⟨call, s, .error e, s'⟩ := by
  rw [exchange, h]

@[simp] lemma call_exchange (call : κ) (s : σ) : (exchange perform call s).call = call := by
  unfold exchange
  split <;> rfl

@[simp] lemma before_exchange (call : κ) (s : σ) : (exchange perform call s).before = s := by
  unfold exchange
  split <;> rfl

lemma map_call_exchanges (calls : List κ) (s : σ) :
    (exchanges perform calls s).map Exchange.call = calls := by
  induction calls generalizing s with
  | nil => rfl
  | cons call calls ih => rw [exchanges, List.map_cons, call_exchange, ih]

/-- What holds of one call in any state holds of every call of a run. -/
lemma forall_mem_exchanges {P : Exchange κ ε σ α → Prop}
    (h : ∀ call s, P (exchange perform call s)) (calls : List κ) (s : σ) :
    ∀ x ∈ exchanges perform calls s, P x := by
  induction calls generalizing s with
  | nil =>
    intro x hx
    cases hx
  | cons call calls ih =>
    intro x hx
    rcases List.mem_cons.mp hx with rfl | hx
    · exact h call s
    · exact ih _ x hx

end TypedFormat
