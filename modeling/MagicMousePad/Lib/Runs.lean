import Mathlib.Data.Nat.Notation
import Mathlib.Logic.Relation

/-!
# Runs of a step relation

Invariants along runs, the states in which a run ends, and termination by a measure
that need only decrease while an invariant holds.
-/

namespace Runs

variable {σ : Type*} {step : σ → σ → Prop} {P : σ → Prop} {s s' : σ}

/-- No step is possible. -/
def Ended (step : σ → σ → Prop) (s : σ) : Prop := ∀ s', ¬ step s s'

/-- Every run from the state ends. -/
def Terminates (step : σ → σ → Prop) (s : σ) : Prop := Acc (fun s' s => step s s') s

/-- What every step preserves holds along a run. -/
theorem invariant (preserved : ∀ s s', P s → step s s' → P s') (initial : P s)
    (run : Relation.ReflTransGen step s s') : P s' := by
  induction run with
  | refl => exact initial
  | tail _ last ih => exact preserved _ _ ih last

/-- Nothing happens after the end. -/
theorem eq_of_ended (ended : Ended step s) (run : Relation.ReflTransGen step s s') : s' = s := by
  rcases run.cases_head with same | ⟨next, first, -⟩
  · exact same.symm
  · exact (ended next first).elim

/-- Runs end when every step decreases a measure, as long as an invariant holds. -/
theorem terminates_of_measure (measure : σ → ℕ)
    (preserved : ∀ s s', P s → step s s' → P s')
    (decreases : ∀ s s', P s → step s s' → measure s' < measure s) (initial : P s) :
    Terminates step s := by
  obtain ⟨n, bound⟩ : ∃ n, measure s < n := ⟨_, Nat.lt_succ_self _⟩
  induction n generalizing s with
  | zero => exact absurd bound (Nat.not_lt_zero _)
  | succ n ih =>
      refine Acc.intro s fun s' next => ih (preserved s s' initial next) ?_
      have lower := decreases s s' initial next
      omega

end Runs
