import MagicMousePad.Lib.Mealy
import MagicMousePad.Lib.Runs

/-!
# Machines that follow a step relation

If every step of a relation can be followed by a machine with zero or more inputs,
so can every run, and the machine has then emitted what the run has.
-/

namespace Simulation

variable {σ τ ι ο : Type*} {step : σ → σ → Prop} {machine : τ → ι → τ × List ο}
  {R : σ → τ → List ο → Prop} {s s' : σ} {t : τ}

/-- The machine follows a step of the relation: with some inputs it gets from every
state related before the step to one related after it. -/
def Follows (step : σ → σ → Prop) (machine : τ → ι → τ × List ο) (R : σ → τ → List ο → Prop) :
    Prop :=
  ∀ s s' t emitted, R s t emitted → step s s' →
    ∃ inputs, R s' (Mealy.run machine t inputs).1
      (emitted ++ (Mealy.run machine t inputs).2.flatten)

/-- A machine that follows every step follows every run, from any point on with what
has been emitted up to there. -/
theorem Follows.run (follows : Follows step machine R) {emitted : List ο}
    (initial : R s t emitted) (reached : Relation.ReflTransGen step s s') :
    ∃ inputs, R s' (Mealy.run machine t inputs).1
      (emitted ++ (Mealy.run machine t inputs).2.flatten) := by
  induction reached with
  | refl => exact ⟨[], by simpa using initial⟩
  | tail _ last ih =>
      obtain ⟨inputs, related⟩ := ih
      obtain ⟨more, next⟩ := follows _ _ _ _ related last
      refine ⟨inputs ++ more, ?_⟩
      rw [Mealy.run_append, List.flatten_append, ← List.append_assoc]
      exact next

end Simulation
