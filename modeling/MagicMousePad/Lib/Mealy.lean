import Mathlib.Data.List.Forall2
import Mathlib.Data.List.Induction

/-!
# Runs of deterministic machines with outputs

A machine is a step function `σ → ι → σ × ο`.  `run` feeds it a list of inputs
and keeps one output per input, `trail` pairs every input with the state it was
read in, and `Always` says that a predicate holds of every state of a run, the
first one included.

* `Always.of_step`, `run_invariant`: what one step preserves, a run preserves.
* `run_related`: two runs whose inputs are related step by step keep a relation
  between their states and between their outputs.
* `Since P Q`: some input satisfies `P` and no later one `Q`.
* `run_skip`: a run may be compared with the run that skips some of its inputs,
  as long as a skipped input emits nothing and keeps the relation.
-/

namespace Mealy

variable {σ τ ι κ ο π : Type*}

/-- Feed the inputs one after another, keeping one output per input. -/
def run (step : σ → ι → σ × ο) : σ → List ι → σ × List ο
  | s, [] => (s, [])
  | s, i :: inputs =>
      let next := step s i
      let rest := run step next.1 inputs
      (rest.1, next.2 :: rest.2)

/-- Every input, paired with the state in which the machine read it. -/
def trail (step : σ → ι → σ × ο) : σ → List ι → List (σ × ι)
  | _, [] => []
  | s, i :: inputs => (s, i) :: trail step (step s i).1 inputs

/-- `P` holds of every state of the run, the first one included. -/
def Always (step : σ → ι → σ × ο) (P : σ → Prop) : σ → List ι → Prop
  | s, [] => P s
  | s, i :: inputs => P s ∧ Always step P (step s i).1 inputs

section Runs

variable {step : σ → ι → σ × ο} {P : σ → Prop} {s : σ} {i : ι} {inputs rest : List ι}

@[simp] theorem run_nil : run step s [] = (s, []) := rfl

@[simp] theorem run_cons :
    run step s (i :: inputs) =
      ((run step (step s i).1 inputs).1, (step s i).2 :: (run step (step s i).1 inputs).2) := rfl

@[simp] theorem trail_nil : trail step s [] = [] := rfl

@[simp] theorem trail_cons :
    trail step s (i :: inputs) = (s, i) :: trail step (step s i).1 inputs := rfl

theorem run_append :
    run step s (inputs ++ rest) =
      ((run step (run step s inputs).1 rest).1,
        (run step s inputs).2 ++ (run step (run step s inputs).1 rest).2) := by
  induction inputs generalizing s with
  | nil => rfl
  | cons i inputs ih => simp [ih]

theorem run_concat :
    run step s (inputs ++ [i]) =
      ((step (run step s inputs).1 i).1,
        (run step s inputs).2 ++ [(step (run step s inputs).1 i).2]) := by
  rw [run_append, run_cons, run_nil]

theorem Always.head (always : Always step P s inputs) : P s := by
  cases inputs with
  | nil => exact always
  | cons i inputs => exact always.1

/-- What one step preserves holds along every run. -/
theorem Always.of_step (preserved : ∀ s i, P s → P (step s i).1) (initial : P s) :
    Always step P s inputs := by
  induction inputs generalizing s with
  | nil => exact initial
  | cons i inputs ih => exact ⟨initial, ih (preserved s i initial)⟩

/-- What one step preserves holds at the end of every run. -/
theorem run_invariant (preserved : ∀ s i, P s → P (step s i).1) (initial : P s) :
    P (run step s inputs).1 := by
  induction inputs generalizing s with
  | nil => exact initial
  | cons i inputs ih => exact ih (preserved s i initial)

/-- Every state of the trail satisfies what one step preserves. -/
theorem trail_invariant (preserved : ∀ s i, P s → P (step s i).1) (initial : P s) :
    ∀ t ∈ trail step s inputs, P t.1 := by
  induction inputs generalizing s with
  | nil => simp
  | cons i inputs ih =>
      intro t member
      rcases List.mem_cons.mp member with rfl | later
      · exact initial
      · exact ih (preserved s i initial) t later

/-- An input on the trail splits the run at the state it was read in. -/
theorem mem_trail_iff {t : σ × ι} :
    t ∈ trail step s inputs ↔
      ∃ earlier later, inputs = earlier ++ t.2 :: later ∧ t.1 = (run step s earlier).1 := by
  induction inputs generalizing s with
  | nil => simp
  | cons i inputs ih =>
      rw [trail_cons, List.mem_cons, ih]
      constructor
      · intro here
        rcases here with rfl | ⟨earlier, later, rfl, state⟩
        · exact ⟨[], inputs, rfl, rfl⟩
        · exact ⟨i :: earlier, later, rfl, state⟩
      · intro splits
        rcases splits with ⟨earlier, later, split, state⟩
        cases earlier with
        | nil =>
            injection split with head tail
            exact Or.inl (Prod.ext state head.symm)
        | cons j earlier =>
            injection split with head tail
            subst head
            exact Or.inr ⟨earlier, later, tail, state⟩

/-- What holds of every input and the state it is read in holds at every position of
the inputs, of the state that the inputs before it lead to. -/
theorem forall_trail_iff {R : σ → ι → Prop} :
    (∀ t ∈ trail step s inputs, R t.1 t.2) ↔
      ∀ earlier i later, inputs = earlier ++ i :: later → R (run step s earlier).1 i := by
  constructor
  · intro holds earlier i later split
    exact holds (_, i) (mem_trail_iff.mpr ⟨earlier, later, split, rfl⟩)
  · intro holds t member
    obtain ⟨earlier, later, split, reached⟩ := mem_trail_iff.mp member
    rw [reached]
    exact holds earlier t.2 later split

end Runs

/-- What holds at every moment of a list of inputs holds at each of its
positions. -/
theorem forall_split_iff {inputs : List ι} {P : List ι → ι → Prop} :
    (∀ earlier i later, inputs = earlier ++ i :: later → P earlier i) ↔
      ∀ k : Fin inputs.length, P (inputs.take k) inputs[k] := by
  constructor
  · intro holds k
    exact holds _ _ (inputs.drop (k + 1)) (by simp)
  · intro holds earlier i later split
    subst split
    have here := holds ⟨earlier.length, by simp⟩
    simpa using here

/-- A list with one input added splits at that input or before it. -/
theorem concat_eq_split_iff {inputs earlier later : List ι} {i j : ι} :
    inputs ++ [j] = earlier ++ i :: later ↔
      (inputs = earlier ∧ j = i ∧ later = []) ∨
        ∃ front, inputs = earlier ++ i :: front ∧ later = front ++ [j] := by
  constructor
  · intro split
    rcases List.eq_nil_or_concat later with rfl | ⟨front, last, rfl⟩
    · obtain ⟨rfl, same⟩ := List.append_inj' split rfl
      cases same
      exact Or.inl ⟨rfl, rfl, rfl⟩
    · rw [List.concat_eq_append] at split ⊢
      have within : inputs ++ [j] = (earlier ++ i :: front) ++ [last] := by simpa using split
      obtain ⟨rfl, same⟩ := List.append_inj' within rfl
      cases same
      exact Or.inr ⟨front, rfl, rfl⟩
  · intro either
    rcases either with ⟨rfl, rfl, rfl⟩ | ⟨front, rfl, rfl⟩
    · rfl
    · simp

/-- What holds at the beginning, and survives an input exactly on a condition, holds
at every moment exactly when the condition is met at every position. -/
theorem forall_prefix_iff {inputs : List ι} {P : List ι → Prop} {C : List ι → ι → Prop}
    (initial : P [])
    (step : ∀ earlier i later, inputs = earlier ++ i :: later → P earlier →
      (P (earlier ++ [i]) ↔ C earlier i)) :
    (∀ earlier, earlier <+: inputs → P earlier) ↔
      ∀ earlier i later, inputs = earlier ++ i :: later → C earlier i := by
  constructor
  · intro holds earlier i later split
    have before := holds earlier ⟨_, split.symm⟩
    exact (step earlier i later split before).mp (holds _ ⟨later, by simp [split]⟩)
  · intro met earlier
    induction earlier using List.reverseRecOn with
    | nil => exact fun _ => initial
    | append_singleton earlier i ih =>
        intro within
        rcases within with ⟨later, split⟩
        have here : inputs = earlier ++ i :: later := by simp [← split]
        exact (step earlier i later here (ih ⟨_, here.symm⟩)).mpr (met earlier i later here)

/-- Some input satisfies `P`, and none after it satisfies `Q`. -/
def Since (P Q : ι → Prop) (inputs : List ι) : Prop :=
  ∃ earlier i later, inputs = earlier ++ i :: later ∧ P i ∧ ∀ j ∈ later, ¬ Q j

section Since

variable {P Q : ι → Prop} {inputs : List ι} {i : ι}

theorem not_since_nil : ¬ Since P Q [] := by
  intro since
  rcases since with ⟨earlier, i, later, split, -⟩
  cases earlier <;> cases split

theorem since_concat : Since P Q (inputs ++ [i]) ↔ P i ∨ Since P Q inputs ∧ ¬ Q i := by
  constructor
  · intro since
    rcases since with ⟨earlier, j, later, split, holds, spared⟩
    rcases concat_eq_split_iff.mp split with ⟨rfl, rfl, rfl⟩ | ⟨front, rfl, rfl⟩
    · exact Or.inl holds
    · rw [List.forall_mem_append] at spared
      exact Or.inr ⟨⟨earlier, j, front, rfl, holds, spared.1⟩, spared.2 i List.mem_cons_self⟩
  · intro either
    rcases either with holds | ⟨⟨earlier, j, later, rfl, holds, spared⟩, spares⟩
    · exact ⟨inputs, i, [], rfl, holds, by simp⟩
    · refine ⟨earlier, j, later ++ [i], by simp, holds, ?_⟩
      rw [List.forall_mem_append, List.forall_mem_singleton]
      exact ⟨spared, spares⟩

end Since

/-! ## Two runs -/

/-- Runs over related inputs keep related states and related outputs. -/
theorem run_related (step : σ → ι → σ × ο) (step' : τ → κ → τ × π)
    {R : σ → τ → Prop} {I : ι → κ → Prop} {O : ο → π → Prop}
    (simulates : ∀ s t i j, R s t → I i j →
      R (step s i).1 (step' t j).1 ∧ O (step s i).2 (step' t j).2)
    {s : σ} {t : τ} {inputs : List ι} {inputs' : List κ}
    (initial : R s t) (related : List.Forall₂ I inputs inputs') :
    R (run step s inputs).1 (run step' t inputs').1 ∧
      List.Forall₂ O (run step s inputs).2 (run step' t inputs').2 := by
  induction related generalizing s t with
  | nil => exact ⟨initial, .nil⟩
  | cons head _ ih =>
      obtain ⟨next, output⟩ := simulates _ _ _ _ initial head
      obtain ⟨final, outputs⟩ := ih next
      exact ⟨final, .cons output outputs⟩

/-- A run agrees with the run over the kept inputs alone when every skipped
input is mute (`M`) where it is read, so that it emits nothing and keeps the
relation. -/
theorem run_skip (step : σ → ι → σ × List ο) {R : σ → σ → Prop} {M : σ → ι → Prop}
    (keep : ι → Bool)
    (kept : ∀ s t i, keep i = true → R s t →
      R (step s i).1 (step t i).1 ∧ (step s i).2 = (step t i).2)
    (skipped : ∀ s t i, keep i = false → M s i → R s t →
      R (step s i).1 t ∧ (step s i).2 = [])
    {s t : σ} {inputs : List ι} (initial : R s t)
    (mute : ∀ m ∈ trail step s inputs, keep m.2 = false → M m.1 m.2) :
    R (run step s inputs).1 (run step t (inputs.filter keep)).1 ∧
      (run step s inputs).2.flatten = (run step t (inputs.filter keep)).2.flatten := by
  induction inputs generalizing s t with
  | nil => exact ⟨initial, rfl⟩
  | cons i inputs ih =>
      have later : ∀ m ∈ trail step (step s i).1 inputs, keep m.2 = false → M m.1 m.2 :=
        fun m member => mute m (List.mem_cons_of_mem _ member)
      cases kind : keep i with
      | true =>
          obtain ⟨next, output⟩ := kept s t i kind initial
          obtain ⟨final, outputs⟩ := ih next later
          rw [List.filter_cons_of_pos kind]
          exact ⟨final, by simp [output, outputs]⟩
      | false =>
          obtain ⟨next, silent⟩ :=
            skipped s t i kind (mute (s, i) List.mem_cons_self kind) initial
          obtain ⟨final, outputs⟩ := ih next later
          rw [List.filter_cons_of_neg (by simp [kind])]
          exact ⟨final, by simp [silent, outputs]⟩

end Mealy
