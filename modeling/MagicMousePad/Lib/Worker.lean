import MagicMousePad.Lib.Runs

/-!
# Worker threads and their owners

An object that runs a thread and stops it in its destructor: it lowers a flag, closes what
the thread waits for, and joins the thread.  What the thread does when something outside
answers it is kept apart from what it does by itself, so that one can tell whether the
destructor depends on anything outside.
-/

namespace Worker

/-- How far the owner has come. -/
inductive Owner
  | active
  | stopping
  | closed
  | joined
  deriving DecidableEq

/-- A thread and its owner over the state that they share. -/
structure Protocol (σ : Type*) where
  /-- What the thread does by itself. -/
  work : σ → σ → Prop
  /-- What it does when something outside answers it. -/
  answer : σ → σ → Prop
  /-- What the owner does before its destructor. -/
  use : σ → σ → Prop
  /-- The owner may enter its destructor. -/
  Idle : σ → Prop
  /-- The owner lowers the flag. -/
  stop : σ → σ
  /-- It closes what the thread waits for. -/
  close : σ → σ
  /-- The thread can be joined. -/
  Finished : σ → Prop

variable {σ : Type*} {p : Protocol σ}

/-- A step that nothing outside is needed for. -/
inductive Move (p : Protocol σ) : Owner × σ → Owner × σ → Prop
  | work {owner : Owner} {s t : σ} : p.work s t → Move p (owner, s) (owner, t)
  | use {s t : σ} : p.use s t → Move p (.active, s) (.active, t)
  | stop {s : σ} : p.Idle s → Move p (.active, s) (.stopping, p.stop s)
  | close {s : σ} : Move p (.stopping, s) (.closed, p.close s)
  | join {s : σ} : p.Finished s → Move p (.closed, s) (.joined, s)

/-- A step of the thread or its owner. -/
inductive Step (p : Protocol σ) : Owner × σ → Owner × σ → Prop
  | move {c d : Owner × σ} : Move p c d → Step p c d
  | answer {owner : Owner} {s t : σ} : p.answer s t → Step p (owner, s) (owner, t)

/-- The states of thread and owner in any run. -/
def Reachable (p : Protocol σ) (initial : σ) (c : Owner × σ) : Prop :=
  Relation.ReflTransGen (Step p) (.active, initial) c

/-- Nothing happens unless something outside answers. -/
def Resting (p : Protocol σ) (c : Owner × σ) : Prop := ∀ d, ¬ Move p c d

/-- How many steps the owner has left. -/
def Owner.left : Owner → ℕ
  | .active => 3
  | .stopping => 2
  | .closed => 1
  | .joined => 0

/-- The owner does not leave its destructor. -/
theorem Step.stopped {c d : Owner × σ} (step : Step p c d) (stopped : c.1 ≠ .active) :
    d.1 ≠ .active := by
  cases step with
  | answer answered => exact stopped
  | move move =>
      cases move with
      | work worked => exact stopped
      | use used => exact absurd rfl stopped
      | stop idle => exact absurd rfl stopped
      | close => exact Owner.noConfusion
      | join finished => exact Owner.noConfusion

/-- Where an owner in its destructor rests, it has joined its thread, or it waits for a
thread that does not go on by itself. -/
theorem Resting.cases {c : Owner × σ} (resting : Resting p c) (stopped : c.1 ≠ .active) :
    c.1 = .joined ∨ (c.1 = .closed ∧ ¬ p.Finished c.2 ∧ ∀ t, ¬ p.work c.2 t) := by
  rcases c with ⟨owner, s⟩
  cases owner with
  | active => exact absurd rfl stopped
  | stopping => exact absurd .close (resting _)
  | closed =>
      exact Or.inr ⟨rfl, fun finished => resting _ (.join finished),
        fun t worked => resting _ (.work worked)⟩
  | joined => exact Or.inl rfl

section Measure

variable {P : Owner × σ → Prop} {rank : σ → ℕ} {c d : Owner × σ}

/-- Under an invariant, every step of the thread lowers a measure once the destructor has
begun, and closing does not raise it. -/
structure Descends (p : Protocol σ) (P : Owner × σ → Prop) (rank : σ → ℕ) : Prop where
  preserved : ∀ c d, P c → Step p c d → P d
  lowers : ∀ owner s t, P (owner, s) → owner ≠ .active → p.work s t ∨ p.answer s t →
    rank t < rank s
  closes : ∀ s, rank (p.close s) ≤ rank s

theorem Descends.stopped (descends : Descends p P rank) (c d : Owner × σ)
    (holds : P c ∧ c.1 ≠ .active) (step : Step p c d) : P d ∧ d.1 ≠ .active :=
  ⟨descends.preserved c d holds.1 step, step.stopped holds.2⟩

/-- Every run of the destructor ends. -/
theorem Descends.terminates (descends : Descends p P rank) (initial : P c)
    (stopped : c.1 ≠ .active) : Runs.Terminates (Step p) c := by
  refine Runs.terminates_of_measure (fun c => rank c.2 + c.1.left) descends.stopped ?_
    ⟨initial, stopped⟩
  intro c d holds step
  rcases holds with ⟨holds, stopped⟩
  cases step with
  | @answer owner s t answered =>
      have lower := descends.lowers owner s t holds stopped (Or.inr answered)
      exact Nat.add_lt_add_right lower _
  | move move =>
      cases move with
      | @work owner s t worked =>
          have lower := descends.lowers owner s t holds stopped (Or.inl worked)
          exact Nat.add_lt_add_right lower _
      | use used => exact absurd rfl stopped
      | stop idle => exact absurd rfl stopped
      | @close s =>
          have same := descends.closes s
          simp only [Owner.left]
          omega
      | join finished => exact Nat.lt_succ_self _

variable {α : Type*} {log : σ → List α} {level : ℕ}

/-- The thread logs something only on its way below a level of the measure. -/
structure Logs (p : Protocol σ) (rank : σ → ℕ) (log : σ → List α) (level : ℕ) : Prop where
  appends : ∀ s t, p.work s t ∨ p.answer s t →
    log t = log s ∨ (level < rank s ∧ rank t ≤ level ∧ ∃ entry, log t = log s ++ [entry])
  closes : ∀ s, log (p.close s) = log s

/-- Nothing has been logged yet, or one entry and the level has been passed. -/
def Logged (rank : σ → ℕ) (log : σ → List α) (level : ℕ) (before : List α) (s : σ) : Prop :=
  log s = before ∨ (rank s ≤ level ∧ ∃ entry, log s = before ++ [entry])

theorem Logs.logged {before : List α} {s t : σ} (logs : Logs p rank log level)
    (logged : Logged rank log level before s) (step : p.work s t ∨ p.answer s t)
    (lower : rank t < rank s) : Logged rank log level before t := by
  rcases logs.appends s t step with same | ⟨above, below, entry, appended⟩
  · unfold Logged
    rw [same]
    exact logged.imp_right fun last =>
      ⟨Nat.le_trans (Nat.le_of_lt lower) last.1, last.2⟩
  · rcases logged with none | ⟨last, -⟩
    · exact Or.inr ⟨below, entry, by rw [appended, none]⟩
    · omega

/-- Once the destructor has begun, the thread logs at most one entry. -/
theorem Descends.log_eq_or (descends : Descends p P rank) (logs : Logs p rank log level)
    (initial : P c) (stopped : c.1 ≠ .active) (run : Relation.ReflTransGen (Step p) c d) :
    log d.2 = log c.2 ∨ ∃ entry, log d.2 = log c.2 ++ [entry] := by
  have preserved : ∀ e f : Owner × σ,
      ((P e ∧ e.1 ≠ .active) ∧ Logged rank log level (log c.2) e.2) → Step p e f →
        ((P f ∧ f.1 ≠ .active) ∧ Logged rank log level (log c.2) f.2) := by
    intro e f holds step
    rcases holds with ⟨holds, logged⟩
    refine ⟨descends.stopped e f holds step, ?_⟩
    cases step with
    | @answer owner s t answered =>
        have step : p.work s t ∨ p.answer s t := Or.inr answered
        exact logs.logged logged step (descends.lowers owner s t holds.1 holds.2 step)
    | move move =>
        cases move with
        | @work owner s t worked =>
            have step : p.work s t ∨ p.answer s t := Or.inl worked
            exact logs.logged logged step (descends.lowers owner s t holds.1 holds.2 step)
        | use used => exact absurd rfl holds.2
        | stop idle => exact absurd rfl holds.2
        | @close s =>
            unfold Logged
            rw [logs.closes]
            exact logged.imp_right fun last =>
              ⟨Nat.le_trans (descends.closes s) last.1, last.2⟩
        | join finished => exact logged
  obtain ⟨-, none | ⟨-, entry⟩⟩ := Runs.invariant preserved ⟨⟨initial, stopped⟩, Or.inl rfl⟩ run
  · exact Or.inl none
  · exact Or.inr entry

end Measure

section Joined

variable {initial : σ} {c : Owner × σ}

/-- A thread that has been joined has finished. -/
theorem Reachable.finished (silent : ∀ s t, p.Finished s → ¬ p.work s t ∧ ¬ p.answer s t)
    (reachable : Reachable p initial c) (joined : c.1 = .joined) : p.Finished c.2 := by
  have preserved : ∀ c d : Owner × σ, (c.1 = .joined → p.Finished c.2) → Step p c d →
      d.1 = .joined → p.Finished d.2 := by
    intro c d holds step joined
    cases step with
    | answer answered => exact absurd answered (silent _ _ (holds joined)).2
    | move move =>
        cases move with
        | work worked => exact absurd worked (silent _ _ (holds joined)).1
        | use used => cases joined
        | stop idle => cases joined
        | close => cases joined
        | join finished => exact finished
  exact Runs.invariant preserved (fun joined => Owner.noConfusion joined) reachable joined

/-- Nothing happens any more once the thread has been joined. -/
theorem Reachable.ended (silent : ∀ s t, p.Finished s → ¬ p.work s t ∧ ¬ p.answer s t)
    (reachable : Reachable p initial c) (joined : c.1 = .joined) :
    Runs.Ended (Step p) c := by
  have finished := reachable.finished silent joined
  intro d step
  cases step with
  | answer answered => exact (silent _ _ finished).2 answered
  | move move =>
      cases move with
      | work worked => exact (silent _ _ finished).1 worked
      | use used => cases joined
      | stop idle => cases joined
      | close => cases joined
      | join finished => cases joined

end Joined

end Worker
