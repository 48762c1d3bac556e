import MagicMousePad.Interleaving
import Mathlib.Data.List.Chain

/-!
# Deadlock between registration and broadcasting

The server thread calls `SendMessage` under the lock, and the thread that owns
the window takes the same lock in the middle of a handler, where it does not
process messages.  If the two meet, neither can go on.  They meet when a handler
takes its sequence number during the call, or when the registration takes the
lock after a handler has taken its number.
-/

namespace MagicMousePad

namespace Process

/-! ## Waiting -/

/-- The server thread is in `SendMessage` for a window of the window thread. -/
def AwaitsWindow (p : Process) : Prop := p.serve = .notifying ∧ p.server.window ≠ nullptr

/-- The window thread waits for the lock, which the server thread holds. -/
def AwaitsLock (p : Process) : Prop := p.owner = some .server ∧ ∃ msg, p.window = .numbered msg

/-- Each thread waits for the other. -/
def Deadlocked (p : Process) : Prop := p.AwaitsWindow ∧ p.AwaitsLock

/-- A send takes its number while the server thread is in `SendMessage`, or the
server thread registers a client while a send has begun. -/
def Crosses (p q : Process) : Prop :=
  (p.serve = .notifying ∧ p.window = .idle ∧ q.window ≠ .idle) ∨
    (p.serve ≠ .notifying ∧ q.serve = .notifying ∧ p.window ≠ .idle)

variable {p q : Process}

theorem Step.window_eq (step : p.Step q) : q.server.window = p.server.window := by
  cases step <;> rfl

/-- No step leads out of a deadlock. -/
theorem Deadlocked.stuck (deadlocked : p.Deadlocked) : ¬ p.Step q := by
  rcases deadlocked with ⟨⟨notifying, nonnull⟩, owned, msg, numbered⟩
  intro step
  cases step with
  | number msg idle => simp [numbered] at idle
  | lock _ free => simp [owned] at free
  | sent sending _ => simp [numbered] at sending
  | failed sending _ => simp [numbered] at sending
  | unlock sending _ => simp [numbered] at sending
  | announce polling => simp [notifying] at polling
  | connect peer now polling => simp [notifying] at polling
  | register connecting _ => simp [notifying] at connecting
  | notified _ returned =>
      rcases returned with null | idle
      · exact nonnull null
      · simp [numbered] at idle

/-- With a window, a step ends in a deadlock exactly when the threads cross in
it. -/
theorem Inv.deadlocked_iff (inv : p.Inv) (nonnull : p.server.window ≠ nullptr)
    (step : p.Step q) : q.Deadlocked ↔ p.Crosses q := by
  have same := step.window_eq
  unfold Deadlocked AwaitsWindow AwaitsLock Crosses at *
  cases step with
  | number msg idle =>
      have kept : p.server.takeNumber.1.window ≠ nullptr := nonnull
      simp [inv.serverLock, idle, kept]
  | lock numbered unowned =>
      have polling := inv.not_notifying (by simp [unowned])
      simp [polling, numbered]
  | sent sending _ => simp [sending]
  | failed sending _ => simp [sending]
  | unlock sending _ => simp [sending]
  | announce polling => simp [polling]
  | connect peer now polling => simp [polling]
  | register connecting unowned =>
      have quiet : ¬ p.window.Sending := inv.not_sending (by simp [unowned])
      cases window : p.window with
      | idle => simp [connecting]
      | numbered msg => simp [connecting, Server.register, nonnull]
      | sending msg snapshot it attempts =>
          rw [window] at quiet
          exact (quiet trivial).elim
  | notified notifying returned => simp [notifying]

/-! ## Runs -/

/-- From a state that is not deadlocked, a run meets no deadlock exactly when the
threads do not cross in any of its steps. -/
theorem Inv.apart_iff (inv : p.Inv) (nonnull : p.server.window ≠ nullptr)
    (free : ¬ p.Deadlocked) {states : List Process} (run : (p :: states).IsChain Process.Step) :
    (∀ q ∈ p :: states, ¬ q.Deadlocked) ↔ (p :: states).IsChain fun q q' => ¬ q.Crosses q' := by
  induction states generalizing p with
  | nil => simpa using free
  | cons q states ih =>
      obtain ⟨step, rest⟩ := List.isChain_cons_cons.mp run
      have here := inv.deadlocked_iff nonnull step
      rw [List.isChain_cons_cons, List.forall_mem_cons]
      constructor
      · intro all
        have next : ¬ q.Deadlocked := all.2 q List.mem_cons_self
        have kept : q.server.window ≠ nullptr := by rw [step.window_eq]; exact nonnull
        exact ⟨fun crosses => next (here.mpr crosses), (ih (inv.step step) kept next rest).mp all.2⟩
      · intro apart
        have next : ¬ q.Deadlocked := fun deadlocked => apart.1 (here.mp deadlocked)
        have kept : q.server.window ≠ nullptr := by rw [step.window_eq]; exact nonnull
        exact ⟨free, (ih (inv.step step) kept next rest).mpr apart.2⟩

/-- A server with a window: in a run of its two threads they never wait for each
other if and only if, in every step, no send takes its number while the server
thread is in `SendMessage`, and no registration takes the lock while a send has
begun. -/
theorem deadlockFree_iff {window : Pointer} (nonnull : window ≠ nullptr) {states : List Process}
    (run : (Process.start window :: states).IsChain Process.Step) :
    (∀ p ∈ Process.start window :: states, ¬ p.Deadlocked) ↔
      (Process.start window :: states).IsChain fun p q => ¬ p.Crosses q := by
  refine (Inv.start window).apart_iff nonnull (fun deadlocked => ?_) run
  cases deadlocked.1.1

/-- A client connects, and then a message is sent. -/
theorem deadlockFree_of_turns :
    let idle := Process.start 1
    let connecting := { idle with serve := .connecting (.ofHost 1) 7 }
    let notifying :=
      { connecting with
        server := idle.server.register (.ofHost 1) 7
        owner := some .server
        serve := .notifying
        log := [.registered (Client.new (.ofHost 1) 7)] }
    let registered := { notifying with owner := none, serve := .polling }
    let numbered :=
      { registered with
        server := registered.server.takeNumber.1
        window := .numbered ((MouseMsg.mouseMove {}).withSequenceNumber (htonl 0)) }
    ∀ p ∈ [idle, connecting, notifying, registered, numbered], ¬ p.Deadlocked := by
  intro idle connecting notifying registered numbered
  have nonnull : (1 : Pointer) ≠ nullptr := by decide
  refine (deadlockFree_iff nonnull ?_).mpr ?_
  · exact .cons_cons (.connect _ _ rfl) (.cons_cons (.register rfl rfl)
      (.cons_cons (.notified rfl (.inr rfl)) (.cons_cons (.number (.mouseMove {}) rfl)
        (.singleton _))))
  · refine .cons_cons ?_ (.cons_cons ?_ (.cons_cons ?_ (.cons_cons ?_ (.singleton _))))
    all_goals simp [Crosses, idle, connecting, notifying, registered, numbered, Process.start]

/-- A client connects, and a handler sends while the server thread is in
`SendMessage`. -/
theorem deadlocked_of_send_during_notification :
    ∃ p : Process, p.Reachable 1 ∧ p.Deadlocked := by
  refine ⟨_, Relation.ReflTransGen.refl
    |>.tail (.connect (.ofHost 1) 7 rfl) |>.tail (.register rfl rfl)
    |>.tail (.number (.mouseMove {}) rfl), ⟨rfl, ?_⟩, rfl, _, rfl⟩
  decide

end Process

end MagicMousePad
