import MagicMousePad.Reception
import MagicMousePad.Lib.Worker

/-!
# Disconnecting

`mmp_disconnect` deletes the client, and the destructor of `mmp_client` joins the receiver
thread.  The thread may hold a datagram already when the flag goes down, so it may make one
more callback, and the destructor waits for that to return; but none is made once
`mmp_disconnect` has returned.
-/

namespace MagicMousePad

open ByteOrder Worker

/-! ## The receiver thread -/

/-- Where the receiver thread is. -/
inductive ReceivePhase
  | startingUp
  | testing
  | receiving
  | calling
  | finished
  deriving DecidableEq

/-- The client with its socket and its buffer, and the callbacks made so far. -/
structure ReceiveThread where
  client : MmpClient
  socketOpen : Bool
  phase : ReceivePhase
  buffer : Memory
  calls : List Call

namespace ReceiveThread

/-- The thread as `start` launches it. -/
def launch (client : MmpClient) : ReceiveThread where
  client := (client.start none).1
  socketOpen := true
  phase := .startingUp
  buffer := fun _ => 0
  calls := []

/-- What the loop does with what `receive_from` has received. -/
def take (s : ReceiveThread) : RecvOutcome → ReceiveThread
  | .failed => { s with phase := .finished }
  | .received data screen =>
      let s := { s with buffer := s.buffer.overwrite data.bytes }
      if data.bytes.length < sizeofMmpMsgId then { s with phase := .testing }
      else
        match mouseMsgOf s.buffer with
        | none => { s with phase := .testing }
        | some msg =>
            let handled := s.client.handle screen msg
            match handled.2.call with
            | none => { s with client := handled.1, phase := .testing }
            | some call =>
                { s with client := handled.1, phase := .calling, calls := s.calls ++ [call] }

/-- What the receiver thread does by itself. -/
inductive Work : ReceiveThread → ReceiveThread → Prop
  /-- `WSAStartup`. -/
  | startUp {s : ReceiveThread} (succeeds : Bool) :
    s.phase = .startingUp → Work s { s with phase := if succeeds then .testing else .finished }
  /-- The condition of the loop. -/
  | test {s : ReceiveThread} :
    s.phase = .testing →
    Work s { s with phase := if s.client.running then .receiving else .finished }
  /-- `recvfrom` on a closed socket. -/
  | receive {s : ReceiveThread} :
    s.phase = .receiving → s.socketOpen = false → Work s (s.take .failed)

/-- What it does when a datagram arrives, and when a callback returns. -/
inductive Answer : ReceiveThread → ReceiveThread → Prop
  | receive {s : ReceiveThread} (outcome : RecvOutcome) :
    s.phase = .receiving → s.socketOpen = true → Answer s (s.take outcome)
  | returned {s : ReceiveThread} :
    s.phase = .calling → Answer s { s with phase := .testing }

/-- The receiver thread, and `mmp_client::~mmp_client` as its owner, called from another
thread than that of the callbacks. -/
def protocol : Protocol ReceiveThread where
  work := Work
  answer := Answer
  use _ _ := False
  Idle _ := True
  stop s := { s with client.running := false }
  close s := { s with socketOpen := false }
  Finished s := s.phase = .finished

variable {client : MmpClient} {owner : Owner} {s t : ReceiveThread}
  {c d e : Owner × ReceiveThread}

/-! ## What a step changes -/

/-- What has been received is handled without a callback, or one begins. -/
theorem take_cases (s : ReceiveThread) (outcome : RecvOutcome) :
    (s.take outcome).client.running = s.client.running ∧
      (s.take outcome).socketOpen = s.socketOpen ∧
      ((((s.take outcome).phase = .finished ∨ (s.take outcome).phase = .testing) ∧
          (s.take outcome).calls = s.calls) ∨
        ((s.take outcome).phase = .calling ∧
          ∃ call, (s.take outcome).calls = s.calls ++ [call])) := by
  cases outcome with
  | failed => exact ⟨rfl, rfl, Or.inl ⟨Or.inl rfl, rfl⟩⟩
  | received data screen =>
      unfold take
      dsimp only
      split
      · exact ⟨rfl, rfl, Or.inl ⟨Or.inr rfl, rfl⟩⟩
      · cases mouseMsgOf (s.buffer.overwrite data.bytes) with
        | none => exact ⟨rfl, rfl, Or.inl ⟨Or.inr rfl, rfl⟩⟩
        | some msg =>
            have running : (s.client.handle screen msg).1.running = s.client.running :=
              s.client.running_step ⟨msg, screen⟩
            dsimp only
            cases (s.client.handle screen msg).2.call with
            | none => exact ⟨running, rfl, Or.inl ⟨Or.inr rfl, rfl⟩⟩
            | some call => exact ⟨running, rfl, Or.inr ⟨rfl, call, rfl⟩⟩

/-- A thread that is in a callback or has finished does nothing by itself. -/
theorem Work.phase_ne (worked : Work s t) : s.phase ≠ .calling ∧ s.phase ≠ .finished := by
  cases worked with
  | startUp succeeds starting => simp [starting]
  | test testing => simp [testing]
  | receive receiving shut => simp [receiving]

theorem silent (s t : ReceiveThread) (finished : protocol.Finished s) :
    ¬ protocol.work s t ∧ ¬ protocol.answer s t := by
  have done : s.phase = .finished := finished
  refine ⟨fun worked => worked.phase_ne.2 done, fun answered => ?_⟩
  cases answered with
  | receive outcome receiving isOpen => cases done.symm.trans receiving
  | returned calling => cases done.symm.trans calling

/-! ## The invariant -/

/-- The flag is up until the destructor begins, and the socket stays closed after it has
been closed. -/
structure Inv (c : Owner × ReceiveThread) : Prop where
  flag : c.2.client.running = true ↔ c.1 = .active
  shut : c.1 ≠ .active → c.1 ≠ .stopping → c.2.socketOpen = false

theorem Inv.launch (idle : client.running = false) : Inv (.active, launch client) := by
  obtain ⟨address, started⟩ := MmpClient.start_none idle
  refine ⟨iff_of_true ?_ rfl, fun active => absurd rfl active⟩
  simp [ReceiveThread.launch, started]

theorem Inv.thread (inv : Inv (owner, s)) (step : Work s t ∨ Answer s t) : Inv (owner, t) := by
  have took : ∀ outcome, Inv (owner, s.take outcome) := by
    intro outcome
    obtain ⟨running, socket, -⟩ := s.take_cases outcome
    refine ⟨?_, ?_⟩
    · rw [running]
      exact inv.flag
    · rw [socket]
      exact inv.shut
  rcases step with worked | answered
  · cases worked with
    | startUp succeeds starting => exact ⟨inv.flag, inv.shut⟩
    | test testing => exact ⟨inv.flag, inv.shut⟩
    | receive receiving shut => exact took .failed
  · cases answered with
    | receive outcome receiving isOpen => exact took outcome
    | returned calling => exact ⟨inv.flag, inv.shut⟩

theorem Inv.step (inv : Inv c) (step : Step protocol c d) : Inv d := by
  cases step with
  | answer answered => exact inv.thread (Or.inr answered)
  | move move =>
      cases move with
      | work worked => exact inv.thread (Or.inl worked)
      | use used => exact used.elim
      | stop idle =>
          exact ⟨iff_of_false (by simp [protocol]) (by simp), fun _ other => absurd rfl other⟩
      | close =>
          exact ⟨iff_of_false (fun up => Owner.noConfusion (inv.flag.mp up)) (by simp),
            fun _ _ => rfl⟩
      | join finished =>
          exact ⟨iff_of_false (fun up => Owner.noConfusion (inv.flag.mp up)) (by simp),
            fun _ _ => inv.shut (by simp) (by simp)⟩

/-! ## How long it takes -/

/-- How many steps the thread takes at most once its flag is down. -/
def rank (s : ReceiveThread) : ℕ :=
  match s.phase with
  | .finished => 0
  | .testing => 1
  | .calling => 2
  | .receiving => 3
  | .startingUp => 4

theorem rank_lt (down : s.client.running = false) (step : Work s t ∨ Answer s t) :
    t.rank < s.rank := by
  have took : s.phase = .receiving → ∀ outcome, (s.take outcome).rank < s.rank := by
    intro receiving outcome
    obtain ⟨-, -, ⟨finished | testing, -⟩ | ⟨calling, -⟩⟩ := s.take_cases outcome
    · simp [rank, receiving, finished]
    · simp [rank, receiving, testing]
    · simp [rank, receiving, calling]
  rcases step with worked | answered
  · cases worked with
    | startUp succeeds starting => cases succeeds <;> simp [rank, starting]
    | test testing => simp [rank, testing, down]
    | receive receiving shut => exact took receiving .failed
  · cases answered with
    | receive outcome receiving isOpen => exact took receiving outcome
    | returned calling => simp [rank, calling]

theorem descends : Descends protocol Inv rank where
  preserved _ _ inv step := inv.step step
  lowers _ _ _ inv stopped step :=
    rank_lt (eq_false_of_ne_true fun up => stopped (inv.flag.mp up)) step
  closes s := le_refl s.rank

theorem logs : Logs protocol rank calls 2 where
  appends s t step := by
    have took : s.phase = .receiving → ∀ outcome, (s.take outcome).calls = s.calls ∨
        (2 < s.rank ∧ (s.take outcome).rank ≤ 2 ∧
          ∃ call, (s.take outcome).calls = s.calls ++ [call]) := by
      intro receiving outcome
      obtain ⟨-, -, ⟨-, same⟩ | ⟨calling, called⟩⟩ := s.take_cases outcome
      · exact Or.inl same
      · exact Or.inr ⟨by simp [rank, receiving], by simp [rank, calling], called⟩
    rcases step with worked | answered
    · cases worked with
      | startUp succeeds starting => exact Or.inl rfl
      | test testing => exact Or.inl rfl
      | receive receiving shut => exact took receiving .failed
    · cases answered with
      | receive outcome receiving isOpen => exact took receiving outcome
      | returned calling => exact Or.inl rfl
  closes s := rfl

/-- Where the destructor waits, the thread is in a callback. -/
theorem Inv.resting_iff (inv : Inv c) (stopped : c.1 ≠ .active)
    (done : c.1 = .joined → c.2.phase = .finished) :
    Resting protocol c ↔ c.1 = .joined ∨ (c.1 = .closed ∧ c.2.phase = .calling) := by
  rcases c with ⟨owner, s⟩
  constructor
  · intro resting
    rcases resting.cases stopped with joined | ⟨closed, unfinished, stuck⟩
    · exact Or.inl joined
    · refine Or.inr ⟨closed, ?_⟩
      cases phase : s.phase with
      | startingUp => exact absurd (.startUp true phase) (stuck _)
      | testing => exact absurd (.test phase) (stuck _)
      | receiving =>
          have shut : s.socketOpen = false := by
            dsimp only at closed
            subst closed
            exact inv.shut (by simp) (by simp)
          exact absurd (.receive phase shut) (stuck _)
      | calling => rfl
      | finished => exact absurd phase unfinished
  · intro settled d move
    cases move with
    | work worked =>
        rcases settled with joined | ⟨-, calling⟩
        · exact worked.phase_ne.2 (done joined)
        · exact worked.phase_ne.1 calling
    | use used => exact used
    | stop idle => exact stopped rfl
    | close =>
        rcases settled with joined | ⟨closed, -⟩
        · cases joined
        · cases closed
    | join finished =>
        have ended : s.phase = .finished := finished
        rcases settled with joined | ⟨-, calling⟩
        · cases joined
        · cases ended.symm.trans calling

/-! ## Runs -/

/-- Once `mmp_disconnect` has begun every run comes to an end, and only a callback is
waited for.  At most one callback begins in the meantime, and none after `mmp_disconnect`
has returned, when none is under way either. -/
theorem disconnects (idle : client.running = false)
    (reachable : Reachable protocol (launch client) c) (stopped : c.1 ≠ .active) :
    Runs.Terminates (Step protocol) c ∧
      (Resting protocol c ↔ c.1 = .joined ∨ (c.1 = .closed ∧ c.2.phase = .calling)) ∧
      ∀ d, Relation.ReflTransGen (Step protocol) c d →
        (d.2.calls = c.2.calls ∨ ∃ call, d.2.calls = c.2.calls ++ [call]) ∧
          (d.1 = .joined → d.2.phase = .finished ∧ Runs.Ended (Step protocol) d) := by
  have inv : Inv c :=
    Runs.invariant (fun _ _ inv step => Inv.step inv step) (Inv.launch idle) reachable
  refine ⟨descends.terminates inv stopped,
    inv.resting_iff stopped (reachable.finished silent), fun d run => ⟨?_, fun joined => ?_⟩⟩
  · exact descends.log_eq_or logs inv stopped run
  · have later : Reachable protocol (launch client) d := reachable.trans run
    exact ⟨later.finished silent joined, later.ended silent joined⟩

/-- A message arrives when the flag is down already. -/
theorem disconnects_of_move :
    ∃ c d : Owner × ReceiveThread, c.1 = .stopping ∧ c.2.calls = [] ∧ d.1 = .joined ∧
      d.2.calls = [.mouseMove 6 5 nullptr] ∧ Runs.Ended (Step protocol) d := by
  let client : MmpClient := .new { onMouseMove := 1 }
  let msg : MouseMsg := .mouseMove { sequenceNumber := htonl 1, x := ntohlInt 6, y := ntohlInt 5 }
  let stopping : Owner × ReceiveThread :=
    (.stopping, { launch client with client.running := false, phase := .receiving })
  have run : Reachable protocol (launch client) stopping :=
    Relation.ReflTransGen.refl
      |>.tail (.move (.work (.startUp true rfl))) |>.tail (.move (.work (.test rfl)))
      |>.tail (.move (.stop trivial))
  have rest : Relation.ReflTransGen (Step protocol) stopping _ :=
    Relation.ReflTransGen.refl
      |>.tail (.answer (.receive (.received msg.datagram ⟨800, 600⟩) rfl rfl))
      |>.tail (.answer (.returned (by decide))) |>.tail (.move .close)
      |>.tail (.move (.work (.test (by rfl))))
      |>.tail (.move (.join (by change (_ : ReceivePhase) = .finished; decide)))
  have after := (disconnects rfl run nofun).2.2 _ rest
  exact ⟨stopping, _, rfl, rfl, rfl, by decide +kernel, (after.2 rfl).2⟩

end ReceiveThread

end MagicMousePad
