import MagicMousePad.Deadlock
import MagicMousePad.Lib.Worker

/-!
# Stopping the server

`serve` from its start-up to its end, and the destructor of `server`, which runs in the
window thread.  `recvfrom` fails once the socket is closed, and as its failure passes for a
large length, the loop then handles the last datagram again before it tests the flag.

The destructor always comes to an end by itself, with two exceptions: when setting up the
socket has failed it waits for the user to dismiss the error message, and a server with a
window waits forever for a thread that is in `SendMessage`, which waits for the destructor.
-/

namespace MagicMousePad

open ByteOrder Worker

/-! ## The server thread -/

/-- Where the server thread is. -/
inductive ServePhase
  | startingUp
  | creating
  | binding
  | testing
  | receiving
  | dispatching
  | connecting
  | reporting
  | finished
  deriving DecidableEq

/-- The server with its flag and its socket, and the locals of `serve`. -/
structure ServeThread where
  process : Process
  running : Bool
  socketOpen : Bool
  phase : ServePhase
  buffer : Memory
  peer : SockaddrStorage

namespace ServeThread

/-- `server::server`; the locals of `serve` are uninitialised. -/
def start (window : Pointer) (buffer : Memory) (peer : SockaddrStorage) : ServeThread where
  process := .start window
  running := true
  socketOpen := false
  phase := .startingUp
  buffer := buffer
  peer := peer

/-- What the datagram in the buffer asks for. -/
def request (s : ServeThread) : UInt32 := ntohl (load32 s.buffer 0)

/-- What the loop does with the result of `recvfrom`. -/
def pass (s : ServeThread) (cnt : Int) : ServeThread :=
  { s with phase := if sizeT cnt < sizeofMmpMsgId then .testing else .dispatching }

/-- `recvfrom` returns. -/
def take {family : Family} (s : ServeThread) : Receipt family → ServeThread
  | .error => s.pass socketError
  | .received data peer =>
      { s with
        buffer := s.buffer.overwrite data.bytes
        peer := s.peer.overwrite peer }.pass data.bytes.length

/-- What the server thread does by itself. -/
inductive Work (family : Family) : ServeThread → ServeThread → Prop
  /-- `WSAStartup`. -/
  | startUp {s : ServeThread} (succeeds : Bool) :
    s.phase = .startingUp →
    Work family s { s with phase := if succeeds then .creating else .reporting }
  /-- `WSASocket`. -/
  | create {s : ServeThread} (succeeds : Bool) :
    s.phase = .creating →
    Work family s
      { s with socketOpen := succeeds, phase := if succeeds then .binding else .reporting }
  /-- `::bind`. -/
  | bind {s : ServeThread} (succeeds : Bool) :
    s.phase = .binding →
    Work family s { s with phase := if succeeds then .testing else .reporting }
  /-- The condition of the loop. -/
  | test {s : ServeThread} :
    s.phase = .testing →
    Work family s { s with phase := if s.running then .receiving else .finished }
  /-- `recvfrom` on a closed socket. -/
  | receive {s : ServeThread} :
    s.phase = .receiving → s.socketOpen = false →
    Work family s (s.take (.error : Receipt family))
  /-- A discovery request is answered. -/
  | announce {s : ServeThread} :
    s.phase = .dispatching → s.request = mmpMsgidDiscover →
    Work family s
      { s with
        process.log := s.process.log ++ [.announced s.process.server.sequenceNumber]
        phase := .testing }
  /-- A connect request waits for the lock. -/
  | connect {s : ServeThread} (now : Int) :
    s.phase = .dispatching → s.request = mmpMsgidConnect →
    Work family s { s with process.serve := .connecting s.peer now, phase := .connecting }
  /-- Other datagrams are ignored. -/
  | ignore {s : ServeThread} :
    s.phase = .dispatching → s.request ≠ mmpMsgidDiscover → s.request ≠ mmpMsgidConnect →
    Work family s { s with phase := .testing }
  /-- The peer is registered under the lock. -/
  | register {s : ServeThread} {process : Process} :
    s.phase = .connecting → s.process.Step process → s.process.serve ≠ .notifying →
    process.serve = .notifying →
    Work family s { s with process := process }
  /-- `SendMessage` returns at once without a window, or when the window thread is back at
  its message loop. -/
  | notified {s : ServeThread} {process : Process} :
    s.phase = .connecting → s.process.Step process → s.process.serve = .notifying →
    process.serve = .polling → (s.process.server.window = nullptr ∨ s.running = true) →
    Work family s { s with process := process, phase := .testing }

/-- What it does when a datagram arrives or the user dismisses the error message. -/
inductive Answer (family : Family) : ServeThread → ServeThread → Prop
  | receive {s : ServeThread} (receipt : Receipt family) :
    s.phase = .receiving → s.socketOpen = true → Answer family s (s.take receipt)
  | dismiss {s : ServeThread} :
    s.phase = .reporting → Answer family s { s with phase := .finished }

/-- A step of the window thread, the only one that moves in its handlers. -/
inductive Use : ServeThread → ServeThread → Prop
  | window {s : ServeThread} {process : Process} :
    s.process.Step process → process.window ≠ s.process.window →
    Use s { s with process := process }

/-- The server thread, and `server::~server` as its owner. -/
def thread (family : Family) : Protocol ServeThread where
  work := Work family
  answer := Answer family
  use := Use
  Idle s := s.process.window = .idle
  stop s := { s with running := false }
  close s := { s with socketOpen := false }
  Finished s := s.phase = .finished

end ServeThread

/-! ## What a step of either thread changes -/

namespace Process

variable {p q : Process}

/-- A step of the window thread leaves the server thread where it is. -/
theorem Step.serve_eq (step : p.Step q) (moves : q.window ≠ p.window) : q.serve = p.serve := by
  cases step with
  | number msg idle => rfl
  | lock numbered free => rfl
  | sent sending visited => rfl
  | failed sending visited => rfl
  | unlock sending atEnd => rfl
  | announce polling => exact absurd rfl moves
  | connect peer now polling => exact absurd rfl moves
  | register connecting free => exact absurd rfl moves
  | notified notifying returned => exact absurd rfl moves

/-- A registration adds one entry to the log. -/
theorem Step.registers (step : p.Step q) (unserved : p.serve ≠ .notifying)
    (notifying : q.serve = .notifying) :
    q.window = p.window ∧ ∃ entry, q.log = p.log ++ [entry] := by
  cases step with
  | number msg idle => exact absurd notifying unserved
  | lock numbered free => exact absurd notifying unserved
  | sent sending visited => exact absurd notifying unserved
  | failed sending visited => exact absurd notifying unserved
  | unlock sending atEnd => exact absurd notifying unserved
  | announce polling => exact absurd notifying unserved
  | connect peer now polling => cases notifying
  | register connecting free => exact ⟨rfl, _, rfl⟩
  | notified before returned => exact absurd before unserved

/-- The return of `SendMessage` changes neither the log nor the window thread. -/
theorem Step.returns (step : p.Step q) (notifying : p.serve = .notifying)
    (polling : q.serve = .polling) : q.window = p.window ∧ q.log = p.log := by
  cases step with
  | number msg idle => cases notifying.symm.trans polling
  | lock numbered free => cases notifying.symm.trans polling
  | sent sending visited => cases notifying.symm.trans polling
  | failed sending visited => cases notifying.symm.trans polling
  | unlock sending atEnd => cases notifying.symm.trans polling
  | announce before => cases notifying.symm.trans before
  | connect peer now before => cases polling
  | register connecting free => cases polling
  | notified before returned => exact ⟨rfl, rfl⟩

end Process

/-! ## The invariant -/

namespace ServeThread

variable {family : Family} {window : Pointer} {owner : Owner} {s t : ServeThread}
  {c d : Owner × ServeThread}

@[simp] theorem process_take (s : ServeThread) (receipt : Receipt family) :
    (s.take receipt).process = s.process := by
  cases receipt <;> rfl

@[simp] theorem running_take (s : ServeThread) (receipt : Receipt family) :
    (s.take receipt).running = s.running := by
  cases receipt <;> rfl

/-- After `recvfrom` the thread tests the flag or handles a datagram. -/
theorem phase_take (s : ServeThread) (receipt : Receipt family) :
    (s.take receipt).phase = .testing ∨ (s.take receipt).phase = .dispatching := by
  cases receipt with
  | error =>
      simp only [take, pass]
      split
      · exact Or.inl rfl
      · exact Or.inr rfl
  | received data peer =>
      simp only [take, pass]
      split
      · exact Or.inl rfl
      · exact Or.inr rfl

/-- What holds at any time: the flag is up until the destructor begins, which it does
between two messages of the window, and a thread that receives after the socket has been
closed does not wait. -/
structure Inv (window : Pointer) (c : Owner × ServeThread) : Prop where
  process : c.2.process.Inv
  window : c.2.process.server.window = window
  flag : c.2.running = true ↔ c.1 = .active
  quiet : c.1 ≠ .active → c.2.process.window = .idle
  serving : c.2.phase = .connecting ↔ c.2.process.serve ≠ .polling
  waits : c.1 ≠ .active → c.1 ≠ .stopping → c.2.phase = .receiving → c.2.socketOpen = false

theorem Inv.start (window : Pointer) (buffer : Memory) (peer : SockaddrStorage) :
    Inv window (.active, start window buffer peer) where
  process := .start window
  window := rfl
  flag := iff_of_true rfl rfl
  quiet active := absurd rfl active
  serving := by simp [ServeThread.start, Process.start]
  waits active := absurd rfl active

/-- Outside the connect case the thread has not gone beyond polling. -/
theorem Inv.polling (inv : Inv window (owner, s)) (other : s.phase ≠ .connecting) :
    s.process.serve = .polling := by
  by_contra serving
  exact other (inv.serving.mpr serving)

/-- A step outside the connect case. -/
theorem Inv.outside (inv : Inv window (owner, s)) (process : t.process = s.process)
    (running : t.running = s.running) (before : s.phase ≠ .connecting)
    (after : t.phase ≠ .connecting) (waits : t.phase = .receiving → s.running = true) :
    Inv window (owner, t) := by
  have polling := inv.polling before
  refine ⟨?_, ?_, ?_, ?_, ?_, ?_⟩
  · rw [process]
    exact inv.process
  · rw [process]
    exact inv.window
  · rw [running]
    exact inv.flag
  · rw [process]
    exact inv.quiet
  · rw [process, polling]
    exact iff_of_false after (fun serving => serving rfl)
  · exact fun stopped _ receiving => absurd (inv.flag.mp (waits receiving)) stopped

theorem Inv.take (inv : Inv window (owner, s)) (receiving : s.phase = .receiving)
    (receipt : Receipt family) : Inv window (owner, s.take receipt) := by
  have before : s.phase ≠ .connecting := by simp [receiving]
  rcases s.phase_take receipt with testing | dispatching
  · exact inv.outside (s.process_take receipt) (s.running_take receipt) before
      (by simp [testing]) (by simp [testing])
  · exact inv.outside (s.process_take receipt) (s.running_take receipt) before
      (by simp [dispatching]) (by simp [dispatching])

theorem Inv.work (inv : Inv window (owner, s)) (work : Work family s t) :
    Inv window (owner, t) := by
  cases work with
  | startUp succeeds starting =>
      have before : s.phase ≠ .connecting := by simp [starting]
      cases succeeds with
      | true => exact inv.outside rfl rfl before (by simp) (by simp)
      | false => exact inv.outside rfl rfl before (by simp) (by simp)
  | create succeeds creating =>
      have before : s.phase ≠ .connecting := by simp [creating]
      cases succeeds with
      | true => exact inv.outside rfl rfl before (by simp) (by simp)
      | false => exact inv.outside rfl rfl before (by simp) (by simp)
  | bind succeeds binding =>
      have before : s.phase ≠ .connecting := by simp [binding]
      cases succeeds with
      | true => exact inv.outside rfl rfl before (by simp) (by simp)
      | false => exact inv.outside rfl rfl before (by simp) (by simp)
  | test testing =>
      have before : s.phase ≠ .connecting := by simp [testing]
      cases running : s.running with
      | true => exact inv.outside rfl running.symm before (by simp) (fun _ => running)
      | false => exact inv.outside rfl running.symm before (by simp) (by simp)
  | receive receiving shut => exact inv.take receiving .error
  | announce dispatching discover =>
      have before : s.phase ≠ .connecting := by simp [dispatching]
      have polling := inv.polling before
      refine ⟨inv.process.step (.announce polling), inv.window, inv.flag, inv.quiet, ?_, ?_⟩
      · exact iff_of_false (by simp) (by simp [polling])
      · simp
  | connect now dispatching connect =>
      have polling := inv.polling (by simp [dispatching])
      refine ⟨inv.process.step (.connect s.peer now polling), inv.window, inv.flag, inv.quiet,
        ?_, ?_⟩
      · exact iff_of_true rfl (by simp)
      · simp
  | ignore dispatching other other' =>
      exact inv.outside rfl rfl (by simp [dispatching]) (by simp) (by simp)
  | register connecting step unserved notifying =>
      obtain ⟨still, -⟩ := step.registers unserved notifying
      refine ⟨inv.process.step step, step.window_eq.trans inv.window, inv.flag, ?_, ?_, ?_⟩
      · exact fun stopped => still.trans (inv.quiet stopped)
      · exact iff_of_true connecting (by simp [notifying])
      · simp [connecting]
  | notified connecting step notifying polling returned =>
      obtain ⟨still, -⟩ := step.returns notifying polling
      refine ⟨inv.process.step step, step.window_eq.trans inv.window, inv.flag, ?_, ?_, ?_⟩
      · exact fun stopped => still.trans (inv.quiet stopped)
      · exact iff_of_false (by simp) (by simp [polling])
      · simp

theorem Inv.step (inv : Inv window c) (step : Step (thread family) c d) : Inv window d := by
  cases step with
  | answer answered =>
      cases answered with
      | receive receipt receiving isOpen => exact inv.take receiving receipt
      | dismiss reporting =>
          exact inv.outside rfl rfl (by simp [reporting]) (by simp) (by simp)
  | move move =>
      cases move with
      | work worked => exact inv.work worked
      | use used =>
          cases used with
          | window step moves =>
              refine ⟨inv.process.step step, step.window_eq.trans inv.window, inv.flag,
                fun active => absurd rfl active, ?_, fun active => absurd rfl active⟩
              dsimp only
              rw [step.serve_eq moves]
              exact inv.serving
      | stop idle =>
          exact ⟨inv.process, inv.window, iff_of_false (by simp [thread]) (by simp),
            fun _ => idle, inv.serving, fun _ other => absurd rfl other⟩
      | close =>
          exact ⟨inv.process, inv.window,
            iff_of_false (fun up => Owner.noConfusion (inv.flag.mp up)) (by simp),
            fun _ => inv.quiet (by simp), inv.serving, fun _ _ _ => rfl⟩
      | join finished =>
          exact ⟨inv.process, inv.window,
            iff_of_false (fun up => Owner.noConfusion (inv.flag.mp up)) (by simp),
            fun _ => inv.quiet (by simp), inv.serving, fun _ _ => inv.waits (by simp) (by simp)⟩

/-! ## How long it takes -/

/-- How many steps the thread takes at most once its flag is down. -/
def rank (s : ServeThread) : ℕ :=
  match s.phase with
  | .finished => 0
  | .reporting => 1
  | .testing => 1
  | .connecting =>
      match s.process.serve with
      | .notifying => 2
      | _ => 3
  | .dispatching => 4
  | .receiving => 5
  | .binding => 6
  | .creating => 7
  | .startingUp => 8

theorem rank_take (s : ServeThread) (receipt : Receipt family) : (s.take receipt).rank < 5 := by
  rcases s.phase_take receipt with testing | dispatching
  · simp [rank, testing]
  · simp [rank, dispatching]

theorem rank_of_notifying (connecting : s.phase = .connecting)
    (notifying : s.process.serve = .notifying) : s.rank = 2 := by
  simp [rank, connecting, notifying]

theorem rank_of_waiting (connecting : s.phase = .connecting)
    (unserved : s.process.serve ≠ .notifying) : s.rank = 3 := by
  cases serve : s.process.serve with
  | notifying => exact absurd serve unserved
  | polling => simp [rank, connecting, serve]
  | connecting peer now => simp [rank, connecting, serve]

/-- Once the flag is down every step brings the thread closer to its end. -/
theorem rank_lt (down : s.running = false) (step : Work family s t ∨ Answer family s t) :
    t.rank < s.rank := by
  rcases step with worked | answered
  · cases worked with
    | startUp succeeds starting => cases succeeds <;> simp [rank, starting]
    | create succeeds creating => cases succeeds <;> simp [rank, creating]
    | bind succeeds binding => cases succeeds <;> simp [rank, binding]
    | test testing => simp [rank, testing, down]
    | receive receiving shut =>
        have lower := s.rank_take (.error : Receipt family)
        simpa [rank, receiving] using lower
    | announce dispatching discover => simp [rank, dispatching]
    | connect now dispatching connect => simp [rank, dispatching]
    | ignore dispatching other other' => simp [rank, dispatching]
    | @register process connecting step unserved notifying =>
        have after : ({ s with process := process } : ServeThread).rank = 2 :=
          rank_of_notifying connecting notifying
        rw [rank_of_waiting connecting unserved, after]
        exact Nat.lt_succ_self 2
    | notified connecting step notifying polling returned =>
        rw [rank_of_notifying connecting notifying]
        exact Nat.lt_succ_self 1
  · cases answered with
    | receive receipt receiving isOpen =>
        have lower := s.rank_take receipt
        simpa [rank, receiving] using lower
    | dismiss reporting => simp [rank, reporting]

/-! ## Where the destructor ends -/

variable (family) in
/-- With the socket closed and the flag down, the thread goes on by itself unless it has
finished, shows an error message, or is in `SendMessage` for a window. -/
theorem Inv.work_or (inv : Inv window (.closed, s)) :
    (∃ t, Work family s t) ∨ s.phase = .finished ∨ s.phase = .reporting ∨
      (s.process.serve = .notifying ∧ window ≠ nullptr) := by
  cases phase : s.phase with
  | startingUp => exact Or.inl ⟨_, .startUp true phase⟩
  | creating => exact Or.inl ⟨_, .create true phase⟩
  | binding => exact Or.inl ⟨_, .bind true phase⟩
  | testing => exact Or.inl ⟨_, .test phase⟩
  | receiving =>
      exact Or.inl ⟨_, .receive phase (inv.waits (by simp) (by simp) phase)⟩
  | dispatching =>
      by_cases discover : s.request = mmpMsgidDiscover
      · exact Or.inl ⟨_, .announce phase discover⟩
      · by_cases connect : s.request = mmpMsgidConnect
        · exact Or.inl ⟨_, .connect 0 phase connect⟩
        · exact Or.inl ⟨_, .ignore phase discover connect⟩
  | connecting =>
      have idle : s.process.window = .idle := inv.quiet (by simp)
      cases serve : s.process.serve with
      | polling => exact absurd serve (inv.serving.mp phase)
      | connecting peer now =>
          have free : s.process.owner = none := by
            cases owner : s.process.owner with
            | none => rfl
            | some holder =>
                cases holder with
                | window =>
                    have sending := inv.process.windowLock.mp owner
                    rw [show s.process.window = .idle from idle] at sending
                    exact sending.elim
                | server => cases serve.symm.trans (inv.process.serverLock.mp owner)
          exact Or.inl ⟨_, .register phase (.register serve free) (by simp [serve]) rfl⟩
      | notifying =>
          by_cases null : window = nullptr
          · have absent : s.process.server.window = nullptr := inv.window.trans null
            exact Or.inl ⟨_, .notified phase (.notified serve (.inl absent)) serve rfl
              (.inl absent)⟩
          · exact Or.inr (Or.inr (Or.inr ⟨rfl, null⟩))
  | reporting => exact Or.inr (Or.inr (Or.inl rfl))
  | finished => exact Or.inr (Or.inl rfl)

/-- A thread in `SendMessage` for a window does not go on while its flag is down. -/
theorem Inv.hangs (inv : Inv window (owner, s)) (stopped : owner ≠ .active)
    (notifying : s.process.serve = .notifying) (present : window ≠ nullptr) :
    ¬ Work family s t := by
  have connecting : s.phase = .connecting := inv.serving.mpr (by simp [notifying])
  intro worked
  cases worked with
  | startUp succeeds starting => cases connecting.symm.trans starting
  | create succeeds creating => cases connecting.symm.trans creating
  | bind succeeds binding => cases connecting.symm.trans binding
  | test testing => cases connecting.symm.trans testing
  | receive receiving shut => cases connecting.symm.trans receiving
  | announce dispatching discover => cases connecting.symm.trans dispatching
  | connect now dispatching connect => cases connecting.symm.trans dispatching
  | ignore dispatching other other' => cases connecting.symm.trans dispatching
  | register connecting step unserved notifying' => exact unserved notifying
  | notified connecting step notifying polling returned =>
      rcases returned with null | up
      · exact present (inv.window.symm.trans null)
      · exact stopped (inv.flag.mp up)

/-- A thread that shows an error message waits for the user, and one that has finished does
nothing. -/
theorem Work.phase_ne (worked : Work family s t) :
    s.phase ≠ .reporting ∧ s.phase ≠ .finished := by
  cases worked with
  | startUp succeeds starting => simp [starting]
  | create succeeds creating => simp [creating]
  | bind succeeds binding => simp [binding]
  | test testing => simp [testing]
  | receive receiving shut => simp [receiving]
  | announce dispatching discover => simp [dispatching]
  | connect now dispatching connect => simp [dispatching]
  | ignore dispatching other other' => simp [dispatching]
  | register connecting step unserved notifying => simp [connecting]
  | notified connecting step notifying polling returned => simp [connecting]

theorem silent (s t : ServeThread) (finished : (thread family).Finished s) :
    ¬ (thread family).work s t ∧ ¬ (thread family).answer s t := by
  have done : s.phase = .finished := finished
  refine ⟨fun worked => worked.phase_ne.2 done, fun answered => ?_⟩
  cases answered with
  | receive receipt receiving isOpen => cases done.symm.trans receiving
  | dismiss reporting => cases done.symm.trans reporting

/-- Only a thread that is handling a datagram logs something, and it is at the end of
handling it then. -/
theorem Work.log_eq_or (worked : Work family s t) :
    t.process.log = s.process.log ∨
      (2 < s.rank ∧ t.rank ≤ 2 ∧ ∃ entry, t.process.log = s.process.log ++ [entry]) := by
  cases worked with
  | startUp succeeds starting => exact Or.inl rfl
  | create succeeds creating => exact Or.inl rfl
  | bind succeeds binding => exact Or.inl rfl
  | test testing => exact Or.inl rfl
  | receive receiving shut => exact Or.inl (by rw [process_take])
  | announce dispatching discover =>
      exact Or.inr ⟨by simp [rank, dispatching], by simp [rank], _, rfl⟩
  | connect now dispatching connect => exact Or.inl rfl
  | ignore dispatching other other' => exact Or.inl rfl
  | @register process connecting step unserved notifying =>
      have after : ({ s with process := process } : ServeThread).rank = 2 :=
        rank_of_notifying connecting notifying
      obtain ⟨-, logged⟩ := step.registers unserved notifying
      exact Or.inr ⟨by rw [rank_of_waiting connecting unserved]; decide, after.le, logged⟩
  | notified connecting step notifying polling returned =>
      exact Or.inl (step.returns notifying polling).2

/-- Where the destructor comes to rest. -/
def Settled (window : Pointer) (c : Owner × ServeThread) : Prop :=
  c.1 = .joined ∨
    (c.1 = .closed ∧
      (c.2.phase = .reporting ∨ (c.2.process.serve = .notifying ∧ window ≠ nullptr)))

theorem Inv.resting_iff (inv : Inv window c) (stopped : c.1 ≠ .active)
    (done : c.1 = .joined → c.2.phase = .finished) :
    Resting (thread family) c ↔ Settled window c := by
  rcases c with ⟨owner, s⟩
  constructor
  · intro resting
    rcases resting.cases stopped with joined | ⟨closed, unfinished, stuck⟩
    · exact Or.inl joined
    · dsimp only at closed
      subst closed
      rcases inv.work_or family with ⟨t, worked⟩ | finished | reporting | hanging
      · exact absurd worked (stuck t)
      · exact absurd finished unfinished
      · exact Or.inr ⟨rfl, Or.inl reporting⟩
      · exact Or.inr ⟨rfl, Or.inr hanging⟩
  · intro settled d move
    cases move with
    | work worked =>
        rcases settled with joined | ⟨-, reporting | ⟨notifying, present⟩⟩
        · exact worked.phase_ne.2 (done joined)
        · exact worked.phase_ne.1 reporting
        · exact inv.hangs stopped notifying present worked
    | use used => exact stopped rfl
    | stop idle => exact stopped rfl
    | close =>
        rcases settled with joined | ⟨closed, -⟩
        · cases joined
        · cases closed
    | join finished =>
        have ended : s.phase = .finished := finished
        rcases settled with joined | ⟨-, reporting | ⟨notifying, -⟩⟩
        · cases joined
        · cases ended.symm.trans reporting
        · have unsettled : s.process.serve ≠ .polling := fun polling =>
            ServePc.noConfusion (polling.symm.trans notifying)
          cases ended.symm.trans (inv.serving.mpr unsettled)

/-! ## Runs -/

section Runs

variable {buffer : Memory} {peer : SockaddrStorage}

theorem inv_of_reachable (reachable : Reachable (thread family) (start window buffer peer) c) :
    Inv window c :=
  Runs.invariant (fun _ _ inv step => Inv.step inv step) (Inv.start window buffer peer) reachable

theorem descends (family : Family) (window : Pointer) :
    Descends (thread family) (Inv window) rank where
  preserved _ _ inv step := inv.step step
  lowers _ _ _ inv stopped step :=
    rank_lt (eq_false_of_ne_true fun up => stopped (inv.flag.mp up)) step
  closes s := le_refl s.rank

theorem logs (family : Family) :
    Logs (thread family) rank (fun s : ServeThread => s.process.log) 2 where
  appends s t step := by
    rcases step with worked | answered
    · exact worked.log_eq_or
    · cases answered with
      | receive receipt receiving isOpen => exact Or.inl (by rw [process_take])
      | dismiss reporting => exact Or.inl rfl
  closes s := rfl

/-- Once the destructor has begun every run of the server comes to an end.  Nothing but an
answer from outside is awaited exactly where the thread has been joined, where the user has
not dismissed the error message of a failed set-up, and where the thread is in
`SendMessage` for a window. -/
theorem settles (reachable : Reachable (thread family) (start window buffer peer) c)
    (stopped : c.1 ≠ .active) :
    Runs.Terminates (Step (thread family)) c ∧
      (Resting (thread family) c ↔ Settled window c) := by
  have inv := inv_of_reachable reachable
  exact ⟨(descends family window).terminates inv stopped,
    inv.resting_iff stopped (reachable.finished silent)⟩

/-- At most one discovery request is answered, or one client registered, after the
destructor has begun. -/
theorem log_after (reachable : Reachable (thread family) (start window buffer peer) c)
    (stopped : c.1 ≠ .active) (run : Relation.ReflTransGen (Step (thread family)) c d) :
    d.2.process.log = c.2.process.log ∨
      ∃ entry, d.2.process.log = c.2.process.log ++ [entry] :=
  (descends family window).log_eq_or (logs family) (inv_of_reachable reachable) stopped run

/-- A client connects to a server with a window, and the destructor begins while the server
thread tells the window of it: both wait. -/
theorem settles_of_window :
    ∃ c : Owner × ServeThread, c.1 = .closed ∧ c.2.process.serve = .notifying ∧
      Resting (thread .inet) c := by
  let data : Datagram := ⟨MmpMsgConnect.toBytes {}, by decide⟩
  let peer : PeerAddress .inet :=
    ⟨[2, 0, 0x30, 0x39, 127, 0, 0, 1, 0, 0, 0, 0, 0, 0, 0, 0], rfl, rfl⟩
  have run : Reachable (thread .inet) (start 1 (fun _ => 0) .zero) _ :=
    Relation.ReflTransGen.refl
      |>.tail (.move (.work (.startUp true rfl))) |>.tail (.move (.work (.create true rfl)))
      |>.tail (.move (.work (.bind true rfl))) |>.tail (.move (.work (.test rfl)))
      |>.tail (.answer (.receive (.received data peer) rfl rfl))
      |>.tail (.move (.work (.connect 7 (by decide) (by decide))))
      |>.tail (.move (.work (.register rfl (.register rfl rfl) nofun rfl)))
      |>.tail (.move (.stop rfl)) |>.tail (.move .close)
  exact ⟨_, rfl, rfl, (settles run nofun).2.mpr (Or.inr ⟨rfl, Or.inr ⟨rfl, by decide⟩⟩)⟩

/-- The destructor begins before a discovery request is answered. -/
theorem log_after_of_discover :
    ∃ c d : Owner × ServeThread, c.1 = .stopping ∧ d.1 = .joined ∧
      (d.2.process.log = c.2.process.log ∨
        ∃ entry, d.2.process.log = c.2.process.log ++ [entry]) := by
  let data : Datagram := ⟨MmpMsgDiscover.toBytes {}, by decide⟩
  let peer : PeerAddress .inet :=
    ⟨[2, 0, 0x30, 0x39, 127, 0, 0, 1, 0, 0, 0, 0, 0, 0, 0, 0], rfl, rfl⟩
  have run : Reachable (thread .inet) (start nullptr (fun _ => 0) .zero) _ :=
    Relation.ReflTransGen.refl
      |>.tail (.move (.work (.startUp true rfl))) |>.tail (.move (.work (.create true rfl)))
      |>.tail (.move (.work (.bind true rfl))) |>.tail (.move (.work (.test rfl)))
      |>.tail (.answer (.receive (.received data peer) rfl rfl)) |>.tail (.move (.stop (by rfl)))
  exact ⟨_, _, rfl, rfl, log_after run nofun (Relation.ReflTransGen.refl
    |>.tail (.move (.work (.announce (by decide) (by decide)))) |>.tail (.move .close)
    |>.tail (.move (.work (.test rfl))) |>.tail (.move (.join (by rfl))))⟩

end Runs

end ServeThread

end MagicMousePad
