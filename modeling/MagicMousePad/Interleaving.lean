import MagicMousePad.Server
import MagicMousePad.Lib.Runs

/-!
# The two threads of the server

The window thread sends messages and the server thread registers clients, with
`_lock` between them.  A message gets its number before the window thread takes
the lock; under the lock the thread visits the clients one by one.  The server
thread announces the counter without the lock.  It emplaces a client and then
calls `SendMessage` under the lock, which for a window of another thread returns
only once that thread is back at its message loop.

`log` records the announcements and what each critical section did.  Replaying
it, registrations add a client and a broadcast removes the clients it failed on
(`clientsAfter`); the invariant `Process.Inv` says that the set of the server is
always where the replay, and a broadcast under way, put it.
-/

namespace MagicMousePad

/-! ## Threads and their steps -/

inductive Thread
  | window
  | server
  deriving DecidableEq

/-- Where the window thread is; while it is sending, with the clients registered
when it took the lock, the iterator, and the attempts made so far. -/
inductive WindowPc
  | idle
  | numbered (msg : MouseMsg)
  | sending (msg : MouseMsg) (snapshot : List Client) (it : ℕ) (attempts : List (Client × Bool))

/-- Where the server thread is. -/
inductive ServePc
  | polling
  | connecting (peer : SockaddrStorage) (now : Int)
  | notifying

/-- One call of `server::send`: the message, the clients registered when it took
the lock, the attempts with their success, and the clients left at the end. -/
structure Broadcast where
  msg : MouseMsg
  snapshot : List Client
  attempts : List (Client × Bool)
  remaining : List Client

/-- What one critical section did, or the number in an announcement. -/
inductive LogEntry
  | announced (number : UInt32)
  | registered (client : Client)
  | broadcast (b : Broadcast)

/-- The server process. -/
structure Process where
  server : Server
  owner : Option Thread
  window : WindowPc
  serve : ServePc
  log : List LogEntry

/-- The process before either thread has done anything. -/
def Process.start (window : Pointer) : Process where
  server := Server.new window
  owner := none
  window := .idle
  serve := .polling
  log := []

/-- One step of either thread. -/
inductive Process.Step : Process → Process → Prop
  /-- `server::send` of a message takes the next number. -/
  | number {p : Process} (msg : MouseMsg) :
    p.window = .idle →
    Step p { p with
      server := p.server.takeNumber.1
      window := .numbered (msg.withSequenceNumber (htonl p.server.takeNumber.2)) }
  /-- It takes the lock. -/
  | lock {p : Process} {msg : MouseMsg} :
    p.window = .numbered msg → p.owner = none →
    Step p { p with
      owner := some .window
      window := .sending msg p.server.clients.toList 0 [] }
  /-- `sendto` succeeds and the iterator advances. -/
  | sent {p : Process} {msg : MouseMsg} {snapshot : List Client} {it : ℕ}
      {attempts : List (Client × Bool)} {client : Client} :
    p.window = .sending msg snapshot it attempts → p.server.clients.toList[it]? = some client →
    Step p { p with window := .sending msg snapshot (it + 1) (attempts ++ [(client, true)]) }
  /-- `sendto` fails and the client is erased. -/
  | failed {p : Process} {msg : MouseMsg} {snapshot : List Client} {it : ℕ}
      {attempts : List (Client × Bool)} {client : Client} :
    p.window = .sending msg snapshot it attempts → p.server.clients.toList[it]? = some client →
    Step p { p with
      server := { p.server with clients := p.server.clients.eraseAt it }
      window := .sending msg snapshot it (attempts ++ [(client, false)]) }
  /-- The iterator is at the end. -/
  | unlock {p : Process} {msg : MouseMsg} {snapshot : List Client} {it : ℕ}
      {attempts : List (Client × Bool)} :
    p.window = .sending msg snapshot it attempts → p.server.clients.toList[it]? = none →
    Step p { p with
      owner := none
      window := .idle
      log := p.log ++ [.broadcast ⟨msg, snapshot, attempts, p.server.clients.toList⟩] }
  /-- `serve` answers a discovery request. -/
  | announce {p : Process} :
    p.serve = .polling →
    Step p { p with log := p.log ++ [.announced p.server.sequenceNumber] }
  /-- `serve` receives a connect request. -/
  | connect {p : Process} (peer : SockaddrStorage) (now : Int) :
    p.serve = .polling → Step p { p with serve := .connecting peer now }
  /-- It takes the lock and registers the peer. -/
  | register {p : Process} {peer : SockaddrStorage} {now : Int} :
    p.serve = .connecting peer now → p.owner = none →
    Step p { p with
      server := p.server.register peer now
      owner := some .server
      serve := .notifying
      log := p.log ++ [.registered (Client.new peer now)] }
  /-- `SendMessage` returns and the lock is released. -/
  | notified {p : Process} :
    p.serve = .notifying → (p.server.window = nullptr ∨ p.window = .idle) →
    Step p { p with owner := none, serve := .polling }

/-- The states of the process in any interleaving of its threads. -/
def Process.Reachable (window : Pointer) (p : Process) : Prop :=
  Relation.ReflTransGen Process.Step (Process.start window) p

/-! ## Replaying the log -/

/-- Whether an attempt of the broadcast on the client failed. -/
def Broadcast.failedOn (b : Broadcast) (client : Client) : Bool :=
  b.attempts.contains (client, false)

/-- The clients the broadcast reached. -/
def Broadcast.reached (b : Broadcast) : List Client :=
  (b.attempts.filter fun attempt => attempt.2).map Prod.fst

/-- What an entry of the log does to the client set. -/
def LogEntry.apply (clients : ClientSet) : LogEntry → ClientSet
  | .announced _ => clients
  | .registered client => clients.emplace client
  | .broadcast b => (clients.sweep b.failedOn).1

/-- The client set after the critical sections of a log. -/
def clientsAfter (log : List LogEntry) : ClientSet := log.foldl LogEntry.apply ∅

/-- The broadcasts of a log. -/
def broadcasts (log : List LogEntry) : List Broadcast :=
  log.filterMap fun
    | .broadcast b => some b
    | _ => none

@[simp] theorem clientsAfter_concat (log : List LogEntry) (entry : LogEntry) :
    clientsAfter (log ++ [entry]) = entry.apply (clientsAfter log) := by
  simp [clientsAfter]

@[simp] theorem broadcasts_nil : broadcasts [] = [] := rfl

@[simp] theorem broadcasts_announced_cons (number : UInt32) (log : List LogEntry) :
    broadcasts (.announced number :: log) = broadcasts log := rfl

@[simp] theorem broadcasts_registered_cons (client : Client) (log : List LogEntry) :
    broadcasts (.registered client :: log) = broadcasts log := rfl

@[simp] theorem broadcasts_broadcast_cons (b : Broadcast) (log : List LogEntry) :
    broadcasts (.broadcast b :: log) = b :: broadcasts log := rfl

@[simp] theorem broadcasts_append (first second : List LogEntry) :
    broadcasts (first ++ second) = broadcasts first ++ broadcasts second := by
  simp [broadcasts]

/-- A broadcast visits every client registered when it took the lock exactly
once, ends with those it reached, and carries the number of the broadcasts
before it. -/
structure Broadcast.Complete (earlier : List LogEntry) (b : Broadcast) : Prop where
  snapshot : b.snapshot = (clientsAfter earlier).toList
  visited : b.attempts.map Prod.fst = b.snapshot
  remaining : b.remaining = b.reached
  number : ntohl b.msg.sequenceNumber = UInt32.ofNat (broadcasts earlier).length

/-- A broadcast is complete, and an announcement carries the number of the next
broadcast, or of the one after it if that one has its number already. -/
def LogEntry.Sound (earlier : List LogEntry) : LogEntry → Prop
  | .announced number => number = UInt32.ofNat (broadcasts earlier).length ∨
      number = UInt32.ofNat ((broadcasts earlier).length + 1)
  | .registered _ => True
  | .broadcast b => b.Complete earlier

/-- Every entry of the log is sound. -/
def LogSound (log : List LogEntry) : Prop :=
  ∀ earlier (entry : LogEntry) later, log = earlier ++ entry :: later → entry.Sound earlier

theorem logSound_nil : LogSound [] := by
  intro earlier b later split
  cases earlier <;> cases split

theorem LogSound.concat {log : List LogEntry} (sound : LogSound log) {entry : LogEntry}
    (last : entry.Sound log) : LogSound (log ++ [entry]) := by
  intro earlier other later split
  rcases Mealy.concat_eq_split_iff.mp split with ⟨rfl, rfl, -⟩ | ⟨front, inner, -⟩
  · exact last
  · exact sound earlier other front inner

theorem LogSound.complete {log earlier later : List LogEntry} {b : Broadcast}
    (sound : LogSound log) (split : log = earlier ++ .broadcast b :: later) : b.Complete earlier :=
  sound earlier (.broadcast b) later split

/-- Among attempts on distinct clients, the ones without a failed attempt are
the ones reached. -/
theorem Broadcast.filter_not_failedOn (b : Broadcast) (distinct : (b.attempts.map Prod.fst).Nodup) :
    (b.attempts.map Prod.fst).filter (fun client => !b.failedOn client) = b.reached := by
  rw [List.filter_map, Broadcast.reached]
  refine congrArg _ (List.filter_congr fun attempt member => ?_)
  rcases attempt with ⟨client, succeeded⟩
  cases succeeded with
  | false => simp [Broadcast.failedOn, member]
  | true =>
      have absent : (client, false) ∉ b.attempts := by
        intro other
        have same := List.inj_on_of_nodup_map distinct member other rfl
        cases same
      simp [Broadcast.failedOn, absent]

/-- The replay of a complete broadcast leaves the clients it reached. -/
theorem Broadcast.Complete.apply_toList {earlier : List LogEntry} {b : Broadcast}
    (complete : b.Complete earlier) :
    ((LogEntry.broadcast b).apply (clientsAfter earlier)).toList = b.reached := by
  have visited := complete.visited.trans complete.snapshot
  have distinct : (b.attempts.map Prod.fst).Nodup := by
    rw [visited]
    exact (clientsAfter earlier).nodup
  rw [LogEntry.apply, OrderedSet.sweep_remaining, ← visited, b.filter_not_failedOn distinct]

/-! ## The invariant -/

/-- The window thread is between taking the lock and releasing it. -/
def WindowPc.Sending : WindowPc → Prop
  | .sending _ _ _ _ => True
  | _ => False

/-- The message that has its number but is not sent to all clients yet. -/
def WindowPc.pending : WindowPc → Option MouseMsg
  | .idle => none
  | .numbered msg => some msg
  | .sending msg _ _ _ => some msg

/-- How far a broadcast has come: the visited clients and those still ahead make
up the snapshot, and the visited ones still in the set are those it reached. -/
def Sweeping (registered clients snapshot : List Client) (it : ℕ)
    (attempts : List (Client × Bool)) : Prop :=
  snapshot = registered ∧ attempts.map Prod.fst ++ clients.drop it = snapshot ∧
    clients.take it = (attempts.filter fun attempt => attempt.2).map Prod.fst

/-- What holds in every state of the process. -/
structure Process.Inv (p : Process) : Prop where
  windowLock : p.owner = some .window ↔ p.window.Sending
  serverLock : p.owner = some .server ↔ p.serve = .notifying
  settled : ¬ p.window.Sending → p.server.clients = clientsAfter p.log
  sweeping : ∀ msg snapshot it attempts, p.window = .sending msg snapshot it attempts →
    Sweeping (clientsAfter p.log).toList p.server.clients.toList snapshot it attempts
  counter : p.server.sequenceNumber =
    UInt32.ofNat ((broadcasts p.log).length + p.window.pending.toList.length)
  number : ∀ msg, p.window.pending = some msg →
    ntohl msg.sequenceNumber = UInt32.ofNat (broadcasts p.log).length
  sound : LogSound p.log

theorem Process.Inv.start (window : Pointer) : (Process.start window).Inv where
  windowLock := by simp [Process.start, WindowPc.Sending]
  serverLock := by simp [Process.start]
  settled := fun _ => rfl
  sweeping := fun _ _ _ _ sending => by cases sending
  counter := rfl
  number := fun _ pending => by cases pending
  sound := logSound_nil

theorem Sweeping.begin (registered : List Client) :
    Sweeping registered registered registered 0 [] :=
  ⟨rfl, rfl, rfl⟩

/-- A successful visit keeps the client and advances. -/
theorem Sweeping.sent {registered clients snapshot : List Client} {it : ℕ}
    {attempts : List (Client × Bool)} {client : Client}
    (sweeping : Sweeping registered clients snapshot it attempts)
    (visited : clients[it]? = some client) :
    Sweeping registered clients snapshot (it + 1) (attempts ++ [(client, true)]) := by
  rcases sweeping with ⟨same, ahead, behind⟩
  obtain ⟨bound, client_eq⟩ := List.getElem?_eq_some_iff.mp visited
  refine ⟨same, ?_, ?_⟩
  · rw [← ahead, List.drop_eq_getElem_cons bound, client_eq]
    simp
  · rw [List.take_succ_eq_append_getElem bound, behind, client_eq]
    simp

/-- A failing visit erases the client and stays where it is. -/
theorem Sweeping.failed {registered clients snapshot : List Client} {it : ℕ}
    {attempts : List (Client × Bool)} {client : Client}
    (sweeping : Sweeping registered clients snapshot it attempts)
    (visited : clients[it]? = some client) :
    Sweeping registered (clients.eraseIdx it) snapshot it (attempts ++ [(client, false)]) := by
  rcases sweeping with ⟨same, ahead, behind⟩
  obtain ⟨bound, client_eq⟩ := List.getElem?_eq_some_iff.mp visited
  have length : (clients.take it).length = it := by
    rw [List.length_take]
    omega
  have erased : clients.eraseIdx it = clients.take it ++ clients.drop (it + 1) :=
    List.eraseIdx_eq_take_drop_succ clients it
  refine ⟨same, ?_, ?_⟩
  · rw [← ahead, erased, List.drop_left' length, List.drop_eq_getElem_cons bound, client_eq]
    simp
  · rw [erased, List.take_left' length, behind]
    simp

/-- At the end of the set, every client has been visited and the set holds those
that were reached. -/
theorem Sweeping.complete {earlier : List LogEntry} {clients snapshot : List Client} {it : ℕ}
    {attempts : List (Client × Bool)} {msg : MouseMsg}
    (sweeping : Sweeping (clientsAfter earlier).toList clients snapshot it attempts)
    (atEnd : clients[it]? = none)
    (number : ntohl msg.sequenceNumber = UInt32.ofNat (broadcasts earlier).length) :
    (Broadcast.mk msg snapshot attempts clients).Complete earlier := by
  rcases sweeping with ⟨same, ahead, behind⟩
  have bound : clients.length ≤ it := List.getElem?_eq_none_iff.mp atEnd
  rw [List.drop_eq_nil_of_le bound, List.append_nil] at ahead
  rw [List.take_of_length_le bound] at behind
  exact ⟨same, ahead, behind, number⟩

/-- A thread that does not hold the lock is not in a critical section. -/
theorem Process.Inv.not_sending {p : Process} (inv : p.Inv) (other : p.owner ≠ some .window) :
    ¬ p.window.Sending :=
  fun sending => other (inv.windowLock.mpr sending)

theorem Process.Inv.not_notifying {p : Process} (inv : p.Inv) (other : p.owner ≠ some .server) :
    p.serve ≠ .notifying :=
  fun notifying => other (inv.serverLock.mpr notifying)

theorem Process.Inv.counter_of {p : Process} (inv : p.Inv) {window : WindowPc}
    (here : p.window = window) : p.server.sequenceNumber =
      UInt32.ofNat ((broadcasts p.log).length + window.pending.toList.length) := by
  rw [← here]
  exact inv.counter

theorem Process.Inv.number_of {p : Process} (inv : p.Inv) {window : WindowPc}
    (here : p.window = window) {msg : MouseMsg} (pending : window.pending = some msg) :
    ntohl msg.sequenceNumber = UInt32.ofNat (broadcasts p.log).length :=
  inv.number msg (by rw [here, pending])

/-- A visit of one client keeps the invariant if it keeps `Sweeping`. -/
theorem Process.Inv.visit {p : Process} (inv : p.Inv) {msg : MouseMsg} {snapshot : List Client}
    {it : ℕ} {attempts : List (Client × Bool)}
    (sending : p.window = .sending msg snapshot it attempts) {clients : ClientSet} {it' : ℕ}
    {attempts' : List (Client × Bool)}
    (sweeping : Sweeping (clientsAfter p.log).toList clients.toList snapshot it' attempts') :
    Process.Inv
      { p with
        server := { p.server with clients := clients }
        window := .sending msg snapshot it' attempts' } where
  windowLock := iff_of_true (inv.windowLock.mpr (by rw [sending]; trivial)) trivial
  serverLock := inv.serverLock
  settled := fun notSending => (notSending trivial).elim
  sweeping := by
    intro _ _ _ _ same
    cases same
    exact sweeping
  counter := by
    have counter := inv.counter_of sending
    exact counter
  number := by
    intro _ same
    cases same
    exact inv.number_of sending rfl
  sound := inv.sound

/-- At the end of the set the lock is released and the broadcast logged. -/
theorem Process.Inv.unlock {p : Process} (inv : p.Inv) {msg : MouseMsg} {snapshot : List Client}
    {it : ℕ} {attempts : List (Client × Bool)}
    (sending : p.window = .sending msg snapshot it attempts)
    (atEnd : p.server.clients.toList[it]? = none) :
    Process.Inv
      { p with
        owner := none
        window := .idle
        log := p.log ++ [.broadcast ⟨msg, snapshot, attempts, p.server.clients.toList⟩] } := by
  have owned : p.owner = some .window := inv.windowLock.mpr (by rw [sending]; trivial)
  have unserved : p.serve ≠ .notifying := inv.not_notifying (by simp [owned])
  have complete := (inv.sweeping _ _ _ _ sending).complete atEnd (inv.number_of sending rfl)
  refine ⟨?_, ?_, ?_, ?_, ?_, ?_, inv.sound.concat complete⟩
  · exact iff_of_false (by simp) id
  · exact iff_of_false (by simp) unserved
  · intro _
    apply OrderedSet.ext_toList
    rw [clientsAfter_concat, complete.apply_toList]
    exact complete.remaining
  · intro _ _ _ _ same
    cases same
  · rw [broadcasts_append, List.length_append]
    exact inv.counter_of sending
  · intro _ same
    cases same

/-- An announcement carries the count of the numbers taken. -/
theorem Process.Inv.announced {p : Process} (inv : p.Inv) :
    (LogEntry.announced p.server.sequenceNumber).Sound p.log := by
  cases pending : p.window.pending with
  | none =>
      have counter := inv.counter
      rw [pending] at counter
      exact Or.inl counter
  | some msg =>
      have counter := inv.counter
      rw [pending] at counter
      exact Or.inr counter

/-- Every step keeps the invariant. -/
theorem Process.Inv.step {p q : Process} (inv : p.Inv) (step : p.Step q) : q.Inv := by
  cases step with
  | number msg idle =>
      have quiet : ¬ p.window.Sending := by rw [idle]; exact id
      have counter := inv.counter_of idle
      refine ⟨?_, inv.serverLock, fun _ => inv.settled quiet, ?_, ?_, ?_, inv.sound⟩
      · exact iff_of_false (fun owned => quiet (inv.windowLock.mp owned)) id
      · intro _ _ _ _ same
        cases same
      · simp only [Server.takeNumber, counter, WindowPc.pending, Option.toList_none,
          Option.toList_some, List.length_nil, List.length_singleton, Nat.add_zero,
          UInt32.ofNat_add]
        rfl
      · intro _ same
        cases same
        simpa [Server.takeNumber, WindowPc.pending] using counter
  | lock numbered free =>
      have quiet : ¬ p.window.Sending := inv.not_sending (by simp [free])
      have unserved : p.serve ≠ .notifying := inv.not_notifying (by simp [free])
      have counter := inv.counter_of numbered
      refine ⟨iff_of_true rfl trivial, ?_, ?_, ?_, counter, ?_, inv.sound⟩
      · exact iff_of_false (by simp) unserved
      · exact fun notSending => (notSending trivial).elim
      · intro _ _ _ _ same
        cases same
        rw [inv.settled quiet]
        exact Sweeping.begin _
      · intro _ same
        cases same
        exact inv.number_of numbered rfl
  | sent sending visited => exact inv.visit sending ((inv.sweeping _ _ _ _ sending).sent visited)
  | failed sending visited =>
      exact inv.visit sending ((inv.sweeping _ _ _ _ sending).failed visited)
  | unlock sending atEnd => exact inv.unlock sending atEnd
  | announce polling =>
      refine ⟨inv.windowLock, inv.serverLock, ?_, ?_, ?_, ?_, inv.sound.concat inv.announced⟩
      · intro notSending
        rw [clientsAfter_concat]
        exact inv.settled notSending
      · rw [clientsAfter_concat]
        exact inv.sweeping
      · simpa using inv.counter
      · simpa using inv.number
  | connect peer now polling =>
      have unserved : p.serve ≠ .notifying := by simp [polling]
      refine ⟨inv.windowLock, ?_, inv.settled, inv.sweeping, inv.counter, inv.number, inv.sound⟩
      exact iff_of_false (fun owned => unserved (inv.serverLock.mp owned)) (by simp)
  | register connecting free =>
      have quiet : ¬ p.window.Sending := inv.not_sending (by simp [free])
      refine ⟨?_, iff_of_true rfl rfl, ?_, ?_, ?_, ?_, inv.sound.concat trivial⟩
      · exact iff_of_false (by simp) quiet
      · intro _
        rw [clientsAfter_concat, ← inv.settled quiet]
        rfl
      · intro msg snapshot it attempts sending
        exact (quiet (by rw [show p.window = _ from sending]; trivial)).elim
      · simpa [Server.register] using inv.counter
      · simpa using inv.number
  | notified notifying returned =>
      have owned : p.owner = some .server := inv.serverLock.mpr notifying
      have quiet : ¬ p.window.Sending := inv.not_sending (by simp [owned])
      refine ⟨?_, ?_, inv.settled, inv.sweeping, inv.counter, inv.number, inv.sound⟩
      · exact iff_of_false (by simp) quiet
      · exact iff_of_false (by simp) (by simp)

/-- The invariant holds in any interleaving. -/
theorem Process.Reachable.inv {window : Pointer} {p : Process} (reachable : p.Reachable window) :
    p.Inv :=
  Runs.invariant (fun _ _ inv step => inv.step step) (Process.Inv.start window) reachable

/-! ## The uninterrupted send

`Server.send`, which sends in one piece, is a run of these steps in which the
server thread stands still. -/

/-- From anywhere in the loop, the window thread visits the rest of the set and
releases the lock. -/
theorem Process.sweep_steps (fails : Client → Bool) {msg : MouseMsg} {snapshot : List Client}
    (fuel : ℕ) {p : Process} {it : ℕ} {attempts : List (Client × Bool)}
    (sending : p.window = .sending msg snapshot it attempts)
    (enough : p.server.clients.toList.length - it ≤ fuel) :
    ∃ clients : ClientSet,
      clients.toList = (OrderedSet.sweepLoop fails fuel p.server.clients.toList it).1 ∧
        Relation.ReflTransGen Process.Step p
          { p with
            server := { p.server with clients := clients }
            owner := none
            window := .idle
            log := p.log ++ [.broadcast ⟨msg, snapshot,
              attempts ++ (OrderedSet.sweepLoop fails fuel p.server.clients.toList it).2,
              clients.toList⟩] } := by
  induction fuel generalizing p it attempts with
  | zero =>
      have atEnd : p.server.clients.toList[it]? = none := List.getElem?_eq_none_iff.mpr (by omega)
      refine ⟨p.server.clients, rfl, .single ?_⟩
      rw [OrderedSet.sweepLoop, List.append_nil]
      exact .unlock sending atEnd
  | succ fuel ih =>
      cases visited : p.server.clients.toList[it]? with
      | none =>
          rw [OrderedSet.sweepLoop_of_end _ visited]
          refine ⟨p.server.clients, rfl, .single ?_⟩
          rw [List.append_nil]
          exact .unlock sending visited
      | some client =>
          obtain ⟨bound, -⟩ := List.getElem?_eq_some_iff.mp visited
          cases failed : fails client with
          | true =>
              obtain ⟨clients, left, steps⟩ := ih (p := { p with
                  server := { p.server with clients := p.server.clients.eraseAt it }
                  window := .sending msg snapshot it (attempts ++ [(client, false)]) }) rfl (by
                simp only [OrderedSet.eraseAt, List.length_eraseIdx_of_lt bound]
                omega)
              rw [OrderedSet.sweepLoop_of_fails _ visited failed]
              refine ⟨clients, left, .head (.failed sending visited) ?_⟩
              rw [List.append_assoc] at steps
              exact steps
          | false =>
              obtain ⟨clients, left, steps⟩ := ih (p := { p with
                  window := .sending msg snapshot (it + 1) (attempts ++ [(client, true)]) }) rfl (by
                dsimp only
                omega)
              rw [OrderedSet.sweepLoop_of_succeeds _ visited failed]
              refine ⟨clients, left, .head (.sent sending visited) ?_⟩
              rw [List.append_assoc] at steps
              exact steps

/-- With the lock free, a message is sent in one go, whichever `sendto`s fail. -/
theorem Process.send_steps {p : Process} (idle : p.window = .idle) (free : p.owner = none)
    (msg : MouseMsg) (fails : Client → Bool) :
    ∃ b : Broadcast,
      (p.server.send msg fails).2 =
          b.attempts.map (fun attempt => .deliver b.msg.toBytes attempt.1 attempt.2) ∧
        Relation.ReflTransGen Process.Step p
          { p with server := (p.server.send msg fails).1, log := p.log ++ [.broadcast b] } := by
  obtain ⟨clients, left, steps⟩ := Process.sweep_steps fails p.server.clients.toList.length
    (p := { p with
      server := p.server.takeNumber.1
      owner := some .window
      window := .sending (msg.withSequenceNumber (htonl p.server.takeNumber.2))
        p.server.clients.toList 0 [] }) rfl (Nat.le_of_eq rfl)
  have swept : clients = (p.server.clients.sweep fails).1 := OrderedSet.ext_toList left
  subst swept
  rcases p with ⟨server, owner, window, serve, log⟩
  cases idle
  cases free
  exact ⟨_, rfl, .head (.number msg rfl) (.head (.lock rfl rfl) steps)⟩

end MagicMousePad
