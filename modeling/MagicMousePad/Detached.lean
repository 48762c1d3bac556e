import MagicMousePad.Discovery

/-!
# The detached receiver of a discovery

The thread that `discover` starts is detached and refers to `socket` and `found`, which are
gone when `discover` has returned.  Here it takes its steps one by one: it reads `socket`
before each `recvfrom`, and stores the server, the number and `found` one after another.

As far as `discover` is concerned nothing is lost by taking these stores as one step, as
`Discovery` does.  When `discover` succeeds the thread has left; when it fails the thread
goes on to refer to what is gone unless it is in `recvfrom`, which fails then.
-/

namespace MagicMousePad

/-! ## The thread -/

/-- What the thread stores when it has received an announcement, in this order. -/
inductive AnswerStore
  | server
  | sequenceNumber
  | found
  deriving DecidableEq

/-- Where the thread is. -/
inductive AnswerPc
  | calling
  | waiting
  | storing (next : AnswerStore) (data : Datagram) (sender : Announcer) (client : MmpClient)
  | left

/-- A local of `discover` that the thread refers to. -/
inductive FrameAccess
  | socket
  | found
  deriving DecidableEq

/-- `discover` and its thread, with the accesses to locals that are gone.  What the thread
stores shows in `discovery` when it has stored `found`. -/
structure Detached where
  discovery : Discovery
  thread : AnswerPc
  late : List FrameAccess

/-- `discover` has returned. -/
def DiscoverPc.isOver : DiscoverPc → Bool
  | .returned _ => true
  | _ => false

namespace Detached

/-- `discover` up to its loop, with the thread if it has been started. -/
def start (client : MmpClient) (env : DiscoverEnv) : Detached where
  discovery := client.discover env
  thread := if (client.discover env).receiving then .calling else .left
  late := []

/-- The access of the thread, if it comes too late. -/
def touch (s : Detached) (access : FrameAccess) : List FrameAccess :=
  s.late ++ if s.discovery.main.isOver then [access] else []

/-- The search with what the thread has received. -/
def received (d : Discovery) (data : Datagram) (sender : Announcer) : Discovery :=
  { d with
    buffer := d.buffer.overwrite data.bytes
    peer := d.peer.overwrite sender.report }

/-- What the thread makes of a datagram: the client that an announcement leads to. -/
def answer (d : Discovery) (data : Datagram) (sender : Announcer) : Option MmpClient :=
  d.client.discoverReceive d.buffer data (d.peer.overwrite sender.report)

/-- One step of either thread. -/
inductive Step : Detached → Detached → Prop
  /-- The caller goes on; only its steps change where it is or what it has sent. -/
  | caller {s : Detached} {d : Discovery} :
    s.discovery.Step d → (d.main ≠ s.discovery.main ∨ d.attempts ≠ s.discovery.attempts) →
    Step s { s with discovery := d }
  /-- The thread reads `socket`. -/
  | call {s : Detached} :
    s.thread = .calling → Step s { s with thread := .waiting, late := s.touch .socket }
  /-- It receives something else than an announcement. -/
  | ignore {s : Detached} (data : Datagram) (sender : Announcer) :
    s.thread = .waiting → s.discovery.main.isOver = false →
    answer s.discovery data sender = none →
    Step s { s with discovery := received s.discovery data sender, thread := .calling }
  /-- It receives an announcement. -/
  | announced {s : Detached} {client : MmpClient} (data : Datagram) (sender : Announcer) :
    s.thread = .waiting → s.discovery.main.isOver = false →
    answer s.discovery data sender = some client →
    Step s { s with thread := .storing .server data sender client }
  /-- `recvfrom` fails, as it does when the socket has been closed. -/
  | failed {s : Detached} :
    s.thread = .waiting →
    Step s { s with discovery := { s.discovery with receiving := false }, thread := .left }
  | storeServer {s : Detached} {client : MmpClient} {data : Datagram} {sender : Announcer} :
    s.thread = .storing .server data sender client →
    Step s { s with thread := .storing .sequenceNumber data sender client }
  | storeNumber {s : Detached} {client : MmpClient} {data : Datagram} {sender : Announcer} :
    s.thread = .storing .sequenceNumber data sender client →
    Step s { s with thread := .storing .found data sender client }
  /-- It stores `found` and leaves. -/
  | storeFound {s : Detached} {client : MmpClient} {data : Datagram} {sender : Announcer} :
    s.thread = .storing .found data sender client →
    Step s
      { discovery :=
          { received s.discovery data sender with
            client := client
            receiving := false
            found := true }
        thread := .left
        late := s.touch .found }

/-- The states in any interleaving of the two threads. -/
def Reachable (client : MmpClient) (env : DiscoverEnv) (s : Detached) : Prop :=
  Relation.ReflTransGen Step (start client env) s

/-- The thread does not refer to the locals of `discover` any more. -/
def Harmless (s : Detached) : Prop := s.thread = .waiting ∨ s.thread = .left

/-! ## The invariant -/

variable {client : MmpClient} {env : DiscoverEnv} {s t : Detached} {d : Discovery} {code : Int32}

/-- The thread has left when it has stored `found` and when `discover` has succeeded, and
as long as `discover` runs it is in a state of `Discovery`. -/
structure Inv (client : MmpClient) (env : DiscoverEnv) (s : Detached) : Prop where
  found : s.discovery.found = true → s.thread = .left
  succeeded : s.discovery.main = .returned 0 → s.thread = .left
  receiving : s.thread ≠ .left → s.discovery.receiving = true
  answers : ∀ next data sender left, s.thread = .storing next data sender left →
    answer s.discovery data sender = some left
  late : s.discovery.main.isOver = false ∨ s.discovery.main = .returned 0 → s.late = []
  coarse : ∃ d, Relation.ReflTransGen Discovery.Step (client.discover env) d ∧
    d.main = s.discovery.main ∧
      (s.discovery.main.isOver = false ∨ s.discovery.main = .returned 0 → d = s.discovery)

theorem touch_of_running (running : s.discovery.main.isOver = false) (access : FrameAccess) :
    s.touch access = s.late := by
  simp [touch, running]

theorem running_iff : s.discovery.main.isOver = false ↔
    ∀ code, s.discovery.main ≠ .returned code := by
  cases main : s.discovery.main <;> simp [DiscoverPc.isOver]

/-- A thread that is still there has been started at the start of the search. -/
theorem main_of_receiving (receiving : (client.discover env).receiving = true) :
    (client.discover env).main = .testing ∧ (client.discover env).found = false := by
  unfold MmpClient.discover at receiving ⊢
  cases given : client.serverPort with
  | inl final =>
      rw [given] at receiving
      cases receiving
  | inr port =>
      rw [given] at receiving
      dsimp only at receiving ⊢
      rcases client.search_cases env port with ⟨main, failed, -⟩ | ⟨-, -, unfound, testing⟩
      · rw [failed] at receiving
        cases receiving
      · exact ⟨testing, unfound⟩

theorem Inv.start (client : MmpClient) (env : DiscoverEnv) : Inv client env (start client env) := by
  have coarse : ∃ d, Relation.ReflTransGen Discovery.Step (client.discover env) d ∧
      d.main = (client.discover env).main ∧
        ((client.discover env).main.isOver = false ∨ (client.discover env).main = .returned 0 →
          d = client.discover env) :=
    ⟨_, .refl, rfl, fun _ => rfl⟩
  cases receiving : (client.discover env).receiving with
  | true =>
      obtain ⟨testing, unfound⟩ := main_of_receiving receiving
      refine ⟨fun found => ?_, fun returned => ?_, fun _ => receiving, ?_, fun _ => rfl, coarse⟩
      · cases found.symm.trans unfound
      · cases returned.symm.trans testing
      · simp [Detached.start, receiving]
  | false =>
      have left : (Detached.start client env).thread = .left := by
        simp [Detached.start, receiving]
      refine ⟨fun _ => left, fun _ => left, fun other => absurd left other, ?_, fun _ => rfl,
        coarse⟩
      simp [left]

/-- As long as `discover` runs, a step is one of `Discovery` or does not show there. -/
theorem Inv.refines (inv : Inv client env s) (running : s.discovery.main.isOver = false)
    (step : s.Step t) : t.discovery = s.discovery ∨ s.discovery.Step t.discovery := by
  have unreturned := running_iff.mp running
  cases step with
  | caller step moves => exact Or.inr step
  | call calling => exact Or.inl rfl
  | ignore data sender waiting open' nothing =>
      have receiving := inv.receiving (by simp [waiting])
      have step := Discovery.Step.receive data sender receiving unreturned
      rw [show s.discovery.client.discoverReceive _ data _ = none from nothing] at step
      exact Or.inr step
  | announced data sender waiting open' announcement => exact Or.inl rfl
  | failed waiting =>
      exact Or.inr (.receiveFailed (inv.receiving (by simp [waiting])) unreturned)
  | storeServer storing => exact Or.inl rfl
  | storeNumber storing => exact Or.inl rfl
  | @storeFound client data sender storing =>
      have receiving := inv.receiving (by simp [storing])
      have step := Discovery.Step.receive data sender receiving unreturned
      rw [show s.discovery.client.discoverReceive _ data _ = some client from
        inv.answers _ _ _ _ storing] at step
      exact Or.inr step

/-- Where the caller is after a step of the thread. -/
theorem Inv.coarse_step (inv : Inv client env s) (step : s.Step t)
    (same : t.discovery.main = s.discovery.main) (present : s.thread ≠ .left) :
    ∃ d, Relation.ReflTransGen Discovery.Step (client.discover env) d ∧
      d.main = t.discovery.main ∧
        (t.discovery.main.isOver = false ∨ t.discovery.main = .returned 0 → d = t.discovery) := by
  obtain ⟨d, run, main, here⟩ := inv.coarse
  rw [same]
  cases ended : s.discovery.main.isOver with
  | true =>
      refine ⟨d, run, main, fun success => ?_⟩
      exact absurd (inv.succeeded (success.resolve_left (by simp))) present
  | false =>
      have current := here (Or.inl ended)
      subst current
      rcases inv.refines ended step with unchanged | next
      · exact ⟨_, run, rfl, fun _ => unchanged.symm⟩
      · exact ⟨_, run.tail next, same, fun _ => rfl⟩

theorem Inv.step (inv : Inv client env s) (step : s.Step t) : Inv client env t := by
  have unfound : s.thread ≠ .left → ¬ s.discovery.found = true :=
    fun present found => present (inv.found found)
  have unsuccessful : s.thread ≠ .left → s.discovery.main ≠ .returned 0 :=
    fun present returned => present (inv.succeeded returned)
  have timely : ∀ access, s.thread ≠ .left →
      s.discovery.main.isOver = false ∨ s.discovery.main = .returned 0 → s.touch access = [] := by
    intro access present open'
    have running := open'.resolve_right (unsuccessful present)
    rw [touch_of_running running]
    exact inv.late open'
  have whole := step
  cases step with
  | caller step moves =>
      have running : s.discovery.main.isOver = false := by
        refine running_iff.mpr fun code returned => ?_
        exact Discovery.ended_of_returned returned _ step
      obtain ⟨sameClient, sameBuffer, samePeer, sameReceiving, sameFound⟩ :=
        Discovery.caller_frame step moves
      obtain ⟨d, run, -, here⟩ := inv.coarse
      have current := here (Or.inl running)
      subst current
      refine ⟨fun found => inv.found (sameFound ▸ found),
        fun returned => inv.found (Discovery.found_of_returned step returned),
        fun present => sameReceiving ▸ inv.receiving present, ?_,
        fun _ => inv.late (Or.inl running), ⟨_, run.tail step, rfl, fun _ => rfl⟩⟩
      intro next data sender left storing
      rw [answer, sameClient, sameBuffer, samePeer]
      exact inv.answers next data sender left storing
  | call calling =>
      have present : s.thread ≠ .left := by simp [calling]
      exact ⟨fun found => absurd found (unfound present),
        fun returned => absurd returned (unsuccessful present), fun _ => inv.receiving present,
        by simp, timely .socket present, inv.coarse⟩
  | ignore data sender waiting open' nothing =>
      have present : s.thread ≠ .left := by simp [waiting]
      exact ⟨fun found => absurd found (unfound present),
        fun returned => absurd returned (unsuccessful present), fun _ => inv.receiving present,
        by simp, inv.late, inv.coarse_step whole rfl present⟩
  | announced data sender waiting open' announcement =>
      have present : s.thread ≠ .left := by simp [waiting]
      refine ⟨fun found => absurd found (unfound present),
        fun returned => absurd returned (unsuccessful present), fun _ => inv.receiving present,
        ?_, inv.late, inv.coarse⟩
      intro next data' sender' left storing
      cases storing
      exact announcement
  | failed waiting =>
      have present : s.thread ≠ .left := by simp [waiting]
      exact ⟨fun _ => rfl, fun _ => rfl, fun other => absurd rfl other, by simp, inv.late,
        inv.coarse_step whole rfl present⟩
  | storeServer storing =>
      have present : s.thread ≠ .left := by simp [storing]
      refine ⟨fun found => absurd found (unfound present),
        fun returned => absurd returned (unsuccessful present), fun _ => inv.receiving present,
        ?_, inv.late, inv.coarse⟩
      intro next data' sender' left same
      cases same
      exact inv.answers _ _ _ _ storing
  | storeNumber storing =>
      have present : s.thread ≠ .left := by simp [storing]
      refine ⟨fun found => absurd found (unfound present),
        fun returned => absurd returned (unsuccessful present), fun _ => inv.receiving present,
        ?_, inv.late, inv.coarse⟩
      intro next data' sender' left same
      cases same
      exact inv.answers _ _ _ _ storing
  | storeFound storing =>
      have present : s.thread ≠ .left := by simp [storing]
      exact ⟨fun _ => rfl, fun _ => rfl, fun other => absurd rfl other, by simp,
        timely .found present, inv.coarse_step whole rfl present⟩

/-! ## After the return -/

/-- After the return, a thread that does not refer to the locals does not do so later. -/
theorem Harmless.step (harmless : s.Harmless) (ended : s.discovery.main.isOver = true)
    (step : s.Step t) : t.Harmless ∧ t.discovery.main.isOver = true ∧ t.late = s.late := by
  cases step with
  | caller step moves =>
      obtain ⟨code, returned⟩ : ∃ code, s.discovery.main = .returned code := by
        by_contra other
        have running := running_iff.mpr fun code returned => other ⟨code, returned⟩
        exact Bool.noConfusion (ended.symm.trans running)
      exact (Discovery.ended_of_returned returned _ step).elim
  | call calling => simp [Harmless, calling] at harmless
  | ignore data sender waiting open' nothing => exact absurd open' (by simp [ended])
  | announced data sender waiting open' announcement => exact absurd open' (by simp [ended])
  | failed waiting => exact ⟨Or.inr rfl, ended, rfl⟩
  | storeServer storing => simp [Harmless, storing] at harmless
  | storeNumber storing => simp [Harmless, storing] at harmless
  | storeFound storing => simp [Harmless, storing] at harmless

/-- A thread that has left does nothing after the return. -/
theorem ended_of_left (left : s.thread = .left) (returned : s.discovery.main = .returned code) :
    Runs.Ended Step s := by
  intro t step
  cases step with
  | caller step moves => exact Discovery.ended_of_returned returned _ step
  | call calling => cases left.symm.trans calling
  | ignore data sender waiting open' nothing => cases left.symm.trans waiting
  | announced data sender waiting open' announcement => cases left.symm.trans waiting
  | failed waiting => cases left.symm.trans waiting
  | storeServer storing => cases left.symm.trans storing
  | storeNumber storing => cases left.symm.trans storing
  | storeFound storing => cases left.symm.trans storing

/-- A thread that goes on after the return refers to what is gone. -/
theorem exists_late_of_not_harmless (ended : s.discovery.main.isOver = true)
    (harmful : ¬ s.Harmless) : ∃ t, Relation.ReflTransGen Step s t ∧ t.late ≠ [] := by
  have late : ∀ access, s.touch access ≠ [] := by
    intro access
    simp [touch, ended]
  cases thread : s.thread with
  | calling => exact ⟨_, .single (.call thread), late .socket⟩
  | waiting => exact absurd (Or.inl thread) harmful
  | left => exact absurd (Or.inr thread) harmful
  | storing next data sender client =>
      cases next with
      | server =>
          exact ⟨_, .tail (.tail (.single (.storeServer thread)) (.storeNumber rfl))
            (.storeFound rfl), late .found⟩
      | sequenceNumber =>
          exact ⟨_, .tail (.single (.storeNumber thread)) (.storeFound rfl), late .found⟩
      | found => exact ⟨_, .single (.storeFound thread), late .found⟩

/-- When `discover` has returned, it has returned what some run of `Discovery` returns.  If
that is success, the client is the one of that run, nothing happens any more, and nothing
has been accessed too late.  If it is not, the thread accesses a local that is gone, unless
it is in `recvfrom` or has left. -/
theorem Reachable.outlives (reachable : Reachable client env s)
    (returned : s.discovery.main = .returned code) :
    (∃ left, client.Discovers env left code) ∧
      (code = 0 → client.Discovers env s.discovery.client 0 ∧ Runs.Ended Step s ∧ s.late = []) ∧
      (s.late = [] →
        ((∃ t, Relation.ReflTransGen Step s t ∧ t.late ≠ []) ↔ ¬ s.Harmless)) := by
  have inv : Inv client env s :=
    Runs.invariant (fun _ _ inv step => Inv.step inv step) (Inv.start client env) reachable
  have ended : s.discovery.main.isOver = true := by rw [returned]; rfl
  obtain ⟨d, run, main, here⟩ := inv.coarse
  refine ⟨⟨d.client, d, run, main.trans returned, rfl⟩, fun success => ?_, fun unaccessed => ?_⟩
  · subst success
    have current := here (Or.inr returned)
    subst current
    exact ⟨⟨_, run, returned, rfl⟩, ended_of_left (inv.succeeded returned) returned,
      inv.late (Or.inr returned)⟩
  · refine ⟨fun accessed harmless => ?_, exists_late_of_not_harmless ended⟩
    obtain ⟨t, later, late⟩ := accessed
    have kept : t.Harmless ∧ t.discovery.main.isOver = true ∧ t.late = [] := by
      refine Runs.invariant (P := fun t : Detached =>
        t.Harmless ∧ t.discovery.main.isOver = true ∧ t.late = []) ?_ ⟨harmless, ended, unaccessed⟩
        later
      intro t t' holds step
      obtain ⟨harmless', ended', same⟩ := Harmless.step holds.1 holds.2.1 step
      exact ⟨harmless', ended', same.trans holds.2.2⟩
    exact late kept.2.2

/-- The time is over when the thread has received an announcement. -/
theorem outlives_of_timeout :
    ∃ s : Detached, s.discovery.main = .returned (hresultFromWin32 errorTimeout) ∧
      ∃ t, Relation.ReflTransGen Step s t ∧ t.late ≠ [] := by
  let client := MmpClient.new
    { server := SockaddrStorage.zero.withFamily Family.inet.value, timeout := 5 }
  let address := PeerAddress.ofSinAddr (htons mmpDefaultPort) 0x0200080A
  let search : Discovery :=
    { Discovery.ended client .testing with
      receiving := true
      addresses := [address]
      deadline := some 5 }
  let sent : Discovery :=
    { search with
      attempts := [(Discovery.message, address, true)]
      main := .sending 1 }
  obtain ⟨left, answered⟩ : ∃ left, answer sent (MmpMsgAnnounce.datagram {})
      MmpClient.localAnnouncer = some left := Option.isSome_iff_exists.mp (by decide)
  have begun : search.Step { search with main := .sending 0 } := .test 0 rfl
  have asked : Discovery.Step { search with main := .sending 0 } sent := .sent rfl rfl
  have asleep : sent.Step { sent with main := .testing } := .sleep rfl rfl (by simp [sent, search])
  have late : Discovery.Step { sent with main := .testing } { sent with main := .leaving } :=
    .test 10 rfl
  have timedOut : Discovery.Step { sent with main := .leaving }
      { sent with main := .returned (hresultFromWin32 errorTimeout) } := .leave rfl
  have run : Reachable client MmpClient.unbindable _ :=
    Relation.ReflTransGen.refl
      |>.tail (.call rfl) |>.tail (.caller begun (.inl nofun)) |>.tail (.caller asked (.inl nofun))
      |>.tail (.announced _ _ rfl rfl answered) |>.tail (.caller asleep (.inl nofun))
      |>.tail (.caller late (.inl nofun)) |>.tail (.caller timedOut (.inl nofun))
  exact ⟨_, rfl, ((run.outlives rfl).2.2 rfl).mpr (by simp [Harmless])⟩

end Detached

end MagicMousePad
