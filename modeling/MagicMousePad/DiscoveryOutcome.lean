import MagicMousePad.Adapters
import MagicMousePad.Lib.Runs

/-!
# The outcome of a discovery

What the search makes of an announcement, and how it is entered.  Once begun, the
search ends with the sender of the announcement as the server; but it begins exactly
when the socket of the discovery is not bound, and is refused when it is.
-/

namespace MagicMousePad

open ByteOrder

/-! ## Announcements -/

/-- An announcement of at least the size of its message. -/
structure Datagram.IsAnnouncement (data : Datagram) : Prop where
  long : MmpMsgAnnounce.size ≤ data.bytes.length
  tagged : networkImage mmpMsgidAnnounce <+: data.bytes

/-- The receiver takes its sender for the server. -/
theorem MmpClient.discoverReceive_of_isAnnouncement (client : MmpClient) (buffer : Memory)
    {data : Datagram} (announcement : data.IsAnnouncement) (peer : SockaddrStorage) :
    ∃ number, client.discoverReceive buffer data peer =
      some { client with config.server := peer, sequenceNumber := number } := by
  have size : MmpMsgAnnounce.size = 8 := rfl
  have long := announcement.long
  have id : ntohl (load32 (buffer.overwrite data.bytes) 0) = mmpMsgidAnnounce :=
    (ntohl_load32_overwrite_iff (by omega)).mpr announcement.tagged
  unfold discoverReceive
  dsimp only
  rw [if_neg (not_lt.mpr long), if_pos id]
  exact ⟨_, rfl⟩

/-- Whatever the receiver takes for an announcement, its sender becomes the server. -/
theorem MmpClient.server_of_discoverReceive {client left : MmpClient} {buffer : Memory}
    {data : Datagram} {peer : SockaddrStorage}
    (answer : client.discoverReceive buffer data peer = some left) :
    left.config.server = peer := by
  unfold discoverReceive at answer
  dsimp only at answer
  split at answer
  · cases answer
  · split at answer
    · cases answer
      rfl
    · cases answer

namespace Discovery

variable {d d' : Discovery} {address : PeerAddress .inet} {data : Datagram} {sender : Announcer}

/-! ## A system that lets the search succeed -/

/-- A step during which the address is not refused, the receiver does not fail, the
first announcement is the one given, and the search does not return before it comes. -/
structure Favourable (address : PeerAddress .inet) (data : Datagram) (sender : Announcer)
    (d d' : Discovery) : Prop where
  step : Step d d'
  accepts : address ∈ d.addresses → address ∈ d'.addresses
  listens : d'.receiving = false → d'.found = true
  announced : d.found = false → d'.found = true →
    d.client.discoverReceive d.buffer data (d.peer.overwrite sender.report) = some d'.client
  waits : ∀ code, d'.main = .returned code → d'.found = true

/-- The server is the sender of the announcement. -/
def Knows (sender : Announcer) (d : Discovery) : Prop :=
  d.client.config.server.bytes.take Family.inet.addressLength = sender.report.bytes

/-- While the search goes on its receiver waits for the announcement, and the address
is among those it sends to. -/
structure Searching (address : PeerAddress .inet) (sender : Announcer) (d : Discovery) :
    Prop where
  kept : address ∈ d.addresses
  waiting : d.found = false → d.receiving = true
  knows : d.found = true → d.receiving = false ∧ d.Knows sender
  returned : ∀ code, d.main = .returned code → code = 0 ∧ d.found = true
  stays : d.main ≠ .threw

theorem knows_overwrite {peer : SockaddrStorage} {client : MmpClient}
    (same : client.config.server = peer.overwrite sender.report) :
    client.config.server.bytes.take Family.inet.addressLength = sender.report.bytes := by
  rw [same, SockaddrStorage.overwrite]
  exact List.take_left' sender.report.size

theorem Searching.unfound (searching : d.Searching address sender)
    (receiving : d.receiving = true) : d.found = false := by
  by_contra found
  have left := (searching.knows (eq_true_of_ne_false found)).1
  exact Bool.noConfusion (receiving.symm.trans left)

/-- A favourable step keeps the search on its way. -/
theorem Searching.step (searching : d.Searching address sender)
    (favourable : Favourable address data sender d d') : d'.Searching address sender := by
  have kept := favourable.accepts searching.kept
  have listens := favourable.listens
  have announced := favourable.announced
  have waits := favourable.waits
  cases favourable.step with
  | test now testing =>
      refine ⟨kept, searching.waiting, searching.knows, fun code ended => ?_, ?_⟩
      · dsimp only at ended
        split at ended <;> cases ended
      · dsimp only
        split <;> simp
  | sent sending place =>
      exact ⟨kept, searching.waiting, searching.knows, by simp, by simp⟩
  | failed sending place =>
      exact ⟨kept, searching.waiting, searching.knows, by simp, by simp⟩
  | sleep sending last some =>
      exact ⟨kept, searching.waiting, searching.knows, by simp, by simp⟩
  | exhausted error sending none => exact absurd searching.kept (by simp [none])
  | leave leaving =>
      have found : d.found = true := waits _ rfl
      refine ⟨kept, searching.waiting, searching.knows, fun code ended => ?_, by simp⟩
      have success := DiscoverPc.returned.inj ended
      rw [if_pos found] at success
      exact ⟨success.symm, found⟩
  | receive other peer receiving running =>
      have unfound := searching.unfound receiving
      cases answer : d.client.discoverReceive d.buffer other (d.peer.overwrite peer.report) with
      | none =>
          simp only [answer] at kept
          exact ⟨kept, fun _ => receiving, fun found => absurd found (by simp [unfound]),
            fun code ended => (running code ended).elim, searching.stays⟩
      | some client =>
          simp only [answer] at kept announced
          have server := MmpClient.server_of_discoverReceive (announced unfound trivial)
          exact ⟨kept, fun lost => Bool.noConfusion lost,
            fun _ => ⟨rfl, knows_overwrite server⟩,
            fun code ended => (running code ended).elim, searching.stays⟩
  | receiveFailed receiving running =>
      have unfound := searching.unfound receiving
      exact absurd (listens rfl) (by simp [unfound])

/-- A step that leaves the receiver and the addresses alone is favourable, unless it
returns too early. -/
theorem Searching.favourable (searching : d.Searching address sender) (step : Step d d')
    (addresses : d'.addresses = d.addresses) (receiving : d'.receiving = d.receiving)
    (found : d'.found = d.found) (waits : ∀ code, d'.main = .returned code → d'.found = true) :
    Favourable address data sender d d' where
  step := step
  accepts known := addresses ▸ known
  listens quiet := by
    by_contra unfound
    have waiting := searching.waiting (found ▸ eq_false_of_ne_true unfound)
    exact Bool.noConfusion (waiting.symm.trans (receiving ▸ quiet))
  announced unfound found' := Bool.noConfusion (unfound.symm.trans (found ▸ found'))
  waits := waits

/-- A search under way can go on, unless it has returned. -/
theorem Searching.exists_favourable (searching : d.Searching address sender)
    (announcement : data.IsAnnouncement) (going : ∀ code, d.main ≠ .returned code) :
    ∃ d', Favourable address data sender d d' := by
  cases main : d.main with
  | testing =>
      refine ⟨_, searching.favourable (.test 0 main) rfl rfl rfl fun code returned => ?_⟩
      dsimp only at returned
      split at returned <;> cases returned
  | sending it =>
      cases place : d.addresses[it]? with
      | some target =>
          exact ⟨_, searching.favourable (.sent main place) rfl rfl rfl (by simp)⟩
      | none =>
          have present : d.addresses ≠ [] := List.ne_nil_of_mem searching.kept
          exact ⟨_, searching.favourable (.sleep main place present) rfl rfl rfl (by simp)⟩
  | leaving =>
      cases found : d.found with
      | true => exact ⟨_, searching.favourable (.leave main) rfl rfl rfl fun _ _ => found⟩
      | false =>
          -- The announcement comes before the result is read.
          obtain ⟨number, answer⟩ := d.client.discoverReceive_of_isAnnouncement d.buffer
            announcement (d.peer.overwrite sender.report)
          have received := Step.receive data sender (searching.waiting found) going
          rw [answer] at received
          exact ⟨_, received, id, fun _ => rfl, fun _ _ => answer, fun _ _ => rfl⟩
  | returned code => exact absurd main (going code)
  | threw => exact absurd main searching.stays

/-- What is left to do after the announcement. -/
def remaining (d : Discovery) : ℕ :=
  match d.main with
  | .sending it => 3 + (d.addresses.length - it)
  | .testing => 2
  | .leaving => 1
  | .returned _ => 0
  | .threw => 0

/-- After the announcement every step brings `discover` closer to its end. -/
theorem Searching.remaining_lt (searching : d.Searching address sender) (found : d.found = true)
    (step : Step d d') : d'.remaining < d.remaining ∧ d'.found = true := by
  have quiet := (searching.knows found).1
  cases step with
  | test now testing => simp [remaining, testing, found]
  | sent sending place =>
      have inside := (List.getElem?_eq_some_iff.mp place).1
      simp only [remaining, sending]
      exact ⟨by omega, found⟩
  | failed sending place =>
      have inside := (List.getElem?_eq_some_iff.mp place).1
      simp only [remaining, sending, List.length_eraseIdx, if_pos inside]
      exact ⟨by omega, found⟩
  | sleep sending last some =>
      simp only [remaining, sending]
      exact ⟨by omega, found⟩
  | exhausted error sending none =>
      simp only [remaining, sending]
      exact ⟨by omega, found⟩
  | leave leaving =>
      simp only [remaining, leaving]
      exact ⟨by omega, found⟩
  | receive other peer receiving running => exact Bool.noConfusion (receiving.symm.trans quiet)
  | receiveFailed receiving running => exact Bool.noConfusion (receiving.symm.trans quiet)

/-- Discovery messages are sent to the addresses, and to no others. -/
structure Sends (addresses : List (PeerAddress .inet)) (d : Discovery) : Prop where
  known : d.addresses ⊆ addresses
  sent : ∀ attempt ∈ d.attempts, attempt.1 = message ∧ attempt.2.1 ∈ addresses

theorem Sends.step {addresses : List (PeerAddress .inet)} (sends : d.Sends addresses)
    (step : Step d d') : d'.Sends addresses := by
  have attempted : ∀ {it : ℕ} {target : PeerAddress .inet} {success : Bool},
      d.addresses[it]? = some target → ∀ attempt ∈ d.attempts ++ [(message, target, success)],
        attempt.1 = message ∧ attempt.2.1 ∈ addresses := by
    intro it target success place attempt among
    rcases List.mem_append.mp among with earlier | last
    · exact sends.sent attempt earlier
    · rw [List.mem_singleton.mp last]
      exact ⟨rfl, sends.known (List.mem_of_getElem? place)⟩
  cases step with
  | test now testing => exact ⟨sends.known, sends.sent⟩
  | sent sending place => exact ⟨sends.known, attempted place⟩
  | failed sending place =>
      exact ⟨fun target among => sends.known (List.mem_of_mem_eraseIdx among), attempted place⟩
  | sleep sending last some => exact ⟨sends.known, sends.sent⟩
  | exhausted error sending none => exact ⟨sends.known, sends.sent⟩
  | leave leaving => exact ⟨sends.known, sends.sent⟩
  | receive other peer receiving running => split <;> exact ⟨sends.known, sends.sent⟩
  | receiveFailed receiving running => exact ⟨sends.known, sends.sent⟩

/-! ## Runs -/

/-- The announcement is answered: a favourable run that ends has returned success with its
sender as the server, and one that has received it ends. -/
structure Answers (address : PeerAddress .inet) (data : Datagram) (sender : Announcer)
    (d : Discovery) : Prop where
  success : ∀ d', Relation.ReflTransGen (Favourable address data sender) d d' →
    Runs.Ended (Favourable address data sender) d' → d'.main = .returned 0 ∧ d'.Knows sender
  returns : ∀ d', Relation.ReflTransGen (Favourable address data sender) d d' →
    d'.found = true → Runs.Terminates (Favourable address data sender) d'

/-- A search under way answers the announcement. -/
theorem Searching.answers (searching : d.Searching address sender)
    (announcement : data.IsAnnouncement) : d.Answers address data sender := by
  have along : ∀ d', Relation.ReflTransGen (Favourable address data sender) d d' →
      d'.Searching address sender := fun d' =>
    Runs.invariant (fun _ _ going favourable => going.step favourable) searching
  constructor
  · intro d' run ended
    have searching' := along d' run
    have finished : ¬ ∀ code, d'.main ≠ .returned code := fun going =>
      (searching'.exists_favourable announcement going).elim ended
    obtain ⟨code, returned⟩ := not_forall_not.mp finished
    obtain ⟨success, found⟩ := searching'.returned code returned
    exact ⟨success ▸ returned, (searching'.knows found).2⟩
  · intro d' run found
    refine Runs.terminates_of_measure (P := fun d => d.Searching address sender ∧ d.found = true)
      remaining ?_ ?_ ⟨along d' run, found⟩
    · intro d d' going favourable
      exact ⟨going.1.step favourable, (going.1.remaining_lt going.2 favourable.step).2⟩
    · intro d d' going favourable
      exact (going.1.remaining_lt going.2 favourable.step).1

/-- An error is no answer. -/
theorem not_answers_ended {client : MmpClient} {code : Int32} (failed : code ≠ 0) :
    ¬ (ended client (.returned code)).Answers address data sender := by
  intro answers
  have finished : Runs.Ended (Favourable address data sender) (ended client (.returned code)) :=
    fun d favourable => ended_of_returned rfl d favourable.step
  exact failed (DiscoverPc.returned.inj (answers.success _ .refl finished).1)

end Discovery

namespace MmpClient

variable {client : MmpClient} {env : DiscoverEnv} {addresses : List (PeerAddress .inet)}

/-! ## How the search is entered -/

/-- The port to search at. -/
def searchPort (client : MmpClient) : UInt16 :=
  if client.config.server.port = 0 then htons mmpDefaultPort else client.config.server.port

/-- The search as it begins. -/
def searching (client : MmpClient) (env : DiscoverEnv) (addresses : List (PeerAddress .inet)) :
    Discovery where
  client := client
  buffer := fun _ => 0
  peer := env.peer
  receiving := true
  found := false
  addresses := addresses
  deadline :=
    if client.config.timeout > 0 then some (env.now + client.config.timeout.toNat) else none
  attempts := []
  main := .testing

theorem serverPort_of_isWildcard (wildcard : client.config.server.IsWildcard) :
    client.serverPort = .inr client.config.server.port := by
  have apart : Family.inet6.value ≠ Family.inet.value := by decide
  rcases wildcard with ⟨inet, any⟩ | ⟨inet6, any⟩
  · simp [serverPort, inet, any]
  · simp [serverPort, inet6, apart, any]

/-- With a socket and broadcast addresses, `discover` ends at once if it can bind the
socket, and otherwise searches as soon as its thread starts. -/
theorem discover_of_isWildcard (wildcard : client.config.server.IsWildcard)
    (addressed : env.bcastAddresses client.searchPort = .ok addresses)
    (created : env.socket = none) :
    client.discover env =
      if bind client.config.client env.bind = 0 then
        .ended client (.returned (hresultFromWin32 1))
      else if env.threadStarts then client.searching env addresses
      else .ended client .threw := by
  unfold searchPort at addressed
  unfold discover search
  simp only [serverPort_of_isWildcard wildcard, addressed, created]
  by_cases bound : bind client.config.client env.bind = 0
  · have nonzero : (1 : Int32) ≠ 0 := by decide
    rw [if_pos bound, if_pos bound, if_pos nonzero]
  · have zero : ¬ (0 : Int32) ≠ 0 := by decide
    rw [if_neg bound, if_neg bound, if_neg zero]
    cases env.threadStarts <;> rfl

/-- The search begins on its way to an announcement. -/
theorem searching_searching {address : PeerAddress .inet} (known : address ∈ addresses)
    (sender : Announcer) : (client.searching env addresses).Searching address sender where
  kept := known
  waiting _ := rfl
  knows found := Bool.noConfusion found
  returned code returned := by cases returned
  stays := by simp [searching]

/-- When the socket cannot be bound and the thread starts, an announcement is answered. -/
theorem discover_answers_of_unbound (wildcard : client.config.server.IsWildcard)
    (addressed : env.bcastAddresses client.searchPort = .ok addresses)
    (created : env.socket = none) (failed : bind client.config.client env.bind ≠ 0)
    (starts : env.threadStarts = true) {address : PeerAddress .inet} (known : address ∈ addresses)
    {data : Datagram} (announcement : data.IsAnnouncement) (sender : Announcer) :
    (client.discover env).Answers address data sender := by
  rw [discover_of_isWildcard wildcard addressed created, if_neg failed, if_pos starts]
  exact (searching_searching known sender).answers announcement

/-- Whatever the system does, discovery messages go to broadcast addresses of adapters
that are up. -/
theorem discover_sends_broadcast (wildcard : client.config.server.IsWildcard)
    {adapters : List Adapter} (created : env.socket = none)
    (queried : env.bcastAddresses = bcastAddresses ⟨none, none, adapters⟩) {d : Discovery}
    (run : Relation.ReflTransGen Discovery.Step (client.discover env) d) :
    ∀ attempt ∈ d.attempts, attempt.1 = Discovery.message ∧
      ∃ network ∈ networks adapters, IsBroadcast client.searchPort network attempt.2.1 := by
  have addressed : env.bcastAddresses client.searchPort =
      .ok ((networks adapters).map
        fun network => bcastAddress client.searchPort network.1 network.2) := by
    rw [queried, bcastAddresses_eq]
  have begun : (client.discover env).Sends ((networks adapters).map
      fun network => bcastAddress client.searchPort network.1 network.2) := by
    rw [discover_of_isWildcard wildcard addressed created]
    split
    · exact ⟨List.nil_subset _, by simp [Discovery.ended]⟩
    · split
      · exact ⟨List.Subset.refl _, by simp [searching]⟩
      · exact ⟨List.nil_subset _, by simp [Discovery.ended]⟩
  have sends := Runs.invariant (fun _ _ sends step => sends.step step) begun run
  intro attempt among
  obtain ⟨message, target⟩ := sends.sent attempt among
  obtain ⟨network, found, same⟩ := List.mem_map.mp target
  exact ⟨message, network, found,
    same ▸ isBroadcast_bcastAddress _ _ (length_le_of_mem_networks found)⟩

theorem discover_of_error (wildcard : client.config.server.IsWildcard) {failure : Failure}
    (queried : env.bcastAddresses client.searchPort = .error failure) :
    client.discover env = .ended client (.returned failure.code) := by
  unfold searchPort at queried
  unfold discover search
  simp only [serverPort_of_isWildcard wildcard, queried]

/-! ## The outcome -/

/-- `discover` comes to an end without having sent anything, with an error and with the
configuration as it was. -/
structure Refuses (client : MmpClient) (env : DiscoverEnv) : Prop where
  ends : Runs.Terminates Discovery.Step (client.discover env)
  silent : ∀ d, Relation.ReflTransGen Discovery.Step (client.discover env) d → d.attempts = []
  fails : ∀ d, Relation.ReflTransGen Discovery.Step (client.discover env) d →
    Runs.Ended Discovery.Step d →
      d.client.config = client.config ∧ ∃ code, d.main = .returned code ∧ code ≠ 0

/-- `discover` fails if its socket cannot be bound, and answers an announcement if it is
bound and one of the broadcast addresses is not refused. -/
structure DiscoversFaithfully (client : MmpClient) (env : DiscoverEnv) : Prop where
  refuses : bind client.config.client env.bind ≠ 0 → client.Refuses env
  answers : bind client.config.client env.bind = 0 → env.threadStarts = true →
    ∀ addresses, env.bcastAddresses client.searchPort = .ok addresses → ∀ address ∈ addresses,
      ∀ data : Datagram, data.IsAnnouncement → ∀ sender,
        (client.discover env).Answers address data sender

/-- There is nothing to be done: no broadcast address is known, or the socket is bound
and there is no address to send to or no thread to receive. -/
def Idle (client : MmpClient) (env : DiscoverEnv) : Prop :=
  match env.bcastAddresses client.searchPort with
  | .error _ => True
  | .ok addresses =>
      bind client.config.client env.bind = 0 ∧ (addresses = [] ∨ env.threadStarts = false)

theorem refuses_of_ended {code : Int32}
    (entered : client.discover env = .ended client (.returned code)) (failed : code ≠ 0) :
    client.Refuses env := by
  have stuck : Runs.Ended Discovery.Step (client.discover env) := by
    rw [entered]
    exact Discovery.ended_of_returned rfl
  refine ⟨Acc.intro _ fun d step => (stuck d step).elim, fun d run => ?_, fun d run _ => ?_⟩
  · rw [Runs.eq_of_ended stuck run, entered]
    rfl
  · rw [Runs.eq_of_ended stuck run, entered]
    exact ⟨rfl, code, rfl, failed⟩

/-- A search that has begun can end with success. -/
theorem searching_succeeds (client : MmpClient) (env : DiscoverEnv)
    (addresses : List (PeerAddress .inet)) :
    ∃ d, Relation.ReflTransGen Discovery.Step (client.searching env addresses) d ∧
      d.main = .returned 0 := by
  have announcement : (MmpMsgAnnounce.datagram {}).IsAnnouncement :=
    ⟨by decide, by decide⟩
  obtain ⟨number, answer⟩ := client.discoverReceive_of_isAnnouncement (fun _ => 0) announcement
    (env.peer.overwrite localAnnouncer.report)
  cases addresses with
  | cons address addresses =>
      obtain ⟨d, run, returned, -⟩ := Discovery.exists_run_of_announcement
        (d := client.searching env (address :: addresses)) rfl rfl rfl List.mem_cons_self _
        localAnnouncer answer
      exact ⟨d, run, returned⟩
  | nil =>
      -- With nothing to send to, only an announcement that comes unasked ends the search.
      have received := Discovery.Step.receive (d := client.searching env [])
        (MmpMsgAnnounce.datagram {}) localAnnouncer rfl (by simp [searching])
      have answered : (client.searching env []).client.discoverReceive
          (client.searching env []).buffer (MmpMsgAnnounce.datagram {})
            ((client.searching env []).peer.overwrite localAnnouncer.report) = some _ := answer
      rw [answered] at received
      have returned := Discovery.Calls.exists_returned (fun _ => True)
        (d := { client.searching env [] with
          client := { client with
            config.server := env.peer.overwrite localAnnouncer.report
            sequenceNumber := number }
          buffer := Memory.overwrite (fun _ => 0) (MmpMsgAnnounce.datagram {}).bytes
          peer := env.peer.overwrite localAnnouncer.report
          receiving := false
          found := true }) rfl rfl
      have rest := Relation.ReflTransGen.mono (fun _ _ call => call.step) _ _ returned
      exact ⟨_, .head received rest, rfl⟩

/-- A socket that cannot be bound is used all the same. -/
theorem not_refuses_of_unbound (wildcard : client.config.server.IsWildcard)
    (addressed : env.bcastAddresses client.searchPort = .ok addresses)
    (created : env.socket = none) (failed : bind client.config.client env.bind ≠ 0) :
    ¬ client.Refuses env := by
  intro refuses
  have entered := discover_of_isWildcard wildcard addressed created
  rw [if_neg failed] at entered
  cases starts : env.threadStarts with
  | false =>
      rw [starts, if_neg (by simp)] at entered
      have stuck : Runs.Ended Discovery.Step (client.discover env) := by
        rw [entered]
        exact Discovery.ended_ended (Or.inl rfl)
      obtain ⟨-, code, returned, -⟩ := refuses.fails _ .refl stuck
      rw [entered] at returned
      cases returned
  | true =>
      rw [starts, if_pos rfl] at entered
      obtain ⟨d, run, returned⟩ := client.searching_succeeds env addresses
      obtain ⟨-, code, returned', nonzero⟩ := refuses.fails d (entered ▸ run)
        (Discovery.ended_of_returned returned)
      exact nonzero (DiscoverPc.returned.inj (returned'.symm.trans returned))

/-- With a wildcard server and a socket, the outcome is what it should be if and only if
there is nothing to be done. -/
theorem discoversFaithfully_iff (wildcard : client.config.server.IsWildcard)
    (created : env.socket = none) : client.DiscoversFaithfully env ↔ client.Idle env := by
  unfold Idle
  cases queried : env.bcastAddresses client.searchPort with
  | error failure =>
      refine iff_of_true ⟨fun _ => ?_, fun _ _ addresses addressed => ?_⟩ trivial
      · exact refuses_of_ended (discover_of_error wildcard queried) failure.nonzero
      · exact absurd (queried.symm.trans addressed) (by simp)
  | ok addresses =>
      dsimp only
      constructor
      · intro faithful
        have bound : bind client.config.client env.bind = 0 := by
          by_contra failed
          exact not_refuses_of_unbound wildcard queried created failed (faithful.refuses failed)
        have entered := discover_of_isWildcard wildcard queried created
        rw [if_pos bound] at entered
        refine ⟨bound, ?_⟩
        by_contra asked
        obtain ⟨some, starts⟩ := not_or.mp asked
        obtain ⟨address, known⟩ := List.exists_mem_of_ne_nil addresses some
        have answers := faithful.answers bound (eq_true_of_ne_false starts) addresses queried
          address known (MmpMsgAnnounce.datagram {}) ⟨by decide, by decide⟩ localAnnouncer
        rw [entered] at answers
        exact Discovery.not_answers_ended (by decide) answers
      · intro idle
        rcases idle with ⟨bound, nothing⟩
        refine ⟨fun failed => absurd bound failed, ?_⟩
        intro _ starts addresses' addressed address known
        rcases nothing with none | quiet
        · rw [← Except.ok.inj (queried.symm.trans addressed), none] at known
          cases known
        · exact Bool.noConfusion (starts.symm.trans quiet)

/-- A wildcard server, a socket that is bound, and no address to send to. -/
theorem discoversFaithfully_of_nil :
    let client := MmpClient.new
      { client := .any .inet 0
        server := .any .inet 0 }
    client.DiscoversFaithfully
      { unbindable with
        bind := none
        bcastAddresses := fun _ => .ok [] } := by
  intro client
  exact (discoversFaithfully_iff (by decide) rfl).mpr ⟨by decide, Or.inl rfl⟩

/-- A wildcard server, a socket that is bound, and one address to send to: the discovery
is refused. -/
theorem not_discoversFaithfully_of_bound :
    let client := MmpClient.new
      { client := .any .inet 0
        server := .any .inet 0 }
    let env := { unbindable with
      bind := none
      bcastAddresses := fun port => .ok [.ofSinAddr port 0xFF00A8C0] }
    ¬ client.DiscoversFaithfully env := by
  intro client env faithful
  have answers := faithful.answers (by decide) rfl _ rfl _ List.mem_cons_self
    (MmpMsgAnnounce.datagram {}) ⟨by decide, by decide⟩ localAnnouncer
  have entered : client.discover env = .ended client (.returned (hresultFromWin32 1)) :=
    (discover_of_isWildcard (by decide) rfl rfl).trans (if_pos (by decide))
  rw [entered] at answers
  exact Discovery.not_answers_ended (by decide) answers

end MmpClient

end MagicMousePad
