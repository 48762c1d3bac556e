import MagicMousePad.DiscoveryOutcome

/-!
# The machine of the client

What the machine on which the client runs allows of a discovery.  The addresses to send to
are made of its adapters.  The client never sets `SO_BROADCAST`, so that `sendto` refuses
broadcast addresses, and these are what `bcast_addresses` computes of any network with more
than two addresses; the last address of a smaller one, such as the only address of a network
of length 32, may be sent to.  The socket of a search is not bound, and until a first `sendto`
has succeeded it does not receive anything.
-/

namespace MagicMousePad

open ByteOrder

/-! ## Broadcast addresses -/

/-- The last address of a network, in host-byte order. -/
def lastAddress (network : SockaddrStorage × UInt8) : ℕ :=
  (ntohl network.1.sAddr).toNat ||| (2 ^ (32 - network.2.toNat) - 1)

/-- The address is a broadcast address on a machine with the adapters: the one of all
networks, or the last one of a network with more than two addresses. -/
def IsBroadcastOn (adapters : List Adapter) (address : SockaddrStorage) : Prop :=
  address.ssFamily = Family.inet.value ∧
    ((ntohl address.sAddr).toNat = 2 ^ 32 - 1 ∨
      ∃ network ∈ networks adapters, network.2.toNat ≤ 30 ∧
        (ntohl address.sAddr).toNat = lastAddress network)

instance (adapters : List Adapter) (address : SockaddrStorage) :
    Decidable (IsBroadcastOn adapters address) :=
  inferInstanceAs (Decidable (_ ∧ (_ ∨ _)))

theorem isBroadcastOn_overwrite_iff {adapters : List Adapter} (peer peer' : SockaddrStorage)
    (address : PeerAddress .inet) :
    IsBroadcastOn adapters (peer.overwrite address) ↔
      IsBroadcastOn adapters (peer'.overwrite address) := by
  unfold IsBroadcastOn
  rw [SockaddrStorage.ssFamily_overwrite, SockaddrStorage.ssFamily_overwrite,
    SockaddrStorage.sAddr_overwrite, SockaddrStorage.sAddr_overwrite]

/-- What `bcast_addresses` computes of a network is its last address. -/
theorem toNat_bcastAddress (port : UInt16) (src : SockaddrStorage) {length : UInt8}
    (short : length.toNat ≤ 32) :
    (ntohl (MmpClient.bcastAddress port src length).sAddr).toNat = lastAddress (src, length) := by
  have broadcast := isBroadcast_bcastAddress port src short
  refine Nat.eq_of_testBit_eq fun i => ?_
  rw [lastAddress, Nat.testBit_or, Nat.testBit_two_pow_sub_one]
  rcases Nat.lt_or_ge i 32 with inside | outside
  · rcases Nat.lt_or_ge i (32 - length.toNat) with low | high
    · rw [broadcast.ones i low, decide_eq_true low, Bool.or_true]
    · rw [broadcast.agrees i high inside, decide_eq_false (not_lt.mpr high), Bool.or_false]
  · have beyond : ∀ w : UInt32, w.toNat.testBit i = false := fun w =>
      Nat.testBit_lt_two_pow (w.toNat_lt.trans_le (Nat.pow_le_pow_right (by decide) outside))
    rw [beyond, beyond, decide_eq_false (by omega), Bool.or_false]

/-! ## The machine -/

/-- The machine of the client: its adapters, and whether `sendto` sends to an address on a
socket of its family for which `SO_BROADCAST` is not set.  Such a socket does not send to
broadcast addresses, and what follows an IPv4 address in memory does not matter. -/
structure Host where
  adapters : List Adapter
  sends : SockaddrStorage → Bool
  regular : ∀ (peer : SockaddrStorage) (address : PeerAddress .inet),
    sends (peer.overwrite address) = sends (SockaddrStorage.zero.overwrite address)
  refuses : ∀ address, IsBroadcastOn adapters address → sends address = false

namespace Host

/-- A machine that sends to all addresses but broadcast addresses. -/
def unicast (adapters : List Adapter) : Host where
  adapters := adapters
  sends address := !decide (IsBroadcastOn adapters address)
  regular peer address := by
    rw [decide_eq_decide.mpr (isBroadcastOn_overwrite_iff peer SockaddrStorage.zero address)]
  refuses address broadcast := by
    rw [decide_eq_true broadcast]
    rfl

/-- A machine without a network. -/
def loopback : Host := .unicast [⟨.up, [⟨some (.ofHost 1), 8, by decide⟩]⟩]

variable (host : Host)

/-- A discovery message can be sent to the target. -/
def Accepts (target : PeerAddress .inet) : Prop :=
  host.sends (SockaddrStorage.zero.overwrite target) = true

instance (target : PeerAddress .inet) : Decidable (host.Accepts target) :=
  inferInstanceAs (Decidable (_ = true))

/-- The broadcast address of a network with more than two addresses is refused. -/
theorem not_accepts_bcastAddress {host : Host} {network : SockaddrStorage × UInt8}
    (member : network ∈ networks host.adapters) (wide : network.2.toNat ≤ 30) (port : UInt16) :
    ¬ host.Accepts (MmpClient.bcastAddress port network.1 network.2) := by
  have broadcast : IsBroadcastOn host.adapters (SockaddrStorage.zero.overwrite
      (MmpClient.bcastAddress port network.1 network.2)) := by
    refine ⟨SockaddrStorage.ssFamily_overwrite _, Or.inr ⟨network, member, wide, ?_⟩⟩
    rw [SockaddrStorage.sAddr_overwrite]
    exact toNat_bcastAddress port network.1 (length_le_of_mem_networks member)
  intro accepted
  exact Bool.noConfusion (accepted.symm.trans (host.refuses _ broadcast))

/-! ## The search on the machine -/

/-- A step of the search that the machine allows: it sends only where the machine does, it
hears nothing before it has sent something, and what it finds is a server that answers at an
address to which it has sent. -/
structure Allows (answers : PeerAddress .inet → List Announcer) (d d' : Discovery) : Prop where
  step : d.Step d'
  accepted : ∀ attempt ∈ d'.attempts, attempt.2.2 = true →
    attempt ∈ d.attempts ∨ host.Accepts attempt.2.1
  deaf : (∀ attempt ∈ d.attempts, attempt.2.2 = false) →
    d'.client = d.client ∧ d'.buffer = d.buffer ∧ d'.peer = d.peer
  answered : d.found = false → d'.found = true →
    ∃ attempt ∈ d.attempts, attempt.2.2 = true ∧ ∃ server ∈ answers attempt.2.1, d'.Knows server

variable {host} {answers : PeerAddress .inet → List Announcer} {d d' : Discovery}
  {addresses : List (PeerAddress .inet)}

/-- The machine allows what its caller does. -/
theorem Allows.of_calls (calls : Discovery.Calls host.Accepts d d') :
    host.Allows answers d d' := by
  obtain ⟨client, buffer, peer, -, found⟩ := Discovery.caller_frame calls.step calls.moves
  refine ⟨calls.step, calls.accepted, fun _ => ⟨client, buffer, peer⟩, fun unfound found' => ?_⟩
  exact Bool.noConfusion (unfound.symm.trans (found.symm.trans found'))

/-- What the search has sent and found, its receiver having left when it has found a
server. -/
structure Search (host : Host) (answers : PeerAddress .inet → List Announcer)
    (addresses : List (PeerAddress .inet)) (d : Discovery) : Prop where
  sends : d.Sends addresses
  accepted : ∀ attempt ∈ d.attempts, attempt.2.2 = true → host.Accepts attempt.2.1
  quiet : d.found = true → d.receiving = false
  found : d.found = true → ∃ target ∈ addresses, host.Accepts target ∧
    ∃ server ∈ answers target, d.Knows server
  returned : d.main = .returned 0 → d.found = true

/-- A search that has not sent anything. -/
theorem Search.of_unsent (known : d.addresses ⊆ addresses) (unsent : d.attempts = [])
    (unfound : d.found = false) (running : d.main ≠ .returned 0) :
    host.Search answers addresses d where
  sends := ⟨known, fun _ among => absurd (unsent ▸ among) List.not_mem_nil⟩
  accepted := fun _ among => absurd (unsent ▸ among) List.not_mem_nil
  quiet found := Bool.noConfusion (unfound.symm.trans found)
  found found := Bool.noConfusion (unfound.symm.trans found)
  returned returned := absurd returned running

theorem Search.step (search : host.Search answers addresses d) (allows : host.Allows answers d d') :
    host.Search answers addresses d' := by
  have sends := search.sends.step allows.step
  have accepted : ∀ attempt ∈ d'.attempts, attempt.2.2 = true → host.Accepts attempt.2.1 := by
    intro attempt member success
    rcases allows.accepted attempt member success with earlier | here
    · exact search.accepted attempt earlier success
    · exact here
  have fresh : d.found = false → d'.found = true → ∃ target ∈ addresses, host.Accepts target ∧
      ∃ server ∈ answers target, d'.Knows server := by
    intro unfound found
    obtain ⟨attempt, member, success, answered⟩ := allows.answered unfound found
    exact ⟨_, (search.sends.sent attempt member).2, search.accepted attempt member success,
      answered⟩
  obtain ⟨quiet, kept⟩ := Discovery.quiet_step allows.step search.quiet
  refine ⟨sends, accepted, quiet, fun found' => ?_, fun returned => ?_⟩
  · cases found : d.found with
    | false => exact fresh found found'
    | true =>
        unfold Discovery.Knows
        rw [(kept found).1]
        exact search.found found
  · exact (kept (Discovery.found_of_returned allows.step returned)).2

theorem Search.run (search : host.Search answers addresses d)
    (run : Relation.ReflTransGen (host.Allows answers) d d') : host.Search answers addresses d' :=
  Runs.invariant (fun _ _ search allows => search.step allows) search run

/-- A search may find a server that answers at one of its addresses. -/
theorem exists_run_of_server (testing : d.main = .testing) (receiving : d.receiving = true)
    (unfound : d.found = false) {target : PeerAddress .inet} (known : target ∈ d.addresses)
    (accepted : host.Accepts target) {server : Announcer} (present : server ∈ answers target) :
    ∃ d', Relation.ReflTransGen (host.Allows answers) d d' ∧ d'.main = .returned 0 ∧
      ∃ number, d'.client =
        { d.client with
          config.server := d.peer.overwrite server.report
          sequenceNumber := number } := by
  have announcement : (MmpMsgAnnounce.datagram {}).IsAnnouncement := ⟨by decide, by decide⟩
  obtain ⟨number, answer⟩ := d.client.discoverReceive_of_isAnnouncement d.buffer announcement
    (d.peer.overwrite server.report)
  obtain ⟨swept, found, pass, sent, received, unsent, client, returned⟩ :=
    Discovery.Calls.exists_found host.Accepts testing receiving unfound known accepted _ server
      answer
  have knows : found.Knows server := Discovery.knows_overwrite (by rw [client])
  have heard : host.Allows answers swept found :=
    { step := received
      accepted := fun _ member _ => .inl (unsent ▸ member)
      deaf := fun none => Bool.noConfusion (none _ sent)
      answered := fun _ _ => ⟨_, sent, rfl, server, present, knows⟩ }
  have allowed : ∀ first second, Discovery.Calls host.Accepts first second →
      host.Allows answers first second := fun _ _ calls => .of_calls calls
  exact ⟨_, ((Relation.ReflTransGen.mono allowed _ _ pass).tail heard).trans
    (Relation.ReflTransGen.mono allowed _ _ returned), rfl, number, client⟩

end Host

end MagicMousePad
