import MagicMousePad.Configuration
import MagicMousePad.Host
import MagicMousePad.RoundTrip
import MagicMousePad.ServeSetup

/-!
# Finding the server

The server binds the port of its JSON settings, and a client configured with
`mmp_configure_discovery` sends to the port that it is given, at the last address of each of
its networks.  Its machine refuses that address where it is a broadcast address.  A request is
delivered to the server if it is sent to one of its addresses and its port and the server has
an IPv4 socket; the reply may be delivered to the client at any time and more than once, or
not at all.

The two find each other exactly when the port is the one asked for in the settings, or the
default if there is none, unless the settings ask for IPv6 and a port, and one of the networks
ends at an address of the server to which the client may send.  Then the client knows the
server and a number, whose bytes it has swapped, that the server has once counted.  Where all
networks have broadcast addresses, the server is never found.
-/

namespace MagicMousePad

open ByteOrder

/-! ## What is configured -/

/-- The request makes an IPv6 socket. -/
def asksInet6 (request : Option AddressRequest) : Bool :=
  request.any fun request => request.port.isSome && request.readsSix

/-- The address that `serve` binds for a request. -/
theorem address_serveSetup {json : Json} {request : Option AddressRequest} {settings : Settings}
    (made : Requests json request) (read : Settings.fromJson json = some settings) :
    (serveSetup settings).address =
      .any (if asksInet6 request then .inet6 else .inet) (htons (requestedPort request)) := by
  have address := address_fromJson made read
  have zero : ntohs 0 = 0 := by decide
  rcases settings with ⟨_, height, width⟩
  dsimp only at address
  subst address
  cases request with
  | none =>
      rw [addressRead, serveSetup_any, zero]
      rfl
  | some request =>
      cases ported : request.port with
      | none =>
          simp only [addressRead, ported]
          rw [serveSetup_zero]
          simp [asksInet6, requestedPort, ported]
      | some port =>
          simp only [addressRead, ported]
          rw [serveSetup_any, ntohs_htons]
          have same : (if port = 0 then htons mmpDefaultPort else htons port) =
              htons (requestedPort (some request)) := by
            simp only [requestedPort, Option.bind_some, ported]
            split <;> rfl
          simp [asksInet6, ported, same]

/-- The start of a `sockaddr_in` with the wildcard address and a port. -/
theorem wildcard_of_bytes {address : SockaddrStorage} {port : UInt16} (rest : List UInt8)
    (bytes : address.bytes = littleEndian 2 Family.inet.value ++
      (littleEndian 2 port.toNat ++ (inaddrAny ++ rest))) :
    address.IsWildcard ∧ address.port = port := by
  have family : address.ssFamily = Family.inet.value := by
    rw [SockaddrStorage.ssFamily, bytes, List.take_left' (by simp)]
    rfl
  have number : address.port = port := by
    rw [SockaddrStorage.port, bytes, List.drop_left' (by simp), List.take_left' (by simp),
      value_littleEndian port.toNat_lt, UInt16.ofNat_toNat]
  have any : address.sinAddr = inaddrAny := by
    rw [SockaddrStorage.sinAddr, bytes, ← List.append_assoc, List.drop_left' (by simp),
      List.take_left' (show inaddrAny.length = 4 from rfl)]
  exact ⟨Or.inl ⟨family, any⟩, number⟩

/-- After `mmp_configure_discovery` the server is the wildcard with the port, and the client
address is as it was. -/
theorem server_mmpConfigureDiscovery {before config : MmpConfiguration} {port : UInt16}
    {timeout rateLimit : UInt32} {unset : List UInt8} {size : unset.length = 8}
    (configured : mmpConfigureDiscovery (some before) port timeout rateLimit unset size =
      (some config, 0)) :
    port ≠ 0 ∧ config.client = before.client ∧ config.server.IsWildcard ∧
      config.server.port = htons port := by
  have failure : hresultFromWin32 errorInvalidParameter ≠ 0 := by decide
  unfold mmpConfigureDiscovery at configured
  dsimp only at configured
  split at configured
  · exact absurd (Prod.mk.inj configured).2 failure
  · rename_i nonzero
    have written := Option.some.inj (Prod.mk.inj configured).1
    subst written
    refine ⟨nonzero, rfl, wildcard_of_bytes (unset ++ before.server.bytes.drop 16) ?_⟩
    have length : (littleEndian 2 Family.inet.value ++ littleEndian 2 (htons port).toNat ++
        inaddrAny ++ unset).length = 16 := by simp [inaddrAny, size]
    simp only [changeServer, SockaddrStorage.withFamily, SockaddrStorage.memcpy, length]
    rw [List.append_assoc, List.append_assoc, List.append_assoc, List.drop_left' (by simp)]

/-! ## The system -/

/-- The discovery request as a datagram. -/
def Discovery.request : Datagram := ⟨message, by decide⟩

/-- What the search makes of a datagram. -/
def Discovery.hear (d : Discovery) (data : Datagram) (sender : Announcer) : Discovery :=
  match d.client.discoverReceive d.buffer data (d.peer.overwrite sender.report) with
  | none =>
      { d with
        buffer := d.buffer.overwrite data.bytes
        peer := d.peer.overwrite sender.report }
  | some client =>
      { d with
        client := client
        buffer := d.buffer.overwrite data.bytes
        peer := d.peer.overwrite sender.report
        receiving := false
        found := true }

/-- The machine of the client, the address that the server has bound, the addresses at which
its machine is reached, and what `recvfrom` reports of the client to the server and of the
server to the client. -/
structure Endpoints where
  host : Host
  bound : SockaddrStorage
  addresses : List UInt32
  client : PeerAddress .inet
  server : Announcer
  reported : bound.ssFamily = Family.inet.value →
    server.report.sinPort = bound.port ∧ server.report.sAddr ∈ addresses

namespace Endpoints

variable (ends : Endpoints)

/-- A datagram to the target reaches the server. -/
def Reaches (target : PeerAddress .inet) : Prop :=
  ends.bound.ssFamily = Family.inet.value ∧ target.sinPort = ends.bound.port ∧
    target.sAddr ∈ ends.addresses

instance (target : PeerAddress .inet) : Decidable (ends.Reaches target) :=
  inferInstanceAs (Decidable (_ ∧ _ ∧ _))

/-- The servers that answer at the target. -/
def answers (target : PeerAddress .inet) : List Announcer :=
  if ends.Reaches target then [ends.server] else []

theorem mem_answers_iff {target : PeerAddress .inet} {server : Announcer} :
    server ∈ ends.answers target ↔ ends.Reaches target ∧ server = ends.server := by
  unfold answers
  split <;> rename_i reaches <;> simp [reaches]

end Endpoints

/-- The server, its replies to the client, and the search of the client. -/
structure Rendezvous where
  serve : Serve
  replies : List Reply
  discovery : Discovery

namespace Rendezvous

/-- The search as `discover` begins it, and the server in any state. -/
def start (client : MmpClient) (env : DiscoverEnv) (serve : Serve) : Rendezvous where
  serve := serve
  replies := []
  discovery := client.discover env

/-- One step of the server, the client or the network between them. -/
inductive Step (ends : Endpoints) : Rendezvous → Rendezvous → Prop
  /-- The thread that has called `discover` goes on. -/
  | search {s : Rendezvous} {d : Discovery} :
    Discovery.Calls ends.host.Accepts s.discovery d → Step ends s { s with discovery := d }
  /-- The server receives a request of the client. -/
  | request {s : Rendezvous} {target : PeerAddress .inet} (now : Int) :
    (Discovery.message, target, true) ∈ s.discovery.attempts → ends.Reaches target →
    Step ends s
      (let served :=
        s.serve.step (.receive (.received Discovery.request ends.client) now : ServerEvent .inet)
      { s with serve := served.1, replies := s.replies ++ MagicMousePad.replies served.2 })
  /-- The client receives a reply. -/
  | reply {s : Rendezvous} {reply : Reply} (data : Datagram) :
    reply ∈ s.replies → data.bytes = reply.data → s.discovery.receiving = true →
    (∀ code, s.discovery.main ≠ .returned code) →
    Step ends s { s with discovery := s.discovery.hear data ends.server }
  /-- `recvfrom` fails on the client. -/
  | fail {s : Rendezvous} :
    s.discovery.receiving = true → (∀ code, s.discovery.main ≠ .returned code) →
    Step ends s { s with discovery := { s.discovery with receiving := false } }
  /-- The server does anything else; what it sends by that is lost. -/
  | serve {s : Rendezvous} (event : ServerEvent .inet) :
    (∀ data now, event ≠ .receive (.received data ends.client) now) →
    Step ends s { s with serve := (s.serve.step event).1 }

/-- The states in any run. -/
def Reachable (ends : Endpoints) (initial s : Rendezvous) : Prop :=
  Relation.ReflTransGen (Step ends) initial s

/-- The number was that of the server in an earlier state of the run. -/
def Counted (ends : Endpoints) (initial s : Rendezvous) (number : UInt32) : Prop :=
  ∃ t, Reachable ends initial t ∧ Reachable ends t s ∧ t.serve.server.sequenceNumber = number

section Invariant

variable {ends : Endpoints} {targets : List (PeerAddress .inet)} {initial s t : Rendezvous}
  {number : UInt32}

theorem Counted.tail (counted : Counted ends initial s number) (step : Step ends s t) :
    Counted ends initial t number := by
  obtain ⟨u, before, after, same⟩ := counted
  exact ⟨u, before, after.tail step, same⟩

/-- The server is reached at one of the targets, and the client may send to it. -/
def ReachedAt (ends : Endpoints) (targets : List (PeerAddress .inet)) : Prop :=
  ∃ target ∈ targets, ends.host.Accepts target ∧ ends.Reaches target

/-- The client searches as its machine allows, and the server replies only if it has been
asked, with a number of its own.  The number that the client finds is one that the server has
given. -/
structure Inv (ends : Endpoints) (targets : List (PeerAddress .inet)) (initial s : Rendezvous) :
    Prop where
  search : ends.host.Search ends.answers targets s.discovery
  replied : ∀ reply ∈ s.replies,
    (∃ target, (Discovery.message, target, true) ∈ s.discovery.attempts ∧ ends.Reaches target) ∧
      ∃ number, reply.data = (MmpMsgAnnounce.datagram { sequenceNumber := number }).bytes ∧
        Counted ends initial s number
  numbered : s.discovery.found = true →
    ∃ number, s.discovery.client.sequenceNumber = ntohl number ∧ Counted ends initial s number

/-- A request makes the server reply with its counter. -/
theorem step_request (serve : Serve) (peer : PeerAddress .inet) (now : Int) :
    ∃ reply, MagicMousePad.replies (serve.step
        (.receive (.received Discovery.request peer) now : ServerEvent .inet)).2 = [reply] ∧
      reply.data =
        (MmpMsgAnnounce.datagram { sequenceNumber := serve.server.sequenceNumber }).bytes := by
  have long : ¬ sizeT Discovery.request.bytes.length < sizeofMmpMsgId := by decide
  have asked : ntohl (load32 (serve.buffer.overwrite Discovery.request.bytes) 0) =
      mmpMsgidDiscover := (ntohl_load32_overwrite_iff (by decide)).mpr (by decide)
  rw [Serve.step, Serve.iterate, Serve.dispatch, if_neg long]
  simp only [asked, if_true]
  exact ⟨_, rfl, rfl⟩

theorem hear_announce (d : Discovery) (sender : Announcer) {data : Datagram} {number : UInt32}
    (announces : data.bytes = (MmpMsgAnnounce.datagram { sequenceNumber := number }).bytes) :
    (d.hear data sender).found = true ∧ (d.hear data sender).Knows sender ∧
      (d.hear data sender).client.sequenceNumber = ntohl number ∧
      (d.hear data sender).main = d.main := by
  have same : data = (Emission.announce number).datagram (0, 0) := by
    rcases data with ⟨bytes, size⟩
    dsimp only at announces
    subst announces
    rfl
  have heard := Emission.discoverReceive_announce d.client d.buffer (0, 0)
    (d.peer.overwrite sender.report) number
  unfold Discovery.hear
  rw [same, heard]
  exact ⟨rfl, Discovery.knows_overwrite rfl, rfl, rfl⟩

theorem attempts_hear (d : Discovery) (data : Datagram) (sender : Announcer) :
    (d.hear data sender).attempts = d.attempts := by
  unfold Discovery.hear
  split <;> rfl

/-- The search of the client is one that its machine allows. -/
theorem Inv.allows (inv : Inv ends targets initial s) (step : Step ends s t) :
    t.discovery = s.discovery ∨ ends.host.Allows ends.answers s.discovery t.discovery := by
  cases step with
  | search calls => exact .inr (.of_calls calls)
  | request now asked reaches => exact .inl rfl
  | @reply reply data member bytes receiving running =>
      obtain ⟨⟨target, asked, reaches⟩, number, announces, -⟩ := inv.replied reply member
      obtain ⟨-, knows, -, -⟩ := hear_announce s.discovery ends.server (bytes.trans announces)
      refine .inr ⟨.receive data ends.server receiving running, ?_, ?_, ?_⟩
      · exact fun attempt among _ =>
          .inl ((attempts_hear s.discovery data ends.server) ▸ among)
      · exact fun deaf => Bool.noConfusion (deaf _ asked)
      · exact fun _ _ =>
          ⟨_, asked, rfl, ends.server, ends.mem_answers_iff.mpr ⟨reaches, rfl⟩, knows⟩
  | fail receiving running =>
      refine .inr ⟨.receiveFailed receiving running, fun attempt among _ => .inl among,
        fun _ => ⟨rfl, rfl, rfl⟩, fun unfound found => ?_⟩
      exact Bool.noConfusion (unfound.symm.trans found)
  | serve event other => exact .inl rfl

theorem Inv.step (inv : Inv ends targets initial s) (run : Reachable ends initial s)
    (step : Step ends s t) : Inv ends targets initial t := by
  have search : ends.host.Search ends.answers targets t.discovery := by
    rcases inv.allows step with same | allowed
    · rw [same]
      exact inv.search
    · exact inv.search.step allowed
  have replied : ∀ reply ∈ s.replies,
      (∃ target, (Discovery.message, target, true) ∈ s.discovery.attempts ∧
        ends.Reaches target) ∧
      ∃ number, reply.data = (MmpMsgAnnounce.datagram { sequenceNumber := number }).bytes ∧
        Counted ends initial t number := by
    intro reply member
    obtain ⟨asked, number, data, counted⟩ := inv.replied reply member
    exact ⟨asked, number, data, counted.tail step⟩
  have numbered : s.discovery.found = true →
      ∃ number, s.discovery.client.sequenceNumber = ntohl number ∧
        Counted ends initial t number := by
    intro found
    obtain ⟨number, same, counted⟩ := inv.numbered found
    exact ⟨number, same, counted.tail step⟩
  have counted : Counted ends initial t s.serve.server.sequenceNumber :=
    ⟨s, run, .single step, rfl⟩
  cases step with
  | @search d calls =>
      obtain ⟨client, -, -, -, same⟩ := Discovery.caller_frame calls.step calls.moves
      refine ⟨search, fun reply member => ?_, fun found => ?_⟩
      · obtain ⟨⟨target, asked, reaches⟩, given⟩ := replied reply member
        exact ⟨⟨target, Discovery.attempts_subset calls.step asked, reaches⟩, given⟩
      · dsimp only at found ⊢
        rw [client]
        exact numbered (same ▸ found)
  | @request target now asked reaches =>
      obtain ⟨reply, only, data⟩ := step_request s.serve ends.client now
      refine ⟨search, fun other member => ?_, numbered⟩
      rcases List.mem_append.mp member with earlier | last
      · exact replied other earlier
      · rw [only, List.mem_singleton] at last
        subst last
        exact ⟨⟨target, asked, reaches⟩, _, data, counted⟩
  | @reply reply data member bytes receiving running =>
      obtain ⟨-, number, announces, counted⟩ := replied reply member
      obtain ⟨-, -, same, -⟩ := hear_announce s.discovery ends.server (bytes.trans announces)
      refine ⟨search, fun other earlier => ?_, fun _ => ⟨number, same, counted⟩⟩
      rw [attempts_hear]
      exact replied other earlier
  | fail receiving running => exact ⟨search, replied, numbered⟩
  | serve event other => exact ⟨search, replied, numbered⟩

theorem Inv.reachable (begun : Inv ends targets initial initial)
    (run : Reachable ends initial s) : Inv ends targets initial s := by
  induction run with
  | refl => exact begun
  | tail run step ih => exact ih.step run step

/-- What a client finds that succeeds. -/
theorem Inv.success (inv : Inv ends targets initial s)
    (success : s.discovery.main = .returned 0) :
    ReachedAt ends targets ∧ (s.discovery.Knows ends.server ∧ ends.Reaches ends.server.report) ∧
      ∃ number, s.discovery.client.sequenceNumber = ntohl number ∧
        Counted ends initial s number := by
  have found := inv.search.returned success
  obtain ⟨target, known, accepted, server, present, knows⟩ := inv.search.found found
  obtain ⟨reaches, rfl⟩ := ends.mem_answers_iff.mp present
  exact ⟨⟨target, known, accepted, reaches⟩, ⟨knows, reaches.1, ends.reported reaches.1⟩,
    inv.numbered found⟩

end Invariant

/-! ## A run in which they meet -/

section Meeting

variable (ends : Endpoints) {s : Rendezvous}

/-- What the caller does alone is a run of the system. -/
theorem reachable_of_calls {d : Discovery}
    (calls : Relation.ReflTransGen (Discovery.Calls ends.host.Accepts) s.discovery d) :
    Reachable ends s { s with discovery := d } :=
  Relation.ReflTransGen.lift (p := Step ends) (fun d => ({ s with discovery := d } : Rendezvous))
    (fun _ _ call => Step.search call) _ _ calls

/-- A client that has been replied to succeeds. -/
theorem exists_success {reply : Reply} {number : UInt32} (testing : s.discovery.main = .testing)
    (receiving : s.discovery.receiving = true) (replied : reply ∈ s.replies)
    (announces : reply.data = (MmpMsgAnnounce.datagram { sequenceNumber := number }).bytes) :
    ∃ t, Reachable ends s t ∧ t.discovery.main = .returned 0 := by
  obtain ⟨data, same⟩ : ∃ data, data = MmpMsgAnnounce.datagram { sequenceNumber := number } :=
    ⟨_, rfl⟩
  rw [← same] at announces
  have heard : Step ends s { s with discovery := s.discovery.hear data ends.server } :=
    .reply data replied announces.symm receiving (by simp [testing])
  obtain ⟨found, -, -, main⟩ :=
    hear_announce s.discovery ends.server (congrArg Datagram.bytes same)
  have returned := Discovery.Calls.exists_returned ends.host.Accepts (main.trans testing) found
  exact ⟨_, .head heard (reachable_of_calls ends
    (s := { s with discovery := s.discovery.hear data ends.server }) returned), rfl⟩

/-- A search under way succeeds when the server hears the request at one of its
addresses. -/
theorem exists_meeting {address : PeerAddress .inet} (testing : s.discovery.main = .testing)
    (receiving : s.discovery.receiving = true) (unfound : s.discovery.found = false)
    (known : address ∈ s.discovery.addresses) (accepted : ends.host.Accepts address)
    (reaches : ends.Reaches address) :
    ∃ t, Reachable ends s t ∧ t.discovery.main = .returned 0 := by
  obtain ⟨attempts, sent, pass⟩ :=
    Discovery.Calls.exists_pass ends.host.Accepts testing unfound known accepted
  let swept : Rendezvous :=
    { s with
      discovery :=
        { s.discovery with
          addresses := [address]
          attempts := s.discovery.attempts ++ attempts
          main := .testing } }
  obtain ⟨reply, only, announces⟩ := step_request s.serve ends.client 0
  let served := s.serve.step
    (.receive (.received Discovery.request ends.client) 0 : ServerEvent .inet)
  let asked : Rendezvous :=
    { swept with
      serve := served.1
      replies := s.replies ++ MagicMousePad.replies served.2 }
  have asks : Step ends swept asked :=
    .request 0 (List.mem_append_right _ sent) reaches
  have replied : reply ∈ asked.replies := by
    dsimp only [asked, served]
    rw [only]
    exact List.mem_append_right _ (List.mem_singleton_self reply)
  obtain ⟨t, rest, success⟩ := exists_success ends (s := asked) rfl receiving replied announces
  exact ⟨t, (reachable_of_calls ends pass).trans (.head asks rest), success⟩

end Meeting

/-! ## When they meet -/

section Start

variable {ends : Endpoints} {client : MmpClient} {env : DiscoverEnv} {serve : Serve}
  {addresses : List (PeerAddress .inet)}

theorem inv_start {targets : List (PeerAddress .inet)}
    (known : (client.discover env).addresses ⊆ targets)
    (unsent : (client.discover env).attempts = []) (unfound : (client.discover env).found = false)
    (running : (client.discover env).main ≠ .returned 0) :
    Inv ends targets (start client env serve) (start client env serve) where
  search := .of_unsent known unsent unfound running
  replied _ none := absurd none List.not_mem_nil
  numbered found := Bool.noConfusion (unfound.symm.trans found)

/-- A search that has ended before it began does not find anything. -/
theorem not_success_of_ended {main : DiscoverPc}
    (entered : client.discover env = .ended client main) (failed : main ≠ .returned 0)
    {s : Rendezvous} (run : Reachable ends (start client env serve) s) :
    s.discovery.main ≠ .returned 0 := by
  have begun : Inv ends [] (start client env serve) (start client env serve) := by
    refine inv_start ?_ ?_ ?_ ?_ <;> rw [entered]
    · exact List.Subset.refl _
    · rfl
    · rfl
    · exact failed
  intro success
  obtain ⟨⟨target, none, -⟩, -⟩ := (begun.reachable run).success success
  exact absurd none List.not_mem_nil

/-- A search that begins as it should keeps the invariant for its addresses. -/
theorem inv_searching (entered : client.discover env = client.searching env addresses) :
    Inv ends addresses (start client env serve) (start client env serve) := by
  refine inv_start ?_ ?_ ?_ ?_ <;> rw [entered]
  · exact List.Subset.refl _
  · rfl
  · rfl
  · simp [MmpClient.searching]

/-- The client may find the server exactly if it cannot bind its socket, its thread starts,
and one of its addresses reaches the server.  What it has found then is the server, with a
number that it has counted. -/
theorem finds_iff (ends : Endpoints) (serve : Serve) (wildcard : client.config.server.IsWildcard)
    (enumerated : env.bcastAddresses client.searchPort = .ok addresses)
    (created : env.socket = none) :
    ((∃ s, Reachable ends (start client env serve) s ∧ s.discovery.main = .returned 0) ↔
      (MmpClient.bind client.config.client env.bind ≠ 0 ∧ env.threadStarts = true) ∧
        ReachedAt ends addresses) ∧
      ∀ s, Reachable ends (start client env serve) s → s.discovery.main = .returned 0 →
        (s.discovery.Knows ends.server ∧ ends.Reaches ends.server.report) ∧
          ∃ number, s.discovery.client.sequenceNumber = ntohl number ∧
            Counted ends (start client env serve) s number := by
  have entered := MmpClient.discover_of_isWildcard wildcard enumerated created
  have succeeds : ∀ s, Reachable ends (start client env serve) s →
      s.discovery.main = .returned 0 →
      (MmpClient.bind client.config.client env.bind ≠ 0 ∧ env.threadStarts = true) ∧
        Inv ends addresses (start client env serve) s := by
    intro s run success
    by_cases bound : MmpClient.bind client.config.client env.bind = 0
    · rw [if_pos bound] at entered
      exact absurd success (not_success_of_ended entered (by decide) run)
    · rw [if_neg bound] at entered
      cases starts : env.threadStarts with
      | false =>
          rw [if_neg (by simp [starts])] at entered
          exact absurd success (not_success_of_ended entered (by decide) run)
      | true =>
          rw [if_pos starts] at entered
          exact ⟨⟨bound, rfl⟩, (inv_searching entered).reachable run⟩
  refine ⟨⟨?_, ?_⟩, fun s run success => ((succeeds s run success).2.success success).2⟩
  · rintro ⟨s, run, success⟩
    obtain ⟨begun, inv⟩ := succeeds s run success
    exact ⟨begun, (inv.success success).1⟩
  · rintro ⟨⟨unbound, starts⟩, target, known, accepted, reaches⟩
    rw [if_neg unbound, if_pos starts] at entered
    have begun : (start client env serve).discovery = client.searching env addresses := entered
    refine exists_meeting ends (s := start client env serve) ?_ ?_ ?_ ?_ accepted reaches <;>
      rw [begun]
    · rfl
    · rfl
    · rfl
    · exact known

end Start

/-- The client sends to the server exactly if the server has an IPv4 socket, the port is its
port, and a network of the client ends at an address of the server to which the client may
send. -/
theorem reachedAt_broadcast_iff {ends : Endpoints} {port : UInt16} {adapters : List Adapter} :
    ReachedAt ends ((networks adapters).map
        fun network => MmpClient.bcastAddress port network.1 network.2) ↔
      (∃ network ∈ networks adapters,
        ends.host.Accepts (MmpClient.bcastAddress port network.1 network.2) ∧
          (MmpClient.bcastAddress port network.1 network.2).sAddr ∈ ends.addresses) ∧
        port = ends.bound.port ∧ ends.bound.ssFamily = Family.inet.value := by
  have ported : ∀ network : SockaddrStorage × UInt8,
      (MmpClient.bcastAddress port network.1 network.2).sinPort = port :=
    fun network => PeerAddress.sinPort_ofSinAddr _ _
  constructor
  · rintro ⟨target, known, accepted, family, same, here⟩
    obtain ⟨network, member, rfl⟩ := List.mem_map.mp known
    exact ⟨⟨network, member, accepted, here⟩, (ported network).symm.trans same, family⟩
  · rintro ⟨⟨network, member, accepted, here⟩, same, family⟩
    exact ⟨_, List.mem_map_of_mem member, accepted, family, (ported network).trans same, here⟩

end Rendezvous

end MagicMousePad
