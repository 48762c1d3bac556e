import MagicMousePad.Server

/-!
# Registration

`serve` registers a peer under all 128 bytes of a buffer of which `recvfrom`
writes the leading ones only.  The bytes behind them are never written, so that,
whatever they are, peers are told apart by their endpoints: the clients are the
endpoints that have connected since they were last removed.

A failed `recvfrom` is no event here; `MagicMousePad/ServerReceive.lean` is about
what it does.
-/

namespace MagicMousePad

open ByteOrder

/-! ## Endpoints -/

/-- What identifies a peer on a socket of the family. -/
inductive Endpoint : Family → Type
  | inet (port : UInt16) (address : UInt32) : Endpoint .inet
  | inet6 (port : UInt16) (flowInfo : UInt32) (address : BitVec 128) (scopeId : UInt32) :
      Endpoint .inet6

namespace Endpoint

/-- The `sockaddr_in` or `sockaddr_in6` of an endpoint. -/
def sockaddr {family : Family} : Endpoint family → PeerAddress family
  | .inet port address =>
      { bytes := littleEndian 2 Family.inet.value ++ (bigEndian 2 port.toNat ++
          (bigEndian 4 address.toNat ++ List.replicate 8 0))
        size := by simp [Family.addressLength]
        tagged := List.take_left' (by simp) }
  | .inet6 port flowInfo address scopeId =>
      { bytes := littleEndian 2 Family.inet6.value ++ (bigEndian 2 port.toNat ++
          (bigEndian 4 flowInfo.toNat ++ (bigEndian 16 address.toNat ++
            littleEndian 4 scopeId.toNat)))
        size := by simp [Family.addressLength]
        tagged := List.take_left' (by simp) }

theorem sockaddr_injective (family : Family) :
    Function.Injective (sockaddr : Endpoint family → PeerAddress family) := by
  intro first second same
  have bytes := congrArg PeerAddress.bytes same
  cases first with
  | inet port address =>
      cases second with
      | inet port' address' =>
          obtain ⟨ports, rest⟩ := List.append_inj (List.append_cancel_left bytes) (by simp)
          have addresses := (List.append_inj rest (by simp)).1
          rw [UInt16.toNat_inj.mp (bigEndian_injOn port.toNat_lt port'.toNat_lt ports),
            UInt32.toNat_inj.mp (bigEndian_injOn address.toNat_lt address'.toNat_lt addresses)]
  | inet6 port flowInfo address scopeId =>
      cases second with
      | inet6 port' flowInfo' address' scopeId' =>
          obtain ⟨ports, rest⟩ := List.append_inj (List.append_cancel_left bytes) (by simp)
          obtain ⟨flows, rest⟩ := List.append_inj rest (by simp)
          obtain ⟨addresses, scopes⟩ := List.append_inj rest (by simp)
          rw [UInt16.toNat_inj.mp (bigEndian_injOn port.toNat_lt port'.toNat_lt ports),
            UInt32.toNat_inj.mp (bigEndian_injOn flowInfo.toNat_lt flowInfo'.toNat_lt flows),
            BitVec.toNat_inj.mp (bigEndian_injOn address.isLt address'.isLt addresses),
            UInt32.toNat_inj.mp (littleEndian_injOn scopeId.toNat_lt scopeId'.toNat_lt scopes)]

end Endpoint

/-! ## Peers and their events -/

/-- The datagram starts with the connect id. -/
def Datagram.IsConnect (data : Datagram) : Prop :=
  networkImage mmpMsgidConnect <+: data.bytes

instance (data : Datagram) : Decidable data.IsConnect :=
  inferInstanceAs (Decidable (networkImage mmpMsgidConnect <+: data.bytes))

/-- The address that `sendto` is given for the client. -/
def Client.destination (client : Client) : List UInt8 :=
  client.address.bytes.take client.addressLength

/-- What happens to the server while `recvfrom` does not fail: a datagram from one of
the endpoints, or what the window thread does. -/
inductive PeerEvent (E : Type*)
  | datagram (data : Datagram) (peer : E) (now : Int)
  | takeNumber
  | broadcast (data : List UInt8) (fails : Client → Bool)

section Registration

variable {family : Family} {E : Type*} (encode : E → PeerAddress family)

/-- The event with the endpoint as `recvfrom` reports it. -/
def PeerEvent.toServer : PeerEvent E → ServerEvent family
  | .datagram data peer now => .receive (.received data (encode peer)) now
  | .takeNumber => .takeNumber
  | .broadcast data fails => .broadcast data fails

/-- The events of a run, each with the datagrams sent on it. -/
def history (s : Serve) (events : List (PeerEvent E)) :
    List (PeerEvent E × List ServerEffect) :=
  events.zip (Mealy.run Serve.step s (events.map (PeerEvent.toServer encode))).2

/-- On the event the endpoint asks to be registered. -/
def Connects (e : E) (moment : PeerEvent E × List ServerEffect) : Prop :=
  ∃ data now, moment.1 = .datagram data e now ∧ data.IsConnect

/-- On the event a datagram to the endpoint cannot be sent. -/
def Drops (e : E) (moment : PeerEvent E × List ServerEffect) : Prop :=
  ∃ data client, .deliver data client false ∈ moment.2 ∧
    client.destination = (encode e).bytes

/-- The endpoint has connected since it was last removed. -/
def Connected (e : E) (moments : List (PeerEvent E × List ServerEffect)) : Prop :=
  Mealy.Since (Connects e) (Drops encode e) moments

variable {encode} {peer : SockaddrStorage} {s : Serve} {e e' : E}
  {moments : List (PeerEvent E × List ServerEffect)} {moment : PeerEvent E × List ServerEffect}

theorem Datagram.IsConnect.long {data : Datagram} (connect : data.IsConnect) :
    sizeofMmpMsgId ≤ data.bytes.length := by
  simpa [networkImage, sizeofMmpMsgId] using connect.length_le

theorem connected_concat :
    Connected encode e (moments ++ [moment]) ↔
      Connects e moment ∨ Connected encode e moments ∧ ¬ Drops encode e moment :=
  Mealy.since_concat

/-! ## The address of an entry -/

theorem PeerAddress.ext_bytes {first second : PeerAddress family}
    (same : first.bytes = second.bytes) : first = second := by
  cases first
  cases second
  cases same
  rfl

namespace SockaddrStorage

variable {peer : SockaddrStorage}

/-- A client registered for a peer is sent to at that peer. -/
theorem destination_overwrite {client : Client} (report : PeerAddress family)
    (address : client.address = peer.overwrite report) : client.destination = report.bytes := by
  have length : client.addressLength = family.addressLength := by
    rw [Client.addressLength, address, ssFamily_overwrite]
    cases family <;> rfl
  rw [Client.destination, length, address]
  exact List.take_left' report.size

/-- Over the same former content, different peers leave different addresses. -/
theorem overwrite_injective :
    Function.Injective (peer.overwrite : PeerAddress family → SockaddrStorage) := by
  intro first second same
  have bytes := congrArg SockaddrStorage.bytes same
  exact PeerAddress.ext_bytes (List.append_inj bytes (first.size.trans second.size.symm)).1

end SockaddrStorage

/-! ## One event -/

/-- The clients are the endpoints connected since their last removal, each at the
address that its report leaves in the initial buffer. -/
structure Registered (encode : E → PeerAddress family) (peer : SockaddrStorage) (s : Serve)
    (moments : List (PeerEvent E × List ServerEffect)) : Prop where
  tail : s.peer.tail family = peer.tail family
  entries : ∀ address, s.server.clients.HasAddress address ↔
    ∃ e, Connected encode e moments ∧ peer.overwrite (encode e) = address

variable (encode) in
/-- A datagram registers its sender exactly when it is a connect request, and
nothing is broadcast. -/
theorem step_datagram (s : Serve) (data : Datagram) (e : E) (now : Int) :
    let next := s.step ((PeerEvent.datagram data e now).toServer encode)
    next.1.peer = s.peer.overwrite (encode e) ∧ (∀ sent c b, .deliver sent c b ∉ next.2) ∧
      next.1.server.clients =
        if data.IsConnect then
          s.server.clients.emplace (Client.new (s.peer.overwrite (encode e)) now)
        else s.server.clients := by
  have requested (long : sizeofMmpMsgId ≤ data.bytes.length) :
      ntohl (load32 (s.buffer.overwrite data.bytes) 0) = mmpMsgidConnect ↔ data.IsConnect :=
    ntohl_load32_overwrite_iff long
  simp only [PeerEvent.toServer, Serve.step, Serve.iterate]
  rcases Serve.dispatch_cases { s with
      buffer := s.buffer.overwrite data.bytes
      peer := s.peer.overwrite (encode e)
      cntPeer := family.addressLength } data.bytes.length now with
    ⟨same, ignored⟩ | ⟨long, discover, same⟩ | ⟨long, connect, same⟩
  · have other : ¬ data.IsConnect := by
      intro connects
      rcases ignored with short | ⟨-, noConnect⟩
      · rw [Serve.sizeT_length] at short
        exact absurd connects.long (not_le.mpr short)
      · exact noConnect ((requested connects.long).mpr connects)
    rw [same, if_neg other]
    exact ⟨rfl, fun _ _ _ => List.not_mem_nil, rfl⟩
  · rw [Serve.sizeT_length] at long
    have other : ¬ data.IsConnect := by
      intro connects
      have clash := discover.symm.trans ((requested long).mpr connects)
      exact absurd clash (by decide)
    rw [same, if_neg other]
    exact ⟨rfl, fun _ _ _ member => by simp at member, rfl⟩
  · rw [Serve.sizeT_length] at long
    rw [same, if_pos ((requested long).mp connect)]
    exact ⟨rfl, fun _ _ _ => List.not_mem_nil, rfl⟩

/-- Broadcasting removes the clients to which the datagram could not be sent. -/
theorem hasAddress_broadcast {server : Server} {data : List UInt8} {fails : Client → Bool}
    {address : SockaddrStorage} :
    (server.broadcast data fails).1.clients.HasAddress address ↔
      server.clients.HasAddress address ∧
        ¬ ∃ client ∈ server.clients.toList, fails client = true ∧ client.address = address := by
  have left : (server.broadcast data fails).1.clients.toList =
      server.clients.toList.filter fun client => !fails client := OrderedSet.sweep_remaining ..
  unfold ClientSet.HasAddress
  simp only [left, List.mem_filter]
  constructor
  · intro found
    rcases found with ⟨client, ⟨member, spared⟩, same⟩
    refine ⟨⟨client, member, same⟩, fun dropped => ?_⟩
    rcases dropped with ⟨other, member', failed, same'⟩
    have equal : other = client :=
      List.inj_on_of_nodup_map server.clients.nodup_addresses member' member
        (same'.trans same.symm)
    simp [← equal, failed] at spared
  · intro kept
    rcases kept with ⟨⟨client, member, same⟩, spared⟩
    refine ⟨client, ⟨member, ?_⟩, same⟩
    cases failed : fails client with
    | false => rfl
    | true => exact absurd ⟨client, member, failed, same⟩ spared

/-- The failed calls of `sendto` are reported. -/
theorem deliver_mem_broadcast {server : Server} {data sent : List UInt8} {fails : Client → Bool}
    {client : Client} :
    .deliver sent client false ∈ (server.broadcast data fails).2 ↔
      sent = data ∧ client ∈ server.clients.toList ∧ fails client = true := by
  simp only [Server.broadcast, OrderedSet.sweep_visits, List.mem_map]
  constructor
  · intro found
    rcases found with ⟨_, ⟨client', member, rfl⟩, equal⟩
    injection equal with first second third
    subst first second
    exact ⟨rfl, member, by simpa using third⟩
  · intro visited
    rcases visited with ⟨rfl, member, failed⟩
    exact ⟨_, ⟨client, member, rfl⟩, by simp [failed]⟩

theorem connects_datagram {data : Datagram} {now : Int} {effects : List ServerEffect} :
    Connects e' (PeerEvent.datagram data e now, effects) ↔ e' = e ∧ data.IsConnect := by
  constructor
  · intro connects
    rcases connects with ⟨data', now', same, connect⟩
    cases same
    exact ⟨rfl, connect⟩
  · intro connects
    rcases connects with ⟨rfl, connect⟩
    exact ⟨data, now, rfl, connect⟩

/-- A moment at which every datagram could be sent drops nobody. -/
theorem not_drops_of_silent (silent : ∀ sent client, .deliver sent client false ∉ moment.2) :
    ¬ Drops encode e moment := by
  intro drops
  rcases drops with ⟨sent, client, failed, -⟩
  exact silent sent client failed

theorem connected_concat_of_quiet (quiet : ¬ Connects e moment)
    (silent : ∀ sent client, .deliver sent client false ∉ moment.2) :
    Connected encode e (moments ++ [moment]) ↔ Connected encode e moments := by
  have spared : ¬ Drops encode e moment := not_drops_of_silent silent
  rw [connected_concat]
  tauto

namespace Registered

theorem start (window : Pointer) (buffer : Memory) :
    Registered encode peer (Serve.enter window buffer peer) [] := by
  refine ⟨rfl, fun address => iff_of_false (fun found => ?_) (fun connected => ?_)⟩
  · rcases found with ⟨client, member, -⟩
    exact List.not_mem_nil member
  · rcases connected with ⟨e, since, -⟩
    exact Mealy.not_since_nil since

/-- A client of the set is sent to at an endpoint exactly when it is registered at
the address of that endpoint. -/
theorem destination_iff (registered : Registered encode peer s moments) {client : Client}
    (member : client ∈ s.server.clients.toList) :
    client.destination = (encode e).bytes ↔ client.address = peer.overwrite (encode e) := by
  constructor
  · intro destination
    obtain ⟨e', -, address⟩ := (registered.entries client.address).mp ⟨client, member, rfl⟩
    have reported := SockaddrStorage.destination_overwrite (encode e') address.symm
    have same : encode e' = encode e := PeerAddress.ext_bytes (reported.symm.trans destination)
    rw [← address, same]
  · intro address
    exact SockaddrStorage.destination_overwrite (encode e) address

/-- The endpoints of the dropped clients are those a datagram could not be sent
to. -/
theorem drops_broadcast_iff (registered : Registered encode peer s moments) {data : List UInt8}
    {fails : Client → Bool} :
    Drops encode e (.broadcast data fails, (s.server.broadcast data fails).2) ↔
      ∃ client ∈ s.server.clients.toList,
        fails client = true ∧ client.address = peer.overwrite (encode e) := by
  constructor
  · intro drops
    rcases drops with ⟨sent, client, failed, destination⟩
    obtain ⟨-, member, fails⟩ := deliver_mem_broadcast.mp failed
    exact ⟨client, member, fails, (registered.destination_iff member).mp destination⟩
  · intro dropped
    rcases dropped with ⟨client, member, fails, address⟩
    exact ⟨data, client, deliver_mem_broadcast.mpr ⟨rfl, member, fails⟩,
      (registered.destination_iff member).mpr address⟩

theorem step (registered : Registered encode peer s moments) (event : PeerEvent E) :
    Registered encode peer (s.step (event.toServer encode)).1
      (moments ++ [(event, (s.step (event.toServer encode)).2)]) := by
  cases event with
  | takeNumber =>
      refine ⟨registered.tail, fun address => ?_⟩
      have same : ∀ e, Connected encode e (moments ++ [(.takeNumber, [])]) ↔
          Connected encode e moments := by
        intro e
        refine connected_concat_of_quiet (fun connects => ?_) (fun _ _ => List.not_mem_nil)
        rcases connects with ⟨_, _, other, -⟩
        cases other
      simp only [PeerEvent.toServer, Serve.step, same]
      exact registered.entries address
  | datagram data e now =>
      obtain ⟨moved, silent, clients⟩ := step_datagram encode s data e now
      have written : s.peer.overwrite (encode e) = peer.overwrite (encode e) :=
        SockaddrStorage.overwrite_eq_of_tail _ registered.tail
      refine ⟨by rw [moved, SockaddrStorage.tail_overwrite, registered.tail], fun address => ?_⟩
      rw [clients]
      by_cases connect : data.IsConnect
      · have spared : ∀ e', ¬ Drops encode e' (.datagram data e now, _) := fun e' =>
          not_drops_of_silent fun sent client => silent sent client false
        rw [if_pos connect, ClientSet.hasAddress_emplace, registered.entries, written]
        simp only [connected_concat, connects_datagram, connect, and_true, spared,
          not_false_eq_true, or_and_right, exists_or, exists_eq_left, Client.new]
        exact or_comm
      · rw [if_neg connect, registered.entries]
        refine exists_congr fun e' => and_congr_left fun _ => (connected_concat_of_quiet ?_ ?_).symm
        · exact fun connects => connect (connects_datagram.mp connects).2
        · exact fun sent client => silent sent client false
  | broadcast data fails =>
      refine ⟨registered.tail, fun address => ?_⟩
      have quiet : ∀ e, ¬ Connects e
          (PeerEvent.broadcast (E := E) data fails, (s.server.broadcast data fails).2) := by
        intro e connects
        rcases connects with ⟨_, _, other, -⟩
        cases other
      simp only [PeerEvent.toServer, Serve.step, connected_concat, quiet, false_or,
        registered.drops_broadcast_iff, hasAddress_broadcast, registered.entries]
      constructor
      · intro kept
        rcases kept with ⟨⟨e, connected, rfl⟩, spared⟩
        exact ⟨e, ⟨connected, spared⟩, rfl⟩
      · intro kept
        rcases kept with ⟨e, ⟨connected, spared⟩, rfl⟩
        exact ⟨⟨e, connected, rfl⟩, spared⟩

/-- Along a run the set stays that of the endpoints connected. -/
theorem run (events : List (PeerEvent E)) (registered : Registered encode peer s moments) :
    Registered encode peer
      (Mealy.run Serve.step s (events.map (PeerEvent.toServer encode))).1
      (moments ++ history encode s events) := by
  induction events generalizing s moments with
  | nil => simpa [history] using registered
  | cons event events ih => simpa [history] using ih (registered.step event)

end Registered

/-- Whatever the buffer for the peer holds when `serve` enters its loop, at every
moment of a run the set has exactly one client for each endpoint that has
connected since it was last removed, and no other client. -/
theorem registered_iff_connected (injective : Function.Injective encode) (window : Pointer)
    (buffer : Memory) (peer : SockaddrStorage) (events : List (PeerEvent E)) :
    let s := Serve.enter window buffer peer
    let clients :=
      (Mealy.run Serve.step s (events.map (PeerEvent.toServer encode))).1.server.clients
    (∀ e, (clients.toList.countP fun client => client.destination = (encode e).bytes) = 1 ↔
        Connected encode e (history encode s events)) ∧
      ∀ client ∈ clients.toList, ∃ e, Connected encode e (history encode s events) ∧
        client.destination = (encode e).bytes := by
  intro s clients
  have registered : Registered encode peer _ (history encode s events) :=
    (Registered.start window buffer).run events
  refine ⟨fun e => ?_, fun client member => ?_⟩
  · have counted : (clients.toList.countP fun client => client.destination = (encode e).bytes) =
        clients.toList.countP fun client => client.address = peer.overwrite (encode e) :=
      List.countP_congr fun client member => by simpa using registered.destination_iff member
    rw [counted]
    constructor
    · intro once
      have found : 0 < clients.toList.countP fun client =>
          client.address = peer.overwrite (encode e) := by omega
      obtain ⟨client, member, address⟩ := List.countP_pos_iff.mp found
      obtain ⟨e', connected, same⟩ :=
        (registered.entries _).mp ⟨client, member, of_decide_eq_true address⟩
      rw [← injective (SockaddrStorage.overwrite_injective same)]
      exact connected
    · intro connected
      exact ClientSet.countP_address ((registered.entries _).mpr ⟨e, connected, rfl⟩)
  · obtain ⟨e, connected, address⟩ := (registered.entries client.address).mp ⟨client, member, rfl⟩
    exact ⟨e, connected, (registered.destination_iff member).mpr address.symm⟩

/-- Of two endpoints at one host the first connects twice and the second cannot be
sent to: only the first stays registered. -/
theorem registered_of_drop :
    let connect : Datagram := ⟨MmpMsgConnect.toBytes {}, by decide⟩
    let first : Endpoint .inet := .inet 4000 0x0A000001
    let second : Endpoint .inet := .inet 4001 0x0A000001
    let moments := history Endpoint.sockaddr
      (Serve.enter nullptr (fun _ => 0xCC) ⟨List.replicate 128 0xCC, by simp⟩)
      [.datagram connect first 0, .datagram connect second 1, .datagram connect first 2,
        .broadcast [] (fun client => client.destination = second.sockaddr.bytes)]
    Connected Endpoint.sockaddr first moments ∧ ¬ Connected Endpoint.sockaddr second moments := by
  intro connect first second moments
  have counts := (registered_iff_connected (Endpoint.sockaddr_injective .inet) nullptr
    (fun _ => 0xCC) ⟨List.replicate 128 0xCC, by simp⟩
    [.datagram connect first 0, .datagram connect second 1, .datagram connect first 2,
      .broadcast [] (fun client => client.destination = second.sockaddr.bytes)]).1
  exact ⟨(counts first).mp (by decide), (counts second).not.mp (by decide)⟩

end Registration

end MagicMousePad
