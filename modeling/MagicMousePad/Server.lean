import MagicMousePad.Sockaddr
import MagicMousePad.Lib.Mealy

/-!
# The server

`server` as a machine over what its two threads do: the server thread handles
one outcome of `recvfrom` per iteration of `serve`, the window thread takes a
sequence number and broadcasts a datagram.  Registration and broadcasting hold
the lock from beginning to end, so each is one event here;
`MagicMousePad/Interleaving.lean` takes them apart.
-/

namespace MagicMousePad

open ByteOrder

/-- The members of `server` that messages go through. -/
structure Server where
  clients : ClientSet
  sequenceNumber : UInt32
  window : Pointer

/-- A reply to a discovery request: the datagram and the address it goes to. -/
structure Reply where
  data : List UInt8
  address : SockaddrStorage
  addressLength : ℕ
  deriving DecidableEq

/-- The calls of `sendto` the server makes. -/
inductive ServerEffect
  | announce (reply : Reply)
  | deliver (data : List UInt8) (client : Client) (succeeded : Bool)
  deriving DecidableEq

namespace Server

/-- `server::server`. -/
def new (window : Pointer) : Server where
  clients := ∅
  sequenceNumber := 0
  window := window

/-- `this->_sequence_number++`. -/
def takeNumber (server : Server) : Server × UInt32 :=
  ({ server with sequenceNumber := server.sequenceNumber + 1 }, server.sequenceNumber)

/-- `server::send` of a datagram: every client in turn is sent the datagram, and
erased if that fails. -/
def broadcast (server : Server) (data : List UInt8) (fails : Client → Bool) :
    Server × List ServerEffect :=
  let swept := server.clients.sweep fails
  ({ server with clients := swept.1 }, swept.2.map fun visit => .deliver data visit.1 visit.2)

/-- `server::send` of a message: the next sequence number is put into it. -/
def send (server : Server) (msg : MouseMsg) (fails : Client → Bool) :
    Server × List ServerEffect :=
  let taken := server.takeNumber
  taken.1.broadcast (msg.withSequenceNumber (htonl taken.2)).toBytes fails

/-- The connect case of `serve`. -/
def register (server : Server) (peer : SockaddrStorage) (now : Int) : Server :=
  { server with clients := server.clients.emplace (Client.new peer now) }

@[simp] theorem sequenceNumber_broadcast (server : Server) (data : List UInt8)
    (fails : Client → Bool) :
    (server.broadcast data fails).1.sequenceNumber = server.sequenceNumber := rfl

@[simp] theorem sequenceNumber_register (server : Server) (peer : SockaddrStorage) (now : Int) :
    (server.register peer now).sequenceNumber = server.sequenceNumber := rfl

end Server

/-! ## The receive loop of `serve` -/

/-- `SOCKET_ERROR`. -/
def socketError : Int := -1

/-- The conversion of an `int` to `std::size_t`. -/
def sizeT (n : Int) : ℕ := (n % 2 ^ 64).toNat

/-- The locals of `serve` that live across iterations, with the server. -/
structure Serve where
  server : Server
  buffer : Memory
  peer : SockaddrStorage
  cntPeer : ℕ

/-- `serve` on entering its loop; `buffer` and `peer` are uninitialised. -/
def Serve.enter (window : Pointer) (buffer : Memory) (peer : SockaddrStorage) : Serve where
  server := Server.new window
  buffer := buffer
  peer := peer
  cntPeer := 128

/-- What one call of `recvfrom` does on a socket of the family: it fails and
leaves buffer and peer alone, or it delivers a datagram and its sender. -/
inductive Receipt (family : Family)
  | error
  | received (data : Datagram) (peer : PeerAddress family)

namespace Serve

/-- The iteration after `recvfrom` has returned `cnt`, at clock reading `now`. -/
def dispatch (s : Serve) (cnt now : Int) : Serve × List ServerEffect :=
  if sizeT cnt < sizeofMmpMsgId then (s, [])
  else
    let id := ntohl (load32 s.buffer 0)
    if id = mmpMsgidDiscover then
      let response : MmpMsgAnnounce := { sequenceNumber := s.server.sequenceNumber }
      (s, [.announce ⟨response.toBytes, s.peer, s.cntPeer⟩])
    else if id = mmpMsgidConnect then
      ({ s with server := s.server.register s.peer now }, [])
    else (s, [])

/-- One iteration of the loop in `serve`. -/
def iterate {family : Family} (s : Serve) (receipt : Receipt family) (now : Int) :
    Serve × List ServerEffect :=
  match receipt with
  | .error => s.dispatch socketError now
  | .received data peer =>
      let s :=
        { s with
          buffer := s.buffer.overwrite data.bytes
          peer := s.peer.overwrite peer
          cntPeer := family.addressLength }
      s.dispatch data.bytes.length now

end Serve

/-! ## The machine -/

/-- What the two threads do. -/
inductive ServerEvent (family : Family)
  /-- An iteration of `serve`, at a clock reading. -/
  | receive (receipt : Receipt family) (now : Int)
  /-- The window thread takes a sequence number. -/
  | takeNumber
  /-- The window thread broadcasts a datagram; `fails` are the failing `sendto`s. -/
  | broadcast (data : List UInt8) (fails : Client → Bool)

/-- One event of the server. -/
def Serve.step {family : Family} (s : Serve) : ServerEvent family → Serve × List ServerEffect
  | .receive receipt now => s.iterate receipt now
  | .takeNumber => ({ s with server := s.server.takeNumber.1 }, [])
  | .broadcast data fails =>
      let sent := s.server.broadcast data fails
      ({ s with server := sent.1 }, sent.2)

/-- The announce replies among the effects. -/
def replies (effects : List ServerEffect) : List Reply :=
  effects.filterMap fun
    | .announce reply => some reply
    | .deliver _ _ _ => none

/-- Whether the event takes a sequence number. -/
def ServerEvent.numbers {family : Family} : ServerEvent family → Bool
  | .takeNumber => true
  | _ => false

/-- How many sequence numbers a run takes. -/
def sendCount {family : Family} (events : List (ServerEvent family)) : ℕ :=
  events.countP ServerEvent.numbers

namespace Serve

variable {family : Family}

/-- The length of a datagram survives the conversion to `std::size_t`. -/
theorem sizeT_length (data : Datagram) : sizeT data.bytes.length = data.bytes.length := by
  have fits := data.size_le
  unfold cntBuffer at fits
  unfold sizeT
  omega

/-- What a datagram of at least four bytes makes the loop do is decided by the
id at the start of the buffer. -/
theorem dispatch_cases (s : Serve) (cnt now : Int) :
    (s.dispatch cnt now = (s, []) ∧
        (sizeT cnt < sizeofMmpMsgId ∨
          (ntohl (load32 s.buffer 0) ≠ mmpMsgidDiscover ∧
            ntohl (load32 s.buffer 0) ≠ mmpMsgidConnect))) ∨
      (sizeofMmpMsgId ≤ sizeT cnt ∧ ntohl (load32 s.buffer 0) = mmpMsgidDiscover ∧
        s.dispatch cnt now =
          (s, [.announce ⟨MmpMsgAnnounce.toBytes { sequenceNumber := s.server.sequenceNumber },
            s.peer, s.cntPeer⟩])) ∨
      (sizeofMmpMsgId ≤ sizeT cnt ∧ ntohl (load32 s.buffer 0) = mmpMsgidConnect ∧
        s.dispatch cnt now = ({ s with server := s.server.register s.peer now }, [])) := by
  unfold dispatch
  by_cases short : sizeT cnt < sizeofMmpMsgId
  · exact Or.inl ⟨if_pos short, Or.inl short⟩
  · rw [if_neg short]
    rw [not_lt] at short
    by_cases discover : ntohl (load32 s.buffer 0) = mmpMsgidDiscover
    · exact Or.inr (Or.inl ⟨short, discover, if_pos discover⟩)
    · by_cases connect : ntohl (load32 s.buffer 0) = mmpMsgidConnect
      · refine Or.inr (Or.inr ⟨short, connect, ?_⟩)
        simp only [if_neg discover, if_pos connect]
      · refine Or.inl ⟨?_, Or.inr ⟨discover, connect⟩⟩
        simp only [if_neg discover, if_neg connect]

@[simp] theorem sequenceNumber_dispatch (s : Serve) (cnt now : Int) :
    (s.dispatch cnt now).1.server.sequenceNumber = s.server.sequenceNumber := by
  rcases s.dispatch_cases cnt now with ⟨same, -⟩ | ⟨-, -, same⟩ | ⟨-, -, same⟩ <;> rw [same]
  rfl

theorem sequenceNumber_iterate (s : Serve) (receipt : Receipt family) (now : Int) :
    (s.iterate receipt now).1.server.sequenceNumber = s.server.sequenceNumber := by
  cases receipt with
  | error => rw [iterate, sequenceNumber_dispatch]
  | received data peer => rw [iterate, sequenceNumber_dispatch]

/-- The counter advances by one for every number taken. -/
theorem sequenceNumber_run (s : Serve) (events : List (ServerEvent family)) :
    (Mealy.run step s events).1.server.sequenceNumber =
      s.server.sequenceNumber + UInt32.ofNat (sendCount events) := by
  unfold sendCount
  induction events generalizing s with
  | nil => simp
  | cons event events ih =>
      rw [Mealy.run_cons, ih]
      cases event with
      | receive receipt now =>
          rw [List.countP_cons_of_neg (by simp [ServerEvent.numbers]), step,
            sequenceNumber_iterate]
      | takeNumber =>
          rw [List.countP_cons_of_pos rfl, UInt32.ofNat_add, step, Server.takeNumber]
          grind
      | broadcast data fails =>
          rw [List.countP_cons_of_neg (by simp [ServerEvent.numbers]), step,
            Server.sequenceNumber_broadcast]

end Serve

end MagicMousePad
