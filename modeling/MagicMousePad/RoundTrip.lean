import MagicMousePad.Pad
import MagicMousePad.Server
import MagicMousePad.Reception

/-!
# Round trips over the wire

What the server means to say, the bytes it sends for it, and what the client
library reads from them.  `serve` does not swap the sequence number of an
announcement and `discover` does, so an announcement arrives as meant only if
its number reads the same in both byte orders.
-/

namespace MagicMousePad

open ByteOrder

/-- What the server means to say. -/
inductive Emission
  | announce (number : UInt32)
  | mouse (number : UInt32) (button : Option (UInt8 × Bool)) (x y : Int32)
  deriving DecidableEq

namespace Emission

/-! ## The server's side -/

/-- The message `server::send` sends. -/
def mouseMsg (padding : UInt8 × UInt8) (number : UInt32) (button : Option (UInt8 × Bool))
    (x y : Int32) : MouseMsg :=
  (PadMessage.toMouseMsg padding ⟨button, ⟨x.toInt, y.toInt⟩⟩).withSequenceNumber (htonl number)

/-- The datagram the server sends; nothing sets the padding of a button
message. -/
def datagram (padding : UInt8 × UInt8) : Emission → Datagram
  | .announce number => MmpMsgAnnounce.datagram { sequenceNumber := number }
  | .mouse number button x y => (mouseMsg padding number button x y).datagram

/-- The answer of `serve` to a discovery request is the emission that announces
its counter. -/
theorem dispatch_eq (s : Serve) {cnt : Int} (now : Int) (padding : UInt8 × UInt8)
    (long : sizeofMmpMsgId ≤ sizeT cnt) (discover : ntohl (load32 s.buffer 0) = mmpMsgidDiscover) :
    (s.dispatch cnt now).2 =
      [.announce ⟨((announce s.server.sequenceNumber).datagram padding).bytes, s.peer,
        s.cntPeer⟩] := by
  rw [Serve.dispatch, if_neg (not_lt.mpr long)]
  simp only [discover, if_true]
  rfl

/-- `server::send` of what a handler has filled in sends the emission with the
server's counter. -/
theorem send_eq (server : Server) (padding : UInt8 × UInt8) (button : Option (UInt8 × Bool))
    (x y : Int32) (fails : Client → Bool) :
    server.send (PadMessage.toMouseMsg padding ⟨button, ⟨x.toInt, y.toInt⟩⟩) fails =
      server.takeNumber.1.broadcast
        ((mouse server.sequenceNumber button x y).datagram padding).bytes fails := rfl

/-! ## The client's side -/

/-- The button and the down flag of a message. -/
def pressed : MouseMsg → Option (UInt8 × Bool)
  | .mouseMove _ => none
  | .mouseButton msg => some (msg.button, msg.down)

/-- The client library reads what the server meant, whatever its buffer held:
from an announcement while it is discovering, from a mouse message while it is
receiving. -/
def ReadBack (padding : UInt8 × UInt8) (e : Emission) : Prop :=
  match e with
  | .announce number =>
      ∀ (client : MmpClient) (buffer : Memory) (peer : SockaddrStorage),
        (client.discoverReceive buffer (e.datagram padding) peer).map
          MmpClient.sequenceNumber = some number
  | .mouse number button x y =>
      ∀ buffer : Memory, ∃ msg,
        mouseMsgOf (buffer.overwrite (e.datagram padding).bytes) = some msg ∧
          msg.number = number ∧ pressed msg = button ∧ ntohlInt msg.x = x ∧ ntohlInt msg.y = y

/-- The bytes `mmpmsg.h` documents. -/
def documented (padding : UInt8 × UInt8) : Emission → List UInt8
  | .announce number => networkImage mmpMsgidAnnounce ++ networkImage number
  | .mouse number none x y =>
      networkImage mmpMsgidMouseMove ++ networkImage number ++ networkImage x.toUInt32 ++
        networkImage y.toUInt32
  | .mouse number (some (button, down)) x y =>
      networkImage mmpMsgidMouseButton ++ networkImage number ++
        [button, if down then 1 else 0, padding.1, padding.2] ++ networkImage x.toUInt32 ++
        networkImage y.toUInt32

/-! ## Mouse messages -/

section Mouse

variable (padding : UInt8 × UInt8) (number : UInt32) (button : Option (UInt8 × Bool))
  (x y : Int32)

theorem mouseMsg_eq : mouseMsg padding number button x y =
    match button with
    | none =>
        .mouseMove
          { sequenceNumber := htonl number, x := ntohlInt x, y := ntohlInt y }
    | some (button, down) =>
        .mouseButton
          { sequenceNumber := htonl number, button := button, down := down, padding := padding
            x := ntohlInt x, y := ntohlInt y } := by
  cases button with
  | none => simp [mouseMsg, PadMessage.toMouseMsg, MouseMsg.setPosition, MouseMsg.withPosition,
      MouseMsg.withSequenceNumber]
  | some press => simp [mouseMsg, PadMessage.toMouseMsg, MouseMsg.setPosition,
      MouseMsg.withPosition, MouseMsg.withSequenceNumber]

/-- A mouse message is read back. -/
theorem readBack_mouse : ReadBack padding (.mouse number button x y) := by
  intro buffer
  have tagged : (mouseMsg padding number button x y).WellTagged := by
    rw [mouseMsg_eq]
    cases button <;> rfl
  refine ⟨mouseMsg padding number button x y,
    (MouseMsg.whole _ tagged).mouseMsgOf_overwrite buffer, ?_⟩
  rw [mouseMsg_eq]
  cases button with
  | none =>
      exact ⟨ntohl_htonl number, rfl, ntohlInt_ntohlInt x, ntohlInt_ntohlInt y⟩
  | some press =>
      exact ⟨ntohl_htonl number, rfl, ntohlInt_ntohlInt x, ntohlInt_ntohlInt y⟩

/-- Its bytes are those documented. -/
theorem documented_mouse : ((mouse number button x y).datagram padding).bytes =
    (mouse number button x y).documented padding := by
  change (mouseMsg padding number button x y).toBytes = _
  rw [mouseMsg_eq]
  cases button with
  | none =>
      rw [documented, ← fieldImage_htonl, ← fieldImage_htonl, ← fieldImage_ntohlInt,
        ← fieldImage_ntohlInt]
      rfl
  | some press =>
      rw [documented, ← fieldImage_htonl, ← fieldImage_htonl, ← fieldImage_ntohlInt,
        ← fieldImage_ntohlInt]
      rfl

end Mouse

/-! ## Announcements -/

/-- The client swaps the number of an announcement. -/
theorem discoverReceive_announce (client : MmpClient) (buffer : Memory) (padding : UInt8 × UInt8)
    (peer : SockaddrStorage) (number : UInt32) :
    client.discoverReceive buffer ((announce number).datagram padding) peer =
      some { client with config.server := peer, sequenceNumber := ntohl number } := by
  have read := MmpMsgAnnounce.ofMemory_toBytes buffer { sequenceNumber := number }
  have id : load32 (buffer.overwrite (MmpMsgAnnounce.toBytes { sequenceNumber := number })) 0 =
      htonl mmpMsgidAnnounce := congrArg MmpMsgAnnounce.id read
  unfold MmpClient.discoverReceive datagram MmpMsgAnnounce.datagram
  dsimp only
  rw [if_neg (by simp), id, ntohl_htonl, if_pos rfl, read]

/-- The round trip is exact, and the bytes are those documented, except for
announcements of numbers that swapping changes. -/
theorem roundTrip_iff (padding : UInt8 × UInt8) (e : Emission) :
    (e.ReadBack padding ∧ (e.datagram padding).bytes = e.documented padding) ↔
      ∀ number, e = .announce number → htonl number = number := by
  cases e with
  | announce number =>
      have swapped : ReadBack padding (.announce number) ↔ htonl number = number := by
        unfold ReadBack
        simp only [discoverReceive_announce, Option.map_some, Option.some_inj]
        exact ⟨fun read => read (.new {}) (fun _ => 0) .zero, fun same _ _ _ => same⟩
      have ordered : ((announce number).datagram padding).bytes =
          (announce number).documented padding ↔ htonl number = number := by
        change fieldImage (htonl mmpMsgidAnnounce) ++ fieldImage number =
          networkImage mmpMsgidAnnounce ++ networkImage number ↔ _
        rw [fieldImage_htonl, List.append_right_inj, fieldImage_eq_networkImage_iff]
      rw [swapped, ordered, and_self]
      constructor
      · intro same other announced
        cases announced
        exact same
      · exact fun same => same number rfl
  | mouse number button x y =>
      refine iff_of_true ⟨readBack_mouse _ _ _ _ _, documented_mouse _ _ _ _ _⟩ ?_
      intro _ announced
      cases announced

/-- The announcement of a server that has sent one message. -/
theorem not_roundTrip_of_announce_one :
    ¬ ((announce 1).ReadBack (0, 0) ∧
      ((announce 1).datagram (0, 0)).bytes = (announce 1).documented (0, 0)) := by
  intro roundTrip
  have ordered := roundTrip.2
  revert ordered
  decide

end Emission

end MagicMousePad
