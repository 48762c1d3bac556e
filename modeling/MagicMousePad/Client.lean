import MagicMousePad.Sockaddr
import MagicMousePad.Lib.Mealy

/-!
# The client

`mmp_client` with its configuration: the receiver thread as a machine over the
outcomes of `recvfrom`, down to the callbacks it makes and the argument it
passes to `ShowCursor`, and the two ways of getting a sequence number to start
with.  There is one receiver thread, so the compare-exchange that stores a
sequence number never fails.
-/

namespace MagicMousePad

open ByteOrder

/-! ## Result codes -/

def errorInvalidParameter : Int32 := 87

/-- `HRESULT_FROM_WIN32`. -/
def hresultFromWin32 (error : Int32) : Int32 :=
  if error ≤ 0 then error else (error &&& 0xFFFF) ||| 0x80070000

/-- Only success becomes success. -/
theorem hresultFromWin32_eq_zero_iff {error : Int32} : hresultFromWin32 error = 0 ↔ error = 0 := by
  unfold hresultFromWin32
  split
  · exact Iff.rfl
  · rename_i positive
    refine iff_of_false (fun zero => ?_) (fun zero => positive (by rw [zero]; decide))
    have sign := congrArg (fun n : Int32 => n.toBitVec.getLsbD 31) zero
    simp at sign

/-- The code of a call that has failed. -/
structure Failure where
  code : Int32
  nonzero : code ≠ 0

/-! ## Configuration -/

def mmpFlagClip : UInt32 := 0x00000001
def mmpFlagLocal : UInt32 := 0x00000002
def mmpFlagHideRemote : UInt32 := 0x00000004
def mmpFlagSetStart : UInt32 := 0x00000008

/-- `mmp_configuration`; the defaults are those of its constructor. -/
structure MmpConfiguration where
  client : SockaddrStorage := .zero
  context : Pointer := nullptr
  flags : UInt32 := 0
  height : UInt32 := 0
  offsetX : Int32 := 0
  offsetY : Int32 := 0
  onMouseButton : Pointer := nullptr
  onMouseMove : Pointer := nullptr
  rateLimit : UInt32 := 0
  reorderingBuffer : UInt32 := 0
  server : SockaddrStorage := .zero
  startX : Int32 := 0
  startY : Int32 := 0
  timeout : UInt32 := 0
  width : UInt32 := 0
  deriving DecidableEq

/-- Whether a flag is set. -/
def MmpConfiguration.has (config : MmpConfiguration) (flag : UInt32) : Bool :=
  config.flags &&& flag != 0

/-- What `GetSystemMetrics` answers for `SM_CXVIRTUALSCREEN` and
`SM_CYVIRTUALSCREEN`. -/
structure Screen where
  width : Int32
  height : Int32
  deriving DecidableEq

/-! ## The client object -/

/-- The members of `mmp_client` that messages go through. -/
structure MmpClient where
  config : MmpConfiguration
  offset : Int32 × Int32
  running : Bool
  sequenceNumber : UInt32
  updateOffset : Bool
  deriving DecidableEq

/-- An invocation of a callback, with its arguments. -/
inductive Call
  | mouseButton (button : UInt8) (down : Bool) (x y : Int32) (context : Pointer)
  | mouseMove (x y : Int32) (context : Pointer)
  deriving DecidableEq

/-- What the receiver thread does about a datagram: whether
`track_sequence_number` accepted it, what `ShowCursor` was passed, and the
callback. -/
structure Reaction where
  accepted : Bool := false
  shown : Option Bool := none
  call : Option Call := none
  deriving DecidableEq

/-- The steps of `start` that can fail. -/
inductive StartStep
  | buffer
  | socket
  | bind
  | event
  | connect
  | thread
  deriving DecidableEq

namespace MmpClient

/-- `mmp_client::mmp_client`. -/
def new (config : MmpConfiguration) : MmpClient where
  config := config
  offset := (0, 0)
  running := false
  sequenceNumber := 0
  updateOffset := false

/-- An unsupported client family gives way to the one of the server. -/
def coerceFamily (client : MmpClient) : MmpClient :=
  let family := client.config.client.ssFamily
  if family = Family.inet.value ∨ family = Family.inet6.value then client
  else
    { client with
      config.client := client.config.client.withFamily client.config.server.ssFamily }

/-- `mmp_client::start`, with the step that fails, if any, and whether it
succeeded. -/
def start (client : MmpClient) (failing : Option StartStep) : MmpClient × Bool :=
  if client.running then (client, false)
  else
    let client := { client with running := true }
    if failing = some .buffer then (client, false)
    else
      let client := client.coerceFamily
      if failing = some .socket ∨ failing = some .bind ∨ failing = some .event then (client, false)
      else
        let client := { client with updateOffset := client.config.has mmpFlagSetStart }
        if failing = some .connect ∨ failing = some .thread then (client, false)
        else (client, true)

theorem coerceFamily_eq (client : MmpClient) :
    ∃ address, client.coerceFamily = { client with config.client := address } := by
  unfold coerceFamily
  dsimp only
  split
  · exact ⟨client.config.client, rfl⟩
  · exact ⟨_, rfl⟩

/-- An idle client starts when no step fails. -/
theorem start_none {client : MmpClient} (idle : client.running = false) :
    ∃ address, client.start none =
      ({ client with
          config.client := address
          running := true
          updateOffset := client.config.has mmpFlagSetStart }, true) := by
  obtain ⟨address, coerced⟩ := coerceFamily_eq { client with running := true }
  refine ⟨address, ?_⟩
  simp only [start, idle, coerced, reduceCtorEq, or_self, if_false, Bool.false_eq_true]
  rfl

/-- One datagram in the receiver of `discover`: an announcement fixes the server
and the sequence number, everything else is ignored. -/
def discoverReceive (client : MmpClient) (buffer : Memory) (data : Datagram)
    (peer : SockaddrStorage) : Option MmpClient :=
  let buffer := buffer.overwrite data.bytes
  if data.bytes.length < MmpMsgAnnounce.size then none
  else if ntohl (load32 buffer 0) = mmpMsgidAnnounce then
    some
      { client with
        config.server := peer
        sequenceNumber := ntohl (MmpMsgAnnounce.ofMemory buffer).sequenceNumber }
  else none

/-- `mmp_client::track_sequence_number`. -/
def trackSequenceNumber (client : MmpClient) (msg : MouseMsg) : MmpClient × Bool :=
  let s := ntohl msg.sequenceNumber
  if s > client.sequenceNumber then ({ client with sequenceNumber := s }, true)
  else (client, false)

/-- `mmp_client::clip`: the clipped position and the result. -/
def clip (x y : Int32) (width height : UInt32) : (Int32 × Int32) × Bool :=
  let h := height.toInt32
  let w := width.toInt32
  let (x, clipped) :=
    if x < 0 then (0, true)
    else if x > w then (w, true)
    else (x, false)
  let (y, clipped) :=
    if y < 0 then (0, false)
    else if y > h then (h, true)
    else (y, clipped)
  ((x, y), clipped)

/-- The start of `xform_position`: the first position fixes the offset. -/
def captureOffset (client : MmpClient) (x y : Int32) : MmpClient :=
  if client.updateOffset then
    { client with
      updateOffset := false
      offset := (client.config.startX - x, client.config.startY - y) }
  else client

/-- The rest of `xform_position`, from the virtual position on: the position
reported and the argument of `ShowCursor`. -/
def place (config : MmpConfiguration) (screen : Screen) (x y : Int32) :
    (Int32 × Int32) × Option Bool :=
  let (x, y) :=
    if config.has mmpFlagClip then (clip x y config.width config.height).1 else (x, y)
  if config.has mmpFlagLocal then
    let x := x - config.offsetX
    let y := y - config.offsetY
    if config.has mmpFlagClip then
      let (position, clipped) := clip x y screen.width.toUInt32 screen.height.toUInt32
      (position, if config.has mmpFlagHideRemote then some (!clipped) else none)
    else ((x, y), none)
  else ((x, y), none)

/-- `mmp_client::xform_position`. -/
def xformPosition (client : MmpClient) (screen : Screen) (msg : MouseMsg) :
    MmpClient × (Int32 × Int32) × Option Bool :=
  let x := ntohlInt msg.x
  let y := ntohlInt msg.y
  let client := client.captureOffset x y
  (client, place client.config screen (x + client.offset.1) (y + client.offset.2))

/-- What `on_mouse_button` and `on_mouse_move` have in common: the callback they
make and the arguments they make it with are parameters. -/
def onMessage (client : MmpClient) (screen : Screen) (msg : MouseMsg) (callback : Pointer)
    (report : Int32 → Int32 → Call) : MmpClient × Reaction :=
  let (client, accepted) := client.trackSequenceNumber msg
  if accepted then
    if callback ≠ nullptr then
      let (client, p, shown) := client.xformPosition screen msg
      (client, { accepted := true, shown := shown, call := some (report p.1 p.2) })
    else (client, { accepted := true })
  else (client, {})

/-- `mmp_client::on_mouse_button`. -/
def onMouseButton (client : MmpClient) (screen : Screen) (msg : MmpMsgMouseButton) :
    MmpClient × Reaction :=
  client.onMessage screen (.mouseButton msg) client.config.onMouseButton
    fun x y => .mouseButton msg.button msg.down x y client.config.context

/-- `mmp_client::on_mouse_move`. -/
def onMouseMove (client : MmpClient) (screen : Screen) (msg : MmpMsgMouseMove) :
    MmpClient × Reaction :=
  client.onMessage screen (.mouseMove msg) client.config.onMouseMove
    fun x y => .mouseMove x y client.config.context

/-- The handler of either message. -/
def handle (client : MmpClient) (screen : Screen) : MouseMsg → MmpClient × Reaction
  | .mouseButton msg => client.onMouseButton screen msg
  | .mouseMove msg => client.onMouseMove screen msg

end MmpClient

/-! ## The receive loop -/

/-- What one call of `receive_from` does, on a screen of a certain size. -/
inductive RecvOutcome
  | failed
  | received (data : Datagram) (screen : Screen)

/-- The receiver thread: the client, the buffer that lives across iterations,
and whether the thread has left its loop. -/
structure Receiver where
  client : MmpClient
  buffer : Memory
  left : Bool

/-- The mouse message at the start of the buffer, chosen by the id there. -/
def mouseMsgOf (buffer : Memory) : Option MouseMsg :=
  let id := ntohl (load32 buffer 0)
  if id = mmpMsgidMouseButton then some (.mouseButton (.ofMemory buffer))
  else if id = mmpMsgidMouseMove then some (.mouseMove (.ofMemory buffer))
  else none

/-- One iteration of the loop in `mmp_client::receive`. -/
def Receiver.step (r : Receiver) (outcome : RecvOutcome) : Receiver × Reaction :=
  if r.left then (r, {})
  else if !r.client.running then ({ r with left := true }, {})
  else
    match outcome with
    | .failed => ({ r with left := true }, {})
    | .received data screen =>
        let r := { r with buffer := r.buffer.overwrite data.bytes }
        if data.bytes.length < sizeofMmpMsgId then (r, {})
        else
          match mouseMsgOf r.buffer with
          | none => (r, {})
          | some msg =>
              let (client, reaction) := r.client.handle screen msg
              ({ r with client := client }, reaction)

end MagicMousePad
