import MagicMousePad.Lib.ByteOrder

/-!
# The wire format

The message structs of `mmpmsg.h` with their memory image on a little-endian
host.  Fields hold what the source stores in them, so a field that is
documented to be in network-byte order holds the swapped number; the numbers
themselves appear only behind `htonl` and `ntohl`.
-/

namespace MagicMousePad

open ByteOrder

/-! ## Byte order -/

/-- `htonl` on a little-endian host. -/
def htonl (w : UInt32) : UInt32 := UInt32.ofNat (swap 4 w.toNat)

/-- `ntohl` on a little-endian host. -/
def ntohl (w : UInt32) : UInt32 := htonl w

/-- `ntohl` applied to a signed field, with the conversions around the call. -/
def ntohlInt (field : Int32) : Int32 := (ntohl field.toUInt32).toInt32

/-- `htons` on a little-endian host. -/
def htons (port : UInt16) : UInt16 := UInt16.ofNat (swap 2 port.toNat)

/-- `ntohs` on a little-endian host. -/
def ntohs (port : UInt16) : UInt16 := htons port

theorem toNat_htonl (w : UInt32) : (htonl w).toNat = swap 4 w.toNat := by
  rw [htonl, UInt32.toNat_ofNat']
  exact Nat.mod_eq_of_lt (swap_lt 4 w.toNat)

@[simp] theorem ntohl_htonl (w : UInt32) : ntohl (htonl w) = w := by
  apply UInt32.toNat_inj.mp
  rw [ntohl, toNat_htonl, toNat_htonl, swap_swap w.toNat_lt]

@[simp] theorem ntohs_htons (port : UInt16) : ntohs (htons port) = port := by
  have image : ∀ port : UInt16, (htons port).toNat = swap 2 port.toNat := by
    intro port
    rw [htons, UInt16.toNat_ofNat']
    exact Nat.mod_eq_of_lt (swap_lt 2 port.toNat)
  apply UInt16.toNat_inj.mp
  rw [ntohs, image, image, swap_swap port.toNat_lt]

@[simp] theorem htons_ntohs (port : UInt16) : htons (ntohs port) = port := ntohs_htons port

theorem htons_injective {first second : UInt16} (same : htons first = htons second) :
    first = second := by
  rw [← ntohs_htons first, same, ntohs_htons]

@[simp] theorem htonl_ntohl (w : UInt32) : htonl (ntohl w) = w := ntohl_htonl w

@[simp] theorem ntohlInt_ntohlInt (field : Int32) : ntohlInt (ntohlInt field) = field := by
  simp [ntohlInt, ntohl, show ∀ w, htonl (htonl w) = w from ntohl_htonl]

/-- The four bytes a 32-bit field occupies in memory. -/
def fieldImage (w : UInt32) : List UInt8 := littleEndian 4 w.toNat

/-- The four bytes of a number in network-byte order. -/
def networkImage (w : UInt32) : List UInt8 := bigEndian 4 w.toNat

@[simp] theorem length_fieldImage (w : UInt32) : (fieldImage w).length = 4 :=
  length_littleEndian 4 w.toNat

/-- A swapped field lies in memory in network-byte order. -/
theorem fieldImage_htonl (w : UInt32) : fieldImage (htonl w) = networkImage w := by
  rw [fieldImage, toNat_htonl, littleEndian_swap, networkImage]

theorem fieldImage_ntohlInt (n : Int32) :
    fieldImage (ntohlInt n).toUInt32 = networkImage n.toUInt32 :=
  fieldImage_htonl n.toUInt32

/-- An unswapped field lies in memory in network-byte order only if swapping
does not change it. -/
theorem fieldImage_eq_networkImage_iff (w : UInt32) :
    fieldImage w = networkImage w ↔ htonl w = w := by
  rw [fieldImage, networkImage, littleEndian_eq_bigEndian_iff w.toNat_lt, ← toNat_htonl,
    UInt32.toNat_inj]

/-- The 32-bit field at `offset`. -/
def load32 (memory : Memory) (offset : ℕ) : UInt32 := UInt32.ofNat (memory.word offset 4)

theorem load32_overwrite (memory : Memory) {data : List UInt8} {offset : ℕ} {w : UInt32}
    (inside : offset + 4 ≤ data.length) (image : (data.drop offset).take 4 = fieldImage w) :
    load32 (memory.overwrite data) offset = w := by
  rw [load32, Memory.word, Memory.read_overwrite inside, image, fieldImage,
    value_littleEndian w.toNat_lt, UInt32.ofNat_toNat]

/-- A field that lies below the written length does not depend on the former
content of the memory. -/
theorem load32_overwrite_frame (first second : Memory) {data : List UInt8} {offset : ℕ}
    (inside : offset + 4 ≤ data.length) :
    load32 (first.overwrite data) offset = load32 (second.overwrite data) offset := by
  rw [load32, load32, Memory.word, Memory.word, Memory.read_overwrite_frame first second inside]

/-- The id at the start of a memory that a datagram has filled is the one the
datagram starts with. -/
theorem ntohl_load32_overwrite_iff {memory : Memory} {data : List UInt8} {id : UInt32}
    (long : 4 ≤ data.length) :
    ntohl (load32 (memory.overwrite data) 0) = id ↔ networkImage id <+: data := by
  constructor
  · intro same
    have word : (load32 (memory.overwrite data) 0).toNat = value (data.take 4) := by
      rw [load32, UInt32.toNat_ofNat', Memory.word, Memory.read_overwrite (by omega)]
      exact Nat.mod_eq_of_lt (by simpa [long] using value_lt (data.take 4))
    have image : fieldImage (load32 (memory.overwrite data) 0) = data.take 4 := by
      have whole := littleEndian_value (data.take 4)
      rwa [List.length_take, Nat.min_eq_left long, ← word] at whole
    rw [← same, ← fieldImage_htonl, htonl_ntohl, image]
    exact List.take_prefix 4 data
  · intro starts
    have image : (data.drop 0).take 4 = fieldImage (htonl id) := by
      rw [fieldImage_htonl, List.drop_zero, List.prefix_iff_eq_take.mp starts]
      simp [networkImage]
    rw [load32_overwrite memory (by omega) image, ntohl_htonl]

/-- The number in a field in network-byte order grows with each byte of the
memory. -/
theorem ntohl_load32_mono {low high : Memory} (below : ∀ i, (low i).toNat ≤ (high i).toNat)
    (offset : ℕ) : ntohl (load32 low offset) ≤ ntohl (load32 high offset) := by
  have number : ∀ memory : Memory,
      (ntohl (load32 memory offset)).toNat = value (memory.read offset 4).reverse := by
    intro memory
    have word : (load32 memory offset).toNat = value (memory.read offset 4) := by
      rw [load32, UInt32.toNat_ofNat']
      exact Nat.mod_eq_of_lt (memory.word_lt offset 4)
    have swapped := swap_value (memory.read offset 4)
    rw [Memory.length_read] at swapped
    rw [ntohl, toNat_htonl, word, swapped]
  rw [UInt32.le_iff_toNat_le, number, number]
  exact value_mono (List.rel_reverse (Memory.read_mono below offset 4))

/-! ## Message identifiers and mouse buttons -/

def mmpMsgidDiscover : UInt32 := 0x00000001
def mmpMsgidAnnounce : UInt32 := 0x00000002
def mmpMsgidConnect : UInt32 := 0x00000100
def mmpMsgidMouseMove : UInt32 := 0x00001000
def mmpMsgidMouseButton : UInt32 := 0x00001001

/-- `sizeof(mmp_msg_id)`. -/
def sizeofMmpMsgId : ℕ := 4

def mmpMouseButtonNone : UInt8 := 0
def mmpMouseButtonLeft : UInt8 := 0x01
def mmpMouseButtonRight : UInt8 := 0x02
def mmpMouseButtonMiddle : UInt8 := 0x10
def mmpMouseButtonX1 : UInt8 := 0x20
def mmpMouseButtonX2 : UInt8 := 0x40

/-! ## Message structs

The default values are those of the constructors in `mmpmsg.h`. -/

/-- `mmp_msg_discover`. -/
structure MmpMsgDiscover where
  id : UInt32 := htonl mmpMsgidDiscover
  deriving DecidableEq

/-- `mmp_msg_announce`. -/
structure MmpMsgAnnounce where
  id : UInt32 := htonl mmpMsgidAnnounce
  sequenceNumber : UInt32 := 0
  deriving DecidableEq

/-- `mmp_msg_connect`. -/
structure MmpMsgConnect where
  id : UInt32 := htonl mmpMsgidConnect
  deriving DecidableEq

/-- `mmp_msg_mouse_move`. -/
structure MmpMsgMouseMove where
  id : UInt32 := htonl mmpMsgidMouseMove
  sequenceNumber : UInt32 := 0
  x : Int32 := 0
  y : Int32 := 0
  deriving DecidableEq

/-- `mmp_msg_mouse_button`.  No constructor sets the two padding bytes between
`down` and `x`. -/
structure MmpMsgMouseButton where
  id : UInt32 := htonl mmpMsgidMouseButton
  sequenceNumber : UInt32 := 0
  button : UInt8 := mmpMouseButtonNone
  down : Bool := false
  padding : UInt8 × UInt8
  x : Int32 := 0
  y : Int32 := 0
  deriving DecidableEq

namespace MmpMsgAnnounce

/-- `sizeof(mmp_msg_announce)`. -/
def size : ℕ := 8

def toBytes (msg : MmpMsgAnnounce) : List UInt8 :=
  fieldImage msg.id ++ fieldImage msg.sequenceNumber

def ofMemory (memory : Memory) : MmpMsgAnnounce where
  id := load32 memory 0
  sequenceNumber := load32 memory 4

@[simp] theorem length_toBytes (msg : MmpMsgAnnounce) : msg.toBytes.length = size := by
  simp [toBytes, size]

end MmpMsgAnnounce

def MmpMsgDiscover.toBytes (msg : MmpMsgDiscover) : List UInt8 := fieldImage msg.id

def MmpMsgConnect.toBytes (msg : MmpMsgConnect) : List UInt8 := fieldImage msg.id

namespace MmpMsgMouseMove

/-- `sizeof(mmp_msg_mouse_move)`. -/
def size : ℕ := 16

def toBytes (msg : MmpMsgMouseMove) : List UInt8 :=
  fieldImage msg.id ++ fieldImage msg.sequenceNumber ++ fieldImage msg.x.toUInt32 ++
    fieldImage msg.y.toUInt32

def ofMemory (memory : Memory) : MmpMsgMouseMove where
  id := load32 memory 0
  sequenceNumber := load32 memory 4
  x := (load32 memory 8).toInt32
  y := (load32 memory 12).toInt32

@[simp] theorem length_toBytes (msg : MmpMsgMouseMove) : msg.toBytes.length = size := by
  simp [toBytes, size]

end MmpMsgMouseMove

namespace MmpMsgMouseButton

/-- `sizeof(mmp_msg_mouse_button)`. -/
def size : ℕ := 20

def toBytes (msg : MmpMsgMouseButton) : List UInt8 :=
  fieldImage msg.id ++ fieldImage msg.sequenceNumber ++
    [msg.button, if msg.down then 1 else 0, msg.padding.1, msg.padding.2] ++
    fieldImage msg.x.toUInt32 ++ fieldImage msg.y.toUInt32

/-- Any nonzero byte reads as `true` for `down`. -/
def ofMemory (memory : Memory) : MmpMsgMouseButton where
  id := load32 memory 0
  sequenceNumber := load32 memory 4
  button := memory 8
  down := memory 9 != 0
  padding := (memory 10, memory 11)
  x := (load32 memory 12).toInt32
  y := (load32 memory 16).toInt32

@[simp] theorem length_toBytes (msg : MmpMsgMouseButton) : msg.toBytes.length = size := by
  simp [toBytes, size]

end MmpMsgMouseButton

/-! ## Round trips through memory -/

section RoundTrip

variable (memory : Memory)

/-- Loading an announcement from the memory its bytes were received into gives
it back. -/
theorem MmpMsgAnnounce.ofMemory_toBytes (msg : MmpMsgAnnounce) :
    ofMemory (memory.overwrite msg.toBytes) = msg := by
  have id : load32 (memory.overwrite msg.toBytes) 0 = msg.id :=
    load32_overwrite memory (by simp [size]) rfl
  have number : load32 (memory.overwrite msg.toBytes) 4 = msg.sequenceNumber :=
    load32_overwrite memory (by simp [size]) rfl
  rw [ofMemory, id, number]

theorem MmpMsgMouseMove.ofMemory_toBytes (msg : MmpMsgMouseMove) :
    ofMemory (memory.overwrite msg.toBytes) = msg := by
  have id : load32 (memory.overwrite msg.toBytes) 0 = msg.id :=
    load32_overwrite memory (by simp [size]) rfl
  have number : load32 (memory.overwrite msg.toBytes) 4 = msg.sequenceNumber :=
    load32_overwrite memory (by simp [size]) rfl
  have x : load32 (memory.overwrite msg.toBytes) 8 = msg.x.toUInt32 :=
    load32_overwrite memory (by simp [size]) rfl
  have y : load32 (memory.overwrite msg.toBytes) 12 = msg.y.toUInt32 :=
    load32_overwrite memory (by simp [size]) rfl
  rw [ofMemory, id, number, x, y]
  simp

theorem MmpMsgMouseButton.ofMemory_toBytes (msg : MmpMsgMouseButton) :
    ofMemory (memory.overwrite msg.toBytes) = msg := by
  have id : load32 (memory.overwrite msg.toBytes) 0 = msg.id :=
    load32_overwrite memory (by simp [size]) rfl
  have number : load32 (memory.overwrite msg.toBytes) 4 = msg.sequenceNumber :=
    load32_overwrite memory (by simp [size]) rfl
  have x : load32 (memory.overwrite msg.toBytes) 12 = msg.x.toUInt32 :=
    load32_overwrite memory (by simp [size]) rfl
  have y : load32 (memory.overwrite msg.toBytes) 16 = msg.y.toUInt32 :=
    load32_overwrite memory (by simp [size]) rfl
  have byte : ∀ i, i < size → memory.overwrite msg.toBytes i = msg.toBytes.getD i 0 :=
    fun i bound => Memory.overwrite_eq_getD (by simpa using bound) 0
  have button : memory.overwrite msg.toBytes 8 = msg.button := byte 8 (by decide)
  have down : (memory.overwrite msg.toBytes 9 != 0) = msg.down := by
    have image : memory.overwrite msg.toBytes 9 = if msg.down then 1 else 0 := byte 9 (by decide)
    rw [image]
    cases msg.down <;> rfl
  have first : memory.overwrite msg.toBytes 10 = msg.padding.1 := byte 10 (by decide)
  have second : memory.overwrite msg.toBytes 11 = msg.padding.2 := byte 11 (by decide)
  rw [ofMemory, id, number, x, y, button, down, first, second]
  simp

end RoundTrip

/-! ## Messages received in full

A message read from a datagram that covers it does not depend on what the memory
held before. -/

section Frame

variable (first second : Memory) {data : List UInt8}

theorem MmpMsgMouseMove.ofMemory_overwrite_frame (covered : size ≤ data.length) :
    ofMemory (first.overwrite data) = ofMemory (second.overwrite data) := by
  unfold size at covered
  have word : ∀ offset, offset + 4 ≤ data.length →
      load32 (first.overwrite data) offset = load32 (second.overwrite data) offset :=
    fun _ inside => load32_overwrite_frame first second inside
  rw [ofMemory, ofMemory, word 0 (by omega), word 4 (by omega), word 8 (by omega),
    word 12 (by omega)]

theorem MmpMsgMouseButton.ofMemory_overwrite_frame (covered : size ≤ data.length) :
    ofMemory (first.overwrite data) = ofMemory (second.overwrite data) := by
  unfold size at covered
  have word : ∀ offset, offset + 4 ≤ data.length →
      load32 (first.overwrite data) offset = load32 (second.overwrite data) offset :=
    fun _ inside => load32_overwrite_frame first second inside
  have byte : ∀ i, i < data.length → first.overwrite data i = second.overwrite data i :=
    fun _ inside => Memory.overwrite_frame first second inside
  rw [ofMemory, ofMemory, word 0 (by omega), word 4 (by omega), word 12 (by omega),
    word 16 (by omega), byte 8 (by omega), byte 9 (by omega), byte 10 (by omega),
    byte 11 (by omega)]

end Frame

/-! ## Mouse messages

`server::send`, `mouse_pad::set_position`, `track_sequence_number` and
`xform_position` are templates over the two mouse messages. -/

/-- Either mouse message. -/
inductive MouseMsg
  | mouseMove (msg : MmpMsgMouseMove)
  | mouseButton (msg : MmpMsgMouseButton)
  deriving DecidableEq

namespace MouseMsg

def id : MouseMsg → UInt32
  | .mouseMove msg => msg.id
  | .mouseButton msg => msg.id

def sequenceNumber : MouseMsg → UInt32
  | .mouseMove msg => msg.sequenceNumber
  | .mouseButton msg => msg.sequenceNumber

def x : MouseMsg → Int32
  | .mouseMove msg => msg.x
  | .mouseButton msg => msg.x

def y : MouseMsg → Int32
  | .mouseMove msg => msg.y
  | .mouseButton msg => msg.y

def size : MouseMsg → ℕ
  | .mouseMove _ => MmpMsgMouseMove.size
  | .mouseButton _ => MmpMsgMouseButton.size

def toBytes : MouseMsg → List UInt8
  | .mouseMove msg => msg.toBytes
  | .mouseButton msg => msg.toBytes

@[simp] theorem length_toBytes (msg : MouseMsg) : msg.toBytes.length = msg.size := by
  cases msg with
  | mouseMove msg => exact msg.length_toBytes
  | mouseButton msg => exact msg.length_toBytes

theorem four_le_size (msg : MouseMsg) : sizeofMmpMsgId ≤ msg.size := by
  cases msg with
  | mouseMove msg => exact (by decide : sizeofMmpMsgId ≤ MmpMsgMouseMove.size)
  | mouseButton msg => exact (by decide : sizeofMmpMsgId ≤ MmpMsgMouseButton.size)

/-- The assignment to `message.sequence_number`. -/
def withSequenceNumber (n : UInt32) : MouseMsg → MouseMsg
  | .mouseMove msg => .mouseMove { msg with sequenceNumber := n }
  | .mouseButton msg => .mouseButton { msg with sequenceNumber := n }

/-- The assignments to `message.x` and `message.y`. -/
def withPosition (x y : Int32) : MouseMsg → MouseMsg
  | .mouseMove msg => .mouseMove { msg with x := x, y := y }
  | .mouseButton msg => .mouseButton { msg with x := x, y := y }

@[simp] theorem sequenceNumber_withSequenceNumber (n : UInt32) (msg : MouseMsg) :
    (msg.withSequenceNumber n).sequenceNumber = n := by cases msg <;> rfl

@[simp] theorem id_withSequenceNumber (n : UInt32) (msg : MouseMsg) :
    (msg.withSequenceNumber n).id = msg.id := by cases msg <;> rfl

/-- The message carries the id its constructor gave it. -/
def WellTagged : MouseMsg → Prop
  | .mouseMove msg => msg.id = htonl mmpMsgidMouseMove
  | .mouseButton msg => msg.id = htonl mmpMsgidMouseButton

@[simp] theorem wellTagged_withSequenceNumber (n : UInt32) (msg : MouseMsg) :
    (msg.withSequenceNumber n).WellTagged ↔ msg.WellTagged := by cases msg <;> rfl

end MouseMsg

/-! ## Datagrams -/

/-- The size of the receive buffers of client and server. -/
def cntBuffer : ℕ := 65535

/-- A datagram that fits a receive buffer, as `recvfrom` delivers it. -/
structure Datagram where
  bytes : List UInt8
  size_le : bytes.length ≤ cntBuffer
  deriving DecidableEq

/-- An announcement as one datagram. -/
def MmpMsgAnnounce.datagram (msg : MmpMsgAnnounce) : Datagram where
  bytes := msg.toBytes
  size_le := by simp [size, cntBuffer]

/-- A mouse message as one datagram. -/
def MouseMsg.datagram (msg : MouseMsg) : Datagram where
  bytes := msg.toBytes
  size_le := by
    cases msg <;> simp [MouseMsg.toBytes, MmpMsgMouseMove.size, MmpMsgMouseButton.size, cntBuffer]

end MagicMousePad
