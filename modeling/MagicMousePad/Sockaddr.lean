import MagicMousePad.Wire
import MagicMousePad.Lib.OrderedSet

/-!
# Socket addresses and the client set

`sockaddr_storage` as its 128 bytes, the order `std::less` puts on it, and the
clients the server keeps in a `std::set` under that order.
-/

namespace MagicMousePad

open ByteOrder

/-- A pointer-sized value; only its comparison with `nullptr` matters. -/
abbrev Pointer := UInt64

def nullptr : Pointer := 0

/-! ## Addresses -/

/-- `mmp_default_port`. -/
def mmpDefaultPort : UInt16 := 14753

/-- The two address families the program supports. -/
inductive Family
  | inet
  | inet6
  deriving DecidableEq

namespace Family

/-- `AF_INET` and `AF_INET6`. -/
def value : Family → ℕ
  | .inet => 2
  | .inet6 => 23

/-- `sizeof(sockaddr_in)` and `sizeof(sockaddr_in6)`. -/
def addressLength : Family → ℕ
  | .inet => 16
  | .inet6 => 28

theorem addressLength_le (family : Family) : family.addressLength ≤ 128 := by
  cases family <;> decide

end Family

/-- `INADDR_ANY` and `in6addr_any`. -/
def inaddrAny : List UInt8 := List.replicate 4 0
def in6addrAny : List UInt8 := List.replicate 16 0

/-- `sockaddr_storage`: 128 bytes. -/
structure SockaddrStorage where
  bytes : List UInt8
  size : bytes.length = 128
  deriving DecidableEq

/-- The bytes of a `sockaddr_in` or `sockaddr_in6`, as `recvfrom` reports a peer
on a socket of that family. -/
structure PeerAddress (family : Family) where
  bytes : List UInt8
  size : bytes.length = family.addressLength
  tagged : bytes.take 2 = littleEndian 2 family.value
  deriving DecidableEq

namespace SockaddrStorage

theorem ext_bytes {first second : SockaddrStorage} (same : first.bytes = second.bytes) :
    first = second := by
  cases first
  cases second
  cases same
  rfl

/-- An all-zero address. -/
def zero : SockaddrStorage := ⟨List.replicate 128 0, by simp⟩

/-- The loopback address 127.0.0.`host`, without a port. -/
def ofHost (host : UInt8) : SockaddrStorage :=
  ⟨[2, 0, 0, 0, 127, 0, 0, host] ++ List.replicate 120 0, by simp⟩

/-- `ss_family`. -/
def ssFamily (address : SockaddrStorage) : ℕ := value (address.bytes.take 2)

/-- The address after an assignment to `ss_family`. -/
def withFamily (address : SockaddrStorage) (family : ℕ) : SockaddrStorage where
  bytes := littleEndian 2 family ++ address.bytes.drop 2
  size := by simp [address.size]

/-- `sin_port` and `sin6_port`, in network-byte order. -/
def port (address : SockaddrStorage) : UInt16 :=
  UInt16.ofNat (value ((address.bytes.drop 2).take 2))

/-- `sin_addr`. -/
def sinAddr (address : SockaddrStorage) : List UInt8 := (address.bytes.drop 4).take 4

/-- `sin6_addr`. -/
def sin6Addr (address : SockaddrStorage) : List UInt8 := (address.bytes.drop 8).take 16

/-- The address after an assignment to `sin_port` or `sin6_port`. -/
def withPort (address : SockaddrStorage) (port : UInt16) : SockaddrStorage where
  bytes := address.bytes.take 2 ++ littleEndian 2 port.toNat ++ address.bytes.drop 4
  size := by simp [address.size]

/-- The address after an assignment to `sin_addr`. -/
def withSinAddr (address : SockaddrStorage) (addr : List UInt8) (size : addr.length = 4) :
    SockaddrStorage where
  bytes := address.bytes.take 4 ++ addr ++ address.bytes.drop 8
  size := by simp [address.size, size]

/-- The address after an assignment to `sin6_addr`. -/
def withSin6Addr (address : SockaddrStorage) (addr : List UInt8) (size : addr.length = 16) :
    SockaddrStorage where
  bytes := address.bytes.take 8 ++ addr ++ address.bytes.drop 24
  size := by simp [address.size, size]

/-- The address after `recvfrom` has reported a peer in its leading bytes. -/
def overwrite {family : Family} (address : SockaddrStorage) (peer : PeerAddress family) :
    SockaddrStorage where
  bytes := peer.bytes ++ address.bytes.drop family.addressLength
  size := by
    have fits := family.addressLength_le
    rw [List.length_append, List.length_drop, peer.size, address.size]
    omega

theorem eq_overwrite {family : Family} {address : SockaddrStorage} {peer : PeerAddress family}
    (leading : address.bytes.take family.addressLength = peer.bytes) :
    address = address.overwrite peer := by
  have split := (List.take_append_drop family.addressLength address.bytes).symm
  rw [leading] at split
  exact ext_bytes split

/-- The bytes a peer of the family does not reach. -/
def tail (family : Family) (address : SockaddrStorage) : List UInt8 :=
  address.bytes.drop family.addressLength

@[simp] theorem tail_overwrite {family : Family} (address : SockaddrStorage)
    (peer : PeerAddress family) : (address.overwrite peer).tail family = address.tail family :=
  List.drop_left' peer.size

/-- What a peer report leaves behind depends only on the bytes it does not
reach. -/
theorem overwrite_eq_of_tail {family : Family} {first second : SockaddrStorage}
    (peer : PeerAddress family) (same : first.tail family = second.tail family) :
    first.overwrite peer = second.overwrite peer := by
  unfold tail at same
  simp only [overwrite, same]

theorem ssFamily_overwrite {family : Family} {address : SockaddrStorage}
    (report : PeerAddress family) : (address.overwrite report).ssFamily = family.value := by
  have written : (report.bytes ++ address.bytes.drop family.addressLength).take 2 =
      report.bytes.take 2 := by
    refine List.take_append_of_le_length ?_
    rw [report.size]
    cases family <;> decide
  rw [ssFamily, overwrite, written, report.tagged]
  cases family <;> rfl

theorem ssFamily_lt (address : SockaddrStorage) : address.ssFamily < 256 ^ 2 := by
  have bound := value_lt (address.bytes.take 2)
  rwa [List.length_take, address.size] at bound

theorem ssFamily_withFamily (address : SockaddrStorage) {family : ℕ} (bound : family < 256 ^ 2) :
    (address.withFamily family).ssFamily = family := by
  rw [ssFamily, withFamily, List.take_left' (length_littleEndian 2 family),
    value_littleEndian bound]

theorem take_withPort (address : SockaddrStorage) (port : UInt16) :
    (address.withPort port).bytes.take 2 = address.bytes.take 2 := by
  rw [withPort]
  dsimp only
  rw [List.append_assoc, List.take_left' (by simp [address.size])]

theorem drop_withPort (address : SockaddrStorage) (port : UInt16) :
    (address.withPort port).bytes.drop 4 = address.bytes.drop 4 :=
  List.drop_left' (by simp [address.size])

@[simp] theorem ssFamily_withPort (address : SockaddrStorage) (port : UInt16) :
    (address.withPort port).ssFamily = address.ssFamily := by
  rw [ssFamily, take_withPort, ssFamily]

@[simp] theorem withPort_withPort (address : SockaddrStorage) (port port' : UInt16) :
    (address.withPort port).withPort port' = address.withPort port' := by
  apply ext_bytes
  change (address.withPort port).bytes.take 2 ++ littleEndian 2 port'.toNat ++
    (address.withPort port).bytes.drop 4 = _
  rw [take_withPort, drop_withPort]
  rfl

@[simp] theorem port_withPort (address : SockaddrStorage) (port : UInt16) :
    (address.withPort port).port = port := by
  have bound := port.toNat_lt
  have written : ((address.withPort port).bytes.drop 2).take 2 = littleEndian 2 port.toNat := by
    rw [withPort]
    dsimp only
    rw [List.append_assoc, List.drop_left' (by simp [address.size]),
      List.take_left' (length_littleEndian 2 _)]
  rw [SockaddrStorage.port, written, value_littleEndian (by omega), UInt16.ofNat_toNat]

/-- The wildcard of a family, with a port in network-byte order. -/
def any (family : Family) (port : UInt16) : SockaddrStorage :=
  (zero.withFamily family.value).withPort port

@[simp] theorem ssFamily_any (family : Family) (port : UInt16) :
    (any family port).ssFamily = family.value := by
  rw [any, ssFamily_withPort]
  cases family <;> decide

@[simp] theorem port_any (family : Family) (port : UInt16) : (any family port).port = port :=
  port_withPort _ port

/-- The address is the wildcard of its family. -/
def IsWildcard (address : SockaddrStorage) : Prop :=
  address.ssFamily = Family.inet.value ∧ address.sinAddr = inaddrAny ∨
    address.ssFamily = Family.inet6.value ∧ address.sin6Addr = in6addrAny

instance (address : SockaddrStorage) : Decidable address.IsWildcard :=
  inferInstanceAs (Decidable (_ ∨ _))

/-- The port does not decide whether an address is a wildcard. -/
theorem isWildcard_withPort {address : SockaddrStorage} {port : UInt16} :
    (address.withPort port).IsWildcard ↔ address.IsWildcard := by
  have four : (address.withPort port).sinAddr = address.sinAddr := by
    rw [sinAddr, drop_withPort, sinAddr]
  have sixteen : (address.withPort port).sin6Addr = address.sin6Addr := by
    have rest := congrArg (List.drop 4) (drop_withPort address port)
    rw [List.drop_drop, List.drop_drop] at rest
    rw [sin6Addr, rest, sin6Addr]
  rw [IsWildcard, ssFamily_withPort, four, sixteen, IsWildcard]

theorem isWildcard_any (family : Family) (port : UInt16) : (any family port).IsWildcard := by
  rw [any, isWildcard_withPort]
  cases family <;> decide

/-- `std::less<sockaddr_storage>`. -/
def less (lhs rhs : SockaddrStorage) : Bool :=
  let dp := (lhs.ssFamily : Int) - rhs.ssFamily
  if dp < 0 then true
  else if dp > 0 then false
  else memcmp lhs.bytes rhs.bytes < 0

theorem less_iff {lhs rhs : SockaddrStorage} :
    lhs.less rhs = true ↔
      lhs.ssFamily < rhs.ssFamily ∨
        lhs.ssFamily = rhs.ssFamily ∧ memcmp lhs.bytes rhs.bytes < 0 := by
  unfold less
  rcases Nat.lt_trichotomy lhs.ssFamily rhs.ssFamily with below | same | above
  · have negative : (lhs.ssFamily : Int) - rhs.ssFamily < 0 := by omega
    simp [negative, below]
  · simp [same]
  · have positive : ¬ (lhs.ssFamily : Int) - rhs.ssFamily < 0 := by omega
    have different : lhs.ssFamily ≠ rhs.ssFamily := by omega
    simp [positive, different]
    omega

theorem less_irrefl (address : SockaddrStorage) : ¬ address.less address = true := by
  rw [less_iff, memcmp_self]
  omega

theorem less_trans {first second third : SockaddrStorage} (below : first.less second = true)
    (below' : second.less third = true) : first.less third = true := by
  rw [less_iff] at below below' ⊢
  rcases below with lower | ⟨same, bytes⟩
  · rcases below' with lower' | ⟨same', -⟩
    · exact Or.inl (lower.trans lower')
    · exact Or.inl (same' ▸ lower)
  · rcases below' with lower' | ⟨same', bytes'⟩
    · exact Or.inl (same ▸ lower')
    · exact Or.inr ⟨same.trans same', memcmp_trans bytes bytes'⟩

/-- Addresses neither of which is less than the other are equal byte for byte. -/
theorem eq_of_not_less {lhs rhs : SockaddrStorage} (notBelow : ¬ lhs.less rhs = true)
    (notAbove : ¬ rhs.less lhs = true) : lhs = rhs := by
  rw [less_iff] at notBelow notAbove
  have antisymm := memcmp_antisymm lhs.bytes rhs.bytes
  exact ext_bytes (memcmp_eq_zero (lhs.size.trans rhs.size.symm) (by omega))

/-- The reported peer's address is read from its bytes. -/
theorem sinAddr_overwrite (address : SockaddrStorage) (report : PeerAddress .inet) :
    (address.overwrite report).sinAddr = (report.bytes.drop 4).take 4 := by
  have size : report.bytes.length = 16 := report.size
  rw [sinAddr, overwrite, List.drop_append_of_le_length (by omega)]
  exact List.take_append_of_le_length (by simp [size])

end SockaddrStorage

/-! ## The parts of a `sockaddr_in` -/

/-- `sin_addr.s_addr`. -/
def SockaddrStorage.sAddr (address : SockaddrStorage) : UInt32 :=
  UInt32.ofNat (value address.sinAddr)

namespace PeerAddress

/-- A `sockaddr_in` with a port and an address, and zero elsewhere. -/
def ofSinAddr (port : UInt16) (sAddr : UInt32) : PeerAddress .inet where
  bytes := littleEndian 2 Family.inet.value ++ littleEndian 2 port.toNat ++
    littleEndian 4 sAddr.toNat ++ List.replicate 8 0
  size := by simp [Family.addressLength]
  tagged := by simp

/-- `sin_port`. -/
def sinPort (address : PeerAddress .inet) : UInt16 :=
  UInt16.ofNat (value ((address.bytes.drop 2).take 2))

/-- `sin_addr.s_addr`. -/
def sAddr (address : PeerAddress .inet) : UInt32 :=
  UInt32.ofNat (value ((address.bytes.drop 4).take 4))

end PeerAddress

@[simp] theorem SockaddrStorage.sAddr_overwrite (address : SockaddrStorage)
    (report : PeerAddress .inet) : (address.overwrite report).sAddr = report.sAddr := by
  rw [sAddr, sinAddr_overwrite, PeerAddress.sAddr]

namespace PeerAddress

@[simp] theorem sAddr_ofSinAddr (port : UInt16) (sAddr : UInt32) :
    (ofSinAddr port sAddr).sAddr = sAddr := by
  have written : ((ofSinAddr port sAddr).bytes.drop 4).take 4 = littleEndian 4 sAddr.toNat := by
    rw [ofSinAddr]
    dsimp only
    rw [List.append_assoc, List.drop_left' (by simp), List.take_left' (by simp)]
  rw [PeerAddress.sAddr, written, value_littleEndian sAddr.toNat_lt, UInt32.ofNat_toNat]

@[simp] theorem sinPort_ofSinAddr (port : UInt16) (sAddr : UInt32) :
    (ofSinAddr port sAddr).sinPort = port := by
  have written : ((ofSinAddr port sAddr).bytes.drop 2).take 2 = littleEndian 2 port.toNat := by
    rw [ofSinAddr]
    dsimp only
    rw [List.append_assoc, List.append_assoc, List.drop_left' (by simp), List.take_left' (by simp)]
  rw [sinPort, written, value_littleEndian port.toNat_lt, UInt16.ofNat_toNat]

end PeerAddress

/-! ## Clients -/

/-- `client`: an address and the timestamp of its last update. -/
structure Client where
  address : SockaddrStorage
  lastUpdate : Int
  deriving DecidableEq

namespace Client

/-- `client::client`, called at clock reading `now`. -/
def new (address : SockaddrStorage) (now : Int) : Client := ⟨address, now⟩

/-- `client::address_length`. -/
def addressLength (client : Client) : ℕ :=
  if client.address.ssFamily = Family.inet.value then Family.inet.addressLength
  else if client.address.ssFamily = Family.inet6.value then Family.inet6.addressLength
  else 0

/-- `std::less<client>`. -/
def Less (lhs rhs : Client) : Prop := lhs.address.less rhs.address = true

instance : DecidableRel Less := fun lhs rhs =>
  inferInstanceAs (Decidable (lhs.address.less rhs.address = true))

instance : IsTrans Client Less := ⟨fun _ _ _ => SockaddrStorage.less_trans⟩

instance : Std.Irrefl Less := ⟨fun client => SockaddrStorage.less_irrefl client.address⟩

/-- The client set tells clients apart by their addresses alone. -/
theorem equivalent_iff {lhs rhs : Client} :
    OrderedSet.Equivalent Less lhs rhs ↔ lhs.address = rhs.address := by
  constructor
  · intro equivalent
    rcases equivalent with ⟨notBelow, notAbove⟩
    exact SockaddrStorage.eq_of_not_less notBelow notAbove
  · intro same
    refine ⟨fun below => ?_, fun above => ?_⟩
    · exact SockaddrStorage.less_irrefl rhs.address (by rw [Less, same] at below; exact below)
    · exact SockaddrStorage.less_irrefl rhs.address (by rw [Less, same] at above; exact above)

end Client

/-- The order on addresses is strict and total, up to equality of all 128 bytes.
That on clients is the same order on their addresses, whatever the timestamps. -/
theorem comparison_strictTotal :
    OrderedSet.StrictTotal (fun lhs rhs : SockaddrStorage => lhs.less rhs = true)
        (fun lhs rhs => lhs.bytes = rhs.bytes) ∧
      (∀ lhs rhs : SockaddrStorage, ∀ updated updated' : Int,
        Client.Less ⟨lhs, updated⟩ ⟨rhs, updated'⟩ ↔ lhs.less rhs = true) ∧
      OrderedSet.StrictTotal Client.Less
        (fun lhs rhs => lhs.address.bytes = rhs.address.bytes) := by
  have total : OrderedSet.StrictTotal (fun lhs rhs : SockaddrStorage => lhs.less rhs = true)
      (fun lhs rhs => lhs.bytes = rhs.bytes) := by
    refine .of_equivalent SockaddrStorage.less_irrefl
      (fun _ _ _ => SockaddrStorage.less_trans) fun lhs rhs => ?_
    constructor
    · intro equivalent
      rcases equivalent with ⟨notBelow, notAbove⟩
      rw [SockaddrStorage.eq_of_not_less notBelow notAbove]
    · intro same
      have equal : lhs = rhs := SockaddrStorage.ext_bytes same
      rw [equal]
      exact ⟨rhs.less_irrefl, rhs.less_irrefl⟩
  exact ⟨total, fun _ _ _ _ => Iff.rfl, total.comap Client.address⟩

/-- `std::set<client>`. -/
abbrev ClientSet := OrderedSet Client.Less

/-- The set holds a client with this address. -/
def ClientSet.HasAddress (clients : ClientSet) (address : SockaddrStorage) : Prop :=
  ∃ client ∈ clients.toList, client.address = address

instance (clients : ClientSet) (address : SockaddrStorage) :
    Decidable (clients.HasAddress address) :=
  inferInstanceAs (Decidable (∃ client ∈ clients.toList, client.address = address))

theorem ClientSet.contains_iff {clients : ClientSet} {client : Client} :
    clients.Contains client ↔ clients.HasAddress client.address := by
  unfold OrderedSet.Contains ClientSet.HasAddress
  simp only [Client.equivalent_iff, eq_comm]

theorem ClientSet.hasAddress_emplace {clients : ClientSet} {client : Client}
    {address : SockaddrStorage} :
    ClientSet.HasAddress (clients.emplace client) address ↔
      clients.HasAddress address ∨ client.address = address := by
  unfold HasAddress
  simp only [OrderedSet.mem_emplace, contains_iff]
  constructor
  · intro found
    rcases found with ⟨other, present | ⟨rfl, -⟩, same⟩
    · exact Or.inl ⟨other, present, same⟩
    · exact Or.inr same
  · intro either
    rcases either with ⟨other, present, same⟩ | same
    · exact ⟨other, Or.inl present, same⟩
    · by_cases present : clients.HasAddress client.address
      · rcases present with ⟨other, member, equal⟩
        exact ⟨other, Or.inl member, equal.trans same⟩
      · exact ⟨client, Or.inr ⟨rfl, present⟩, same⟩

/-- No address is registered twice. -/
theorem ClientSet.nodup_addresses (clients : ClientSet) :
    (clients.toList.map Client.address).Nodup := by
  rw [List.nodup_iff_pairwise_ne, List.pairwise_map]
  refine clients.sorted.imp fun {first second} below same => ?_
  rw [Client.Less, same] at below
  exact Std.Irrefl.irrefl (r := Client.Less) second below

theorem ClientSet.countP_address {clients : ClientSet} {address : SockaddrStorage}
    (registered : clients.HasAddress address) :
    (clients.toList.countP fun client => client.address = address) = 1 := by
  have once : (clients.toList.map Client.address).count address = 1 :=
    List.count_eq_one_of_mem clients.nodup_addresses (List.mem_map.mpr registered)
  rw [List.count, List.countP_map] at once
  rw [← once]
  exact List.countP_congr fun client _ => by simp

end MagicMousePad
