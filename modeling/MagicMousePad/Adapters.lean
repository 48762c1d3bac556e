import MagicMousePad.Discovery

/-!
# Broadcast addresses

`bcast_addresses` walks over the adapters and their unicast addresses and computes a
broadcast address of each IPv4 address.  The mask is made in host-byte order and the
address is completed in network-byte order; read in host order, the address keeps
its leading bits and has ones behind them.
-/

namespace MagicMousePad

open ByteOrder

/-! ## What `GetAdaptersAddresses` answers -/

/-- `IF_OPER_STATUS`. -/
inductive IfOperStatus
  | up
  | down
  | testing
  | unknown
  | dormant
  | notPresent
  | lowerLayerDown
  deriving DecidableEq

/-- `IP_ADAPTER_UNICAST_ADDRESS`: the address, unless the pointer is null, and the
length of its network part, which is at most 32 for IPv4. -/
structure UnicastAddress where
  lpSockaddr : Option SockaddrStorage
  onLinkPrefixLength : UInt8
  reported : ∀ sockaddr, lpSockaddr = some sockaddr →
    sockaddr.ssFamily = Family.inet.value → onLinkPrefixLength.toNat ≤ 32

/-- `IP_ADAPTER_ADDRESSES`, with its list of unicast addresses. -/
structure Adapter where
  operStatus : IfOperStatus
  unicastAddresses : List UnicastAddress

/-- The answers of `GetAdaptersAddresses`: the error of the query of the size if it is
not `ERROR_BUFFER_OVERFLOW`, that of the query itself, and the list. -/
structure AdapterQuery where
  size : Option Failure
  query : Option Failure
  adapters : List Adapter

/-- What is thrown for a Win32 error. -/
def Failure.thrown (failure : Failure) : Failure where
  code := hresultFromWin32 failure.code
  nonzero := fun zero => failure.nonzero (hresultFromWin32_eq_zero_iff.mp zero)

/-! ## The address of a network -/

namespace MmpClient

/-- The amount by which the mask is shifted. -/
def shiftAmount (length : UInt8) : Int := 32 - length.toNat

/-- The mask of the network, in host-byte order. -/
def netmask (length : UInt8) : UInt32 :=
  if length = 0 then 0 else 0xFFFFFFFF <<< UInt32.ofInt (shiftAmount length)

/-- The broadcast address for an address in a network. -/
def bcastAddress (port : UInt16) (src : SockaddrStorage) (length : UInt8) : PeerAddress .inet :=
  let mask := ntohl (netmask length)
  .ofSinAddr port (src.sAddr ||| ~~~mask)

/-- The inner loop of `bcast_addresses`. -/
def visitAddress (port : UInt16) (retval : List (PeerAddress .inet)) (address : UnicastAddress) :
    List (PeerAddress .inet) :=
  match address.lpSockaddr with
  | none => retval
  | some src =>
      if src.ssFamily ≠ Family.inet.value then retval
      else retval ++ [bcastAddress port src address.onLinkPrefixLength]

/-- The outer loop of `bcast_addresses`. -/
def visitAdapter (port : UInt16) (retval : List (PeerAddress .inet)) (adapter : Adapter) :
    List (PeerAddress .inet) :=
  if adapter.operStatus ≠ .up then retval
  else adapter.unicastAddresses.foldl (visitAddress port) retval

/-- `mmp_client::bcast_addresses`. -/
def bcastAddresses (answer : AdapterQuery) (port : UInt16) :
    Except Failure (List (PeerAddress .inet)) :=
  match answer.size with
  | some failure => .error failure.thrown
  | none =>
      match answer.query with
      | some failure => .error failure.thrown
      | none => .ok (answer.adapters.foldl (visitAdapter port) [])

end MmpClient

/-! ## The addresses to be reached -/

/-- The IPv4 address of a unicast address, if it has one, and the length of its
network part. -/
def UnicastAddress.network (address : UnicastAddress) : Option (SockaddrStorage × UInt8) :=
  match address.lpSockaddr with
  | none => none
  | some src =>
      if src.ssFamily = Family.inet.value then some (src, address.onLinkPrefixLength) else none

/-- The IPv4 addresses of the adapters that are up. -/
def networks (adapters : List Adapter) : List (SockaddrStorage × UInt8) :=
  (adapters.filter (·.operStatus = .up)).flatMap fun adapter =>
    adapter.unicastAddresses.filterMap UnicastAddress.network

/-- The target is the broadcast address of the network, with the port, and the mask is
shifted by less than its width if it is shifted at all. -/
structure IsBroadcast (port : UInt16) (network : SockaddrStorage × UInt8)
    (target : PeerAddress .inet) : Prop where
  agrees : ∀ i, 32 - network.2.toNat ≤ i → i < 32 →
    (ntohl target.sAddr).toNat.testBit i = (ntohl network.1.sAddr).toNat.testBit i
  ones : ∀ i < 32 - network.2.toNat, (ntohl target.sAddr).toNat.testBit i = true
  port : target.sinPort = port
  shift : network.2 ≠ 0 →
    0 ≤ MmpClient.shiftAmount network.2 ∧ MmpClient.shiftAmount network.2 ≤ 31

/-! ## Bits -/

theorem testBit_ntohl (w : UInt32) {i : ℕ} (inside : i < 32) :
    (ntohl w).toNat.testBit i = w.toNat.testBit (swapIndex 4 i) := by
  rw [ntohl, toNat_htonl, testBit_swap w.toNat_lt inside]

/-- Swapping is done byte by byte, so it commutes with completing an address. -/
theorem testBit_ntohl_or_not (address mask : UInt32) {i : ℕ} (inside : i < 32) :
    (ntohl (address ||| ~~~ntohl mask)).toNat.testBit i =
      ((ntohl address).toNat.testBit i || !mask.toNat.testBit i) := by
  have inside' : swapIndex 4 i < 32 := swapIndex_lt inside
  have complement : (~~~ntohl mask).toNat.testBit (swapIndex 4 i) =
      !(ntohl mask).toNat.testBit (swapIndex 4 i) := by
    change (~~~(ntohl mask).toBitVec).getLsbD _ = !(ntohl mask).toBitVec.getLsbD _
    rw [BitVec.getLsbD_not, decide_eq_true inside', Bool.true_and]
  rw [testBit_ntohl _ inside, UInt32.toNat_or, Nat.testBit_or, complement,
    testBit_ntohl mask inside', swapIndex_swapIndex inside, testBit_ntohl address inside]

/-- The mask has a one in the leading bits. -/
theorem testBit_netmask {length : UInt8} (short : length.toNat ≤ 32) {i : ℕ} (inside : i < 32) :
    (MmpClient.netmask length).toNat.testBit i = decide (32 - length.toNat ≤ i) := by
  unfold MmpClient.netmask
  split
  · rename_i zero
    have none : ¬ 32 - length.toNat ≤ i := by
      rw [zero]
      exact not_le.mpr inside
    rw [decide_eq_false none]
    exact Nat.zero_testBit i
  · rename_i nonzero
    have positive : length.toNat ≠ 0 := fun zero => nonzero (UInt8.toNat_inj.mp zero)
    have amount : (UInt32.ofInt (MmpClient.shiftAmount length)).toNat % 32 =
        32 - length.toNat := by
      have whole : (MmpClient.shiftAmount length % 2 ^ 32).toNat = 32 - length.toNat := by
        unfold MmpClient.shiftAmount
        omega
      have small : 32 - length.toNat < 32 := by omega
      rw [UInt32.ofInt, whole, UInt32.toNat_ofNat', Nat.mod_mod_of_dvd _ (by norm_num),
        Nat.mod_eq_of_lt small]
    have ones : (0xFFFFFFFF : UInt32).toNat = 2 ^ 32 - 1 := rfl
    rw [UInt32.toNat_shiftLeft, amount, ones, Nat.testBit_mod_two_pow, Nat.testBit_shiftLeft,
      Nat.testBit_two_pow_sub_one]
    have low : i - (32 - length.toNat) < 32 := by omega
    simp [inside, low]

/-- A network part of at most 32 bits gets its broadcast address. -/
theorem isBroadcast_bcastAddress (port : UInt16) (src : SockaddrStorage) {length : UInt8}
    (short : length.toNat ≤ 32) :
    IsBroadcast port (src, length) (MmpClient.bcastAddress port src length) := by
  have bit : ∀ i < 32, (ntohl (MmpClient.bcastAddress port src length).sAddr).toNat.testBit i =
      ((ntohl src.sAddr).toNat.testBit i || !decide (32 - length.toNat ≤ i)) := by
    intro i inside
    rw [MmpClient.bcastAddress, PeerAddress.sAddr_ofSinAddr, testBit_ntohl_or_not _ _ inside,
      testBit_netmask short inside]
  refine ⟨fun i high inside => ?_, fun i low => ?_, ?_, fun nonzero => ?_⟩
  · rw [bit i inside, decide_eq_true high, Bool.not_true, Bool.or_false]
  · rw [bit i (by omega), decide_eq_false (not_le.mpr low), Bool.not_false, Bool.or_true]
  · exact PeerAddress.sinPort_ofSinAddr _ _
  · have positive : length.toNat ≠ 0 := fun zero => nonzero (UInt8.toNat_inj.mp zero)
    dsimp only
    unfold MmpClient.shiftAmount
    constructor <;> omega

/-! ## The loops -/

/-- The inner loop appends the broadcast addresses of its networks. -/
theorem foldl_visitAddress (port : UInt16) (addresses : List UnicastAddress)
    (retval : List (PeerAddress .inet)) :
    addresses.foldl (MmpClient.visitAddress port) retval =
      retval ++ (addresses.filterMap UnicastAddress.network).map
        fun network => MmpClient.bcastAddress port network.1 network.2 := by
  induction addresses generalizing retval with
  | nil => simp
  | cons address addresses ih =>
      rw [List.foldl_cons, ih, List.filterMap_cons, MmpClient.visitAddress, UnicastAddress.network]
      cases address.lpSockaddr with
      | none => rfl
      | some src =>
          by_cases inet : src.ssFamily = Family.inet.value
          · simp [inet]
          · simp [inet]

/-- The outer loop appends those of the adapters that are up. -/
theorem foldl_visitAdapter (port : UInt16) (adapters : List Adapter)
    (retval : List (PeerAddress .inet)) :
    adapters.foldl (MmpClient.visitAdapter port) retval =
      retval ++ (networks adapters).map
        fun network => MmpClient.bcastAddress port network.1 network.2 := by
  induction adapters generalizing retval with
  | nil => simp [networks]
  | cons adapter adapters ih =>
      rw [List.foldl_cons, ih, MmpClient.visitAdapter]
      by_cases up : adapter.operStatus = .up
      · simp [up, networks, foldl_visitAddress]
      · simp [up, networks]

theorem length_le_of_mem_networks {adapters : List Adapter} {network : SockaddrStorage × UInt8}
    (found : network ∈ networks adapters) : network.2.toNat ≤ 32 := by
  obtain ⟨adapter, -, inAdapter⟩ := List.mem_flatMap.mp found
  obtain ⟨address, -, same⟩ := List.mem_filterMap.mp inAdapter
  unfold UnicastAddress.network at same
  split at same
  · cases same
  · rename_i src present
    split at same
    · rename_i inet
      cases same
      exact address.reported src present inet
    · cases same

/-- What is returned when the queries succeed. -/
theorem bcastAddresses_eq (adapters : List Adapter) (port : UInt16) :
    MmpClient.bcastAddresses ⟨none, none, adapters⟩ port =
      .ok ((networks adapters).map
        fun network => MmpClient.bcastAddress port network.1 network.2) := by
  rw [MmpClient.bcastAddresses, foldl_visitAdapter, List.nil_append]

/-- The addresses are the broadcast addresses of the IPv4 networks of the adapters that
are up, in their order. -/
theorem bcastAddresses_broadcast (adapters : List Adapter) (port : UInt16) :
    ∃ targets, MmpClient.bcastAddresses ⟨none, none, adapters⟩ port = .ok targets ∧
      List.Forall₂ (IsBroadcast port) (networks adapters) targets := by
  refine ⟨_, bcastAddresses_eq adapters port, ?_⟩
  rw [List.forall₂_map_right_iff, List.forall₂_same]
  exact fun network found => isBroadcast_bcastAddress port _ (length_le_of_mem_networks found)

end MagicMousePad
