import MagicMousePad.Client

/-!
# End points

`mmp_parse_end_pointw` and `mmp_parse_end_pointa`.  The end point is cleared as soon
as the string is parsed, so it is lost when the name in the string is not resolved
afterwards.
-/

namespace MagicMousePad

open ByteOrder

/-- A `std::wstring` on Windows. -/
abbrev WideString := List UInt16

/-! ## Addresses -/

/-- The bytes of a `sockaddr_in` or `sockaddr_in6` with any content. -/
structure RawAddress (family : Family) where
  bytes : List UInt8
  size : bytes.length = family.addressLength

/-- An entry in the result of `GetAddrInfoW`; its address fits in a
`sockaddr_storage`. -/
structure AddrInfo where
  family : ℕ
  addr : List UInt8
  fits : addr.length ≤ 128

/-- The storage after `memcpy` to its start. -/
def SockaddrStorage.memcpy (storage : SockaddrStorage) (src : List UInt8)
    (fits : src.length ≤ 128) : SockaddrStorage where
  bytes := src ++ storage.bytes.drop src.length
  size := by
    rw [List.length_append, List.length_drop, storage.size]
    omega

theorem RawAddress.fits {family : Family} (address : RawAddress family) :
    address.bytes.length ≤ 128 :=
  address.size ▸ family.addressLength_le

/-! ## What is called -/

/-- `NET_ADDRESS_INFO`. -/
inductive NetAddressInfo
  | ipv4 (address : RawAddress .inet)
  | ipv6 (address : RawAddress .inet6)
  | dnsName (address port : WideString)
  | unspecified

/-- `ParseNetworkString`, `GetAddrInfoW` and the conversion from UTF-8, which may
throw. -/
structure EndPointApi where
  parseNetworkString : WideString → Except Failure NetAddressInfo
  getAddrInfo : WideString → WideString → Except Failure (List AddrInfo)
  fromBytes : List UInt8 → Option WideString

/-! ## Parsing -/

/-- The family is one of the two that the program supports. -/
def AddrInfo.Supported (info : AddrInfo) : Prop :=
  info.family = Family.inet.value ∨ info.family = Family.inet6.value

instance (info : AddrInfo) : Decidable info.Supported :=
  inferInstanceAs (Decidable (_ ∨ _))

/-- `mmp_parse_end_pointw`: what is behind the pointer, which may be null, and the
result. -/
def mmpParseEndPointw (api : EndPointApi) (endPoint : Option SockaddrStorage)
    (string : WideString) : Option SockaddrStorage × Int32 :=
  match endPoint with
  | none => (none, hresultFromWin32 errorInvalidParameter)
  | some endPoint =>
      match api.parseNetworkString string with
      | .error failure => (some endPoint, hresultFromWin32 failure.code)
      | .ok address =>
          let endPoint := SockaddrStorage.zero
          match address with
          | .ipv4 address => (some (endPoint.memcpy address.bytes address.fits), 0)
          | .ipv6 address => (some (endPoint.memcpy address.bytes address.fits), 0)
          | .dnsName address port =>
              match api.getAddrInfo address port with
              | .error failure => (some endPoint, hresultFromWin32 failure.code)
              | .ok addresses =>
                  match addresses.find? fun a => a.Supported with
                  | some a => (some (endPoint.memcpy a.addr a.fits), 0)
                  | none => (some endPoint, hresultFromWin32 errorInvalidParameter)
          | .unspecified => (some endPoint, hresultFromWin32 errorInvalidParameter)

/-- `mmp_parse_end_pointa`, which throws when the string is not converted. -/
def mmpParseEndPointa (api : EndPointApi) (endPoint : Option SockaddrStorage)
    (string : List UInt8) : Option (Option SockaddrStorage × Int32) :=
  (api.fromBytes string).map (mmpParseEndPointw api endPoint)

/-! ## When the end point is lost -/

namespace EndPointApi

variable (api : EndPointApi)

/-- What was parsed is an address, or a name that has one. -/
def Resolves : NetAddressInfo → Prop
  | .ipv4 _ => True
  | .ipv6 _ => True
  | .dnsName address port =>
      ∃ addresses, api.getAddrInfo address port = .ok addresses ∧ ∃ a ∈ addresses, a.Supported
  | .unspecified => False

/-- The string is parsed, and the result is no address. -/
def LosesEndPoint (string : WideString) : Prop :=
  ∃ address, api.parseNetworkString string = .ok address ∧ ¬ api.Resolves address

variable {api} {string address port : WideString}

theorem not_losesEndPoint_of_error {failure : Failure}
    (rejected : api.parseNetworkString string = .error failure) : ¬ api.LosesEndPoint string := by
  intro loses
  rcases loses with ⟨parsed, found, -⟩
  exact absurd (rejected.symm.trans found) (by simp)

theorem losesEndPoint_iff_of_ok {parsed : NetAddressInfo}
    (accepted : api.parseNetworkString string = .ok parsed) :
    api.LosesEndPoint string ↔ ¬ api.Resolves parsed := by
  constructor
  · intro loses
    rcases loses with ⟨parsed', found, fails⟩
    rw [Except.ok.inj (accepted.symm.trans found)]
    exact fails
  · exact fun fails => ⟨parsed, accepted, fails⟩

theorem not_resolves_of_error {failure : Failure}
    (unresolved : api.getAddrInfo address port = .error failure) :
    ¬ api.Resolves (.dnsName address port) := by
  intro resolves
  rcases resolves with ⟨addresses, answered, -⟩
  exact absurd (unresolved.symm.trans answered) (by simp)

theorem resolves_iff_of_ok {addresses : List AddrInfo}
    (resolved : api.getAddrInfo address port = .ok addresses) :
    api.Resolves (.dnsName address port) ↔ ∃ a ∈ addresses, a.Supported := by
  constructor
  · intro resolves
    rcases resolves with ⟨addresses', answered, known⟩
    rw [Except.ok.inj (resolved.symm.trans answered)]
    exact known
  · exact fun known => ⟨addresses, resolved, known⟩

end EndPointApi

theorem hresultFromWin32_ne_zero (failure : Failure) : hresultFromWin32 failure.code ≠ 0 :=
  fun zero => failure.nonzero (hresultFromWin32_eq_zero_iff.mp zero)

/-- What can happen to the end point: nothing, with an error; it is set; or it is
cleared, with an error. -/
theorem mmpParseEndPointw_cases (api : EndPointApi) (endPoint : SockaddrStorage)
    (string : WideString) :
    (¬ api.LosesEndPoint string ∧
        ∃ code, mmpParseEndPointw api (some endPoint) string = (some endPoint, code)) ∨
      (¬ api.LosesEndPoint string ∧
        ∃ parsed, mmpParseEndPointw api (some endPoint) string = (some parsed, 0)) ∨
      (api.LosesEndPoint string ∧
        ∃ code, code ≠ 0 ∧ mmpParseEndPointw api (some endPoint) string = (some .zero, code)) := by
  have invalid : hresultFromWin32 errorInvalidParameter ≠ 0 := by decide
  unfold mmpParseEndPointw
  dsimp only
  cases parsed : api.parseNetworkString string with
  | error failure => exact Or.inl ⟨EndPointApi.not_losesEndPoint_of_error parsed, _, rfl⟩
  | ok address =>
      rw [EndPointApi.losesEndPoint_iff_of_ok parsed, not_not]
      apply Or.inr
      cases address with
      | ipv4 address => exact Or.inl ⟨trivial, _, rfl⟩
      | ipv6 address => exact Or.inl ⟨trivial, _, rfl⟩
      | unspecified => exact Or.inr ⟨id, _, invalid, rfl⟩
      | dnsName address port =>
          cases resolved : api.getAddrInfo address port with
          | error failure =>
              have fails := EndPointApi.not_resolves_of_error resolved
              simp only [resolved]
              exact Or.inr ⟨fails, _, hresultFromWin32_ne_zero failure, rfl⟩
          | ok addresses =>
              rw [EndPointApi.resolves_iff_of_ok resolved]
              simp only [resolved]
              cases found : addresses.find? fun a => a.Supported with
              | none =>
                  have fails : ¬ ∃ a ∈ addresses, a.Supported := by simpa using found
                  exact Or.inr ⟨fails, _, invalid, rfl⟩
              | some a =>
                  have supported : a.Supported := by simpa using List.find?_some found
                  exact Or.inl ⟨⟨a, List.mem_of_find?_eq_some found, supported⟩, _, rfl⟩

end MagicMousePad
