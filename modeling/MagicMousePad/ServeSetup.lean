import MagicMousePad.Settings

/-!
# The socket of the server

How `serve` makes a socket of its settings: it asks for one of the family in the
address, and only then gives an address without a supported family that of IPv4.
Settings read from an `Address` object without a `Port` have no family, so for
them the request and the address that is bound fall apart.  There is a socket at
all only if the sizes of the configuration are numbers, for `from_json` must not
throw when it converts them.
-/

namespace MagicMousePad

/-! ## Setting up the socket -/

namespace Server

/-- `server::get_port`. -/
def getPort (src : SockaddrStorage) : UInt16 :=
  if src.ssFamily = Family.inet.value then ntohs src.port
  else if src.ssFamily = Family.inet6.value then ntohs src.port
  else 0

/-- `server::set_port`. -/
def setPort (dst : SockaddrStorage) (port : UInt16) : SockaddrStorage :=
  if dst.ssFamily = Family.inet.value then dst.withPort (htons port)
  else if dst.ssFamily = Family.inet6.value then dst.withPort (htons port)
  else dst

end Server

/-- What `serve` passes to `WSASocket` and to `::bind`. -/
structure SocketSetup where
  requested : ℕ
  address : SockaddrStorage
  length : ℕ
  deriving DecidableEq

/-- `serve` up to the call of `::bind`. -/
def serveSetup (settings : Settings) : SocketSetup :=
  let requested := settings.address.ssFamily
  let settings :=
    if settings.address.ssFamily = Family.inet.value ∨
        settings.address.ssFamily = Family.inet6.value then settings
    else { settings with address := settings.address.withFamily Family.inet.value }
  let settings :=
    if Server.getPort settings.address = 0 then
      { settings with address := Server.setPort settings.address mmpDefaultPort }
    else settings
  { requested := requested, address := settings.address, length := settings.addressLength }

/-- The family of the socket that `WSASocket` creates when it is asked for one, if it
creates any: a supported family is the one that it is asked for. -/
structure WsaSocket where
  created : ℕ → Option ℕ
  supported : ∀ family : Family, created family.value = some family.value

/-- A `WSASocket` that makes IPv4 of no family. -/
def WsaSocket.unspecified : WsaSocket where
  created family := if family = 0 then some Family.inet.value else some family
  supported family := by cases family <;> decide

/-! ## What the configuration asks for -/

/-- An `Address` object with an optional family and an optional port. -/
structure AddressRequest where
  family : Option JsonInteger
  port : Option UInt16

/-- The members of the object make the request; others do not matter. -/
def AddressRequest.MadeBy (request : AddressRequest) (address : String → Option Json) : Prop :=
  address "Family" = request.family.map Json.integer ∧
    address "Port" = request.port.map fun port => .ofUInt32 port.toUInt32

/-- The configuration makes the request, or has no `Address`. -/
def Requests (json : Json) : Option AddressRequest → Prop
  | none => json.find "Address" = none
  | some request => ∃ address, json.find "Address" = some (.object address) ∧ request.MadeBy address

/-- The family asked for is number 6. -/
def AddressRequest.six (request : AddressRequest) : Bool :=
  request.family.any fun n => n.value == 6

/-- The family asked for is converted to the number 6. -/
def AddressRequest.readsSix (request : AddressRequest) : Bool :=
  request.family.any fun n => Int32.ofInt n.value == 6

/-- The family of the request: IPv6 if it is number 6. -/
def requestedFamily : Option AddressRequest → Family
  | none => .inet
  | some request => if request.six then .inet6 else .inet

/-- The port of the request, or the default. -/
def requestedPort (request : Option AddressRequest) : UInt16 :=
  match request.bind AddressRequest.port with
  | none => mmpDefaultPort
  | some port => if port = 0 then mmpDefaultPort else port

/-- The socket is what the configuration asks for. -/
structure Serves (sockets : WsaSocket) (request : Option AddressRequest) (setup : SocketSetup) :
    Prop where
  sameFamily : sockets.created setup.requested = some setup.address.ssFamily
  family : setup.address.ssFamily = (requestedFamily request).value
  wildcard : setup.address.IsWildcard
  length : setup.length = (requestedFamily request).addressLength
  port : Server.getPort setup.address = requestedPort request

/-- The request names a port, and its family is not only converted to 6; or it names
neither a port nor IPv6, and IPv4 is what `WSASocket` makes of no family. -/
def Serviceable (sockets : WsaSocket) : Option AddressRequest → Prop
  | none => True
  | some request =>
      match request.port with
      | some _ => request.readsSix = true → request.six = true
      | none => request.six = false ∧ sockets.created 0 = some Family.inet.value

/-- A number that converts to a size. -/
def Json.IsSize : Json → Prop
  | .integer _ => True
  | .boolean _ => True
  | .float value => -1 < value ∧ value < 2 ^ 32
  | .object _ => False
  | .other => False

/-- The sizes of the configuration, as far as there are any, convert. -/
def Sized (json : Json) : Prop :=
  (∀ height, json.find "Height" = some height → height.IsSize) ∧
    ∀ width, json.find "Width" = some width → width.IsSize

/-! ## The settings made of a request -/

section Requests

variable {json : Json} {request : AddressRequest} {settings : Settings}

/-- The address of the settings that are read for a request. -/
def addressRead : Option AddressRequest → SockaddrStorage
  | none => .any .inet 0
  | some request =>
      match request.port with
      | some port => .any (if request.readsSix then .inet6 else .inet) (htons port)
      | none => .zero

theorem addressFromJson_of_madeBy {address : String → Option Json}
    (made : request.MadeBy address) :
    Settings.addressFromJson (.object address) = some (addressRead (some request)) := by
  rcases request with ⟨family, port⟩
  rcases made with ⟨foundFamily, foundPort⟩
  have written : ∀ port,
      ((SockaddrStorage.zero.withFamily Family.inet.value).withSinAddr inaddrAny rfl).withPort
          port = .any .inet port := by
    intro port
    rfl
  have written6 : ∀ port,
      ((SockaddrStorage.zero.withFamily Family.inet6.value).withSin6Addr in6addrAny rfl).withPort
          port = .any .inet6 port := by
    intro port
    rfl
  rw [Settings.addressFromJson, Json.find, Json.find, foundFamily, foundPort]
  cases port with
  | none => cases family <;> rfl
  | some port =>
      cases family with
      | none => simp [addressRead, AddressRequest.readsSix, written]
      | some n =>
          by_cases six : Int32.ofInt n.value = 6
          · simp [addressRead, AddressRequest.readsSix, Json.getInt, Json.number, six, written6]
          · simp [addressRead, AddressRequest.readsSix, Json.getInt, Json.number, six, written]

/-- The settings are the address of the request with the sizes, if these convert. -/
theorem fromJson_of_requests {request : Option AddressRequest} (made : Requests json request) :
    Settings.fromJson json =
      (Settings.sizeFromJson (json.find "Height")).bind fun height =>
        (Settings.sizeFromJson (json.find "Width")).map fun width =>
          ⟨addressRead request, height, width⟩ := by
  unfold Settings.fromJson
  cases request with
  | none =>
      have absent : json.find "Address" = none := made
      simp only [absent, Option.bind_eq_bind, Option.bind_some, Option.map_eq_bind,
        Option.pure_def]
      rfl
  | some request =>
      rcases made with ⟨address, present, madeBy⟩
      simp only [present, addressFromJson_of_madeBy madeBy, Option.bind_eq_bind, Option.bind_some,
        Option.map_eq_bind, Option.pure_def]
      rfl

theorem address_fromJson {request : Option AddressRequest} (made : Requests json request)
    (read : Settings.fromJson json = some settings) : settings.address = addressRead request := by
  simp only [fromJson_of_requests made, Option.bind_eq_some_iff, Option.map_eq_some_iff] at read
  rcases read with ⟨height, -, width, -, rfl⟩
  rfl

theorem Json.getUInt32_isSome_iff : json.getUInt32.isSome = true ↔ json.IsSize := by
  rw [getUInt32, Option.isSome_map]
  cases json with
  | object members => exact iff_of_false Bool.false_ne_true id
  | integer n => exact iff_of_true rfl trivial
  | float value =>
      have range : 0 ≤ truncate value ∧ truncate value < 2 ^ 32 ↔ -1 < value ∧ value < 2 ^ 32 :=
        by exact_mod_cast truncate_mem_iff (by decide : 0 < 2 ^ 32)
      rw [number, Json.IsSize, ← range]
      split
      · next whole => exact iff_of_true rfl whole
      · next beyond => exact iff_of_false Bool.false_ne_true beyond
  | boolean b => exact iff_of_true rfl trivial
  | other => exact iff_of_false Bool.false_ne_true id

theorem sizeFromJson_isSome_iff {found : Option Json} :
    (Settings.sizeFromJson found).isSome = true ↔ ∀ size, found = some size → size.IsSize := by
  cases found with
  | none => exact iff_of_true rfl fun size absent => by cases absent
  | some size =>
      rw [Settings.sizeFromJson, Json.getUInt32_isSome_iff]
      exact ⟨fun converts size' same => Option.some.inj same ▸ converts,
        fun converts => converts size rfl⟩

end Requests

/-! ## The socket made of the settings -/

theorem getPort_any (family : Family) (port : UInt16) :
    Server.getPort (.any family port) = ntohs port := by
  cases family <;> simp [Server.getPort]

theorem setPort_any (family : Family) (port port' : UInt16) :
    Server.setPort (.any family port) port' = .any family (htons port') := by
  have written : (SockaddrStorage.any family port).withPort (htons port') =
      .any family (htons port') := SockaddrStorage.withPort_withPort _ _ _
  cases family <;> simp [Server.setPort, written]

theorem addressLength_any (family : Family) (port : UInt16) (height width : UInt32) :
    Settings.addressLength ⟨.any family port, height, width⟩ = family.addressLength := by
  have apart : Family.inet6.value ≠ Family.inet.value := by decide
  cases family <;> simp [Settings.addressLength, apart]

/-- A wildcard address of a family makes a socket of that family. -/
theorem serveSetup_any (family : Family) (port : UInt16) (height width : UInt32) :
    serveSetup ⟨.any family port, height, width⟩ =
      ⟨family.value, .any family (if ntohs port = 0 then htons mmpDefaultPort else port),
        family.addressLength⟩ := by
  have supported : family.value = Family.inet.value ∨ family.value = Family.inet6.value := by
    cases family <;> decide
  unfold serveSetup
  simp only [SockaddrStorage.ssFamily_any, if_pos supported, getPort_any, setPort_any]
  split <;> rw [addressLength_any]

/-- No family is asked for, and IPv4 bound. -/
theorem serveSetup_zero (height width : UInt32) :
    serveSetup ⟨.zero, height, width⟩ =
      ⟨0, .any .inet (htons mmpDefaultPort), Family.inet.addressLength⟩ := by
  have none : SockaddrStorage.zero.ssFamily = 0 := by decide
  have unsupported : ¬ (0 = Family.inet.value ∨ 0 = Family.inet6.value) := by decide
  have coerced : SockaddrStorage.zero.withFamily Family.inet.value = .any .inet 0 := by decide
  have absent : ntohs 0 = 0 := by decide
  unfold serveSetup
  simp only [none, if_neg unsupported, coerced, getPort_any, setPort_any, absent, if_true]
  rw [addressLength_any]

/-! ## The request and the socket -/

/-- A wildcard is what is asked for when its family and its port are, and its socket
is of that family. -/
theorem serves_any_iff {sockets : WsaSocket} {request : Option AddressRequest} {requested : ℕ}
    {family : Family} {port : UInt16} :
    Serves sockets request ⟨requested, .any family port, family.addressLength⟩ ↔
      sockets.created requested = some family.value ∧ family = requestedFamily request ∧
        ntohs port = requestedPort request := by
  have injective : ∀ first second : Family, first.value = second.value → first = second := by
    intro first second same
    cases first <;> cases second <;> first | rfl | exact absurd same (by decide)
  constructor
  · intro serves
    rcases serves with ⟨same, asked, -, -, number⟩
    rw [SockaddrStorage.ssFamily_any] at same asked
    rw [getPort_any] at number
    exact ⟨same, injective _ _ asked, number⟩
  · intro agrees
    rcases agrees with ⟨same, rfl, number⟩
    exact ⟨by rw [same, SockaddrStorage.ssFamily_any], SockaddrStorage.ssFamily_any _ _,
      SockaddrStorage.isWildcard_any _ _, rfl, by rw [getPort_any, number]⟩

/-- Number 6 is converted to 6. -/
theorem AddressRequest.readsSix_of_six {request : AddressRequest} (six : request.six = true) :
    request.readsSix = true := by
  rcases request with ⟨family, port⟩
  cases family with
  | none => cases six
  | some n =>
      have same : n.value = 6 := by simpa [AddressRequest.six] using six
      simp [readsSix, same]

section Sockets

variable {sockets : WsaSocket} {request : AddressRequest} {height width : UInt32}

/-- A request without a port, whose address is empty. -/
theorem serves_zero_iff (unported : request.port = none) :
    Serves sockets (some request) (serveSetup ⟨.zero, height, width⟩) ↔
      request.six = false ∧ sockets.created 0 = some Family.inet.value := by
  have default : requestedPort (some request) = mmpDefaultPort := by
    simp [requestedPort, unported]
  rw [serveSetup_zero, serves_any_iff, ntohs_htons, default]
  constructor
  · intro serves
    rcases serves with ⟨created, asked, -⟩
    refine ⟨?_, created⟩
    cases six : request.six with
    | false => rfl
    | true => simp [requestedFamily, six] at asked
  · intro serviceable
    rcases serviceable with ⟨other, created⟩
    exact ⟨created, by simp [requestedFamily, other], rfl⟩

/-- A request with a port, whose address is a wildcard. -/
theorem serves_port_iff {port : UInt16} (ported : request.port = some port) :
    Serves sockets (some request)
        (serveSetup
          ⟨.any (if request.readsSix then .inet6 else .inet) (htons port), height, width⟩) ↔
      (request.readsSix = true → request.six = true) := by
  have default : ntohs (if ntohs (htons port) = 0 then htons mmpDefaultPort else htons port) =
      requestedPort (some request) := by
    rw [ntohs_htons, apply_ite ntohs, ntohs_htons, ntohs_htons]
    simp [requestedPort, ported]
  rw [serveSetup_any, serves_any_iff]
  constructor
  · intro serves reads
    rcases serves with ⟨-, asked, -⟩
    cases six : request.six with
    | false => simp [requestedFamily, six, reads] at asked
    | true => rfl
  · intro serviceable
    refine ⟨sockets.supported _, ?_, default⟩
    cases reads : request.readsSix with
    | true => simp [requestedFamily, serviceable reads]
    | false =>
        have other : request.six = false := by
          by_contra six
          have converted := AddressRequest.readsSix_of_six (eq_true_of_ne_false six)
          exact Bool.noConfusion (reads.symm.trans converted)
        simp [requestedFamily, other]

end Sockets

/-- Whatever the sizes, the address of a request makes the socket that it asks for
exactly if the request is serviceable. -/
theorem serves_addressRead_iff (sockets : WsaSocket) (request : Option AddressRequest)
    (height width : UInt32) :
    Serves sockets request (serveSetup ⟨addressRead request, height, width⟩) ↔
      Serviceable sockets request := by
  cases request with
  | none =>
      rw [addressRead, serveSetup_any, serves_any_iff]
      exact iff_of_true ⟨sockets.supported .inet, rfl, by decide⟩ trivial
  | some request =>
      cases ported : request.port with
      | none =>
          simp only [addressRead, Serviceable, ported]
          exact serves_zero_iff ported
      | some port =>
          simp only [addressRead, Serviceable, ported]
          exact serves_port_iff ported

/-- Settings are read of a configuration and make the socket that it asks for if and
only if its request names a port and no family that is merely converted to 6, or
names neither port nor IPv6 while `WSASocket` makes IPv4 of no family, and its sizes
are numbers. -/
theorem serves_iff (sockets : WsaSocket) {json : Json} {request : Option AddressRequest}
    (made : Requests json request) :
    (∃ settings, Settings.fromJson json = some settings ∧
        Serves sockets request (serveSetup settings)) ↔
      Serviceable sockets request ∧ Sized json := by
  rw [Sized, ← sizeFromJson_isSome_iff, ← sizeFromJson_isSome_iff, Option.isSome_iff_exists,
    Option.isSome_iff_exists]
  simp only [fromJson_of_requests made, Option.bind_eq_some_iff, Option.map_eq_some_iff]
  constructor
  · intro served
    rcases served with ⟨settings, ⟨height, tall, width, wide, rfl⟩, serves⟩
    exact ⟨(serves_addressRead_iff sockets request height width).mp serves, ⟨height, tall⟩,
      width, wide⟩
  · intro possible
    rcases possible with ⟨serviceable, ⟨height, tall⟩, width, wide⟩
    exact ⟨_, ⟨height, tall, width, wide, rfl⟩,
      (serves_addressRead_iff sockets request height width).mpr serviceable⟩

/-- An `Address` with family 6 and a port makes the IPv6 socket on that port, also
when the height is no integer. -/
theorem serves_of_port :
    let request : AddressRequest := ⟨some ⟨6, by decide, by decide⟩, some 3781⟩
    let json := Json.object (Function.update (Function.update (fun _ => none) "Address"
      (some (Settings.addressToJson 6 3781))) "Height" (some (.float (2161 / 2))))
    ∃ settings, Settings.fromJson json = some settings ∧
      Serves .unspecified (some request) (serveSetup settings) := by
  intro request json
  have made : Requests json (some request) :=
    ⟨_, by simp [json, Json.find, Settings.addressToJson, Json.assign]; rfl, by
      simp [AddressRequest.MadeBy, request]; rfl⟩
  have sized : Sized json := by
    refine ⟨fun height found => ?_, fun width found => ?_⟩
    · obtain rfl : Json.float (2161 / 2) = height := by simpa [json, Json.find] using found
      exact ⟨by norm_num, by norm_num⟩
    · simp [json, Json.find] at found
  exact (serves_iff .unspecified made).mpr ⟨fun _ => rfl, sized⟩

/-- An `Address` with family 6 and no port: `WSASocket` is asked for no family, and the
IPv4 wildcard is bound. -/
theorem not_serves_of_family :
    let request : AddressRequest := ⟨some ⟨6, by decide, by decide⟩, none⟩
    let json := Json.object (Function.update (fun _ => none) "Address"
      (some (.object (Function.update (fun _ => none) "Family" (some (.ofUInt32 6))))))
    Requests json (some request) ∧
      ¬ ∃ settings, Settings.fromJson json = some settings ∧
        Serves .unspecified (some request) (serveSetup settings) := by
  intro request json
  have read : Settings.fromJson json = some ⟨.zero, 0, 0⟩ := by
    have number : (Json.ofUInt32 6).getInt = some 6 := by decide
    simp [json, Settings.fromJson, Settings.addressFromJson, Json.find, Settings.sizeFromJson,
      number]
  refine ⟨⟨_, rfl, by simp [AddressRequest.MadeBy, request]; rfl⟩, fun served => ?_⟩
  rcases served with ⟨settings, same, serves⟩
  obtain rfl : (⟨.zero, 0, 0⟩ : Settings) = settings := Option.some.inj (read.symm.trans same)
  have asked := serves.family
  revert asked
  decide

end MagicMousePad
