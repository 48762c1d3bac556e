import MagicMousePad.EndPoint

/-!
# Configuration functions

The functions that change a configuration.  All of them check their arguments before
they write, apart from the parser of end points, which clears the server address
before it resolves a name; so they leave the configuration alone when they fail, unless
a server address is lost there.
-/

namespace MagicMousePad

open ByteOrder

/-! ## The functions -/

/-- The configuration behind a pointer, which may be null, and the result. -/
abbrev Configured := Option MmpConfiguration × Int32

/-- What `mmp_configure_client4` to `mmp_configure_server6` have in common: the family
and the address they change are parameters. -/
def configureAddress (family : Family)
    (change : (SockaddrStorage → SockaddrStorage) → MmpConfiguration → MmpConfiguration)
    (configuration : Option MmpConfiguration) (address : Option (RawAddress family)) : Configured :=
  match configuration with
  | none => (none, hresultFromWin32 errorInvalidParameter)
  | some config =>
      match address with
      | none => (some config, hresultFromWin32 errorInvalidParameter)
      | some address =>
          let write (storage : SockaddrStorage) :=
            (storage.memcpy address.bytes address.fits).withFamily family.value
          (some (change write config), 0)

/-- The change of the client address, and that of the server address. -/
def changeClient (f : SockaddrStorage → SockaddrStorage) (config : MmpConfiguration) :
    MmpConfiguration :=
  { config with client := f config.client }

def changeServer (f : SockaddrStorage → SockaddrStorage) (config : MmpConfiguration) :
    MmpConfiguration :=
  { config with server := f config.server }

/-- `mmp_configure_client4`, `mmp_configure_client6`, `mmp_configure_server4` and
`mmp_configure_server6`. -/
def mmpConfigureClient4 := configureAddress .inet changeClient
def mmpConfigureClient6 := configureAddress .inet6 changeClient
def mmpConfigureServer4 := configureAddress .inet changeServer
def mmpConfigureServer6 := configureAddress .inet6 changeServer

/-- `mmp_configure_discovery`; the last bytes of its `sockaddr_in` are never set. -/
def mmpConfigureDiscovery (configuration : Option MmpConfiguration) (port : UInt16)
    (timeout rateLimit : UInt32) (unset : List UInt8) (size : unset.length = 8) : Configured :=
  match configuration with
  | none => (none, hresultFromWin32 errorInvalidParameter)
  | some config =>
      if port = 0 then (some config, hresultFromWin32 errorInvalidParameter)
      else
        let config := { config with timeout := timeout, rateLimit := rateLimit }
        let address : RawAddress .inet :=
          { bytes := littleEndian 2 Family.inet.value ++ littleEndian 2 (htons port).toNat ++
              inaddrAny ++ unset
            size := by simp [inaddrAny, size, Family.addressLength] }
        mmpConfigureServer4 (some config) (some address)

/-- `mmp_configure_serverw`. -/
def mmpConfigureServerw (api : EndPointApi) (configuration : Option MmpConfiguration)
    (server : WideString) : Configured :=
  match configuration with
  | none => (none, hresultFromWin32 errorInvalidParameter)
  | some config =>
      let (endPoint, code) := mmpParseEndPointw api (some config.server) server
      (some { config with server := endPoint.getD config.server }, code)

/-- `mmp_configure_servera`, which throws when the string is not converted. -/
def mmpConfigureServera (api : EndPointApi) (configuration : Option MmpConfiguration)
    (server : List UInt8) : Option Configured :=
  match configuration with
  | none => some (none, hresultFromWin32 errorInvalidParameter)
  | some config =>
      (mmpParseEndPointa api (some config.server) server).map fun (endPoint, code) =>
        (some { config with server := endPoint.getD config.server }, code)

/-- A value in a registry key. -/
inductive RegistryValue
  | sz (string : WideString)
  | dword (value : UInt32)
  | other

/-- The values in a registry key. -/
abbrev RegistryKey := String → Option RegistryValue

/-- `wil::reg::get_value_string_nothrow`. -/
def RegistryKey.getValueString (key : RegistryKey) (name : String) : Option WideString :=
  match key name with
  | some (.sz string) => some string
  | _ => none

/-- `wil::reg::get_value_dword_nothrow`. -/
def RegistryKey.getValueDword (key : RegistryKey) (name : String) : Option UInt32 :=
  match key name with
  | some (.dword value) => some value
  | _ => none

namespace MmpConfiguration

/-- `get_uint` and `get_int`: the value under the name, or what was there before. -/
def getUint (key : RegistryKey) (name : String) (dst : UInt32) : UInt32 :=
  (key.getValueDword name).getD dst

def getInt (key : RegistryKey) (name : String) (dst : Int32) : Int32 :=
  ((key.getValueDword name).map UInt32.toInt32).getD dst

/-- The numbers that are read at the end of `mmp_configure_from_registry_key`. -/
def readNumbers (config : MmpConfiguration) (key : RegistryKey) : MmpConfiguration :=
  let config := { config with flags := getUint key "Flags" config.flags }
  let config := { config with height := getUint key "Height" config.height }
  let config := { config with offsetX := getInt key "OffsetX" config.offsetX }
  let config := { config with offsetY := getInt key "OffsetY" config.offsetY }
  let config := { config with rateLimit := getUint key "RateLimit" config.rateLimit }
  let config := { config with offsetX := getInt key "StartX" config.offsetX }
  let config := { config with offsetY := getInt key "StartY" config.offsetY }
  let config := { config with timeout := getUint key "Timeout" config.timeout }
  { config with width := getUint key "Width" config.width }

end MmpConfiguration

/-- `mmp_configure_from_registry_key`. -/
def mmpConfigureFromRegistryKey (api : EndPointApi) (configuration : Option MmpConfiguration)
    (key : Option RegistryKey) : Configured :=
  match configuration with
  | none => (none, hresultFromWin32 errorInvalidParameter)
  | some config =>
      match key with
      | none => (some config, hresultFromWin32 errorInvalidParameter)
      | some key =>
          match key.getValueString "Server" with
          | none => (some (config.readNumbers key), 0)
          | some server =>
              let (configuration, code) := mmpConfigureServerw api (some config) server
              if code ≠ 0 then (configuration, hresultFromWin32 code)
              else (configuration.map (·.readNumbers key), 0)

/-! ## The calls -/

/-- A call of one of the functions, with its arguments behind the configuration. -/
inductive ConfigureCall
  | client4 (client : Option (RawAddress .inet))
  | client6 (client : Option (RawAddress .inet6))
  | server4 (server : Option (RawAddress .inet))
  | server6 (server : Option (RawAddress .inet6))
  | discovery (port : UInt16) (timeout rateLimit : UInt32) (unset : List UInt8)
    (size : unset.length = 8)
  | servera (server : List UInt8)
  | serverw (server : WideString)
  | fromRegistryKey (key : Option RegistryKey)

namespace ConfigureCall

/-- The call, which may throw. -/
def run (api : EndPointApi) (configuration : Option MmpConfiguration) :
    ConfigureCall → Option Configured
  | .client4 client => some (mmpConfigureClient4 configuration client)
  | .client6 client => some (mmpConfigureClient6 configuration client)
  | .server4 server => some (mmpConfigureServer4 configuration server)
  | .server6 server => some (mmpConfigureServer6 configuration server)
  | .discovery port timeout rateLimit unset size =>
      some (mmpConfigureDiscovery configuration port timeout rateLimit unset size)
  | .servera server => mmpConfigureServera api configuration server
  | .serverw server => some (mmpConfigureServerw api configuration server)
  | .fromRegistryKey key => some (mmpConfigureFromRegistryKey api configuration key)

/-- The string that the call parses as an end point. -/
def endPoint (api : EndPointApi) : ConfigureCall → Option WideString
  | .servera server => api.fromBytes server
  | .serverw server => some server
  | .fromRegistryKey (some key) => key.getValueString "Server"
  | _ => none

end ConfigureCall

/-- If the result is an error, the configuration is as it was. -/
def Configured.Keeps (config : MmpConfiguration) (result : Configured) : Prop :=
  result.2 ≠ 0 → result.1 = some config

/-- A call that returns an error leaves the configuration as it was. -/
def AtomicOnError (api : EndPointApi) (config : MmpConfiguration) (call : ConfigureCall) : Prop :=
  ∀ result, call.run api (some config) = some result → result.Keeps config

/-! ## One function -/

section Functions

variable {api : EndPointApi} {config : MmpConfiguration}

theorem keeps_of_success {result : Configured} (success : result.2 = 0) : result.Keeps config :=
  fun failed => absurd success failed

theorem keeps_configureAddress {family : Family}
    {change : (SockaddrStorage → SockaddrStorage) → MmpConfiguration → MmpConfiguration}
    (address : Option (RawAddress family)) :
    (configureAddress family change (some config) address).Keeps config := by
  cases address with
  | none => exact fun _ => rfl
  | some address => exact keeps_of_success rfl

theorem keeps_mmpConfigureDiscovery (port : UInt16) (timeout rateLimit : UInt32)
    (unset : List UInt8) (size : unset.length = 8) :
    (mmpConfigureDiscovery (some config) port timeout rateLimit unset size).Keeps config := by
  unfold mmpConfigureDiscovery
  dsimp only
  split
  · exact fun _ => rfl
  · exact keeps_of_success rfl

/-- An error in the end point leaves the configuration alone, or clears the server
address. -/
theorem keeps_mmpConfigureServerw_iff {server : WideString} :
    (mmpConfigureServerw api (some config) server).Keeps config ↔
      (api.LosesEndPoint server → config.server = .zero) := by
  rcases mmpParseEndPointw_cases api config.server server with
    ⟨kept, code, parsed⟩ | ⟨kept, address, parsed⟩ | ⟨loses, code, failed, parsed⟩
  · rw [mmpConfigureServerw]
    simp only [parsed, Option.getD_some]
    exact iff_of_true (fun _ => rfl) (fun loses => (kept loses).elim)
  · rw [mmpConfigureServerw]
    simp only [parsed]
    exact iff_of_true (keeps_of_success rfl) (fun loses => (kept loses).elim)
  · rw [mmpConfigureServerw]
    simp only [parsed, Option.getD_some]
    constructor
    · intro keeps _
      have same : { config with server := .zero } = config := Option.some.inj (keeps failed)
      exact (congrArg MmpConfiguration.server same).symm
    · intro cleared _
      rw [← cleared loses]

/-- `mmp_configure_from_registry_key` fails where `mmp_configure_serverw` does. -/
theorem keeps_mmpConfigureFromRegistryKey_iff {key : RegistryKey} {server : WideString}
    (present : key.getValueString "Server" = some server) :
    (mmpConfigureFromRegistryKey api (some config) (some key)).Keeps config ↔
      (mmpConfigureServerw api (some config) server).Keeps config := by
  rw [mmpConfigureFromRegistryKey]
  simp only [present]
  by_cases success : (mmpConfigureServerw api (some config) server).2 = 0
  · rw [if_neg (not_not.mpr success)]
    exact iff_of_true (keeps_of_success rfl) (keeps_of_success success)
  · rw [if_pos success]
    have failed : hresultFromWin32 (mmpConfigureServerw api (some config) server).2 ≠ 0 :=
      fun zero => success (hresultFromWin32_eq_zero_iff.mp zero)
    exact ⟨fun keeps _ => keeps failed, fun keeps _ => keeps success⟩

end Functions

/-! ## All functions -/

section Calls

variable {api : EndPointApi} {config : MmpConfiguration} {call : ConfigureCall}
  {result : Configured}

theorem atomicOnError_iff_keeps (ran : call.run api (some config) = some result) :
    AtomicOnError api config call ↔ result.Keeps config := by
  constructor
  · exact fun atomic => atomic result ran
  · intro keeps result' ran'
    rw [← Option.some.inj (ran.symm.trans ran')]
    exact keeps

/-- A call that keeps the configuration and parses nothing. -/
theorem atomicOnError_iff_of_none (ran : call.run api (some config) = some result)
    (keeps : result.Keeps config) (unparsed : call.endPoint api = none) :
    AtomicOnError api config call ↔
      ∀ server, call.endPoint api = some server → api.LosesEndPoint server →
        config.server = .zero := by
  refine iff_of_true ((atomicOnError_iff_keeps ran).mpr keeps) fun server parsed => ?_
  exact absurd (unparsed.symm.trans parsed) (by simp)

/-- A call that keeps the configuration as `mmp_configure_serverw` does. -/
theorem atomicOnError_iff_of_some {server : WideString}
    (ran : call.run api (some config) = some result)
    (keeps : result.Keeps config ↔ (mmpConfigureServerw api (some config) server).Keeps config)
    (parsed : call.endPoint api = some server) :
    AtomicOnError api config call ↔
      ∀ server, call.endPoint api = some server → api.LosesEndPoint server →
        config.server = .zero := by
  rw [atomicOnError_iff_keeps ran, keeps, keeps_mmpConfigureServerw_iff, parsed]
  simp only [Option.some.injEq, forall_eq']

end Calls

/-- A call is atomic on errors if and only if it does not lose the end point that it
parses, or there was no server address to be lost. -/
theorem atomicOnError_iff (api : EndPointApi) (config : MmpConfiguration) (call : ConfigureCall) :
    AtomicOnError api config call ↔
      ∀ server, call.endPoint api = some server → api.LosesEndPoint server →
        config.server = .zero := by
  cases call with
  | client4 client => exact atomicOnError_iff_of_none rfl (keeps_configureAddress client) rfl
  | client6 client => exact atomicOnError_iff_of_none rfl (keeps_configureAddress client) rfl
  | server4 server => exact atomicOnError_iff_of_none rfl (keeps_configureAddress server) rfl
  | server6 server => exact atomicOnError_iff_of_none rfl (keeps_configureAddress server) rfl
  | discovery port timeout rateLimit unset size =>
      exact atomicOnError_iff_of_none rfl
        (keeps_mmpConfigureDiscovery port timeout rateLimit unset size) rfl
  | serverw server => exact atomicOnError_iff_of_some rfl Iff.rfl rfl
  | servera server =>
      cases converted : api.fromBytes server with
      | none =>
          -- The conversion throws, so there is no result.
          have threw : (ConfigureCall.servera server).run api (some config) = none := by
            simp [ConfigureCall.run, mmpConfigureServera, mmpParseEndPointa, converted]
          refine iff_of_true (fun result ran => ?_) (fun string parsed => ?_)
          · exact absurd (threw.symm.trans ran) (by simp)
          · exact absurd (converted.symm.trans parsed) (by simp)
      | some string =>
          have ran : (ConfigureCall.servera server).run api (some config) =
              some (mmpConfigureServerw api (some config) string) := by
            simp [ConfigureCall.run, mmpConfigureServera, mmpParseEndPointa, converted,
              mmpConfigureServerw]
          exact atomicOnError_iff_of_some ran Iff.rfl converted
  | fromRegistryKey key =>
      cases key with
      | none => exact atomicOnError_iff_of_none rfl (fun _ => rfl) rfl
      | some key =>
          cases present : key.getValueString "Server" with
          | none =>
              have success : (mmpConfigureFromRegistryKey api (some config) (some key)).2 = 0 := by
                simp [mmpConfigureFromRegistryKey, present]
              exact atomicOnError_iff_of_none rfl (keeps_of_success success) present
          | some server =>
              exact atomicOnError_iff_of_some rfl
                (keeps_mmpConfigureFromRegistryKey_iff present) present

/-- The string is a name, which cannot be resolved: the server address is lost. -/
theorem not_atomicOnError_of_unresolved :
    let api : EndPointApi :=
      { parseNetworkString := fun string => .ok (.dnsName string [])
        getAddrInfo := fun _ _ => .error ⟨11001, by decide⟩
        fromBytes := fun _ => none }
    ¬ AtomicOnError api { server := .ofHost 1 } (.serverw [112, 97, 100]) := by
  intro api atomic
  have failed : (mmpConfigureServerw api (some { server := .ofHost 1 }) [112, 97, 100]).2 ≠ 0 := by
    decide
  have kept := atomic _ rfl failed
  revert kept
  decide

end MagicMousePad
