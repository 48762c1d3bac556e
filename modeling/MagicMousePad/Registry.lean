import MagicMousePad.Configuration

/-!
# Settings from the registry

`mmp_configure_from_registry_key` reads each value into the field of its name, apart
from `StartX` and `StartY`, which it reads into the offsets.
-/

namespace MagicMousePad

namespace MmpConfiguration

/-- The configuration with the server, in which each number is the value of its name
if there is one. -/
def named (config : MmpConfiguration) (key : RegistryKey) (server : SockaddrStorage) :
    MmpConfiguration :=
  { config with
    flags := getUint key "Flags" config.flags
    height := getUint key "Height" config.height
    offsetX := getInt key "OffsetX" config.offsetX
    offsetY := getInt key "OffsetY" config.offsetY
    rateLimit := getUint key "RateLimit" config.rateLimit
    server := server
    startX := getInt key "StartX" config.startX
    startY := getInt key "StartY" config.startY
    timeout := getUint key "Timeout" config.timeout
    width := getUint key "Width" config.width }

end MmpConfiguration

namespace RegistryKey

/-- The server address that the key leads to: the one of the `Server` value, which is
parsed successfully, or else the one that was there. -/
def LeadsTo (key : RegistryKey) (api : EndPointApi) (config : MmpConfiguration)
    (server : SockaddrStorage) : Prop :=
  match key.getValueString "Server" with
  | none => server = config.server
  | some string => mmpParseEndPointw api (some config.server) string = (some server, 0)

/-- A start value, if there is one, is already in the field of its name and is also
what belongs in the offset. -/
def Masked (key : RegistryKey) (name : String) (start offset : Int32) : Prop :=
  ∀ value, key.getValueDword name = some value → value.toInt32 = start ∧ value.toInt32 = offset

end RegistryKey

open MmpConfiguration

variable {api : EndPointApi} {config : MmpConfiguration} {key : RegistryKey}
  {server : SockaddrStorage}

/-- What is loaded when the server address is parsed. -/
theorem mmpConfigureFromRegistryKey_eq (leads : key.LeadsTo api config server) :
    mmpConfigureFromRegistryKey api (some config) (some key) =
      (some ({ config with server := server }.readNumbers key), 0) := by
  unfold RegistryKey.LeadsTo at leads
  unfold mmpConfigureFromRegistryKey
  cases present : key.getValueString "Server" with
  | none =>
      simp only [present] at leads ⊢
      rw [leads]
  | some string =>
      simp only [present] at leads ⊢
      simp [mmpConfigureServerw, leads]

/-- A number that is read into another field does no harm exactly when it is masked. -/
theorem getInt_masked_iff {name : String} {start offset : Int32} :
    getInt key name offset = offset ∧ start = getInt key name start ↔
      key.Masked name start offset := by
  unfold getInt RegistryKey.Masked
  cases present : key.getValueDword name with
  | none => simp
  | some value =>
      constructor
      · intro kept value' same
        rw [← Option.some.inj same]
        exact ⟨kept.2.symm, kept.1⟩
      · intro masked
        obtain ⟨there, belongs⟩ := masked value rfl
        exact ⟨belongs, there.symm⟩

/-- The fields agree apart from the two offsets and the two start positions. -/
theorem readNumbers_eq_named_iff :
    { config with server := server }.readNumbers key = config.named key server ↔
      key.Masked "StartX" config.startX (getInt key "OffsetX" config.offsetX) ∧
        key.Masked "StartY" config.startY (getInt key "OffsetY" config.offsetY) := by
  rw [← getInt_masked_iff, ← getInt_masked_iff]
  simp only [readNumbers, named, mk.injEq]
  tauto

/-- After a successful load each field is the value of its name, or what it was without
one, if and only if neither start value is in need of its field. -/
theorem loaded_iff_masked (api : EndPointApi) (config : MmpConfiguration) (key : RegistryKey)
    (server : SockaddrStorage) (leads : key.LeadsTo api config server) :
    mmpConfigureFromRegistryKey api (some config) (some key) =
        (some (config.named key server), 0) ↔
      key.Masked "StartX" config.startX (getInt key "OffsetX" config.offsetX) ∧
        key.Masked "StartY" config.startY (getInt key "OffsetY" config.offsetY) := by
  rw [mmpConfigureFromRegistryKey_eq leads, Prod.mk.injEq, Option.some.injEq, eq_self, and_true,
    readNumbers_eq_named_iff]

/-- A key with an offset, a size and the server 127.0.0.1, which has no start values. -/
theorem loaded_without_start :
    let api : EndPointApi :=
      { parseNetworkString := fun _ =>
          .ok (.ipv4 ⟨[2, 0, 57, 161, 127, 0, 0, 1] ++ List.replicate 8 0, by decide⟩)
        getAddrInfo := fun _ _ => .error ⟨11001, by decide⟩
        fromBytes := fun _ => none }
    let key : RegistryKey := fun name =>
      if name = "Server" then some (.sz [49])
      else if name = "OffsetX" then some (.dword 1920)
      else if name = "Width" then some (.dword 3840)
      else none
    let server := SockaddrStorage.zero.memcpy
      ([2, 0, 57, 161, 127, 0, 0, 1] ++ List.replicate 8 0) (by decide)
    mmpConfigureFromRegistryKey api (some {}) (some key) =
      (some (({} : MmpConfiguration).named key server), 0) := by
  intro api key server
  refine (loaded_iff_masked api {} key server rfl).mpr ⟨?_, ?_⟩
  all_goals
    intro value present
    simp [key, RegistryKey.getValueDword] at present

/-- A key with a start position: it is loaded into the offset. -/
theorem not_loaded_of_startX :
    let api : EndPointApi :=
      { parseNetworkString := fun _ => .ok .unspecified
        getAddrInfo := fun _ _ => .ok []
        fromBytes := fun _ => none }
    let key : RegistryKey := fun name => if name = "StartX" then some (.dword 960) else none
    mmpConfigureFromRegistryKey api (some {}) (some key) ≠
      (some (({} : MmpConfiguration).named key .zero), 0) := by
  intro api key loaded
  have start := congrArg (fun result : Configured => result.1.map MmpConfiguration.startX) loaded
  revert start
  decide

end MagicMousePad
