import MagicMousePad.Configuration
import MagicMousePad.ServeSetup

/-!
# Settings from the registry and from JSON

`settings::load` reads the address family, the port and the size from a registry key.  A new
family clears the address, and a port counts only for one of the two supported families.
Whatever was loaded, the address is a wildcard, or it has another family and nothing else;
only in the second case something is lost in the JSON form.
-/

namespace MagicMousePad

open ByteOrder

namespace Settings

/-- The address after `load` has looked for `AddressFamily`. -/
def loadFamily (key : RegistryKey) (address : SockaddrStorage) : SockaddrStorage :=
  match key.getValueDword "AddressFamily" with
  | none => address
  | some af => SockaddrStorage.zero.withFamily (af.toNat % 2 ^ 16)

/-- The address after `load` has looked for `Port`. -/
def loadPort (key : RegistryKey) (address : SockaddrStorage) : SockaddrStorage :=
  match key.getValueDword "Port" with
  | none => address
  | some port =>
      if address.ssFamily = Family.inet.value then address.withPort (htons port.toUInt16)
      else if address.ssFamily = Family.inet6.value then address.withPort (htons port.toUInt16)
      else address

/-- `settings::load`, which throws if there is no key. -/
def load (settings : Settings) : Option RegistryKey → Option Settings
  | none => none
  | some key =>
      some
        { address := loadPort key (loadFamily key settings.address)
          height := MmpConfiguration.getUint key "Height" settings.height
          width := MmpConfiguration.getUint key "Width" settings.width }

/-- Settings that the program can come by. -/
inductive Obtained : Settings → Prop
  | new : Obtained .new
  | json {json : Json} {settings : Settings} : fromJson json = some settings → Obtained settings
  | load {settings loaded : Settings} {key : Option RegistryKey} :
    Obtained settings → settings.load key = some loaded → Obtained loaded

end Settings

/-! ## The addresses that are obtained -/

namespace SockaddrStorage

/-- The family is one of the two that have an address. -/
def IsFamily (family : ℕ) : Prop := ∃ supported : Family, supported.value = family

theorem isFamily_iff {family : ℕ} :
    IsFamily family ↔ family = Family.inet.value ∨ family = Family.inet6.value := by
  constructor
  · rintro ⟨_ | _, rfl⟩
    · exact Or.inl rfl
    · exact Or.inr rfl
  · rintro (rfl | rfl)
    · exact ⟨.inet, rfl⟩
    · exact ⟨.inet6, rfl⟩

/-- The wildcard of a family with a port, or only some other family. -/
inductive Bare : SockaddrStorage → Prop
  | any (family : Family) (port : UInt16) : Bare (.any family port)
  | other {family : ℕ} : family < 256 ^ 2 → ¬ IsFamily family → Bare (zero.withFamily family)

theorem any_zero (family : Family) : any family 0 = zero.withFamily family.value := by
  cases family <;> decide

theorem bare_withFamily {family : ℕ} (bound : family < 256 ^ 2) :
    (zero.withFamily family).Bare := by
  by_cases supported : IsFamily family
  · obtain ⟨family, rfl⟩ := supported
    rw [← any_zero]
    exact .any family 0
  · exact .other bound supported

theorem bare_zero : zero.Bare := by
  have zeroed : zero = zero.withFamily 0 := by decide
  rw [zeroed]
  exact bare_withFamily (by norm_num)

end SockaddrStorage

/-- A key with the numbers of the second key, and the values of the first where there is
none. -/
def RegistryKey.overlay (second first : RegistryKey) : RegistryKey := fun name =>
  match second.getValueDword name with
  | some value => some (.dword value)
  | none => first name

theorem RegistryKey.getValueDword_overlay (second first : RegistryKey) (name : String) :
    (second.overlay first).getValueDword name =
      (second.getValueDword name).or (first.getValueDword name) := by
  rw [getValueDword, overlay]
  cases second.getValueDword name with
  | some value => rfl
  | none => rfl

namespace Settings

open SockaddrStorage

variable {key : RegistryKey} {address : SockaddrStorage}

theorem loadPort_of_none (absent : key.getValueDword "Port" = none) (address : SockaddrStorage) :
    loadPort key address = address := by
  rw [loadPort, absent]

theorem loadPort_of_isFamily {port : UInt32} (present : key.getValueDword "Port" = some port)
    (supported : IsFamily address.ssFamily) :
    loadPort key address = address.withPort (htons port.toUInt16) := by
  rw [loadPort, present]
  rcases isFamily_iff.mp supported with inet | inet6
  · exact if_pos inet
  · simp [inet6]

theorem loadPort_of_not_isFamily (other : ¬ IsFamily address.ssFamily) :
    loadPort key address = address := by
  rw [isFamily_iff, not_or] at other
  unfold loadPort
  split
  · rfl
  · rw [if_neg other.1, if_neg other.2]

theorem isFamily_any (family : Family) (port : UInt16) :
    IsFamily (SockaddrStorage.any family port).ssFamily :=
  ⟨family, (ssFamily_any _ _).symm⟩

theorem loadPort_other (key : RegistryKey) {family : ℕ} (bound : family < 256 ^ 2)
    (other : ¬ IsFamily family) :
    loadPort key (zero.withFamily family) = zero.withFamily family :=
  loadPort_of_not_isFamily (by rwa [ssFamily_withFamily _ bound])

theorem bare_loadPort (bare : address.Bare) : (loadPort key address).Bare := by
  cases bare with
  | any family port =>
      cases present : key.getValueDword "Port" with
      | none =>
          rw [loadPort_of_none present]
          exact .any family port
      | some port' =>
          have written : (SockaddrStorage.any family port).withPort (htons port'.toUInt16) =
              .any family (htons port'.toUInt16) := withPort_withPort _ _ _
          rw [loadPort_of_isFamily present (isFamily_any family port), written]
          exact .any family _
  | other bound other =>
      rw [loadPort_other key bound other]
      exact .other bound other

theorem bare_loadFamily (bare : address.Bare) : (loadFamily key address).Bare := by
  unfold loadFamily
  cases key.getValueDword "AddressFamily" with
  | none => exact bare
  | some af => exact bare_withFamily (Nat.mod_lt _ (by norm_num))

theorem bare_addressFromJson {it : Json} (read : addressFromJson it = some address) :
    address.Bare := by
  have written : ∀ port,
      ((zero.withFamily Family.inet.value).withSinAddr inaddrAny rfl).withPort port =
        .any .inet port := fun _ => rfl
  have written6 : ∀ port,
      ((zero.withFamily Family.inet6.value).withSin6Addr in6addrAny rfl).withPort port =
        .any .inet6 port := fun _ => rfl
  unfold addressFromJson at read
  simp only [Option.bind_eq_bind, written, written6] at read
  split at read
  · simp only [Option.bind_some] at read
    split at read
    · cases read
      exact bare_zero
    · obtain ⟨port, -, read⟩ := Option.bind_eq_some_iff.mp read
      cases read
      exact .any .inet _
  · obtain ⟨ipv6, -, read⟩ := Option.bind_eq_some_iff.mp read
    split at read
    · cases read
      exact bare_zero
    · obtain ⟨port, -, read⟩ := Option.bind_eq_some_iff.mp read
      cases ipv6 <;> cases read
      · exact .any .inet _
      · exact .any .inet6 _

/-- Settings that are read have the address that was read, or else the one of new settings. -/
theorem address_of_fromJson {json : Json} {settings : Settings}
    (read : fromJson json = some settings) :
    settings.address = new.address ∨ ∃ it, addressFromJson it = some settings.address := by
  unfold fromJson at read
  simp only [Option.bind_eq_bind, Option.pure_def] at read
  split at read
  · simp only [Option.bind_some, Option.bind_eq_some_iff, Option.some.injEq] at read
    obtain ⟨height, -, width, -, rfl⟩ := read
    exact Or.inl rfl
  · simp only [Option.bind_eq_some_iff, Option.some.injEq] at read
    obtain ⟨address, here, height, -, width, -, rfl⟩ := read
    exact Or.inr ⟨_, here⟩

/-- However the settings were come by, their address is bare. -/
theorem Obtained.bare {settings : Settings} (obtained : settings.Obtained) :
    settings.address.Bare := by
  induction obtained with
  | new => exact bare_withFamily (by decide)
  | json read =>
      rcases address_of_fromJson read with fresh | ⟨it, here⟩
      · rw [fresh]
        exact bare_withFamily (by decide)
      · exact bare_addressFromJson here
  | @load settings loaded key obtained loads ih =>
      cases key with
      | none => cases loads
      | some key =>
          cases loads
          exact bare_loadPort (bare_loadFamily ih)

/-! ## What becomes of them -/

/-- A family that is not supported leaves the JSON form without an address. -/
theorem fromJson_toJson_other {family : ℕ} (bound : family < 256 ^ 2) (other : ¬ IsFamily family)
    (height width : UInt32) :
    fromJson (toJson ⟨zero.withFamily family, height, width⟩) =
      some ⟨new.address, height, width⟩ := by
  rw [isFamily_iff, not_or] at other
  have same := ssFamily_withFamily zero bound
  simp [fromJson, toJson, same, other.1, other.2, Json.assign, Json.find, sizeFromJson]

/-- A family that is not supported is asked for, and IPv4 bound. -/
theorem serveSetup_other {family : ℕ} (bound : family < 256 ^ 2) (other : ¬ IsFamily family)
    (height width : UInt32) :
    serveSetup ⟨zero.withFamily family, height, width⟩ =
      ⟨family, .any .inet (htons mmpDefaultPort), Family.inet.addressLength⟩ := by
  have same := ssFamily_withFamily zero bound
  have again : (zero.withFamily family).withFamily Family.inet.value = .any .inet 0 := by
    rw [any_zero]
    refine ext_bytes ?_
    simp only [withFamily]
    rw [List.drop_left' (by simp)]
  have absent : ntohs 0 = 0 := by decide
  unfold serveSetup
  simp only [same, if_neg (isFamily_iff.not.mp other), again, getPort_any, setPort_any, absent,
    if_true]
  rw [addressLength_any]

/-- However the settings were come by, the server binds the wildcard of a supported family on
some port, and the JSON form of the settings is read back.  Then the same address is bound, and
the settings are the same exactly if their family was supported, as is the family that is asked
for. -/
theorem Obtained.serialises {settings : Settings} (obtained : settings.Obtained) :
    (∃ family port, port ≠ 0 ∧ (serveSetup settings).address = .any family (htons port) ∧
      (serveSetup settings).length = family.addressLength) ∧
      ∃ back, fromJson settings.toJson = some back ∧
        (serveSetup back).address = (serveSetup settings).address ∧
        back.height = settings.height ∧ back.width = settings.width ∧
        (back = settings ↔ IsFamily settings.address.ssFamily) ∧
        ((serveSetup back).requested = (serveSetup settings).requested ↔
          IsFamily settings.address.ssFamily) := by
  have bare := obtained.bare
  rcases settings with ⟨address, height, width⟩
  dsimp only at bare
  cases bare with
  | any family port =>
      have supported := isFamily_any family port
      refine ⟨⟨family, if ntohs port = 0 then mmpDefaultPort else ntohs port, ?_, ?_, ?_⟩, _,
        fromJson_toJson family port height width, rfl, rfl, rfl, iff_of_true rfl supported,
        iff_of_true rfl supported⟩
      · split
        · decide
        · assumption
      · rw [serveSetup_any, apply_ite htons, htons_ntohs]
      · rw [serveSetup_any]
  | @other family bound other =>
      have same := ssFamily_withFamily zero bound
      have fresh : Settings.new.address = .any .inet 0 := (any_zero .inet).symm
      have absent : ntohs 0 = 0 := by decide
      have apart : family ≠ Family.inet.value := fun is => other (isFamily_iff.mpr (Or.inl is))
      refine ⟨⟨.inet, mmpDefaultPort, by decide, ?_, ?_⟩, _,
        fromJson_toJson_other bound other height width, ?_, rfl, rfl, ?_, ?_⟩
      · rw [serveSetup_other bound other]
      · rw [serveSetup_other bound other]
      · rw [serveSetup_other bound other, fresh, serveSetup_any, if_pos absent]
      · rw [same, iff_false_right other, fresh]
        intro equal
        have families := congrArg (fun s : Settings => s.address.ssFamily) equal
        dsimp only at families
        rw [same, ssFamily_any] at families
        exact apart families.symm
      · rw [serveSetup_other bound other, fresh, serveSetup_any, same, iff_false_right other]
        exact fun equal => apart equal.symm

/-- A key with the family of a local socket: the settings do not survive, and IPv4 is bound. -/
theorem serialises_of_unix :
    let key : RegistryKey := fun name => if name = "AddressFamily" then some (.dword 1) else none
    ∃ settings back, Settings.new.load (some key) = some settings ∧
      fromJson settings.toJson = some back ∧ back ≠ settings ∧
      (serveSetup back).address = (serveSetup settings).address := by
  intro key
  obtain ⟨settings, loaded⟩ : ∃ settings, Settings.new.load (some key) = some settings := ⟨_, rfl⟩
  obtain ⟨-, back, read, bound, -, -, survives, -⟩ := (Obtained.new.load loaded).serialises
  have other : ¬ IsFamily settings.address.ssFamily := by
    have family : settings.address.ssFamily = 1 := by
      rw [← Option.some.inj loaded]
      decide
    rw [isFamily_iff, family]
    decide
  exact ⟨settings, back, loaded, read, survives.not.mpr other, bound⟩

/-! ## One key after another -/

theorem getUint_overlay (second first : RegistryKey) (name : String) (dst : UInt32) :
    MmpConfiguration.getUint (second.overlay first) name dst =
      MmpConfiguration.getUint second name (MmpConfiguration.getUint first name dst) := by
  simp only [MmpConfiguration.getUint, RegistryKey.getValueDword_overlay]
  cases second.getValueDword name <;> rfl

/-- The last port counts. -/
theorem loadPort_loadPort (second first : RegistryKey) (address : SockaddrStorage) :
    loadPort second (loadPort first address) = loadPort (second.overlay first) address := by
  have merged := RegistryKey.getValueDword_overlay second first "Port"
  by_cases supported : IsFamily address.ssFamily
  · cases later : second.getValueDword "Port" with
    | none =>
        rw [later, Option.none_or] at merged
        rw [loadPort_of_none later]
        cases earlier : first.getValueDword "Port" with
        | none => rw [loadPort_of_none earlier, loadPort_of_none (merged.trans earlier)]
        | some port =>
            rw [loadPort_of_isFamily earlier supported,
              loadPort_of_isFamily (merged.trans earlier) supported]
    | some port =>
        rw [later, Option.some_or] at merged
        rw [loadPort_of_isFamily merged supported]
        cases earlier : first.getValueDword "Port" with
        | none => rw [loadPort_of_none earlier, loadPort_of_isFamily later supported]
        | some port' =>
            have kept : IsFamily (address.withPort (htons port'.toUInt16)).ssFamily := by
              rwa [SockaddrStorage.ssFamily_withPort]
            rw [loadPort_of_isFamily earlier supported, loadPort_of_isFamily later kept,
              SockaddrStorage.withPort_withPort]
  · rw [loadPort_of_not_isFamily supported, loadPort_of_not_isFamily supported,
      loadPort_of_not_isFamily supported]

theorem withPort_eq_iff {port : UInt16} :
    address.withPort port = address ↔ port = address.port := by
  constructor
  · intro same
    rw [← same, port_withPort]
  · rintro rfl
    refine ext_bytes ?_
    have size : ((address.bytes.drop 2).take 2).length = 2 := by simp [address.size]
    have small : value ((address.bytes.drop 2).take 2) < 2 ^ 16 := by
      have bound := value_lt ((address.bytes.drop 2).take 2)
      rwa [size] at bound
    have written : littleEndian 2 address.port.toNat = (address.bytes.drop 2).take 2 := by
      rw [SockaddrStorage.port, UInt16.toNat_ofNat', Nat.mod_eq_of_lt small]
      have whole := littleEndian_value ((address.bytes.drop 2).take 2)
      rwa [size] at whole
    have rest : address.bytes.drop 4 = (address.bytes.drop 2).drop 2 := by rw [List.drop_drop]
    calc (address.withPort address.port).bytes
        = address.bytes.take 2 ++ littleEndian 2 address.port.toNat ++ address.bytes.drop 4 := rfl
      _ = address.bytes := by
          rw [written, rest, List.append_assoc, List.take_append_drop, List.take_append_drop]

theorem port_withFamily (address : SockaddrStorage) (family : ℕ) :
    (address.withFamily family).port = address.port := by
  rw [SockaddrStorage.port, withFamily, List.drop_left' (by simp)]
  rfl

theorem htons_eq_zero_iff {port : UInt16} : htons port = 0 ↔ port = 0 := by
  have zero : htons 0 = 0 := by decide
  constructor
  · exact fun same => htons_injective (same.trans zero.symm)
  · rintro rfl
    exact zero

/-- A new family forgets the port of the first key, and a port of the second replaces it. -/
theorem loadPort_fresh_iff (second first : RegistryKey) {family : ℕ} (bound : family < 256 ^ 2) :
    loadPort second (zero.withFamily family) =
        loadPort (second.overlay first) (zero.withFamily family) ↔
      ∀ port, IsFamily family → first.getValueDword "Port" = some port →
        second.getValueDword "Port" = none → port.toUInt16 = 0 := by
  have merged := RegistryKey.getValueDword_overlay second first "Port"
  have same := ssFamily_withFamily zero bound
  have unported : zero.port = 0 := by decide
  by_cases supported : IsFamily family
  · have supported' : IsFamily (zero.withFamily family).ssFamily := by rwa [same]
    cases later : second.getValueDword "Port" with
    | none =>
        rw [later, Option.none_or] at merged
        rw [loadPort_of_none later]
        cases earlier : first.getValueDword "Port" with
        | none => simp [loadPort_of_none (merged.trans earlier)]
        | some port =>
            rw [loadPort_of_isFamily (merged.trans earlier) supported', eq_comm, withPort_eq_iff,
              port_withFamily, unported, htons_eq_zero_iff]
            simp [supported]
    | some port =>
        rw [later, Option.some_or] at merged
        rw [loadPort_of_isFamily merged supported', loadPort_of_isFamily later supported']
        simp
  · have other : ¬ IsFamily (zero.withFamily family).ssFamily := by rwa [same]
    rw [loadPort_of_not_isFamily other, loadPort_of_not_isFamily other]
    simp [supported]

/-- Loading two keys one after the other is loading the values of the second over those of the
first, unless the second has a supported family and no port and the first has a port that is
not a multiple of 2^16. -/
theorem load_load_eq_iff (settings : Settings) (first second : RegistryKey) :
    (settings.load (some first)).bind (load · (some second)) =
        settings.load (some (second.overlay first)) ↔
      ∀ af port, second.getValueDword "AddressFamily" = some af → IsFamily (af.toNat % 2 ^ 16) →
        first.getValueDword "Port" = some port → second.getValueDword "Port" = none →
        port.toUInt16 = 0 := by
  have merged := RegistryKey.getValueDword_overlay second first "AddressFamily"
  have addresses : (settings.load (some first)).bind (load · (some second)) =
      settings.load (some (second.overlay first)) ↔
        loadPort second (loadFamily second (loadPort first (loadFamily first settings.address))) =
          loadPort (second.overlay first) (loadFamily (second.overlay first) settings.address) := by
    simp [load, getUint_overlay]
  rw [addresses]
  cases later : second.getValueDword "AddressFamily" with
  | none =>
      rw [later, Option.none_or] at merged
      have families : ∀ address, loadFamily second address = address := by
        intro address
        rw [loadFamily, later]
      have earlier : loadFamily (second.overlay first) settings.address =
          loadFamily first settings.address := by
        rw [loadFamily, loadFamily, merged]
      rw [families, earlier, loadPort_loadPort]
      simp
  | some af =>
      rw [later, Option.some_or] at merged
      have bound : af.toNat % 2 ^ 16 < 256 ^ 2 := Nat.mod_lt _ (by norm_num)
      have families : ∀ address, loadFamily second address =
          zero.withFamily (af.toNat % 2 ^ 16) := by
        intro address
        rw [loadFamily, later]
      have again : loadFamily (second.overlay first) settings.address =
          zero.withFamily (af.toNat % 2 ^ 16) := by
        rw [loadFamily, merged]
      rw [families, again, loadPort_fresh_iff second first bound]
      constructor
      · rintro zeroed _ port ⟨rfl⟩
        exact zeroed port
      · exact fun zeroed port => zeroed af port rfl

end Settings

end MagicMousePad
