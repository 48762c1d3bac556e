import MagicMousePad.Sockaddr
import Mathlib.Data.Rat.Floor
import Mathlib.Logic.Function.Basic

/-!
# Settings

The settings of the mouse pad and their JSON form.  What `to_json` writes,
`from_json` reads back; but `from_json` clears the address as soon as there is an
`Address` object, and sets its family again only if that object has a `Port`.
-/

namespace MagicMousePad

open ByteOrder

/-! ## JSON -/

/-- A JSON integer as the library keeps it, in 64 bits with or without a sign. -/
structure JsonInteger where
  value : Int
  lower : -2 ^ 63 ≤ value
  upper : value < 2 ^ 64

/-- `nlohmann::json`.  A floating-point number stands for its value, and `other` for
the values that are neither numbers nor objects. -/
inductive Json
  | object (members : String → Option Json)
  | integer (n : JsonInteger)
  | float (value : ℚ)
  | boolean (b : Bool)
  | other

/-- A floating-point number without its fraction. -/
def truncate (value : ℚ) : Int := if 0 ≤ value then ⌊value⌋ else ⌈value⌉

/-- Dropping the fraction gives an unsigned number below a bound exactly for numbers
above -1 and below that bound. -/
theorem truncate_mem_iff {value : ℚ} {upper : ℕ} (positive : 0 < upper) :
    0 ≤ truncate value ∧ truncate value < upper ↔ -1 < value ∧ value < upper := by
  unfold truncate
  by_cases sign : 0 ≤ value
  · have above : -1 < value := by linarith
    rw [if_pos sign, Int.floor_lt, Int.cast_natCast]
    simp only [Int.floor_nonneg, sign, above, true_and]
  · have negative : value < 0 := not_le.mp sign
    have below : ⌈value⌉ ≤ 0 := Int.ceil_le.mpr negative.le
    have up : value < (upper : ℚ) := negative.trans_le (Nat.cast_nonneg upper)
    have above : -1 < ⌈value⌉ ↔ -1 < value := by
      rw [Int.lt_ceil]
      norm_num
    rw [if_neg sign, and_iff_left up, ← above]
    omega

namespace Json

/-- `find`, which finds nothing in a value that is no object. -/
def find : Json → String → Option Json
  | .object members, key => members key
  | _, _ => none

/-- An assignment to a member of an object. -/
def assign : Json → String → Json → Json
  | .object members, key, value => .object (Function.update members key (some value))
  | json, _, _ => json

/-- The number that `get` converts to a type of the given range.  An integer is
reduced to the type afterwards, but a floating-point number out of range has no
defined result; for a value that is no number `get` throws. -/
def number (lower upper : Int) : Json → Option Int
  | .integer n => some n.value
  | .float value =>
      let whole := truncate value
      if lower ≤ whole ∧ whole < upper then some whole else none
  | .boolean b => some (if b then 1 else 0)
  | _ => none

/-- `get<int>`, `get<std::uint16_t>` and `get<std::uint32_t>`. -/
def getInt (json : Json) : Option Int32 := (json.number (-2 ^ 31) (2 ^ 31)).map Int32.ofInt
def getUInt16 (json : Json) : Option UInt16 := (json.number 0 (2 ^ 16)).map UInt16.ofInt
def getUInt32 (json : Json) : Option UInt32 := (json.number 0 (2 ^ 32)).map UInt32.ofInt

/-- The JSON value of an unsigned number. -/
def ofUInt32 (n : UInt32) : Json :=
  .integer
    { value := n.toNat
      lower := by omega
      upper := by have bound := n.toNat_lt; omega }

@[simp] theorem getUInt32_ofUInt32 (n : UInt32) : (ofUInt32 n).getUInt32 = some n := by
  have bound := n.toNat_lt
  have whole : ((n.toNat : Int) % 2 ^ 32).toNat = n.toNat := by omega
  rw [getUInt32, ofUInt32, number, Option.map_some, UInt32.ofInt, whole, UInt32.ofNat_toNat]

@[simp] theorem getUInt16_ofUInt32 (n : UInt16) : (ofUInt32 n.toUInt32).getUInt16 = some n := by
  have bound := n.toNat_lt
  have whole : ((n.toUInt32.toNat : Int) % 2 ^ 16).toNat = n.toNat := by
    rw [UInt16.toNat_toUInt32]
    omega
  rw [getUInt16, ofUInt32, number, Option.map_some, UInt16.ofInt, whole, UInt16.ofNat_toNat]

end Json

/-! ## `settings` -/

/-- `settings`. -/
structure Settings where
  address : SockaddrStorage
  height : UInt32
  width : UInt32
  deriving DecidableEq

namespace Settings

/-- `settings::settings`. -/
def new : Settings where
  address := SockaddrStorage.zero.withFamily Family.inet.value
  height := 0
  width := 0

/-- `settings::address_length`. -/
def addressLength (settings : Settings) : ℕ :=
  if settings.address.ssFamily = Family.inet.value then Family.inet.addressLength
  else if settings.address.ssFamily = Family.inet6.value then Family.inet6.addressLength
  else 0

/-- The `Address` object `to_json` writes. -/
def addressToJson (family : UInt32) (port : UInt16) : Json :=
  ((Json.object fun _ => none).assign "Family" (.ofUInt32 family)).assign "Port"
    (.ofUInt32 port.toUInt32)

/-- `nlohmann::adl_serializer<settings>::to_json`. -/
def toJson (value : Settings) : Json :=
  let retval := Json.object fun _ => none
  let port := ntohs value.address.port
  let retval :=
    if value.address.ssFamily = Family.inet.value then
      retval.assign "Address" (addressToJson 4 port)
    else if value.address.ssFamily = Family.inet6.value then
      retval.assign "Address" (addressToJson 6 port)
    else retval
  (retval.assign "Height" (.ofUInt32 value.height)).assign "Width" (.ofUInt32 value.width)

/-- The address `from_json` makes of the `Address` value. -/
def addressFromJson (it : Json) : Option SockaddrStorage := do
  let address := SockaddrStorage.zero
  let ipv6 ← match it.find "Family" with
    | none => some false
    | some f => f.getInt.map fun family => family == 6
  match it.find "Port" with
  | none => some address
  | some p =>
      let port ← p.getUInt16
      if ipv6 then
        some (((address.withFamily Family.inet6.value).withSin6Addr in6addrAny rfl).withPort
          (htons port))
      else
        some (((address.withFamily Family.inet.value).withSinAddr inaddrAny rfl).withPort
          (htons port))

/-- A size, which is zero if it is missing. -/
def sizeFromJson : Option Json → Option UInt32
  | none => some 0
  | some it => it.getUInt32

/-- `nlohmann::adl_serializer<settings>::from_json`, which terminates the program
when a value does not convert. -/
def fromJson (json : Json) : Option Settings := do
  let retval := new
  let address ← match json.find "Address" with
    | none => some retval.address
    | some it => addressFromJson it
  let height ← sizeFromJson (json.find "Height")
  let width ← sizeFromJson (json.find "Width")
  return { address := address, height := height, width := width }

end Settings

/-! ## Round trips -/

namespace Settings

theorem find_addressToJson (family : UInt32) (port : UInt16) :
    (addressToJson family port).find "Family" = some (.ofUInt32 family) ∧
      (addressToJson family port).find "Port" = some (.ofUInt32 port.toUInt32) := by
  simp [addressToJson, Json.assign, Json.find]

/-- The `Address` object of a family is read back as its wildcard. -/
theorem addressFromJson_addressToJson (family : Family) (port : UInt16) :
    addressFromJson (addressToJson (if family = .inet6 then 6 else 4) port) =
      some (.any family (htons port)) := by
  obtain ⟨foundFamily, foundPort⟩ :=
    find_addressToJson (if family = .inet6 then 6 else 4) port
  rw [addressFromJson, foundFamily, foundPort]
  cases family with
  | inet =>
      have wildcard :
          (SockaddrStorage.zero.withFamily Family.inet.value).withSinAddr inaddrAny rfl =
            SockaddrStorage.zero.withFamily Family.inet.value := by decide
      have read : (Json.ofUInt32 4).getInt = some 4 := by decide
      simp [read, wildcard, SockaddrStorage.any]
  | inet6 =>
      have wildcard :
          (SockaddrStorage.zero.withFamily Family.inet6.value).withSin6Addr in6addrAny rfl =
            SockaddrStorage.zero.withFamily Family.inet6.value := by decide
      have read : (Json.ofUInt32 6).getInt = some 6 := by decide
      simp [read, wildcard, SockaddrStorage.any]

theorem find_toJson (family : Family) (port : UInt16) (height width : UInt32) :
    let json := toJson ⟨.any family port, height, width⟩
    json.find "Address" =
        some (addressToJson (if family = .inet6 then 6 else 4) (ntohs port)) ∧
      json.find "Height" = some (.ofUInt32 height) ∧
      json.find "Width" = some (.ofUInt32 width) := by
  cases family <;>
    simp [toJson, Json.assign, Json.find, Family.value]

/-- What is written for a wildcard address is read back. -/
theorem fromJson_toJson (family : Family) (port : UInt16) (height width : UInt32) :
    fromJson (toJson ⟨.any family port, height, width⟩) =
      some ⟨.any family port, height, width⟩ := by
  obtain ⟨address, tall, wide⟩ := find_toJson family port height width
  simp [fromJson, address, tall, wide, addressFromJson_addressToJson, sizeFromJson]

/-- Settings with a wildcard address survive serialisation, and so does the JSON
object made of them. -/
theorem survives_serialisation (family : Family) (port : UInt16) (height width : UInt32) :
    let settings : Settings := ⟨.any family port, height, width⟩
    fromJson settings.toJson = some settings ∧
      ∀ json, json = settings.toJson → (fromJson json).map toJson = some json := by
  intro settings
  have read : fromJson settings.toJson = some settings := fromJson_toJson family port height width
  refine ⟨read, fun json written => ?_⟩
  rw [written, read, Option.map_some]

end Settings

end MagicMousePad
