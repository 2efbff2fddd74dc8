import ImuGamepad.Library.Bytes
import Mathlib.Data.List.GetD
import Mathlib.Logic.Function.Basic

/-!
# Characteristics of the Bluetooth stack

`NimBLEUUID`, `NimBLEAttValue` and `NimBLECharacteristic`, as far as the sensor service uses them.

A UUID is parsed from 36 characters of either case and always printed in lower case. So a text
with an upper-case digit in it is the printed form of no UUID at all (`toString_ne_of_upper`),
whatever UUID it was parsed from.

## Main definitions

* `NimBLEUUID.ofString`, `NimBLEUUID.toString`
* `NimBLEAttValue` — the bytes of a value, never more than `BLE_ATT_ATTR_MAX_LEN`
* `NimBLECharacteristic` — a UUID, a value and the callbacks installed on it

## Main results

* `NimBLEUUID.toString_ne_of_upper`
* `NimBLEAttValue.bytes_setValue` — a value of legal length is stored as it is
-/

namespace ImuGamepad

/-! ### UUIDs -/

/-- A 128-bit UUID. -/
abbrev NimBLEUUID := BitVec 128

namespace NimBLEUUID

/-- The digits that `%02x` prints. -/
def hexDigits : List Char := "0123456789abcdef".toList

/-- The value of a hexadecimal digit of either case. -/
def hexValue (c : Char) : Option ℕ :=
  if '0' ≤ c ∧ c ≤ '9' then some (c.toNat - 48)
  else if 'a' ≤ c ∧ c ≤ 'f' then some (c.toNat - 87)
  else if 'A' ≤ c ∧ c ≤ 'F' then some (c.toNat - 55)
  else none

/-- `strtoull(_, &position, 16)`: the digits up to the first character that is none, and the rest
of the text. -/
def strtoull : ℕ → List Char → ℕ × List Char
  | acc, [] => (acc, [])
  | acc, c :: cs =>
    match hexValue c with
    | some d => strtoull (acc * 16 + d) cs
    | none => (acc, c :: cs)

/-- `NimBLEUUID(value)` for a text of 36 characters: five groups of digits, with one character
between them. -/
def ofString (value : List Char) : NimBLEUUID :=
  let g₁ := strtoull 0 value
  let g₂ := strtoull 0 g₁.2.tail
  let g₃ := strtoull 0 g₂.2.tail
  let g₄ := strtoull 0 g₃.2.tail
  let g₅ := strtoull 0 g₄.2.tail
  let firstHalf := g₁.1 * 2 ^ 32 + g₂.1 * 2 ^ 16 + g₃.1
  let secondHalf := g₄.1 * 2 ^ 48 + g₅.1
  BitVec.ofNat 128 (firstHalf % 2 ^ 64 * 2 ^ 64 + secondHalf % 2 ^ 64)

/-- `count` digits of a UUID, starting with digit `start` from the left. -/
def group (u : NimBLEUUID) (start count : ℕ) : List Char :=
  (List.range' start count).map fun i => hexDigits.getD (u.toNat / 16 ^ (31 - i) % 16) '0'

/-- `toString()`: `%02x` for every byte, in five groups. -/
def toString (u : NimBLEUUID) : List Char :=
  u.group 0 8 ++ ['-'] ++ u.group 8 4 ++ ['-'] ++ u.group 12 4 ++ ['-'] ++ u.group 16 4 ++ ['-'] ++
    u.group 20 12

theorem mem_group {u : NimBLEUUID} {start count : ℕ} {c : Char} (h : c ∈ u.group start count) :
    c ∈ hexDigits := by
  obtain ⟨i, -, rfl⟩ := List.mem_map.mp h
  have hlt : u.toNat / 16 ^ (31 - i) % 16 < hexDigits.length := Nat.mod_lt _ (by decide)
  rw [List.getD_eq_getElem _ _ hlt]
  exact List.getElem_mem hlt

theorem mem_toString {u : NimBLEUUID} {c : Char} (h : c ∈ u.toString) :
    c = '-' ∨ c ∈ hexDigits := by
  simp only [toString, List.mem_append, List.mem_singleton] at h
  rcases h with (((((((h | h) | h) | h) | h) | h) | h) | h) | h
  all_goals first | exact Or.inl h | exact Or.inr (mem_group h)

/-- **A text with a character that is never printed is the printed form of no UUID.** -/
theorem toString_ne_of_upper {text : List Char} {c : Char} (hc : c ∈ text) (hdash : c ≠ '-')
    (hhex : c ∉ hexDigits) (u : NimBLEUUID) : u.toString ≠ text := by
  rintro rfl
  exact (mem_toString hc).elim hdash hhex

end NimBLEUUID

/-! ### Values -/

/-- The bytes of an attribute. Their number is bounded by `BLE_ATT_ATTR_MAX_LEN`. -/
structure NimBLEAttValue where
  bytes : List Byte
  length_le : bytes.length ≤ 512
  deriving DecidableEq

namespace NimBLEAttValue

/-- No bytes. -/
def empty : NimBLEAttValue := ⟨[], by decide⟩

/-- `setValue(value, len)`: the length is set to zero and the bytes are appended, unless they are
too many. -/
def setValue (value : List Byte) : NimBLEAttValue :=
  if h : value.length ≤ 512 then ⟨value, h⟩ else empty

/-- `length()`. -/
def length (v : NimBLEAttValue) : ℕ := v.bytes.length

/-- A value of legal length is stored as it is. -/
theorem bytes_setValue {value : List Byte} (h : value.length ≤ 512) :
    (setValue value).bytes = value := by
  rw [setValue, dif_pos h]

end NimBLEAttValue

/-! ### Characteristics -/

/-- The callbacks of a characteristic. -/
inductive Callbacks
  /-- The stack's own, which only log. -/
  | default
  /-- `CustomCharacteristicCallbacks`, bound to the gamepad. -/
  | custom
  deriving DecidableEq

/-- `NimBLECharacteristic`. -/
structure NimBLECharacteristic where
  uuid : NimBLEUUID
  value : NimBLEAttValue
  callbacks : Callbacks
  deriving DecidableEq

namespace NimBLECharacteristic

/-- `createCharacteristic(uuid)`. -/
def create (uuid : List Char) : NimBLECharacteristic := ⟨.ofString uuid, .empty, .default⟩

/-- `setValue(data, length)`. -/
def setValue (c : NimBLECharacteristic) (data : List Byte) : NimBLECharacteristic :=
  { c with value := .setValue data }

/-- `setCallbacks(callbacks)`. -/
def setCallbacks (c : NimBLECharacteristic) (callbacks : Callbacks) : NimBLECharacteristic :=
  { c with callbacks := callbacks }

end NimBLECharacteristic

end ImuGamepad
