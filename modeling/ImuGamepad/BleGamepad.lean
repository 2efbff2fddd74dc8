import ImuGamepad.NimBLE

/-!
# The gamepad's sensor service

`BleGamepad`, as far as the sensor service goes: the characteristics `taskServer` creates, the
callbacks it installs, the event flags those callbacks raise, and the copies in and out of a
characteristic. The HID report descriptor that `begin` builds, and the notifications sent to
connected clients, are left out.

A client's write arrives in two steps of the stack's task: the value is stored, then `onWrite`
runs. They are separate functions here, because other tasks run in between.

## Main definitions

* `BleGamepad` — flags, characteristics, configuration
* `BleGamepad.taskServer` — create the characteristics and install the callbacks
* `BleGamepad.onWrite`, `onRead`, `resetFlagsWrite`, `resetFlagsRead`
* `BleGamepad.setterCharacterData`, `getcharacterData`

## Main results

* `BleGamepad.config_toString` — the Config characteristic prints as the text it is compared with
* `BleGamepad.unixTime_toString_ne` — no UUID prints as the text of the UNIX time UUID
* `BleGamepad.getcharacterData_apply` — which bytes a copy out of a characteristic writes
-/

namespace ImuGamepad

/-- The characteristics of the sensor and the gamepad service. -/
inductive CharacteristicName
  | IMU1RawData
  | IMU2RawData
  | IMU1FuseDataCaliStatus
  | IMU2FuseDataCaliStatus
  | FlexSensorData
  | ForceSensorData
  | OverallStatus
  | Config
  | UNIXTime
  | Joystick
  | Buttons
  deriving DecidableEq

/-- `BleGamepadConfiguration`: the fields the firmware sets. -/
structure BleGamepadConfiguration where
  controllerType : Byte
  autoReport : Bool
  buttonCount : BitVec 16
  hatSwitchCount : Byte
  vid : BitVec 16
  pid : BitVec 16
  axesMin : BitVec 16
  axesMax : BitVec 16
  modelNumber : String
  softwareRevision : String
  serialNumber : String
  firmwareRevision : String
  hardwareRevision : String

/-- The configuration its constructor leaves. -/
def BleGamepadConfiguration.new : BleGamepadConfiguration where
  controllerType := 0x05
  autoReport := true
  buttonCount := 16
  hatSwitchCount := 1
  vid := 0xe502
  pid := 0xbbab
  axesMin := 0
  axesMax := 0x7FFF
  modelNumber := "1.0.0"
  softwareRevision := "1.0.0"
  serialNumber := "0123456789"
  firmwareRevision := "00.00.01"
  hardwareRevision := "00.00.01"

/-- A `BleGamepad` object. -/
structure BleGamepad where
  isOnWriteConfig : Byte
  isOnWriteUinixTime : Byte
  isRightSize : Byte
  isOnReadConfig : Byte
  isOnReadUinixTime : Byte
  /-- The characteristics; null until `taskServer` creates them. -/
  characteristics : CharacteristicName → Option NimBLECharacteristic
  /-- `configuration`: the copy that `begin` takes. -/
  configuration : Option BleGamepadConfiguration

namespace BleGamepad

/-! ### The service -/

/-- The UUIDs, as they are written in the source. -/
def uuid : CharacteristicName → List Char
  | .IMU1RawData => "55A58E5B-9F51-47DC-B6C7-EE929BA79664".toList
  | .IMU2RawData => "84b70b01-8869-4a23-ab4f-fbfd1a25a925".toList
  | .IMU1FuseDataCaliStatus => "5ABB059E-C70F-4E49-9C9D-16D546404E36".toList
  | .IMU2FuseDataCaliStatus => "83370305-9668-44d5-b14d-7f1f480d6f17".toList
  | .FlexSensorData => "9FE3F26A-8A04-4DB5-A97F-B24DCED652F9".toList
  | .ForceSensorData => "f1461563-772e-43d4-ab00-8d2ac54c94f9".toList
  | .OverallStatus => "b840e25c-183a-4a7e-8ec6-9a29ecc7ffdb".toList
  | .Config => "289f76d8-2edb-455d-8c3c-aabb42ab5b5c".toList
  | .UNIXTime => "7AE63A01-7AD5-464B-803D-8A392D242CC7".toList
  | .Joystick => "c91e9c03-b4be-4bb2-a2a2-21f52353265a".toList
  | .Buttons => "34afe3d1-643e-4fe7-abd2-7e7a0cfb1601".toList

/-- A freshly constructed gamepad: every flag zero, no characteristic yet. -/
def new : BleGamepad := ⟨0, 0, 0, 0, 0, fun _ => none, none⟩

/-- `begin(config)`: take a copy of the configuration. It also starts the task that runs
`taskServer`. -/
def begin (config : BleGamepadConfiguration) (g : BleGamepad) : BleGamepad :=
  { g with configuration := some config }

/-- `taskServer`: create every characteristic, and install the custom callbacks on `Config`. The
line that would install them on `UNIXTime` is commented out. -/
def taskServer (g : BleGamepad) : BleGamepad :=
  { g with
    characteristics := fun name =>
      let created := NimBLECharacteristic.create (uuid name)
      some (if name = .Config then created.setCallbacks .custom else created) }

/-! ### Events of the stack -/

/-- `CustomCharacteristicCallbacks::onWrite`. -/
def customOnWrite (c : NimBLECharacteristic) (g : BleGamepad) : BleGamepad :=
  if c.uuid.toString = uuid .Config then
    { g with isOnWriteConfig := 1, isRightSize := if c.value.length = 15 then 1 else 0 }
  else if c.uuid.toString = uuid .UNIXTime then
    { g with isOnWriteUinixTime := 1, isRightSize := if c.value.length = 8 then 1 else 0 }
  else g

/-- `CustomCharacteristicCallbacks::onRead`. -/
def customOnRead (c : NimBLECharacteristic) (g : BleGamepad) : BleGamepad :=
  if c.uuid.toString = uuid .Config then { g with isOnReadConfig := 1 }
  else if c.uuid.toString = uuid .UNIXTime then { g with isOnReadUinixTime := 1 }
  else g

/-- `m_pCallbacks->onWrite(this)`. -/
def onWrite (name : CharacteristicName) (g : BleGamepad) : BleGamepad :=
  match g.characteristics name with
  | some c =>
    match c.callbacks with
    | .custom => customOnWrite c g
    | .default => g
  | none => g

/-- `m_pCallbacks->onRead(this)`. -/
def onRead (name : CharacteristicName) (g : BleGamepad) : BleGamepad :=
  match g.characteristics name with
  | some c =>
    match c.callbacks with
    | .custom => customOnRead c g
    | .default => g
  | none => g

/-- `setValue` through the pointer to a characteristic. -/
def setValue (name : CharacteristicName) (data : List Byte) (g : BleGamepad) : BleGamepad :=
  match g.characteristics name with
  | some c =>
    { g with characteristics := Function.update g.characteristics name (some (c.setValue data)) }
  | none => g

/-- `writeEvent`: a client's write, both steps at once. -/
def writeEvent (name : CharacteristicName) (value : List Byte) (g : BleGamepad) : BleGamepad :=
  onWrite name (setValue name value g)

/-- `readEvent`: a client's read. -/
def readEvent (name : CharacteristicName) (g : BleGamepad) : BleGamepad := onRead name g

/-! ### Operations of the firmware -/

/-- `resetFlagsWrite()`. -/
def resetFlagsWrite (g : BleGamepad) : BleGamepad :=
  { g with isOnWriteConfig := 0, isOnWriteUinixTime := 0, isRightSize := 0 }

/-- `resetFlagsRead()`. -/
def resetFlagsRead (g : BleGamepad) : BleGamepad :=
  { g with isOnReadConfig := 0, isOnReadUinixTime := 0 }

/-- `setterCharacterData(character, data, length)`: the first `length` bytes behind `data`. -/
def setterCharacterData (name : CharacteristicName) (data : List Byte) (length : Byte)
    (g : BleGamepad) : BleGamepad :=
  setValue name (data.take length.toNat) g

/-- `getcharacterData(character, data)`, on the memory behind `data`: one byte after the other,
as many as the value has. -/
def getcharacterData (name : CharacteristicName) (g : BleGamepad) (data : ℕ → Byte) : ℕ → Byte :=
  match g.characteristics name with
  | some c =>
    if 0 < c.value.length then
      c.value.bytes.zipIdx.foldl (fun data b => Function.update data b.2 b.1) data
    else data
  | none => data

/-- The bytes a characteristic holds. -/
def valueOf (name : CharacteristicName) (g : BleGamepad) : Option (List Byte) :=
  (g.characteristics name).map fun c => c.value.bytes

/-! ### UUIDs in the callbacks -/

/-- The Config characteristic prints as the text it is compared with. -/
theorem config_toString : (NimBLEUUID.ofString (uuid .Config)).toString = uuid .Config := by
  decide +kernel

/-- **No UUID prints as the text of the UNIX time UUID**, which is written in upper case. -/
theorem unixTime_toString_ne (u : NimBLEUUID) : u.toString ≠ uuid .UNIXTime :=
  NimBLEUUID.toString_ne_of_upper (c := 'A') (by decide) (by decide) (by decide) u

/-! ### What the operations leave -/

@[simp] theorem valueOf_setValue_self {name : CharacteristicName} {g : BleGamepad}
    {c : NimBLECharacteristic} (h : g.characteristics name = some c) {data : List Byte}
    (hlen : data.length ≤ 512) : (g.setValue name data).valueOf name = some data := by
  simp [valueOf, setValue, h, NimBLECharacteristic.setValue, NimBLEAttValue.bytes_setValue hlen]

theorem valueOf_setValue_of_ne {name name' : CharacteristicName} (h : name' ≠ name)
    (data : List Byte) (g : BleGamepad) :
    (g.setValue name data).valueOf name' = g.valueOf name' := by
  rw [valueOf, valueOf, setValue]
  cases g.characteristics name with
  | none => rfl
  | some c => simp only [Function.update_of_ne h]

/-- A copy into a characteristic: the first `length` bytes, if there is such a characteristic. -/
theorem valueOf_setterCharacterData (name name' : CharacteristicName) (data : List Byte)
    (length : Byte) (g : BleGamepad) :
    (g.setterCharacterData name data length).valueOf name'
      = if name' = name then (g.valueOf name).map fun _ => data.take length.toNat
        else g.valueOf name' := by
  split
  · rename_i h
    subst h
    have hlen : (data.take length.toNat).length ≤ 512 := by
      have := length.isLt
      rw [List.length_take]
      omega
    cases hc : g.characteristics name' with
    | none => simp [setterCharacterData, setValue, valueOf, hc]
    | some c =>
      rw [setterCharacterData, valueOf_setValue_self hc hlen]
      simp [valueOf, hc]
  · rename_i h
    exact valueOf_setValue_of_ne h _ g

/-- Which bytes a copy out of a characteristic writes: as many as the value has, from the start
of the buffer. -/
theorem getcharacterData_apply {name : CharacteristicName} {g : BleGamepad} {value : List Byte}
    (h : g.valueOf name = some value) (data : ℕ → Byte) (i : ℕ) :
    g.getcharacterData name data i = value.getD i (data i) := by
  obtain ⟨c, hc, rfl⟩ : ∃ c, g.characteristics name = some c ∧ c.value.bytes = value := by
    simpa [valueOf] using h
  have key : ∀ (bs : List Byte) (k : ℕ) (data : ℕ → Byte),
      (bs.zipIdx k).foldl (fun data (b : Byte × ℕ) => Function.update data b.2 b.1) data i
        = if k ≤ i then bs.getD (i - k) (data i) else data i := by
    intro bs
    induction bs with
    | nil => simp
    | cons b bs ih =>
      intro k data
      rw [List.zipIdx_cons, List.foldl_cons, ih]
      rcases Nat.lt_trichotomy i k with hlt | rfl | hgt
      · rw [if_neg (by omega), if_neg (by omega), Function.update_of_ne (by simp only; omega)]
      · simp
      · rw [if_pos (by omega), if_pos (by omega), Function.update_of_ne (by simp only; omega),
          show i - k = i - (k + 1) + 1 by omega, List.getD_cons_succ]
  rw [getcharacterData, hc]
  simp only
  split
  · simpa using key c.value.bytes 0 data
  · rename_i hlen
    have hnil : c.value.bytes = [] := List.length_eq_zero_iff.mp (Nat.eq_zero_of_not_pos hlen)
    simp [hnil]

end BleGamepad

end ImuGamepad
