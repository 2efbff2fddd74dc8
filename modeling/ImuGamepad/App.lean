import ImuGamepad.BleGamepad
import ImuGamepad.Calibration
import ImuGamepad.LIS3MDL
import ImuGamepad.LSM6DS3TRC

/-!
# The state of the firmware

The constants, records and globals of the application. Pointers to drivers and to the gamepad are
optional values: null is `none`, and a valid pointer is the object it points at, so that distinct
pointers are distinct objects.

The sensor fusion library is floating point throughout and is not modelled. A filter is the
history of the calls made on it, and the angles it reports are unknown functions of that history.

## Main definitions

* `ConfigIMUJoystick` — the settings record
* `OverallStatusData` — the status record
* `FusionFilter` — the calls made on a fusion filter
* `DriverSlot` — one of the pointers to drivers
* `Platform` — what the firmware runs on and cannot change
* `Firmware` — every global
* `Firmware.powerOn` — their static initial values
-/

namespace ImuGamepad

/-! ### Constants -/

def calibrationAddress : ℕ := 0x100
def settingAddress : ℕ := 0
def settingsValidFlag : BitVec 16 := 0xAA55
def filterUpdateRateHz : ℚ := 12.5

/-- The pins the two sensors' data-ready lines are wired to. -/
inductive IntPin
  | imu1
  | imu2
  deriving DecidableEq

/-! ### The settings record -/

/-- `IMU_config_data_anJoystick`. -/
structure ConfigIMUJoystick where
  imu1AccelGyroRate : Byte
  imu1MagFreq : Byte
  imu2AccelGyroFreq : Byte
  imu2MagFreq : Byte
  imu1AccelRange : Byte
  imu1GyroRange : Byte
  imu1MagRange : Byte
  imu2AccelRange : Byte
  imu2GyroRange : Byte
  imu2MagRange : Byte
  joystickFlexSensorRate : BitVec 16
  deriving DecidableEq

namespace ConfigIMUJoystick

/-- The fields overlaid on the union's fifteen bytes, of which the last three have no field. -/
def ofBytes (raw : Bytes 15) : ConfigIMUJoystick where
  imu1AccelGyroRate := raw 0
  imu1MagFreq := raw 1
  imu2AccelGyroFreq := raw 2
  imu2MagFreq := raw 3
  imu1AccelRange := raw 4
  imu1GyroRange := raw 5
  imu1MagRange := raw 6
  imu2AccelRange := raw 7
  imu2GyroRange := raw 8
  imu2MagRange := raw 9
  joystickFlexSensorRate := raw.getInt16 10

/-- The twelve bytes of the fields. -/
def toBytes (c : ConfigIMUJoystick) : Bytes 12 :=
  ![c.imu1AccelGyroRate, c.imu1MagFreq, c.imu2AccelGyroFreq, c.imu2MagFreq,
    c.imu1AccelRange, c.imu1GyroRange, c.imu1MagRange,
    c.imu2AccelRange, c.imu2GyroRange, c.imu2MagRange,
    Bytes.ofWord 2 c.joystickFlexSensorRate 0, Bytes.ofWord 2 c.joystickFlexSensorRate 1]

/-- Assigning every field of the union; its last three bytes keep what they held. -/
def assign (c : ConfigIMUJoystick) (raw : Bytes 15) : Bytes 15 := raw.splice 0 c.toBytes

/-- **The fields read back as they were assigned**, whatever the union held before. -/
theorem ofBytes_assign (c : ConfigIMUJoystick) (raw : Bytes 15) : ofBytes (c.assign raw) = c := by
  have hfield (i : Fin 15) (hi : (i : ℕ) < 12) : c.assign raw i = c.toBytes ⟨i, hi⟩ :=
    Bytes.splice_of_mem (Nat.zero_le _) (by simpa using hi)
  have hrate : (c.assign raw).getInt16 10 = c.joystickFlexSensorRate := by
    have hslice : (c.assign raw).slice 10 2 = Bytes.ofWord 2 c.joystickFlexSensorRate := by
      rw [assign, Bytes.slice_splice_inside (Nat.zero_le _) (by omega) (by omega)]
      funext j
      match j with
      | 0 => rfl
      | 1 => rfl
    rw [Bytes.getInt16, hslice, Bytes.toWord_ofWord rfl]
  cases c
  simp only [ofBytes, hrate]
  rfl

end ConfigIMUJoystick

/-! ### The status record -/

/-- `statuscode`. -/
inductive StatusCode
  | NO_ERROR
  | GENERAL_ERROR
  deriving DecidableEq

/-- `statuscode_sensor`. -/
inductive StatusCodeSensor
  | NOT_DETECT
  | FAILED
  | IDEL
  | RUNNING
  deriving DecidableEq

/-- `Overall_status_data`. -/
structure OverallStatusData where
  statusCode : StatusCode
  fuelgauseStatus : StatusCodeSensor
  imu1Status : StatusCodeSensor
  imu2Status : StatusCodeSensor
  deriving DecidableEq

/-! ### Fusion filters -/

/-- A call on an `Adafruit_NXPSensorFusion`. -/
inductive FusionCall
  | begin (sampleFrequency : ℚ)
  | update (gx gy gz ax ay az mx my mz : ℚ)
  | setQuaternion (w x y z : ℚ)
  deriving DecidableEq

/-- A fusion filter: the calls made on it, the first one first. -/
abbrev FusionFilter := List FusionCall

/-- What the firmware runs on: the registers of a chip after a reset, the result of a conversion
to `int16_t` that is undefined, and the angles a filter reports. -/
structure Platform where
  resetRegisters : I2CAddr → RegAddr → Byte
  undefinedInt16 : ℚ → BitVec 16
  getRoll : FusionFilter → BitVec 32
  getPitch : FusionFilter → BitVec 32
  getYaw : FusionFilter → BitVec 32

/-! ### Globals -/

/-- `SensorGroupIMU`: four pointers to drivers. -/
structure SensorGroupIMU where
  lsm6ds1 : Option LSM6DS3TRC
  lsm6ds2 : Option LSM6DS3TRC
  lis3mdl1 : Option LIS3MDL
  lis3mdl2 : Option LIS3MDL
  deriving DecidableEq

/-- Four driver objects. -/
structure Drivers where
  lsm6ds1 : LSM6DS3TRC
  lsm6ds2 : LSM6DS3TRC
  lis3mdl1 : LIS3MDL
  lis3mdl2 : LIS3MDL

/-- Pointers to four distinct driver objects. -/
def Drivers.group (d : Drivers) : SensorGroupIMU :=
  ⟨some d.lsm6ds1, some d.lsm6ds2, some d.lis3mdl1, some d.lis3mdl2⟩

/-- One of the four pointers: how to follow it, and how the object behind it changes. Where all four
are valid this one is, and a change keeps them so. -/
structure DriverSlot (δ : Type) where
  get : SensorGroupIMU → Option δ
  set : SensorGroupIMU → δ → SensorGroupIMU
  get_group : ∀ d : Drivers, ∃ x, get d.group = some x
  set_group : ∀ (d : Drivers) (x : δ), ∃ d' : Drivers, set d.group x = d'.group

namespace DriverSlot

def lsm6ds1 : DriverSlot LSM6DS3TRC where
  get g := g.lsm6ds1
  set g x := { g with lsm6ds1 := some x }
  get_group d := ⟨d.lsm6ds1, rfl⟩
  set_group d x := ⟨{ d with lsm6ds1 := x }, rfl⟩

def lsm6ds2 : DriverSlot LSM6DS3TRC where
  get g := g.lsm6ds2
  set g x := { g with lsm6ds2 := some x }
  get_group d := ⟨d.lsm6ds2, rfl⟩
  set_group d x := ⟨{ d with lsm6ds2 := x }, rfl⟩

def lis3mdl1 : DriverSlot LIS3MDL where
  get g := g.lis3mdl1
  set g x := { g with lis3mdl1 := some x }
  get_group d := ⟨d.lis3mdl1, rfl⟩
  set_group d x := ⟨{ d with lis3mdl1 := x }, rfl⟩

def lis3mdl2 : DriverSlot LIS3MDL where
  get g := g.lis3mdl2
  set g x := { g with lis3mdl2 := some x }
  get_group d := ⟨d.lis3mdl2, rfl⟩
  set_group d x := ⟨{ d with lis3mdl2 := x }, rfl⟩

end DriverSlot

/-- `ble`: pointers to the gamepad and its configuration. -/
structure Ble where
  bleGamepad : Option BleGamepad
  bleGamepadConfig : Option BleGamepadConfiguration

/-- `calibratee`. -/
structure Calibratee where
  calibationIMU1 : Byte
  calibationIMU2 : Byte

/-- Every global of the application, with the EEPROM, the bus and the interrupt controller. -/
structure Firmware where
  eeprom : EEPROMClass
  bus : Bus
  /-- The pins the interrupt handler is attached to. -/
  attached : IntPin → Bool
  sensorGroup : SensorGroupIMU
  ble : Ble
  cal : SensorCalibration
  timestamp : BitVec 32
  imusAvailable : Bool
  fillsion1 : FusionFilter
  fillsion2 : FusionFilter
  imu1DataRawPacked : Bytes 18
  imu2DataRawPacked : Bytes 18
  imu1EulerCalibration : Bytes 13
  imu2EulerCalibration : Bytes 13
  calibrationData : Calibratee
  calibrationLoaded : Bool
  imuDataReady : Bool
  overallStatusDatapPacked : OverallStatusData

namespace Firmware

/-- The globals as a boot finds them: zero, with the given pointers, and `cal` as its constructor
leaves it. -/
def powerOn (sensorGroup : SensorGroupIMU) (ble : Ble) (bus : Bus) (image : Image) : Firmware where
  eeprom := ⟨image, none⟩
  bus := bus
  attached _ := false
  sensorGroup := sensorGroup
  ble := ble
  cal := .default
  timestamp := 0
  imusAvailable := false
  fillsion1 := []
  fillsion2 := []
  imu1DataRawPacked _ := 0
  imu2DataRawPacked _ := 0
  imu1EulerCalibration _ := 0
  imu2EulerCalibration _ := 0
  calibrationData := ⟨0, 0⟩
  calibrationLoaded := false
  imuDataReady := false
  overallStatusDatapPacked := ⟨.NO_ERROR, .NOT_DETECT, .NOT_DETECT, .NOT_DETECT⟩

end Firmware

/-- Follow a pointer. -/
def deref {α : Type*} (p : Option α) : Except Fault α :=
  match p with
  | some a => .ok a
  | none => .error .nullPointer

@[simp] theorem deref_some {α : Type*} (a : α) : deref (some a) = .ok a := rfl

@[simp] theorem deref_none {α : Type*} : deref (none : Option α) = .error .nullPointer := rfl

end ImuGamepad
