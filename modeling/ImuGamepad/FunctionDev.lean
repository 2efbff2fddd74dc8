import ImuGamepad.App
import ImuGamepad.Library.Runs

/-!
# Settings, calibration records, status and service setup

The functions of `functiondev.cpp`. A function takes what the hardware answers to it and the
globals, and returns the globals, or the fault it stops with; one that returns a `bool` in the
source returns it beside them.

`restoreSettings` makes the same twelve setter calls, in the same order, as `setupIMUDataRate`
does with constants, so both are `configureSensors`.

## Main definitions

* `callDriver`, `onDriver` — calls through a pointer of `sensorGroup`
* `configureSensors` — the twelve setter calls
* `restoreSettings`, `setDefaultSettings`, `loadCalibration` — the users of the EEPROM
* `setupIMUInterrupts`, `edge` — the data-ready interrupt
* `initFuelGauge`, `updateOverallStatusData` — the status record
* `setupBLEGamepad`

## Main results

* `configureSensors_frame`, `restoreSettings_frame` — what the setter calls leave alone
* `restoreSettings_eq` — `restoreSettings` as one condition
-/

namespace ImuGamepad

open Runs

/-! ### The setter calls -/

/-- Call a method of the driver behind a pointer, and take its result. -/
def callDriver {δ α : Type} (slot : DriverSlot δ) (call : δ → Bus → α × δ × Bus) (s : Firmware) :
    Except Fault (α × Firmware) := do
  let d ← deref (slot.get s.sensorGroup)
  let (result, d, bus) := call d s.bus
  return (result, { s with bus := bus, sensorGroup := slot.set s.sensorGroup d })

/-- Call a method that returns nothing. -/
def onDriver {δ : Type} (slot : DriverSlot δ) (call : δ → Bus → δ × Bus) (s : Firmware) :
    Except Fault Firmware :=
  (callDriver slot (fun d bus => ((), call d bus)) s).map Prod.snd

/-- The twelve setter calls on the four drivers: first the sensors of IMU 1, then those of
IMU 2. -/
def configureSensors (c : ConfigIMUJoystick) (s : Firmware) : Except Fault Firmware := do
  let s ← onDriver .lsm6ds1
    (LSM6DS3TRC.configure c.imu1AccelGyroRate c.imu1AccelRange c.imu1GyroRange) s
  let s ← onDriver .lis3mdl1 (LIS3MDL.configure c.imu1MagFreq c.imu1MagRange) s
  let s ← onDriver .lsm6ds2
    (LSM6DS3TRC.configure c.imu2AccelGyroFreq c.imu2AccelRange c.imu2GyroRange) s
  onDriver .lis3mdl2 (LIS3MDL.configure c.imu2MagFreq c.imu2MagRange) s

/-! ### Settings -/

/-- The flag at the start of the settings record is valid. -/
def validationFlag (img : Image) : Prop :=
  Bytes.toWord 16 (img.slice settingAddress 2) = settingsValidFlag

instance (img : Image) : Decidable (validationFlag img) := inferInstanceAs (Decidable (_ = _))

/-- The settings record behind the flag. -/
def storedSettings (img : Image) : ConfigIMUJoystick := .ofBytes (img.slice (settingAddress + 2) 15)

/-- `restoreSettings`: whether settings were found, having configured the sensors with them. -/
def restoreSettings (eepromOk : Bool) (s : Firmware) : Except Fault (Bool × Firmware) := do
  let (ok, eeprom) := s.eeprom.begin eepromOk
  let s := { s with eeprom := eeprom }
  if ok then
    -- `begin` has succeeded, so both reads are in range and their targets' old contents are gone
    let flag : Bytes 2 := s.eeprom.get settingAddress fun _ => 0
    if Bytes.toWord 16 flag = settingsValidFlag then
      let configData : Bytes 15 := s.eeprom.get (settingAddress + 2) fun _ => 0
      let s ← configureSensors (.ofBytes configData) s
      return (true, s)
    else return (false, s)
  else return (false, s)

/-- The default settings: 12.5 Hz, 155 Hz, the smallest ranges. -/
def defaultSettings : ConfigIMUJoystick where
  imu1AccelGyroRate := LSM6DS3TRC.rate12_5Hz
  imu1MagFreq := LIS3MDL.dataRate155Hz
  imu1AccelRange := LSM6DS3TRC.accelRange2G
  imu1GyroRange := LSM6DS3TRC.gyroRange250Dps
  imu1MagRange := LIS3MDL.range4Gauss
  imu2AccelGyroFreq := LSM6DS3TRC.rate12_5Hz
  imu2MagFreq := LIS3MDL.dataRate155Hz
  imu2AccelRange := LSM6DS3TRC.accelRange2G
  imu2GyroRange := LSM6DS3TRC.gyroRange250Dps
  imu2MagRange := LIS3MDL.range4Gauss
  joystickFlexSensorRate := 100

/-- `setDefaultSettings`: `uninit` is what the local union held before its fields were assigned. -/
def setDefaultSettings (uninit : Bytes 15) (s : Firmware) : Firmware :=
  let flag : Bytes 2 := Bytes.ofWord 2 settingsValidFlag
  let eeprom := s.eeprom.put settingAddress flag
  let eeprom := eeprom.put (settingAddress + 2) (defaultSettings.assign uninit)
  { s with eeprom := eeprom.commit }

/-- An image with a valid settings record written into it. -/
def withSettings (c : ConfigIMUJoystick) (uninit : Bytes 15) (img : Image) : Image :=
  (img.splice settingAddress (Bytes.ofWord 2 settingsValidFlag)).splice (settingAddress + 2)
    (c.assign uninit)

section

variable (c : ConfigIMUJoystick) (uninit : Bytes 15) (img : Image)

theorem validationFlag_withSettings : validationFlag (withSettings c uninit img) := by
  rw [validationFlag, withSettings, Bytes.slice_splice_of_disjoint (.inl (by decide)),
    Bytes.slice_splice_self (by decide), Bytes.toWord_ofWord rfl]

@[simp] theorem storedSettings_withSettings : storedSettings (withSettings c uninit img) = c := by
  rw [storedSettings, withSettings, Bytes.slice_splice_self (by decide),
    ConfigIMUJoystick.ofBytes_assign]

/-- **The default settings are stored and found again**, if the EEPROM has been begun. -/
theorem setDefaultSettings_of_data {s : Firmware} {img : Image} (h : s.eeprom.data = some img) :
    setDefaultSettings uninit s = { s with
      eeprom := ⟨withSettings defaultSettings uninit img,
        some (withSettings defaultSettings uninit img)⟩ } := by
  rw [setDefaultSettings, EEPROMClass.put_of_data h (by decide),
    EEPROMClass.put_of_data rfl (by decide), EEPROMClass.commit_of_data rfl]
  rfl

theorem setDefaultSettings_of_none {s : Firmware} (h : s.eeprom.data = none) :
    setDefaultSettings uninit s = s := by
  rw [setDefaultSettings, EEPROMClass.put_of_none h, EEPROMClass.put_of_none h,
    EEPROMClass.commit_of_none h]

end

/-! ### The data-ready interrupt -/

/-- `imu1InterruptHandler`. -/
def imu1InterruptHandler (s : Firmware) : Firmware := { s with imuDataReady := true }

/-- A rising edge on a pin, at a moment between two calls. The handler writes a flag that only
`updateOverallStatusData` reads, so an edge during a call is one before or after it. -/
def edge (pin : IntPin) (s : Firmware) : Firmware :=
  if s.attached pin then imu1InterruptHandler s else s

/-- `setupIMUInterrupts`: attach the handler to `IMU1_INT_PIN`, and configure the same driver
twice. -/
def setupIMUInterrupts (s : Firmware) : Except Fault Firmware := do
  let s := { s with attached := Function.update s.attached .imu1 true }
  let s ← onDriver .lsm6ds1 (LSM6DS3TRC.configInt1 false false true) s
  onDriver .lsm6ds1 (LSM6DS3TRC.configInt1 false false true) s

/-! ### Calibration records -/

/-- The calibration byte of an Euler record. -/
def calibation (record : Bytes 13) : Byte := record 12

/-- `loadCalibration`: whether both records carry a calibration. -/
def loadCalibration (eepromOk : Bool) (s : Firmware) : Bool × Firmware :=
  let (ok, eeprom) := s.eeprom.begin eepromOk
  let s := { s with eeprom := eeprom }
  if !ok then (false, s)
  else
    let s := { s with
      imu1EulerCalibration := s.eeprom.get calibrationAddress s.imu1EulerCalibration
      imu2EulerCalibration := s.eeprom.get (calibrationAddress + 13) s.imu2EulerCalibration }
    let loaded := calibation s.imu1EulerCalibration ≠ 0 ∧ calibation s.imu2EulerCalibration ≠ 0
    -- both branches copy the two bytes out, and back where they came from
    (loaded, { s with
      calibrationLoaded := loaded
      calibrationData := ⟨calibation s.imu1EulerCalibration, calibation s.imu2EulerCalibration⟩ })

/-! ### The gamepad -/

/-- The setter calls on the gamepad's configuration. -/
def configureGamepad (c : BleGamepadConfiguration) : BleGamepadConfiguration :=
  { c with
    autoReport := false
    controllerType := 0x05
    buttonCount := 64
    hatSwitchCount := 4
    vid := 0xe502
    pid := 0xabcd
    modelNumber := "ESP32-G1"
    softwareRevision := "v1.0.0"
    serialNumber := "SN001"
    firmwareRevision := "FW1.0"
    hardwareRevision := "HW1.0"
    axesMin := 0
    axesMax := 0x7FFF }

/-- `setupBLEGamepad`. -/
def setupBLEGamepad (s : Firmware) : Except Fault Firmware := do
  let config ← deref s.ble.bleGamepadConfig
  let config := configureGamepad config
  let gamepad ← deref s.ble.bleGamepad
  return { s with ble := ⟨some (gamepad.begin config), some config⟩ }

/-! ### The status record -/

/-- What the fuel gauge answers to `begin`: whether it acknowledges its address, its version
register, whether it acknowledges the reset command (a chip that resets does not), and whether
one of three attempts to clear the reset alert succeeds. -/
structure FuelGaugeProbe where
  detected : Bool
  icVersion : BitVec 16
  resetAcked : Bool
  alertCleared : Bool
  deriving DecidableEq

/-- `Adafruit_MAX17048::isDeviceReady`, on what the version register reads. -/
def isDeviceReady (icVersion : BitVec 16) : Bool := icVersion &&& 0xFFF0 = 0x0010

/-- `Adafruit_MAX17048::begin`. -/
def FuelGaugeProbe.begin (probe : FuelGaugeProbe) : Bool :=
  probe.detected && isDeviceReady probe.icVersion && !probe.resetAcked && probe.alertCleared

/-- `initFuelGauge`. -/
def initFuelGauge (probe : FuelGaugeProbe) (s : Firmware) : Bool × Firmware :=
  let status := s.overallStatusDatapPacked
  if !probe.begin then
    (false, { s with
      overallStatusDatapPacked :=
        { status with fuelgauseStatus := .FAILED, statusCode := .GENERAL_ERROR } })
  else (true, { s with overallStatusDatapPacked := { status with fuelgauseStatus := .RUNNING } })

/-- `updateOverallStatusData`, with what the fuel gauge's version register reads. -/
def updateOverallStatusData (icVersion : BitVec 16) (s : Firmware) : Firmware :=
  let imuStatus : StatusCodeSensor := if s.imuDataReady then .RUNNING else .FAILED
  { s with
    overallStatusDatapPacked :=
      { statusCode := .NO_ERROR
        fuelgauseStatus := if isDeviceReady icVersion then .RUNNING else .FAILED
        imu1Status := imuStatus
        imu2Status := imuStatus } }

/-! ### Calls through a valid pointer -/

section

variable {δ α : Type} {slot : DriverSlot δ} {s : Firmware} {d : δ}

theorem callDriver_eq (hd : slot.get s.sensorGroup = some d) (call : δ → Bus → α × δ × Bus) :
    callDriver slot call s = .ok ((call d s.bus).1, { s with
      bus := (call d s.bus).2.2
      sensorGroup := slot.set s.sensorGroup (call d s.bus).2.1 }) := by
  rw [callDriver, hd]
  rfl

theorem onDriver_eq (hd : slot.get s.sensorGroup = some d) (call : δ → Bus → δ × Bus) :
    onDriver slot call s = .ok { s with
      bus := (call d s.bus).2
      sensorGroup := slot.set s.sensorGroup (call d s.bus).1 } := by
  rw [onDriver, callDriver_eq hd]
  rfl

end

/-! ### What the calls leave alone -/

/-- The two states differ in the drivers and the chips at most. -/
def SensorsOnly (s t : Firmware) : Prop :=
  t = { s with bus := t.bus, sensorGroup := t.sensorGroup }

theorem SensorsOnly.refl (s : Firmware) : SensorsOnly s s := rfl

theorem SensorsOnly.trans {s t u : Firmware} (h₁ : SensorsOnly s t) (h₂ : SensorsOnly t u) :
    SensorsOnly s u := by
  rw [SensorsOnly] at h₁ h₂ ⊢
  rw [h₂, h₁]

section

variable {δ α : Type} {slot : DriverSlot δ} {s t : Firmware}

/-- A call that goes through returns what the method does, and changes drivers and chips only. -/
theorem callDriver_spec {call : δ → Bus → α × δ × Bus} {result : α}
    (h : callDriver slot call s = .ok (result, t)) :
    (∃ d, result = (call d s.bus).1) ∧ SensorsOnly s t := by
  obtain ⟨d, -, hd⟩ := bind_eq_ok_iff.mp h
  cases hd
  exact ⟨⟨d, rfl⟩, rfl⟩

/-- It leaves the object behind the pointer as the method does. -/
theorem callDriver_sensorGroup {call : δ → Bus → α × δ × Bus} {result : α}
    (h : callDriver slot call s = .ok (result, t)) :
    ∃ d, t.sensorGroup = slot.set s.sensorGroup (call d s.bus).2.1 := by
  obtain ⟨d, -, hd⟩ := bind_eq_ok_iff.mp h
  cases hd
  exact ⟨d, rfl⟩

theorem onDriver_frame {call : δ → Bus → δ × Bus} (h : onDriver slot call s = .ok t) :
    SensorsOnly s t := by
  rw [onDriver] at h
  cases hcall : callDriver slot (fun d bus => ((), call d bus)) s with
  | error e => rw [hcall] at h; cases h
  | ok rt =>
    obtain ⟨r, t'⟩ := rt
    rw [hcall] at h
    cases h
    exact (callDriver_spec hcall).2

end

/-- The setter calls change drivers and chips only. -/
theorem configureSensors_frame {c : ConfigIMUJoystick} {s t : Firmware}
    (h : configureSensors c s = .ok t) : SensorsOnly s t := by
  obtain ⟨s₁, h₁, h⟩ := bind_eq_ok_iff.mp h
  obtain ⟨s₂, h₂, h⟩ := bind_eq_ok_iff.mp h
  obtain ⟨s₃, h₃, h₄⟩ := bind_eq_ok_iff.mp h
  exact (onDriver_frame h₁).trans <| (onDriver_frame h₂).trans <|
    (onDriver_frame h₃).trans (onDriver_frame h₄)

/-- The interrupt setup attaches the handler to the pin of IMU 1, and besides that changes drivers
and chips only. -/
theorem setupIMUInterrupts_frame {s t : Firmware} (h : setupIMUInterrupts s = .ok t) :
    SensorsOnly { s with attached := Function.update s.attached .imu1 true } t := by
  obtain ⟨s₁, h₁, h₂⟩ := bind_eq_ok_iff.mp h
  exact (onDriver_frame h₁).trans (onDriver_frame h₂)

@[simp] theorem initFuelGauge_sensorGroup (probe : FuelGaugeProbe) (s : Firmware) :
    (initFuelGauge probe s).2.sensorGroup = s.sensorGroup := by
  rw [initFuelGauge]
  split <;> rfl

@[simp] theorem setDefaultSettings_sensorGroup (uninit : Bytes 15) (s : Firmware) :
    (setDefaultSettings uninit s).sensorGroup = s.sensorGroup := rfl

/-- `loadCalibration` changes no driver and no chip. -/
theorem loadCalibration_sensors (eepromOk : Bool) (s : Firmware) :
    (loadCalibration eepromOk s).2.bus = s.bus ∧
      (loadCalibration eepromOk s).2.sensorGroup = s.sensorGroup := by
  cases eepromOk <;> exact ⟨rfl, rfl⟩

/-- `setupBLEGamepad` changes the gamepad and its configuration at most. -/
theorem setupBLEGamepad_frame {s t : Firmware} (h : setupBLEGamepad s = .ok t) :
    t = { s with ble := t.ble } := by
  obtain ⟨config, -, h⟩ := bind_eq_ok_iff.mp h
  obtain ⟨gamepad, -, h⟩ := bind_eq_ok_iff.mp h
  cases h
  rfl

/-- Settings are found when the EEPROM begins and its image carries the flag. -/
def settingsFound (eepromOk : Bool) (s : Firmware) : Bool :=
  eepromOk && decide (validationFlag s.eeprom.committed)

theorem settingsFound_true_iff {s : Firmware} :
    settingsFound true s = true ↔ validationFlag s.eeprom.committed := by
  simp [settingsFound]

/-- `restoreSettings`, as one condition: where settings are found the sensors are configured with
what is stored, and otherwise nothing is done but to begin the EEPROM. -/
theorem restoreSettings_eq (eepromOk : Bool) (s : Firmware) :
    restoreSettings eepromOk s =
      if settingsFound eepromOk s then
        (configureSensors (storedSettings s.eeprom.committed)
          { s with eeprom := (s.eeprom.begin eepromOk).2 }).map fun t => (true, t)
      else .ok (false, { s with eeprom := (s.eeprom.begin eepromOk).2 }) := by
  cases eepromOk with
  | false => rfl
  | true =>
    have hflag : ((s.eeprom.begin true).2.get settingAddress fun _ => 0 : Bytes 2)
        = s.eeprom.committed.slice settingAddress 2 :=
      EEPROMClass.get_begin_true _ (by decide)
    have hconfig : ((s.eeprom.begin true).2.get (settingAddress + 2) fun _ => 0 : Bytes 15)
        = s.eeprom.committed.slice (settingAddress + 2) 15 :=
      EEPROMClass.get_begin_true _ (by decide)
    have hok : (s.eeprom.begin true).1 = true := rfl
    simp only [restoreSettings, hok, if_true, hflag, hconfig, settingsFound, Bool.true_and]
    by_cases hv : validationFlag s.eeprom.committed
    · rw [if_pos (show Bytes.toWord 16 _ = settingsValidFlag from hv), if_pos (by simpa using hv),
        storedSettings]
      cases configureSensors (.ofBytes (s.eeprom.committed.slice (settingAddress + 2) 15))
        { s with eeprom := (s.eeprom.begin true).2 } <;> rfl
    · rw [if_neg (show ¬ Bytes.toWord 16 _ = settingsValidFlag from hv), if_neg (by simpa using hv)]
      rfl

/-- `restoreSettings` reports whether settings are found; it begins the EEPROM, and besides that
changes drivers and chips only. -/
theorem restoreSettings_frame {eepromOk b : Bool} {s t : Firmware}
    (h : restoreSettings eepromOk s = .ok (b, t)) :
    b = settingsFound eepromOk s ∧
      SensorsOnly { s with eeprom := (s.eeprom.begin eepromOk).2 } t := by
  rw [restoreSettings_eq] at h
  split at h
  · rename_i hfound
    cases hc : configureSensors (storedSettings s.eeprom.committed)
        { s with eeprom := (s.eeprom.begin eepromOk).2 } with
    | error e => rw [hc] at h; cases h
    | ok u =>
      rw [hc] at h
      cases h
      exact ⟨hfound.symm, configureSensors_frame hc⟩
  · rename_i hfound
    cases h
    exact ⟨by simpa using hfound, .refl _⟩

end ImuGamepad
