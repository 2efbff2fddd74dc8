import ImuGamepad.FunctionDev
import ImuGamepad.Library.InOrder

/-!
# Initialisation, sampling and publication

The functions of `imu.cpp`. `readDataIMU` is split where the source has its rate gate: before it
the sensors are read, calibrated and the calibration saved; after it the frames, the filters and
the angles are updated (`publish`).

## Main definitions

* `initIMU` — probe the sensors, begin the filters
* `setupIMUDataRate`
* `ImuInput`, `collect` — what one call reads, and the calibrated samples it makes of it
* `gateRejects` — the rate gate
* `publish` — what a call that passes the gate does
* `readDataIMU`, `senDataBLE`
* `ImuProbe`, `beginChip` — the four probes as a family

## Main results

* `initIMU_eq_inOrder` — `initIMU` as a series of probes
* `initIMU_spec` — what `initIMU` reports and leaves
* `readDataIMU_eq_of_valid` — a call with valid pointers, in one equation
-/

namespace ImuGamepad

open Conversion Runs

/-! ### Initialisation -/

/-- What the four probes of `initIMU` find. The last two go to the two magnetometers' addresses,
both of them through the driver `lis3mdl1`. -/
structure ImuProbes where
  lsm6ds1 : Probe
  lsm6ds2 : Probe
  lis3mdl1 : Probe
  lis3mdl2 : Probe
  deriving DecidableEq

namespace ImuProbes

def lsm6ds1Found (probes : ImuProbes) : Bool := LSM6DS3TRC.found probes.lsm6ds1

def lsm6ds2Found (probes : ImuProbes) : Bool := LSM6DS3TRC.found probes.lsm6ds2

/-- Every probe finds its chip. -/
def allFound (probes : ImuProbes) : Bool :=
  probes.lsm6ds1Found && (probes.lsm6ds2Found &&
    (LIS3MDL.found probes.lis3mdl1 && LIS3MDL.found probes.lis3mdl2))

end ImuProbes

def lsm6ds1Addr : I2CAddr := 0x6A
def lsm6ds2Addr : I2CAddr := 0x6B
def lis3mdl1Addr : I2CAddr := 0x1E
def lis3mdl2Addr : I2CAddr := 0x1C

/-- `begin_I2C(addr)`, through a pointer to an accelerometer and gyroscope. -/
def beginLsm6ds (p : Platform) (slot : DriverSlot LSM6DS3TRC) (probe : Probe) (addr : I2CAddr)
    (s : Firmware) : Except Fault (Bool × Firmware) :=
  callDriver slot (LSM6DS3TRC.beginI2C (p.resetRegisters addr) probe addr) s

/-- `begin_I2C(addr)`, through a pointer to a magnetometer. -/
def beginLis3mdl (p : Platform) (slot : DriverSlot LIS3MDL) (probe : Probe) (addr : I2CAddr)
    (s : Firmware) : Except Fault (Bool × Firmware) :=
  callDriver slot (LIS3MDL.beginI2C (p.resetRegisters addr) probe addr) s

/-- The end of a successful `initIMU`: begin the filters, start the clock of the rate gate. -/
def beginSampling (millis : BitVec 32) (s : Firmware) : Firmware :=
  { s with
    fillsion1 := s.fillsion1 ++ [.begin filterUpdateRateHz]
    fillsion2 := s.fillsion2 ++ [.begin filterUpdateRateHz]
    timestamp := millis
    imusAvailable := true }

/-- `initIMU`. The status record it reports failures in is a local variable, so that the global
record of the same name is never written. -/
def initIMU (p : Platform) (probes : ImuProbes) (millis : BitVec 32) (s : Firmware) :
    Except Fault (Bool × Firmware) := do
  let (ok, s) ← beginLsm6ds p .lsm6ds1 probes.lsm6ds1 lsm6ds1Addr s
  if !ok then return (false, s)
  let (ok, s) ← beginLsm6ds p .lsm6ds2 probes.lsm6ds2 lsm6ds2Addr s
  if !ok then return (false, s)
  let (ok, s) ← beginLis3mdl p .lis3mdl1 probes.lis3mdl1 lis3mdl1Addr s
  if !ok then return (false, s)
  -- the second magnetometer is looked for through the first one's driver
  let (ok, s) ← beginLis3mdl p .lis3mdl1 probes.lis3mdl2 lis3mdl2Addr s
  if !ok then return (false, s)
  return (true, beginSampling millis s)

/-- `setupIMUDataRate`: the setter calls with the default settings. -/
def setupIMUDataRate (s : Firmware) : Except Fault Firmware := configureSensors defaultSettings s

/-! ### Sampling -/

/-- What one `readDataIMU` reads: a transfer of every sensor, and `millis()` at the gate and after
it. -/
structure ImuInput where
  lsm6ds1 : LSM6DS3TRC → LSM6DSReading
  lsm6ds2 : LSM6DS3TRC → LSM6DSReading
  lis3mdl1 : LIS3MDL → Vec3
  lis3mdl2 : LIS3MDL → Vec3
  gateMillis : BitVec 32
  storeMillis : BitVec 32

/-- One sample of an IMU: m/s², rad/s, µT. -/
structure ImuSample where
  accel : Vec3
  gyro : Vec3
  mag : Vec3
  deriving DecidableEq

/-- Read the four sensors and calibrate the six events. The temperature pointer is null. -/
def collect (nw : NullWrite) (i : ImuInput) (s : Firmware) :
    Except Fault (ImuSample × ImuSample) := do
  let lsm6ds1 ← deref s.sensorGroup.lsm6ds1
  let (accel1, gyro1) ← lsm6ds1.getEvent nw i.lsm6ds1 .addr .addr .null
  let lsm6ds2 ← deref s.sensorGroup.lsm6ds2
  let (accel2, gyro2) ← lsm6ds2.getEvent nw i.lsm6ds2 .addr .addr .null
  let lis3mdl1 ← deref s.sensorGroup.lis3mdl1
  let mag1 ← lis3mdl1.getEvent nw i.lis3mdl1 .addr
  let lis3mdl2 ← deref s.sensorGroup.lis3mdl2
  let mag2 ← lis3mdl2.getEvent nw i.lis3mdl2 .addr
  let calibrated (event : SensorsEvent) : Vec3 := (s.cal.calibrate event).2.data
  return (⟨calibrated accel1, calibrated gyro1, calibrated mag1⟩,
    ⟨calibrated accel2, calibrated gyro2, calibrated mag2⟩)

/-- The rate gate: too little time since the last frame. The subtraction is 32 bits wide, the
comparison is made in floating point. -/
def gateRejects (gateMillis timestamp : BitVec 32) : Prop :=
  ((gateMillis - timestamp).toNat : ℚ) < 1000 / filterUpdateRateHz

instance (gateMillis timestamp : BitVec 32) : Decidable (gateRejects gateMillis timestamp) :=
  inferInstanceAs (Decidable (_ < _))

/-! ### Publication -/

/-- The nine assignments to the fields of `imu1DataRawPacked`. -/
def assignFrame1 (p : Platform) (sample : ImuSample) (raw : Bytes 18) : Bytes 18 :=
  let conv := toInt16 p.undefinedInt16
  let raw := raw.setInt16 0 (conv sample.accel.x)
  let raw := raw.setInt16 2 (conv sample.accel.y)
  let raw := raw.setInt16 4 (conv sample.accel.z)
  let raw := raw.setInt16 6 (conv sample.gyro.x)
  let raw := raw.setInt16 8 (conv sample.gyro.y)
  let raw := raw.setInt16 10 (conv sample.gyro.z)
  let raw := raw.setInt16 12 (conv sample.mag.x)
  let raw := raw.setInt16 14 (conv sample.mag.y)
  raw.setInt16 16 (conv sample.mag.z)

/-- The nine assignments to the fields of `imu2DataRawPacked`. The last three all go to `MagX`. -/
def assignFrame2 (p : Platform) (sample : ImuSample) (raw : Bytes 18) : Bytes 18 :=
  let conv := toInt16 p.undefinedInt16
  let raw := raw.setInt16 0 (conv sample.accel.x)
  let raw := raw.setInt16 2 (conv sample.accel.y)
  let raw := raw.setInt16 4 (conv sample.accel.z)
  let raw := raw.setInt16 6 (conv sample.gyro.x)
  let raw := raw.setInt16 8 (conv sample.gyro.y)
  let raw := raw.setInt16 10 (conv sample.gyro.z)
  let raw := raw.setInt16 12 (conv sample.mag.x)
  let raw := raw.setInt16 12 (conv sample.mag.y)
  raw.setInt16 12 (conv sample.mag.z)

/-- The call `update` on a filter, with the nine fields of a frame in their order. -/
def updateFrom (raw : Bytes 18) : FusionCall :=
  let field (a : ℕ) : ℚ := (raw.getInt16 a).toInt
  .update (field 0) (field 2) (field 4) (field 6) (field 8) (field 10) (field 12) (field 14)
    (field 16)

/-- The assignments to `EulerRoll`, `EulerPitch` and `EulerYaw`. -/
def assignEuler (p : Platform) (filter : FusionFilter) (record : Bytes 13) : Bytes 13 :=
  let record := record.splice 8 (Bytes.ofWord 4 (p.getRoll filter))
  let record := record.splice 4 (Bytes.ofWord 4 (p.getPitch filter))
  record.splice 0 (Bytes.ofWord 4 (p.getYaw filter))

/-- What `readDataIMU` does once it has passed the gate. -/
def publish (p : Platform) (sample1 sample2 : ImuSample) (storeMillis : BitVec 32)
    (s : Firmware) : Firmware :=
  let s := { s with timestamp := storeMillis }
  let s := { s with
    imu1DataRawPacked := assignFrame1 p sample1 s.imu1DataRawPacked
    imu2DataRawPacked := assignFrame2 p sample2 s.imu2DataRawPacked }
  let s := { s with
    fillsion1 := s.fillsion1 ++ [updateFrom s.imu1DataRawPacked]
    fillsion2 := s.fillsion2 ++ [updateFrom s.imu2DataRawPacked] }
  { s with
    imu1EulerCalibration := assignEuler p s.fillsion1 s.imu1EulerCalibration
    imu2EulerCalibration := assignEuler p s.fillsion2 s.imu2EulerCalibration }

section

variable (p : Platform) (sample1 sample2 : ImuSample) (storeMillis : BitVec 32) (s : Firmware)

@[simp] theorem publish_timestamp :
    (publish p sample1 sample2 storeMillis s).timestamp = storeMillis := rfl

@[simp] theorem publish_imu1DataRawPacked :
    (publish p sample1 sample2 storeMillis s).imu1DataRawPacked
      = assignFrame1 p sample1 s.imu1DataRawPacked := rfl

@[simp] theorem publish_imu2DataRawPacked :
    (publish p sample1 sample2 storeMillis s).imu2DataRawPacked
      = assignFrame2 p sample2 s.imu2DataRawPacked := rfl

@[simp] theorem publish_fillsion1 :
    (publish p sample1 sample2 storeMillis s).fillsion1
      = s.fillsion1 ++ [updateFrom (assignFrame1 p sample1 s.imu1DataRawPacked)] := rfl

@[simp] theorem publish_fillsion2 :
    (publish p sample1 sample2 storeMillis s).fillsion2
      = s.fillsion2 ++ [updateFrom (assignFrame2 p sample2 s.imu2DataRawPacked)] := rfl

@[simp] theorem publish_imu1EulerCalibration :
    (publish p sample1 sample2 storeMillis s).imu1EulerCalibration
      = assignEuler p (publish p sample1 sample2 storeMillis s).fillsion1
          s.imu1EulerCalibration := rfl

@[simp] theorem publish_imu2EulerCalibration :
    (publish p sample1 sample2 storeMillis s).imu2EulerCalibration
      = assignEuler p (publish p sample1 sample2 storeMillis s).fillsion2
          s.imu2EulerCalibration := rfl

end

/-- `readDataIMU`. -/
def readDataIMU (p : Platform) (nw : NullWrite) (i : ImuInput) (s : Firmware) :
    Except Fault Firmware := do
  if s.imusAvailable then
    let (sample1, sample2) ← collect nw i s
    let s := { s with eeprom := s.cal.saveCalibration s.eeprom }
    if gateRejects i.gateMillis s.timestamp then return s
    return publish p sample1 sample2 i.storeMillis s
  else return s

/-- `senDataBLE`, with what `isConnected` answers. -/
def senDataBLE (connected : Bool) (s : Firmware) : Except Fault Firmware := do
  let g ← deref s.ble.bleGamepad
  if connected then
    let g := g.setterCharacterData .IMU1RawData (List.ofFn s.imu1DataRawPacked) 18
    let g := g.setterCharacterData .IMU2RawData (List.ofFn s.imu2DataRawPacked) 18
    let g := g.setterCharacterData .IMU1FuseDataCaliStatus (List.ofFn s.imu1EulerCalibration) 13
    let g := g.setterCharacterData .IMU2FuseDataCaliStatus (List.ofFn s.imu2EulerCalibration) 13
    return { s with ble := { s.ble with bleGamepad := some g } }
  else return s

/-! ### What `initIMU` leaves -/

/-- The four probes of `initIMU`, named after the chips they look for. -/
inductive ImuProbe
  | lsm6ds1
  | lsm6ds2
  | lis3mdl1
  | lis3mdl2
  deriving DecidableEq

/-- The order in which they are made. -/
def ImuProbe.order : List ImuProbe := [.lsm6ds1, .lsm6ds2, .lis3mdl1, .lis3mdl2]

/-- The probe finds its chip. -/
def ImuProbes.found (probes : ImuProbes) : ImuProbe → Bool
  | .lsm6ds1 => probes.lsm6ds1Found
  | .lsm6ds2 => probes.lsm6ds2Found
  | .lis3mdl1 => LIS3MDL.found probes.lis3mdl1
  | .lis3mdl2 => LIS3MDL.found probes.lis3mdl2

theorem ImuProbes.all_found (probes : ImuProbes) :
    ImuProbe.order.all probes.found = probes.allFound := by
  simp [ImuProbe.order, found, allFound]

/-- The call of `begin_I2C` that a probe makes. -/
def beginChip (p : Platform) (probes : ImuProbes) :
    ImuProbe → Firmware → Except Fault (Bool × Firmware)
  | .lsm6ds1 => beginLsm6ds p .lsm6ds1 probes.lsm6ds1 lsm6ds1Addr
  | .lsm6ds2 => beginLsm6ds p .lsm6ds2 probes.lsm6ds2 lsm6ds2Addr
  | .lis3mdl1 => beginLis3mdl p .lis3mdl1 probes.lis3mdl1 lis3mdl1Addr
  | .lis3mdl2 => beginLis3mdl p .lis3mdl1 probes.lis3mdl2 lis3mdl2Addr

/-- The end of `initIMU`, after the probes. -/
def endProbes (millis : BitVec 32) (r : Bool × Firmware) : Bool × Firmware :=
  (r.1, if r.1 then beginSampling millis r.2 else r.2)

/-- `initIMU` makes the probes in order, up to the first that fails. -/
theorem initIMU_eq_inOrder (p : Platform) (probes : ImuProbes) (millis : BitVec 32) (s : Firmware) :
    initIMU p probes millis s
      = endProbes millis <$> inOrder (beginChip p probes) ImuProbe.order s := by
  simp only [initIMU, ImuProbe.order, inOrder, beginChip, map_bind]
  refine bind_congr ?_
  rintro ⟨ok₁, s₁⟩
  cases ok₁ with
  | false => rfl
  | true =>
  simp only [Bool.not_true, Bool.false_eq_true, if_false, map_bind]
  refine bind_congr ?_
  rintro ⟨ok₂, s₂⟩
  cases ok₂ with
  | false => rfl
  | true =>
  simp only [Bool.not_true, Bool.false_eq_true, if_false, map_bind]
  refine bind_congr ?_
  rintro ⟨ok₃, s₃⟩
  cases ok₃ with
  | false => rfl
  | true =>
  simp only [Bool.not_true, Bool.false_eq_true, if_false, map_bind]
  refine bind_congr ?_
  rintro ⟨ok₄, s₄⟩
  cases ok₄ <;> rfl

section

variable {p : Platform} {probe : Probe} {addr : I2CAddr} {s t : Firmware} {b : Bool}

theorem beginLsm6ds_spec {slot : DriverSlot LSM6DS3TRC}
    (h : beginLsm6ds p slot probe addr s = .ok (b, t)) :
    b = LSM6DS3TRC.found probe ∧ SensorsOnly s t := by
  obtain ⟨⟨d, hd⟩, hframe⟩ := callDriver_spec h
  exact ⟨hd.trans (LSM6DS3TRC.beginI2C_fst ..), hframe⟩

/-- `begin_I2C` binds the driver behind its pointer, whatever it finds. -/
theorem beginLsm6ds_binds {slot : DriverSlot LSM6DS3TRC}
    (h : beginLsm6ds p slot probe addr s = .ok (b, t)) :
    ∃ d : LSM6DS3TRC, d.i2cDev = some addr ∧ t.sensorGroup = slot.set s.sensorGroup d := by
  obtain ⟨d, hd⟩ := callDriver_sensorGroup h
  exact ⟨_, LSM6DS3TRC.beginI2C_i2cDev .., hd⟩

theorem beginLis3mdl_spec {slot : DriverSlot LIS3MDL}
    (h : beginLis3mdl p slot probe addr s = .ok (b, t)) :
    b = LIS3MDL.found probe ∧ SensorsOnly s t := by
  obtain ⟨⟨d, hd⟩, hframe⟩ := callDriver_spec h
  exact ⟨hd.trans (LIS3MDL.beginI2C_fst ..), hframe⟩

theorem beginLis3mdl_binds {slot : DriverSlot LIS3MDL}
    (h : beginLis3mdl p slot probe addr s = .ok (b, t)) :
    ∃ d : LIS3MDL, d.i2cDev = some addr ∧ t.sensorGroup = slot.set s.sensorGroup d := by
  obtain ⟨d, hd⟩ := callDriver_sensorGroup h
  exact ⟨_, LIS3MDL.beginI2C_i2cDev .., hd⟩

end

/-- A probe reports whether it finds its chip, and changes drivers and chips only. -/
theorem beginChip_spec {p : Platform} {probes : ImuProbes} {chip : ImuProbe} {s t : Firmware}
    {b : Bool} (h : beginChip p probes chip s = .ok (b, t)) :
    b = probes.found chip ∧ SensorsOnly s t := by
  cases chip with
  | lsm6ds1 => exact beginLsm6ds_spec h
  | lsm6ds2 => exact beginLsm6ds_spec h
  | lis3mdl1 => exact beginLis3mdl_spec h
  | lis3mdl2 => exact beginLis3mdl_spec h

theorem initIMU_eq_ok_iff {p : Platform} {probes : ImuProbes} {millis : BitVec 32}
    {s t : Firmware} {b : Bool} :
    initIMU p probes millis s = .ok (b, t) ↔
      ∃ u, inOrder (beginChip p probes) ImuProbe.order s = .ok (b, u) ∧
        t = if b then beginSampling millis u else u := by
  rw [initIMU_eq_inOrder]
  cases inOrder (beginChip p probes) ImuProbe.order s with
  | error e => simp
  | ok r =>
    obtain ⟨ok, u⟩ := r
    constructor
    · rintro ⟨⟩
      exact ⟨u, rfl, rfl⟩
    · rintro ⟨u', ⟨⟩, rfl⟩
      rfl

/-- **What `initIMU` reports and leaves.** It succeeds exactly when all four probes do. It changes
drivers and chips, and after a success has begun sampling; nothing else. -/
theorem initIMU_spec {p : Platform} {probes : ImuProbes} {millis : BitVec 32} {s t : Firmware}
    {b : Bool} (h : initIMU p probes millis s = .ok (b, t)) :
    b = probes.allFound ∧
      ∃ u, SensorsOnly s u ∧ t = if probes.allFound then beginSampling millis u else u := by
  obtain ⟨u, hprobes, rfl⟩ := initIMU_eq_ok_iff.mp h
  have hfound : b = probes.allFound := by
    rw [← probes.all_found]
    refine inOrder_result hprobes ?_
    intro chip _ v ok w hcall
    exact (beginChip_spec hcall).1
  have hframe : SensorsOnly s u := by
    refine inOrder_invariant (I := SensorsOnly s) hprobes (.refl s) ?_
    intro chip _ v ok w hv hcall
    exact hv.trans (beginChip_spec hcall).2
  exact ⟨hfound, u, hframe, by rw [hfound]⟩

/-! ### Valid pointers -/

/-- The calibrated events of one IMU. -/
def calibratedSample (cal : SensorCalibration) (r : LSM6DSReading) (gauss : Vec3) : ImuSample where
  accel := (cal.calibrate ⟨.accelerometer, r.acc⟩).2.data
  gyro := (cal.calibrate ⟨.gyroscope, r.gyro⟩).2.data
  mag := (cal.calibrate ⟨.magneticField, gauss.x * 100, gauss.y * 100, gauss.z * 100⟩).2.data

/-- The calibrated sample of IMU 1 that a call makes of its input. -/
def sample1 (i : ImuInput) (d : Drivers) (cal : SensorCalibration) : ImuSample :=
  calibratedSample cal (i.lsm6ds1 d.lsm6ds1) (i.lis3mdl1 d.lis3mdl1)

/-- The calibrated sample of IMU 2 that a call makes of its input. -/
def sample2 (i : ImuInput) (d : Drivers) (cal : SensorCalibration) : ImuSample :=
  calibratedSample cal (i.lsm6ds2 d.lsm6ds2) (i.lis3mdl2 d.lis3mdl2)

/-- The input that makes a call read two given samples. -/
def ImuInput.ofSamples (m₁ m₂ : ImuSample) (gateMillis storeMillis : BitVec 32) : ImuInput where
  lsm6ds1 _ := ⟨m₁.accel, m₁.gyro, 0⟩
  lsm6ds2 _ := ⟨m₂.accel, m₂.gyro, 0⟩
  lis3mdl1 _ := ⟨m₁.mag.x / 100, m₁.mag.y / 100, m₁.mag.z / 100⟩
  lis3mdl2 _ := ⟨m₂.mag.x / 100, m₂.mag.y / 100, m₂.mag.z / 100⟩
  gateMillis := gateMillis
  storeMillis := storeMillis

section

variable (m₁ m₂ : ImuSample) (gateMillis storeMillis : BitVec 32) (d : Drivers)

/-- Every pair of samples is the pair of calibrated samples of some input: this one's first, -/
theorem sample1_ofSamples : sample1 (.ofSamples m₁ m₂ gateMillis storeMillis) d .default = m₁ := by
  simp [sample1, calibratedSample, ImuInput.ofSamples, SensorCalibration.calibrate_default]

/-- and this one's second. -/
theorem sample2_ofSamples : sample2 (.ofSamples m₁ m₂ gateMillis storeMillis) d .default = m₂ := by
  simp [sample2, calibratedSample, ImuInput.ofSamples, SensorCalibration.calibrate_default]

end

/-- With valid pointers, and drivers that deliver their samples, every call reads two samples. -/
theorem collect_eq_of_valid {d : Drivers} {s : Firmware} (hd : s.sensorGroup = d.group)
    (i : ImuInput) : collect .ignored i s = .ok (sample1 i d s.cal, sample2 i d s.cal) := by
  simp [collect, hd, Drivers.group, sample1, sample2, calibratedSample, bind, Except.bind, pure,
    Except.pure]

/-- **A call with valid pointers, in one equation.** -/
theorem readDataIMU_eq_of_valid (p : Platform) {d : Drivers} {s : Firmware}
    (hd : s.sensorGroup = d.group) (i : ImuInput) :
    readDataIMU p .ignored i s = .ok
      (if s.imusAvailable then
        let saved := { s with eeprom := s.cal.saveCalibration s.eeprom }
        if gateRejects i.gateMillis s.timestamp then saved
        else publish p (sample1 i d s.cal) (sample2 i d s.cal) i.storeMillis saved
      else s) := by
  simp only [readDataIMU, collect_eq_of_valid hd]
  cases s.imusAvailable with
  | false => rfl
  | true =>
    simp only [if_true]
    by_cases hg : gateRejects i.gateMillis s.timestamp
    · rw [if_pos hg]; simp [bind, Except.bind, hg, pure, Except.pure]
    · rw [if_neg hg]; simp [bind, Except.bind, hg, pure, Except.pure]

/-- The state once the calibration is saved. -/
abbrev Firmware.saved (s : Firmware) : Firmware :=
  { s with eeprom := s.cal.saveCalibration s.eeprom }

/-- A call that passes the gate publishes its samples. -/
theorem readDataIMU_of_passes (p : Platform) {d : Drivers} {s : Firmware} {i : ImuInput}
    (hd : s.sensorGroup = d.group) (havail : s.imusAvailable = true)
    (hgate : ¬ gateRejects i.gateMillis s.timestamp) :
    readDataIMU p .ignored i s
      = .ok (publish p (sample1 i d s.cal) (sample2 i d s.cal) i.storeMillis s.saved) := by
  rw [readDataIMU_eq_of_valid p hd, if_pos havail, if_neg hgate]

/-- A call that does not pass the gate saves the calibration and returns. -/
theorem readDataIMU_of_rejects (p : Platform) {d : Drivers} {s : Firmware} {i : ImuInput}
    (hd : s.sensorGroup = d.group) (havail : s.imusAvailable = true)
    (hgate : gateRejects i.gateMillis s.timestamp) :
    readDataIMU p .ignored i s = .ok s.saved := by
  rw [readDataIMU_eq_of_valid p hd, if_pos havail, if_pos hgate]

end ImuGamepad
