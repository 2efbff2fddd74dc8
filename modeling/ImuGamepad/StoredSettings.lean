import ImuGamepad.Steps

/-!
# The settings the sensors run with

The stored settings go to drivers that have not been begun and reach no chip. `initIMU` then resets
every chip, and `setupIMUDataRate` writes the defaults. So the sensors run with the defaults after
every setup that finds them, whatever is stored.

The driver `lis3mdl1` is begun twice, at both magnetometers' addresses, and stays bound to the
second one. The first magnetometer keeps what `begin_I2C` installs, which is the default too. The
driver `lis3mdl2` is never begun, and what it reports is no setting at all.

## Main definitions

* `SensorSettings` — data rates and ranges of the four sensors
* `ConfigIMUJoystick.sensorSettings` — what a record asks for
* `chipSettings`, `Drivers.settings` — what the chips run with, and what the drivers report
* `Drivers.Bound` — the devices the drivers are bound to once the sensors are found

## Main results

* `chipSettings_configure` — where the setter calls go
* `setupApp_sensors` — after setup the chips run with the defaults
* `storedSettings_iff` — stored settings are the ones in force exactly when they are the defaults
-/

namespace ImuGamepad

open Runs

/-! ### Settings of the board -/

/-- Data rates and ranges of the four sensors. -/
structure SensorSettings where
  imu1 : LSM6DS3TRC.Settings
  mag1 : LIS3MDL.Settings
  imu2 : LSM6DS3TRC.Settings
  mag2 : LIS3MDL.Settings
  deriving DecidableEq

namespace ConfigIMUJoystick

/-- The settings a record asks for. -/
def sensorSettings (c : ConfigIMUJoystick) : SensorSettings where
  imu1 := ⟨c.imu1AccelGyroRate, c.imu1AccelGyroRate, c.imu1AccelRange, c.imu1GyroRange⟩
  mag1 := ⟨c.imu1MagFreq, c.imu1MagRange⟩
  imu2 := ⟨c.imu2AccelGyroFreq, c.imu2AccelGyroFreq, c.imu2AccelRange, c.imu2GyroRange⟩
  mag2 := ⟨c.imu2MagFreq, c.imu2MagRange⟩

/-- Every sensor byte of a record is a declared enumerator of its type. -/
structure Declared (c : ConfigIMUJoystick) : Prop where
  imu1AccelGyroRate : c.imu1AccelGyroRate ∈ LSM6DS3TRC.dataRates
  imu1MagFreq : c.imu1MagFreq ∈ LIS3MDL.dataRates
  imu2AccelGyroFreq : c.imu2AccelGyroFreq ∈ LSM6DS3TRC.dataRates
  imu2MagFreq : c.imu2MagFreq ∈ LIS3MDL.dataRates
  imu1AccelRange : c.imu1AccelRange ∈ LSM6DS3TRC.accelRanges
  imu1GyroRange : c.imu1GyroRange ∈ LSM6DS3TRC.gyroRanges
  imu1MagRange : c.imu1MagRange ∈ LIS3MDL.ranges
  imu2AccelRange : c.imu2AccelRange ∈ LSM6DS3TRC.accelRanges
  imu2GyroRange : c.imu2GyroRange ∈ LSM6DS3TRC.gyroRanges
  imu2MagRange : c.imu2MagRange ∈ LIS3MDL.ranges

end ConfigIMUJoystick

theorem defaultSettings_declared : defaultSettings.Declared := by
  constructor <;> decide

/-- What the four chips run with. -/
def chipSettings (bus : Bus) : SensorSettings where
  imu1 := LSM6DS3TRC.settingsAt lsm6ds1Addr bus
  mag1 := LIS3MDL.settingsAt lis3mdl1Addr bus
  imu2 := LSM6DS3TRC.settingsAt lsm6ds2Addr bus
  mag2 := LIS3MDL.settingsAt lis3mdl2Addr bus

namespace Drivers

/-- What the four drivers report. -/
def settings (d : Drivers) (bus : Bus) : SensorSettings :=
  ⟨d.lsm6ds1.settings bus, d.lis3mdl1.settings bus, d.lsm6ds2.settings bus,
    d.lis3mdl2.settings bus⟩

/-- The devices the drivers are bound to once `initIMU` has found the sensors. -/
structure Bound (d : Drivers) : Prop where
  lsm6ds1 : d.lsm6ds1.i2cDev = some lsm6ds1Addr
  lsm6ds2 : d.lsm6ds2.i2cDev = some lsm6ds2Addr
  lis3mdl1 : d.lis3mdl1.i2cDev = some lis3mdl2Addr
  lis3mdl2 : d.lis3mdl2.i2cDev = none

/-! ### The setter calls -/

/-- The setter calls of `configureSensors`, on the drivers and the bus alone. -/
def configure (c : ConfigIMUJoystick) (d : Drivers) (bus : Bus) : Drivers × Bus :=
  let (lsm6ds1, bus) :=
    d.lsm6ds1.configure c.imu1AccelGyroRate c.imu1AccelRange c.imu1GyroRange bus
  let (lis3mdl1, bus) := d.lis3mdl1.configure c.imu1MagFreq c.imu1MagRange bus
  let (lsm6ds2, bus) :=
    d.lsm6ds2.configure c.imu2AccelGyroFreq c.imu2AccelRange c.imu2GyroRange bus
  let (lis3mdl2, bus) := d.lis3mdl2.configure c.imu2MagFreq c.imu2MagRange bus
  (⟨lsm6ds1, lsm6ds2, lis3mdl1, lis3mdl2⟩, bus)

theorem Bound.configure {d : Drivers} (hb : d.Bound) (c : ConfigIMUJoystick) (bus : Bus) :
    (d.configure c bus).1.Bound :=
  ⟨hb.lsm6ds1, hb.lsm6ds2, by simp [Drivers.configure, hb.lis3mdl1],
    by simp [Drivers.configure, hb.lis3mdl2]⟩

end Drivers

/-- With valid pointers the setter calls act on the drivers and the bus. -/
theorem configureSensors_of_valid {d : Drivers} {s : Firmware} (hd : s.sensorGroup = d.group)
    (c : ConfigIMUJoystick) :
    configureSensors c s = .ok { s with
      bus := (d.configure c s.bus).2, sensorGroup := (d.configure c s.bus).1.group } := by
  have hfirst : DriverSlot.lsm6ds1.get s.sensorGroup = some d.lsm6ds1 := by rw [hd]; rfl
  rw [configureSensors, onDriver_eq hfirst, hd, ok_bind, onDriver_eq (d := d.lis3mdl1) rfl, ok_bind,
    onDriver_eq (d := d.lsm6ds2) rfl, ok_bind, onDriver_eq (d := d.lis3mdl2) rfl]
  rfl

/-- **Where the setter calls go**, once the sensors are found. Those for the magnetometer of IMU 1
reach the chip of IMU 2, and those for the magnetometer of IMU 2 reach no chip. -/
theorem chipSettings_configure {d : Drivers} (hb : d.Bound) {c : ConfigIMUJoystick}
    (hc : c.Declared) (bus : Bus) :
    chipSettings (d.configure c bus).2
      = { c.sensorSettings with
          mag1 := LIS3MDL.settingsAt lis3mdl1Addr bus
          mag2 := c.sensorSettings.mag1 } := by
  -- the bus after each driver's calls
  let bus₁ := (d.lsm6ds1.configure c.imu1AccelGyroRate c.imu1AccelRange c.imu1GyroRange bus).2
  let bus₂ := (d.lis3mdl1.configure c.imu1MagFreq c.imu1MagRange bus₁).2
  let bus₃ := (d.lsm6ds2.configure c.imu2AccelGyroFreq c.imu2AccelRange c.imu2GyroRange bus₂).2
  have hlast : (d.configure c bus).2 = bus₃ :=
    LIS3MDL.configure_bus_of_unbound hb.lis3mdl2 c.imu2MagFreq c.imu2MagRange bus₃
  have h₁ {a : I2CAddr} (h : a ≠ lsm6ds1Addr) : bus₁ a = bus a :=
    LSM6DS3TRC.configure_bus_of_ne hb.lsm6ds1 h ..
  have h₂ {a : I2CAddr} (h : a ≠ lis3mdl2Addr) : bus₂ a = bus₁ a :=
    LIS3MDL.configure_bus_of_ne hb.lis3mdl1 h ..
  have h₃ {a : I2CAddr} (h : a ≠ lsm6ds2Addr) : bus₃ a = bus₂ a :=
    LSM6DS3TRC.configure_bus_of_ne hb.lsm6ds2 h ..
  have himu1 : LSM6DS3TRC.settingsAt lsm6ds1Addr bus₃ = c.sensorSettings.imu1 := by
    rw [LSM6DS3TRC.settingsAt_congr ((h₃ (by decide)).trans (h₂ (by decide)))]
    exact LSM6DS3TRC.settingsAt_configure hb.lsm6ds1 bus
      (LSM6DS3TRC.dataRates_lt _ hc.imu1AccelGyroRate)
      (LSM6DS3TRC.accelRanges_lt _ hc.imu1AccelRange) (LSM6DS3TRC.gyroRanges_lt _ hc.imu1GyroRange)
  have hmag1 : LIS3MDL.settingsAt lis3mdl1Addr bus₃ = LIS3MDL.settingsAt lis3mdl1Addr bus :=
    LIS3MDL.settingsAt_congr
      ((h₃ (by decide)).trans ((h₂ (by decide)).trans (h₁ (by decide))))
  have himu2 : LSM6DS3TRC.settingsAt lsm6ds2Addr bus₃ = c.sensorSettings.imu2 :=
    LSM6DS3TRC.settingsAt_configure hb.lsm6ds2 bus₂
      (LSM6DS3TRC.dataRates_lt _ hc.imu2AccelGyroFreq)
      (LSM6DS3TRC.accelRanges_lt _ hc.imu2AccelRange) (LSM6DS3TRC.gyroRanges_lt _ hc.imu2GyroRange)
  have hmag2 : LIS3MDL.settingsAt lis3mdl2Addr bus₃ = c.sensorSettings.mag1 := by
    rw [LIS3MDL.settingsAt_congr (h₃ (by decide))]
    exact LIS3MDL.settingsAt_configure hb.lis3mdl1 bus₁ (LIS3MDL.dataRates_lt _ hc.imu1MagFreq)
      (LIS3MDL.ranges_lt _ hc.imu1MagRange)
  rw [hlast, chipSettings, himu1, hmag1, himu2, hmag2]

/-! ### The boot -/

/-- `restoreSettings` binds no driver. -/
theorem restoreSettings_drivers {d : Drivers} {s t : Firmware} {eepromOk b : Bool}
    (hd : s.sensorGroup = d.group) (h : restoreSettings eepromOk s = .ok (b, t)) :
    ∃ d' : Drivers, t.sensorGroup = d'.group ∧ d'.lis3mdl2.i2cDev = d.lis3mdl2.i2cDev := by
  rw [restoreSettings_eq] at h
  split at h
  · rw [configureSensors_of_valid (d := d)
      (s := { s with eeprom := (s.eeprom.begin eepromOk).2 }) hd] at h
    cases h
    exact ⟨_, rfl, by simp [Drivers.configure]⟩
  · cases h
    exact ⟨d, hd, rfl⟩

/-- Where `initIMU` finds the sensors, it binds three drivers, and leaves the first magnetometer
with what `begin_I2C` installs. -/
theorem initIMU_of_found (p : Platform) {d : Drivers} {s : Firmware} {probes : ImuProbes}
    (millis : BitVec 32) (hd : s.sensorGroup = d.group) (hnew : d.lis3mdl2.i2cDev = none)
    (hfound : probes.allFound = true) :
    ∃ (d' : Drivers) (bus : Bus), d'.Bound ∧
      LIS3MDL.settingsAt lis3mdl1Addr bus = defaultSettings.sensorSettings.mag1 ∧
      initIMU p probes millis s
        = .ok (true, beginSampling millis { s with bus := bus, sensorGroup := d'.group }) := by
  simp only [ImuProbes.allFound, ImuProbes.lsm6ds1Found, ImuProbes.lsm6ds2Found,
    Bool.and_eq_true] at hfound
  obtain ⟨hlsm1, hlsm2, hlis1, hlis2⟩ := hfound
  let r₁ := d.lsm6ds1.beginI2C (p.resetRegisters lsm6ds1Addr) probes.lsm6ds1 lsm6ds1Addr s.bus
  let r₂ := d.lsm6ds2.beginI2C (p.resetRegisters lsm6ds2Addr) probes.lsm6ds2 lsm6ds2Addr r₁.2.2
  let r₃ := d.lis3mdl1.beginI2C (p.resetRegisters lis3mdl1Addr) probes.lis3mdl1 lis3mdl1Addr
    r₂.2.2
  let r₄ := r₃.2.1.beginI2C (p.resetRegisters lis3mdl2Addr) probes.lis3mdl2 lis3mdl2Addr r₃.2.2
  refine ⟨⟨r₁.2.1, r₂.2.1, r₄.2.1, d.lis3mdl2⟩, r₄.2.2, ?_, ?_, ?_⟩
  · exact ⟨LSM6DS3TRC.beginI2C_i2cDev .., LSM6DS3TRC.beginI2C_i2cDev ..,
      LIS3MDL.beginI2C_i2cDev .., hnew⟩
  · have hkept : r₄.2.2 lis3mdl1Addr = r₃.2.2 lis3mdl1Addr :=
      LIS3MDL.beginI2C_bus_of_ne _ _ (by decide) _ _
    rw [LIS3MDL.settingsAt_congr hkept]
    exact LIS3MDL.settingsAt_beginI2C _ hlis1 _ _ _
  · let s₁ : Firmware := { s with
      bus := r₁.2.2, sensorGroup := Drivers.group { d with lsm6ds1 := r₁.2.1 } }
    let s₂ : Firmware := { s with
      bus := r₂.2.2, sensorGroup := Drivers.group { d with lsm6ds1 := r₁.2.1, lsm6ds2 := r₂.2.1 } }
    let s₃ : Firmware := { s with
      bus := r₃.2.2, sensorGroup := Drivers.group ⟨r₁.2.1, r₂.2.1, r₃.2.1, d.lis3mdl2⟩ }
    let s₄ : Firmware := { s with
      bus := r₄.2.2, sensorGroup := Drivers.group ⟨r₁.2.1, r₂.2.1, r₄.2.1, d.lis3mdl2⟩ }
    have h₁ : beginLsm6ds p .lsm6ds1 probes.lsm6ds1 lsm6ds1Addr s = .ok (true, s₁) := by
      rw [beginLsm6ds, callDriver_eq (d := d.lsm6ds1) (by rw [hd]; rfl), LSM6DS3TRC.beginI2C_fst,
        hlsm1, hd]
      rfl
    have h₂ : beginLsm6ds p .lsm6ds2 probes.lsm6ds2 lsm6ds2Addr s₁ = .ok (true, s₂) := by
      rw [beginLsm6ds, callDriver_eq (d := d.lsm6ds2) rfl, LSM6DS3TRC.beginI2C_fst, hlsm2]
      rfl
    have h₃ : beginLis3mdl p .lis3mdl1 probes.lis3mdl1 lis3mdl1Addr s₂ = .ok (true, s₃) := by
      rw [beginLis3mdl, callDriver_eq (d := d.lis3mdl1) rfl, LIS3MDL.beginI2C_fst, hlis1]
      rfl
    have h₄ : beginLis3mdl p .lis3mdl1 probes.lis3mdl2 lis3mdl2Addr s₃ = .ok (true, s₄) := by
      rw [beginLis3mdl, callDriver_eq (d := r₃.2.1) rfl, LIS3MDL.beginI2C_fst, hlis2]
      rfl
    simp only [initIMU, h₁, h₂, h₃, h₄, ok_bind, Bool.not_true, Bool.false_eq_true, if_false]
    rfl

/-- The interrupt configuration changes no settings. -/
theorem chipSettings_configInt1 {d : Drivers} (hb : d.Bound) (bus : Bus) :
    chipSettings (d.lsm6ds1.configInt1 false false true bus).2 = chipSettings bus := by
  have hother {a : I2CAddr} (ha : a ≠ lsm6ds1Addr) :
      (d.lsm6ds1.configInt1 false false true bus).2 a = bus a :=
    LSM6DS3TRC.configInt1_bus_of_ne hb.lsm6ds1 ha ..
  have himu1 := LSM6DS3TRC.settings_configInt1 hb.lsm6ds1 false false true bus
  rw [LSM6DS3TRC.settings_eq_settingsAt hb.lsm6ds1, LSM6DS3TRC.settings_eq_settingsAt
    (d := (d.lsm6ds1.configInt1 false false true bus).1) hb.lsm6ds1] at himu1
  rw [chipSettings, chipSettings, himu1, LIS3MDL.settingsAt_congr (hother (by decide)),
    LSM6DS3TRC.settingsAt_congr (hother (by decide)), LIS3MDL.settingsAt_congr (hother (by decide))]

/-- With valid pointers the interrupt setup acts on the bus. -/
theorem setupIMUInterrupts_of_valid {d : Drivers} {s : Firmware} (hd : s.sensorGroup = d.group) :
    setupIMUInterrupts s = .ok { s with
      attached := Function.update s.attached .imu1 true
      bus := (d.lsm6ds1.configInt1 false false true
        (d.lsm6ds1.configInt1 false false true s.bus).2).2 } := by
  rw [setupIMUInterrupts, onDriver_eq (d := d.lsm6ds1) (by simp only [hd]; rfl), ok_bind,
    onDriver_eq (d := d.lsm6ds1) rfl, hd]
  rw [show s = { s with sensorGroup := d.group } by rw [← hd]]
  rfl

/-- The interrupt setup changes no settings and no driver. -/
theorem setupIMUInterrupts_of_bound {d : Drivers} {s t : Firmware} (hd : s.sensorGroup = d.group)
    (hb : d.Bound) (h : setupIMUInterrupts s = .ok t) :
    t.sensorGroup = d.group ∧ chipSettings t.bus = chipSettings s.bus := by
  rw [setupIMUInterrupts_of_valid hd] at h
  cases h
  exact ⟨hd, (chipSettings_configInt1 hb _).trans (chipSettings_configInt1 hb _)⟩

/-! ### After setup -/

/-- **After a setup that finds the sensors they run with the defaults**, and the drivers are bound
to what `initIMU` bound them to. -/
theorem setupApp_sensors {p : Platform} {d : Drivers} {i : SetupInput} {s t : Firmware}
    (hd : s.sensorGroup = d.group) (hnew : d.lis3mdl2.i2cDev = none)
    (hfound : i.probes.allFound = true) (h : setupApp p i s = .ok t) :
    chipSettings t.bus = defaultSettings.sensorSettings ∧
      ∃ d' : Drivers, t.sensorGroup = d'.group ∧ d'.Bound := by
  obtain ⟨⟨restored, s₁⟩, hrestore, h⟩ := bind_eq_ok_iff.mp h
  obtain ⟨d₁, hd₁, hnew₁⟩ := restoreSettings_drivers (d := d) (by simpa using hd) hrestore
  -- the state in which the sensors are probed
  let u : Firmware := edges (i.edges 3) (initFuelGauge i.fuelGauge
    (if restored then edges (i.edges 1) s₁
      else edges (i.edges 2) (setDefaultSettings i.uninit (edges (i.edges 1) s₁)))).2
  have hu : u.sensorGroup = d₁.group := by
    simp only [u, edges_sensorGroup, initFuelGauge_sensorGroup]
    split <;> simp [hd₁]
  obtain ⟨d₂, bus₂, hb, hmag, hinit⟩ := initIMU_of_found p i.millis hu (hnew₁.trans hnew)
    hfound
  change (initIMU p i.probes i.millis u >>= _) = _ at h
  rw [hinit, ok_bind] at h
  simp only [if_true, pure_bind] at h
  obtain ⟨v, hv⟩ : ∃ v, v = edges (i.edges 4) (beginSampling i.millis { u with
      bus := bus₂, sensorGroup := d₂.group }) := ⟨_, rfl⟩
  have hv_bus : v.bus = bus₂ := by rw [hv, edges_bus]; rfl
  have hv_group : v.sensorGroup = d₂.group := by rw [hv, edges_sensorGroup]; rfl
  rw [← hv] at h
  obtain ⟨s₃, hrate, h₃⟩ := bind_eq_ok_iff.mp h
  obtain ⟨s₄, hinterrupts, h₄⟩ := bind_eq_ok_iff.mp h₃
  obtain ⟨s₅, hble, h₅⟩ := bind_eq_ok_iff.mp h₄
  -- the defaults are written through the bound drivers
  rw [setupIMUDataRate, configureSensors_of_valid hv_group, hv_bus] at hrate
  obtain rfl := Except.ok.inj hrate
  have hb' : (d₂.configure defaultSettings bus₂).1.Bound := hb.configure _ _
  obtain ⟨hgroup, hchips⟩ := setupIMUInterrupts_of_bound (edges_sensorGroup _ _) hb' hinterrupts
  have hdefaults : chipSettings s₄.bus = defaultSettings.sensorSettings := by
    rw [hchips, edges_bus, chipSettings_configure hb defaultSettings_declared, hmag]
    rfl
  -- what follows touches no driver and no chip
  obtain ⟨hload_bus, hload_group⟩ := loadCalibration_sensors i.calibrationOk (edges (i.edges 6) s₄)
  have hlast : t.bus = s₄.bus ∧ t.sensorGroup = s₄.sensorGroup := by
    rw [← Except.ok.inj h₅]
    simp only [updateOverallStatusData, edges_bus, edges_sensorGroup]
    rw [setupBLEGamepad_frame hble]
    simp only [edges_bus, edges_sensorGroup, hload_bus, hload_group, and_self]
  rw [hlast.1, hlast.2]
  exact ⟨hdefaults, _, hgroup, hb'⟩

/-- **Stored settings are the ones in force exactly when they are the defaults.** So it is for the
chips on the bus. The drivers never report them all, since the second magnetometer's has no chip,
and what it reads instead of a data rate is no declared one. -/
theorem storedSettings_iff {p : Platform} {d : Drivers} {ble : Ble} {bus : Bus} {img : Image}
    {i : SetupInput} {t : Firmware} (hnew : d.lis3mdl2.i2cDev = none)
    (hdeclared : (storedSettings img).Declared) (hfound : i.probes.allFound = true)
    (h : setupApp p i (.powerOn d.group ble bus img) = .ok t) :
    (chipSettings t.bus = (storedSettings img).sensorSettings ↔
        (storedSettings img).sensorSettings = defaultSettings.sensorSettings) ∧
      ∃ d' : Drivers, t.sensorGroup = d'.group ∧
        d'.settings t.bus ≠ (storedSettings img).sensorSettings := by
  obtain ⟨hchips, d', hgroup, hb⟩ := setupApp_sensors rfl hnew hfound h
  refine ⟨by rw [hchips, eq_comm], d', hgroup, fun hall => ?_⟩
  have hmag2 : d'.lis3mdl2.settings t.bus = (storedSettings img).sensorSettings.mag2 :=
    congrArg SensorSettings.mag2 hall
  rw [LIS3MDL.settings_of_unbound hb.lis3mdl2] at hmag2
  have hrate : (0b1111 : Byte) = (storedSettings img).imu2MagFreq :=
    congrArg LIS3MDL.Settings.dataRate hmag2
  have hundeclared : (0b1111 : Byte) ∉ LIS3MDL.dataRates := by decide
  exact hundeclared (hrate ▸ hdeclared.imu2MagFreq)

/-- Settings with a faster accelerometer for IMU 1. -/
def fastSettings : ConfigIMUJoystick :=
  { defaultSettings with imu1AccelGyroRate := LSM6DS3TRC.rate104Hz }

theorem fastSettings_declared : fastSettings.Declared := by
  constructor <;> decide

/-- An EEPROM that holds them. -/
def fastImage : Image := withSettings fastSettings (fun _ => 0) fun _ => 0

theorem storedSettings_fastImage : storedSettings fastImage = fastSettings :=
  storedSettings_withSettings ..

theorem storedSettings_iff_bench :
    ∃ t, setupApp .bench .bench (.bench fastImage) = .ok t ∧
      (chipSettings t.bus = (storedSettings fastImage).sensorSettings ↔
        (storedSettings fastImage).sensorSettings = defaultSettings.sensorSettings) ∧
      ∃ d' : Drivers, t.sensorGroup = d'.group ∧
        d'.settings t.bus ≠ (storedSettings fastImage).sensorSettings := by
  obtain ⟨t, ht, -⟩ := setupApp_ok_of_valid .bench .bench (Firmware.bench_pointersValid fastImage)
  refine ⟨t, ht, storedSettings_iff rfl ?_ rfl ht⟩
  rw [storedSettings_fastImage]
  exact fastSettings_declared

/-- With 104 Hz stored, the chip of IMU 1 runs at 12.5 Hz. -/
theorem setupApp_drops_fastSettings :
    validationFlag fastImage ∧ (storedSettings fastImage).Declared ∧
      ∃ t, setupApp .bench .bench (.bench fastImage) = .ok t ∧
        (chipSettings t.bus).imu1.accelDataRate = LSM6DS3TRC.rate12_5Hz ∧
        (storedSettings fastImage).sensorSettings.imu1.accelDataRate = LSM6DS3TRC.rate104Hz ∧
        chipSettings t.bus ≠ (storedSettings fastImage).sensorSettings := by
  obtain ⟨t, ht, -⟩ := setupApp_ok_of_valid .bench .bench (Firmware.bench_pointersValid fastImage)
  obtain ⟨hchips, -⟩ := setupApp_sensors (d := .new) rfl rfl rfl ht
  rw [storedSettings_fastImage]
  refine ⟨validationFlag_withSettings .., fastSettings_declared, t, ht, ?_, rfl, ?_⟩
  · rw [hchips]
    rfl
  · rw [hchips]
    decide

end ImuGamepad
