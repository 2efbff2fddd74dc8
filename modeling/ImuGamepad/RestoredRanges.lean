import ImuGamepad.StoredSettings

/-!
# The ranges a restore leaves behind

`restoreSettings` looks at the flag of the settings record and at nothing else of it. The ten bytes
behind the flag go to the drivers as they are. A driver buffers its range as it is too, and scales
its samples by it, while the chip gets the low bits. Where a range is no enumerator of its type the
scale table does not know it, and the chip runs with another.

## Main definitions

* `LSM6DS3TRC.RangesInForce`, `LIS3MDL.RangeInForce`, `Drivers.RangesInForce` — the ranges buffered
  for scaling are known ones, and the ones the setters write
* `AppliesOnlyWellFormed` — what a restore would do if it looked at the bytes

## Main results

* `Drivers.rangesInForce_configure_iff` — the setter calls leave such ranges exactly if they are
  given enumerators
* `restoreSettings_trusts_flag` — what a restore does instead
-/

namespace ImuGamepad

/-! ### Ranges in force -/

namespace LSM6DS3TRC

/-- The buffered ranges are known to the scale tables, and are what a setter that is given them
leaves in the chip. -/
structure RangesInForce (d : LSM6DS3TRC) : Prop where
  accelKnown : d.accelRangeBuffered ∈ accelRanges
  gyroKnown : d.gyroRangeBuffered ∈ gyroRanges
  accelWritten (a : I2CAddr) (bus : Bus) :
    let (d', bus') := ({ d with i2cDev := some a }).setAccelRange d.accelRangeBuffered bus
    d'.getAccelRange bus' = d.accelRangeBuffered
  gyroWritten (a : I2CAddr) (bus : Bus) :
    let (d', bus') := ({ d with i2cDev := some a }).setGyroRange d.gyroRangeBuffered bus
    d'.getGyroRange bus' = d.gyroRangeBuffered

theorem rangesInForce_iff {d : LSM6DS3TRC} :
    d.RangesInForce ↔ d.accelRangeBuffered ∈ accelRanges ∧ d.gyroRangeBuffered ∈ gyroRanges := by
  constructor
  · intro h
    exact ⟨h.accelKnown, h.gyroKnown⟩
  · rintro ⟨ha, hg⟩
    exact ⟨ha, hg, fun _ bus => bus.readBits_writeBits_self (by omega) (accelRanges_lt _ ha),
      fun _ bus => bus.readBits_writeBits_self (by omega) (gyroRanges_lt _ hg)⟩

end LSM6DS3TRC

namespace LIS3MDL

/-- The buffered range is known to the scale table, and is what a setter that is given it leaves in
the chip. -/
structure RangeInForce (d : LIS3MDL) : Prop where
  known : d.rangeBuffered ∈ ranges
  written (a : I2CAddr) (bus : Bus) :
    let (d', bus') := ({ d with i2cDev := some a }).setRange d.rangeBuffered bus
    (d'.getRange bus').1 = d.rangeBuffered

theorem rangeInForce_iff {d : LIS3MDL} : d.RangeInForce ↔ d.rangeBuffered ∈ ranges := by
  constructor
  · intro h
    exact h.known
  · intro h
    exact ⟨h, fun _ bus => bus.readBits_writeBits_self (by omega) (ranges_lt _ h)⟩

end LIS3MDL

/-- Every range buffered for scaling is known, and written to its chip. -/
structure Drivers.RangesInForce (d : Drivers) : Prop where
  lsm6ds1 : d.lsm6ds1.RangesInForce
  lsm6ds2 : d.lsm6ds2.RangesInForce
  lis3mdl1 : d.lis3mdl1.RangeInForce
  lis3mdl2 : d.lis3mdl2.RangeInForce

/-- Every range of a record is a declared enumerator of its type. -/
structure ConfigIMUJoystick.RangesDeclared (c : ConfigIMUJoystick) : Prop where
  imu1AccelRange : c.imu1AccelRange ∈ LSM6DS3TRC.accelRanges
  imu1GyroRange : c.imu1GyroRange ∈ LSM6DS3TRC.gyroRanges
  imu1MagRange : c.imu1MagRange ∈ LIS3MDL.ranges
  imu2AccelRange : c.imu2AccelRange ∈ LSM6DS3TRC.accelRanges
  imu2GyroRange : c.imu2GyroRange ∈ LSM6DS3TRC.gyroRanges
  imu2MagRange : c.imu2MagRange ∈ LIS3MDL.ranges

theorem ConfigIMUJoystick.Declared.rangesDeclared {c : ConfigIMUJoystick} (h : c.Declared) :
    c.RangesDeclared :=
  ⟨h.imu1AccelRange, h.imu1GyroRange, h.imu1MagRange, h.imu2AccelRange, h.imu2GyroRange,
    h.imu2MagRange⟩

/-- **The setter calls leave ranges that are in force exactly if they are given enumerators.** -/
theorem Drivers.rangesInForce_configure_iff {d : Drivers} {c : ConfigIMUJoystick} {bus : Bus} :
    (d.configure c bus).1.RangesInForce ↔ c.RangesDeclared := by
  have hlsm1 : (d.configure c bus).1.lsm6ds1.RangesInForce ↔
      c.imu1AccelRange ∈ LSM6DS3TRC.accelRanges ∧ c.imu1GyroRange ∈ LSM6DS3TRC.gyroRanges :=
    LSM6DS3TRC.rangesInForce_iff
  have hlsm2 : (d.configure c bus).1.lsm6ds2.RangesInForce ↔
      c.imu2AccelRange ∈ LSM6DS3TRC.accelRanges ∧ c.imu2GyroRange ∈ LSM6DS3TRC.gyroRanges :=
    LSM6DS3TRC.rangesInForce_iff
  have hlis1 : (d.configure c bus).1.lis3mdl1.RangeInForce ↔ c.imu1MagRange ∈ LIS3MDL.ranges :=
    LIS3MDL.rangeInForce_iff
  have hlis2 : (d.configure c bus).1.lis3mdl2.RangeInForce ↔ c.imu2MagRange ∈ LIS3MDL.ranges :=
    LIS3MDL.rangeInForce_iff
  constructor
  · rintro ⟨h₁, h₂, h₃, h₄⟩
    exact ⟨(hlsm1.mp h₁).1, (hlsm1.mp h₁).2, hlis1.mp h₃, (hlsm2.mp h₂).1, (hlsm2.mp h₂).2,
      hlis2.mp h₄⟩
  · rintro ⟨h₁, h₂, h₃, h₄, h₅, h₆⟩
    exact ⟨hlsm1.mpr ⟨h₁, h₂⟩, hlsm2.mpr ⟨h₄, h₅⟩, hlis1.mpr h₃, hlis2.mpr h₆⟩

/-! ### A restore -/

/-- A restore applies a record only if its ten bytes are enumerators of their types, and then
leaves ranges that are in force; otherwise it calls no setter. -/
def AppliesOnlyWellFormed (s : Firmware) : Prop :=
  ∀ found t, restoreSettings true s = .ok (found, t) →
    (found = true → (storedSettings s.eeprom.committed).Declared ∧
        ∃ d : Drivers, t.sensorGroup = d.group ∧ d.RangesInForce) ∧
      (¬ (storedSettings s.eeprom.committed).Declared →
        found = false ∧ t.bus = s.bus ∧ t.sensorGroup = s.sensorGroup)

/-- **A restore trusts the flag.** Where the flag is valid it gives the record to the setters as it
is, and reports that; the ranges it leaves are in force exactly if those of the record are
enumerators, and so they are if all ten bytes are. Where the flag is not valid it reports that, and
calls no setter: not even null pointers stop it. -/
theorem restoreSettings_trusts_flag {d : Drivers} {s : Firmware} (hd : s.sensorGroup = d.group) :
    let begun : Firmware := { s with eeprom := (s.eeprom.begin true).2 }
    let c := storedSettings s.eeprom.committed
    let (d', bus') := d.configure c s.bus
    (validationFlag s.eeprom.committed →
        restoreSettings true s = .ok (true, { begun with bus := bus', sensorGroup := d'.group }) ∧
          (d'.RangesInForce ↔ c.RangesDeclared) ∧ (c.Declared → d'.RangesInForce)) ∧
      (¬ validationFlag s.eeprom.committed → ∀ pointers : SensorGroupIMU,
        restoreSettings true { s with sensorGroup := pointers }
          = .ok (false, { begun with sensorGroup := pointers })) := by
  intro begun c
  constructor
  · intro hflag
    have hiff : (d.configure c s.bus).1.RangesInForce ↔ c.RangesDeclared :=
      Drivers.rangesInForce_configure_iff
    refine ⟨?_, hiff, fun hc => hiff.mpr hc.rangesDeclared⟩
    rw [restoreSettings_eq, if_pos (settingsFound_true_iff.mpr hflag),
      configureSensors_of_valid (d := d) (s := begun) hd]
    rfl
  · intro hflag pointers
    have hnone : ¬ settingsFound true { s with sensorGroup := pointers } = true :=
      mt settingsFound_true_iff.mp hflag
    rw [restoreSettings_eq, if_neg hnone]

/-- Settings with a magnetometer range that is no enumerator. -/
def corruptSettings : ConfigIMUJoystick := { defaultSettings with imu1MagRange := 0xFF }

/-- An EEPROM that holds them. -/
def corruptImage : Image := withSettings corruptSettings (fun _ => 0) fun _ => 0

theorem corruptSettings_not_declared : ¬ corruptSettings.Declared := by
  intro h
  exact absurd h.imu1MagRange (by decide)

theorem restoreSettings_trusts_flag_bench :
    let s := Firmware.bench corruptImage
    let begun : Firmware := { s with eeprom := (s.eeprom.begin true).2 }
    let c := storedSettings corruptImage
    let (d', bus') := Drivers.new.configure c s.bus
    (validationFlag corruptImage →
        restoreSettings true s = .ok (true, { begun with bus := bus', sensorGroup := d'.group }) ∧
          (d'.RangesInForce ↔ c.RangesDeclared) ∧ (c.Declared → d'.RangesInForce)) ∧
      (¬ validationFlag corruptImage → ∀ pointers : SensorGroupIMU,
        restoreSettings true { s with sensorGroup := pointers }
          = .ok (false, { begun with sensorGroup := pointers })) :=
  restoreSettings_trusts_flag (s := .bench corruptImage) (d := .new) rfl

/-- A range of 255 is applied. -/
theorem not_appliesOnlyWellFormed_corrupt : ¬ AppliesOnlyWellFormed (.bench corruptImage) := by
  intro h
  have hflag : validationFlag corruptImage := validationFlag_withSettings ..
  have hfound : settingsFound true (.bench corruptImage) = true := settingsFound_true_iff.mpr hflag
  obtain ⟨found, t, ht, -⟩ := restoreSettings_ok (s := .bench corruptImage) true ⟨.new, rfl⟩
  have hdeclared := ((h found t ht).1 ((restoreSettings_frame ht).1.trans hfound)).1
  have hstored : storedSettings corruptImage = corruptSettings := storedSettings_withSettings ..
  exact corruptSettings_not_declared (hstored ▸ hdeclared)

end ImuGamepad
