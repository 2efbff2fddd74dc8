import ImuGamepad.Eeprom
import ImuGamepad.SensorsEvent
import ImuGamepad.Library.Conversion
import Mathlib.Data.Fin.VecNotation

/-!
# The sensor calibration

`Adafruit_Sensor_Calibration_EEPROM`: the calibrator that the firmware applies to every sensor
event, and whose parameters it saves into the EEPROM.

The parameters are binary32 words, kept as the words they are, because saving them copies their
bytes. Applying them is arithmetic on their values.

`ee_addr`, the address the record is saved at, is a field of the object that only its `begin` sets.
A calibrator nobody has begun saves at address `0`; the documented default of `begin` is `60`.

## Main definitions

* `SensorCalibration` — the parameters and the address
* `SensorCalibration.calibrate` — apply them to an event
* `SensorCalibration.record` — the 68 bytes `saveCalibration` writes
* `SensorCalibration.saveCalibration` — write them

## Main results

* `SensorCalibration.saveCalibration_of_data` — saving is one splice, stored at once
* `SensorCalibration.saveCalibration_eq_self_iff` — when saving changes nothing
* `SensorCalibration.record_magic` — the record starts with its two magic bytes
-/

namespace ImuGamepad

open Conversion

/-! ### The calibrator -/

/-- `Adafruit_Sensor_Calibration_EEPROM`. The vectors are in m/s², rad/s and µT. -/
structure SensorCalibration where
  accelZerog : Fin 3 → BitVec 32
  gyroZerorate : Fin 3 → BitVec 32
  magHardiron : Fin 3 → BitVec 32
  magSoftiron : Fin 9 → BitVec 32
  magField : BitVec 32
  eeAddr : BitVec 16

namespace SensorCalibration

/-- The parameters the constructor leaves: no offsets, the identity matrix, 50 µT, address 0. -/
def default : SensorCalibration where
  accelZerog _ := 0
  gyroZerorate _ := 0
  magHardiron _ := 0
  magSoftiron i := if i.val % 4 = 0 then 0x3F800000 else 0
  magField := 0x42480000
  eeAddr := 0

/-- `calibrate(event)`: whether the type is supported, and the calibrated event. -/
def calibrate (c : SensorCalibration) (event : SensorsEvent) : Bool × SensorsEvent :=
  let v := event.data
  let sub (offset : Fin 3 → BitVec 32) : Vec3 :=
    ⟨v.x - binary32 (offset 0), v.y - binary32 (offset 1), v.z - binary32 (offset 2)⟩
  match event.type with
  | .magneticField =>
    -- hard iron, then soft iron
    let m := sub c.magHardiron
    let row (i j k : Fin 9) : ℚ :=
      m.x * binary32 (c.magSoftiron i) + m.y * binary32 (c.magSoftiron j)
        + m.z * binary32 (c.magSoftiron k)
    (true, { event with data := ⟨row 0 1 2, row 3 4 5, row 6 7 8⟩ })
  | .gyroscope => (true, { event with data := sub c.gyroZerorate })
  | .accelerometer => (true, { event with data := sub c.accelZerog })
  | .ambientTemperature => (false, event)

/-- **The parameters of the constructor change no event.** -/
theorem calibrate_default (event : SensorsEvent) : (default.calibrate event).2 = event := by
  have hzero : binary32 0#32 = 0 := by decide +kernel
  have hone : binary32 0x3F800000#32 = 1 := by decide +kernel
  obtain ⟨type, v⟩ := event
  cases type <;> simp [calibrate, default, hzero, hone]

/-! ### The saved record -/

/-- `crc16_update`: eight steps of the CRC with polynomial `0xA001`. -/
def crc16Update (crc : BitVec 16) (a : Byte) : BitVec 16 :=
  (List.range 8).foldl
    (fun crc _ => if crc &&& 1 ≠ 0 then (crc >>> 1) ^^^ 0xA001 else crc >>> 1)
    (crc ^^^ a.setWidth 16)

/-- The sixteen floats of the record, in the order they are saved. -/
def offsets (c : SensorCalibration) : Fin 16 → BitVec 32 :=
  ![c.accelZerog 0, c.accelZerog 1, c.accelZerog 2,
    c.gyroZerorate 0, c.gyroZerorate 1, c.gyroZerorate 2,
    c.magHardiron 0, c.magHardiron 1, c.magHardiron 2,
    c.magField,
    c.magSoftiron 0, c.magSoftiron 4, c.magSoftiron 8,
    c.magSoftiron 1, c.magSoftiron 2, c.magSoftiron 5]

/-- The two magic bytes and the floats; the last two bytes are still zero. -/
def body (c : SensorCalibration) : Bytes 68 :=
  let magic : Bytes 68 := fun i => if i.val = 0 then 0x75 else if i.val = 1 then 0x54 else 0
  magic.splice 2 (fun i : Fin 64 =>
    Bytes.ofWord 4 (c.offsets ⟨i.val / 4, by omega⟩) ⟨i.val % 4, by omega⟩)

/-- The checksum of the first 66 bytes. -/
def checksum (c : SensorCalibration) : BitVec 16 :=
  (List.finRange 66).foldl (fun crc i => crc16Update crc (c.body (i.castLE (by omega)))) 0xFFFF

/-- The 68 bytes that are saved (`EEPROM_CAL_SIZE`): body and checksum, low byte first. -/
def record (c : SensorCalibration) : Bytes 68 := c.body.splice 66 (Bytes.ofWord 2 c.checksum)

/-- `saveCalibration()`: write the record byte by byte from `ee_addr`, and commit. -/
def saveCalibration (c : SensorCalibration) (e : EEPROMClass) : EEPROMClass :=
  (e.writeAll c.eeAddr.toNat c.record).commit

theorem saveCalibration_of_none {c : SensorCalibration} {e : EEPROMClass} (h : e.data = none) :
    c.saveCalibration e = e := by
  rw [saveCalibration, EEPROMClass.writeAll_of_none h, EEPROMClass.commit_of_none h]

/-- **Saving is one splice, stored at once.** -/
theorem saveCalibration_of_data {c : SensorCalibration} {e : EEPROMClass} {img : Image}
    (h : e.data = some img) :
    c.saveCalibration e
      = ⟨img.splice c.eeAddr.toNat c.record, some (img.splice c.eeAddr.toNat c.record)⟩ := by
  rw [saveCalibration, EEPROMClass.writeAll_of_data h, EEPROMClass.commit_of_data rfl]

/-- Saving changes nothing exactly when, where the EEPROM has been begun, its working copy is stored
and holds the record already, as far as it fits. -/
theorem saveCalibration_eq_self_iff {c : SensorCalibration} {e : EEPROMClass} :
    c.saveCalibration e = e ↔ ∀ img, e.data = some img → img = e.committed ∧
      ∀ (j : Fin 68) (h : c.eeAddr.toNat + j < 512), img ⟨c.eeAddr.toNat + j, h⟩ = c.record j := by
  cases hdata : e.data with
  | none => exact iff_of_true (saveCalibration_of_none hdata) (by simp)
  | some img =>
    rw [saveCalibration_of_data hdata]
    simp only [Option.some.injEq, forall_eq', ← Bytes.splice_eq_self_iff_forall]
    obtain ⟨committed, data⟩ := e
    simp only at hdata
    simp only [hdata, EEPROMClass.mk.injEq, Option.some.injEq]
    constructor
    · rintro ⟨hcommitted, hdata⟩
      exact ⟨hdata.symm.trans hcommitted, hdata⟩
    · rintro ⟨hcommitted, hdata⟩
      exact ⟨hdata.trans hcommitted, hdata⟩

theorem synced_saveCalibration (c : SensorCalibration) (e : EEPROMClass) :
    (c.saveCalibration e).Synced := EEPROMClass.synced_commit _

theorem record_magic (c : SensorCalibration) : c.record 0 = 0x75 ∧ c.record 1 = 0x54 := by
  constructor <;>
  · rw [record, Bytes.splice_of_not_mem (by simp), body, Bytes.splice_of_not_mem (by simp)]
    rfl

end SensorCalibration

end ImuGamepad
