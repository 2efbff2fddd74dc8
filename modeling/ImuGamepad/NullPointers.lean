import ImuGamepad.Steps

/-!
# Null pointers

`sensorGroup` and `bleGamepad` are globals with static initial values, and nothing ever assigns
their pointers. Setup follows one of them on every path: where settings are found `restoreSettings`
calls a setter through `lsm6ds1`, and where none are found `initIMU` probes through it. So no run
survives setup. With valid pointers setup completes, and the first sample taken afterwards writes
its temperature through a null event pointer.

## Main results

* `run_null_faults` — every run from the static pointers ends with a null pointer, inside setup
* `readDataIMU_faults` — so does every sample, with valid pointers
-/

namespace ImuGamepad

open Runs

/-! ### The static pointers -/

/-- The pointers of a boot: null. -/
def SensorGroupIMU.static : SensorGroupIMU := ⟨none, none, none, none⟩

/-- The pointers of a boot: null. -/
def Ble.static : Ble := ⟨none, none⟩

section

variable {s : Firmware}

theorem configureSensors_null (h : s.sensorGroup.lsm6ds1 = none) (c : ConfigIMUJoystick) :
    configureSensors c s = .error .nullPointer := by
  simp [configureSensors, onDriver, callDriver, DriverSlot.lsm6ds1, h, Except.map]

theorem initIMU_null (h : s.sensorGroup.lsm6ds1 = none) (p : Platform) (probes : ImuProbes)
    (millis : BitVec 32) : initIMU p probes millis s = .error .nullPointer := by
  simp [initIMU, beginLsm6ds, callDriver, DriverSlot.lsm6ds1, h]

/-- Setup follows the first pointer, whatever the EEPROM holds and the hardware answers. -/
theorem setupApp_null (h : s.sensorGroup.lsm6ds1 = none) (p : Platform) (i : SetupInput) :
    setupApp p i s = .error .nullPointer := by
  have hedges : (edges (i.edges 0) s).sensorGroup.lsm6ds1 = none := by rw [edges_sensorGroup, h]
  rw [setupApp]
  simp only [restoreSettings_eq]
  split
  · -- settings are found, and the first setter is called
    have hc (c : ConfigIMUJoystick) (e : EEPROMClass) :
        configureSensors c { edges (i.edges 0) s with eeprom := e } = .error .nullPointer :=
      configureSensors_null (s := { edges (i.edges 0) s with eeprom := e }) hedges c
    rw [hc]
    rfl
  · -- none are found, and the first probe is made
    simp only [ok_bind, Bool.false_eq_true, if_false]
    rw [initIMU_null]
    · rfl
    · simp only [edges_sensorGroup, initFuelGauge_sensorGroup, setDefaultSettings_sensorGroup, h]

end

/-! ### Runs -/

/-- **Every run from the static pointers ends with a null pointer**, inside setup. -/
theorem run_null_faults (p : Platform) (nw : NullWrite) (bus : Bus) (image : Image)
    (i : SetupInput) (es : List Event) :
    let s := Firmware.powerOn .static .static bus image
    run p nw s (setupScript i s ++ es) = .error .nullPointer := by
  intro s
  rw [run_append, ← setupApp_eq_run, setupApp_null rfl, error_bind]

/-- A boot from an empty EEPROM with every chip present ends with a null pointer. -/
theorem setupApp_static_bench :
    setupApp .bench .bench (.powerOn .static .static (fun _ _ => 0) fun _ => 0)
      = .error .nullPointer :=
  setupApp_null rfl _ _

/-! ### The temperature event -/

/-- **With valid pointers, every sample writes through the null temperature pointer.** -/
theorem readDataIMU_faults (p : Platform) {s : Firmware} (hv : s.PointersValid)
    (havail : s.imusAvailable = true) (i : ImuInput) :
    readDataIMU p .faults i s = .error .nullEvent := by
  obtain ⟨d, hd⟩ := hv.drivers
  simp [readDataIMU, havail, collect, hd, Drivers.group]

end ImuGamepad
