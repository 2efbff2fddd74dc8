import ImuGamepad.Steps
import Mathlib.Logic.Function.Basic

/-!
# What is begun when the sensors are available

`readDataIMU` reads all four drivers as soon as `IMUsAvailable` is set. `initIMU` makes four calls
of `begin_I2C`, but through three drivers: it looks for the second magnetometer through the driver
of the first one, and `lis3mdl2` is never begun.

A ghost goes with the firmware, the outcome of the latest `begin_I2C` on each driver.
`initIMULogged` is `initIMU` with every call noted there, and without the notes it is `initIMU`.

## Main definitions

* `DriverName`, `SensorGroupIMU.device` — the four pointers, and the chips behind them
* `ImuProbe.driver` — the driver that a probe goes through
* `Begun`, `initIMULogged` — the ghost, and `initIMU` beside it
* `AllUsable` — what `IMUsAvailable` should mean
* `KeepsAvailability` — what one call of `initIMU` should keep

## Main results

* `device_beginChip` — a probe binds the driver it is noted on, and no other
* `initIMULogged_erase` — without the ghost it is `initIMU`
* `initIMULogged_lis3mdl2` — no call begins `lis3mdl2`
* `availability_kept_iff` — the flag means what it should only as long as it is never set
-/

namespace ImuGamepad

open Runs

/-! ### The ghost -/

/-- The four pointers of `sensorGroup`. -/
inductive DriverName
  | lsm6ds1
  | lsm6ds2
  | lis3mdl1
  | lis3mdl2
  deriving DecidableEq

/-- The device the driver behind a pointer is bound to. -/
def SensorGroupIMU.device (g : SensorGroupIMU) : DriverName → Option I2CAddr
  | .lsm6ds1 => g.lsm6ds1.bind LSM6DS3TRC.i2cDev
  | .lsm6ds2 => g.lsm6ds2.bind LSM6DS3TRC.i2cDev
  | .lis3mdl1 => g.lis3mdl1.bind LIS3MDL.i2cDev
  | .lis3mdl2 => g.lis3mdl2.bind LIS3MDL.i2cDev

/-- The firmware, and what the latest `begin_I2C` on each driver has returned. -/
structure Begun where
  firmware : Firmware
  latest : DriverName → Option Bool

/-- Make a call of `begin_I2C` on a driver, and note what it returns. -/
def noteBegin (name : DriverName) (call : Firmware → Except Fault (Bool × Firmware)) (b : Begun) :
    Except Fault (Bool × Begun) := do
  let (ok, s) ← call b.firmware
  return (ok, ⟨s, Function.update b.latest name (some ok)⟩)

/-- The driver that a probe goes through: both magnetometers are looked for through the first
one's. -/
def ImuProbe.driver : ImuProbe → DriverName
  | .lsm6ds1 => .lsm6ds1
  | .lsm6ds2 => .lsm6ds2
  | .lis3mdl1 => .lis3mdl1
  | .lis3mdl2 => .lis3mdl1

/-- The address a probe looks for its chip at. -/
def ImuProbe.addr : ImuProbe → I2CAddr
  | .lsm6ds1 => lsm6ds1Addr
  | .lsm6ds2 => lsm6ds2Addr
  | .lis3mdl1 => lis3mdl1Addr
  | .lis3mdl2 => lis3mdl2Addr

/-- **A probe binds its driver to its address**, whatever it finds there, and no other driver. -/
theorem device_beginChip {p : Platform} {probes : ImuProbes} {chip : ImuProbe} {s t : Firmware}
    {b : Bool} (h : beginChip p probes chip s = .ok (b, t)) :
    t.sensorGroup.device
      = Function.update s.sensorGroup.device chip.driver (some chip.addr) := by
  funext name
  cases chip with
  | lsm6ds1 =>
    obtain ⟨d, hd, hset⟩ := beginLsm6ds_binds h
    rw [hset]
    cases name <;>
      simp [SensorGroupIMU.device, DriverSlot.lsm6ds1, ImuProbe.driver, ImuProbe.addr, hd]
  | lsm6ds2 =>
    obtain ⟨d, hd, hset⟩ := beginLsm6ds_binds h
    rw [hset]
    cases name <;>
      simp [SensorGroupIMU.device, DriverSlot.lsm6ds2, ImuProbe.driver, ImuProbe.addr, hd]
  | lis3mdl1 =>
    obtain ⟨d, hd, hset⟩ := beginLis3mdl_binds h
    rw [hset]
    cases name <;>
      simp [SensorGroupIMU.device, DriverSlot.lis3mdl1, ImuProbe.driver, ImuProbe.addr, hd]
  | lis3mdl2 =>
    obtain ⟨d, hd, hset⟩ := beginLis3mdl_binds h
    rw [hset]
    cases name <;>
      simp [SensorGroupIMU.device, DriverSlot.lis3mdl1, ImuProbe.driver, ImuProbe.addr, hd]

/-- A probe's call, noted on its driver. -/
def noteChip (p : Platform) (probes : ImuProbes) (chip : ImuProbe) :
    Begun → Except Fault (Bool × Begun) :=
  noteBegin chip.driver (beginChip p probes chip)

/-- `initIMU`, with every `begin_I2C` noted on the driver it is made on. -/
def initIMULogged (p : Platform) (probes : ImuProbes) (millis : BitVec 32) (b : Begun) :
    Except Fault (Bool × Begun) := do
  let (ok, b) ← inOrder (noteChip p probes) ImuProbe.order b
  return (ok, if ok then { b with firmware := beginSampling millis b.firmware } else b)

section

variable {p : Platform} {probes : ImuProbes} {millis : BitVec 32} {b t : Begun} {ok : Bool}
  {name : DriverName} {call : Firmware → Except Fault (Bool × Firmware)}

/-- A noted call is the call, -/
theorem noteBegin_erase :
    (noteBegin name call b).map (fun r => (r.1, r.2.firmware)) = call b.firmware := by
  rw [noteBegin]
  cases call b.firmware with
  | error e => rfl
  | ok r => rfl

/-- and notes nothing about the other drivers. -/
theorem noteBegin_latest_of_ne (other : DriverName) (h : noteBegin name call b = .ok (ok, t))
    (hne : other ≠ name) : t.latest other = b.latest other := by
  obtain ⟨⟨ok', s⟩, -, h⟩ := bind_eq_ok_iff.mp h
  cases h
  exact Function.update_of_ne hne ..

theorem initIMULogged_eq_ok_iff :
    initIMULogged p probes millis b = .ok (ok, t) ↔
      ∃ u, inOrder (noteChip p probes) ImuProbe.order b = .ok (ok, u) ∧
        t = if ok then { u with firmware := beginSampling millis u.firmware } else u := by
  rw [initIMULogged]
  cases inOrder (noteChip p probes) ImuProbe.order b with
  | error e => simp [bind, Except.bind]
  | ok r =>
    obtain ⟨ok', u⟩ := r
    constructor
    · rintro ⟨⟩
      exact ⟨u, rfl, rfl⟩
    · rintro ⟨u', ⟨⟩, rfl⟩
      rfl

/-- **Without its notes it is `initIMU`.** -/
theorem initIMULogged_erase (p : Platform) (probes : ImuProbes) (millis : BitVec 32) (b : Begun) :
    (initIMULogged p probes millis b).map (fun r => (r.1, r.2.firmware))
      = initIMU p probes millis b.firmware := by
  have herase : (inOrder (noteChip p probes) ImuProbe.order b).map (fun r => (r.1, r.2.firmware))
      = inOrder (beginChip p probes) ImuProbe.order b.firmware := by
    refine inOrder_erase Begun.firmware ?_ b
    intro chip _ u
    exact noteBegin_erase
  rw [initIMU_eq_inOrder, ← herase, initIMULogged]
  cases inOrder (noteChip p probes) ImuProbe.order b with
  | error e => rfl
  | ok r =>
    obtain ⟨ok, u⟩ := r
    cases ok <;> rfl

/-- A call goes through, logged or not. -/
theorem initIMULogged_ok (h : initIMULogged p probes millis b = .ok (ok, t)) :
    initIMU p probes millis b.firmware = .ok (ok, t.firmware) := by
  rw [← initIMULogged_erase, h]
  rfl

/-- **No call begins `lis3mdl2`.** -/
theorem initIMULogged_lis3mdl2 (h : initIMULogged p probes millis b = .ok (ok, t)) :
    t.latest .lis3mdl2 = b.latest .lis3mdl2 := by
  obtain ⟨u, hprobes, rfl⟩ := initIMULogged_eq_ok_iff.mp h
  have hlatest : u.latest .lis3mdl2 = b.latest .lis3mdl2 := by
    refine inOrder_invariant (I := fun v => v.latest .lis3mdl2 = b.latest .lis3mdl2) hprobes rfl ?_
    intro chip _ v ok w hv hcall
    have hne : DriverName.lis3mdl2 ≠ chip.driver := by
      cases chip <;> decide
    rw [noteBegin_latest_of_ne .lis3mdl2 hcall hne, hv]
  cases ok with
  | false => exact hlatest
  | true => exact hlatest

end

/-! ### What the flag should mean -/

/-- One call of `initIMU`, with what its probes find and what the clock shows. -/
structure InitCall where
  probes : ImuProbes
  millis : BitVec 32

/-- One call, beside the ghost. -/
def initStep (p : Platform) (b : Begun) (c : InitCall) (t : Begun) : Prop :=
  ∃ ok, initIMULogged p c.probes c.millis b = .ok (ok, t)

/-- Every driver has been begun, the latest time with success, and they are bound to four distinct
chips. -/
structure AllUsable (b : Begun) : Prop where
  begun (name : DriverName) : b.latest name = some true
  bound : ∃ addr : DriverName → I2CAddr, Function.Injective addr ∧
    ∀ name, b.firmware.sensorGroup.device name = some (addr name)

/-- After a call the flag means that all sensors are usable, and a call that fails leaves the time
stamp and the filters as they were. -/
structure KeepsAvailability (p : Platform) (b : Begun) (c : InitCall) (t : Begun) : Prop where
  usable : t.firmware.imusAvailable = true → AllUsable t
  failed : initIMULogged p c.probes c.millis b = .ok (false, t) →
    t.firmware.timestamp = b.firmware.timestamp ∧ t.firmware.fillsion1 = b.firmware.fillsion1 ∧
      t.firmware.fillsion2 = b.firmware.fillsion2

/-! ### Runs -/

/-- No call has succeeded yet, and `lis3mdl2` has not been begun. -/
structure NotAvailable (b : Begun) : Prop where
  drivers : ∃ d : Drivers, b.firmware.sensorGroup = d.group
  unavailable : b.firmware.imusAvailable = false
  lis3mdl2 : b.latest .lis3mdl2 = none

/-- A boot, before any call. -/
def Begun.powerOn (d : Drivers) (ble : Ble) (bus : Bus) (image : Image) : Begun :=
  ⟨.powerOn d.group ble bus image, fun _ => none⟩

theorem notAvailable_powerOn (d : Drivers) (ble : Ble) (bus : Bus) (image : Image) :
    NotAvailable (.powerOn d ble bus image) := ⟨⟨d, rfl⟩, rfl, rfl⟩

section

variable {p : Platform} {b t : Begun} {c : InitCall}

/-- With valid pointers every call goes through. -/
theorem NotAvailable.exists_step (hb : NotAvailable b) (p : Platform) (c : InitCall) :
    ∃ t, initStep p b c t := by
  obtain ⟨ok, s, hs, -⟩ := initIMU_ok p c.probes c.millis hb.drivers
  rw [← initIMULogged_erase] at hs
  cases hlogged : initIMULogged p c.probes c.millis b with
  | error e => rw [hlogged] at hs; cases hs
  | ok r => exact ⟨r.2, r.1, hlogged⟩

/-- A call that fails leaves the time stamp and the filters as they were, in any state. -/
theorem initStep_failed (h : initIMULogged p c.probes c.millis b = .ok (false, t)) :
    t.firmware.timestamp = b.firmware.timestamp ∧ t.firmware.fillsion1 = b.firmware.fillsion1 ∧
      t.firmware.fillsion2 = b.firmware.fillsion2 := by
  obtain ⟨hfound, u, hu, ht⟩ := initIMU_spec (initIMULogged_ok h)
  rw [if_neg (by simp [← hfound])] at ht
  rw [ht, show u = _ from hu]
  exact ⟨rfl, rfl, rfl⟩

/-- **One call keeps what the flag should mean exactly if it does not set it.** -/
theorem NotAvailable.keepsAvailability_iff (hb : NotAvailable b) (h : initStep p b c t) :
    KeepsAvailability p b c t ↔ c.probes.allFound = false := by
  obtain ⟨ok, hlogged⟩ := h
  obtain ⟨-, u, hu, ht⟩ := initIMU_spec (initIMULogged_ok hlogged)
  have hnone : t.latest .lis3mdl2 = none := (initIMULogged_lis3mdl2 hlogged).trans hb.lis3mdl2
  cases hfound : c.probes.allFound with
  | true =>
    rw [hfound, if_pos rfl] at ht
    refine iff_of_false (fun hkeeps => ?_) (by simp)
    have hbegun := (hkeeps.usable (by rw [ht]; rfl)).begun .lis3mdl2
    rw [hnone] at hbegun
    cases hbegun
  | false =>
    rw [hfound, if_neg (by simp)] at ht
    have havail : t.firmware.imusAvailable = false := by
      rw [ht, show u = _ from hu]
      exact hb.unavailable
    exact iff_of_true ⟨fun hset => absurd (havail.symm.trans hset) (by simp), initStep_failed⟩ rfl

/-- A call that does not set the flag leaves the invariant. -/
theorem NotAvailable.step (hb : NotAvailable b) (h : initStep p b c t)
    (hfound : c.probes.allFound = false) : NotAvailable t := by
  obtain ⟨ok, hlogged⟩ := h
  have hinit := initIMULogged_ok hlogged
  obtain ⟨ok', s, hs, hds⟩ := initIMU_ok p c.probes c.millis hb.drivers
  obtain rfl : s = t.firmware := congrArg Prod.snd (Except.ok.inj (hs.symm.trans hinit))
  obtain ⟨-, u, hu, ht⟩ := initIMU_spec hinit
  rw [hfound, if_neg (by simp)] at ht
  refine ⟨hds, ?_, (initIMULogged_lis3mdl2 hlogged).trans hb.lis3mdl2⟩
  rw [ht, show u = _ from hu]
  exact hb.unavailable

end

/-- **The flag means what it should exactly as long as it is never set.** A call that fails never
touches the time stamp or the filters. -/
theorem availability_kept_iff (p : Platform) (d : Drivers) (ble : Ble) (bus : Bus) (image : Image)
    (cs : List InitCall) :
    Always (initStep p) (KeepsAvailability p) (.powerOn d ble bus image) cs ↔
      ∀ c ∈ cs, c.probes.allFound = false := by
  refine always_label_iff (notAvailable_powerOn d ble bus image) ?_ ?_ ?_
  · intro b c hb
    exact hb.exists_step p c
  · intro b c t hb h
    exact hb.keepsAvailability_iff h
  · intro b c t hb h hkeeps
    exact hb.step h ((hb.keepsAvailability_iff h).mp hkeeps)

/-- With every chip in its place, one call sets the flag without beginning `lis3mdl2`. -/
theorem not_keepsAvailability_bench :
    ¬ Always (initStep .bench) (KeepsAvailability .bench)
      (.powerOn Drivers.new .new (fun _ _ => 0) fun _ => 0) [⟨.bench, 0⟩] := by
  intro h
  have hinit := notAvailable_powerOn Drivers.new .new (fun _ _ => 0) fun _ => 0
  obtain ⟨t, ht⟩ := hinit.exists_step .bench ⟨.bench, 0⟩
  have hfound := (hinit.keepsAvailability_iff ht).mp (h t ht).1
  exact absurd hfound (by decide)

end ImuGamepad
