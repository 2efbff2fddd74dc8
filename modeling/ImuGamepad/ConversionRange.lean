import ImuGamepad.EepromRecords
import ImuGamepad.RestoredRanges

/-!
# The conversions of a call are defined

`readDataIMU` converts eighteen components to `int16_t`. A component is a 16-bit register, in a
unit that the driver's buffered range decides. Every unit is less than one, but for a magnetometer
whose range the driver does not know: one count is then 100 µT.

A restore can leave such a range. It does no harm, since samples are let through only after
`initIMU` has found the sensors, and `setupIMUDataRate` then sets every range.

## Main definitions

* `LSM6DS3TRC.accelUnit`, `gyroUnit`, `LIS3MDL.magUnit` — what one count is worth
* `DataRegisters` — whatever a call may read
* `ConversionsDefined` — all eighteen components convert
* `Event.AfterSetup` — what can happen after setup
* `ScalesKnown` — samples are let through only with ranges in force

## Main results

* `calibratedSample_inRange` — with ranges in force every sample converts
* `scalesKnown_setupApp` — setup leaves such ranges, whatever was restored
* `conversions_defined`
-/

namespace ImuGamepad

open Conversion Runs

/-! ### Units -/

namespace LSM6DS3TRC

/-- What one count of the accelerometer is worth, in m/s². -/
def accelUnit (d : LSM6DS3TRC) : ℚ :=
  (if d.accelRangeBuffered = accelRange16G then 0.488
    else if d.accelRangeBuffered = accelRange8G then 0.244
    else if d.accelRangeBuffered = accelRange4G then 0.122
    else if d.accelRangeBuffered = accelRange2G then 0.061
    else 1) * (9.80665 / 1000)

/-- What one count of the gyroscope is worth, in rad/s. -/
def gyroUnit (d : LSM6DS3TRC) : ℚ :=
  (if d.gyroRangeBuffered = gyroRange4000Dps then 140
    else if d.gyroRangeBuffered = gyroRange2000Dps then 70
    else if d.gyroRangeBuffered = gyroRange1000Dps then 35
    else if d.gyroRangeBuffered = gyroRange500Dps then 17.5
    else if d.gyroRangeBuffered = gyroRange250Dps then 8.75
    else if d.gyroRangeBuffered = gyroRange125Dps then 4.375
    else 1) * (0.017453293 / 1000)

variable (buffer : Bytes 14) (d : LSM6DS3TRC)

theorem read_acc : (d.read buffer).acc
    = ⟨rawAt buffer 8 * d.accelUnit, rawAt buffer 10 * d.accelUnit,
        rawAt buffer 12 * d.accelUnit⟩ := by
  simp only [read, accelUnit, mul_div_assoc, mul_assoc]

theorem read_gyro : (d.read buffer).gyro
    = ⟨rawAt buffer 2 * d.gyroUnit, rawAt buffer 4 * d.gyroUnit, rawAt buffer 6 * d.gyroUnit⟩ := by
  simp only [read, gyroUnit, mul_div_assoc, mul_assoc]

/-- The accelerometer's range is one of the enumerators exactly if the table has a unit for it. -/
theorem mem_accelRanges_iff :
    d.accelRangeBuffered ∈ accelRanges ↔ d.accelUnit ≠ 9.80665 / 1000 := by
  rw [accelUnit]
  split_ifs with h₁₆ h₈ h₄ h₂
  · exact iff_of_true (by simp [accelRanges, h₁₆]) (by norm_num)
  · exact iff_of_true (by simp [accelRanges, h₈]) (by norm_num)
  · exact iff_of_true (by simp [accelRanges, h₄]) (by norm_num)
  · exact iff_of_true (by simp [accelRanges, h₂]) (by norm_num)
  · exact iff_of_false (by simp [accelRanges, h₁₆, h₈, h₄, h₂]) (by norm_num)

/-- The same for the gyroscope. -/
theorem mem_gyroRanges_iff :
    d.gyroRangeBuffered ∈ gyroRanges ↔ d.gyroUnit ≠ 0.017453293 / 1000 := by
  rw [gyroUnit]
  split_ifs with h₄₀₀₀ h₂₀₀₀ h₁₀₀₀ h₅₀₀ h₂₅₀ h₁₂₅
  · exact iff_of_true (by simp [gyroRanges, h₄₀₀₀]) (by norm_num)
  · exact iff_of_true (by simp [gyroRanges, h₂₀₀₀]) (by norm_num)
  · exact iff_of_true (by simp [gyroRanges, h₁₀₀₀]) (by norm_num)
  · exact iff_of_true (by simp [gyroRanges, h₅₀₀]) (by norm_num)
  · exact iff_of_true (by simp [gyroRanges, h₂₅₀]) (by norm_num)
  · exact iff_of_true (by simp [gyroRanges, h₁₂₅]) (by norm_num)
  · exact iff_of_false (by simp [gyroRanges, h₄₀₀₀, h₂₀₀₀, h₁₀₀₀, h₅₀₀, h₂₅₀, h₁₂₅])
      (by norm_num)

theorem abs_accelUnit_lt : |d.accelUnit| < 1 := by
  rw [accelUnit, abs_lt]
  split_ifs <;> norm_num

theorem abs_gyroUnit_lt : |d.gyroUnit| < 1 := by
  rw [gyroUnit, abs_lt]
  split_ifs <;> norm_num

end LSM6DS3TRC

namespace LIS3MDL

/-- What one count of the magnetometer is worth, in µT. -/
def magUnit (d : LIS3MDL) : ℚ :=
  100 / (if d.rangeBuffered = range16Gauss then 1711
    else if d.rangeBuffered = range12Gauss then 2281
    else if d.rangeBuffered = range8Gauss then 3421
    else if d.rangeBuffered = range4Gauss then 6842
    else 1)

variable (buffer : Bytes 6) (d : LIS3MDL)

theorem read_mag :
    let gauss := d.read buffer
    (⟨gauss.x * 100, gauss.y * 100, gauss.z * 100⟩ : Vec3)
      = ⟨(buffer.getInt16 0).toInt * d.magUnit, (buffer.getInt16 2).toInt * d.magUnit,
          (buffer.getInt16 4).toInt * d.magUnit⟩ := by
  simp only [read, magUnit, div_mul_eq_mul_div, mul_div_assoc]

/-- The range is one of the enumerators exactly if the table has a unit for it. -/
theorem mem_ranges_iff {d : LIS3MDL} : d.rangeBuffered ∈ ranges ↔ d.magUnit ≠ 100 := by
  rw [magUnit]
  split_ifs with h₁₆ h₁₂ h₈ h₄
  · exact iff_of_true (by simp [ranges, h₁₆]) (by norm_num)
  · exact iff_of_true (by simp [ranges, h₁₂]) (by norm_num)
  · exact iff_of_true (by simp [ranges, h₈]) (by norm_num)
  · exact iff_of_true (by simp [ranges, h₄]) (by norm_num)
  · exact iff_of_false (by simp [ranges, h₁₆, h₁₂, h₈, h₄]) (by norm_num)

/-- The unit is less than one if the range is known. -/
theorem abs_magUnit_lt {d : LIS3MDL} (h : d.rangeBuffered ∈ ranges) : |d.magUnit| < 1 := by
  have hunit := mem_ranges_iff.mp h
  rw [magUnit] at hunit ⊢
  rw [abs_lt]
  split_ifs at hunit ⊢
  · norm_num
  · norm_num
  · norm_num
  · norm_num
  · norm_num at hunit

end LIS3MDL

/-- **With a known range every sample converts**, whatever the registers hold. -/
theorem calibratedSample_inRange {lsm6ds : LSM6DS3TRC} {lis3mdl : LIS3MDL}
    (h : lis3mdl.RangeInForce) (buffer : Bytes 14) (magBuffer : Bytes 6) :
    (calibratedSample .default (lsm6ds.read buffer) (lis3mdl.read magBuffer)).InRange := by
  have haccel (v : BitVec 16) := inInt16Range_toInt_mul v lsm6ds.abs_accelUnit_lt
  have hgyro (v : BitVec 16) := inInt16Range_toInt_mul v lsm6ds.abs_gyroUnit_lt
  have hmag (v : BitVec 16) := inInt16Range_toInt_mul v (LIS3MDL.abs_magUnit_lt h.known)
  intro q hq
  simp only [calibratedSample, SensorCalibration.calibrate_default, LIS3MDL.read_mag,
    LSM6DS3TRC.read_acc, LSM6DS3TRC.read_gyro, ImuSample.components, List.mem_cons,
    List.not_mem_nil, or_false] at hq
  rcases hq with rfl | rfl | rfl | rfl | rfl | rfl | rfl | rfl | rfl
  · exact haccel _
  · exact haccel _
  · exact haccel _
  · exact hgyro _
  · exact hgyro _
  · exact hgyro _
  · exact hmag _
  · exact hmag _
  · exact hmag _

/-! ### What a call reads -/

/-- What the data registers of the four sensors hold, or a buffer that no transfer has filled. -/
structure DataRegisters where
  lsm6ds1 : Bytes 14
  lsm6ds2 : Bytes 14
  lis3mdl1 : Bytes 6
  lis3mdl2 : Bytes 6

/-- The input of a call that reads them. -/
def DataRegisters.input (r : DataRegisters) (gateMillis storeMillis : BitVec 32) : ImuInput where
  lsm6ds1 := LSM6DS3TRC.read r.lsm6ds1
  lsm6ds2 := LSM6DS3TRC.read r.lsm6ds2
  lis3mdl1 := LIS3MDL.read r.lis3mdl1
  lis3mdl2 := LIS3MDL.read r.lis3mdl2
  gateMillis := gateMillis
  storeMillis := storeMillis

/-- Whatever a call reads, it makes two samples of it, and their eighteen components convert. It is
these samples that a call which passes the gate assigns to the frames, and what an undefined
conversion would give does not matter to it. -/
def ConversionsDefined (s : Firmware) : Prop :=
  ∀ (r : DataRegisters) (gateMillis storeMillis : BitVec 32), ∃ m₁ m₂,
    collect .ignored (r.input gateMillis storeMillis) s = .ok (m₁, m₂) ∧ m₁.InRange ∧ m₂.InRange ∧
      ∀ p : Platform,
        (¬ gateRejects gateMillis s.timestamp →
          readDataIMU p .ignored (r.input gateMillis storeMillis) s
            = .ok (publish p m₁ m₂ storeMillis s.saved)) ∧
        ∀ undefined, readDataIMU { p with undefinedInt16 := undefined } .ignored
            (r.input gateMillis storeMillis) s
          = readDataIMU p .ignored (r.input gateMillis storeMillis) s

/-- A sample that converts is assigned as it is, whatever an undefined conversion would give. -/
theorem assignFrame_undefined {sample : ImuSample} (h : sample.InRange) (p : Platform)
    (undefined : ℚ → BitVec 16) (raw : Bytes 18) :
    assignFrame1 { p with undefinedInt16 := undefined } sample raw = assignFrame1 p sample raw ∧
      assignFrame2 { p with undefinedInt16 := undefined } sample raw
        = assignFrame2 p sample raw := by
  simp only [ImuSample.InRange, ImuSample.components, List.forall_mem_cons] at h
  obtain ⟨hax, hay, haz, hgx, hgy, hgz, hmx, hmy, hmz, -⟩ := h
  simp only [assignFrame1, assignFrame2, toInt16, hax, hay, haz, hgx, hgy, hgz, hmx, hmy, hmz,
    if_true, and_self]

theorem publish_undefined {m₁ m₂ : ImuSample} (h₁ : m₁.InRange) (h₂ : m₂.InRange) (p : Platform)
    (undefined : ℚ → BitVec 16) (storeMillis : BitVec 32) (s : Firmware) :
    publish { p with undefinedInt16 := undefined } m₁ m₂ storeMillis s
      = publish p m₁ m₂ storeMillis s := by
  simp only [publish, (assignFrame_undefined h₁ p undefined _).1,
    (assignFrame_undefined h₂ p undefined _).2]
  rfl

/-- With ranges in force they do. -/
theorem conversionsDefined_of_inForce {d : Drivers} {s : Firmware} (hcal : s.cal = .default)
    (hd : s.sensorGroup = d.group) (havail : s.imusAvailable = true) (h : d.RangesInForce) :
    ConversionsDefined s := by
  intro r gateMillis storeMillis
  have h₁ : (sample1 (r.input gateMillis storeMillis) d s.cal).InRange := by
    rw [hcal]
    exact calibratedSample_inRange h.lis3mdl1 r.lsm6ds1 r.lis3mdl1
  have h₂ : (sample2 (r.input gateMillis storeMillis) d s.cal).InRange := by
    rw [hcal]
    exact calibratedSample_inRange h.lis3mdl2 r.lsm6ds2 r.lis3mdl2
  refine ⟨_, _, collect_eq_of_valid hd _, h₁, h₂, fun p => ⟨fun hgate => ?_, fun undefined => ?_⟩⟩
  · exact readDataIMU_of_passes p hd havail hgate
  · simp only [readDataIMU_eq_of_valid _ hd, publish_undefined h₁ h₂]

/-! ### Runs -/

/-- The event can happen after setup. A boot runs `setupApp` once, and nothing else calls
`restoreSettings` or `initIMU`. -/
def Event.AfterSetup : Event → Prop
  | .restoreSettings _ | .initIMU _ _ | .reboot _ _ => False
  | _ => True

/-- Samples are let through only with ranges in force, and the calibration is as its constructor
left it. -/
structure ScalesKnown (s : Firmware) : Prop where
  cal : s.cal = .default
  inForce : s.imusAvailable = true → ∃ d : Drivers, s.sensorGroup = d.group ∧ d.RangesInForce

section

variable {p : Platform} {nw : NullWrite} {s t : Firmware} {e : Event} {es : List Event}

/-- **`setupIMUDataRate` puts known ranges in force.** -/
theorem rangesInForce_setupIMUDataRate (hd : ∃ d : Drivers, s.sensorGroup = d.group)
    (h : OkStep (step p nw) s .setupIMUDataRate t) :
    ∃ d : Drivers, t.sensorGroup = d.group ∧ d.RangesInForce := by
  obtain ⟨d, hd⟩ := hd
  obtain rfl := Except.ok.inj ((configureSensors_of_valid hd defaultSettings).symm.trans h)
  exact ⟨_, rfl, Drivers.rangesInForce_configure_iff.mpr defaultSettings_declared.rangesDeclared⟩

/-- What happens after setup keeps them. -/
theorem ScalesKnown.step (hs : ScalesKnown s) (he : e.AfterSetup)
    (h : OkStep (ImuGamepad.step p nw) s e t) : ScalesKnown t := by
  have heffect := effect_of_step h
  have hframe := frame_of_effect heffect
  refine ⟨(eeprom_of_effect heffect).2 hs.cal, ?_⟩
  cases e with
  | restoreSettings eepromOk => exact he.elim
  | initIMU probes millis => exact he.elim
  | reboot sensorGroup ble => exact he.elim
  | setupIMUDataRate =>
    intro havail
    rw [show t = _ from hframe] at havail
    obtain ⟨d, hd, -⟩ := hs.inForce havail
    exact rangesInForce_setupIMUDataRate ⟨d, hd⟩ h
  | setupIMUInterrupts =>
    intro havail
    rw [show t = _ from hframe] at havail
    obtain ⟨d, hd, hforce⟩ := hs.inForce havail
    obtain rfl := Except.ok.inj ((setupIMUInterrupts_of_valid hd).symm.trans h)
    exact ⟨d, hd, hforce⟩
  | _ =>
    rw [show t = _ from hframe]
    exact hs.inForce

theorem ScalesKnown.path (hs : ScalesKnown s) (hes : ∀ e ∈ es, e.AfterSetup)
    (h : Path (OkStep (ImuGamepad.step p nw)) s es t) : ScalesKnown t := by
  refine h.invariant_of_labels hes hs ?_
  intro u e u' hu he hstep
  exact hu.step he hstep

/-! ### Setup -/

/-- The drivers' pointers are valid, and the calibration is as its constructor left it. -/
structure Configurable (s : Firmware) : Prop where
  cal : s.cal = .default
  drivers : ∃ d : Drivers, s.sensorGroup = d.group

theorem Configurable.step (hs : Configurable s)
    (he : ∀ sensorGroup ble, e ≠ .reboot sensorGroup ble)
    (h : OkStep (ImuGamepad.step p nw) s e t) : Configurable t :=
  ⟨(eeprom_of_effect (effect_of_step h)).2 hs.cal, drivers_of_step hs.drivers h he⟩

theorem Configurable.edges (hs : Configurable s) (pins : List IntPin) :
    Configurable (ImuGamepad.edges pins s) := by
  rw [edges_frame]
  exact ⟨hs.cal, hs.drivers⟩

/-- The event neither probes the sensors nor is a reboot. -/
def Event.LeavesAvailability : Event → Prop
  | .initIMU _ _ | .reboot _ _ => False
  | _ => True

theorem Configurable.step_of_leaves (hs : Configurable s) (hoff : s.imusAvailable = false)
    (he : e.LeavesAvailability) (h : OkStep (ImuGamepad.step p nw) s e t) :
    Configurable t ∧ t.imusAvailable = false := by
  have hframe := frame_of_effect (effect_of_step h)
  refine ⟨hs.step (fun _ _ heq => by rw [heq] at he; exact he) h, ?_⟩
  cases e with
  | initIMU probes millis => exact he.elim
  | reboot sensorGroup ble => exact he.elim
  | _ =>
    rw [show t = _ from hframe]
    exact hoff

/-- The events of `setupApp` before it probes the sensors. -/
def beforeProbes (i : SetupInput) (s : Firmware) : List Event :=
  (i.edges 0).map .edge ++ .restoreSettings i.eepromOk :: (i.edges 1).map .edge ++
    (if settingsFound i.eepromOk s then []
      else .setDefaultSettings i.uninit :: (i.edges 2).map .edge) ++
    .initFuelGauge i.fuelGauge :: (i.edges 3).map .edge

/-- The events of `setupApp` after the probes and the edges that follow them. -/
def afterProbes (i : SetupInput) : List Event :=
  (if i.probes.allFound then sensorScript i else []) ++ finalScript i ++
    [.updateOverallStatusData i.icVersion]

theorem setupScript_eq (i : SetupInput) (s : Firmware) :
    setupScript i s = beforeProbes i s ++
      .initIMU i.probes i.millis :: ((i.edges 4).map .edge ++ afterProbes i) := by
  simp [setupScript, setupCalls, beforeProbes, afterProbes]

theorem leavesAvailability_beforeProbes (i : SetupInput) (s : Firmware) :
    ∀ e ∈ beforeProbes i s, e.LeavesAvailability := by
  intro e he
  cases e with
  | initIMU probes millis =>
    cases hfound : settingsFound i.eepromOk s <;> simp [beforeProbes, hfound] at he
  | reboot sensorGroup ble =>
    cases hfound : settingsFound i.eepromOk s <;> simp [beforeProbes, hfound] at he
  | _ => trivial

theorem afterSetup_afterProbes (i : SetupInput) : ∀ e ∈ afterProbes i, e.AfterSetup := by
  intro e he
  cases e with
  | restoreSettings eepromOk =>
    cases hfound : i.probes.allFound <;>
      simp [afterProbes, sensorScript, finalScript, hfound] at he
  | initIMU probes millis =>
    cases hfound : i.probes.allFound <;>
      simp [afterProbes, sensorScript, finalScript, hfound] at he
  | reboot sensorGroup ble =>
    cases hfound : i.probes.allFound <;>
      simp [afterProbes, sensorScript, finalScript, hfound] at he
  | _ => trivial

/-- **Setup leaves samples let through only with ranges in force**, whatever it restored. -/
theorem scalesKnown_setupApp {i : SetupInput} (hs : Configurable s) (hoff : s.imusAvailable = false)
    (h : setupApp p i s = .ok t) : ScalesKnown t := by
  have hpath := (path_setupScript_iff .ignored).mpr h
  rw [setupScript_eq] at hpath
  obtain ⟨s₁, hbefore, hprobes⟩ := path_append_iff.mp hpath
  obtain ⟨s₂, hinit, hrest⟩ := path_cons_iff.mp hprobes
  obtain ⟨s₃, hedges, hafter⟩ := path_append_iff.mp hrest
  obtain ⟨h₁, hoff₁⟩ : Configurable s₁ ∧ s₁.imusAvailable = false := by
    refine hbefore.invariant_of_labels (I := fun u => Configurable u ∧ u.imusAvailable = false)
      (leavesAvailability_beforeProbes i s) ⟨hs, hoff⟩ ?_
    rintro u e u' ⟨hu, hoffu⟩ he hstep
    exact hu.step_of_leaves hoffu he hstep
  have h₂ : Configurable s₂ := h₁.step (fun _ _ => Event.noConfusion) hinit
  obtain ⟨u, hu, hs₂⟩ := effect_of_step hinit
  obtain rfl : edges (i.edges 4) s₂ = s₃ :=
    Except.ok.inj ((run_edges s₂ _).symm.trans (path_okStep_iff.mp hedges))
  have h₃ : Configurable (edges (i.edges 4) s₂) := h₂.edges _
  cases hfound : i.probes.allFound with
  | false =>
    -- no sample is let through
    have hoff₃ : (edges (i.edges 4) s₂).imusAvailable = false := by
      rw [edges_frame, hs₂, hfound, if_neg Bool.false_ne_true, show u = _ from hu]
      exact hoff₁
    have hknown : ScalesKnown (edges (i.edges 4) s₂) :=
      ⟨h₃.cal, fun havail => absurd (hoff₃.symm.trans havail) Bool.false_ne_true⟩
    exact hknown.path (afterSetup_afterProbes i) hafter
  | true =>
    -- the first call sets every range
    obtain ⟨rest, hscript⟩ : ∃ rest, afterProbes i = .setupIMUDataRate :: rest := by
      rw [afterProbes, hfound]
      exact ⟨_, rfl⟩
    rw [hscript] at hafter
    obtain ⟨s₄, hrate, hlast⟩ := path_cons_iff.mp hafter
    have hknown : ScalesKnown s₄ :=
      ⟨(h₃.step (fun _ _ => Event.noConfusion) hrate).cal,
        fun _ => rangesInForce_setupIMUDataRate h₃.drivers hrate⟩
    have hsetup := afterSetup_afterProbes i
    rw [hscript, List.forall_mem_cons] at hsetup
    exact hknown.path hsetup.2 hlast

end

/-- **Every conversion of every call is defined.** After any setup, from any image, with whatever
the probes find, and after whatever has happened since, a call that lets a sample through converts
it, whatever the sensors' registers hold. -/
theorem conversions_defined {p : Platform} {nw : NullWrite} (d : Drivers) (ble : Ble) (bus : Bus)
    (image : Image) {i : SetupInput} {es : List Event} {s t : Firmware}
    (hes : ∀ e ∈ es, e.AfterSetup)
    (hsetup : setupApp p i (.powerOn d.group ble bus image) = .ok s)
    (hpath : Path (OkStep (step p nw)) s es t) (havail : t.imusAvailable = true) :
    ConversionsDefined t := by
  have hboot : Configurable (.powerOn d.group ble bus image) := ⟨rfl, d, rfl⟩
  have hknown := (scalesKnown_setupApp hboot rfl hsetup).path hes hpath
  obtain ⟨d', hd', hforce⟩ := hknown.inForce havail
  exact conversionsDefined_of_inForce hknown.cal hd' havail hforce

theorem setupApp_bench_available :
    (setupApp .bench .bench (.bench corruptImage)).map Firmware.imusAvailable = .ok true := by
  decide +kernel

theorem conversions_defined_corrupt :
    ∃ s t, setupApp .bench .bench (.bench corruptImage) = .ok s ∧
      run .bench .ignored s [.senDataBLE true] = .ok t ∧ ConversionsDefined t := by
  obtain ⟨s, hs, hvs⟩ := setupApp_ok_of_valid .bench .bench
    (Firmware.bench_pointersValid corruptImage)
  have hes : ∀ e ∈ [Event.senDataBLE true], e.AfterSetup := by simp [Event.AfterSetup]
  have hkeeps : ∀ e ∈ [Event.senDataBLE true], e.KeepsPointers := by simp [Event.KeepsPointers]
  obtain ⟨t, ht, -⟩ := run_ok_of_valid .bench hvs hkeeps
  have hpath := path_okStep_iff.mpr ht
  have havail : s.imusAvailable = true := by
    have hbench := setupApp_bench_available
    rw [hs] at hbench
    exact Except.ok.inj hbench
  refine ⟨s, t, hs, ht, conversions_defined .new .new _ corruptImage hes hs hpath ?_⟩
  obtain ⟨u, hstep, hnil⟩ := path_cons_iff.mp hpath
  obtain rfl := path_nil_iff.mp hnil
  rw [show u = _ from frame_of_effect (effect_of_step hstep)]
  exact havail

end ImuGamepad
