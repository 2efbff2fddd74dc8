import ImuGamepad.Application

/-!
# What one event can do

`Effect` says, for every event, everything a successful step leaves behind; the later modules read
their invariants off it and never unfold a call again. With valid pointers, and drivers that
deliver their samples, every event but a reboot to null pointers is a successful step.

## Main definitions

* `Effect` — what an event leaves
* `Frame` — which fields it can change at all
* `PointersValid` — the pointers of the globals point at objects

## Main results

* `effect_of_step` — the inversion lemma
* `frame_of_effect` — the frame of every event
* `step_ok_of_valid`, `run_ok_of_valid` — with valid pointers nothing stops
-/

namespace ImuGamepad

open Runs

/-! ### Inversion -/

/-- What a successful step leaves. -/
def Effect (p : Platform) (s : Firmware) (e : Event) (t : Firmware) : Prop :=
  match e with
  | .edge pin => t = edge pin s
  | .restoreSettings eepromOk => SensorsOnly { s with eeprom := (s.eeprom.begin eepromOk).2 } t
  | .setDefaultSettings uninit => t = setDefaultSettings uninit s
  | .initFuelGauge probe => t = (initFuelGauge probe s).2
  | .initIMU probes millis =>
    ∃ u, SensorsOnly s u ∧ t = if probes.allFound then beginSampling millis u else u
  | .setupIMUDataRate => SensorsOnly s t
  | .setupIMUInterrupts =>
    SensorsOnly { s with attached := Function.update s.attached .imu1 true } t
  | .loadCalibration eepromOk => t = (loadCalibration eepromOk s).2
  | .setupBLEGamepad => t = { s with ble := t.ble }
  | .updateOverallStatusData icVersion => t = updateOverallStatusData icVersion s
  | .readDataIMU i =>
    if s.imusAvailable then
      ∃ sample1 sample2,
        let saved := { s with eeprom := s.cal.saveCalibration s.eeprom }
        t = if gateRejects i.gateMillis s.timestamp then saved
          else publish p sample1 sample2 i.storeMillis saved
    else t = s
  | .senDataBLE _ => t = { s with ble := t.ble }
  | .loop => t = s
  | .reboot sensorGroup ble => t = .powerOn sensorGroup ble s.bus s.eeprom.committed

/-- **The inversion lemma.** -/
theorem effect_of_step {p : Platform} {nw : NullWrite} {s t : Firmware} {e : Event}
    (h : step p nw s e = .ok t) : Effect p s e t := by
  cases e with
  | edge pin => exact (Except.ok.inj h).symm
  | restoreSettings eepromOk =>
    cases hr : restoreSettings eepromOk s with
    | error e => simp [step, hr, Except.map] at h
    | ok bt =>
      obtain rfl : bt.2 = t := by simpa [step, hr, Except.map] using h
      exact (restoreSettings_frame hr).2
  | setDefaultSettings uninit => exact (Except.ok.inj h).symm
  | initFuelGauge probe => exact (Except.ok.inj h).symm
  | initIMU probes millis =>
    cases hi : initIMU p probes millis s with
    | error e => simp [step, hi, Except.map] at h
    | ok bt =>
      obtain rfl : bt.2 = t := by simpa [step, hi, Except.map] using h
      exact (initIMU_spec hi).2
  | setupIMUDataRate => exact configureSensors_frame h
  | setupIMUInterrupts => exact setupIMUInterrupts_frame h
  | loadCalibration eepromOk => exact (Except.ok.inj h).symm
  | setupBLEGamepad => exact setupBLEGamepad_frame h
  | updateOverallStatusData icVersion => exact (Except.ok.inj h).symm
  | readDataIMU i =>
    simp only [step, readDataIMU] at h
    simp only [Effect]
    split at h
    · rename_i havail
      obtain ⟨⟨sample1, sample2⟩, -, h⟩ := bind_eq_ok_iff.mp h
      rw [if_pos havail]
      refine ⟨sample1, sample2, ?_⟩
      simp only at h ⊢
      split at h <;> rename_i hgate <;> cases h
      · rw [if_pos hgate]
      · rw [if_neg hgate]
    · rename_i havail
      rw [if_neg havail]
      exact (Except.ok.inj h).symm
  | senDataBLE connected =>
    obtain ⟨g, -, h⟩ := bind_eq_ok_iff.mp h
    cases connected <;> cases h <;> rfl
  | loop => exact (Except.ok.inj h).symm
  | reboot sensorGroup ble => exact (Except.ok.inj h).symm

/-- Which fields an event can change; the others it leaves alone. -/
def Frame (s : Firmware) (e : Event) (t : Firmware) : Prop :=
  match e with
  | .edge _ => t = { s with imuDataReady := t.imuDataReady }
  | .restoreSettings _ =>
    t = { s with eeprom := t.eeprom, bus := t.bus, sensorGroup := t.sensorGroup }
  | .setDefaultSettings _ => t = { s with eeprom := t.eeprom }
  | .initFuelGauge _ => t = { s with overallStatusDatapPacked := t.overallStatusDatapPacked }
  | .initIMU _ _ =>
    t = { s with
      bus := t.bus, sensorGroup := t.sensorGroup
      timestamp := t.timestamp, imusAvailable := t.imusAvailable
      fillsion1 := t.fillsion1, fillsion2 := t.fillsion2 }
  | .setupIMUDataRate => SensorsOnly s t
  | .setupIMUInterrupts =>
    t = { s with attached := t.attached, bus := t.bus, sensorGroup := t.sensorGroup }
  | .loadCalibration _ =>
    t = { s with
      eeprom := t.eeprom
      imu1EulerCalibration := t.imu1EulerCalibration
      imu2EulerCalibration := t.imu2EulerCalibration
      calibrationData := t.calibrationData, calibrationLoaded := t.calibrationLoaded }
  | .setupBLEGamepad => t = { s with ble := t.ble }
  | .updateOverallStatusData _ =>
    t = { s with overallStatusDatapPacked := t.overallStatusDatapPacked }
  | .readDataIMU _ =>
    t = { s with
      eeprom := t.eeprom, timestamp := t.timestamp
      fillsion1 := t.fillsion1, fillsion2 := t.fillsion2
      imu1DataRawPacked := t.imu1DataRawPacked, imu2DataRawPacked := t.imu2DataRawPacked
      imu1EulerCalibration := t.imu1EulerCalibration
      imu2EulerCalibration := t.imu2EulerCalibration }
  | .senDataBLE _ => t = { s with ble := t.ble }
  | .loop => t = s
  | .reboot sensorGroup ble => t = .powerOn sensorGroup ble s.bus s.eeprom.committed

/-- **What an event leaves alone.** -/
theorem frame_of_effect {p : Platform} {s t : Firmware} {e : Event} (h : Effect p s e t) :
    Frame s e t := by
  cases e with
  | edge pin =>
    rw [show t = edge pin s from h, edge]
    split <;> rfl
  | initFuelGauge probe =>
    rw [show t = _ from h, initFuelGauge]
    split <;> rfl
  | initIMU probes millis =>
    obtain ⟨u, hu, rfl⟩ := h
    rw [show u = _ from hu]
    split <;> rfl
  | loadCalibration eepromOk =>
    rw [show t = _ from h]
    cases eepromOk <;> rfl
  | readDataIMU i =>
    simp only [Effect] at h
    split at h
    · obtain ⟨sample1, sample2, rfl⟩ := h
      split <;> rfl
    · rw [h]
      rfl
  | _ => rw [show t = _ from h]; rfl

/-! ### Progress -/

/-- The pointers point at objects. -/
structure PointersValid (sensorGroup : SensorGroupIMU) (ble : Ble) : Prop where
  drivers : ∃ d : Drivers, sensorGroup = d.group
  gamepad : ∃ g, ble.bleGamepad = some g
  config : ∃ c, ble.bleGamepadConfig = some c

/-- The pointers of the globals point at objects. -/
abbrev Firmware.PointersValid (s : Firmware) : Prop := ImuGamepad.PointersValid s.sensorGroup s.ble

/-- The event is no reboot to a null pointer. -/
def Event.KeepsPointers : Event → Prop
  | .reboot sensorGroup ble => ImuGamepad.PointersValid sensorGroup ble
  | _ => True

section

variable {s t : Firmware}

/-- Where the gamepad is left alone, its pointers stay valid. -/
theorem Firmware.PointersValid.of_drivers (hv : s.PointersValid)
    (hd : ∃ d : Drivers, t.sensorGroup = d.group) (hble : t.ble = s.ble) : t.PointersValid :=
  ⟨hd, hble ▸ hv.gamepad, hble ▸ hv.config⟩

theorem callDriver_ok {δ α : Type} (slot : DriverSlot δ) (call : δ → Bus → α × δ × Bus)
    (hd : ∃ d : Drivers, s.sensorGroup = d.group) :
    ∃ a t, callDriver slot call s = .ok (a, t) ∧ ∃ d : Drivers, t.sensorGroup = d.group := by
  obtain ⟨d, hd⟩ := hd
  obtain ⟨x, hx⟩ := slot.get_group d
  rw [← hd] at hx
  refine ⟨_, _, callDriver_eq hx call, ?_⟩
  rw [hd]
  exact slot.set_group d _

theorem onDriver_ok {δ : Type} (slot : DriverSlot δ) (call : δ → Bus → δ × Bus)
    (hd : ∃ d : Drivers, s.sensorGroup = d.group) :
    ∃ t, onDriver slot call s = .ok t ∧ ∃ d : Drivers, t.sensorGroup = d.group := by
  obtain ⟨a, t, ht, hdt⟩ := callDriver_ok slot (fun d bus => ((), call d bus)) hd
  exact ⟨t, by rw [onDriver, ht]; rfl, hdt⟩

theorem configureSensors_ok (c : ConfigIMUJoystick)
    (hd : ∃ d : Drivers, s.sensorGroup = d.group) :
    ∃ t, configureSensors c s = .ok t ∧ ∃ d : Drivers, t.sensorGroup = d.group := by
  obtain ⟨s₁, h₁, hd₁⟩ := onDriver_ok .lsm6ds1 _ hd
  obtain ⟨s₂, h₂, hd₂⟩ := onDriver_ok .lis3mdl1 _ hd₁
  obtain ⟨s₃, h₃, hd₃⟩ := onDriver_ok .lsm6ds2 _ hd₂
  obtain ⟨s₄, h₄, hd₄⟩ := onDriver_ok .lis3mdl2 _ hd₃
  exact ⟨s₄, by rw [configureSensors, h₁, ok_bind, h₂, ok_bind, h₃, ok_bind, h₄], hd₄⟩

theorem setupIMUInterrupts_ok (hd : ∃ d : Drivers, s.sensorGroup = d.group) :
    ∃ t, setupIMUInterrupts s = .ok t ∧ ∃ d : Drivers, t.sensorGroup = d.group := by
  obtain ⟨s₁, h₁, hd₁⟩ := onDriver_ok .lsm6ds1 (LSM6DS3TRC.configInt1 false false true)
    (s := { s with attached := Function.update s.attached .imu1 true }) hd
  obtain ⟨s₂, h₂, hd₂⟩ := onDriver_ok .lsm6ds1 (LSM6DS3TRC.configInt1 false false true) hd₁
  exact ⟨s₂, by rw [setupIMUInterrupts, h₁, ok_bind, h₂], hd₂⟩

theorem restoreSettings_ok (eepromOk : Bool) (hd : ∃ d : Drivers, s.sensorGroup = d.group) :
    ∃ b t, restoreSettings eepromOk s = .ok (b, t) ∧ ∃ d : Drivers, t.sensorGroup = d.group := by
  rw [restoreSettings_eq]
  split
  · obtain ⟨t, ht, hdt⟩ := configureSensors_ok (storedSettings s.eeprom.committed)
      (s := { s with eeprom := (s.eeprom.begin eepromOk).2 }) hd
    exact ⟨true, t, by rw [ht]; rfl, hdt⟩
  · exact ⟨false, _, rfl, hd⟩

theorem beginChip_ok (p : Platform) (probes : ImuProbes) (chip : ImuProbe)
    (hd : ∃ d : Drivers, s.sensorGroup = d.group) :
    ∃ b t, beginChip p probes chip s = .ok (b, t) ∧ ∃ d : Drivers, t.sensorGroup = d.group := by
  cases chip with
  | lsm6ds1 =>
    exact callDriver_ok .lsm6ds1
      (LSM6DS3TRC.beginI2C (p.resetRegisters lsm6ds1Addr) probes.lsm6ds1 lsm6ds1Addr) hd
  | lsm6ds2 =>
    exact callDriver_ok .lsm6ds2
      (LSM6DS3TRC.beginI2C (p.resetRegisters lsm6ds2Addr) probes.lsm6ds2 lsm6ds2Addr) hd
  | lis3mdl1 =>
    exact callDriver_ok .lis3mdl1
      (LIS3MDL.beginI2C (p.resetRegisters lis3mdl1Addr) probes.lis3mdl1 lis3mdl1Addr) hd
  | lis3mdl2 =>
    exact callDriver_ok .lis3mdl1
      (LIS3MDL.beginI2C (p.resetRegisters lis3mdl2Addr) probes.lis3mdl2 lis3mdl2Addr) hd

theorem initIMU_ok (p : Platform) (probes : ImuProbes) (millis : BitVec 32)
    (hd : ∃ d : Drivers, s.sensorGroup = d.group) :
    ∃ b t, initIMU p probes millis s = .ok (b, t) ∧ ∃ d : Drivers, t.sensorGroup = d.group := by
  obtain ⟨b, u, hu, hdu⟩ : ∃ (b : Bool) (u : Firmware),
      inOrder (beginChip p probes) ImuProbe.order s = .ok (b, u) ∧
        ∃ d : Drivers, u.sensorGroup = d.group := by
    refine exists_inOrder_ok (I := fun v : Firmware => ∃ d : Drivers, v.sensorGroup = d.group) hd ?_
    intro chip _ v hdv
    exact beginChip_ok p probes chip hdv
  refine ⟨b, _, initIMU_eq_ok_iff.mpr ⟨u, hu, rfl⟩, ?_⟩
  cases b with
  | false => exact hdu
  | true => exact hdu

/-- A successful step keeps the drivers' pointers valid, whatever it does to the drivers. -/
theorem drivers_of_step {p : Platform} {nw : NullWrite} {e : Event}
    (hd : ∃ d : Drivers, s.sensorGroup = d.group) (h : OkStep (step p nw) s e t)
    (he : ∀ sensorGroup ble, e ≠ .reboot sensorGroup ble) :
    ∃ d : Drivers, t.sensorGroup = d.group := by
  have hframe := frame_of_effect (effect_of_step h)
  cases e with
  | restoreSettings eepromOk =>
    obtain ⟨b, u, hu, hdu⟩ := restoreSettings_ok eepromOk hd
    rw [OkStep, step, hu] at h
    cases h
    exact hdu
  | initIMU probes millis =>
    obtain ⟨b, u, hu, hdu⟩ := initIMU_ok p probes millis hd
    rw [OkStep, step, hu] at h
    cases h
    exact hdu
  | setupIMUDataRate =>
    obtain ⟨u, hu, hdu⟩ := configureSensors_ok defaultSettings hd
    obtain rfl := Except.ok.inj (hu.symm.trans h)
    exact hdu
  | setupIMUInterrupts =>
    obtain ⟨u, hu, hdu⟩ := setupIMUInterrupts_ok hd
    obtain rfl := Except.ok.inj (hu.symm.trans h)
    exact hdu
  | reboot sensorGroup ble => exact absurd rfl (he sensorGroup ble)
  | _ =>
    rw [show t = _ from hframe]
    exact hd

/-- **With valid pointers no event stops the firmware**, as long as a null write goes
unnoticed. -/
theorem step_ok_of_valid (p : Platform) (hv : s.PointersValid) {e : Event}
    (he : e.KeepsPointers) : ∃ t, step p .ignored s e = .ok t ∧ t.PointersValid := by
  -- a step of the drivers leaves the gamepad's pointers alone
  have hdrivers {t : Firmware} (hstep : step p .ignored s e = .ok t)
      (hd : ∃ d : Drivers, t.sensorGroup = d.group)
      (hble : Frame s e t → t.ble = s.ble) : ∃ t, step p .ignored s e = .ok t ∧ t.PointersValid :=
    ⟨t, hstep, hv.of_drivers hd (hble (frame_of_effect (effect_of_step hstep)))⟩
  cases e with
  | edge pin =>
    refine ⟨_, rfl, ?_⟩
    rw [edge]
    split <;> exact hv
  | restoreSettings eepromOk =>
    obtain ⟨b, t, ht, hdt⟩ := restoreSettings_ok eepromOk hv.drivers
    exact hdrivers (by rw [step, ht]; rfl) hdt fun h => by rw [show t = _ from h]
  | setDefaultSettings uninit => exact ⟨_, rfl, hv⟩
  | initFuelGauge probe =>
    refine ⟨_, rfl, ?_⟩
    rw [initFuelGauge]
    split <;> exact hv
  | initIMU probes millis =>
    obtain ⟨b, t, ht, hdt⟩ := initIMU_ok p probes millis hv.drivers
    exact hdrivers (by rw [step, ht]; rfl) hdt fun h => by rw [show t = _ from h]
  | setupIMUDataRate =>
    obtain ⟨t, ht, hdt⟩ := configureSensors_ok defaultSettings hv.drivers
    exact hdrivers ht hdt fun h => by rw [show t = _ from h]
  | setupIMUInterrupts =>
    obtain ⟨t, ht, hdt⟩ := setupIMUInterrupts_ok hv.drivers
    exact hdrivers ht hdt fun h => by rw [show t = _ from h]
  | loadCalibration eepromOk =>
    refine ⟨_, rfl, ?_⟩
    rw [loadCalibration]
    cases eepromOk <;> exact hv
  | setupBLEGamepad =>
    obtain ⟨g, hg⟩ := hv.gamepad
    obtain ⟨c, hc⟩ := hv.config
    simp only [step, setupBLEGamepad, hg, hc, deref_some, ok_bind]
    exact ⟨_, rfl, { hv with gamepad := ⟨_, rfl⟩, config := ⟨_, rfl⟩ }⟩
  | updateOverallStatusData icVersion => exact ⟨_, rfl, hv⟩
  | readDataIMU i =>
    obtain ⟨d, hd⟩ := hv.drivers
    refine ⟨_, readDataIMU_eq_of_valid p hd i, ?_⟩
    split
    · simp only
      split <;> exact hv
    · exact hv
  | senDataBLE connected =>
    obtain ⟨g, hg⟩ := hv.gamepad
    simp only [step, senDataBLE, hg, deref_some, ok_bind]
    cases connected with
    | false => exact ⟨_, rfl, hv⟩
    | true => exact ⟨_, rfl, { hv with gamepad := ⟨_, rfl⟩ }⟩
  | loop => exact ⟨_, rfl, hv⟩
  | reboot sensorGroup ble => exact ⟨_, rfl, he⟩

/-- With valid pointers a run reaches its end. -/
theorem run_ok_of_valid (p : Platform) {es : List Event} (hv : s.PointersValid)
    (hes : ∀ e ∈ es, e.KeepsPointers) : ∃ t, run p .ignored s es = .ok t ∧ t.PointersValid :=
  exists_foldlM_ok hv fun _ e he hvt => step_ok_of_valid p hvt (hes e he)

end

/-! ### A bench

Concrete surroundings for runs: freshly constructed objects behind every pointer, every chip
present, and one edge of the data-ready line once its handler is attached. -/

/-- A platform on which everything unknown is zero. -/
def Platform.bench : Platform :=
  ⟨fun _ _ => 0, fun _ => 0, fun _ => 0, fun _ => 0, fun _ => 0⟩

def Drivers.new : Drivers := ⟨.new, .new, .new, .new⟩

def Ble.new : Ble := ⟨some .new, some .new⟩

/-- A boot from an image, with freshly constructed objects behind the pointers. -/
def Firmware.bench (image : Image) : Firmware :=
  .powerOn Drivers.new.group .new (fun _ _ => 0) image

def FuelGaugeProbe.bench : FuelGaugeProbe := ⟨true, 0x0011, false, true⟩

def ImuProbes.bench : ImuProbes :=
  ⟨⟨true, LSM6DS3TRC.chipID⟩, ⟨true, LSM6DS3TRC.chipID⟩, ⟨true, LIS3MDL.chipID⟩,
    ⟨true, LIS3MDL.chipID⟩⟩

def SetupInput.bench : SetupInput where
  eepromOk := true
  uninit _ := 0
  fuelGauge := .bench
  probes := .bench
  millis := 0
  calibrationOk := true
  icVersion := 0x0011
  edges k := if k = 6 then [.imu1] else []

theorem Firmware.bench_pointersValid (image : Image) : (Firmware.bench image).PointersValid :=
  ⟨⟨.new, rfl⟩, ⟨_, rfl⟩, ⟨_, rfl⟩⟩

/-- No event of a setup is a reboot. -/
theorem keepsPointers_of_mem_setupScript {i : SetupInput} {s : Firmware} {e : Event}
    (he : e ∈ setupScript i s) : e.KeepsPointers := by
  cases e with
  | reboot sensorGroup ble =>
    exfalso
    revert he
    cases hfound : settingsFound i.eepromOk s <;> cases hall : i.probes.allFound <;>
      simp [setupScript, setupCalls, finalScript, sensorScript, hfound, hall]
  | _ => trivial

/-- **With valid pointers setup completes.** -/
theorem setupApp_ok_of_valid (p : Platform) (i : SetupInput) {s : Firmware}
    (hv : s.PointersValid) : ∃ t, setupApp p i s = .ok t ∧ t.PointersValid := by
  rw [setupApp_eq_run p .ignored]
  exact run_ok_of_valid p hv fun e he => keepsPointers_of_mem_setupScript he

end ImuGamepad
