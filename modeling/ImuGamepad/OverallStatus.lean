import ImuGamepad.Steps

/-!
# The overall status record

The record's summary code should say whether any of its detail codes is `FAILED`, and a probe
failure that `initIMU` finds should be visible in it. Three functions stand in the way.
`initFuelGauge` leaves the summary code alone when it succeeds, though the failure it reported may
have been the gauge's own; `initIMU` reports into a local variable; and `updateOverallStatusData`
writes `NO_ERROR` whatever the detail codes say.

## Main definitions

* `Truthful`, `ProbeFailureVisible` — what the record should say
* `TellsTruth` — what every completed call should leave
* `TruthCondition` — the calls that do leave it

## Main results

* `tellsTruth_iff` — a run leaves the record truthful after every call exactly when every call
  meets the condition
-/

namespace ImuGamepad

open Runs

/-! ### What the record should say -/

/-- The summary code says whether a detail code is `FAILED`. -/
def Truthful (status : OverallStatusData) : Prop :=
  status.statusCode = .GENERAL_ERROR ↔
    status.fuelgauseStatus = .FAILED ∨ status.imu1Status = .FAILED ∨ status.imu2Status = .FAILED

/-- The failure of a probe is visible as the status of its IMU. The second accelerometer is only
looked for once the first one is found. -/
def ProbeFailureVisible (probes : ImuProbes) (status : OverallStatusData) : Prop :=
  (probes.lsm6ds1Found = false → status.imu1Status = .FAILED) ∧
    (probes.lsm6ds1Found = true → probes.lsm6ds2Found = false → status.imu2Status = .FAILED)

/-- What a completed call should leave. -/
def TellsTruth (_ : Firmware) (e : Event) (t : Firmware) : Prop :=
  match e with
  | .initFuelGauge _ => Truthful t.overallStatusDatapPacked
  | .initIMU probes _ =>
    Truthful t.overallStatusDatapPacked ∧ ProbeFailureVisible probes t.overallStatusDatapPacked
  | .updateOverallStatusData _ => Truthful t.overallStatusDatapPacked
  | _ => True

/-- The calls that leave it: a fuel gauge that is found although the record reports an error only
where an IMU has failed too; a probe failure that the record shows already; an update that finds
the fuel gauge and the IMUs ready. -/
def TruthCondition (s : Firmware) (e : Event) : Prop :=
  let status := s.overallStatusDatapPacked
  match e with
  | .initFuelGauge probe =>
    probe.begin = true → status.statusCode = .GENERAL_ERROR →
      status.imu1Status = .FAILED ∨ status.imu2Status = .FAILED
  | .initIMU probes _ => ProbeFailureVisible probes status
  | .updateOverallStatusData icVersion => isDeviceReady icVersion = true ∧ s.imuDataReady = true
  | _ => True

/-! ### One call -/

theorem truthful_initFuelGauge_iff {s : Firmware} (h : Truthful s.overallStatusDatapPacked)
    (probe : FuelGaugeProbe) :
    Truthful (initFuelGauge probe s).2.overallStatusDatapPacked ↔
      TruthCondition s (.initFuelGauge probe) := by
  rw [Truthful] at h
  cases hb : probe.begin with
  | false => simp [Truthful, TruthCondition, initFuelGauge, hb]
  | true =>
    simp only [Truthful, TruthCondition, initFuelGauge, hb, Bool.not_true, Bool.false_eq_true,
      if_false, forall_const, reduceCtorEq, false_or]
    exact ⟨Iff.mp, fun hmp => ⟨hmp, fun hor => h.mpr (Or.inr hor)⟩⟩

theorem truthful_updateOverallStatusData_iff (icVersion : BitVec 16) (s : Firmware) :
    Truthful (updateOverallStatusData icVersion s).overallStatusDatapPacked ↔
      TruthCondition s (.updateOverallStatusData icVersion) := by
  cases hr : isDeviceReady icVersion <;> cases hi : s.imuDataReady <;>
    simp [Truthful, TruthCondition, updateOverallStatusData, hr, hi]

/-- The record after an event that is none of the three calls. -/
theorem status_of_effect {p : Platform} {s t : Firmware} {e : Event} (h : Effect p s e t) :
    t.overallStatusDatapPacked = s.overallStatusDatapPacked ∨
      (∃ probe, e = .initFuelGauge probe) ∨ (∃ icVersion, e = .updateOverallStatusData icVersion) ∨
      t.overallStatusDatapPacked = ⟨.NO_ERROR, .NOT_DETECT, .NOT_DETECT, .NOT_DETECT⟩ := by
  have hframe := frame_of_effect h
  cases e with
  | initFuelGauge probe => exact Or.inr (Or.inl ⟨probe, rfl⟩)
  | updateOverallStatusData icVersion => exact Or.inr (Or.inr (Or.inl ⟨icVersion, rfl⟩))
  | reboot sensorGroup ble => right; right; right; rw [show t = _ from hframe]; rfl
  | _ => left; rw [show t = _ from hframe]

/-! ### Runs -/

/-- **A run leaves the record truthful after every call exactly when every call meets the
condition**, inside setup as well as after it. -/
theorem tellsTruth_iff (p : Platform) (nw : NullWrite) (sensorGroup : SensorGroupIMU) (ble : Ble)
    (bus : Bus) (image : Image) (i : SetupInput) (es : List Event) :
    let s := Firmware.powerOn sensorGroup ble bus image
    Always (OkStep (step p nw)) TellsTruth s (setupScript i s ++ es) ↔
      Always (OkStep (step p nw)) (fun s e _ => TruthCondition s e) s (setupScript i s ++ es) := by
  intro s
  have hinit : Truthful s.overallStatusDatapPacked := by
    simp [s, Truthful, Firmware.powerOn]
  refine always_congr (I := fun s => Truthful s.overallStatusDatapPacked) hinit ?_ ?_
  · intro u e t hu hstep
    have heffect := effect_of_step hstep
    cases e with
    | initFuelGauge probe =>
      rw [show t = _ from heffect]
      exact truthful_initFuelGauge_iff hu probe
    | initIMU probes millis =>
      have hstatus : t.overallStatusDatapPacked = u.overallStatusDatapPacked := by
        rw [show t = _ from frame_of_effect heffect]
      simp only [TellsTruth, TruthCondition, hstatus]
      exact and_iff_right hu
    | updateOverallStatusData icVersion =>
      rw [show t = _ from heffect]
      exact truthful_updateOverallStatusData_iff icVersion u
    | _ => exact Iff.rfl
  · intro u e t hu hstep htruth
    rcases status_of_effect (effect_of_step hstep) with h | ⟨probe, rfl⟩ | ⟨icVersion, rfl⟩ | h
    · rwa [h]
    · exact htruth
    · exact htruth
    · rw [h]
      simp [Truthful]

/-- A fuel gauge that has gone by the end of setup is `FAILED` beside a summary of `NO_ERROR`. -/
theorem not_tellsTruth_gauge_gone :
    ¬ Always (OkStep (step .bench .ignored)) TellsTruth (Firmware.bench fun _ => 0)
      (setupScript { SetupInput.bench with icVersion := 0xFFFF } (Firmware.bench fun _ => 0) ++
        []) := by
  intro h
  rw [List.append_nil] at h
  obtain ⟨t, ht, -⟩ := run_ok_of_valid .bench (Firmware.bench_pointersValid fun _ => 0)
    (fun e he => keepsPointers_of_mem_setupScript
      (i := { SetupInput.bench with icVersion := 0xFFFF }) (List.mem_append_left _ he))
  have hlast := h.last (path_okStep_iff.mpr ht) rfl
  have hready := ((truthful_updateOverallStatusData_iff 0xFFFF t).mp hlast).1
  exact absurd hready (by decide)

end ImuGamepad
