import ImuGamepad.EepromRecords
import ImuGamepad.LoopPipeline

/-!
# Calls that the rate gate rejects

`readDataIMU` is called as fast as the loop turns, and is to act at the rate of the filters only.
Its gate comes after the sampling, the calibration and the save, so that a call it rejects has
already written the calibration into the EEPROM. That changes nothing only where the calibration is
there already.

## Main definitions

* `Event.Rejected` — the event is a call that returns at the gate
* `Untouched` — what such a call should leave alone
* `DependsOnPassed` — what is published, and the EEPROM, come from the other calls alone
* `AlreadySaved` — there is nothing to save

## Main results

* `eq_saved_of_rejected` — all that a rejected call does is to save the calibration
* `untouched_iff` — when it changes nothing
* `rejected_calls_iff` — the same for whole runs, and what depends on the other calls alone
-/

namespace ImuGamepad

open Runs

/-! ### One call -/

/-- The event is a call that returns at the rate gate. -/
def Event.Rejected (s : Firmware) : Event → Prop
  | .readDataIMU i => s.imusAvailable = true ∧ gateRejects i.gateMillis s.timestamp
  | _ => False

instance (s : Firmware) : (e : Event) → Decidable (e.Rejected s)
  | .readDataIMU _ => inferInstanceAs (Decidable (_ ∧ _))
  | .edge _ | .restoreSettings _ | .setDefaultSettings _ | .initFuelGauge _ | .initIMU _ _
  | .setupIMUDataRate | .setupIMUInterrupts | .loadCalibration _ | .setupBLEGamepad
  | .updateOverallStatusData _ | .senDataBLE _ | .loop | .reboot _ _ =>
    inferInstanceAs (Decidable False)

/-- The time stamp, the frames and Euler records, the filters, the calibration and the EEPROM are
the same. -/
structure Untouched (s t : Firmware) : Prop where
  sensorRecords : t.sensorRecords = s.sensorRecords
  fillsion1 : t.fillsion1 = s.fillsion1
  fillsion2 : t.fillsion2 = s.fillsion2
  cal : t.cal = s.cal
  eeprom : t.eeprom = s.eeprom

/-- There is nothing to save: the EEPROM has not been begun, or the working copy is stored and
holds the calibration already, as far as it fits. -/
def AlreadySaved (s : Firmware) : Prop :=
  ∀ img, s.eeprom.data = some img → img = s.eeprom.committed ∧
    ∀ (j : Fin 68) (h : s.cal.eeAddr.toNat + j < 512),
      img ⟨s.cal.eeAddr.toNat + j, h⟩ = s.cal.record j

section

variable {p : Platform} {nw : NullWrite} {s t : Firmware} {e : Event}

/-- **All that a rejected call does is to save the calibration.** -/
theorem eq_saved_of_rejected (hr : e.Rejected s) (h : OkStep (step p nw) s e t) : t = s.saved := by
  cases e with
  | readDataIMU i =>
    obtain ⟨havail, hgate⟩ := hr
    have heffect := effect_of_step h
    rw [Effect, if_pos havail] at heffect
    obtain ⟨sample1, sample2, ht⟩ := heffect
    rw [ht]
    exact if_pos hgate
  | _ => exact hr.elim

theorem saved_eq_self_iff : s.saved = s ↔ AlreadySaved s := by
  rw [AlreadySaved, ← SensorCalibration.saveCalibration_eq_self_iff]
  constructor
  · intro h
    exact congrArg Firmware.eeprom h
  · intro h
    rw [Firmware.saved, h]

/-- **A rejected call touches nothing exactly if there is nothing to save.** -/
theorem untouched_iff (h : OkStep (step p nw) s e t) :
    (e.Rejected s → Untouched s t) ↔ (e.Rejected s → AlreadySaved s) := by
  refine forall_congr' fun hr => ?_
  have ht := eq_saved_of_rejected hr h
  constructor
  · intro huntouched
    rw [← saved_eq_self_iff, Firmware.saved]
    have heeprom := huntouched.eeprom
    rw [ht] at heeprom
    rw [show s.cal.saveCalibration s.eeprom = s.eeprom from heeprom]
  · intro hsaved
    rw [ht, saved_eq_self_iff.mpr hsaved]
    exact ⟨rfl, rfl, rfl, rfl, rfl⟩

end

/-! ### Runs -/

/-- What is published, and the EEPROM, are the same without the calls that the gate rejects. -/
def DependsOnPassed (p : Platform) (nw : NullWrite) (s : Firmware) (es : List Event) : Prop :=
  ∀ t, Path (OkStep (step p nw)) s es t →
    ∃ t', Path (OkStep (step p nw)) s (kept (step p nw) (fun u e => e.Rejected u) s es) t' ∧
      t'.observed = t.observed ∧ t'.eeprom = t.eeprom

/-- **Rejected calls touch nothing, and what is published and stored depends on the other calls
alone, exactly as long as there is nothing to save when the gate rejects.** -/
theorem rejected_calls_iff (p : Platform) (nw : NullWrite) (s : Firmware) (es : List Event) :
    (Always (OkStep (step p nw)) (fun t e u => e.Rejected t → Untouched t u) s es ∧
        DependsOnPassed p nw s es) ↔
      Always (OkStep (step p nw)) (fun t e _ => e.Rejected t → AlreadySaved t) s es := by
  have hcongr : Always (OkStep (step p nw)) (fun t e u => e.Rejected t → Untouched t u) s es ↔
      Always (OkStep (step p nw)) (fun t e _ => e.Rejected t → AlreadySaved t) s es := by
    refine always_congr (I := fun _ => True) trivial ?_ fun _ _ _ _ _ _ => trivial
    intro t e u _ hstep
    exact untouched_iff hstep
  rw [hcongr]
  refine and_iff_left_of_imp ?_
  intro hsaved t hpath
  -- where there is nothing to save, a rejected call leaves the state as it is
  have hsame : Always (OkStep (step p nw)) (fun u e u' => e.Rejected u → u' = u) s es := by
    rw [always_iff]
    intro pre e u u' hpre hu hstep hr
    have halready := always_iff.mp hsaved pre e u u' hpre hu hstep hr
    exact (eq_saved_of_rejected hr hstep).trans (saved_eq_self_iff.mpr halready)
  exact ⟨t, .of_kept hsame hpath, rfl, rfl⟩

/-- A first boot as far as the sensors go, and a call 40 ms later, whose `getEvent` returns: in what
follows its null temperature write is ignored. -/
def earlyCall : List Event :=
  [.restoreSettings true, .initIMU .bench 0, .readDataIMU (.ofSamples .atRest .atRest 40 40)]

theorem earlyCall_state :
    (run .bench .ignored (.bench fun _ => 0) (earlyCall.take 2)).map
        (fun t => (t.imusAvailable, t.timestamp, t.eeprom.data.map fun img => img 0))
      = .ok (true, 0, some 0) := by
  decide +kernel

theorem gateRejects_earlyCall : gateRejects 40 0 := by
  decide +kernel

/-- The call is rejected, and writes the calibration into an EEPROM that held zeros. -/
theorem earlyCall_saves :
    ¬ (Always (OkStep (step .bench .ignored)) (fun t e u => e.Rejected t → Untouched t u)
          (.bench fun _ => 0) earlyCall ∧
        DependsOnPassed .bench .ignored (.bench fun _ => 0) earlyCall) := by
  rintro ⟨h, -⟩
  have hpre : ∀ e ∈ earlyCall.take 2, e.KeepsPointers := by simp [earlyCall, Event.KeepsPointers]
  obtain ⟨t, ht, hvt⟩ := run_ok_of_valid .bench (Firmware.bench_pointersValid fun _ => 0) hpre
  have hpath := path_okStep_iff.mpr ht
  have hstate := earlyCall_state
  rw [ht] at hstate
  simp only [Except.map, Except.ok.injEq, Prod.mk.injEq, Option.map_eq_some_iff] at hstate
  obtain ⟨havail, htime, img, himg, hzero⟩ := hstate
  -- the call goes through, and is rejected
  obtain ⟨u, hu, -⟩ := step_ok_of_valid .bench hvt
    (e := .readDataIMU (.ofSamples .atRest .atRest 40 40)) trivial
  have hrejected : (Event.readDataIMU (.ofSamples .atRest .atRest 40 40)).Rejected t :=
    ⟨havail, by rw [htime]; exact gateRejects_earlyCall⟩
  have huntouched := (always_append_iff.mp h).2 t hpath u hu
  have hsaved := (untouched_iff hu).mp huntouched.1 hrejected
  -- so the first byte of the calibration would have been there
  have hcal : t.cal = .default :=
    (hpath.invariant (stored_powerOn ..) fun _ _ _ hv hstep => hv.step hstep).cal
  have hindex : t.cal.eeAddr.toNat + ((0 : Fin 68) : ℕ) = 0 := by
    rw [hcal]
    rfl
  have hfirst : img 0 = t.cal.record 0 := by
    rw [← (hsaved img himg).2 0 (by omega)]
    exact congrArg img (Fin.ext hindex.symm)
  rw [hzero, t.cal.record_magic.1] at hfirst
  exact absurd hfirst (by decide)

end ImuGamepad
