import ImuGamepad.EepromRecords

/-!
# What counts as a stored calibration

`loadCalibration` accepts the two Euler records if their calibration bytes are not zero. On first
use every byte of the EEPROM is `0xFF`. No call of the firmware ever writes the Euler records, so a
load that reads them finds two bytes nobody wrote, and accepts them.

## Main definitions

* `Event.WritesCalibration` — an event writes the Euler records
* `LoadsOnlyStored` — what is accepted has been written

## Main results

* `Stored.not_writesCalibration` — no event writes the Euler records
* `loadCalibration_eq_true_iff` — what a load accepts
* `loadsOnlyStored_iff` — from an erased EEPROM, only what was stored is loaded exactly if nothing
  is loaded
-/

namespace ImuGamepad

open Runs

/-! ### What is written -/

/-- The event writes the two Euler records. -/
def Event.WritesCalibration (s : Firmware) (e : Event) : Prop :=
  ∀ a, calibrationAddress ≤ a → a < calibrationAddress + 26 → e.Writes s a

/-- **No event writes the Euler records.** -/
theorem Stored.not_writesCalibration {s : Firmware} (hs : Stored s) (e : Event) :
    ¬ e.WritesCalibration s := by
  intro h
  have hlt := hs.lt_of_writes (h calibrationAddress (Nat.le_refl _) (by simp))
  exact absurd hlt (Nat.lt_irrefl _)

/-! ### What is loaded -/

/-- A load accepts the records exactly if it begins the EEPROM and neither calibration byte is
zero. -/
theorem loadCalibration_eq_true_iff {s : Firmware} {eepromOk : Bool} :
    (loadCalibration eepromOk s).1 = true ↔
      eepromOk = true ∧ eulerRecords s.eeprom.committed 12 ≠ 0 ∧
        eulerRecords s.eeprom.committed 25 ≠ 0 := by
  cases eepromOk with
  | false => simp [loadCalibration, EEPROMClass.begin]
  | true =>
    have hrecord₁ (old : Bytes 13) :
        calibation ((s.eeprom.begin true).2.get calibrationAddress old)
          = eulerRecords s.eeprom.committed 12 := by
      rw [EEPROMClass.get_begin_true _ (by decide)]
      rfl
    have hrecord₂ (old : Bytes 13) :
        calibation ((s.eeprom.begin true).2.get (calibrationAddress + 13) old)
          = eulerRecords s.eeprom.committed 25 := by
      rw [EEPROMClass.get_begin_true _ (by decide)]
      rfl
    simp only [loadCalibration, hrecord₁, hrecord₂]
    simp [EEPROMClass.begin]

/-! ### Runs -/

/-- No event of the run has written the Euler records. -/
def Unwritten (p : Platform) (nw : NullWrite) (s : Firmware) (es : List Event) : Prop :=
  Always (OkStep (step p nw)) (fun t e _ => ¬ e.WritesCalibration t) s es

/-- As long as the Euler records have not been written, no load reports them and the flag says that
none are loaded. -/
structure LoadsOnlyStored (p : Platform) (nw : NullWrite) (s : Firmware) (es : List Event) :
    Prop where
  result : ∀ pre eepromOk t, pre ++ [.loadCalibration eepromOk] <+: es →
    Path (OkStep (step p nw)) s pre t → Unwritten p nw s pre →
    (loadCalibration eepromOk t).1 = false
  flag : ∀ pre t, pre <+: es → Path (OkStep (step p nw)) s pre t → Unwritten p nw s pre →
    t.calibrationLoaded = false

/-- The image of an EEPROM that has never been written. -/
def erasedImage : Image := fun _ => 0xFF

/-- The Euler records are erased. -/
structure RecordsErased (s : Firmware) : Prop where
  stored : Stored s
  erased : eulerRecords s.eeprom.contents = fun _ => 0xFF

theorem recordsErased_powerOn (sensorGroup : SensorGroupIMU) (ble : Ble) (bus : Bus) :
    RecordsErased (.powerOn sensorGroup ble bus erasedImage) := by
  refine ⟨stored_powerOn sensorGroup ble bus erasedImage, ?_⟩
  funext j
  exact Bytes.slice_apply j (by have := j.isLt; simp only [calibrationAddress]; omega)

section

variable {p : Platform} {nw : NullWrite} {s t : Firmware} {e : Event} {es : List Event}

theorem RecordsErased.step (hs : RecordsErased s) (h : OkStep (ImuGamepad.step p nw) s e t) :
    RecordsErased t :=
  ⟨hs.stored.step h, (eulerRecords_of_step hs.stored h).trans hs.erased⟩

theorem RecordsErased.path (hs : RecordsErased s)
    (h : Path (OkStep (ImuGamepad.step p nw)) s es t) : RecordsErased t := by
  refine h.invariant hs ?_
  intro u e u' hu hstep
  exact hu.step hstep

/-- **A load that begins the EEPROM accepts erased records.** -/
theorem RecordsErased.loadCalibration (hs : RecordsErased s) :
    (ImuGamepad.loadCalibration true s).1 = true := by
  have herased := hs.erased
  rw [hs.stored.synced.contents_eq] at herased
  rw [loadCalibration_eq_true_iff, herased]
  exact ⟨rfl, by decide, by decide⟩

/-- No run writes the Euler records. -/
theorem Stored.unwritten (hs : Stored s) (es : List Event) : Unwritten p nw s es := by
  refine .of_invariant hs ?_
  intro t e u ht h
  exact ⟨ht.step h, ht.not_writesCalibration e⟩

/-- Only a load that begins the EEPROM sets the flag. -/
theorem calibrationLoaded_of_step (hs : s.calibrationLoaded = false)
    (h : OkStep (step p nw) s e t) (he : e ≠ .loadCalibration true) :
    t.calibrationLoaded = false := by
  have hframe := frame_of_effect (effect_of_step h)
  cases e with
  | loadCalibration eepromOk =>
    cases eepromOk with
    | false =>
      rw [show t = _ from (Except.ok.inj h).symm]
      exact hs
    | true => exact absurd rfl he
  | reboot sensorGroup ble =>
    rw [show t = _ from hframe]
    rfl
  | _ =>
    rw [show t = _ from hframe]
    exact hs

end

/-- **From an erased EEPROM, only what was stored is loaded exactly if no load begins the EEPROM.**
A load that does accepts what nobody wrote. -/
theorem loadsOnlyStored_iff (p : Platform) (nw : NullWrite) (sensorGroup : SensorGroupIMU)
    (ble : Ble) (bus : Bus) (es : List Event) :
    let s := Firmware.powerOn sensorGroup ble bus erasedImage
    LoadsOnlyStored p nw s es ↔
      Always (OkStep (step p nw)) (fun _ e _ => e ≠ .loadCalibration true) s es := by
  intro s
  have hs : RecordsErased s := recordsErased_powerOn sensorGroup ble bus
  constructor
  · intro h
    rw [always_iff]
    intro pre e t u hpre hpath _ he
    rw [he] at hpre
    have hfalse := h.result pre true t hpre hpath (hs.stored.unwritten pre)
    exact Bool.false_ne_true (hfalse.symm.trans (hs.path hpath).loadCalibration)
  · intro h
    constructor
    · intro pre eepromOk t hpre hpath _
      have hne := always_iff.mp h pre _ t _ hpre hpath rfl
      cases eepromOk with
      | false => rfl
      | true => exact absurd rfl hne
    · rintro pre t ⟨post, rfl⟩ hpath _
      have hpre := (always_append_iff.mp h).1
      refine hpre.path_invariant (I := fun u => u.calibrationLoaded = false) hpath rfl ?_
      intro u e u' hu hstep he
      exact calibrationLoaded_of_step hu hstep he

/-- On first use the load of a first boot reports a calibration. -/
theorem loadCalibration_erased :
    (loadCalibration true (.bench erasedImage)).1 = true ∧
      ¬ LoadsOnlyStored .bench .ignored (.bench erasedImage) [.loadCalibration true] := by
  have hs : RecordsErased (.bench erasedImage) := recordsErased_powerOn ..
  refine ⟨hs.loadCalibration, fun h => ?_⟩
  have hfalse := h.result [] true _ (List.prefix_refl _) (.nil _) (always_nil _ _)
  exact Bool.false_ne_true (hfalse.symm.trans hs.loadCalibration)

end ImuGamepad
