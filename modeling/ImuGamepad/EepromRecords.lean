import ImuGamepad.FrameDecode

/-!
# The records in the EEPROM

Three records share one image: the settings from address 0, the two Euler records from address
0x100, and the sensor calibration, which is saved at the address its object was begun with. The
firmware never begins that object, so the calibration is saved at address 0, over the settings.

Seen from the EEPROM every event is one of five operations (`Event.onEeprom`), and in every
reachable state the working copy holds nothing that is not stored. So it does not matter when a
reboot comes.

## Main definitions

* `Event.onEeprom` — what an event does to the EEPROM
* `Event.Writes` — the addresses an event writes
* `KeepsRecords` — an event damages no record that is not its own
* `Remembers` — once settings are stored, a restore finds them
* `LeavesSettings` — the condition on the sampling under which the settings survive

## Main results

* `eeprom_of_effect` — the EEPROM after an event
* `contents_of_not_writes`, `eulerRecords_of_step` — what is not written stays as it is
* `keepsRecords_iff` — one event damages a record only by sampling, and then by the first bytes of
  the calibration
* `not_validationFlag_readDataIMU` — a sampling leaves no valid settings
* `records_kept_iff` — the same for whole runs, and what is remembered in them
-/

namespace ImuGamepad

open Conversion Runs

/-! ### The EEPROM as a system of its own -/

/-- What an event does to the EEPROM. -/
def Event.onEeprom (s : Firmware) : Event → EEPROMClass
  | .restoreSettings eepromOk => (s.eeprom.begin eepromOk).2
  | .setDefaultSettings uninit => (ImuGamepad.setDefaultSettings uninit s).eeprom
  | .loadCalibration eepromOk => (s.eeprom.begin eepromOk).2
  | .readDataIMU _ => if s.imusAvailable then s.cal.saveCalibration s.eeprom else s.eeprom
  | .reboot _ _ => ⟨s.eeprom.committed, none⟩
  | _ => s.eeprom

/-- The EEPROM after an event. And no event changes the calibration parameters: they stay as their
constructor left them. -/
theorem eeprom_of_effect {p : Platform} {s t : Firmware} {e : Event} (h : Effect p s e t) :
    t.eeprom = e.onEeprom s ∧ (s.cal = .default → t.cal = .default) := by
  have hframe := frame_of_effect h
  cases e with
  | restoreSettings eepromOk => rw [show t = _ from h]; exact ⟨rfl, id⟩
  | setDefaultSettings uninit => rw [show t = _ from h]; exact ⟨rfl, id⟩
  | loadCalibration eepromOk =>
    rw [show t = _ from h, loadCalibration]
    cases eepromOk <;> exact ⟨rfl, id⟩
  | readDataIMU i =>
    refine ⟨?_, by rw [show t = _ from hframe]; exact id⟩
    simp only [Effect] at h
    split at h
    · rename_i havail
      obtain ⟨sample1, sample2, rfl⟩ := h
      rw [Event.onEeprom, if_pos havail]
      split <;> rfl
    · rename_i havail
      rw [h, Event.onEeprom, if_neg havail]
  | reboot sensorGroup ble => rw [show t = _ from h]; exact ⟨rfl, fun _ => rfl⟩
  | _ => rw [show t = _ from hframe]; exact ⟨rfl, id⟩

/-- What every reachable state satisfies: nothing is unstored, and the calibration object is as its
constructor left it. -/
structure Stored (s : Firmware) : Prop where
  synced : s.eeprom.Synced
  cal : s.cal = .default

theorem stored_powerOn (sensorGroup : SensorGroupIMU) (ble : Ble) (bus : Bus) (image : Image) :
    Stored (.powerOn sensorGroup ble bus image) := by
  refine ⟨?_, rfl⟩
  rintro img ⟨⟩

/-- Every event keeps it. -/
theorem Stored.step {p : Platform} {nw : NullWrite} {s t : Firmware} {e : Event} (hs : Stored s)
    (h : OkStep (step p nw) s e t) : Stored t := by
  obtain ⟨heeprom, hcal⟩ := eeprom_of_effect (effect_of_step h)
  refine ⟨?_, hcal hs.cal⟩
  rw [heeprom]
  cases e with
  | restoreSettings eepromOk => exact hs.synced.begin eepromOk
  | setDefaultSettings uninit => exact EEPROMClass.synced_commit _
  | loadCalibration eepromOk => exact hs.synced.begin eepromOk
  | readDataIMU i =>
    change (if s.imusAvailable then _ else _ : EEPROMClass).Synced
    split
    · exact SensorCalibration.synced_saveCalibration _ _
    · exact hs.synced
  | reboot sensorGroup ble => rintro img ⟨⟩
  | _ => exact hs.synced

/-! ### The records -/

/-- The settings record: the flag and the union behind it. -/
def settingsRecord (img : Image) : Bytes 17 := img.slice settingAddress 17

/-- The two Euler records. -/
def eulerRecords (img : Image) : Bytes 26 := img.slice calibrationAddress 26

/-- The settings record decides what a restore finds. -/
theorem restored_congr {img img' : Image} (h : settingsRecord img = settingsRecord img') :
    (validationFlag img ↔ validationFlag img') ∧ storedSettings img = storedSettings img' := by
  have hflag (img : Image) : (settingsRecord img).slice 0 2 = img.slice settingAddress 2 :=
    Bytes.slice_slice (by omega)
  have hconfig (img : Image) :
      (settingsRecord img).slice 2 15 = img.slice (settingAddress + 2) 15 :=
    Bytes.slice_slice (by omega)
  constructor
  · rw [validationFlag, validationFlag, ← hflag, ← hflag, h]
  · rw [storedSettings, storedSettings, ← hconfig, ← hconfig, h]

/-! ### What is written -/

/-- The event writes the byte at an address. -/
def Event.Writes (s : Firmware) (a : ℕ) : Event → Prop
  | .setDefaultSettings _ =>
    s.eeprom.data ≠ none ∧ settingAddress ≤ a ∧ a < settingAddress + 17
  | .readDataIMU _ =>
    s.imusAvailable = true ∧ s.eeprom.data ≠ none ∧
      s.cal.eeAddr.toNat ≤ a ∧ a < s.cal.eeAddr.toNat + 68
  | _ => False

section

variable {p : Platform} {nw : NullWrite} {s t : Firmware} {e : Event}

/-- **A byte that is not written stays as it is.** -/
theorem contents_of_not_writes (hs : Stored s) (h : OkStep (step p nw) s e t) {i : Fin 512}
    (hi : ¬ e.Writes s i) : t.eeprom.contents i = s.eeprom.contents i := by
  have heeprom := (eeprom_of_effect (effect_of_step h)).1
  cases e with
  | restoreSettings eepromOk => rw [heeprom, ← hs.synced.begin_contents eepromOk]; rfl
  | loadCalibration eepromOk => rw [heeprom, ← hs.synced.begin_contents eepromOk]; rfl
  | setDefaultSettings uninit =>
    rw [heeprom, Event.onEeprom]
    cases hdata : s.eeprom.data with
    | none => rw [setDefaultSettings_of_none _ hdata]
    | some img =>
      simp only [Event.Writes, hdata, settingAddress] at hi
      rw [setDefaultSettings_of_data _ hdata]
      simp only [EEPROMClass.contents, hdata, Option.getD_some, withSettings, settingAddress]
      rw [Bytes.splice_of_not_mem (by simp at hi; omega),
        Bytes.splice_of_not_mem (by simp at hi; omega)]
  | readDataIMU i =>
    rw [heeprom, Event.onEeprom]
    cases havail : s.imusAvailable with
    | false => rfl
    | true =>
    cases hdata : s.eeprom.data with
    | none => rw [if_pos rfl, SensorCalibration.saveCalibration_of_none hdata]
    | some img =>
      simp only [Event.Writes, havail, hdata] at hi
      rw [if_pos rfl, SensorCalibration.saveCalibration_of_data hdata]
      simp only [EEPROMClass.contents, hdata, Option.getD_some]
      rw [Bytes.splice_of_not_mem (by simp at hi; omega)]
  | reboot sensorGroup ble => rw [heeprom, hs.synced.contents_eq]; rfl
  | _ => rw [heeprom]; rfl

/-- Everything that is written lies before the Euler records. -/
theorem Stored.lt_of_writes (hs : Stored s) {a : ℕ} (h : e.Writes s a) :
    a < calibrationAddress := by
  have haddr : SensorCalibration.default.eeAddr.toNat = 0 := rfl
  cases e with
  | setDefaultSettings uninit =>
    obtain ⟨-, -, hlt⟩ := h
    simp only [settingAddress, calibrationAddress] at hlt ⊢
    omega
  | readDataIMU i =>
    obtain ⟨-, -, -, hlt⟩ := h
    rw [hs.cal, haddr] at hlt
    simp only [calibrationAddress]
    omega
  | _ => exact h.elim

/-- **No event changes the Euler records.** -/
theorem eulerRecords_of_step (hs : Stored s) (h : OkStep (step p nw) s e t) :
    eulerRecords t.eeprom.contents = eulerRecords s.eeprom.contents := by
  refine (Bytes.slice_eq_iff (by decide)).mpr fun i hi _ => ?_
  exact contents_of_not_writes hs h fun hwrites =>
    absurd (hs.lt_of_writes hwrites) (Nat.not_lt.mpr hi)

end

/-! ### One event -/

/-- The event damages no record that is not its own: only `setDefaultSettings` changes the settings
record, and nothing changes the Euler records. -/
def KeepsRecords (s : Firmware) (e : Event) (t : Firmware) : Prop :=
  ((∀ uninit, e ≠ .setDefaultSettings uninit) →
      settingsRecord t.eeprom.contents = settingsRecord s.eeprom.contents) ∧
    eulerRecords t.eeprom.contents = eulerRecords s.eeprom.contents

/-- The event is no sampling that saves the calibration over other settings bytes: the sensors are
not available, or the EEPROM has not been begun, or the bytes are the same. -/
def LeavesSettings (s : Firmware) : Event → Prop
  | .readDataIMU _ => s.imusAvailable = true → s.eeprom.data ≠ none →
      settingsRecord s.eeprom.contents = SensorCalibration.default.record.slice 0 17
  | _ => True

/-- A sampling saves the calibration from address 0 on. -/
theorem contents_readDataIMU {p : Platform} {nw : NullWrite} {s t : Firmware} {i : ImuInput}
    {img : Image} (hs : Stored s) (havail : s.imusAvailable = true)
    (hdata : s.eeprom.data = some img) (h : OkStep (step p nw) s (.readDataIMU i) t) :
    t.eeprom.contents = img.splice 0 SensorCalibration.default.record := by
  have heeprom := (eeprom_of_effect (effect_of_step h)).1
  rw [Event.onEeprom, if_pos havail, hs.cal, SensorCalibration.saveCalibration_of_data hdata]
    at heeprom
  rw [heeprom]
  rfl

/-- **A sampling leaves no valid settings**, once the EEPROM has been begun. -/
theorem not_validationFlag_readDataIMU {p : Platform} {nw : NullWrite} {s t : Firmware}
    {i : ImuInput} (hs : Stored s) (havail : s.imusAvailable = true)
    (hdata : s.eeprom.data ≠ none) (h : OkStep (step p nw) s (.readDataIMU i) t) :
    ¬ validationFlag t.eeprom.contents := by
  obtain ⟨img, himg⟩ := Option.ne_none_iff_exists'.mp hdata
  rw [contents_readDataIMU hs havail himg h, validationFlag, settingAddress,
    Bytes.slice_splice_inside (by omega) (by omega) (by omega)]
  intro hflag
  -- the flag and the first two bytes of the calibration are different words
  have hbytes := Bytes.toWord_injective rfl
    (hflag.trans (Bytes.toWord_ofWord (k := 2) rfl settingsValidFlag).symm)
  have hfirst : SensorCalibration.default.record 0 = Bytes.ofWord 2 settingsValidFlag 0 :=
    congrFun hbytes 0
  rw [SensorCalibration.default.record_magic.1] at hfirst
  exact absurd hfirst (by decide)

/-- **An event damages a record only by sampling**, and then by the first bytes of the
calibration. -/
theorem keepsRecords_iff {p : Platform} {nw : NullWrite} {s t : Firmware} {e : Event}
    (hs : Stored s) (h : OkStep (step p nw) s e t) : KeepsRecords s e t ↔ LeavesSettings s e := by
  have heuler := eulerRecords_of_step hs h
  -- an event that writes nothing keeps the settings record too
  have hkeeps (hno : ∀ i : Fin 512, ¬ e.Writes s i) : KeepsRecords s e t := by
    have hsame : t.eeprom.contents = s.eeprom.contents :=
      funext fun i => contents_of_not_writes hs h (hno i)
    exact ⟨fun _ => by rw [hsame], heuler⟩
  cases e with
  | setDefaultSettings uninit =>
    exact iff_of_true ⟨fun hne => absurd rfl (hne uninit), heuler⟩ trivial
  | readDataIMU i =>
    by_cases hsave : s.imusAvailable = true ∧ s.eeprom.data ≠ none
    · obtain ⟨havail, hdata⟩ := hsave
      obtain ⟨img, himg⟩ := Option.ne_none_iff_exists'.mp hdata
      have hsettings : settingsRecord t.eeprom.contents
          = SensorCalibration.default.record.slice 0 17 := by
        rw [contents_readDataIMU hs havail himg h, settingsRecord, settingAddress,
          Bytes.slice_splice_inside (by omega) (by omega) (by omega)]
      rw [KeepsRecords, hsettings, and_iff_left heuler]
      simp [LeavesSettings, havail, hdata, eq_comm]
    · refine iff_of_true (hkeeps fun _ hwrites => hsave ⟨hwrites.1, hwrites.2.1⟩) ?_
      exact fun havail hdata => absurd ⟨havail, hdata⟩ hsave
  | _ => exact iff_of_true (hkeeps fun _ => id) trivial

/-! ### Runs -/

/-- A restore finds the default settings. -/
def RestoresDefaults (s : Firmware) : Prop :=
  ∀ found t, restoreSettings true s = .ok (found, t) →
    found = true ∧ storedSettings s.eeprom.committed = defaultSettings

/-- Once `setDefaultSettings` has run, every later restore finds the default settings. Before the
EEPROM is begun there is nothing to commit to, so the call is asked to come after that. -/
def Remembers (p : Platform) (nw : NullWrite) (s : Firmware) (es : List Event) : Prop :=
  ∀ pre uninit mid t u, pre ++ .setDefaultSettings uninit :: mid <+: es →
    Path (OkStep (step p nw)) s pre t → t.eeprom.data ≠ none →
    Path (OkStep (step p nw)) (setDefaultSettings uninit t) mid u → RestoresDefaults u

/-- The settings record holds the default settings. -/
structure HoldsDefaults (img : Image) : Prop where
  flag : validationFlag img
  settings : storedSettings img = defaultSettings

section

variable {p : Platform} {nw : NullWrite} {s t : Firmware}

theorem holdsDefaults_setDefaultSettings (uninit : Bytes 15) (h : s.eeprom.data ≠ none) :
    HoldsDefaults (setDefaultSettings uninit s).eeprom.contents := by
  obtain ⟨img, himg⟩ := Option.ne_none_iff_exists'.mp h
  rw [setDefaultSettings_of_data _ himg]
  exact ⟨validationFlag_withSettings .., storedSettings_withSettings ..⟩

/-- An event that damages no record keeps the default settings, -/
theorem HoldsDefaults.step {e : Event} (hd : HoldsDefaults s.eeprom.contents)
    (h : OkStep (step p nw) s e t) (hk : KeepsRecords s e t) :
    HoldsDefaults t.eeprom.contents := by
  by_cases hset : ∃ uninit, e = .setDefaultSettings uninit
  · obtain ⟨uninit, rfl⟩ := hset
    obtain rfl : setDefaultSettings uninit s = t := Except.ok.inj h
    by_cases hdata : s.eeprom.data = none
    · rwa [setDefaultSettings_of_none _ hdata]
    · exact holdsDefaults_setDefaultSettings uninit hdata
  · obtain ⟨hflag, hsettings⟩ := restored_congr (hk.1 fun uninit he => hset ⟨uninit, he⟩)
    exact ⟨hflag.mpr hd.flag, hsettings.trans hd.settings⟩

/-- and a restore finds them. -/
theorem HoldsDefaults.restores (hs : Stored s) (hd : HoldsDefaults s.eeprom.contents) :
    RestoresDefaults s := by
  intro found t h
  rw [hs.synced.contents_eq] at hd
  refine ⟨?_, hd.settings⟩
  rw [(restoreSettings_frame h).1, settingsFound, decide_eq_true hd.flag, Bool.and_self]

/-- Where no record is damaged, what is stored is remembered. -/
theorem remembers_of_keeps {es : List Event} (hs : Stored s)
    (h : Always (OkStep (step p nw)) KeepsRecords s es) : Remembers p nw s es := by
  rintro pre uninit mid t u ⟨post, rfl⟩ hpre hbegun hmid
  have hst : Stored t := hpre.invariant hs fun _ _ _ hv hstep => hv.step hstep
  have hset : OkStep (step p nw) t (.setDefaultSettings uninit) (setDefaultSettings uninit t) := rfl
  rw [List.append_assoc, List.cons_append, always_append_iff] at h
  have hmids := (always_append_iff.mp (h.2 t hpre _ hset).2).1
  obtain ⟨hsu, hdu⟩ := hmids.path_invariant
    (I := fun v => Stored v ∧ HoldsDefaults v.eeprom.contents)
    hmid ⟨hst.step hset, holdsDefaults_setDefaultSettings uninit hbegun⟩
    fun _ _ _ hv hstep hk => ⟨hv.1.step hstep, hv.2.step hstep hk⟩
  exact hdu.restores hsu

end

/-- **The records are kept, and the settings remembered, exactly as long as no sampling saves the
calibration over them.** -/
theorem records_kept_iff (p : Platform) (nw : NullWrite) (sensorGroup : SensorGroupIMU) (ble : Ble)
    (bus : Bus) (image : Image) (es : List Event) :
    let s := Firmware.powerOn sensorGroup ble bus image
    (Always (OkStep (step p nw)) KeepsRecords s es ∧ Remembers p nw s es) ↔
      Always (OkStep (step p nw)) (fun t e _ => LeavesSettings t e) s es := by
  intro s
  have hs : Stored s := stored_powerOn sensorGroup ble bus image
  have hcongr : Always (OkStep (step p nw)) KeepsRecords s es ↔
      Always (OkStep (step p nw)) (fun t e _ => LeavesSettings t e) s es :=
    always_congr hs (fun t e t' ht hstep => keepsRecords_iff ht hstep)
      fun t e t' ht hstep _ => ht.step hstep
  rw [← hcongr]
  exact and_iff_left_of_imp (remembers_of_keeps hs)

/-- A first boot as far as the EEPROM goes, the first sample, and a reboot. The null temperature
write of `getEvent` is ignored in what follows, so that the sample is read. -/
def firstSample : List Event :=
  [.restoreSettings true, .setDefaultSettings fun _ => 0, .initIMU .bench 0,
    .readDataIMU (.ofSamples .atRest .atRest 80 80), .reboot Drivers.new.group .new]

theorem firstSample_flag :
    (run .bench .ignored (.bench fun _ => 0) firstSample).map
        (fun t => (t.eeprom.committed 0, t.eeprom.committed 1, settingsFound true t))
      = .ok (0x75, 0x54, false) := by
  decide +kernel

theorem firstSample_begun :
    (run .bench .ignored (.bench fun _ => 0) [.restoreSettings true]).map
        (fun t => t.eeprom.data.isSome) = .ok true := by
  decide +kernel

/-- The first sample overwrites the flag of the settings, and after the reboot none are found. -/
theorem firstSample_erases_settings :
    ∃ t u, run .bench .ignored (.bench fun _ => 0) firstSample = .ok t ∧
      t.eeprom.committed 0 = 0x75 ∧ t.eeprom.committed 1 = 0x54 ∧
      restoreSettings true t = .ok (false, u) ∧
      ¬ Remembers .bench .ignored (.bench fun _ => 0) firstSample := by
  have hreboot : PointersValid Drivers.new.group .new := Firmware.bench_pointersValid fun _ => 0
  have hpre : ∀ e ∈ [Event.restoreSettings true], e.KeepsPointers := by simp [Event.KeepsPointers]
  obtain ⟨s₁, h₁, hv₁⟩ := run_ok_of_valid .bench (Firmware.bench_pointersValid fun _ => 0) hpre
  let mid : List Event := [.initIMU .bench 0, .readDataIMU (.ofSamples .atRest .atRest 80 80),
    .reboot Drivers.new.group .new]
  have hmid : ∀ e ∈ mid, e.KeepsPointers := by simp [mid, Event.KeepsPointers, hreboot]
  obtain ⟨t, ht, hvt⟩ := run_ok_of_valid .bench (s := setDefaultSettings (fun _ => 0) s₁) hv₁ hmid
  have hrun : run .bench .ignored (.bench fun _ => 0) firstSample = .ok t := by
    rw [show firstSample = [.restoreSettings true] ++ .setDefaultSettings (fun _ => 0) :: mid from
      rfl, run_append, h₁, ok_bind, run_cons]
    exact ht
  have hflag := firstSample_flag
  have hbegun := firstSample_begun
  rw [hrun] at hflag
  rw [h₁] at hbegun
  simp only [Except.map, Except.ok.injEq, Prod.mk.injEq] at hflag hbegun
  obtain ⟨h75, h54, hfound⟩ := hflag
  obtain ⟨found, u, hu, -⟩ := restoreSettings_ok true hvt.drivers
  obtain rfl : found = false := (restoreSettings_frame hu).1.trans hfound
  refine ⟨t, u, hrun, h75, h54, hu, fun hremembers => ?_⟩
  have hdata : s₁.eeprom.data ≠ none := Option.isSome_iff_ne_none.mp hbegun
  have hfinds := hremembers [.restoreSettings true] _ mid s₁ t (List.prefix_refl _)
    (path_okStep_iff.mpr h₁) hdata (path_okStep_iff.mpr ht) false u hu
  exact Bool.false_ne_true hfinds.1

end ImuGamepad
