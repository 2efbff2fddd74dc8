import ImuGamepad.FrameDecode

/-!
# The main loop and the sampling pipeline

One step of the sampling pipeline is a `readDataIMU` and then a `senDataBLE`. The loop is to take
such a step on every pass and takes none, so that it keeps up with the pipeline exactly as long as
the pipeline finds nothing to do.

## Main definitions

* `pipelineStep` — one step of the pipeline, on a sample, clock readings and a connection state
* `Firmware.observed` — the records the pipeline maintains, and the values clients read
* `Quiet` — an input on which a pipeline step finds nothing to do

## Main results

* `observed_pipelineStep_iff` — a step keeps what is observed exactly on a quiet input
* `loop_pipeline_iff` — the loop stays with the pipeline exactly as long as every input is quiet
-/

namespace ImuGamepad

open Conversion Runs

/-! ### Two machines -/

/-- One step of the pipeline. -/
def pipelineStep (p : Platform) (s : Firmware) (x : ImuInput × Bool) : Except Fault Firmware := do
  let s ← readDataIMU p .ignored x.1 s
  senDataBLE x.2 s

/-- One pass of the loop, which looks at no input. -/
def loopStep (s : Firmware) (_ : ImuInput × Bool) : Except Fault Firmware := loop s

/-- Any number of passes of the loop leave the state as it is. -/
theorem foldlM_loopStep (s : Firmware) (xs : List (ImuInput × Bool)) :
    xs.foldlM loopStep s = .ok s := by
  induction xs with
  | nil => rfl
  | cons x xs ih => exact ih

/-! ### What is observed -/

/-- The records that the pipeline maintains. -/
structure SensorRecords where
  timestamp : BitVec 32
  imu1DataRawPacked : Bytes 18
  imu2DataRawPacked : Bytes 18
  imu1EulerCalibration : Bytes 13
  imu2EulerCalibration : Bytes 13

/-- The characteristics the records are sent to, each with the bytes it is sent. -/
def SensorRecords.sent (r : SensorRecords) : List (CharacteristicName × List Byte) :=
  [(.IMU1RawData, List.ofFn r.imu1DataRawPacked), (.IMU2RawData, List.ofFn r.imu2DataRawPacked),
    (.IMU1FuseDataCaliStatus, List.ofFn r.imu1EulerCalibration),
    (.IMU2FuseDataCaliStatus, List.ofFn r.imu2EulerCalibration)]

namespace Firmware

def sensorRecords (s : Firmware) : SensorRecords :=
  ⟨s.timestamp, s.imu1DataRawPacked, s.imu2DataRawPacked, s.imu1EulerCalibration,
    s.imu2EulerCalibration⟩

/-- What a client reads from a characteristic. -/
def valueOf (s : Firmware) (name : CharacteristicName) : Option (List Byte) :=
  s.ble.bleGamepad.bind (BleGamepad.valueOf name)

/-- The records, and the values of the four sensor characteristics. -/
def observed (s : Firmware) : SensorRecords × List (Option (List Byte)) :=
  (s.sensorRecords, s.sensorRecords.sent.map fun r => s.valueOf r.1)

end Firmware

/-! ### Euler records -/

/-- Yaw, pitch and roll of an Euler record. -/
def eulerAngles (record : Bytes 13) : BitVec 32 × BitVec 32 × BitVec 32 :=
  (Bytes.toWord 32 (record.slice 0 4), Bytes.toWord 32 (record.slice 4 4),
    Bytes.toWord 32 (record.slice 8 4))

/-- Yaw, pitch and roll of a filter. -/
def Platform.angles (p : Platform) (filter : FusionFilter) : BitVec 32 × BitVec 32 × BitVec 32 :=
  (p.getYaw filter, p.getPitch filter, p.getRoll filter)

/-- The assignments leave a filter's angles in a record, -/
theorem eulerAngles_assignEuler (p : Platform) (filter : FusionFilter) (record : Bytes 13) :
    eulerAngles (assignEuler p filter record) = p.angles filter := by
  simp (disch := omega) only [eulerAngles, assignEuler, Platform.angles, Bytes.slice_splice_self,
    Bytes.slice_splice_of_disjoint, Bytes.toWord_ofWord]

/-- and change nothing if that is what the record held. -/
theorem assignEuler_eq_self_iff {p : Platform} {filter : FusionFilter} {record : Bytes 13} :
    assignEuler p filter record = record ↔ eulerAngles record = p.angles filter := by
  constructor
  · intro h
    rw [← eulerAngles_assignEuler p filter record, h]
  · intro h
    simp only [eulerAngles, Platform.angles, Prod.mk.injEq] at h
    obtain ⟨hyaw, hpitch, hroll⟩ := h
    have hself {a : ℕ} {v : BitVec 32} (ha : a + 4 ≤ 13)
        (hv : Bytes.toWord 32 (record.slice a 4) = v) :
        record.splice a (Bytes.ofWord 4 v) = record :=
      (Bytes.splice_eq_self_iff ha).mpr
        (Bytes.toWord_injective rfl (hv.trans (Bytes.toWord_ofWord (k := 4) rfl v).symm))
    simp only [assignEuler, hself (by omega) hroll, hself (by omega) hpitch,
      hself (by omega) hyaw]

/-! ### One call of `readDataIMU` -/

/-- An input that would be published, but is what was published last: the same time, in frame 1
the same nine fields, in frame 2 the same seven that are assigned, and angles that the filters
report again. -/
structure NothingNew (p : Platform) (d : Drivers) (s : Firmware) (i : ImuInput) : Prop where
  timestamp : i.storeMillis = s.timestamp
  frame1 : decodeFrame s.imu1DataRawPacked
    = (sample1 i d s.cal).components.map fun q => (toInt16 p.undefinedInt16 q).toInt
  frame2 : (decodeFrame s.imu2DataRawPacked).take 7
    = (sample2 i d s.cal).assigned2.map fun q => (toInt16 p.undefinedInt16 q).toInt
  angles1 : eulerAngles s.imu1EulerCalibration
    = p.angles (s.fillsion1 ++ [updateFrom s.imu1DataRawPacked])
  angles2 : eulerAngles s.imu2EulerCalibration
    = p.angles (s.fillsion2 ++ [updateFrom s.imu2DataRawPacked])

/-- Publishing changes no record exactly when nothing is new. -/
theorem sensorRecords_publish_iff {p : Platform} {d : Drivers} {s : Firmware} {i : ImuInput} :
    (publish p (sample1 i d s.cal) (sample2 i d s.cal) i.storeMillis s.saved).sensorRecords
      = s.sensorRecords ↔ NothingNew p d s i := by
  simp only [Firmware.sensorRecords, publish_timestamp, publish_imu1DataRawPacked,
    publish_imu2DataRawPacked, publish_imu1EulerCalibration, publish_imu2EulerCalibration,
    publish_fillsion1, publish_fillsion2, SensorRecords.mk.injEq]
  constructor
  · rintro ⟨htime, h₁, h₂, he₁, he₂⟩
    rw [h₁] at he₁
    rw [h₂] at he₂
    exact ⟨htime, assignFrame1_eq_self_iff.mp h₁, assignFrame2_eq_self_iff.mp h₂,
      assignEuler_eq_self_iff.mp he₁, assignEuler_eq_self_iff.mp he₂⟩
  · rintro ⟨htime, h₁, h₂, he₁, he₂⟩
    have h₁' := assignFrame1_eq_self_iff.mpr h₁
    have h₂' := assignFrame2_eq_self_iff.mpr h₂
    rw [h₁', h₂']
    exact ⟨htime, rfl, rfl, assignEuler_eq_self_iff.mpr he₁, assignEuler_eq_self_iff.mpr he₂⟩

/-- What a call leaves alone, and when it changes no record. -/
theorem readDataIMU_observed {p : Platform} {d : Drivers} {s t : Firmware} {i : ImuInput}
    (hd : s.sensorGroup = d.group) (havail : s.imusAvailable = true)
    (h : readDataIMU p .ignored i s = .ok t) :
    t.sensorGroup = s.sensorGroup ∧ t.imusAvailable = s.imusAvailable ∧ t.ble = s.ble ∧
      (t.sensorRecords = s.sensorRecords ↔
        gateRejects i.gateMillis s.timestamp ∨ NothingNew p d s i) := by
  by_cases hgate : gateRejects i.gateMillis s.timestamp
  · rw [readDataIMU_of_rejects p hd havail hgate] at h
    cases h
    exact ⟨rfl, rfl, rfl, by simp [hgate, Firmware.sensorRecords]⟩
  · rw [readDataIMU_of_passes p hd havail hgate] at h
    cases h
    refine ⟨rfl, rfl, rfl, ?_⟩
    rw [sensorRecords_publish_iff]
    simp [hgate]

/-! ### One call of `senDataBLE` -/

/-- While a client is connected, every sensor characteristic there is gets its record. -/
theorem senDataBLE_valueOf {connected : Bool} {s t : Firmware}
    (h : senDataBLE connected s = .ok t) :
    ∀ r ∈ s.sensorRecords.sent, t.valueOf r.1
      = if connected then (s.valueOf r.1).map fun _ => r.2 else s.valueOf r.1 := by
  obtain ⟨g, hg, h⟩ := bind_eq_ok_iff.mp h
  have hble : s.ble.bleGamepad = some g := by
    cases hb : s.ble.bleGamepad with
    | none => rw [hb] at hg; cases hg
    | some g' => rw [hb] at hg; cases hg; rfl
  cases connected with
  | false =>
    cases h
    simp
  | true =>
    cases h
    simp [SensorRecords.sent, Firmware.sensorRecords, Firmware.valueOf, hble,
      BleGamepad.valueOf_setterCharacterData, List.take_of_length_le]

/-- A value is already what it is overwritten with. -/
theorem map_const_eq_self_iff {α : Type*} {o : Option α} {a : α} :
    (o.map fun _ => a) = o ↔ ∀ v, o = some v → v = a := by
  cases o with
  | none => simp
  | some v => simp [eq_comm]

/-! ### One step of the pipeline -/

/-- An input on which a pipeline step finds nothing to do: the gate rejects it or nothing in it is
new; and while a client is connected, every sensor characteristic holds its record. -/
structure Quiet (p : Platform) (d : Drivers) (s : Firmware) (x : ImuInput × Bool) : Prop where
  records : gateRejects x.1.gateMillis s.timestamp ∨ NothingNew p d s x.1
  values : x.2 = true →
    ∀ r ∈ s.sensorRecords.sent, ∀ v, s.valueOf r.1 = some v → v = r.2

/-- What a pipeline step needs and keeps. -/
structure Sampling (d : Drivers) (s : Firmware) : Prop where
  drivers : s.sensorGroup = d.group
  available : s.imusAvailable = true
  gamepad : ∃ g, s.ble.bleGamepad = some g

section

variable {p : Platform} {d : Drivers} {s t : Firmware} {x : ImuInput × Bool}

/-- A pipeline step goes through, -/
theorem pipelineStep_ok (hs : Sampling d s) :
    ∃ t, pipelineStep p s x = .ok t ∧ Sampling d t := by
  obtain ⟨u, hu⟩ : ∃ u, readDataIMU p .ignored x.1 s = .ok u :=
    ⟨_, readDataIMU_eq_of_valid p hs.drivers x.1⟩
  obtain ⟨hgroup, havail, hble, -⟩ := readDataIMU_observed hs.drivers hs.available hu
  obtain ⟨g, hg⟩ := hs.gamepad
  rw [pipelineStep, hu, ok_bind, senDataBLE, hble, hg, deref_some, ok_bind]
  cases x.2 with
  | false => exact ⟨_, rfl, hgroup.trans hs.drivers, havail.trans hs.available, g, hble ▸ hg⟩
  | true => exact ⟨_, rfl, hgroup.trans hs.drivers, havail.trans hs.available, _, rfl⟩

theorem Sampling.of_pipelineStep (hs : Sampling d s) (h : pipelineStep p s x = .ok t) :
    Sampling d t := by
  obtain ⟨u, hu, hsu⟩ := pipelineStep_ok (p := p) (x := x) hs
  obtain rfl : u = t := Except.ok.inj (hu.symm.trans h)
  exact hsu

/-- **and keeps what is observed exactly on a quiet input.** -/
theorem observed_pipelineStep_iff (hs : Sampling d s) (h : pipelineStep p s x = .ok t) :
    t.observed = s.observed ↔ Quiet p d s x := by
  obtain ⟨u, hu, ht⟩ := bind_eq_ok_iff.mp h
  obtain ⟨-, -, hble, hrecords⟩ := readDataIMU_observed hs.drivers hs.available hu
  have hvalue (name : CharacteristicName) : u.valueOf name = s.valueOf name := by
    rw [Firmware.valueOf, hble, Firmware.valueOf]
  have hsent := senDataBLE_valueOf ht
  have hframe : t.sensorRecords = u.sensorRecords := by
    have hstep : step p .ignored u (.senDataBLE x.2) = .ok t := ht
    have heffect : t = { u with ble := t.ble } := effect_of_step hstep
    rw [heffect]
    rfl
  simp only [Firmware.observed, Prod.mk.injEq, hframe]
  constructor
  · rintro ⟨hrec, hval⟩
    refine ⟨hrecords.mp hrec, fun hconnected r hr v hv => ?_⟩
    rw [hrec] at hval hsent
    have hself : t.valueOf r.1 = s.valueOf r.1 := List.map_inj_left.mp hval r hr
    rw [hsent r hr, if_pos hconnected, hvalue] at hself
    exact map_const_eq_self_iff.mp hself v hv
  · rintro ⟨hrec, hvals⟩
    have hrec' := hrecords.mpr hrec
    refine ⟨hrec', ?_⟩
    rw [hrec'] at hsent ⊢
    refine List.map_inj_left.mpr fun r hr => ?_
    rw [hsent r hr, hvalue]
    split
    · rename_i hconnected
      exact map_const_eq_self_iff.mpr (hvals hconnected r hr)
    · rfl

/-- **The loop stays with the pipeline exactly as long as every input is quiet.** After every part
of a sequence of inputs, as many passes of the loop and as many steps of the pipeline leave the
same records and values exactly if every step of the pipeline finds nothing to do. -/
theorem loop_pipeline_iff (p : Platform) {g : BleGamepad} (hd : s.sensorGroup = d.group)
    (hg : s.ble.bleGamepad = some g) (havail : s.imusAvailable = true)
    (xs : List (ImuInput × Bool)) :
    (∀ pre, pre <+: xs → ∃ t u, pre.foldlM loopStep s = .ok t ∧
        pre.foldlM (pipelineStep p) s = .ok u ∧ t.observed = u.observed) ↔
      Always (OkStep (pipelineStep p)) (fun t x _ => Quiet p d t x) s xs := by
  have hs : Sampling d s := ⟨hd, havail, g, hg⟩
  have hruns (pre : List (ImuInput × Bool)) :
      ∃ u, pre.foldlM (pipelineStep p) s = .ok u ∧ Sampling d u :=
    exists_foldlM_ok hs fun t x _ ht => pipelineStep_ok ht
  calc (∀ pre, pre <+: xs → ∃ t u, pre.foldlM loopStep s = .ok t ∧
        pre.foldlM (pipelineStep p) s = .ok u ∧ t.observed = u.observed)
      ↔ ∀ pre u, pre <+: xs → Path (OkStep (pipelineStep p)) s pre u →
          u.observed = s.observed := by
        simp only [path_okStep_iff, foldlM_loopStep]
        constructor
        · intro h pre u hpre hu
          obtain ⟨t, u', ht, hu', heq⟩ := h pre hpre
          obtain rfl := Except.ok.inj ht
          obtain rfl := Except.ok.inj (hu.symm.trans hu')
          exact heq.symm
        · intro h pre hpre
          obtain ⟨u, hu, -⟩ := hruns pre
          exact ⟨s, u, rfl, hu, (h pre u hpre hu).symm⟩
    _ ↔ Always (OkStep (pipelineStep p)) (fun t _ u => u.observed = t.observed) s xs :=
        always_view_eq_iff.symm
    _ ↔ Always (OkStep (pipelineStep p)) (fun t x _ => Quiet p d t x) s xs :=
        always_congr (I := Sampling d) hs
          (fun t x t' ht hst => observed_pipelineStep_iff ht hst)
          fun t x t' ht hst _ => ht.of_pipelineStep hst

end

theorem loop_pipeline_iff_bench :
    let xs := [(ImuInput.ofSamples .atRest .atRest 80 80, true)]
    (∀ pre, pre <+: xs → ∃ t u, pre.foldlM loopStep .sampling = .ok t ∧
        pre.foldlM (pipelineStep .bench) .sampling = .ok u ∧ t.observed = u.observed) ↔
      Always (OkStep (pipelineStep .bench)) (fun t x _ => Quiet .bench .new t x) .sampling xs :=
  loop_pipeline_iff .bench rfl rfl rfl _

/-- What a bench setup leaves in the globals of the pipeline. -/
theorem setupApp_bench_globals :
    (setupApp .bench .bench (.bench fun _ => 0)).map
        (fun s => (s.imusAvailable, s.timestamp, s.cal, s.imu1DataRawPacked))
      = .ok (true, 0, .default, fun _ => 0) := rfl

/-- After a setup, a sample taken at rest reaches frame 1 in the pipeline, and not in the loop. -/
theorem loop_leaves_frame :
    ∃ s, setupApp .bench .bench (.bench fun _ => 0) = .ok s ∧ s.imusAvailable = true ∧
      ∃ t u, loop s = .ok t ∧
        pipelineStep .bench s (.ofSamples .atRest .atRest 80 80, false) = .ok u ∧
        decodeFrame t.imu1DataRawPacked = [0, 0, 0, 0, 0, 0, 0, 0, 0] ∧
        decodeFrame u.imu1DataRawPacked = [0, 0, 0, 0, 0, 0, 100, 200, 300] ∧
        t.observed ≠ u.observed := by
  obtain ⟨s, hs, hv⟩ := setupApp_ok_of_valid .bench .bench (Firmware.bench_pointersValid fun _ => 0)
  have hglobals := setupApp_bench_globals
  rw [hs] at hglobals
  simp only [Except.map, Except.ok.injEq, Prod.mk.injEq] at hglobals
  obtain ⟨havail, htime, hcal, hframe⟩ := hglobals
  obtain ⟨d, hd⟩ := hv.drivers
  obtain ⟨g, hg⟩ := hv.gamepad
  have hread := readDataIMU_of_passes .bench (i := .ofSamples .atRest .atRest 80 80) hd havail
    (by rw [htime]; exact gate_open_bench)
  rw [hcal, sample1_ofSamples, sample2_ofSamples] at hread
  let u := publish .bench .atRest .atRest 80 s.saved
  have hstep : pipelineStep .bench s (.ofSamples .atRest .atRest 80 80, false) = .ok u := by
    have hsend : senDataBLE false u = .ok u := by
      rw [senDataBLE, show u.ble.bleGamepad = some g from hg]
      rfl
    rw [pipelineStep, hread, ok_bind]
    exact hsend
  have hloop : decodeFrame s.imu1DataRawPacked = [0, 0, 0, 0, 0, 0, 0, 0, 0] := by
    rw [hframe]
    decide +kernel
  have hpipeline : decodeFrame u.imu1DataRawPacked = [0, 0, 0, 0, 0, 0, 100, 200, 300] := by
    rw [publish_imu1DataRawPacked, decode_assignFrame1]
    decide +kernel
  refine ⟨s, hs, havail, s, u, rfl, hstep, hloop, hpipeline, fun hobserved => ?_⟩
  have hsame : s.imu1DataRawPacked = u.imu1DataRawPacked :=
    congrArg (fun o => o.1.imu1DataRawPacked) hobserved
  rw [hsame, hpipeline] at hloop
  exact absurd hloop (by decide)

end ImuGamepad
