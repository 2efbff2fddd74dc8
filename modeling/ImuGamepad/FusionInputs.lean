import ImuGamepad.FrameDecode

/-!
# What the fusion filters are fed

A filter documents its arguments as the angular rate in degrees per second, the acceleration in
m/s² or g, and the field in µT. `readDataIMU` passes it the nine fields of the frame instead, in
the order of the frame: the acceleration where the rate belongs and the rate where the
acceleration belongs, neither of them converted, and all of them truncated to integers.

## Main definitions

* `documentedUpdate` — the call a sample should become
* `Fed` — a filter has been called once, with its sample in the documented form
* `Vec3.IsInt16` — the fields that survive truncation

## Main results

* `fed_frame1_iff`, `fed_frame2_iff` — when a frame feeds its filter as documented
* `fusion_fed_iff` — both filters are fed their samples exactly when nothing moves, and the fields
  are integers that the frames hold
-/

namespace ImuGamepad

open Conversion

/-- `SENSORS_RADS_TO_DPS`. -/
def sensorsRadsToDps : ℚ := 57.29577793

/-- `SENSORS_GRAVITY_STANDARD`: one g in m/s². -/
def sensorsGravityStandard : ℚ := 9.80665

/-! ### The documented call -/

/-- The call a sample should become, with the acceleration in the given unit. -/
def documentedUpdate (unit : ℚ) (m : ImuSample) : FusionCall :=
  .update (m.gyro.x * sensorsRadsToDps) (m.gyro.y * sensorsRadsToDps) (m.gyro.z * sensorsRadsToDps)
    (m.accel.x / unit) (m.accel.y / unit) (m.accel.z / unit) m.mag.x m.mag.y m.mag.z

/-- The filter has been called once, with the sample in the documented form, in m/s² or in g. -/
def Fed (before after : FusionFilter) (m : ImuSample) : Prop :=
  ∃ unit, (unit = 1 ∨ unit = sensorsGravityStandard) ∧ after = before ++ [documentedUpdate unit m]

/-- The components are 16-bit integers. -/
def Vec3.IsInt16 (v : Vec3) : Prop :=
  (∃ n : BitVec 16, v.x = n.toInt) ∧ (∃ n : BitVec 16, v.y = n.toInt) ∧
    ∃ n : BitVec 16, v.z = n.toInt

/-- Nothing moves: no acceleration, not even gravity's, and no rotation. -/
def ImuSample.Still (m : ImuSample) : Prop := m.accel = ⟨0, 0, 0⟩ ∧ m.gyro = ⟨0, 0, 0⟩

/-! ### One frame -/

section

variable {p : Platform} {m : ImuSample} {raw : Bytes 18} {filter : FusionFilter}

theorem updateFrom_assignFrame1 :
    updateFrom (assignFrame1 p m raw) =
      let conv (q : ℚ) : ℚ := (toInt16 p.undefinedInt16 q).toInt
      .update (conv m.accel.x) (conv m.accel.y) (conv m.accel.z) (conv m.gyro.x) (conv m.gyro.y)
        (conv m.gyro.z) (conv m.mag.x) (conv m.mag.y) (conv m.mag.z) := by
  simp (disch := omega) only [updateFrom, assignFrame1, Bytes.getInt16_setInt16_self,
    Bytes.getInt16_setInt16_of_disjoint]

theorem updateFrom_assignFrame2 :
    updateFrom (assignFrame2 p m raw) =
      let conv (q : ℚ) : ℚ := (toInt16 p.undefinedInt16 q).toInt
      .update (conv m.accel.x) (conv m.accel.y) (conv m.accel.z) (conv m.gyro.x) (conv m.gyro.y)
        (conv m.gyro.z) (conv m.mag.z) (raw.getInt16 14).toInt (raw.getInt16 16).toInt := by
  simp (disch := omega) only [updateFrom, assignFrame2, Bytes.getInt16_setInt16_self,
    Bytes.getInt16_setInt16_of_disjoint]

/-- A call is the documented one exactly when its rates and accelerations, passed in each other's
places, are zero, and its field is the sample's. -/
theorem exists_documentedUpdate_iff {mx my mz : ℚ} :
    (∃ unit, (unit = 1 ∨ unit = sensorsGravityStandard) ∧
        (let conv (q : ℚ) : ℚ := (toInt16 p.undefinedInt16 q).toInt
        FusionCall.update (conv m.accel.x) (conv m.accel.y) (conv m.accel.z) (conv m.gyro.x)
          (conv m.gyro.y) (conv m.gyro.z) mx my mz) = documentedUpdate unit m) ↔
      m.Still ∧ mx = m.mag.x ∧ my = m.mag.y ∧ mz = m.mag.z := by
  have hcrossed (unit : ℚ) (hunit : unit = 1 ∨ unit = sensorsGravityStandard) (a g : ℚ) :
      (((toInt16 p.undefinedInt16 a).toInt : ℚ) = g * sensorsRadsToDps ∧
        ((toInt16 p.undefinedInt16 g).toInt : ℚ) = a / unit) ↔ a = 0 ∧ g = 0 := by
    refine crossed_toInt16_iff ?_ ?_ ?_ <;> rcases hunit with rfl | rfl <;>
      norm_num [sensorsRadsToDps, sensorsGravityStandard]
  obtain ⟨⟨ax, ay, az⟩, ⟨gx, gy, gz⟩, mag⟩ := m
  simp only [ImuSample.Still, Vec3.mk.injEq]
  constructor
  · rintro ⟨unit, hunit, heq⟩
    simp only [documentedUpdate, FusionCall.update.injEq] at heq
    obtain ⟨h₁, h₂, h₃, h₄, h₅, h₆, hx, hy, hz⟩ := heq
    obtain ⟨hax, hgx⟩ := (hcrossed unit hunit ax gx).mp ⟨h₁, h₄⟩
    obtain ⟨hay, hgy⟩ := (hcrossed unit hunit ay gy).mp ⟨h₂, h₅⟩
    obtain ⟨haz, hgz⟩ := (hcrossed unit hunit az gz).mp ⟨h₃, h₆⟩
    exact ⟨⟨⟨hax, hay, haz⟩, hgx, hgy, hgz⟩, hx, hy, hz⟩
  · rintro ⟨⟨⟨rfl, rfl, rfl⟩, rfl, rfl, rfl⟩, rfl, rfl, rfl⟩
    exact ⟨1, Or.inl rfl, by simp [documentedUpdate]⟩

/-- Frame 1 feeds its filter as documented exactly when nothing moves and the field is made of
16-bit integers. -/
theorem fed_frame1_iff :
    Fed filter (filter ++ [updateFrom (assignFrame1 p m raw)]) m ↔ m.Still ∧ m.mag.IsInt16 := by
  simp only [Fed, List.append_cancel_left_eq, List.cons.injEq, and_true, updateFrom_assignFrame1]
  rw [exists_documentedUpdate_iff]
  simp only [toInt16_eq_self_iff, Vec3.IsInt16]

/-- Frame 2 feeds its filter as documented exactly when nothing moves, and the field is what the
frame held before, with equal outer components. -/
theorem fed_frame2_iff :
    Fed filter (filter ++ [updateFrom (assignFrame2 p m raw)]) m ↔
      m.Still ∧ m.mag.x = m.mag.z ∧ ((raw.getInt16 14).toInt : ℚ) = m.mag.y ∧
        ((raw.getInt16 16).toInt : ℚ) = m.mag.z := by
  simp only [Fed, List.append_cancel_left_eq, List.cons.injEq, and_true, updateFrom_assignFrame2]
  rw [exists_documentedUpdate_iff]
  refine and_congr_right fun _ => and_congr_left fun ⟨_, hz⟩ => ?_
  -- the last component was in the frame already, so conversion keeps it
  rw [toInt16_eq_self_iff.mpr ⟨_, hz.symm⟩]
  exact eq_comm

end

/-! ### One call -/

/-- **Both filters are fed their samples as documented exactly when nothing moves and the fields
are integers that their frames hold.** -/
theorem fusion_fed_iff (p : Platform) {d : Drivers} {s : Firmware} {i : ImuInput}
    (hd : s.sensorGroup = d.group) (havail : s.imusAvailable = true)
    (hgate : ¬ gateRejects i.gateMillis s.timestamp) :
    ∃ t, readDataIMU p .ignored i s = .ok t ∧
      ((Fed s.fillsion1 t.fillsion1 (sample1 i d s.cal) ∧
          Fed s.fillsion2 t.fillsion2 (sample2 i d s.cal)) ↔
        ((sample1 i d s.cal).Still ∧ (sample1 i d s.cal).mag.IsInt16) ∧
          (sample2 i d s.cal).Still ∧
            (sample2 i d s.cal).mag.x = (sample2 i d s.cal).mag.z ∧
            ((s.imu2DataRawPacked.getInt16 14).toInt : ℚ) = (sample2 i d s.cal).mag.y ∧
            ((s.imu2DataRawPacked.getInt16 16).toInt : ℚ) = (sample2 i d s.cal).mag.z) := by
  refine ⟨_, readDataIMU_of_passes p hd havail hgate, ?_⟩
  rw [publish_fillsion1, publish_fillsion2]
  exact and_congr fed_frame1_iff fed_frame2_iff

/-- At rest on a table: gravity on the z axis. -/
def ImuSample.onTable : ImuSample := ⟨⟨0, 0, 10⟩, ⟨0, 0, 0⟩, ⟨0, 0, 0⟩⟩

theorem fusion_fed_iff_bench :
    let i := ImuInput.ofSamples .onTable .onTable 80 80
    ∃ t, readDataIMU .bench .ignored i .sampling = .ok t ∧
      ((Fed Firmware.sampling.fillsion1 t.fillsion1 (sample1 i .new Firmware.sampling.cal) ∧
          Fed Firmware.sampling.fillsion2 t.fillsion2 (sample2 i .new Firmware.sampling.cal)) ↔
        ((sample1 i .new Firmware.sampling.cal).Still ∧
            (sample1 i .new Firmware.sampling.cal).mag.IsInt16) ∧
          (sample2 i .new Firmware.sampling.cal).Still ∧
            (sample2 i .new Firmware.sampling.cal).mag.x
              = (sample2 i .new Firmware.sampling.cal).mag.z ∧
            ((Firmware.sampling.imu2DataRawPacked.getInt16 14).toInt : ℚ)
              = (sample2 i .new Firmware.sampling.cal).mag.y ∧
            ((Firmware.sampling.imu2DataRawPacked.getInt16 16).toInt : ℚ)
              = (sample2 i .new Firmware.sampling.cal).mag.z) := by
  intro i
  exact fusion_fed_iff .bench rfl rfl gate_open_bench

/-- On a table, the first filter is told that IMU 1 spins at ten degrees per second, in free
fall. -/
theorem not_fed_onTable :
    ∃ t, readDataIMU .bench .ignored (.ofSamples .onTable .onTable 80 80) .sampling = .ok t ∧
      t.fillsion1 = [.update 0 0 10 0 0 0 0 0 0] ∧
      ¬ Fed Firmware.sampling.fillsion1 t.fillsion1 .onTable := by
  have hsample : sample1 (.ofSamples .onTable .onTable 80 80) .new Firmware.sampling.cal
      = .onTable := sample1_ofSamples ..
  refine ⟨_, readDataIMU_of_passes .bench (d := .new) rfl rfl gate_open_bench, ?_, ?_⟩
  · rw [publish_fillsion1, hsample, updateFrom_assignFrame1]
    decide +kernel
  · rw [publish_fillsion1, hsample]
    intro hfed
    have hstill := (fed_frame1_iff.mp hfed).1.1
    exact absurd hstill (by decide)

end ImuGamepad
