import ImuGamepad.Steps
import Mathlib.Tactic.IntervalCases

/-!
# What a frame decodes to

A frame should be the nine truncated components of its IMU's sample. Frame 1 is. In frame 2 the
three components of the magnetic field are assigned to `MagX` one after the other, so that `MagX`
holds the last one and `MagY` and `MagZ` are left from before.

## Main definitions

* `decodeFrame` — nine little-endian 16-bit integers
* `ImuSample.components`, `ImuSample.InRange`

## Main results

* `decode_assignFrame1`, `decode_assignFrame2` — what the assignments leave, for any sample
* `assignFrame1_eq_self_iff`, `assignFrame2_eq_self_iff` — the samples a frame already holds
* `frames_decode_iff` — both frames decode to their samples exactly when the prior frame and the
  sample of IMU 2 happen to agree
-/

namespace ImuGamepad

open Conversion

/-! ### Reading a frame -/

/-- A frame as nine consecutive little-endian 16-bit integers. -/
def decodeFrame (raw : Bytes 18) : List ℤ :=
  [raw.getInt16 0, raw.getInt16 2, raw.getInt16 4, raw.getInt16 6, raw.getInt16 8, raw.getInt16 10,
    raw.getInt16 12, raw.getInt16 14, raw.getInt16 16].map BitVec.toInt

namespace ImuSample

/-- The components of a sample, in the order of a frame. -/
def components (sample : ImuSample) : List ℚ :=
  [sample.accel.x, sample.accel.y, sample.accel.z, sample.gyro.x, sample.gyro.y, sample.gyro.z,
    sample.mag.x, sample.mag.y, sample.mag.z]

/-- The components that are assigned to frame 2 last, in the order of its fields. -/
def assigned2 (sample : ImuSample) : List ℚ :=
  [sample.accel.x, sample.accel.y, sample.accel.z, sample.gyro.x, sample.gyro.y, sample.gyro.z,
    sample.mag.z]

/-- Every component converts to `int16_t`. -/
def InRange (sample : ImuSample) : Prop := ∀ q ∈ sample.components, InInt16Range q

end ImuSample

section

variable {p : Platform} {sample : ImuSample} {raw : Bytes 18}

/-- The nine assignments to frame 1 reach nine fields. -/
theorem decode_assignFrame1 :
    decodeFrame (assignFrame1 p sample raw)
      = sample.components.map fun q => (toInt16 p.undefinedInt16 q).toInt := by
  simp (disch := omega) only [decodeFrame, assignFrame1, ImuSample.components,
    Bytes.getInt16_setInt16_self, Bytes.getInt16_setInt16_of_disjoint, List.map_cons, List.map_nil]

/-- The nine assignments to frame 2 reach seven fields. -/
theorem decode_assignFrame2 :
    decodeFrame (assignFrame2 p sample raw)
      = (sample.assigned2.map fun q => (toInt16 p.undefinedInt16 q).toInt)
        ++ [(raw.getInt16 14).toInt, (raw.getInt16 16).toInt] := by
  simp (disch := omega) only [decodeFrame, assignFrame2, ImuSample.assigned2,
    Bytes.getInt16_setInt16_self,
    Bytes.getInt16_setInt16_of_disjoint, List.map_cons, List.map_nil, List.cons_append,
    List.nil_append]

/-- A frame is determined by what it decodes to. -/
theorem decodeFrame_injective : Function.Injective decodeFrame := by
  intro raw raw' h
  simp only [decodeFrame, List.map_cons, List.map_nil, List.cons.injEq, and_true,
    BitVec.toInt_inj] at h
  obtain ⟨h₀, h₁, h₂, h₃, h₄, h₅, h₆, h₇, h₈⟩ := h
  refine Bytes.eq_of_getInt16_eq (n := 9) fun k hk => ?_
  interval_cases k <;> assumption

/-- The assignments to frame 1 change nothing exactly when it holds the sample already. -/
theorem assignFrame1_eq_self_iff :
    assignFrame1 p sample raw = raw ↔
      decodeFrame raw = sample.components.map fun q => (toInt16 p.undefinedInt16 q).toInt := by
  rw [← decodeFrame_injective.eq_iff, decode_assignFrame1, eq_comm]

/-- The assignments to frame 2 change nothing exactly when it holds what is assigned already. -/
theorem assignFrame2_eq_self_iff :
    assignFrame2 p sample raw = raw ↔
      (decodeFrame raw).take 7
        = sample.assigned2.map fun q => (toInt16 p.undefinedInt16 q).toInt := by
  have hsplit : decodeFrame raw
      = (decodeFrame raw).take 7 ++ [(raw.getInt16 14).toInt, (raw.getInt16 16).toInt] := rfl
  rw [← decodeFrame_injective.eq_iff, decode_assignFrame2, hsplit, List.append_left_inj, eq_comm]
  rfl

end

/-! ### What a call publishes -/

theorem map_toInt16_of_inRange {undefined : ℚ → BitVec 16} {qs : List ℚ}
    (h : ∀ q ∈ qs, InInt16Range q) :
    (qs.map fun q => (toInt16 undefined q).toInt) = qs.map truncate :=
  List.map_congr_left fun q hq => toInt_toInt16 (h q hq)

section

variable {p : Platform} {sample : ImuSample} {raw : Bytes 18}

/-- Frame 1 decodes to its sample, whatever it held before. -/
theorem frame1_decode (h : sample.InRange) :
    decodeFrame (assignFrame1 p sample raw) = sample.components.map truncate := by
  rw [decode_assignFrame1, map_toInt16_of_inRange h]

/-- Frame 2 decodes to its sample exactly when the last two components of the magnetic field were
there before, and the first is as good as the last. -/
theorem frame2_decode_iff (h : sample.InRange) :
    decodeFrame (assignFrame2 p sample raw) = sample.components.map truncate ↔
      truncate sample.mag.z = truncate sample.mag.x ∧
        (raw.getInt16 14).toInt = truncate sample.mag.y ∧
        (raw.getInt16 16).toInt = truncate sample.mag.z := by
  have hassigned : ∀ q ∈ sample.assigned2, InInt16Range q := by
    intro q hq
    refine h q ?_
    simp only [ImuSample.assigned2, ImuSample.components, List.mem_cons, List.not_mem_nil,
      or_false] at hq ⊢
    tauto
  rw [decode_assignFrame2, map_toInt16_of_inRange hassigned]
  simp [ImuSample.assigned2, ImuSample.components]

end

/-- **Both frames decode to their samples exactly when the prior frame and the sample of IMU 2
happen to agree.** -/
theorem frames_decode_iff (p : Platform) {d : Drivers} {s : Firmware} {i : ImuInput}
    (hd : s.sensorGroup = d.group) (havail : s.imusAvailable = true)
    (hgate : ¬ gateRejects i.gateMillis s.timestamp) (h₁ : (sample1 i d s.cal).InRange)
    (h₂ : (sample2 i d s.cal).InRange) :
    ∃ t, readDataIMU p .ignored i s = .ok t ∧
      ((decodeFrame t.imu1DataRawPacked = (sample1 i d s.cal).components.map truncate ∧
          decodeFrame t.imu2DataRawPacked = (sample2 i d s.cal).components.map truncate) ↔
        truncate (sample2 i d s.cal).mag.z = truncate (sample2 i d s.cal).mag.x ∧
          (s.imu2DataRawPacked.getInt16 14).toInt = truncate (sample2 i d s.cal).mag.y ∧
          (s.imu2DataRawPacked.getInt16 16).toInt = truncate (sample2 i d s.cal).mag.z) := by
  refine ⟨_, readDataIMU_of_passes p hd havail hgate, ?_⟩
  rw [publish_imu1DataRawPacked, publish_imu2DataRawPacked, and_iff_right (frame1_decode h₁)]
  exact frame2_decode_iff h₂

/-- A sample at rest in a field of 100, 200 and 300 µT. -/
def ImuSample.atRest : ImuSample := ⟨⟨0, 0, 0⟩, ⟨0, 0, 0⟩, ⟨100, 200, 300⟩⟩

theorem ImuSample.atRest_inRange : ImuSample.atRest.InRange := by
  intro q hq
  simp only [components, atRest, List.mem_cons, List.not_mem_nil, or_false] at hq
  rcases hq with rfl | rfl | rfl | rfl | rfl | rfl | rfl | rfl | rfl <;> norm_num [InInt16Range]

/-- A firmware that has just been set up, with every sensor usable. -/
def Firmware.sampling : Firmware := { Firmware.bench fun _ => 0 with imusAvailable := true }

theorem gate_open_bench : ¬ gateRejects 80 Firmware.sampling.timestamp := by
  decide +kernel

theorem frames_decode_iff_bench :
    let i := ImuInput.ofSamples .atRest .atRest 80 80
    ∃ t, readDataIMU .bench .ignored i .sampling = .ok t ∧
      ((decodeFrame t.imu1DataRawPacked
            = (sample1 i .new Firmware.sampling.cal).components.map truncate ∧
          decodeFrame t.imu2DataRawPacked
            = (sample2 i .new Firmware.sampling.cal).components.map truncate) ↔
        truncate (sample2 i .new Firmware.sampling.cal).mag.z
            = truncate (sample2 i .new Firmware.sampling.cal).mag.x ∧
          (Firmware.sampling.imu2DataRawPacked.getInt16 14).toInt
            = truncate (sample2 i .new Firmware.sampling.cal).mag.y ∧
          (Firmware.sampling.imu2DataRawPacked.getInt16 16).toInt
            = truncate (sample2 i .new Firmware.sampling.cal).mag.z) := by
  intro i
  have hsample₁ : sample1 i .new Firmware.sampling.cal = .atRest := sample1_ofSamples ..
  have hsample₂ : sample2 i .new Firmware.sampling.cal = .atRest := sample2_ofSamples ..
  exact frames_decode_iff .bench rfl rfl gate_open_bench
    (by rw [hsample₁]; exact ImuSample.atRest_inRange)
    (by rw [hsample₂]; exact ImuSample.atRest_inRange)

/-- At rest in that field, frame 2 reads a field of 300, 0 and 0. -/
theorem frame2_mixed :
    let i := ImuInput.ofSamples .atRest .atRest 80 80
    ∃ t, readDataIMU .bench .ignored i .sampling = .ok t ∧
      decodeFrame t.imu2DataRawPacked = [0, 0, 0, 0, 0, 0, 300, 0, 0] ∧
      (sample2 i .new Firmware.sampling.cal).components.map truncate
        = [0, 0, 0, 0, 0, 0, 100, 200, 300] ∧
      decodeFrame t.imu2DataRawPacked
        ≠ (sample2 i .new Firmware.sampling.cal).components.map truncate := by
  intro i
  have hsample : sample2 i .new Firmware.sampling.cal = .atRest := sample2_ofSamples ..
  have hread := readDataIMU_of_passes .bench (d := .new) (i := i) rfl rfl gate_open_bench
  have hframe : decodeFrame (publish .bench (sample1 i .new Firmware.sampling.cal)
      (sample2 i .new Firmware.sampling.cal) 80 Firmware.sampling.saved).imu2DataRawPacked
      = [0, 0, 0, 0, 0, 0, 300, 0, 0] := by
    rw [publish_imu2DataRawPacked, hsample, decode_assignFrame2]
    decide +kernel
  have hcomponents : (sample2 i .new Firmware.sampling.cal).components.map truncate
      = [0, 0, 0, 0, 0, 0, 100, 200, 300] := by
    rw [hsample]
    decide +kernel
  refine ⟨_, hread, hframe, hcomponents, ?_⟩
  rw [hcomponents]
  exact fun h => absurd (hframe.symm.trans h) (by decide)

end ImuGamepad
