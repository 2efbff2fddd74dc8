import ImuGamepad.KalmanGain

/-!
# Runs of the fusion filter

What holds of the filter however it is called, and what it remembers. A reading of the magnetometer
outside the range that the filter takes for valid leaves no trace at all. `begin` forgets everything
but the linear acceleration.

## Main definitions

* `NXPFusion.Bounded`, `NXPFusion.Sound` — the estimates are what they stand for
* `SameCall` — two calls that differ in a rejected reading

## Main results

* `sound_fusionState` — the estimates are sound after every run that contains `begin`, the
  quaternion unless the last call has set it
* `fusionState_eq_of_agree` — what the state depends on
* `lock_recovers` — when the filter locks from exact readings, and on which orientation
-/

namespace ImuGamepad

open Axis

section

variable {K : Type*} [Field K] [LinearOrder K] [IsStrictOrderedRing K] {m : Libm K}

/-! ### The estimates -/

/-- The reference vector of the field points north, is not inclined too much, and has the default
strength up to the rounding of the two limits. -/
structure FieldLimits (g : Axis → K) : Prop where
  north : 0 ≤ g X
  east : g Y = 0
  inclination : |g Z| ≤ defaultB * sinDeltaMax
  strength : |g X * g X + g Z * g Z - defaultB * defaultB| ≤ defaultB * defaultB * 1e-7

/-- The matrix is a rotation, and the angles and the field are in range. -/
structure NXPFusion.Bounded (s : NXPFusion K) : Prop where
  rotation : IsRotation s.RPl
  angles : s.angles.InRange
  field : FieldLimits s.mGl

/-- Also the quaternion is a rotation, in the upper half of the sphere, and the matrix is its
matrix. -/
structure NXPFusion.Sound (s : NXPFusion K) : Prop extends s.Bounded where
  length : s.qPl.normSq = 1
  upper : 0 ≤ s.qPl.q0
  same : s.RPl = fRotationMatrixFromQuaternion s.qPl

/-- The call is `update`. -/
def FusionCall.IsUpdate : FusionCall → Prop
  | .update .. => True
  | _ => False

/-- The call is `setQuaternion`, which leaves the matrix and the angles as they are. -/
def FusionCall.SetsQuaternion : FusionCall → Prop
  | .setQuaternion .. => True
  | _ => False

theorem inclination_spec {fopp fadj fsindelta fcosdelta : K}
    (h : inclination m fopp fadj = some (fsindelta, fcosdelta)) :
    0 ≤ fcosdelta ∧ |fsindelta| ≤ sinDeltaMax ∧
      |fsindelta * fsindelta + fcosdelta * fcosdelta - 1| ≤ 1e-7 := by
  have hadj : 0 ≤ if fadj < 0 then 0 else fadj := by
    split
    · exact le_rfl
    · rename_i hsign
      exact not_lt.mp hsign
  simp only [inclination] at h
  generalize (if fadj < 0 then 0 else fadj) = adj at h hadj
  have hroot := m.sqrt_mul_self (fopp * fopp + adj * adj)
    (add_nonneg (mul_self_nonneg _) (mul_self_nonneg _))
  have hnonneg := m.sqrt_nonneg (fopp * fopp + adj * adj)
  generalize m.sqrt (fopp * fopp + adj * adj) = fhyp at h hroot hnonneg
  split at h
  · rename_i hne
    rw [Option.some.injEq] at h
    have hlimit : (0 : K) ≤ cosDeltaMax ∧ (0 : K) ≤ sinDeltaMax ∧
        |(sinDeltaMax * sinDeltaMax + cosDeltaMax * cosDeltaMax - 1 : K)| ≤ 1e-7 := by
      norm_num [cosDeltaMax, sinDeltaMax, abs_le]
    split at h
    · rw [Prod.mk.injEq] at h
      obtain ⟨rfl, rfl⟩ := h
      exact ⟨hlimit.1, (abs_of_nonneg hlimit.2.1).le, hlimit.2.2⟩
    · rename_i hhigh
      split at h
      · rw [Prod.mk.injEq] at h
        obtain ⟨rfl, rfl⟩ := h
        rw [abs_neg, neg_mul_neg]
        exact ⟨hlimit.1, (abs_of_nonneg hlimit.2.1).le, hlimit.2.2⟩
      · rename_i hlow
        rw [Prod.mk.injEq] at h
        obtain ⟨rfl, rfl⟩ := h
        have hone : fopp * (1 / fhyp) * (fopp * (1 / fhyp)) + adj * (1 / fhyp) * (adj * (1 / fhyp))
            = 1 := by
          field_simp
          linear_combination -hroot
        rw [hone, sub_self, abs_zero]
        exact ⟨mul_nonneg hadj (one_div_nonneg.mpr hnonneg),
          abs_le.mpr ⟨not_lt.mp hlow, not_lt.mp hhigh⟩, by norm_num⟩
  · exact absurd h (by simp)

theorem FieldLimits.updateField {s : NXPFusion K} (h : FieldLimits s.mGl)
    (RPl : Matrix Axis Axis K) (post : Posteriori K) :
    FieldLimits (s.updateField m RPl post).mGl := by
  rw [NXPFusion.updateField]
  split
  · dsimp only
    split
    · rename_i fsindelta fcosdelta hsome
      obtain ⟨hcos, hsin, hlength⟩ := inclination_spec hsome
      have hB : (0 : K) ≤ defaultB := by norm_num [defaultB]
      refine ⟨mul_nonneg hB hcos, h.east, ?_, ?_⟩
      · change |defaultB * fsindelta| ≤ _
        rw [abs_mul, abs_of_nonneg hB]
        exact mul_le_mul_of_nonneg_left hsin hB
      · change |defaultB * fcosdelta * (defaultB * fcosdelta)
          + defaultB * fsindelta * (defaultB * fsindelta) - defaultB * defaultB| ≤ _
        have hfactor : defaultB * fcosdelta * (defaultB * fcosdelta)
            + defaultB * fsindelta * (defaultB * fsindelta) - defaultB * defaultB
            = defaultB * defaultB * (fsindelta * fsindelta + fcosdelta * fcosdelta - 1) := by ring
        rw [hfactor, abs_mul, abs_of_nonneg (mul_nonneg hB hB)]
        exact mul_le_mul_of_nonneg_left hlength (mul_nonneg hB hB)
    · exact h
  · exact h

namespace NXPFusion

omit [LinearOrder K] [IsStrictOrderedRing K] in
theorem fRotationMatrixFromQuaternion_one :
    fRotationMatrixFromQuaternion (fqAeq1 : QuaternionT K) = f3x3matrixAeqI := by
  ext i j
  cases i <;> cases j <;> simp [fRotationMatrixFromQuaternion, fqAeq1, f3x3matrixAeqI] <;> norm_num

theorem sound_begin {s : NXPFusion K} (h : s.angles.InRange) (sampleFrequency : K) :
    (s.begin sampleFrequency).Sound where
  length := by simp [begin, fqAeq1, QuaternionT.normSq]
  upper := zero_le_one
  same := fRotationMatrixFromQuaternion_one.symm
  rotation := isRotation_one
  angles := h
  field := by
    refine ⟨?_, rfl, ?_, ?_⟩ <;> simp [begin] <;> norm_num [defaultB, sinDeltaMax]

theorem inRange_correct (s : NXPFusion K) (prior : Priori K) (valid : Bool) :
    (s.correct m prior valid).angles.InRange :=
  inRange_fNEDAnglesDegFromRotationMatrix _

omit [IsStrictOrderedRing K] in
theorem mGl_correct (s : NXPFusion K) (prior : Priori K) (valid : Bool) :
    ∃ RPl post, (s.correct m prior valid).mGl = (s.updateField m RPl post).mGl :=
  ⟨_, _, rfl⟩

theorem sound_correct {s : NXPFusion K} (h : FieldLimits s.mGl) (prior : Priori K) (valid : Bool) :
    (s.correct m prior valid).Sound := by
  have hlength : (s.correct m prior valid).qPl.normSq = 1 := QuaternionT.normSq_fqAeqNormqA _
  obtain ⟨RPl, post, hfield⟩ := mGl_correct (m := m) s prior valid
  exact {
    length := hlength
    upper := QuaternionT.q0_nonneg_fqAeqNormqA _
    same := rfl
    rotation := isRotation_fRotationMatrixFromQuaternion hlength
    angles := inRange_correct s prior valid
    field := by
      rw [hfield]
      exact h.updateField RPl post }

theorem InRange.call {s : NXPFusion K} (h : s.angles.InRange) (c : FusionCall) :
    (s.call m c).angles.InRange := by
  cases c with
  | begin sampleFrequency => exact h
  | update gx gy gz ax ay az mx my mz =>
    simp only [NXPFusion.call, update]
    split
    · exact h
    · exact inRange_correct _ _ _
  | setQuaternion w x y z => exact h

/-- Every call but `setQuaternion` makes the quaternion agree with the matrix again. -/
theorem Bounded.sound_call {s : NXPFusion K} (h : s.Bounded) {c : FusionCall}
    (hc : ¬ c.SetsQuaternion) : (s.call m c).Sound := by
  cases c with
  | begin sampleFrequency => exact sound_begin h.angles _
  | update gx gy gz ax ay az mx my mz =>
    simp only [NXPFusion.call, update]
    split
    · exact sound_begin h.angles _
    · obtain ⟨RPl, deltaPl, qPl, locked, hlock⟩ :=
        lock_frame m s (vector ax ay az) (vector mx my mz)
      refine sound_correct ?_ _ _
      rw [hlock]
      exact h.field
  | setQuaternion w x y z => exact absurd trivial hc

theorem Bounded.call {s : NXPFusion K} (h : s.Bounded) (c : FusionCall) : (s.call m c).Bounded := by
  by_cases hc : c.SetsQuaternion
  · cases c with
    | setQuaternion w x y z => exact ⟨h.rotation, h.angles, h.field⟩
    | begin sampleFrequency => exact absurd hc id
    | update gx gy gz ax ay az mx my mz => exact absurd hc id
  · exact (h.sound_call hc).toBounded

end NXPFusion

theorem inRange_fusionState (calls : FusionFilter) : (fusionState m calls).angles.InRange := by
  induction calls using List.reverseRecOn with
  | nil =>
    constructor <;> norm_num [fusionState, NXPFusion.zero]
  | append_singleton calls c ih =>
    rw [fusionState_concat]
    exact NXPFusion.InRange.call ih c

theorem bounded_fusionState (calls rest : FusionFilter) (sampleFrequency : ℚ) :
    (fusionState m (calls ++ .begin sampleFrequency :: rest)).Bounded := by
  induction rest using List.reverseRecOn with
  | nil =>
    rw [fusionState_concat]
    exact (NXPFusion.sound_begin (inRange_fusionState calls) _).toBounded
  | append_singleton rest c ih =>
    rw [← List.cons_append, ← List.append_assoc, fusionState_concat]
    exact ih.call c

/-- **The estimates are sound** after every run that contains `begin`, whatever is read: the matrix,
the angles and the field always, the quaternion with them unless the last call has set it. -/
theorem sound_fusionState (m : Libm K) (calls rest : FusionFilter) (sampleFrequency : ℚ) :
    let s := fusionState m (calls ++ .begin sampleFrequency :: rest)
    s.Bounded ∧ ((∀ c ∈ rest.getLast?, ¬ c.SetsQuaternion) → s.Sound) := by
  refine ⟨bounded_fusionState calls rest sampleFrequency, fun hlast => ?_⟩
  rcases List.eq_nil_or_concat rest with rfl | ⟨rest, c, rfl⟩
  · rw [fusionState_concat]
    exact NXPFusion.sound_begin (inRange_fusionState calls) _
  · rw [List.concat_eq_append] at hlast ⊢
    rw [← List.cons_append, ← List.append_assoc, fusionState_concat]
    refine (bounded_fusionState calls rest sampleFrequency).sound_call (hlast c ?_)
    rw [List.getLast?_concat]
    rfl

/-- The device at rest, in a field to the north, after a quaternion that is none of a rotation. -/
theorem sound_fusionState_begun :
    (fusionState Libm.real
      ([] ++ .begin 50 :: [.setQuaternion 2 0 0 0, .update 0 0 0 0 0 1 20 0 40])).Sound := by
  refine (sound_fusionState Libm.real [] [.setQuaternion 2 0 0 0, .update 0 0 0 0 0 1 20 0 40]
    50).2 fun c hc => ?_
  obtain rfl := Option.some.inj hc
  exact id

end

/-! ### What the state depends on -/

/-- Two calls that differ at most in a reading of the magnetometer that is not valid. -/
inductive SameCall : FusionCall → FusionCall → Prop
  | same (c : FusionCall) : SameCall c c
  | rejected (gx gy gz ax ay az : ℚ) {mx my mz mx' my' mz' : ℚ}
      (h : ¬ (|mx| ≤ 50 ∧ |my| ≤ 50 ∧ |mz| ≤ 50)) (h' : ¬ (|mx'| ≤ 50 ∧ |my'| ≤ 50 ∧ |mz'| ≤ 50)) :
      SameCall (.update gx gy gz ax ay az mx my mz) (.update gx gy gz ax ay az mx' my' mz')

namespace NXPFusion

section

variable {K : Type*} [Field K] [LinearOrder K] {m : Libm K}

/-- Without a valid reading there is no lock, -/
theorem lock_of_not_valid (s : NXPFusion K) (accel : Axis → K) {mag : Axis → K}
    (h : validMagCal mag = false) : s.lock m accel mag = s := by
  rw [lock, if_neg]
  simp [h]

/-- and only the gyroscope and the accelerometer count. -/
theorem update_rejected (s : NXPFusion K) (yp accel : Axis → K) {mag mag' : Axis → K}
    (h : validMagCal mag = false) (h' : validMagCal mag' = false) :
    s.update m yp accel mag = s.update m yp accel mag' := by
  simp only [update, lock_of_not_valid s accel h, lock_of_not_valid s accel h', h, h']
  rfl

/-- The object without what every update computes anew before it is used. -/
def forget (s : NXPFusion K) : NXPFusion K :=
  { s with angles := zero.angles, gSeGyMi := 0, PPlus12x12 := 0, K12x6 := 0 }

theorem forget_lock (s : NXPFusion K) (accel mag : Axis → K) :
    (s.forget).lock m accel mag = (s.lock m accel mag).forget := by
  by_cases hlock : validMagCal mag = true ∧ ¬ s.firstOrientationLock = true
  · have hlock' : validMagCal mag = true ∧ ¬ (s.forget).firstOrientationLock = true := hlock
    rw [lock, lock, if_pos hlock, if_pos hlock']
    rfl
  · have hlock' : ¬ (validMagCal mag = true ∧ ¬ (s.forget).firstOrientationLock = true) := hlock
    rw [lock, lock, if_neg hlock, if_neg hlock']

theorem forget_updateField (s : NXPFusion K) (RPl : Matrix Axis Axis K) (post : Posteriori K) :
    (s.forget).updateField m RPl post = (s.updateField m RPl post).forget := by
  have hfield : (s.forget).mGl = s.mGl := rfl
  rw [updateField, updateField, hfield]
  split
  · dsimp only
    cases inclination m (s.mGl Z - deRotate RPl post.dErrSePl Z)
      (s.mGl X - deRotate RPl post.dErrSePl X) with
    | none => rfl
    | some limited => rfl
  · rfl

theorem forget_correct (s : NXPFusion K) (prior : Priori K) (valid : Bool) :
    (s.forget).correct m prior valid = s.correct m prior valid := by
  simp only [correct, forget_updateField]
  rfl

theorem forget_update {s : NXPFusion K} (hreset : s.resetflag = false) (yp accel mag : Axis → K) :
    (s.forget).update m yp accel mag = s.update m yp accel mag := by
  have hreset' : (s.forget).resetflag = false := hreset
  rw [update, update, hreset, hreset']
  simp only [forget_lock, forget_correct]
  rfl

/-- **An update** of two objects that agree in what it uses gives the same object. -/
theorem update_eq_of_forget {s t : NXPFusion K} (hs : s.resetflag = false)
    (ht : t.resetflag = false) (h : s.forget = t.forget) (yp accel mag : Axis → K) :
    s.update m yp accel mag = t.update m yp accel mag := by
  rw [← forget_update hs, h, forget_update ht]

omit [LinearOrder K] in
theorem forget_begin (s t : NXPFusion K) (h : s.aSePl = t.aSePl) (sampleFrequency : K) :
    (s.begin sampleFrequency).forget = (t.begin sampleFrequency).forget := by
  simp only [begin, forget, h]

end

section

variable {K : Type*} [Field K] [LinearOrder K] [IsStrictOrderedRing K] {m : Libm K}

theorem validMagCal_vector (mx my mz : ℚ) :
    validMagCal (vector mx my mz : Axis → K) = decide (|mx| ≤ 50 ∧ |my| ≤ 50 ∧ |mz| ≤ 50) := by
  have hcast (q : ℚ) : |(q : K)| ≤ 50 ↔ |q| ≤ 50 := by
    rw [← Rat.cast_abs]
    exact_mod_cast Iff.rfl
  simp only [validMagCal, vector, hcast]

theorem call_sameCall (s : NXPFusion K) {c c' : FusionCall} (h : SameCall c c') :
    s.call m c = s.call m c' := by
  cases h with
  | same => rfl
  | rejected gx gy gz ax ay az h h' =>
    refine update_rejected s _ _ ?_ ?_
    · rw [validMagCal_vector, decide_eq_false h]
    · rw [validMagCal_vector, decide_eq_false h']

end

end NXPFusion

section

variable {K : Type*} [Field K] [LinearOrder K] [IsStrictOrderedRing K] {m : Libm K}

theorem foldl_call_sameCall (s : NXPFusion K) {rest rest' : FusionFilter}
    (h : List.Forall₂ SameCall rest rest') :
    rest.foldl (NXPFusion.call m) s = rest'.foldl (NXPFusion.call m) s := by
  induction h generalizing s with
  | nil => rfl
  | cons hcall _ ih =>
    rw [List.foldl_cons, List.foldl_cons, NXPFusion.call_sameCall s hcall]
    exact ih _

/-- After the first update two runs are in the same state. -/
theorem foldl_call_eq_of_forget {s t : NXPFusion K} (hs : s.Regular) (ht : t.Regular)
    (h : s.forget = t.forget) {rest rest' : FusionFilter} (hrest : List.Forall₂ SameCall rest rest')
    (hupdate : ∃ c ∈ rest, c.IsUpdate) :
    rest.foldl (NXPFusion.call m) s = rest'.foldl (NXPFusion.call m) t := by
  induction hrest generalizing s t with
  | nil =>
    obtain ⟨c, hmem, _⟩ := hupdate
    exact absurd hmem (List.not_mem_nil)
  | @cons c c' rest rest' hcall hrest ih =>
    rw [List.foldl_cons, List.foldl_cons, ← NXPFusion.call_sameCall t hcall]
    cases c with
    | begin sampleFrequency =>
      refine ih (hs.call m _) (ht.call m _) ?_ ?_
      · have haSe := congrArg NXPFusion.aSePl h
        exact NXPFusion.forget_begin s t haSe _
      · obtain ⟨c, hmem, hc⟩ := hupdate
        rcases List.mem_cons.mp hmem with rfl | hmem
        · exact absurd hc id
        · exact ⟨c, hmem, hc⟩
    | update gx gy gz ax ay az mx my mz =>
      have heq : s.call m (.update gx gy gz ax ay az mx my mz)
          = t.call m (.update gx gy gz ax ay az mx my mz) :=
        NXPFusion.update_eq_of_forget hs.resetflag_eq ht.resetflag_eq h _ _ _
      rw [heq]
      exact foldl_call_sameCall _ hrest
    | setQuaternion w x y z =>
      refine ih (hs.call m _) (ht.call m _) ?_ ?_
      · have hset (u : NXPFusion K) : (u.call m (.setQuaternion w x y z)).forget
            = u.forget.call m (.setQuaternion w x y z) := rfl
        rw [hset, hset, h]
      · obtain ⟨c, hmem, hc⟩ := hupdate
        rcases List.mem_cons.mp hmem with rfl | hmem
        · exact absurd hc id
        · exact ⟨c, hmem, hc⟩

/-- **What the state depends on.** After `begin` and an update it is the same for any two histories
that have left the same linear acceleration, and whatever the magnetometer has read where a reading
was not valid. -/
theorem fusionState_eq_of_agree (m : Libm K) {calls calls' rest rest' : FusionFilter}
    {sampleFrequency : ℚ}
    (hstart : (fusionState m calls).aSePl = (fusionState m calls').aSePl)
    (hrest : List.Forall₂ SameCall rest rest') (hupdate : ∃ c ∈ rest, c.IsUpdate) :
    fusionState m (calls ++ .begin sampleFrequency :: rest)
      = fusionState m (calls' ++ .begin sampleFrequency :: rest') := by
  have hsplit (calls rest : FusionFilter) :
      fusionState m (calls ++ .begin sampleFrequency :: rest)
        = rest.foldl (NXPFusion.call m) ((fusionState m calls).begin (sampleFrequency : K)) := by
    rw [fusionState, List.foldl_append]
    rfl
  rw [hsplit, hsplit]
  exact foldl_call_eq_of_forget ((regular_fusionState m calls).call m (.begin sampleFrequency))
    ((regular_fusionState m calls').call m (.begin sampleFrequency))
    (NXPFusion.forget_begin _ _ hstart _) hrest hupdate

/-- A magnet comes close after the filter has been started, or another one. -/
theorem fusionState_eq_of_agree_rejected :
    fusionState Libm.real ([] ++ .begin 50 :: [.update 0 0 0 0 0 1 60 0 0])
      = fusionState Libm.real ([.begin 7] ++ .begin 50 :: [.update 0 0 0 0 0 1 0 (-70) 0]) :=
  fusionState_eq_of_agree Libm.real rfl
    (.cons (.rejected 0 0 0 0 0 1 (by norm_num) (by norm_num)) .nil)
    ⟨_, List.mem_singleton_self _, trivial⟩

/-! ### The lock -/

omit [IsStrictOrderedRing K] in
theorem validMagCal_iff (mag : Axis → K) :
    validMagCal mag = true ↔ ∀ i, |mag i| ≤ 50 := by
  rw [validMagCal, decide_eq_true_iff]
  constructor
  · rintro ⟨hx, hy, hz⟩ (_ | _ | _)
    exacts [hx, hy, hz]
  · intro h
    exact ⟨h X, h Y, h Z⟩

/-- **From exact readings the filter locks on the orientation**, whichever it is, exactly if no
component of the field is beyond the limit of a valid reading. Only a field along gravity gives the
identity in its place. The quaternion is that of another orientation after some half turns: where
the axis has components of opposite signs. -/
theorem lock_recovers (m : Libm K) {s : NXPFusion K} {R : Matrix Axis Axis K} (h : IsRotation R)
    {gravity north down : K} (hgravity : 0 < gravity) (hnorth : 0 ≤ north)
    (hfree : s.firstOrientationLock = false) :
    let mag := fun i => north * R i X + down * R i Z
    let s' := s.lock m (fun i => gravity * R i Z) mag
    (s'.firstOrientationLock = true ↔ ∀ i, |mag i| ≤ 50) ∧
      ((¬ ∀ i, |mag i| ≤ 50) → s' = s) ∧
      ((∀ i, |mag i| ≤ 50) →
        (north = 0 → s'.RPl = f3x3matrixAeqI) ∧
        (0 < north → s'.RPl = R ∧ (fRotationMatrixFromQuaternion s'.qPl = R ↔
          1 + R X X + R Y Y + R Z Z ≠ 0 ∨ 0 ≤ R X Y ∧ 0 ≤ R Y Z ∧ 0 ≤ R Z X))) := by
  intro mag s'
  by_cases hvalid : ∀ i, |mag i| ≤ 50
  · have hlock : s'.firstOrientationLock = true ∧
        s'.RPl = (feCompassNED m mag fun i => gravity * R i Z).1 ∧
        s'.qPl
          = fQuaternionFromRotationMatrix m (feCompassNED m mag fun i => gravity * R i Z).1 := by
      simp only [s', NXPFusion.lock, (validMagCal_iff mag).mpr hvalid, hfree]
      exact ⟨rfl, rfl, rfl⟩
    refine ⟨iff_of_true hlock.1 hvalid, fun hnot => absurd hvalid hnot, fun _ => ⟨?_, ?_⟩⟩
    · rintro rfl
      have hmag : mag = fun i => down * R i Z := by
        funext i
        simp only [mag, zero_mul, zero_add]
      rw [hlock.2.1, hmag]
      exact feCompassNED_parallel _ gravity down
    · intro hnorth
      have hcompass : (feCompassNED m mag fun i => gravity * R i Z).1 = R :=
        feCompassNED_recovers h hgravity hnorth
      rw [hlock.2.1, hlock.2.2, hcompass]
      exact ⟨rfl, fRotationMatrix_roundTrip_iff h⟩
  · have hlock : s' = s := NXPFusion.lock_of_not_valid s _
      (Bool.eq_false_of_not_eq_true (mt (validMagCal_iff mag).mp hvalid))
    have hnot : ¬ s'.firstOrientationLock = true := by simp [hlock, hfree]
    exact ⟨iff_of_false hnot hvalid, fun _ => hlock, fun h => absurd h hvalid⟩

/-- The device lies face down and points to the west. -/
def faceDown : Matrix Axis Axis ℝ :=
  Matrix.of fun
    | X, Y => -1
    | Y, X => -1
    | Z, Z => -1
    | _, _ => 0

theorem isRotation_faceDown : IsRotation faceDown := by
  apply IsRotation.of_columns
  · intro i j
    cases i <;> cases j <;> simp [faceDown]
  · simp [f3x3matrixDetA, faceDown]

/-- Face down, it locks on the orientation, but its quaternion is that of another one. -/
theorem lock_recovers_faceDown :
    let s := (NXPFusion.zero : NXPFusion ℝ).begin 50
    let s' := s.lock Libm.real (fun i => 1 * faceDown i Z)
      fun i => 20 * faceDown i X + 40 * faceDown i Z
    s'.firstOrientationLock = true ∧ s'.RPl = faceDown ∧
      fRotationMatrixFromQuaternion s'.qPl ≠ faceDown := by
  intro s s'
  have hvalid (i : Axis) : |20 * faceDown i X + 40 * faceDown i Z| ≤ 50 := by
    cases i <;> simp [faceDown] <;> norm_num
  obtain ⟨hlock, _, hfound⟩ := @lock_recovers ℝ _ _ _ Libm.real s faceDown isRotation_faceDown
    1 20 40 zero_lt_one (by norm_num) rfl
  obtain ⟨hmatrix, hiff⟩ := (hfound hvalid).2 (by norm_num)
  refine ⟨hlock.mpr hvalid, hmatrix, fun hquaternion => ?_⟩
  have hcases := hiff.mp hquaternion
  norm_num [faceDown] at hcases

end

end ImuGamepad
