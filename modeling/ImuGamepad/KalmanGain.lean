import ImuGamepad.NXPFusion
import Mathlib.LinearAlgebra.Matrix.Symmetric
import Mathlib.LinearAlgebra.Matrix.ToLinearEquiv

/-!
# The gain of the fusion filter

What the loops of an update compute, as matrices. The source announces the gain of a Kalman filter,
`Qw Cᵀ (C Qw Cᵀ + Qv)⁻¹`, and the covariance `(1 - K C) Qw`. The covariance is that one, although
only one half of it is computed. The gain is not: the matrix of six rows and columns is handed to
the inversion with the number three, so that only its block of gravity is inverted.

## Main definitions

* `halfInverse` — what the inversion of three of the six rows and columns is
* `NXPFusion.innovationOf` — the covariance of the measured errors

## Main results

* `fusion_gain` — the gain and the covariance after every update in every run
* `first_gain_ne` — the first gain is never the one announced
-/

namespace ImuGamepad

open Axis

section

variable {K : Type*} [Field K] [LinearOrder K]

theorem nodup_errorIndices : errorIndices.Nodup := by decide

theorem mem_errorIndices (i : ErrorIndex) : i ∈ errorIndices := by
  revert i
  decide

theorem nodup_measuredIndices : measuredIndices.Nodup := by decide

theorem mem_measuredIndices (i : MeasuredIndex) : i ∈ measuredIndices := by
  revert i
  decide

/-- A sparse product is a product. -/
theorem sumSparse_eq (c a : ErrorIndex → K) : sumSparse errorIndices c a = ∑ k, c k * a k := by
  rw [sumSparse, Loops.foldl_sum nodup_errorIndices mem_errorIndices (f := fun k => c k * a k),
    zero_add]
  intro sum k
  split
  · split
    · rename_i hone
      rw [hone, one_mul]
    · split
      · rename_i hone
        rw [hone, neg_one_mul, sub_eq_add_neg]
      · rw [mul_comm]
  · rename_i hzero
    have hproduct : c k * a k = 0 := by
      rw [not_and_or, not_not, not_not] at hzero
      rcases hzero with ha | hc
      · rw [ha, mul_zero]
      · rw [hc, zero_mul]
    rw [hproduct, add_zero]

omit [Field K] [LinearOrder K] in
theorem mirror_eq {ι : Type*} [DecidableEq ι] {A : Matrix ι ι K} (hA : A.IsSymm)
    (indices : List ι) : mirror indices A = A := by
  ext i j
  rw [mirror, Matrix.of_apply]
  split
  · rfl
  · exact hA.apply i j

variable {Qw : Matrix ErrorIndex ErrorIndex K} {C : Matrix MeasuredIndex ErrorIndex K}

theorem productQwCT_eq : productQwCT Qw C = Qw * C.transpose := by
  ext i j
  simp only [productQwCT, Matrix.of_apply, sumSparse_eq, Matrix.mul_apply, Matrix.transpose_apply,
    mul_comm]

/-- The covariance of the noise of the measured errors. -/
def measurementNoise (QvAA QvMM : K) : Matrix MeasuredIndex MeasuredIndex K :=
  Matrix.diagonal fun i => match i.1 with
    | .g => QvAA
    | .m => QvMM

omit [LinearOrder K] in
theorem isSymm_mul_mul_transpose (hQw : Qw.IsSymm) : (C * (Qw * C.transpose)).IsSymm := by
  rw [Matrix.IsSymm, Matrix.transpose_mul, Matrix.transpose_mul, Matrix.transpose_transpose, hQw.eq,
    Matrix.mul_assoc]

theorem innovation_eq (QvAA QvMM : K) (hQw : Qw.IsSymm) :
    innovation QvAA QvMM C (productQwCT Qw C)
      = C * (Qw * C.transpose) + measurementNoise QvAA QvMM := by
  have hsum : (Matrix.of fun i j =>
      if i = j then sumSparse errorIndices (C i) (fun k => productQwCT Qw C k j)
        + (match i.1 with | .g => QvAA | .m => QvMM)
      else sumSparse errorIndices (C i) (fun k => productQwCT Qw C k j))
      = C * (Qw * C.transpose) + measurementNoise QvAA QvMM := by
    ext i j
    simp only [Matrix.of_apply, sumSparse_eq, productQwCT_eq, Matrix.add_apply, measurementNoise,
      Matrix.diagonal_apply]
    split
    · rfl
    · rw [add_zero]
      rfl
  have hsymm : (C * (Qw * C.transpose) + measurementNoise QvAA QvMM).IsSymm :=
    (isSymm_mul_mul_transpose hQw).add (Matrix.isSymm_diagonal _)
  rw [innovation, ← mirror_eq hsymm measuredIndices]
  exact congrArg (mirror measuredIndices) hsum

theorem gain_eq (F : Matrix ErrorIndex MeasuredIndex K) (P : Matrix MeasuredIndex MeasuredIndex K) :
    gain F P = F * P := by
  ext i j
  rw [gain, Matrix.of_apply, Loops.foldl_sum nodup_measuredIndices mem_measuredIndices
    (f := fun k => F i k * P k j), zero_add, Matrix.mul_apply]
  intro sum k
  split
  · rfl
  · rename_i hzero
    rw [not_not.mp hzero, zero_mul, add_zero]

theorem covariance_eq (K12x6 : Matrix ErrorIndex MeasuredIndex K) :
    covariance Qw C K12x6 = mirror errorIndices (Qw - K12x6 * (C * Qw)) := by
  have hentry (i j : ErrorIndex) : measuredIndices.foldl (fun entry k =>
      if sumSparse errorIndices (C k) (fun l => Qw l j) ≠ 0 then
        entry - K12x6 i k * sumSparse errorIndices (C k) (fun l => Qw l j)
      else entry) (Qw i j) = (Qw - K12x6 * (C * Qw)) i j := by
    rw [Loops.foldl_sum nodup_measuredIndices mem_measuredIndices
      (f := fun k => -(K12x6 i k * (C * Qw) k j)), Matrix.sub_apply, Matrix.mul_apply,
      Finset.sum_neg_distrib, sub_eq_add_neg]
    intro entry k
    rw [sumSparse_eq]
    change (if (C * Qw) k j ≠ 0 then entry - K12x6 i k * (C * Qw) k j else entry) = _
    split
    · rw [sub_eq_add_neg]
    · rename_i hzero
      rw [not_not.mp hzero, mul_zero, neg_zero, add_zero]
  rw [covariance]
  exact congrArg (mirror errorIndices) (by ext i j; exact hentry i j)

/-! ### The inversion -/

/-- The numbers of the components. -/
def axisEquiv : Fin 3 ≃ Axis where
  toFun := Axis.ofFin
  invFun := Axis.toFin
  left_inv i := by
    fin_cases i <;> rfl
  right_inv i := by
    cases i <;> rfl

/-- The block of gravity. -/
def leading (P : Matrix MeasuredIndex MeasuredIndex K) : Matrix Axis Axis K :=
  Matrix.of fun i j => P (.g, i) (.g, j)

/-- What the inversion of the first three rows and columns is: the block of gravity is inverted, and
nothing else is changed. -/
noncomputable def halfInverse (P : Matrix MeasuredIndex MeasuredIndex K) :
    Matrix MeasuredIndex MeasuredIndex K :=
  Matrix.of fun
    | (.g, i), (.g, j) => if (leading P).det = 0 then (1 : Matrix Axis Axis K) i j
      else (leading P)⁻¹ i j
    | i, j => P i j

variable {P : Matrix MeasuredIndex MeasuredIndex K}

theorem invertLeading_eq [IsStrictOrderedRing K] : invertLeading P = halfInverse P := by
  have hblock : (Matrix.of fun i j => P (.g, Axis.ofFin i) (.g, Axis.ofFin j))
      = (leading P).submatrix axisEquiv axisEquiv := rfl
  ext i j
  obtain ⟨p, i⟩ := i
  obtain ⟨q, j⟩ := j
  cases p <;> cases q <;> simp only [invertLeading, halfInverse, Matrix.of_apply]
  rw [hblock, fmatrixAeqInvA_eq, Matrix.det_submatrix_equiv_self, Matrix.inv_submatrix_equiv]
  split
  · rw [Matrix.one_apply, Matrix.one_apply]
    exact if_congr axisEquiv.symm.injective.eq_iff rfl rfl
  · rw [Matrix.submatrix_apply]
    exact congrArg₂ _ (axisEquiv.apply_symm_apply i) (axisEquiv.apply_symm_apply j)

theorem isSymm_halfInverse (hP : P.IsSymm) : (halfInverse P).IsSymm := by
  have hleading : (leading P).IsSymm := by
    ext i j
    exact hP.apply _ _
  ext i j
  obtain ⟨p, i⟩ := i
  obtain ⟨q, j⟩ := j
  cases p <;> cases q <;> simp only [halfInverse, Matrix.transpose_apply, Matrix.of_apply]
  · split
    · exact Matrix.isSymm_one.apply i j
    · exact hleading.inv.apply i j
  · exact hP.apply _ _
  · exact hP.apply _ _
  · exact hP.apply _ _

/-! ### One update -/

namespace NXPFusion

variable (m : Libm K)

/-- What a correction of the estimates leaves alone. -/
theorem lock_frame (s : NXPFusion K) (accel mag : Axis → K) :
    ∃ RPl deltaPl qPl locked, s.lock m accel mag = { s with
      RPl := RPl, deltaPl := deltaPl, qPl := qPl, firstOrientationLock := locked } := by
  rw [lock]
  split
  · exact ⟨_, _, _, _, rfl⟩
  · exact ⟨s.RPl, s.deltaPl, s.qPl, s.firstOrientationLock, rfl⟩

theorem updateField_frame (s : NXPFusion K) (RPl : Matrix Axis Axis K) (post : Posteriori K) :
    ∃ deltaPl mGl, s.updateField m RPl post = { s with deltaPl := deltaPl, mGl := mGl } := by
  rw [updateField]
  split
  · dsimp only
    split
    · exact ⟨_, _, rfl⟩
    · exact ⟨s.deltaPl, s.mGl, rfl⟩
  · exact ⟨s.deltaPl, s.mGl, rfl⟩

/-- How the matrices after an update come from those before it. -/
structure Filtered (s s' : NXPFusion K) : Prop where
  measurement : ∃ gSeGyMi mSeGyMi, s'.C6x12 = measurementMatrix s.deltat gSeGyMi mSeGyMi s.C6x12
  gain_eq : s'.K12x6 = gain (productQwCT s.Qw12x12 s'.C6x12)
    (invertLeading (innovation s.QvAA s.QvMM s'.C6x12 (productQwCT s.Qw12x12 s'.C6x12)))
  covariance_eq : s'.PPlus12x12 = covariance s.Qw12x12 s'.C6x12 s'.K12x6
  nextQw_eq : s'.Qw12x12 = nextQw s s'.PPlus12x12
  resetflag_eq : s'.resetflag = s.resetflag

theorem filtered_correct (s : NXPFusion K) (prior : Priori K) (valid : Bool) :
    s.Filtered (s.correct m prior valid) := by
  unfold correct
  extract_lets C6x12 ftmpA12x6 K12x6 post qPl RPl t
  obtain ⟨deltaPl, mGl, hfield⟩ : ∃ deltaPl mGl, t = { s with deltaPl := deltaPl, mGl := mGl } :=
    updateField_frame m s RPl post
  clear_value t
  subst hfield
  exact ⟨⟨_, _, rfl⟩, rfl, rfl, rfl, rfl⟩

theorem filtered_update {s : NXPFusion K} (hreset : s.resetflag = false)
    (yp accel mag : Axis → K) : s.Filtered (s.update m yp accel mag) := by
  rw [update, if_neg (by simp [hreset])]
  obtain ⟨RPl, deltaPl, qPl, locked, hlock⟩ := lock_frame m s accel mag
  obtain ⟨hmeasurement, hgain, hcovariance, hnext, hflag⟩ := filtered_correct m
    (s.lock m accel mag) ((s.lock m accel mag).priori m yp accel mag) (validMagCal mag)
  dsimp only
  rw [hlock] at hmeasurement hgain hcovariance hnext hflag ⊢
  exact ⟨hmeasurement, hgain, hcovariance, hnext, hflag⟩

end NXPFusion

/-! ### Every update -/

omit [LinearOrder K] in
theorem isSymm_begin (s : NXPFusion K) (sampleFrequency : K) :
    (s.begin sampleFrequency).Qw12x12.IsSymm := by
  ext i j
  obtain ⟨p, i⟩ := i
  obtain ⟨q, j⟩ := j
  cases p <;> cases q <;>
    simp only [NXPFusion.begin, Matrix.transpose_apply, Matrix.of_apply, eq_comm (a := j)]

omit [LinearOrder K] in
theorem isSymm_nextQw (s : NXPFusion K) (PPlus : Matrix ErrorIndex ErrorIndex K) :
    (nextQw s PPlus).IsSymm := by
  ext i j
  obtain ⟨p, i⟩ := i
  obtain ⟨q, j⟩ := j
  rcases eq_or_ne i j with rfl | hne
  · cases p <;> cases q <;> rfl
  · cases p <;> cases q <;>
      simp only [nextQw, Matrix.transpose_apply, Matrix.of_apply, if_neg hne, if_neg hne.symm]

/-- What every call keeps. -/
structure NXPFusion.Regular (s : NXPFusion K) : Prop where
  resetflag_eq : s.resetflag = false
  isSymm_Qw : s.Qw12x12.IsSymm

variable (m : Libm K)

theorem NXPFusion.Regular.call {s : NXPFusion K} (h : s.Regular) (c : FusionCall) :
    (s.call m c).Regular := by
  cases c with
  | begin sampleFrequency => exact ⟨rfl, isSymm_begin s _⟩
  | update gx gy gz ax ay az mx my mz =>
    obtain ⟨_, _, _, hnext, hflag⟩ := filtered_update m h.resetflag_eq
      (vector gx gy gz) (vector ax ay az) (vector mx my mz)
    refine ⟨hflag.trans h.resetflag_eq, ?_⟩
    change (s.update m _ _ _).Qw12x12.IsSymm
    rw [hnext]
    exact isSymm_nextQw s _
  | setQuaternion w x y z => exact ⟨h.resetflag_eq, h.isSymm_Qw⟩

theorem fusionState_concat (calls : FusionFilter) (c : FusionCall) :
    fusionState m (calls ++ [c]) = (fusionState m calls).call m c := by
  rw [fusionState, List.foldl_append]
  rfl

theorem regular_fusionState (calls : FusionFilter) : (fusionState m calls).Regular := by
  induction calls using List.reverseRecOn with
  | nil => exact ⟨rfl, Matrix.isSymm_zero⟩
  | append_singleton calls c ih =>
    rw [fusionState_concat]
    exact ih.call m c

/-- The covariance of the measured errors, by the matrices before an update and the measurement
matrix after it. -/
def NXPFusion.innovationOf (s s' : NXPFusion K) : Matrix MeasuredIndex MeasuredIndex K :=
  s'.C6x12 * (s.Qw12x12 * s'.C6x12.transpose) + measurementNoise s.QvAA s.QvMM

theorem NXPFusion.Filtered.gain_eq_mul [IsStrictOrderedRing K] {s s' : NXPFusion K}
    (h : s.Filtered s') (hs : s.Regular) :
    s'.K12x6 = s.Qw12x12 * s'.C6x12.transpose * halfInverse (s.innovationOf s') := by
  rw [h.gain_eq, invertLeading_eq, innovation_eq _ _ hs.isSymm_Qw, ImuGamepad.gain_eq,
    productQwCT_eq]
  rfl

theorem NXPFusion.Filtered.covariance_eq_mul [IsStrictOrderedRing K] {s s' : NXPFusion K}
    (h : s.Filtered s') (hs : s.Regular) :
    s'.PPlus12x12 = (1 - s'.K12x6 * s'.C6x12) * s.Qw12x12 := by
  have hinnovation : (s.innovationOf s').IsSymm :=
    (isSymm_mul_mul_transpose hs.isSymm_Qw).add (Matrix.isSymm_diagonal _)
  have hsymm : (s.Qw12x12 - s'.K12x6 * (s'.C6x12 * s.Qw12x12)).IsSymm := by
    refine hs.isSymm_Qw.sub ?_
    rw [Matrix.IsSymm, h.gain_eq_mul hs]
    simp only [Matrix.transpose_mul, Matrix.transpose_transpose,
      (isSymm_halfInverse hinnovation).eq, hs.isSymm_Qw.eq, Matrix.mul_assoc]
  rw [h.covariance_eq, ImuGamepad.covariance_eq, mirror_eq hsymm, Matrix.sub_mul, Matrix.one_mul,
    Matrix.mul_assoc]

/-- **The gain and the covariance**, after every update in every run. -/
theorem fusion_gain [IsStrictOrderedRing K] (calls : FusionFilter)
    (gx gy gz ax ay az mx my mz : ℚ) :
    let s := fusionState m calls
    let s' := fusionState m (calls ++ [.update gx gy gz ax ay az mx my mz])
    s'.K12x6 = s.Qw12x12 * s'.C6x12.transpose * halfInverse (s.innovationOf s') ∧
      s'.PPlus12x12 = (1 - s'.K12x6 * s'.C6x12) * s.Qw12x12 := by
  intro s s'
  have hs : s.Regular := regular_fusionState m calls
  have hfiltered : s.Filtered s' := by
    simp only [s', fusionState_concat]
    exact NXPFusion.filtered_update m hs.resetflag_eq _ _ _
  exact ⟨hfiltered.gain_eq_mul hs, hfiltered.covariance_eq_mul hs⟩

/-- The first update of a filter after a boot, of a device at rest. -/
theorem fusion_gain_begun :
    let s := fusionState Libm.real [.begin 50]
    let s' := fusionState Libm.real ([.begin 50] ++ [.update 0 0 0 0 0 1 20 0 40])
    s'.K12x6 = s.Qw12x12 * s'.C6x12.transpose * halfInverse (s.innovationOf s') ∧
      s'.PPlus12x12 = (1 - s'.K12x6 * s'.C6x12) * s.Qw12x12 :=
  fusion_gain Libm.real [.begin 50] 0 0 0 0 0 1 20 0 40

/-! ### The first update -/

variable [IsStrictOrderedRing K]

/-- The covariance of a sum of independent noises is invertible if each component has its own. -/
theorem det_congruence_add_diagonal_ne_zero {ι κ : Type*} [Fintype ι] [DecidableEq ι] [Fintype κ]
    [DecidableEq κ] (C : Matrix ι κ K) {q : κ → K} {n : ι → K} (hq : ∀ k, 0 ≤ q k)
    (hn : ∀ i, 0 < n i) :
    (C * (Matrix.diagonal q * C.transpose) + Matrix.diagonal n).det ≠ 0 := by
  intro hdet
  obtain ⟨v, hv, hkernel⟩ := Matrix.exists_mulVec_eq_zero_iff.mpr hdet
  have hform : v ⬝ᵥ ((C * (Matrix.diagonal q * C.transpose) + Matrix.diagonal n).mulVec v)
      = ∑ k, q k * (C.transpose.mulVec v k * C.transpose.mulVec v k)
        + ∑ i, n i * (v i * v i) := by
    rw [Matrix.add_mulVec, dotProduct_add, ← Matrix.mulVec_mulVec, ← Matrix.mulVec_mulVec,
      Matrix.dotProduct_mulVec, ← Matrix.mulVec_transpose]
    simp only [dotProduct, Matrix.mulVec_diagonal]
    exact congrArg₂ _ (Finset.sum_congr rfl fun k _ => by ring)
      (Finset.sum_congr rfl fun i _ => by ring)
  rw [hkernel, dotProduct_zero] at hform
  have hleft : 0 ≤ ∑ k, q k * (C.transpose.mulVec v k * C.transpose.mulVec v k) :=
    Finset.sum_nonneg fun k _ => mul_nonneg (hq k) (mul_self_nonneg _)
  have hterm (i : ι) : 0 ≤ n i * (v i * v i) := mul_nonneg (hn i).le (mul_self_nonneg _)
  have hsum : ∑ i, n i * (v i * v i) = 0 :=
    le_antisymm (by linarith) (Finset.sum_nonneg fun i _ => hterm i)
  apply hv
  funext i
  have hzero := (Finset.sum_eq_zero_iff_of_nonneg fun i _ => hterm i).mp hsum i (Finset.mem_univ i)
  exact mul_self_eq_zero.mp ((mul_eq_zero.mp hzero).resolve_left (hn i).ne')

/-- The variances that `begin` sets. -/
def initialVariance (i : ErrorIndex) : K :=
  match i.1 with
  | .th => fqwInitThTh
  | .b => fqwInitBB
  | .a => fqwInitAA
  | .d => fqwInitDD

theorem initialVariance_pos (i : ErrorIndex) : (0 : K) < initialVariance i := by
  obtain ⟨p, i⟩ := i
  cases p <;>
    norm_num [initialVariance, fqwInitThTh, fqwInitBB, fqwInitAA, fqwInitDD]

omit [LinearOrder K] [IsStrictOrderedRing K] in
theorem Qw_begin (s : NXPFusion K) (sampleFrequency : K) :
    (s.begin sampleFrequency).Qw12x12 = Matrix.diagonal initialVariance := by
  ext i j
  obtain ⟨p, i⟩ := i
  obtain ⟨q, j⟩ := j
  cases p <;> cases q <;>
    simp [NXPFusion.begin, Matrix.diagonal_apply, initialVariance, fqwInitThB]

theorem QvAA_begin_pos (s : NXPFusion K) (sampleFrequency : K) :
    0 < (s.begin sampleFrequency).QvAA := by
  have hsq := mul_self_nonneg (1 / sampleFrequency)
  have hterm : 0 ≤ fDegToRad * fDegToRad * (1 / sampleFrequency * (1 / sampleFrequency))
      * (fqwb + fqvg) :=
    mul_nonneg (mul_nonneg (mul_self_nonneg _) hsq) (by norm_num [fqwb, fqvg])
  have hconst : (0 : K) < fqva + fqwa := by norm_num [fqva, fqwa]
  simp only [NXPFusion.begin]
  linarith

theorem le_QvMM_begin (s : NXPFusion K) (sampleFrequency : K) :
    0.6 ≤ (s.begin sampleFrequency).QvMM := by
  have hsq := mul_self_nonneg (1 / sampleFrequency)
  have hterm : 0 ≤ fDegToRad * fDegToRad * (1 / sampleFrequency * (1 / sampleFrequency)) * defaultB
      * defaultB * (fqwb + fqvg) :=
    mul_nonneg (mul_nonneg (mul_nonneg (mul_nonneg (mul_self_nonneg _) hsq)
      (by norm_num [defaultB])) (by norm_num [defaultB])) (by norm_num [fqwb, fqvg])
  have hconst : (0.6 : K) ≤ fqvm + fqwd := by norm_num [fqvm, fqwd]
  simp only [NXPFusion.begin]
  linarith

/-- After `begin`, the magnetometer measures the magnetic disturbance directly. -/
theorem productQwCT_begin {s s' : NXPFusion K} {sampleFrequency : K}
    (h : (s.begin sampleFrequency).Filtered s') (i : Axis) (l : MeasuredIndex) :
    ((s.begin sampleFrequency).Qw12x12 * s'.C6x12.transpose) (.d, i) l
      = if l = (.m, i) then -0.6 else 0 := by
  obtain ⟨gSeGyMi, mSeGyMi, hC⟩ := h.measurement
  obtain ⟨p, j⟩ := l
  rw [Qw_begin, Matrix.diagonal_mul, Matrix.transpose_apply, hC]
  cases p
  · simp [measurementMatrix, NXPFusion.begin]
  · simp only [measurementMatrix, NXPFusion.begin, Matrix.of_apply, initialVariance, Prod.mk.injEq,
      true_and]
    split
    · norm_num [fqwInitDD]
    · rw [mul_zero]

/-- The variance of what the magnetometer measures is more than one. -/
theorem one_lt_innovation {s s' : NXPFusion K} {sampleFrequency : K}
    (h : (s.begin sampleFrequency).Filtered s') (i : Axis) :
    1 < (s.begin sampleFrequency).innovationOf s' (.m, i) (.m, i) := by
  have hnoise := le_QvMM_begin s sampleFrequency
  have hdisturbance : s'.C6x12 (.m, i) (.d, i) = -1 := by
    obtain ⟨gSeGyMi, mSeGyMi, hC⟩ := h.measurement
    rw [hC]
    exact if_pos rfl
  have hterm (k : ErrorIndex) :
      0 ≤ s'.C6x12 (.m, i) k * (initialVariance k * s'.C6x12 (.m, i) k) := by
    have hproduct := mul_nonneg (initialVariance_pos (K := K) k).le
      (mul_self_nonneg (s'.C6x12 (.m, i) k))
    linarith
  have hsum := Finset.single_le_sum (fun k _ => hterm k) (Finset.mem_univ (ErrorPart.d, i))
  have hentry : (s.begin sampleFrequency).innovationOf s' (.m, i) (.m, i)
      = ∑ k, s'.C6x12 (.m, i) k * (initialVariance k * s'.C6x12 (.m, i) k)
        + (s.begin sampleFrequency).QvMM := by
    rw [NXPFusion.innovationOf, Matrix.add_apply, Matrix.mul_apply, Qw_begin, measurementNoise,
      Matrix.diagonal_apply_eq]
    simp only [Matrix.diagonal_mul, Matrix.transpose_apply]
  rw [hdisturbance] at hsum
  have hsix : (-1 : K) * (initialVariance (ErrorPart.d, i) * -1) = 0.6 := by
    norm_num [initialVariance, fqwInitDD]
  rw [hentry]
  norm_num at hsix hnoise hsum ⊢
  linarith

theorem det_innovation_begin_ne_zero (s s' : NXPFusion K) (sampleFrequency : K) :
    ((s.begin sampleFrequency).innovationOf s').det ≠ 0 := by
  rw [NXPFusion.innovationOf, Qw_begin]
  refine det_congruence_add_diagonal_ne_zero _ (fun k => (initialVariance_pos k).le) fun i => ?_
  obtain ⟨p, i⟩ := i
  cases p
  · exact QvAA_begin_pos s sampleFrequency
  · exact lt_of_lt_of_le (by norm_num) (le_QvMM_begin s sampleFrequency)

/-- The row of the disturbance along one axis is a multiple of a row of the covariance that the
inversion has left as it was. The Kalman gain would make that row one of length one. -/
theorem gain_begin_ne {s s' : NXPFusion K} {sampleFrequency : K}
    (h : (s.begin sampleFrequency).Filtered s') :
    s'.K12x6 ≠ (s.begin sampleFrequency).Qw12x12 * s'.C6x12.transpose
      * ((s.begin sampleFrequency).innovationOf s')⁻¹ := by
  intro hkalman
  have hs : (s.begin sampleFrequency).Regular := ⟨rfl, isSymm_begin s sampleFrequency⟩
  have hdet := det_innovation_begin_ne_zero s s' sampleFrequency
  have hproduct : s'.K12x6 * (s.begin sampleFrequency).innovationOf s'
      = (s.begin sampleFrequency).Qw12x12 * s'.C6x12.transpose := by
    rw [hkalman, Matrix.mul_assoc, Matrix.nonsing_inv_mul _ (isUnit_iff_ne_zero.mpr hdet),
      Matrix.mul_one]
  have hrow (k : MeasuredIndex) : s'.K12x6 (.d, X) k
      = -0.6 * (s.begin sampleFrequency).innovationOf s' (.m, X) k := by
    rw [h.gain_eq_mul hs, Matrix.mul_apply,
      Finset.sum_eq_single ((MeasuredPart.m, X) : MeasuredIndex)]
    · rw [productQwCT_begin h, if_pos rfl]
      obtain ⟨p, k⟩ := k
      cases p <;> rfl
    · intro l _ hne
      rw [productQwCT_begin h, if_neg hne, zero_mul]
    · exact fun hnot => absurd (Finset.mem_univ _) hnot
  have hsymm : ((s.begin sampleFrequency).innovationOf s').IsSymm :=
    (isSymm_mul_mul_transpose hs.isSymm_Qw).add (Matrix.isSymm_diagonal _)
  have hlarge := one_lt_innovation h X
  have hentry := congrFun (congrFun hproduct (ErrorPart.d, X)) (MeasuredPart.m, X)
  rw [productQwCT_begin h, if_pos rfl, Matrix.mul_apply] at hentry
  generalize (s.begin sampleFrequency).innovationOf s' = S at *
  have hlength : ∑ k, S (.m, X) k * S (.m, X) k = 1 := by
    have hsum : ∑ k, s'.K12x6 (.d, X) k * S k (.m, X) = -0.6 * ∑ k, S (.m, X) k * S (.m, X) k := by
      rw [Finset.mul_sum]
      refine Finset.sum_congr rfl fun k _ => ?_
      rw [hrow, hsymm.apply, mul_assoc]
    rw [hsum] at hentry
    exact mul_left_cancel₀ (by norm_num : (-0.6 : K) ≠ 0) (hentry.trans (mul_one _).symm)
  have hle : S (.m, X) (.m, X) * S (.m, X) (.m, X) ≤ 1 := by
    rw [← hlength]
    exact Finset.single_le_sum (f := fun k => S (.m, X) k * S (.m, X) k)
      (fun k _ => mul_self_nonneg _) (Finset.mem_univ _)
  have hone := mul_lt_mul'' hlarge hlarge zero_le_one zero_le_one
  linarith

/-- **The first gain is never the Kalman gain**, whatever happened before `begin` and whatever is
read. -/
theorem first_gain_ne (calls : FusionFilter) (sampleFrequency gx gy gz ax ay az mx my mz : ℚ) :
    let s := fusionState m (calls ++ [.begin sampleFrequency])
    let s' := fusionState m
      (calls ++ [.begin sampleFrequency] ++ [.update gx gy gz ax ay az mx my mz])
    (s.innovationOf s').det ≠ 0 ∧
      s'.K12x6 ≠ s.Qw12x12 * s'.C6x12.transpose * (s.innovationOf s')⁻¹ := by
  intro s s'
  have hbegin : s = (fusionState m calls).begin (sampleFrequency : K) :=
    fusionState_concat m calls _
  have hfiltered : s.Filtered s' := by
    have hreset : s.resetflag = false := (regular_fusionState m _).resetflag_eq
    simp only [s', fusionState_concat m (calls ++ [.begin sampleFrequency])]
    exact NXPFusion.filtered_update m hreset _ _ _
  clear_value s s'
  subst hbegin
  exact ⟨det_innovation_begin_ne_zero _ s' _, gain_begin_ne hfiltered⟩

/-- The first update of a filter after a boot, of a device at rest. -/
theorem first_gain_ne_rest :
    let s := fusionState Libm.real ([] ++ [.begin 50])
    let s' := fusionState Libm.real ([] ++ [.begin 50] ++ [.update 0 0 0 0 0 1 20 0 40])
    (s.innovationOf s').det ≠ 0 ∧
      s'.K12x6 ≠ s.Qw12x12 * s'.C6x12.transpose * (s.innovationOf s')⁻¹ :=
  first_gain_ne Libm.real [] 50 0 0 0 0 0 1 20 0 40

end

end ImuGamepad
