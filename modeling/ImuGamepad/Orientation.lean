import ImuGamepad.AngleApproximation
import Mathlib.LinearAlgebra.Matrix.NonsingularInverse
import Mathlib.Tactic.FieldSimp
import Mathlib.Tactic.LinearCombination

/-!
# Rotation matrices and quaternions

The functions of the fusion filter that turn the two descriptions of an orientation into each other,
that find one from gravity and the field, and that read the angles off it. The numbers are exact:
elements of an ordered field that has square roots, in place of single-precision floats.

A rotation matrix has a quaternion, up to its sign, and is found from it again. The code takes the
signs of the vector from the part of the matrix that is not symmetric. A half turn has no such part,
and there they are lost.

## Main definitions

* `QuaternionT` — a quaternion
* `fRotationMatrixFromQuaternion`, `fQuaternionFromRotationMatrix` — there and back
* `feCompassNED` — the orientation from gravity and the field
* `fNEDAnglesDegFromRotationMatrix` — the angles of an orientation
* `IsRotation` — a rotation matrix

## Main results

* `QuaternionT.normSq_fqAeqNormqA` — what comes out of the normalization is of length one
* `isRotation_fRotationMatrixFromQuaternion`, `isRotation_feCompassNED`
* `fRotationMatrix_roundTrip_iff` — which matrices come back
* `feCompassNED_recovers` — an orientation from what it makes of gravity and the field
-/

namespace ImuGamepad

/-- The components of a vector. -/
inductive Axis
  | X
  | Y
  | Z
  deriving DecidableEq

instance : Fintype Axis := ⟨{.X, .Y, .Z}, fun i => by cases i <;> decide⟩

/-- `Quaternion_t`. -/
@[ext] structure QuaternionT (K : Type*) where
  q0 : K
  q1 : K
  q2 : K
  q3 : K

/-- `PhiPl`, `ThePl`, `PsiPl`, `RhoPl` and `ChiPl`, in degrees. -/
structure NEDAngles (K : Type*) where
  roll : K
  pitch : K
  yaw : K
  compass : K
  tilt : K

open Axis

/-! ### The functions -/

section

variable {K : Type*} [Field K] [LinearOrder K]

/-- `CORRUPTQUAT`. -/
def corruptQuat : K := 0.001

/-- `SMALLQ0`. -/
def smallQ0 : K := 0.01

/-- `FDEGTORAD`. -/
def fDegToRad : K := 0.01745329251994

/-- `f3x3matrixAeqI`. -/
def f3x3matrixAeqI : Matrix Axis Axis K := Matrix.of fun i j => if i = j then 1 else 0

/-- `f3x3matrixDetA`. -/
def f3x3matrixDetA (A : Matrix Axis Axis K) : K :=
  A X X * (A Y Y * A Z Z - A Y Z * A Z Y) + A X Y * (A Y Z * A Z X - A Y X * A Z Z) +
    A X Z * (A Y X * A Z Y - A Y Y * A Z X)

/-- `fqAeq1`. -/
def fqAeq1 : QuaternionT K := ⟨1, 0, 0, 0⟩

/-- `qAeqBxC`. -/
def qAeqBxC (b c : QuaternionT K) : QuaternionT K where
  q0 := b.q0 * c.q0 - b.q1 * c.q1 - b.q2 * c.q2 - b.q3 * c.q3
  q1 := b.q0 * c.q1 + b.q1 * c.q0 + b.q2 * c.q3 - b.q3 * c.q2
  q2 := b.q0 * c.q2 - b.q1 * c.q3 + b.q2 * c.q0 + b.q3 * c.q1
  q3 := b.q0 * c.q3 + b.q1 * c.q2 - b.q2 * c.q1 + b.q3 * c.q0

/-- `qAeqAxB`. -/
def qAeqAxB (a b : QuaternionT K) : QuaternionT K := qAeqBxC a b

/-- `fqAeqNormqA`. -/
def fqAeqNormqA (m : Libm K) (a : QuaternionT K) : QuaternionT K :=
  let fNorm := m.sqrt (a.q0 * a.q0 + a.q1 * a.q1 + a.q2 * a.q2 + a.q3 * a.q3)
  let a :=
    if corruptQuat < fNorm then
      let fNorm := 1 / fNorm
      ⟨a.q0 * fNorm, a.q1 * fNorm, a.q2 * fNorm, a.q3 * fNorm⟩
    else fqAeq1
  if a.q0 < 0 then ⟨-a.q0, -a.q1, -a.q2, -a.q3⟩ else a

/-- `fRotationMatrixFromQuaternion`. -/
def fRotationMatrixFromQuaternion (q : QuaternionT K) : Matrix Axis Axis K :=
  Matrix.of fun
    | X, X => 2 * q.q0 * q.q0 + 2 * q.q1 * q.q1 - 1
    | X, Y => 2 * q.q1 * q.q2 + 2 * q.q0 * q.q3
    | X, Z => 2 * q.q1 * q.q3 - 2 * q.q0 * q.q2
    | Y, X => 2 * q.q1 * q.q2 - 2 * q.q0 * q.q3
    | Y, Y => 2 * q.q0 * q.q0 + 2 * q.q2 * q.q2 - 1
    | Y, Z => 2 * q.q2 * q.q3 + 2 * q.q0 * q.q1
    | Z, X => 2 * q.q1 * q.q3 + 2 * q.q0 * q.q2
    | Z, Y => 2 * q.q2 * q.q3 - 2 * q.q0 * q.q1
    | Z, Z => 2 * q.q0 * q.q0 + 2 * q.q3 * q.q3 - 1

/-- `fQuaternionFromRotationMatrix`. -/
def fQuaternionFromRotationMatrix (m : Libm K) (R : Matrix Axis Axis K) : QuaternionT K :=
  let fq0sq := 0.25 * (1 + R X X + R Y Y + R Z Z)
  let q0 := m.sqrt |fq0sq|
  if smallQ0 < q0 then
    let recip4q0 := 0.25 / q0
    ⟨q0, recip4q0 * (R Y Z - R Z Y), recip4q0 * (R Z X - R X Z), recip4q0 * (R X Y - R Y X)⟩
  else
    -- the absolute values from the diagonal, and the signs from the rest
    let q1 := m.sqrt |0.5 * (1 + R X X) - fq0sq|
    let q2 := m.sqrt |0.5 * (1 + R Y Y) - fq0sq|
    let q3 := m.sqrt |0.5 * (1 + R Z Z) - fq0sq|
    ⟨q0, if R Y Z - R Z Y < 0 then -q1 else q1, if R Z X - R X Z < 0 then -q2 else q2,
      if R X Y - R Y X < 0 then -q3 else q3⟩

/-- `fQuaternionFromRotationVectorDeg`. -/
def fQuaternionFromRotationVectorDeg (m : Libm K) (rvecdeg : Axis → K) (fscaling : K) :
    QuaternionT K :=
  let fetadeg := fscaling *
    m.sqrt (rvecdeg X * rvecdeg X + rvecdeg Y * rvecdeg Y + rvecdeg Z * rvecdeg Z)
  let fetarad := fetadeg * fDegToRad
  let fetarad2 := fetarad * fetarad
  let sinhalfeta :=
    if fetarad2 ≤ 0.02 then fetarad * (0.5 - 0.02083333333 * fetarad2)
    else if fetarad2 ≤ 0.06 then
      let fetarad4 := fetarad2 * fetarad2
      fetarad * (0.5 - 0.02083333333 * fetarad2 + 0.0002604166667 * fetarad4)
    else m.sin (0.5 * fetarad)
  let vector : Axis → K :=
    if fetadeg ≠ 0 then
      let ftmp := fscaling * sinhalfeta / fetadeg
      fun i => rvecdeg i * ftmp
    else fun _ => 0
  let fvecsq := vector X * vector X + vector Y * vector Y + vector Z * vector Z
  ⟨if fvecsq ≤ 1 then m.sqrt (1 - fvecsq) else 0, vector X, vector Y, vector Z⟩

/-- The modulus of a vector. -/
def modulus (m : Libm K) (v : Axis → K) : K := m.sqrt (v X * v X + v Y * v Y + v Z * v Z)

/-- The vector product. -/
def vectorProduct (v w : Axis → K) : Axis → K
  | X => v Y * w Z - v Z * w Y
  | Y => v Z * w X - v X * w Z
  | Z => v X * w Y - v Y * w X

/-- `feCompassNED`: the orientation matrix and the inclination. -/
def feCompassNED (m : Libm K) (fBc fGp : Axis → K) : Matrix Axis Axis K × K :=
  let z := fGp
  let y := vectorProduct z fBc
  let x := vectorProduct y z
  if ¬ (modulus m x = 0 ∨ modulus m y = 0 ∨ modulus m z = 0) then
    let fR := Matrix.of fun
      | i, X => x i * (1 / modulus m x)
      | i, Y => y i * (1 / modulus m y)
      | i, Z => z i * (1 / modulus m z)
    let fmodBc := modulus m fBc
    let fGdotBc := fGp X * fBc X + fGp Y * fBc Y + fGp Z * fBc Z
    (fR, if ¬ (modulus m z = 0 ∨ fmodBc = 0) then fasinDeg m (fGdotBc / (modulus m z * fmodBc))
      else 0)
  else (f3x3matrixAeqI, 0)

/-- The yaw angle is mapped from zero to 360 degrees. -/
def mapYaw (psi : K) : K :=
  let psi := if psi < 0 then psi + 360 else psi
  if 360 ≤ psi then 0 else psi

/-- `fNEDAnglesDegFromRotationMatrix`. -/
def fNEDAnglesDegFromRotationMatrix (m : Libm K) (R : Matrix Axis Axis K) : NEDAngles K :=
  let the := fasinDeg m (-R X Z)
  let phi := fatan2Deg (R Y Z) (R Z Z)
  let phi := if phi = halfTurn then -halfTurn else phi
  let psi :=
    -- the gimbal lock cases
    if the = quarterTurn then fatan2Deg (R Z Y) (R Y Y) + phi
    else if the = -quarterTurn then fatan2Deg (-R Z Y) (R Y Y) - phi
    else fatan2Deg (R X Y) (R X X)
  ⟨phi, the, mapYaw psi, mapYaw psi, facosDeg m (R Z Z)⟩

end

/-! ### Rotation matrices -/

/-- The next component, in the order of a vector product. -/
def Axis.next : Axis → Axis
  | X => Y
  | Y => Z
  | Z => X

@[simp] theorem Axis.next_X : X.next = Y := rfl

@[simp] theorem Axis.next_Y : Y.next = Z := rfl

@[simp] theorem Axis.next_Z : Z.next = X := rfl

theorem Axis.sum_univ {M : Type*} [AddCommMonoid M] (f : Axis → M) :
    ∑ i, f i = f X + f Y + f Z := by
  rw [show (Finset.univ : Finset Axis) = {X, Y, Z} from rfl]
  simp [add_assoc]

/-- The square of the length. -/
def QuaternionT.normSq {K : Type*} [Field K] (q : QuaternionT K) : K :=
  q.q0 * q.q0 + q.q1 * q.q1 + q.q2 * q.q2 + q.q3 * q.q3

/-- The vector part. -/
def QuaternionT.vector {K : Type*} (q : QuaternionT K) : Axis → K
  | X => q.q1
  | Y => q.q2
  | Z => q.q3

section

variable {K : Type*} [Field K]

/-- A rotation matrix. -/
structure IsRotation (R : Matrix Axis Axis K) : Prop where
  transpose_mul : R.transpose * R = 1
  det : f3x3matrixDetA R = 1

/-- What of a matrix is not symmetric, as a vector. -/
def skew (R : Matrix Axis Axis K) (i : Axis) : K := R i.next i.next.next - R i.next.next i.next

/-- Four times the square of the scalar part. -/
def scalarSq (R : Matrix Axis Axis K) : K := 1 + R X X + R Y Y + R Z Z

/-- Four times the squares of the vector part. -/
def vectorSq (R : Matrix Axis Axis K) (i : Axis) : K :=
  1 + R i i - R i.next i.next - R i.next.next i.next.next

theorem scalarSq_add_vectorSq (R : Matrix Axis Axis K) (i : Axis) :
    scalarSq R + vectorSq R i + vectorSq R i.next + vectorSq R i.next.next = 4 := by
  cases i <;> simp [scalarSq, vectorSq] <;> ring

theorem isRotation_one : IsRotation (f3x3matrixAeqI : Matrix Axis Axis K) := by
  have hone : (f3x3matrixAeqI : Matrix Axis Axis K) = 1 := by
    ext i j
    rw [f3x3matrixAeqI, Matrix.of_apply, Matrix.one_apply]
  constructor
  · rw [hone, Matrix.transpose_one, Matrix.one_mul]
  · simp [f3x3matrixDetA, f3x3matrixAeqI]

namespace IsRotation

variable {R : Matrix Axis Axis K}

theorem of_columns (hcolumns : ∀ i j, R X i * R X j + R Y i * R Y j + R Z i * R Z j
    = if i = j then 1 else 0) (hdet : f3x3matrixDetA R = 1) : IsRotation R := by
  refine ⟨?_, hdet⟩
  ext i j
  rw [Matrix.mul_apply, Axis.sum_univ, Matrix.one_apply]
  exact hcolumns i j

theorem columns (h : IsRotation R) (i j : Axis) :
    R X i * R X j + R Y i * R Y j + R Z i * R Z j = if i = j then 1 else 0 := by
  have hentry := congrFun (congrFun h.transpose_mul i) j
  rwa [Matrix.mul_apply, Axis.sum_univ, Matrix.one_apply] at hentry

theorem rows (h : IsRotation R) (i j : Axis) :
    R i X * R j X + R i Y * R j Y + R i Z * R j Z = if i = j then 1 else 0 := by
  have hmul : R * R.transpose = 1 := mul_eq_one_comm.mp h.transpose_mul
  have hentry := congrFun (congrFun hmul i) j
  rwa [Matrix.mul_apply, Axis.sum_univ, Matrix.one_apply] at hentry

/-- The transposed matrix is the inverse, and so is the adjugate. -/
theorem cofactor (h : IsRotation R) (i j : Axis) :
    R i j = R i.next j.next * R i.next.next j.next.next
      - R i.next j.next.next * R i.next.next j.next := by
  let adjugate : Matrix Axis Axis K := Matrix.of fun j i =>
    R i.next j.next * R i.next.next j.next.next - R i.next j.next.next * R i.next.next j.next
  have hinverse : R * adjugate = 1 := by
    have hdet := h.det
    rw [f3x3matrixDetA] at hdet
    ext i j
    rw [Matrix.mul_apply, Axis.sum_univ, Matrix.one_apply]
    cases i <;> cases j <;> simp [adjugate] <;> first | ring1 | linear_combination hdet
  have heq : R.transpose = adjugate := by
    calc R.transpose = R.transpose * (R * adjugate) := by rw [hinverse, Matrix.mul_one]
      _ = adjugate := by rw [← Matrix.mul_assoc, h.transpose_mul, Matrix.one_mul]
  exact congrFun (congrFun heq j) i

theorem scalarSq_mul_vectorSq (h : IsRotation R) (i : Axis) :
    scalarSq R * vectorSq R i = skew R i * skew R i := by
  have hrow := h.rows i.next i.next
  have hrow' := h.rows i.next.next i.next.next
  have hcolumn := h.columns i i
  have hcofactor := h.cofactor i i
  cases i <;> simp [scalarSq, vectorSq, skew] at * <;>
    linear_combination 2 * hcofactor - hrow - hrow' + hcolumn

theorem vectorSq_mul_vectorSq (h : IsRotation R) (i : Axis) :
    vectorSq R i * vectorSq R i.next
      = (R i i.next + R i.next i) * (R i i.next + R i.next i) := by
  have hrow := h.rows i i
  have hrow' := h.rows i.next i.next
  have hcolumn := h.columns i.next.next i.next.next
  have hcofactor := h.cofactor i.next.next i.next.next
  cases i <;> simp [vectorSq] at * <;>
    linear_combination -2 * hcofactor - hrow - hrow' + hcolumn

theorem scalarSq_mul_sum (h : IsRotation R) (i : Axis) :
    scalarSq R * (R i i.next + R i.next i) = skew R i * skew R i.next := by
  have hrow := h.rows i i.next
  have hcolumn := h.columns i i.next
  have hcofactor := h.cofactor i i.next
  have hcofactor' := h.cofactor i.next i
  cases i <;> simp [scalarSq, skew] at * <;>
    linear_combination hrow + hcolumn + hcofactor + hcofactor'

end IsRotation

end

section

variable {K : Type*} [Field K] [LinearOrder K] [IsStrictOrderedRing K]

theorem nonneg_of_mul_nonneg {w x y z : K} (hx : 0 ≤ w * x) (hy : 0 ≤ w * y) (hz : 0 ≤ w * z)
    (hsum : 0 < w + x + y + z) : 0 ≤ w := by
  by_contra hw
  rw [not_le] at hw
  have hxw := nonpos_of_mul_nonneg_right hx hw
  have hyw := nonpos_of_mul_nonneg_right hy hw
  have hzw := nonpos_of_mul_nonneg_right hz hw
  linarith

namespace IsRotation

variable {R : Matrix Axis Axis K}

theorem vectorSq_mul_nonneg (h : IsRotation R) (i : Axis) :
    0 ≤ vectorSq R i * vectorSq R i.next := by
  rw [h.vectorSq_mul_vectorSq]
  exact mul_self_nonneg _

theorem scalarSq_mul_nonneg (h : IsRotation R) (i : Axis) : 0 ≤ scalarSq R * vectorSq R i := by
  rw [h.scalarSq_mul_vectorSq]
  exact mul_self_nonneg _

theorem scalarSq_nonneg (h : IsRotation R) : 0 ≤ scalarSq R := by
  refine nonneg_of_mul_nonneg (h.scalarSq_mul_nonneg X) (h.scalarSq_mul_nonneg Y)
    (h.scalarSq_mul_nonneg Z) ?_
  have hsum := scalarSq_add_vectorSq R X
  simp at hsum
  linarith

theorem vectorSq_nonneg (h : IsRotation R) (i : Axis) : 0 ≤ vectorSq R i := by
  have hscalar := h.scalarSq_mul_nonneg i
  have hnext := h.vectorSq_mul_nonneg i
  have hlast := h.vectorSq_mul_nonneg i.next.next
  have hcycle : i.next.next.next = i := by cases i <;> rfl
  rw [hcycle, mul_comm] at hlast
  rw [mul_comm] at hscalar
  refine nonneg_of_mul_nonneg hscalar hnext hlast ?_
  have hsum := scalarSq_add_vectorSq R i
  linarith

end IsRotation

/-! ### There and back -/

variable {m : Libm K} {R : Matrix Axis Axis K}

omit [IsStrictOrderedRing K] in
theorem q0_nonneg_fQuaternionFromRotationMatrix (R : Matrix Axis Axis K) :
    0 ≤ (fQuaternionFromRotationMatrix m R).q0 := by
  rw [fQuaternionFromRotationMatrix]
  split <;> exact m.sqrt_nonneg _

omit [IsStrictOrderedRing K] in
theorem vector_fQuaternionFromRotationMatrix (R : Matrix Axis Axis K) (i : Axis) :
    (fQuaternionFromRotationMatrix m R).vector i =
      if smallQ0 < (fQuaternionFromRotationMatrix m R).q0 then
        0.25 / (fQuaternionFromRotationMatrix m R).q0 * skew R i
      else if skew R i < 0 then -m.sqrt |0.5 * (1 + R i i) - 0.25 * scalarSq R|
      else m.sqrt |0.5 * (1 + R i i) - 0.25 * scalarSq R| := by
  have hq0 : (fQuaternionFromRotationMatrix m R).q0 = m.sqrt |0.25 * scalarSq R| := by
    rw [fQuaternionFromRotationMatrix]
    split <;> rfl
  rw [hq0, scalarSq]
  simp only [fQuaternionFromRotationMatrix]
  by_cases hnormal : smallQ0 < m.sqrt |0.25 * (1 + R X X + R Y Y + R Z Z)|
  · simp only [if_pos hnormal]
    cases i <;> rfl
  · simp only [if_neg hnormal]
    cases i <;> rfl

namespace IsRotation

/-- The scalar part is right. -/
theorem q0_mul_q0 (h : IsRotation R) :
    4 * ((fQuaternionFromRotationMatrix m R).q0 * (fQuaternionFromRotationMatrix m R).q0)
      = scalarSq R := by
  have hq0 : (fQuaternionFromRotationMatrix m R).q0 = m.sqrt |0.25 * scalarSq R| := by
    rw [fQuaternionFromRotationMatrix]
    split <;> rfl
  have hnonneg : 0 ≤ 0.25 * scalarSq R := mul_nonneg (by norm_num) h.scalarSq_nonneg
  rw [hq0, abs_of_nonneg hnonneg, m.sqrt_mul_self _ hnonneg]
  norm_num
  ring

/-- The components of the vector have the right size. -/
theorem vector_mul_self (h : IsRotation R) (i : Axis) :
    4 * ((fQuaternionFromRotationMatrix m R).vector i *
      (fQuaternionFromRotationMatrix m R).vector i) = vectorSq R i := by
  have hdiag : 0.5 * (1 + R i i) - 0.25 * scalarSq R = 0.25 * vectorSq R i := by
    cases i <;> simp [scalarSq, vectorSq] <;> norm_num <;> ring
  have hnonneg : 0 ≤ 0.25 * vectorSq R i := mul_nonneg (by norm_num) (h.vectorSq_nonneg i)
  have hroot := m.sqrt_mul_self _ hnonneg
  rw [vector_fQuaternionFromRotationMatrix, hdiag, abs_of_nonneg hnonneg]
  split
  · rename_i hnormal
    have hpos : 0 < (fQuaternionFromRotationMatrix m R).q0 :=
      lt_trans (by norm_num [smallQ0]) hnormal
    have hq0 := h.q0_mul_q0 (m := m)
    have hproduct := h.scalarSq_mul_vectorSq i
    rw [← hq0] at hproduct
    generalize (fQuaternionFromRotationMatrix m R).q0 = q0 at *
    field_simp
    norm_num
    linear_combination -hproduct / 4
  · split
    · linear_combination 4 * hroot
    · linear_combination 4 * hroot

/-- The vector has the right direction, in both branches. -/
theorem q0_mul_vector (h : IsRotation R) (i : Axis) :
    4 * ((fQuaternionFromRotationMatrix m R).q0 * (fQuaternionFromRotationMatrix m R).vector i)
      = skew R i := by
  have hq0 := h.q0_mul_q0 (m := m)
  have hvector := h.vector_mul_self (m := m) i
  have hproduct := h.scalarSq_mul_vectorSq i
  have hnonneg := q0_nonneg_fQuaternionFromRotationMatrix (m := m) R
  have hbranch := vector_fQuaternionFromRotationMatrix (m := m) R i
  rw [← hq0, ← hvector] at hproduct
  generalize (fQuaternionFromRotationMatrix m R).q0 = q0 at *
  generalize (fQuaternionFromRotationMatrix m R).vector i = v at *
  split at hbranch
  · rename_i hnormal
    have hpos : 0 < q0 := lt_trans (by norm_num [smallQ0]) hnormal
    rw [hbranch]
    field_simp
    norm_num
  · -- the squares are equal, and so are the signs
    split at hbranch
    · rename_i hsign
      have hle : v ≤ 0 := by
        rw [hbranch, neg_nonpos]
        exact m.sqrt_nonneg _
      have hleft : 0 ≤ 4 * (q0 * -v) := by
        have := mul_nonneg hnonneg (neg_nonneg.mpr hle)
        linarith
      have hneg := (mul_self_inj hleft (neg_nonneg.mpr hsign.le)).mp
        (by linear_combination hproduct)
      linear_combination -hneg
    · rename_i hsign
      have hge : 0 ≤ v := by
        rw [hbranch]
        exact m.sqrt_nonneg _
      have hleft : 0 ≤ 4 * (q0 * v) := by
        have := mul_nonneg hnonneg hge
        linarith
      exact (mul_self_inj hleft (not_lt.mp hsign)).mp (by linear_combination hproduct)

/-- **What is found is of length one.** -/
theorem normSq_fQuaternionFromRotationMatrix (h : IsRotation R) :
    (fQuaternionFromRotationMatrix m R).normSq = 1 := by
  have hsum := scalarSq_add_vectorSq R X
  simp only [Axis.next_X, Axis.next_Y, ← h.q0_mul_q0 (m := m),
    ← h.vector_mul_self (m := m)] at hsum
  rw [QuaternionT.normSq]
  simp only [QuaternionT.vector] at hsum
  linarith

/-- A half turn is symmetric, -/
theorem skew_eq_zero (h : IsRotation R) (hzero : scalarSq R = 0) (i : Axis) : skew R i = 0 := by
  rw [← mul_self_eq_zero, ← h.scalarSq_mul_vectorSq i, hzero, zero_mul]

/-- and the code finds no signs in it. -/
theorem vector_nonneg (h : IsRotation R) (hzero : scalarSq R = 0) (i : Axis) :
    0 ≤ (fQuaternionFromRotationMatrix m R).vector i := by
  have hroot : (fQuaternionFromRotationMatrix m R).q0 = 0 := by
    have hq0 := h.q0_mul_q0 (m := m)
    rw [← mul_self_eq_zero]
    linarith
  rw [vector_fQuaternionFromRotationMatrix, hroot, h.skew_eq_zero hzero,
    if_neg (by norm_num [smallQ0]), if_neg (lt_irrefl _)]
  exact m.sqrt_nonneg _

/-- Two components of the vector fit together unless the angle is a half turn and their product is
negative. -/
theorem vector_mul_vector_iff (h : IsRotation R) (i : Axis) :
    4 * ((fQuaternionFromRotationMatrix m R).vector i *
        (fQuaternionFromRotationMatrix m R).vector i.next) = R i i.next + R i.next i ↔
      scalarSq R ≠ 0 ∨ 0 ≤ R i i.next := by
  have hskew := h.q0_mul_vector (m := m)
  have hq0 := h.q0_mul_q0 (m := m)
  by_cases hzero : scalarSq R = 0
  · have hsymm : R i i.next = R i.next i := by
      have hlast := h.skew_eq_zero hzero i.next.next
      cases i <;> simpa [skew, sub_eq_zero] using hlast
    have hsquares : 4 * ((fQuaternionFromRotationMatrix m R).vector i *
          (fQuaternionFromRotationMatrix m R).vector i.next) *
        (4 * ((fQuaternionFromRotationMatrix m R).vector i *
          (fQuaternionFromRotationMatrix m R).vector i.next))
        = (R i i.next + R i.next i) * (R i i.next + R i.next i) := by
      rw [← h.vectorSq_mul_vectorSq, ← h.vector_mul_self (m := m) i,
        ← h.vector_mul_self (m := m) i.next]
      ring
    have hproduct := mul_nonneg (h.vector_nonneg (m := m) hzero i)
      (h.vector_nonneg (m := m) hzero i.next)
    rw [← hsymm] at hsquares ⊢
    constructor
    · intro heq
      right
      linarith
    · intro hor
      have hentry := hor.resolve_left (not_not.mpr hzero)
      exact (mul_self_inj (by linarith) (by linarith)).mp hsquares
  · have hproduct := h.scalarSq_mul_sum i
    rw [← hskew i, ← hskew i.next] at hproduct
    refine iff_of_true (mul_left_cancel₀ hzero ?_) (Or.inl hzero)
    rw [hproduct]
    linear_combination (-4 * ((fQuaternionFromRotationMatrix m R).vector i *
      (fQuaternionFromRotationMatrix m R).vector i.next)) * hq0

end IsRotation

/-- A quaternion whose squares and whose direction are those of a matrix has this matrix if the
products of its components are right. -/
theorem fRotationMatrixFromQuaternion_eq_iff {q : QuaternionT K}
    (hscalar : 4 * (q.q0 * q.q0) = scalarSq R)
    (hvector : ∀ i, 4 * (q.vector i * q.vector i) = vectorSq R i)
    (hskew : ∀ i, 4 * (q.q0 * q.vector i) = skew R i) :
    fRotationMatrixFromQuaternion q = R ↔
      ∀ i, 4 * (q.vector i * q.vector i.next) = R i i.next + R i.next i := by
  constructor
  · rintro rfl i
    cases i <;> simp [fRotationMatrixFromQuaternion, QuaternionT.vector] <;> ring
  · intro hsum
    have hsumX := hsum X
    have hsumY := hsum Y
    have hsumZ := hsum Z
    have hskewX := hskew X
    have hskewY := hskew Y
    have hskewZ := hskew Z
    have hvectorX := hvector X
    have hvectorY := hvector Y
    have hvectorZ := hvector Z
    simp only [QuaternionT.vector, Axis.next_X, Axis.next_Y, Axis.next_Z, skew, scalarSq,
      vectorSq] at hscalar hsumX hsumY hsumZ hskewX hskewY hskewZ hvectorX hvectorY hvectorZ
    ext i j
    cases i <;> cases j <;> simp only [fRotationMatrixFromQuaternion, Matrix.of_apply]
    · linear_combination (hscalar + hvectorX) / 2
    · linear_combination (hsumX + hskewZ) / 2
    · linear_combination (hsumZ - hskewY) / 2
    · linear_combination (hsumX - hskewZ) / 2
    · linear_combination (hscalar + hvectorY) / 2
    · linear_combination (hsumY + hskewX) / 2
    · linear_combination (hsumZ + hskewY) / 2
    · linear_combination (hsumY - hskewX) / 2
    · linear_combination (hscalar + hvectorZ) / 2

/-- **Which matrices come back**: all but those of the half turns around an axis of which two
components have opposite signs. -/
theorem fRotationMatrix_roundTrip_iff (h : IsRotation R) :
    fRotationMatrixFromQuaternion (fQuaternionFromRotationMatrix m R) = R ↔
      1 + R X X + R Y Y + R Z Z ≠ 0 ∨ 0 ≤ R X Y ∧ 0 ≤ R Y Z ∧ 0 ≤ R Z X := by
  rw [fRotationMatrixFromQuaternion_eq_iff h.q0_mul_q0 h.vector_mul_self h.q0_mul_vector]
  simp only [h.vector_mul_vector_iff]
  constructor
  · intro hall
    rcases eq_or_ne (scalarSq R) 0 with hzero | hne
    · have hentry (i : Axis) := (hall i).resolve_left (not_not.mpr hzero)
      exact Or.inr ⟨hentry X, hentry Y, hentry Z⟩
    · exact Or.inl hne
  · rintro (hne | ⟨hX, hY, hZ⟩) i
    · exact Or.inl hne
    · right
      cases i
      · exact hX
      · exact hY
      · exact hZ

/-! ### What the functions give -/

theorem QuaternionT.normSq_nonneg (q : QuaternionT K) : 0 ≤ q.normSq := by
  have h0 := mul_self_nonneg q.q0
  have h1 := mul_self_nonneg q.q1
  have h2 := mul_self_nonneg q.q2
  have h3 := mul_self_nonneg q.q3
  rw [QuaternionT.normSq]
  linarith

/-- **The normalization** makes any quaternion one of length one. -/
theorem QuaternionT.normSq_fqAeqNormqA (q : QuaternionT K) : (fqAeqNormqA m q).normSq = 1 := by
  have hsign (a : QuaternionT K) :
      (if a.q0 < 0 then QuaternionT.mk (-a.q0) (-a.q1) (-a.q2) (-a.q3) else a).normSq
        = a.normSq := by
    split
    · simp only [QuaternionT.normSq]
      ring
    · rfl
  rw [fqAeqNormqA, hsign]
  split
  · rename_i hlarge
    have hroot := m.sqrt_mul_self _ q.normSq_nonneg
    have hpos : 0 < m.sqrt q.normSq := lt_trans (by norm_num [corruptQuat]) hlarge
    change QuaternionT.normSq ⟨q.q0 * (1 / m.sqrt q.normSq), q.q1 * (1 / m.sqrt q.normSq),
      q.q2 * (1 / m.sqrt q.normSq), q.q3 * (1 / m.sqrt q.normSq)⟩ = 1
    generalize m.sqrt q.normSq = fNorm at *
    rw [QuaternionT.normSq] at hroot ⊢
    field_simp
    linear_combination -hroot
  · simp [fqAeq1, QuaternionT.normSq]

theorem QuaternionT.q0_nonneg_fqAeqNormqA (q : QuaternionT K) : 0 ≤ (fqAeqNormqA m q).q0 := by
  have hsign (a : QuaternionT K) :
      0 ≤ (if a.q0 < 0 then QuaternionT.mk (-a.q0) (-a.q1) (-a.q2) (-a.q3) else a).q0 := by
    split
    · rename_i hneg
      exact neg_nonneg.mpr hneg.le
    · rename_i hnonneg
      exact not_lt.mp hnonneg
  rw [fqAeqNormqA]
  exact hsign _

/-- A quaternion of length one has a rotation matrix. -/
theorem isRotation_fRotationMatrixFromQuaternion {q : QuaternionT K} (hq : q.normSq = 1) :
    IsRotation (fRotationMatrixFromQuaternion q) := by
  rw [QuaternionT.normSq] at hq
  apply IsRotation.of_columns
  · intro i j
    -- the entries of the diagonal have a one in place of the squared length
    cases i <;> cases j <;> simp [fRotationMatrixFromQuaternion]
    · linear_combination (4 * (q.q0 * q.q0 + q.q1 * q.q1)) * hq
    · linear_combination (4 * (q.q1 * q.q2)) * hq
    · linear_combination (4 * (q.q1 * q.q3)) * hq
    · linear_combination (4 * (q.q1 * q.q2)) * hq
    · linear_combination (4 * (q.q0 * q.q0 + q.q2 * q.q2)) * hq
    · linear_combination (4 * (q.q2 * q.q3)) * hq
    · linear_combination (4 * (q.q1 * q.q3)) * hq
    · linear_combination (4 * (q.q2 * q.q3)) * hq
    · linear_combination (4 * (q.q0 * q.q0 + q.q3 * q.q3)) * hq
  · simp only [f3x3matrixDetA, fRotationMatrixFromQuaternion, Matrix.of_apply]
    linear_combination (8 * (q.q0 * q.q0) * (q.q0 * q.q0 + q.q1 * q.q1 + q.q2 * q.q2
      + q.q3 * q.q3) - 4 * (q.q0 * q.q0) + 2) * hq

theorem modulus_mul_self (v : Axis → K) :
    modulus m v * modulus m v = v X * v X + v Y * v Y + v Z * v Z := by
  have hX := mul_self_nonneg (v X)
  have hY := mul_self_nonneg (v Y)
  have hZ := mul_self_nonneg (v Z)
  exact m.sqrt_mul_self _ (by linarith)

/-- The product of orthogonal vectors is as long as the two of them together. -/
theorem modulus_vectorProduct {v w : Axis → K} (horth : v X * w X + v Y * w Y + v Z * w Z = 0) :
    modulus m (vectorProduct v w) = modulus m v * modulus m w := by
  have hnonneg : 0 ≤ modulus m v * modulus m w :=
    mul_nonneg (m.sqrt_nonneg _) (m.sqrt_nonneg _)
  refine (mul_self_inj (m.sqrt_nonneg _) hnonneg).mp ?_
  calc modulus m (vectorProduct v w) * modulus m (vectorProduct v w)
      = (v X * v X + v Y * v Y + v Z * v Z) * (w X * w X + w Y * w Y + w Z * w Z)
        - (v X * w X + v Y * w Y + v Z * w Z) * (v X * w X + v Y * w Y + v Z * w Z) := by
        rw [modulus_mul_self]
        simp only [vectorProduct]
        ring
    _ = modulus m v * modulus m w * (modulus m v * modulus m w) := by
        rw [horth, ← modulus_mul_self, ← modulus_mul_self]
        ring

/-- Two orthogonal vectors and their product, each divided by its length, are the columns of a
rotation. -/
theorem IsRotation.of_normalized {v : Axis → Axis → K} (hne : ∀ j, modulus m (v j) ≠ 0)
    (horth : v Y X * v Z X + v Y Y * v Z Y + v Y Z * v Z Z = 0)
    (hproduct : v X = vectorProduct (v Y) (v Z)) :
    IsRotation (Matrix.of fun i j => v j i * (1 / modulus m (v j))) := by
  have hinv (j : Axis) : modulus m (v j) * (1 / modulus m (v j)) = 1 :=
    mul_one_div_cancel (hne j)
  have hself (j : Axis) := modulus_mul_self (m := m) (v j)
  have hX : v X X = v Y Y * v Z Z - v Y Z * v Z Y := congrFun hproduct X
  have hY : v X Y = v Y Z * v Z X - v Y X * v Z Z := congrFun hproduct Y
  have hZ : v X Z = v Y X * v Z Y - v Y Y * v Z X := congrFun hproduct Z
  have hfactor : modulus m (v X) = modulus m (v Y) * modulus m (v Z) := by
    rw [hproduct, modulus_vectorProduct horth]
  have hXY : v X X * v Y X + v X Y * v Y Y + v X Z * v Y Z = 0 := by
    rw [hX, hY, hZ]
    ring
  have hXZ : v X X * v Z X + v X Y * v Z Y + v X Z * v Z Z = 0 := by
    rw [hX, hY, hZ]
    ring
  have hselfX := hself X
  have hselfY := hself Y
  have hselfZ := hself Z
  have hinvX := hinv X
  have hinvY := hinv Y
  have hinvZ := hinv Z
  generalize hrx : 1 / modulus m (v X) = rx at *
  generalize hry : 1 / modulus m (v Y) = ry at *
  generalize hrz : 1 / modulus m (v Z) = rz at *
  apply IsRotation.of_columns
  · intro i j
    cases i <;> cases j <;>
      simp only [Matrix.of_apply, hrx, hry, hrz, reduceCtorEq, if_true, if_false]
    · linear_combination (-(rx * rx)) * hselfX + (modulus m (v X) * rx + 1) * hinvX
    · linear_combination rx * ry * hXY
    · linear_combination rx * rz * hXZ
    · linear_combination rx * ry * hXY
    · linear_combination (-(ry * ry)) * hselfY + (modulus m (v Y) * ry + 1) * hinvY
    · linear_combination ry * rz * horth
    · linear_combination rx * rz * hXZ
    · linear_combination ry * rz * horth
    · linear_combination (-(rz * rz)) * hselfZ + (modulus m (v Z) * rz + 1) * hinvZ
  · simp only [f3x3matrixDetA, Matrix.of_apply, hrx, hry, hrz]
    calc _ = (v X X * v X X + v X Y * v X Y + v X Z * v X Z) * (rx * ry * rz) := by
          rw [hX, hY, hZ]
          ring
      _ = modulus m (v X) * rx * (modulus m (v Y) * ry * (modulus m (v Z) * rz)) := by
          rw [← hselfX]
          nth_rewrite 2 [hfactor]
          ring
      _ = 1 := by rw [hinvX, hinvY, hinvZ, mul_one, mul_one]

/-- **The orientation from gravity and the field** is a rotation, whatever they are. -/
theorem isRotation_feCompassNED (fBc fGp : Axis → K) : IsRotation (feCompassNED m fBc fGp).1 := by
  let y := vectorProduct fGp fBc
  let x := vectorProduct y fGp
  let v : Axis → Axis → K
    | X => x
    | Y => y
    | Z => fGp
  by_cases hdegenerate : modulus m x = 0 ∨ modulus m y = 0 ∨ modulus m fGp = 0
  · have heq : feCompassNED m fBc fGp = (f3x3matrixAeqI, 0) := if_neg (not_not.mpr hdegenerate)
    rw [heq]
    exact isRotation_one
  · have heq :
        (feCompassNED m fBc fGp).1 = Matrix.of fun i j => v j i * (1 / modulus m (v j)) := by
      rw [feCompassNED, if_pos hdegenerate]
      ext i j
      cases j <;> rfl
    simp only [not_or] at hdegenerate
    obtain ⟨hx, hy, hz⟩ := hdegenerate
    have horth : v Y X * v Z X + v Y Y * v Z Y + v Y Z * v Z Z = 0 := by
      simp only [v, y, vectorProduct]
      ring
    rw [heq]
    refine IsRotation.of_normalized (fun j => ?_) horth rfl
    cases j
    · exact hx
    · exact hy
    · exact hz

theorem IsRotation.vectorProduct_columns (h : IsRotation R) (j : Axis) :
    vectorProduct (fun i => R i j.next) (fun i => R i j.next.next) = fun i => R i j := by
  funext i
  have hcofactor := h.cofactor i j
  cases i <;> cases j <;> simp [vectorProduct] at hcofactor ⊢ <;> linear_combination -hcofactor

theorem IsRotation.modulus_column (h : IsRotation R) (j : Axis) {k : K} (hk : 0 ≤ k) :
    modulus m (fun i => k * R i j) = k := by
  have hcolumn := h.columns j j
  rw [if_pos rfl] at hcolumn
  exact m.sqrt_eq hk (by linear_combination -(k * k) * hcolumn)

/-- **The orientation is found** from exact readings, whichever it is: gravity along the third axis
of the global frame, and a field of any strength and inclination. -/
theorem feCompassNED_recovers (h : IsRotation R) {gravity north down : K} (hgravity : 0 < gravity)
    (hnorth : 0 < north) : (feCompassNED m (fun i => north * R i X + down * R i Z)
      (fun i => gravity * R i Z)).1 = R := by
  have hy : vectorProduct (fun i => gravity * R i Z) (fun i => north * R i X + down * R i Z)
      = fun i => gravity * north * R i Y := by
    have hproduct := h.vectorProduct_columns Y
    funext i
    have hcomponent := congrFun hproduct i
    cases i <;> simp [vectorProduct] at hcomponent ⊢ <;>
      linear_combination gravity * north * hcomponent
  have hx : vectorProduct (fun i => gravity * north * R i Y) (fun i => gravity * R i Z)
      = fun i => gravity * north * gravity * R i X := by
    have hproduct := h.vectorProduct_columns X
    funext i
    have hcomponent := congrFun hproduct i
    cases i <;> simp [vectorProduct] at hcomponent ⊢ <;>
      linear_combination gravity * north * gravity * hcomponent
  have hgn : 0 < gravity * north := mul_pos hgravity hnorth
  have hgng : 0 < gravity * north * gravity := mul_pos hgn hgravity
  rw [feCompassNED]
  simp only [hy, hx, h.modulus_column X hgng.le, h.modulus_column Y hgn.le,
    h.modulus_column Z hgravity.le, hgng.ne', hgn.ne', hgravity.ne', or_self, not_false_iff,
    if_true]
  ext i j
  cases j <;> simp only [Matrix.of_apply] <;> field_simp

omit [IsStrictOrderedRing K] in
/-- A field along gravity has no north. -/
theorem feCompassNED_parallel (v : Axis → K) (gravity down : K) :
    (feCompassNED m (fun i => down * v i) (fun i => gravity * v i)).1 = f3x3matrixAeqI := by
  have hy : vectorProduct (fun i => gravity * v i) (fun i => down * v i) = fun _ => 0 := by
    funext i
    cases i <;> simp only [vectorProduct] <;> ring
  have hmodulus : modulus m (fun _ : Axis => (0 : K)) = 0 := by
    have hroot := m.sqrt_mul_self 0 le_rfl
    rw [modulus]
    simpa using hroot
  have hdegenerate : ¬ ¬ (modulus m (vectorProduct (fun _ => (0 : K)) fun i => gravity * v i) = 0 ∨
      modulus m (fun _ : Axis => (0 : K)) = 0 ∨ modulus m (fun i => gravity * v i) = 0) :=
    not_not.mpr (.inr (.inl hmodulus))
  rw [feCompassNED, hy, if_neg hdegenerate]

/-- The ranges of the angles. -/
structure NEDAngles.InRange (angles : NEDAngles K) : Prop where
  roll : -180 ≤ angles.roll ∧ angles.roll < 180
  pitch : -90 ≤ angles.pitch ∧ angles.pitch ≤ 90
  yaw : 0 ≤ angles.yaw ∧ angles.yaw < 360
  compass : angles.compass = angles.yaw
  tilt : 0 ≤ angles.tilt ∧ angles.tilt ≤ 180

theorem mapYaw_mem {psi : K} (hlo : -360 ≤ psi) : 0 ≤ mapYaw psi ∧ mapYaw psi < 360 := by
  have hnonneg : 0 ≤ if psi < 0 then psi + 360 else psi := by
    split
    · linarith
    · rename_i hsign
      exact not_lt.mp hsign
  simp only [mapYaw]
  generalize (if psi < 0 then psi + 360 else psi) = mapped at hnonneg ⊢
  split
  · norm_num
  · rename_i hlarge
    exact ⟨hnonneg, not_le.mp hlarge⟩

/-- **The angles are in range**, whatever the matrix is. -/
theorem inRange_fNEDAnglesDegFromRotationMatrix (R : Matrix Axis Axis K) :
    (fNEDAnglesDegFromRotationMatrix m R).InRange := by
  have hroll : -180 ≤ (fNEDAnglesDegFromRotationMatrix m R).roll ∧
      (fNEDAnglesDegFromRotationMatrix m R).roll < 180 := by
    obtain ⟨hlo, hhi⟩ := fatan2Deg_mem (R Y Z) (R Z Z)
    simp only [fNEDAnglesDegFromRotationMatrix]
    split
    · norm_num [halfTurn]
    · rename_i hne
      exact ⟨hlo, lt_of_le_of_ne hhi hne⟩
  refine ⟨hroll, fasinDeg_mem m _, ?_, rfl, facosDeg_mem m _⟩
  refine mapYaw_mem ?_
  split
  · have hmem := fatan2Deg_mem (R Z Y) (R Y Y)
    have hlo := hroll.1
    simp only [fNEDAnglesDegFromRotationMatrix] at hlo
    linarith [hmem.1]
  · split
    · have hmem := fatan2Deg_mem (-R Z Y) (R Y Y)
      have hhi := hroll.2
      simp only [fNEDAnglesDegFromRotationMatrix] at hhi
      linarith [hmem.1]
    · have hmem := fatan2Deg_mem (R X Y) (R X X)
      linarith [hmem.1]

end

end ImuGamepad
