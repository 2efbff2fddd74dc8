import ImuGamepad.App
import ImuGamepad.Orientation
import ImuGamepad.SquareMatrix
import Mathlib.Data.Fintype.Prod

/-!
# The fusion filter

`Adafruit_NXPSensorFusion`, an indirect Kalman filter. Its error vector has twelve components: the
errors of the orientation, of the gyroscope's offset, of the linear acceleration and of the magnetic
disturbance, three each. Six are measured: the differences between the readings of the accelerometer
and of the magnetometer and what the gyroscope lets expect. The matrices are indexed by the parts of
these vectors and the axes, and a part has the place in the source's arrays that it has in its
enumeration.

The matrices are sparse, and many entries are one or minus one. The loops of the source know this.
They also share one working array. Here every matrix that it holds has its own name.

## Main definitions

* `NXPFusion` — the object
* `NXPFusion.begin`, `NXPFusion.update` — the two calls
* `fusionState` — the object after some calls
-/

namespace ImuGamepad

open Axis

/-- The parts of the error vector: orientation, gyroscope offset, linear acceleration and magnetic
disturbance. -/
inductive ErrorPart
  | th
  | b
  | a
  | d
  deriving DecidableEq

instance : Fintype ErrorPart := ⟨{.th, .b, .a, .d}, fun i => by cases i <;> decide⟩

/-- The parts of the measured vector: gravity and the geomagnetic field. -/
inductive MeasuredPart
  | g
  | m
  deriving DecidableEq

instance : Fintype MeasuredPart := ⟨{.g, .m}, fun i => by cases i <;> decide⟩

/-- The index of a matrix entry by the error vector. -/
abbrev ErrorIndex := ErrorPart × Axis

/-- The index of a matrix entry by the measured vector. -/
abbrev MeasuredIndex := MeasuredPart × Axis

/-- The axes in the order of a loop. -/
def axes : List Axis := [X, Y, Z]

/-- The indices of a loop over the error vector. -/
def errorIndices : List ErrorIndex :=
  [ErrorPart.th, .b, .a, .d].flatMap fun part => axes.map fun i => (part, i)

/-- The indices of a loop over the measured vector. -/
def measuredIndices : List MeasuredIndex :=
  [MeasuredPart.g, .m].flatMap fun part => axes.map fun i => (part, i)

/-- Only the entries on and above the diagonal are computed. They are copied to below it. -/
def mirror {ι K : Type*} [DecidableEq ι] (indices : List ι) (A : Matrix ι ι K) : Matrix ι ι K :=
  Matrix.of fun i j => if indices.idxOf i ≤ indices.idxOf j then A i j else A j i

theorem zero_lt_three : 0 < 3 := by decide

theorem one_lt_three : 1 < 3 := by decide

theorem two_lt_three : 2 < 3 := by decide

/-- The number of a component. -/
def Axis.toFin : Axis → Fin 3
  | X => ⟨0, zero_lt_three⟩
  | Y => ⟨1, one_lt_three⟩
  | Z => ⟨2, two_lt_three⟩

/-- The component with a number. -/
def Axis.ofFin (i : Fin 3) : Axis := if i.val = 0 then X else if i.val = 1 then Y else Z

theorem three_neZero : NeZero 3 := ⟨by decide⟩

/-- `Adafruit_NXPSensorFusion`. -/
structure NXPFusion (K : Type*) where
  angles : NEDAngles K
  RPl : Matrix Axis Axis K
  qPl : QuaternionT K
  bPl : Axis → K
  aSePl : Axis → K
  gSeGyMi : Axis → K
  mGl : Axis → K
  deltaPl : K
  QvAA : K
  QvMM : K
  PPlus12x12 : Matrix ErrorIndex ErrorIndex K
  K12x6 : Matrix ErrorIndex MeasuredIndex K
  Qw12x12 : Matrix ErrorIndex ErrorIndex K
  C6x12 : Matrix MeasuredIndex ErrorIndex K
  casq : K
  cdsq : K
  fastdeltat : K
  deltat : K
  deltatsq : K
  QwbplusQvG : K
  firstOrientationLock : Bool
  resetflag : Bool

section

variable {K : Type*} [Field K]

/-- `FQVA_9DOF_GBY_KALMAN`. -/
def fqva : K := 2e-6

/-- `FQVM_9DOF_GBY_KALMAN`. -/
def fqvm : K := 0.1

/-- `FQVG_9DOF_GBY_KALMAN`. -/
def fqvg : K := 0.3

/-- `FQWB_9DOF_GBY_KALMAN`. -/
def fqwb : K := 1e-9

/-- `FQWA_9DOF_GBY_KALMAN`. -/
def fqwa : K := 1e-4

/-- `FQWD_9DOF_GBY_KALMAN`. -/
def fqwd : K := 0.5

/-- `FQWINITTHTH_9DOF_GBY_KALMAN`. -/
def fqwInitThTh : K := 2000e-5

/-- `FQWINITBB_9DOF_GBY_KALMAN`. -/
def fqwInitBB : K := 250e-3

/-- `FQWINITTHB_9DOF_GBY_KALMAN`. -/
def fqwInitThB : K := 0

/-- `FQWINITAA_9DOF_GBY_KALMAN`. -/
def fqwInitAA : K := 10e-5

/-- `FQWINITDD_9DOF_GBY_KALMAN`. -/
def fqwInitDD : K := 600e-3

/-- `FCA_9DOF_GBY_KALMAN`. -/
def fca : K := 0.5

/-- `FCD_9DOF_GBY_KALMAN`. -/
def fcd : K := 0.5

/-- `SINDELTAMAX`. -/
def sinDeltaMax : K := 0.9063078

/-- `COSDELTAMAX`. -/
def cosDeltaMax : K := 0.4226183

/-- `DEFAULTB`, in microteslas. -/
def defaultB : K := 50

namespace NXPFusion

/-- The object as a boot finds it: zero. -/
def zero : NXPFusion K where
  angles := ⟨0, 0, 0, 0, 0⟩
  RPl := 0
  qPl := ⟨0, 0, 0, 0⟩
  bPl := 0
  aSePl := 0
  gSeGyMi := 0
  mGl := 0
  deltaPl := 0
  QvAA := 0
  QvMM := 0
  PPlus12x12 := 0
  K12x6 := 0
  Qw12x12 := 0
  C6x12 := 0
  casq := 0
  cdsq := 0
  fastdeltat := 0
  deltat := 0
  deltatsq := 0
  QwbplusQvG := 0
  firstOrientationLock := false
  resetflag := false

/-- `begin`. The linear acceleration is not reset, nor are the angles. -/
def begin (s : NXPFusion K) (sampleFrequency : K) : NXPFusion K :=
  let deltat := 1 / sampleFrequency
  let deltatsq := deltat * deltat
  { s with
    firstOrientationLock := false
    fastdeltat := deltat
    deltat := deltat
    deltatsq := deltatsq
    casq := fca * fca
    cdsq := fcd * fcd
    QwbplusQvG := fqwb + fqvg
    C6x12 := Matrix.of fun
      | (.g, i), (.a, j) => if i = j then 1 else 0
      | (.m, i), (.d, j) => if i = j then -1 else 0
      | _, _ => 0
    RPl := f3x3matrixAeqI
    qPl := fqAeq1
    bPl := fun _ => 0
    deltaPl := 0
    mGl := fun
      | X => defaultB
      | Y => 0
      | Z => 0
    QvAA := fqva + fqwa + fDegToRad * fDegToRad * deltatsq * (fqwb + fqvg)
    QvMM := fqvm + fqwd + fDegToRad * fDegToRad * deltatsq * defaultB * defaultB * (fqwb + fqvg)
    Qw12x12 := Matrix.of fun
      | (.th, i), (.th, j) => if i = j then fqwInitThTh else 0
      | (.b, i), (.b, j) => if i = j then fqwInitBB else 0
      | (.th, i), (.b, j) => if i = j then fqwInitThB else 0
      | (.b, i), (.th, j) => if i = j then fqwInitThB else 0
      | (.a, i), (.a, j) => if i = j then fqwInitAA else 0
      | (.d, i), (.d, j) => if i = j then fqwInitDD else 0
      | _, _ => 0
    resetflag := false }

end NXPFusion

/-! ### The measurement matrix -/

/-- The entries beside the diagonal, from those above it. -/
def setSkew (A : Matrix Axis Axis K) (xy xz yz : K) : Matrix Axis Axis K :=
  Matrix.of fun
    | X, Y => xy
    | X, Z => xz
    | Y, Z => yz
    | Y, X => -xy
    | Z, X => -xz
    | Z, Y => -yz
    | i, j => A i j

/-- A block of a matrix. -/
def block (C : Matrix MeasuredIndex ErrorIndex K) (p : MeasuredPart) (q : ErrorPart) :
    Matrix Axis Axis K := Matrix.of fun i j => C (p, i) (q, j)

/-- The variable elements of `C6x12`. -/
def measurementMatrix (deltat : K) (gSeGyMi mSeGyMi : Axis → K)
    (C : Matrix MeasuredIndex ErrorIndex K) : Matrix MeasuredIndex ErrorIndex K :=
  let v : MeasuredPart → Axis → K
    | .g => gSeGyMi
    | .m => mSeGyMi
  let xy p := fDegToRad * v p Z
  let xz p := -fDegToRad * v p Y
  let yz p := fDegToRad * v p X
  Matrix.of fun
    | (p, i), (.th, j) => setSkew (block C p .th) (xy p) (xz p) (yz p) i j
    | (p, i), (.b, j) =>
      setSkew (block C p .b) (-deltat * xy p) (-deltat * xz p) (-deltat * yz p) i j
    | i, j => C i j

/-! ### The matrix products -/

variable [LinearOrder K]

/-- The inner loop of a product with `C6x12`. Zeros are left out, and one and minus one are not
multiplied by. -/
def sumSparse {ι : Type*} (indices : List ι) (c a : ι → K) : K :=
  indices.foldl (fun sum k =>
    if a k ≠ 0 ∧ c k ≠ 0 then
      if c k = 1 then sum + a k
      else if c k = -1 then sum - a k
      else sum + a k * c k
    else sum) 0

/-- `ftmpA12x6`. -/
def productQwCT (Qw : Matrix ErrorIndex ErrorIndex K) (C : Matrix MeasuredIndex ErrorIndex K) :
    Matrix ErrorIndex MeasuredIndex K :=
  Matrix.of fun i j => sumSparse errorIndices (C j) (Qw i)

/-- The covariance of the measured errors. -/
def innovation (QvAA QvMM : K) (C : Matrix MeasuredIndex ErrorIndex K)
    (ftmpA12x6 : Matrix ErrorIndex MeasuredIndex K) : Matrix MeasuredIndex MeasuredIndex K :=
  let noise : MeasuredPart → K
    | .g => QvAA
    | .m => QvMM
  mirror measuredIndices (Matrix.of fun i j =>
    let sum := sumSparse errorIndices (C i) fun k => ftmpA12x6 k j
    if i = j then sum + noise i.1 else sum)

/-- The inversion, of the first three rows and columns only. -/
def invertLeading (P : Matrix MeasuredIndex MeasuredIndex K) :
    Matrix MeasuredIndex MeasuredIndex K :=
  let inverse : Matrix (Fin 3) (Fin 3) K :=
    @fmatrixAeqInvA 3 K _ _ three_neZero
      (Matrix.of fun i j => P (.g, Axis.ofFin i) (.g, Axis.ofFin j))
  Matrix.of fun
    | (.g, i), (.g, j) => inverse i.toFin j.toFin
    | i, j => P i j

/-- `K12x6`. -/
def gain (ftmpA12x6 : Matrix ErrorIndex MeasuredIndex K)
    (P : Matrix MeasuredIndex MeasuredIndex K) : Matrix ErrorIndex MeasuredIndex K :=
  Matrix.of fun i j => measuredIndices.foldl (fun sum k =>
    if ftmpA12x6 i k ≠ 0 then sum + ftmpA12x6 i k * P k j else sum) 0

/-- `PPlus12x12`, the covariance of the error vector after the correction. -/
def covariance (Qw : Matrix ErrorIndex ErrorIndex K) (C : Matrix MeasuredIndex ErrorIndex K)
    (K12x6 : Matrix ErrorIndex MeasuredIndex K) : Matrix ErrorIndex ErrorIndex K :=
  let productCQw : Matrix MeasuredIndex ErrorIndex K :=
    Matrix.of fun i j => sumSparse errorIndices (C i) fun k => Qw k j
  mirror errorIndices (Matrix.of fun i j => measuredIndices.foldl (fun entry k =>
    if productCQw k j ≠ 0 then entry - K12x6 i k * productCQw k j else entry) (Qw i j))

/-! ### One update -/

/-- What the gyroscope lets expect, and how the readings differ from it. -/
structure Priori (K : Type*) where
  qMi : QuaternionT K
  gSeGyMi : Axis → K
  aSeMi : Axis → K
  gErrSeMi : Axis → K
  mSeGyMi : Axis → K
  mErrSeMi : Axis → K

/-- The error vector, and whether the magnetometer has been used for it. -/
structure Posteriori (K : Type*) where
  thErrPl : Axis → K
  bErrPl : Axis → K
  aErrSePl : Axis → K
  dErrSePl : Axis → K
  useMag : Bool

/-- `ValidMagCal`. -/
def validMagCal (mag : Axis → K) : Bool := decide (|mag X| ≤ 50 ∧ |mag Y| ≤ 50 ∧ |mag Z| ≤ 50)

namespace NXPFusion

variable (m : Libm K)

/-- The orientation lock. -/
def lock (s : NXPFusion K) (accel mag : Axis → K) : NXPFusion K :=
  if validMagCal mag ∧ ¬ s.firstOrientationLock then
    let (RPl, deltaPl) := feCompassNED m mag accel
    { s with
      RPl
      deltaPl
      qPl := fQuaternionFromRotationMatrix m RPl
      firstOrientationLock := true }
  else s

/-- The estimates before the correction. -/
def priori (s : NXPFusion K) (yp accel mag : Axis → K) : Priori K :=
  let rvec i := (yp i - s.bPl i) * s.fastdeltat
  let qMi := qAeqAxB s.qPl (fQuaternionFromRotationVectorDeg m rvec 1)
  let RMi := fRotationMatrixFromQuaternion qMi
  let gSeGyMi i := RMi i Z
  let aSeMi i := fca * s.aSePl i
  let mSeGyMi i := RMi i X * s.mGl X + RMi i Z * s.mGl Z
  { qMi
    gSeGyMi
    aSeMi
    gErrSeMi := fun i => accel i + aSeMi i - gSeGyMi i
    mSeGyMi
    mErrSeMi := fun i => mag i - mSeGyMi i }

end NXPFusion

/-- The error vector from the measured one. Where the magnetometer is not to be used, only the
magnetic disturbance depends on it. -/
def posteriori (K12x6 : Matrix ErrorIndex MeasuredIndex K) (prior : Priori K) (valid : Bool) :
    Posteriori K :=
  let fromGravity part i := K12x6 (part, i) (.g, X) * prior.gErrSeMi X +
    K12x6 (part, i) (.g, Y) * prior.gErrSeMi Y + K12x6 (part, i) (.g, Z) * prior.gErrSeMi Z
  let fromField part i := K12x6 (part, i) (.m, X) * prior.mErrSeMi X +
    K12x6 (part, i) (.m, Y) * prior.mErrSeMi Y + K12x6 (part, i) (.m, Z) * prior.mErrSeMi Z
  let dErrSePl i := fromGravity .d i + fromField .d i
  let ftmp := dErrSePl X * dErrSePl X + dErrSePl Y * dErrSePl Y + dErrSePl Z * dErrSePl Z
  let iMagJamming := valid && decide (defaultB * defaultB * 4 < ftmp)
  let useMag := valid && !iMagJamming
  let err part i := if useMag then fromGravity part i + fromField part i else fromGravity part i
  { thErrPl := err .th
    bErrPl := err .b
    aErrSePl := err .a
    dErrSePl
    useMag }

/-- A vector from the frame of the sensor to the global one. -/
def deRotate (RPl : Matrix Axis Axis K) (v : Axis → K) : Axis → K :=
  fun j => RPl X j * v X + RPl Y j * v Y + RPl Z j * v Z

/-- The sine and the cosine of the inclination of a field with these components, limited, unless the
field is zero. -/
def inclination (m : Libm K) (fopp fadj : K) : Option (K × K) :=
  let fadj := if fadj < 0 then 0 else fadj
  let fhyp := m.sqrt (fopp * fopp + fadj * fadj)
  if fhyp ≠ 0 then
    let ftmp := 1 / fhyp
    some (
      if sinDeltaMax < fopp * ftmp then (sinDeltaMax, cosDeltaMax)
      else if fopp * ftmp < -sinDeltaMax then (-sinDeltaMax, cosDeltaMax)
      else (fopp * ftmp, fadj * ftmp))
  else none

/-- The new reference vector of the field. -/
def NXPFusion.updateField (m : Libm K) (s : NXPFusion K) (RPl : Matrix Axis Axis K)
    (post : Posteriori K) : NXPFusion K :=
  if post.useMag then
    let dErrGlPl := deRotate RPl post.dErrSePl
    match inclination m (s.mGl Z - dErrGlPl Z) (s.mGl X - dErrGlPl X) with
    | some (fsindelta, fcosdelta) =>
      { s with
        deltaPl := fasinDeg m fsindelta
        mGl := fun
          | X => defaultB * fcosdelta
          | Y => s.mGl Y
          | Z => defaultB * fsindelta }
    | none => s
  else s

/-- `Qw12x12` for the next call, from `PPlus12x12`. -/
def nextQw (s : NXPFusion K) (PPlus : Matrix ErrorIndex ErrorIndex K) :
    Matrix ErrorIndex ErrorIndex K :=
  let bb i := PPlus (.b, i) (.b, i) + fqwb
  Matrix.of fun
    | (.th, i), (.th, j) =>
      if i = j then PPlus (.th, i) (.th, i) + s.deltatsq * (PPlus (.b, i) (.b, i) + s.QwbplusQvG)
      else 0
    | (.b, i), (.b, j) => if i = j then bb i else 0
    | (.th, i), (.b, j) => if i = j then -s.deltat * bb i else 0
    | (.b, i), (.th, j) => if i = j then -s.deltat * bb i else 0
    | (.a, i), (.a, j) => if i = j then s.casq * PPlus (.a, i) (.a, i) + fqwa else 0
    | (.d, i), (.d, j) => if i = j then s.cdsq * PPlus (.d, i) (.d, i) + fqwd else 0
    | _, _ => 0

namespace NXPFusion

variable (m : Libm K)

/-- `update`, from the measured errors on. -/
def correct (s : NXPFusion K) (prior : Priori K) (valid : Bool) : NXPFusion K :=
  let C6x12 := measurementMatrix s.deltat prior.gSeGyMi prior.mSeGyMi s.C6x12
  let ftmpA12x6 := productQwCT s.Qw12x12 C6x12
  let K12x6 := gain ftmpA12x6 (invertLeading (innovation s.QvAA s.QvMM C6x12 ftmpA12x6))
  let post := posteriori K12x6 prior valid
  let qPl := fqAeqNormqA m
    (qAeqBxC prior.qMi (fQuaternionFromRotationVectorDeg m post.thErrPl (-1)))
  let RPl := fRotationMatrixFromQuaternion qPl
  let s := s.updateField m RPl post
  let PPlus12x12 := covariance s.Qw12x12 C6x12 K12x6
  { s with
    angles := fNEDAnglesDegFromRotationMatrix m RPl
    RPl
    qPl
    bPl := fun i => s.bPl i - post.bErrPl i
    aSePl := fun i => prior.aSeMi i - post.aErrSePl i
    gSeGyMi := prior.gSeGyMi
    PPlus12x12
    K12x6
    Qw12x12 := nextQw s PPlus12x12
    C6x12 }

/-- `update`. -/
def update (s : NXPFusion K) (yp accel mag : Axis → K) : NXPFusion K :=
  if s.resetflag then s.begin (1 / s.deltat)
  else
    let s := s.lock m accel mag
    s.correct m (s.priori m yp accel mag) (validMagCal mag)

/-- Three arguments. -/
def vector (x y z : ℚ) : Axis → K
  | X => (x : K)
  | Y => (y : K)
  | Z => (z : K)

/-- A call. -/
def call (s : NXPFusion K) : FusionCall → NXPFusion K
  | .begin sampleFrequency => s.begin (sampleFrequency : K)
  | .update gx gy gz ax ay az mx my mz =>
    s.update m (vector gx gy gz) (vector ax ay az) (vector mx my mz)
  | .setQuaternion w x y z => { s with qPl := ⟨w, x, y, z⟩ }

end NXPFusion

/-- A filter that has been called so since the boot. -/
def fusionState (m : Libm K) (calls : FusionFilter) : NXPFusion K :=
  calls.foldl (NXPFusion.call m) NXPFusion.zero

end

end ImuGamepad
