import Mathlib.Algebra.Order.Field.Basic
import Mathlib.Analysis.SpecialFunctions.Trigonometric.Basic
import Mathlib.Data.Rat.Cast.OfScientific
import Mathlib.Tactic.Linarith
import Mathlib.Tactic.NormNum
import Mathlib.Tactic.Positivity
import Mathlib.Tactic.Ring

/-!
# Angles

The fusion filter's own inverse trigonometric functions, in degrees. All of them come down to one
rational function, near zero, to which the arguments are mapped. The numbers are exact: elements of
an ordered field that has square roots, in place of single-precision floats.

## Main definitions

* `Libm` — the functions of the C library
* `fatanDeg`, `fasinDeg`, `facosDeg`, `fatan2Deg`

## Main results

* `fatanDeg_mem`, `fasinDeg_mem`, `facosDeg_mem`, `fatan2Deg_mem` — the ranges of the results
-/

namespace ImuGamepad

/-- The functions of the C library, on exact numbers. -/
structure Libm (K : Type*) [Field K] [LinearOrder K] where
  sqrt : K → K
  sin : K → K
  sqrt_nonneg : ∀ x, 0 ≤ sqrt x
  sqrt_mul_self : ∀ x, 0 ≤ x → sqrt x * sqrt x = x

/-- The functions on real numbers. -/
noncomputable def Libm.real : Libm ℝ where
  sqrt := Real.sqrt
  sin := Real.sin
  sqrt_nonneg := Real.sqrt_nonneg
  sqrt_mul_self _ hx := Real.mul_self_sqrt hx

/-! ### The functions -/

section

variable {K : Type*} [Field K] [LinearOrder K]

/-- `TAN15DEG`. -/
def tan15Deg : K := 0.26794919243

/-- `TAN30DEG`. -/
def tan30Deg : K := 0.57735026919

/-- A quarter turn, in degrees. -/
def quarterTurn : K := 90

/-- A half turn, in degrees. -/
def halfTurn : K := 180

/-- `fatan_15deg`. -/
def fatan15Deg (x : K) : K :=
  let x2 := x * x
  x * (96.644395816 + x2 * 25.086941612) / (1.6867633134 + x2)

/-- `fatan_deg`, for an argument between zero and one. -/
def fatan45Deg (x : K) : K :=
  if tan15Deg < x then fatan15Deg ((x - tan30Deg) / (1 + tan30Deg * x)) + 30 else fatan15Deg x

/-- `fatan_deg`. -/
def fatanDeg (x : K) : K :=
  let y := if x < 0 then -x else x
  let fangledeg := if 1 < y then 90 - fatan45Deg (1 / y) else fatan45Deg y
  if x < 0 then -fangledeg else fangledeg

/-- `fasin_deg`. -/
def fasinDeg (m : Libm K) (x : K) : K :=
  if 1 ≤ x then 90
  else if x ≤ -1 then -90
  else fatanDeg (x / m.sqrt (1 - x * x))

/-- `facos_deg`. -/
def facosDeg (m : Libm K) (x : K) : K :=
  if 1 ≤ x then 0
  else if x ≤ -1 then 180
  else if x = 0 then 90
  else if 0 < x then fatanDeg (m.sqrt (1 - x * x) / x)
  else 180 + fatanDeg (m.sqrt (1 - x * x) / x)

/-- `fatan2_deg`. -/
def fatan2Deg (y x : K) : K :=
  if x = 0 then
    if 0 < y then 90
    else if y < 0 then -90
    else 0
  else if 0 < x then fatanDeg (y / x)
  else if x < 0 ∧ 0 < y then 180 + fatanDeg (y / x)
  else -180 + fatanDeg (y / x)

end

/-! ### Square roots -/

section

variable {K : Type*} [Field K] [LinearOrder K] [IsStrictOrderedRing K] (m : Libm K)

theorem Libm.sqrt_eq {x y : K} (hy : 0 ≤ y) (h : y * y = x) : m.sqrt x = y := by
  have hx : 0 ≤ x := by
    rw [← h]
    exact mul_self_nonneg y
  rw [← mul_self_inj (m.sqrt_nonneg x) hy, m.sqrt_mul_self x hx, h]

end

/-! ### Their ranges -/

section

variable {K : Type*} [Field K] [LinearOrder K] [IsStrictOrderedRing K]

theorem fatan15Deg_nonneg {x : K} (hx : 0 ≤ x) : 0 ≤ fatan15Deg x := by
  rw [fatan15Deg]
  positivity

theorem fatan15Deg_neg (x : K) : fatan15Deg (-x) = -fatan15Deg x := by
  rw [fatan15Deg, fatan15Deg, neg_mul_neg]
  ring

theorem fatan15Deg_le {x : K} (hx : 0 ≤ x) (hx' : x ≤ 0.43) : fatan15Deg x ≤ 30 := by
  have hsq : x * x ≤ 0.43 * 0.43 := mul_le_mul hx' hx' hx (by norm_num)
  have hnum : x * (96.644395816 + x * x * 25.086941612) ≤ 0.43 * (96.644395816 + 5) := by
    refine mul_le_mul hx' ?_ (by positivity) (by norm_num)
    norm_num at hsq ⊢
    linarith
  have hden : (0 : K) < 1.6867633134 + x * x := by positivity
  rw [fatan15Deg, div_le_iff₀ hden]
  have hx2 : 0 ≤ x * x := mul_nonneg hx hx
  norm_num at hnum ⊢
  linarith

theorem abs_fatan15Deg_le {x : K} (hx : |x| ≤ 0.43) : |fatan15Deg x| ≤ 30 := by
  rcases le_total 0 x with hsign | hsign
  · rw [abs_of_nonneg hsign] at hx
    rw [abs_of_nonneg (fatan15Deg_nonneg hsign)]
    exact fatan15Deg_le hsign hx
  · rw [abs_of_nonpos hsign] at hx
    have hneg : 0 ≤ -x := by linarith
    rw [← neg_neg x, fatan15Deg_neg, abs_neg, abs_of_nonneg (fatan15Deg_nonneg hneg)]
    exact fatan15Deg_le hneg hx

theorem fatan45Deg_mem {x : K} (hx : 0 ≤ x) (hx' : x ≤ 1) :
    0 ≤ fatan45Deg x ∧ fatan45Deg x ≤ 90 := by
  rw [fatan45Deg]
  split
  · rename_i hmapped
    have hden : (1 : K) ≤ 1 + tan30Deg * x := by
      rw [tan30Deg]
      linarith [mul_nonneg (show (0 : K) ≤ 0.57735026919 by norm_num) hx]
    have hsmall : |(x - tan30Deg) / (1 + tan30Deg * x)| ≤ 0.43 := by
      have hdiff : |x - tan30Deg| ≤ 0.43 := by
        rw [abs_le]
        rw [tan15Deg] at hmapped
        rw [tan30Deg]
        constructor
        · norm_num at hmapped ⊢
          linarith
        · norm_num
          linarith
      rw [abs_div, abs_of_nonneg (by linarith : (0 : K) ≤ 1 + tan30Deg * x)]
      exact (div_le_self (abs_nonneg _) hden).trans hdiff
    have hle := abs_le.mp (abs_fatan15Deg_le hsmall)
    constructor
    · linarith [hle.1]
    · linarith [hle.2]
  · rename_i hsmall
    have hle : x ≤ 0.43 := by
      rw [tan15Deg] at hsmall
      norm_num at hsmall ⊢
      linarith
    exact ⟨fatan15Deg_nonneg hx, (fatan15Deg_le hx hle).trans (by norm_num)⟩

theorem fatanDeg_of_nonneg {x : K} (hx : 0 ≤ x) : 0 ≤ fatanDeg x ∧ fatanDeg x ≤ 90 := by
  simp only [fatanDeg, if_neg (not_lt.mpr hx)]
  split
  · rename_i hlarge
    have hle : 1 / x ≤ 1 := by
      rw [div_le_one (by linarith)]
      exact hlarge.le
    obtain ⟨hlo, hhi⟩ := fatan45Deg_mem (by positivity) hle
    exact ⟨by linarith, by linarith⟩
  · rename_i hsmall
    exact fatan45Deg_mem hx (not_lt.mp hsmall)

theorem fatanDeg_neg {x : K} (hx : 0 < x) : fatanDeg (-x) = -fatanDeg x := by
  have hneg : -x < 0 := by linarith
  simp only [fatanDeg, if_pos hneg, if_neg (not_lt.mpr hx.le), neg_neg]

theorem fatanDeg_of_neg {x : K} (hx : x < 0) : -90 ≤ fatanDeg x ∧ fatanDeg x ≤ 0 := by
  have hpos : 0 < -x := by linarith
  obtain ⟨hlo, hhi⟩ := fatanDeg_of_nonneg hpos.le
  rw [← neg_neg x, fatanDeg_neg hpos]
  exact ⟨by linarith, by linarith⟩

theorem fatanDeg_mem (x : K) : -90 ≤ fatanDeg x ∧ fatanDeg x ≤ 90 := by
  rcases le_or_gt 0 x with hx | hx
  · obtain ⟨hlo, hhi⟩ := fatanDeg_of_nonneg hx
    exact ⟨by linarith, hhi⟩
  · obtain ⟨hlo, hhi⟩ := fatanDeg_of_neg hx
    exact ⟨hlo, by linarith⟩

theorem fasinDeg_mem (m : Libm K) (x : K) : -90 ≤ fasinDeg m x ∧ fasinDeg m x ≤ 90 := by
  rw [fasinDeg]
  split
  · norm_num
  · split
    · norm_num
    · exact fatanDeg_mem _

theorem facosDeg_mem (m : Libm K) (x : K) : 0 ≤ facosDeg m x ∧ facosDeg m x ≤ 180 := by
  rw [facosDeg]
  split
  · norm_num
  · split
    · norm_num
    · split
      · norm_num
      · rename_i hzero
        split
        · rename_i hpos
          obtain ⟨hlo, hhi⟩ := fatanDeg_of_nonneg (div_nonneg (m.sqrt_nonneg (1 - x * x)) hpos.le)
          exact ⟨hlo, by linarith⟩
        · rename_i hneg
          have hle : m.sqrt (1 - x * x) / x ≤ 0 :=
            div_nonpos_of_nonneg_of_nonpos (m.sqrt_nonneg _) (not_lt.mp hneg)
          obtain ⟨hlo, hhi⟩ := fatanDeg_mem (m.sqrt (1 - x * x) / x)
          rcases eq_or_lt_of_le hle with heq | hlt
          · rw [heq] at hlo ⊢
            obtain ⟨hlo', hhi'⟩ := fatanDeg_of_nonneg (le_refl (0 : K))
            refine ⟨by linarith, ?_⟩
            simp [fatanDeg, fatan45Deg, fatan15Deg, tan15Deg]
            norm_num
          · have hneg' := fatanDeg_of_neg hlt
            exact ⟨by linarith, by linarith [hneg'.2]⟩

theorem fatan2Deg_mem (y x : K) : -180 ≤ fatan2Deg y x ∧ fatan2Deg y x ≤ 180 := by
  rw [fatan2Deg]
  split
  · split
    · norm_num
    · split
      · norm_num
      · norm_num
  · rename_i hzero
    split
    · obtain ⟨hlo, hhi⟩ := fatanDeg_mem (y / x)
      exact ⟨by linarith, by linarith⟩
    · rename_i hpos
      have hx : x < 0 := lt_of_le_of_ne (not_lt.mp hpos) hzero
      split
      · rename_i hquadrant
        obtain ⟨hlo, hhi⟩ := fatanDeg_of_neg (div_neg_of_pos_of_neg hquadrant.2 hx)
        exact ⟨by linarith, by linarith⟩
      · rename_i hquadrant
        have hy : y ≤ 0 := not_lt.mp fun hy => hquadrant ⟨hx, hy⟩
        obtain ⟨hlo, hhi⟩ := fatanDeg_of_nonneg (div_nonneg_of_nonpos hy hx.le)
        exact ⟨by linarith, by linarith⟩

end

end ImuGamepad
