import Mathlib.Data.Rat.Floor
import Mathlib.Tactic.Linarith
import Mathlib.Tactic.NormNum
import Mathlib.Tactic.Ring

/-!
# Conversions between floating point, rationals and machine integers

Floating-point values are taken as the exact rationals they denote. Two conversions of C are
needed: reading a stored binary32 word as its value, and converting a value to a 16-bit integer,
which truncates toward zero and is undefined outside the range of the type. The undefined results
are an explicit argument, so that nothing can be proved about them.

## Main definitions

* `Conversion.truncate` — truncation toward zero
* `Conversion.toInt16` — C conversion of a value to `int16_t`
* `Conversion.binary32` — the value of a finite binary32 word

## Main results

* `Conversion.toInt_toInt16` — inside the range the conversion is truncation
* `Conversion.abs_truncate_le` — truncation never grows a value
* `Conversion.inInt16Range_toInt_mul` — a 16-bit integer in units of less than one converts
-/

namespace Conversion

/-! ### Truncation -/

/-- Truncation toward zero. -/
def truncate (q : ℚ) : ℤ := if 0 ≤ q then ⌊q⌋ else ⌈q⌉

theorem truncate_of_nonneg {q : ℚ} (h : 0 ≤ q) : truncate q = ⌊q⌋ := if_pos h

theorem truncate_of_neg {q : ℚ} (h : q < 0) : truncate q = ⌈q⌉ := if_neg (not_le.mpr h)

@[simp] theorem truncate_intCast (n : ℤ) : truncate (n : ℚ) = n := by
  rw [truncate]
  split <;> simp

/-- Truncation never grows a value. -/
theorem abs_truncate_le (q : ℚ) : |(truncate q : ℚ)| ≤ |q| := by
  rcases le_or_gt 0 q with h | h
  · have hfloor : (0 : ℚ) ≤ ⌊q⌋ := by exact_mod_cast Int.floor_nonneg.mpr h
    rw [truncate_of_nonneg h, abs_of_nonneg hfloor, abs_of_nonneg h]
    exact Int.floor_le q
  · have hceil : (⌈q⌉ : ℚ) ≤ 0 := by exact_mod_cast Int.ceil_nonpos.mpr h.le
    rw [truncate_of_neg h, abs_of_nonpos hceil, abs_of_neg h]
    exact neg_le_neg (Int.le_ceil q)

theorem truncate_lt {q : ℚ} {n : ℤ} (hn : 0 < n) (h : q < n) : truncate q < n := by
  rcases le_or_gt 0 q with hq | hq
  · rw [truncate_of_nonneg hq]
    exact Int.floor_lt.mpr h
  · rw [truncate_of_neg hq]
    exact lt_of_le_of_lt (Int.ceil_nonpos.mpr hq.le) hn

theorem lt_truncate {q : ℚ} {n : ℤ} (hn : n < 0) (h : n < q) : n < truncate q := by
  rcases le_or_gt 0 q with hq | hq
  · rw [truncate_of_nonneg hq]
    exact lt_of_lt_of_le hn (Int.floor_nonneg.mpr hq)
  · rw [truncate_of_neg hq]
    exact Int.lt_ceil.mpr h

/-! ### Conversion to 16-bit integers -/

/-- The values whose conversion to `int16_t` is defined: those whose truncation fits. -/
def InInt16Range (q : ℚ) : Prop := -32769 < q ∧ q < 32768

instance (q : ℚ) : Decidable (InInt16Range q) := inferInstanceAs (Decidable (_ ∧ _))

/-- C conversion of a value to `int16_t`. Outside the range the result is undefined, and is
whatever `undefined` says. -/
def toInt16 (undefined : ℚ → BitVec 16) (q : ℚ) : BitVec 16 :=
  if InInt16Range q then BitVec.ofInt 16 (truncate q) else undefined q

theorem toInt_toInt16 {undefined : ℚ → BitVec 16} {q : ℚ} (h : InInt16Range q) :
    (toInt16 undefined q).toInt = truncate q := by
  have hlo : -32769 < truncate q := lt_truncate (by norm_num) (by exact_mod_cast h.1)
  have hhi : truncate q < 32768 := truncate_lt (by norm_num) (by exact_mod_cast h.2)
  rw [toInt16, if_pos h, BitVec.toInt_ofInt]
  exact Int.bmod_eq_of_le_mul_two (by omega) (by omega)

/-- Whatever the conversion gives, it is a 16-bit integer. -/
theorem toInt_mem_int16 (v : BitVec 16) : InInt16Range v.toInt := by
  have hlo := v.le_toInt
  have hhi := v.toInt_lt
  norm_num at hlo hhi
  constructor
  · exact_mod_cast show -32769 < v.toInt by omega
  · exact_mod_cast hhi

theorem InInt16Range.of_abs_lt {q : ℚ} (h : |q| < 32768) : InInt16Range q :=
  ⟨by linarith [(abs_lt.mp h).1], (abs_lt.mp h).2⟩

/-- Inside the range, conversion never grows a value. -/
theorem abs_toInt16_le (undefined : ℚ → BitVec 16) {q : ℚ} (h : |q| < 32768) :
    |((toInt16 undefined q).toInt : ℚ)| ≤ |q| := by
  rw [toInt_toInt16 (.of_abs_lt h)]
  exact abs_truncate_le q

theorem abs_toInt_le (v : BitVec 16) : |(v.toInt : ℚ)| ≤ 32768 := by
  have hlo := v.le_toInt
  have hhi := v.toInt_lt
  norm_num at hlo hhi
  rw [abs_le]
  constructor
  · exact_mod_cast hlo
  · exact_mod_cast hhi.le

/-- A 16-bit integer in units of less than one converts. -/
theorem inInt16Range_toInt_mul (v : BitVec 16) {unit : ℚ} (h : |unit| < 1) :
    InInt16Range (v.toInt * unit) := by
  refine .of_abs_lt ?_
  calc |(v.toInt : ℚ) * unit| = |(v.toInt : ℚ)| * |unit| := abs_mul ..
    _ ≤ 32768 * |unit| := mul_le_mul_of_nonneg_right (abs_toInt_le v) (abs_nonneg unit)
    _ < 32768 := by linarith

/-- The values that conversion keeps are the 16-bit integers, whatever it does elsewhere. -/
theorem toInt16_eq_self_iff {undefined : ℚ → BitVec 16} {q : ℚ} :
    ((toInt16 undefined q).toInt : ℚ) = q ↔ ∃ v : BitVec 16, q = v.toInt := by
  constructor
  · intro h
    exact ⟨_, h.symm⟩
  · rintro ⟨v, rfl⟩
    rw [toInt_toInt16 (toInt_mem_int16 v), truncate_intCast]

@[simp] theorem toInt16_zero (undefined : ℚ → BitVec 16) : (toInt16 undefined 0).toInt = 0 := by
  have h : ((toInt16 undefined 0).toInt : ℚ) = 0 := toInt16_eq_self_iff.mpr ⟨0, by simp⟩
  exact_mod_cast h

/-- **Two values whose conversions are each other, scaled, are zero.** Conversion never grows a
value, so that a factor greater than the divisor cannot be made up for. -/
theorem crossed_toInt16_iff {undefined : ℚ → BitVec 16} {factor unit a g : ℚ} (hunit : 0 < unit)
    (hfactor : 1 < factor) (hlt : unit < factor) :
    (((toInt16 undefined a).toInt : ℚ) = g * factor ∧
        ((toInt16 undefined g).toInt : ℚ) = a / unit) ↔ a = 0 ∧ g = 0 := by
  constructor
  · rintro ⟨ha, hg⟩
    have hgfactor : |g| * factor ≤ 32768 := by
      have h := abs_toInt_le (toInt16 undefined a)
      rwa [ha, abs_mul, abs_of_pos (by linarith : 0 < factor)] at h
    have hgrange : |g| < 32768 := by nlinarith [abs_nonneg g]
    have haunit : |a| ≤ |g| * unit := by
      have h := abs_toInt16_le undefined hgrange
      rwa [hg, abs_div, abs_of_pos hunit, div_le_iff₀ hunit] at h
    have harange : |a| < 32768 := by
      rcases eq_or_lt_of_le (abs_nonneg g) with hzero | hpos
      · rw [← hzero, zero_mul] at haunit
        linarith
      · nlinarith
    have hback : |g| * factor ≤ |a| := by
      have h := abs_toInt16_le undefined harange
      rwa [ha, abs_mul, abs_of_pos (by linarith : 0 < factor)] at h
    have hgzero : |g| = 0 := by nlinarith [abs_nonneg g]
    have hazero : |a| = 0 := by
      rw [hgzero, zero_mul] at haunit
      exact le_antisymm haunit (abs_nonneg a)
    exact ⟨abs_eq_zero.mp hazero, abs_eq_zero.mp hgzero⟩
  · rintro ⟨rfl, rfl⟩
    simp

/-! ### Binary32 words -/

/-- The value of a finite binary32 word: sign, eight exponent bits, 23 fraction bits. -/
def binary32 (v : BitVec 32) : ℚ :=
  let fraction : ℕ := v.toNat % 2 ^ 23
  let exponent : ℕ := v.toNat / 2 ^ 23 % 2 ^ 8
  let magnitude : ℚ :=
    if exponent = 0 then fraction / 2 ^ 149
    else (2 ^ 23 + fraction) * 2 ^ exponent / 2 ^ 150
  if v.msb then -magnitude else magnitude

end Conversion
