import Mathlib.Algebra.Group.Nat.Defs
import Mathlib.Tactic.Common

/-!
# Bit fields of a register

A field of a `w`-bit register is `bits` bits wide and starts at bit `shift`. Reading it shifts and
masks; writing it clears the field and puts the masked data in its place, so that data too wide
for the field is truncated and never spills into a neighbour.

Everything is read off the bits: `getLsbD_read` and `getLsbD_write` say which bit of the input each
bit of the output is, and the field lemmas follow by extensionality.

## Main definitions

* `BitField.mask`, `BitField.read`, `BitField.write`

## Main results

* `BitField.read_write_self` — a field holds the data last written to it, truncated
* `BitField.read_write_of_disjoint` — and no write outside it changes that
* `BitField.read_write_eq_iff` — data comes back untruncated exactly if it fits
-/

namespace BitField

variable {w : ℕ}

/-- The lowest `bits` bits set. -/
def mask (bits : ℕ) : BitVec w := BitVec.ofNat w (2 ^ bits - 1)

/-- The field of `bits` bits at `shift`. -/
def read (bits shift : ℕ) (v : BitVec w) : BitVec w := (v >>> shift) &&& mask bits

/-- `v` with the field of `bits` bits at `shift` overwritten by `data`, truncated to the field. -/
def write (bits shift : ℕ) (data v : BitVec w) : BitVec w :=
  (v &&& ~~~(mask bits <<< shift)) ||| ((data &&& mask bits) <<< shift)

theorem getLsbD_mask (bits i : ℕ) :
    (mask bits : BitVec w).getLsbD i = (decide (i < w) && decide (i < bits)) := by
  rw [mask, BitVec.getLsbD_ofNat, Nat.testBit_two_pow_sub_one]

theorem getLsbD_read (bits shift i : ℕ) (v : BitVec w) :
    (read bits shift v).getLsbD i = (decide (i < bits) && v.getLsbD (shift + i)) := by
  rw [read, BitVec.getLsbD_and, BitVec.getLsbD_ushiftRight, getLsbD_mask]
  by_cases hi : i < w
  · simp [hi, Bool.and_comm]
  · rw [BitVec.getLsbD_of_ge v (shift + i) (by omega)]
    simp

theorem getLsbD_write (bits shift i : ℕ) (data v : BitVec w) :
    (write bits shift data v).getLsbD i =
      if shift ≤ i ∧ i < shift + bits then decide (i < w) && data.getLsbD (i - shift)
      else v.getLsbD i := by
  rw [write, BitVec.getLsbD_or, BitVec.getLsbD_and, BitVec.getLsbD_not, BitVec.getLsbD_shiftLeft,
    BitVec.getLsbD_shiftLeft, BitVec.getLsbD_and, getLsbD_mask]
  by_cases hi : i < w
  · by_cases hlo : shift ≤ i
    · by_cases hhi : i < shift + bits
      · simp [hi, hlo, hhi, show ¬ i < shift by omega, show i - shift < w by omega,
          show i - shift < bits by omega]
      · simp [hi, hlo, hhi, show ¬ i < shift by omega, show ¬ i - shift < bits by omega]
    · simp [hi, hlo, show i < shift by omega]
  · have hv : v.getLsbD i = false := BitVec.getLsbD_of_ge v i (by omega)
    simp [hi, hv]

/-- **Read after write.** -/
theorem read_write_self {bits shift : ℕ} (h : shift + bits ≤ w) (data v : BitVec w) :
    read bits shift (write bits shift data v) = data &&& mask bits := by
  refine BitVec.eq_of_getLsbD_eq fun i hi => ?_
  rw [getLsbD_read, getLsbD_write, BitVec.getLsbD_and, getLsbD_mask, Nat.add_sub_cancel_left]
  by_cases hb : i < bits
  · simp [hb, hi, show shift + i < w by omega]
  · simp [hb]

/-- **Read elsewhere.** -/
theorem read_write_of_disjoint {bits shift bits' shift' : ℕ}
    (h : shift + bits ≤ shift' ∨ shift' + bits' ≤ shift) (data v : BitVec w) :
    read bits shift (write bits' shift' data v) = read bits shift v := by
  refine BitVec.eq_of_getLsbD_eq fun i _ => ?_
  rw [getLsbD_read, getLsbD_read, getLsbD_write]
  by_cases hb : i < bits
  · rw [if_neg (by omega)]
  · simp [hb]

/-- Data that fits the field is not truncated. -/
theorem and_mask_of_lt {bits : ℕ} {data : BitVec w} (h : data.toNat < 2 ^ bits) :
    data &&& mask bits = data := by
  refine BitVec.eq_of_getLsbD_eq fun i hi => ?_
  rw [BitVec.getLsbD_and, getLsbD_mask]
  by_cases hb : i < bits
  · simp [hb, hi]
  · have hbit : data.getLsbD i = false :=
      Nat.testBit_lt_two_pow (Nat.lt_of_lt_of_le h (Nat.pow_le_pow_right (by omega) (by omega)))
    simp [hbit]

/-- And only such data: a field holds what was written to it exactly if that fits. -/
theorem read_write_eq_iff {bits shift : ℕ} (h : shift + bits ≤ w) {data : BitVec w} (v : BitVec w) :
    read bits shift (write bits shift data v) = data ↔ data.toNat < 2 ^ bits := by
  rw [read_write_self h]
  constructor
  · intro hdata
    rw [← hdata]
    refine Nat.lt_pow_two_of_testBit _ fun i hi => ?_
    rw [← BitVec.getLsbD, BitVec.getLsbD_and, getLsbD_mask]
    simp [hi]
  · exact and_mask_of_lt

end BitField
