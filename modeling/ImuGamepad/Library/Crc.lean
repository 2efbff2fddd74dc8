import ImuGamepad.Library.Bits
import Mathlib.Algebra.BigOperators.Group.Finset.Basic
import Mathlib.Data.List.GetD
import Mathlib.Algebra.Field.ZMod

/-!
# Cyclic redundancy checks

A CRC of `w` bits that takes its input from the lowest bit on. The polynomial is given by its
coefficients below the leading one, the constant one in the highest bit.

The remainder is linear in the pair of what is fed and what it starts with. So the remainder after
two messages that differ is the sum of the one after the first and the one of the difference, and
an error goes undetected exactly if its own remainder, from zero, is zero. Three kinds of errors
never do: bursts that fit the register, two wrong bits that are not a period of the polynomial
apart, and an odd number of wrong bits where the polynomial has an even number of terms.

## Main definitions

* `Crc.shift`, `Crc.feed`, `Crc.remainder` — the register, bit by bit
* `Crc.differences` — the wrong bits of a message
* `Crc.parity` — of the bits in the register

## Main results

* `Crc.remainder_eq_iterate` — a word that fits the register can be fed at once
* `Crc.remainder_bits_self` — what is in the register, fed to it, clears it
* `Crc.remainder_differences` — the remainder of the difference
* `Crc.remainder_ne_zero_of_burst`, `_of_two`, `_of_odd` — what is detected
-/

namespace Crc

variable {w : ℕ} {poly crc a b : BitVec w} {bs cs : List Bool}

/-! ### The register -/

/-- One step without input. -/
def shift (poly crc : BitVec w) : BitVec w :=
  if crc.getLsbD 0 then (crc >>> 1) ^^^ poly else crc >>> 1

/-- A bit, in the lowest place. -/
def bit (w : ℕ) (b : Bool) : BitVec w := (BitVec.ofBool b).setWidth w

/-- One step, with one bit of input. -/
def feed (poly crc : BitVec w) (b : Bool) : BitVec w := shift poly (crc ^^^ bit w b)

/-- What the register holds after some input. -/
def remainder (poly : BitVec w) (bs : List Bool) (crc : BitVec w) : BitVec w :=
  bs.foldl (feed poly) crc

@[simp] theorem remainder_nil (poly crc : BitVec w) : remainder poly [] crc = crc := rfl

@[simp] theorem remainder_cons (poly crc : BitVec w) (b : Bool) (bs : List Bool) :
    remainder poly (b :: bs) crc = remainder poly bs (feed poly crc b) := rfl

@[simp] theorem remainder_append (poly crc : BitVec w) (bs cs : List Bool) :
    remainder poly (bs ++ cs) crc = remainder poly cs (remainder poly bs crc) :=
  List.foldl_append

@[simp] theorem bit_false : bit w false = 0 := by
  simp [bit]

@[simp] theorem shift_zero : shift poly 0 = 0 := by
  simp [shift]

@[simp] theorem feed_false : feed poly crc false = shift poly crc := by
  simp [feed]

theorem xor_xor_xor_comm (x y z v : BitVec w) : x ^^^ y ^^^ (z ^^^ v) = x ^^^ z ^^^ (y ^^^ v) := by
  ext i
  simp only [BitVec.getElem_xor]
  cases x[i] <;> cases y[i] <;> cases z[i] <;> cases v[i] <;> rfl

theorem bit_xor (b c : Bool) : bit w (b ^^ c) = bit w b ^^^ bit w c := by
  cases b <;> cases c <;> simp [bit]

/-! ### Linearity -/

theorem shift_xor : shift poly (a ^^^ b) = shift poly a ^^^ shift poly b := by
  simp only [shift, BitVec.getLsbD_xor, BitVec.ushiftRight_xor_distrib]
  cases a.getLsbD 0 <;> cases b.getLsbD 0
  · simp
  · simp [BitVec.xor_assoc]
  · simp only [Bool.bne_false, if_true, Bool.false_eq_true, if_false]
    rw [BitVec.xor_assoc, BitVec.xor_assoc, BitVec.xor_comm poly]
  · have h := xor_xor_xor_comm (a >>> 1) poly (b >>> 1) poly
    simpa using h.symm

theorem feed_xor (c d : Bool) : feed poly (a ^^^ b) (c ^^ d) = feed poly a c ^^^ feed poly b d := by
  rw [feed, bit_xor, xor_xor_xor_comm, shift_xor]
  rfl

/-- **The remainder is linear.** -/
theorem remainder_xor (h : bs.length = cs.length) :
    remainder poly (List.zipWith xor bs cs) (a ^^^ b)
      = remainder poly bs a ^^^ remainder poly cs b := by
  induction bs generalizing cs a b with
  | nil =>
    obtain rfl := List.length_eq_zero_iff.mp h.symm
    rfl
  | cons c bs ih =>
    cases cs with
    | nil => cases h
    | cons d cs =>
      rw [List.zipWith_cons_cons, remainder_cons, remainder_cons, remainder_cons, feed_xor]
      exact ih (by simpa using h)

/-- Where two messages differ. -/
def differences (bs cs : List Bool) : List Bool := List.zipWith xor bs cs

/-- **The difference has the remainder that lies between those of the messages.** -/
theorem remainder_differences (crc : BitVec w) (h : bs.length = cs.length) :
    remainder poly (differences bs cs) 0 = remainder poly bs crc ^^^ remainder poly cs crc := by
  rw [← remainder_xor h, BitVec.xor_self]
  rfl

/-! ### Words -/

/-- A step moves down what has nothing in the lowest place. -/
theorem shift_shiftLeft (h : a.getLsbD (w - 1) = false) : shift poly (a <<< 1) = a := by
  have hlow : (a <<< 1).getLsbD 0 = false := by simp
  rw [shift, hlow]
  ext i hi
  simp only [Bool.false_eq_true, if_false, BitVec.getElem_ushiftRight, BitVec.getLsbD_shiftLeft]
  rcases Nat.lt_or_ge (1 + i) w with hlt | hge
  · simp [hlt, BitVec.getLsbD_eq_getElem hi]
  · obtain rfl : i = w - 1 := by omega
    rw [← BitVec.getLsbD_eq_getElem, h]
    simp [show ¬ 1 + (w - 1) < w by omega]

/-- **A word that fits the register can be fed at once.** -/
theorem remainder_eq_iterate {k : ℕ} (hk : k ≤ w) (v : BitVec k) (crc : BitVec w) :
    remainder poly (List.ofFn fun i : Fin k => v.getLsbD i) crc
      = (shift poly)^[k] (crc ^^^ v.setWidth w) := by
  induction k generalizing crc with
  | zero =>
    obtain rfl : v = 0 := BitVec.of_length_zero
    simp
  | succ k ih =>
    have hrest : v.setWidth w
        = bit w (v.getLsbD 0) ^^^ (((v >>> 1).setWidth k).setWidth w <<< 1) := by
      apply BitVec.eq_of_getLsbD_eq
      intro i hi
      cases i with
      | zero => simp [bit, hi]
      | succ i =>
        by_cases hik : i < k
        · simp [bit, hi, hik, Nat.add_comm]
        · simp [bit, hik, v.getLsbD_of_ge (i + 1) (by omega)]
    have hmoved : shift poly (((v >>> 1).setWidth k).setWidth w <<< 1)
        = ((v >>> 1).setWidth k).setWidth w := shift_shiftLeft (by
      rw [BitVec.getLsbD_setWidth, BitVec.getLsbD_setWidth]
      simp [show ¬ w - 1 < k by omega])
    have htail : (fun i : Fin k => v.getLsbD i.succ)
        = fun i : Fin k => ((v >>> 1).setWidth k).getLsbD i := by
      funext i
      simp [Nat.add_comm]
    rw [List.ofFn_succ, remainder_cons, htail, ih (by omega), Function.iterate_succ_apply, hrest,
      ← BitVec.xor_assoc, shift_xor, hmoved]
    rfl

/-- **What is in the register, fed to it, clears it.** -/
theorem remainder_bits_self (crc : BitVec w) :
    remainder poly (List.ofFn fun i : Fin w => crc.getLsbD i) crc = 0 := by
  rw [remainder_eq_iterate le_rfl, BitVec.setWidth_eq, BitVec.xor_self]
  exact Function.iterate_fixed shift_zero w

/-! ### Errors -/

/-- Nothing but zero is lost, where the polynomial has a constant term. -/
theorem shift_eq_zero_iff (hpoly : poly.getLsbD (w - 1) = true) : shift poly a = 0 ↔ a = 0 := by
  refine ⟨fun h => ?_, fun h => by rw [h, shift_zero]⟩
  rw [shift] at h
  split at h
  · -- the highest bit can only come from the polynomial
    have hhigh := congrArg (fun x => BitVec.getLsbD x (w - 1)) h
    have hzero : (a >>> 1).getLsbD (w - 1) = false := by
      rw [BitVec.getLsbD_ushiftRight]
      exact a.getLsbD_of_ge _ (by omega)
    simp [hzero, hpoly] at hhigh
  · rename_i hlow
    apply BitVec.eq_of_getLsbD_eq
    intro i _
    cases i with
    | zero => simpa using hlow
    | succ i =>
      have hbit := congrArg (fun x => BitVec.getLsbD x i) h
      simpa [Nat.add_comm] using hbit

theorem iterate_shift_eq_zero_iff (hpoly : poly.getLsbD (w - 1) = true) (k : ℕ) :
    (shift poly)^[k] a = 0 ↔ a = 0 := by
  induction k with
  | zero => rfl
  | succ k ih => rw [Function.iterate_succ_apply', shift_eq_zero_iff hpoly, ih]

theorem remainder_replicate_false (k : ℕ) (crc : BitVec w) :
    remainder poly (List.replicate k false) crc = (shift poly)^[k] crc := by
  induction k generalizing crc with
  | zero => rfl
  | succ k ih =>
    rw [List.replicate_succ, remainder_cons, feed_false, ih, Function.iterate_succ_apply]

/-- Right bits before an error and after it make no difference. -/
theorem remainder_surrounded_eq_zero_iff (hpoly : poly.getLsbD (w - 1) = true) (i j : ℕ) :
    remainder poly (List.replicate i false ++ bs ++ List.replicate j false) 0 = 0 ↔
      remainder poly bs 0 = 0 := by
  rw [remainder_append, remainder_append, remainder_replicate_false, remainder_replicate_false,
    iterate_shift_eq_zero_iff hpoly, Function.iterate_fixed shift_zero]

/-- Errors no more than `k` bits apart. -/
def IsBurst (k : ℕ) (bs : List Bool) : Prop :=
  ∃ i burst j, bs = List.replicate i false ++ burst ++ List.replicate j false ∧ burst.length ≤ k

/-- **A burst that fits the register is detected.** -/
theorem remainder_ne_zero_of_burst (hpoly : poly.getLsbD (w - 1) = true) (hbs : IsBurst w bs)
    (htrue : true ∈ bs) : remainder poly bs 0 ≠ 0 := by
  obtain ⟨i, burst, j, rfl, hlen⟩ := hbs
  have hmem : true ∈ burst := by simpa using htrue
  have hword : burst = List.ofFn fun k : Fin burst.length =>
      (BitVec.ofBoolListLE burst).getLsbD k := by
    refine List.ext_getElem (by simp) fun k hk _ => ?_
    rw [List.getElem_ofFn, BitVec.getLsbD_ofBoolListLE, List.getD_eq_getElem _ _ hk]
  rw [Ne, remainder_surrounded_eq_zero_iff hpoly, hword, remainder_eq_iterate hlen,
    iterate_shift_eq_zero_iff hpoly]
  intro hzero
  obtain ⟨k, hk, hget⟩ := List.getElem_of_mem hmem
  have hbit := congrArg (fun x => BitVec.getLsbD x k) hzero
  simp only [BitVec.getLsbD_xor, BitVec.getLsbD_setWidth, BitVec.getLsbD_ofBoolListLE,
    List.getD_eq_getElem _ _ hk, hget, show k < w by omega] at hbit
  simp at hbit

theorem exists_of_mem_true (h : true ∈ bs) :
    ∃ i rest, bs = List.replicate i false ++ true :: rest := by
  obtain ⟨as, rest, rfl, has⟩ := List.eq_append_cons_of_mem h
  have hfalse : as = List.replicate as.length false :=
    List.eq_replicate_iff.mpr ⟨rfl, fun b hb => Bool.eq_false_iff.mpr fun hb' => has (hb' ▸ hb)⟩
  exact ⟨as.length, rest, by rw [← hfalse]⟩

/-- Two wrong bits with `d` right ones between them. -/
theorem exists_of_count_eq_two (h : bs.count true = 2) :
    ∃ i d j, bs = List.replicate i false
      ++ (true :: (List.replicate d false ++ [true])) ++ List.replicate j false := by
  have hmem : true ∈ bs := List.count_pos_iff.mp (by omega)
  obtain ⟨i, rest, rfl⟩ := exists_of_mem_true hmem
  have hrest : rest.count true = 1 := by simpa [List.count_replicate] using h
  have hmem : true ∈ rest := List.count_pos_iff.mp (by omega)
  obtain ⟨d, rest, rfl⟩ := exists_of_mem_true hmem
  have hnone : rest.count true = 0 := by simpa [List.count_replicate] using hrest
  have hfalse : rest = List.replicate rest.length false :=
    List.eq_replicate_iff.mpr ⟨rfl, fun b hb => Bool.eq_false_iff.mpr fun hb' =>
      List.count_eq_zero.mp hnone (hb' ▸ hb)⟩
  refine ⟨i, d, rest.length, ?_⟩
  rw [← hfalse]
  simp

/-- **Two wrong bits are detected**, unless the polynomial has their distance as a period. -/
theorem remainder_ne_zero_of_two (hpoly : poly.getLsbD (w - 1) = true) (hbs : bs.count true = 2)
    (hperiod : ∀ d, d < bs.length → (shift poly)^[d + 1] (bit w true) ≠ bit w true) :
    remainder poly bs 0 ≠ 0 := by
  obtain ⟨i, d, j, rfl⟩ := exists_of_count_eq_two hbs
  have hlast := hperiod d (by simp; omega)
  have hfirst : feed poly 0 true = shift poly (bit w true) := by simp [feed]
  rw [Ne, remainder_surrounded_eq_zero_iff hpoly, remainder_cons, remainder_append,
    remainder_replicate_false, remainder_cons, remainder_nil, hfirst, feed,
    ← Function.iterate_succ_apply, shift_eq_zero_iff hpoly]
  exact fun h => hlast (BitVec.xor_eq_zero_iff.mp h)

/-- Whether `n` steps from `a` do not lead to `target`. -/
def avoids (poly target : BitVec w) : ℕ → BitVec w → Bool
  | 0, _ => true
  | n + 1, a => shift poly a != target && avoids poly target n (shift poly a)

theorem iterate_ne_of_avoids {target : BitVec w} {n : ℕ} (h : avoids poly target n a = true)
    {d : ℕ} (hd : d < n) : (shift poly)^[d + 1] a ≠ target := by
  induction n generalizing a d with
  | zero => omega
  | succ n ih =>
    rw [avoids, Bool.and_eq_true, bne_iff_ne] at h
    cases d with
    | zero => exact h.1
    | succ d =>
      rw [Function.iterate_succ_apply]
      exact ih h.2 (by omega)

/-- The sum of the bits in the register. -/
def parity (a : BitVec w) : ZMod 2 := ∑ i ∈ Finset.range w, if a.getLsbD i then 1 else 0

theorem parity_zero : parity (0 : BitVec w) = 0 := by
  simp [parity]

theorem parity_xor (a b : BitVec w) : parity (a ^^^ b) = parity a + parity b := by
  rw [parity, parity, parity, ← Finset.sum_add_distrib]
  refine Finset.sum_congr rfl fun i _ => ?_
  rw [BitVec.getLsbD_xor]
  cases a.getLsbD i <;> cases b.getLsbD i <;> decide

theorem parity_bit (hw : 0 < w) (b : Bool) : parity (bit w b) = if b then 1 else 0 := by
  rw [parity, Finset.sum_eq_single 0]
  · simp [bit, hw]
  · intro i _ hi
    simp [bit, hi]
  · simp [hw.ne']

/-- What leaves the register in a step. -/
theorem parity_ushiftRight (a : BitVec w) :
    parity (a >>> 1) + (if a.getLsbD 0 then 1 else 0) = parity a := by
  have hsum := Finset.sum_range_succ' (fun i => if a.getLsbD i then (1 : ZMod 2) else 0) w
  rw [Finset.sum_range_succ, a.getLsbD_of_ge w le_rfl] at hsum
  simp only [Bool.false_eq_true, if_false, add_zero] at hsum
  rw [parity, parity, hsum]
  simp only [BitVec.getLsbD_ushiftRight, Nat.add_comm 1]

theorem parity_shift (hpoly : parity poly = 1) (a : BitVec w) :
    parity (shift poly a) = parity a := by
  rw [← parity_ushiftRight a, shift]
  split
  · rw [parity_xor, hpoly]
  · rw [add_zero]

theorem parity_remainder (hw : 0 < w) (hpoly : parity poly = 1) (bs : List Bool) (crc : BitVec w) :
    parity (remainder poly bs crc) = parity crc + bs.count true := by
  induction bs generalizing crc with
  | nil => simp
  | cons b bs ih =>
    rw [remainder_cons, ih, feed, parity_shift hpoly, parity_xor, parity_bit hw, List.count_cons]
    cases b with
    | false => simp
    | true =>
      simp only [if_true, beq_self_eq_true, Nat.cast_add, Nat.cast_one]
      ring

/-- **An odd number of wrong bits is detected**, where the polynomial has an even number of
terms. -/
theorem remainder_ne_zero_of_odd (hw : 0 < w) (hpoly : parity poly = 1)
    (hbs : Odd (bs.count true)) : remainder poly bs 0 ≠ 0 := by
  intro hzero
  have hparity := parity_remainder hw hpoly bs 0
  rw [hzero, parity_zero, zero_add] at hparity
  have hodd : (bs.count true : ZMod 2) = 1 := ZMod.natCast_eq_one_iff_odd.mpr hbs
  rw [hodd] at hparity
  exact absurd hparity (by decide)

end Crc
