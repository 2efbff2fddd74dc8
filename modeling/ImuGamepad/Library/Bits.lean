import ImuGamepad.Library.Bytes
import Mathlib.Data.List.OfFn

/-!
# The bits of bytes

Formats that are read bit by bit see a sequence of bytes as one of bits, the lowest bit of each byte
first.

## Main definitions

* `Bits.bits` — the bits of some bytes

## Main results

* `Bits.bits_append`, `bits_flatMap` — piece by piece
* `Bits.bits_eq_map_range` — one by one
* `Bits.bits_word` — of a word in two bytes
-/

namespace Bits

/-- The bits of some bytes, those of the first byte first, each byte from its lowest bit. -/
def bits (bytes : List Byte) : List Bool :=
  bytes.flatMap fun b => List.ofFn fun i : Fin 8 => b.getLsbD i

theorem bits_append (r₁ r₂ : List Byte) : bits (r₁ ++ r₂) = bits r₁ ++ bits r₂ :=
  List.flatMap_append

theorem length_bits (bytes : List Byte) : (bits bytes).length = 8 * bytes.length := by
  induction bytes with
  | nil => rfl
  | cons b bytes ih =>
    rw [← List.singleton_append, bits_append, List.length_append, ih]
    simp [bits]
    omega

theorem bits_flatMap {α : Type*} (l : List α) (f : α → List Byte) :
    bits (l.flatMap f) = l.flatMap fun a => bits (f a) := List.flatMap_assoc

/-- The bits, one by one. -/
theorem bits_eq_map_range (bytes : List Byte) :
    bits bytes
      = (List.range (8 * bytes.length)).map fun i => (bytes.getD (i / 8) 0).getLsbD (i % 8) := by
  induction bytes with
  | nil => rfl
  | cons b bytes ih =>
    have hrange : List.range (8 * (b :: bytes).length)
        = List.range 8 ++ (List.range (8 * bytes.length)).map (8 + ·) := by
      rw [List.length_cons, Nat.mul_succ, Nat.add_comm, List.range_add]
    have hhead : (List.ofFn fun i : Fin 8 => b.getLsbD i)
        = (List.range 8).map fun i => ((b :: bytes).getD (i / 8) 0).getLsbD (i % 8) := by
      simp [List.range_succ]
    have htail (i : ℕ) : (b :: bytes).getD ((8 + i) / 8) 0 = bytes.getD (i / 8) 0 := by
      rw [Nat.add_div_left i (by decide), List.getD_cons_succ]
    rw [← List.singleton_append, bits_append, List.singleton_append, hrange, List.map_append, ih,
      bits, List.flatMap_singleton, hhead, List.map_map]
    congr 1
    refine List.map_congr_left fun i _ => ?_
    rw [Function.comp_apply, htail, Nat.add_mod_left]

/-- The bits of a word that lies in two bytes, the lower one first. -/
theorem bits_word (v : BitVec 16) :
    bits [v.setWidth 8, (v >>> 8).setWidth 8] = List.ofFn fun i : Fin 16 => v.getLsbD i := by
  have hsplit : List.ofFn (fun i : Fin (8 + 8) => v.getLsbD i)
      = (List.ofFn fun i : Fin 8 => v.getLsbD i) ++ List.ofFn fun i : Fin 8 => v.getLsbD (8 + i) :=
    List.ofFn_add
  rw [show List.ofFn (fun i : Fin 16 => v.getLsbD i) = _ from hsplit, bits, List.flatMap_cons,
    List.flatMap_singleton]
  congr 2
  · funext i
    simp
  · funext i
    simp

end Bits
