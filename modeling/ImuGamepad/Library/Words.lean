import ImuGamepad.Library.Bytes

/-!
# Words in either byte order

A word that does not fit into a byte is kept in several, and there are two orders to keep them in.
Programs take a word apart by shifting bytes out of it and put it together by shifting bytes into
it; what these loops do is again read off the bits.

## Main definitions

* `Words.littleEndian`, `Words.ofLittleEndian` — a word as bytes, the lowest first
* `Words.ByteOrder`, `ByteOrder.arrange` — the two orders
* `ByteOrder.index` — which byte of the word lies where

## Main results

* `Words.getElem?_littleEndian` — the bytes of a word
* `Words.getLsbD_ofLittleEndian` — the bits of the word that some bytes make
* `ByteOrder.getElem?_arrange` — which byte stands where
-/

namespace Words

variable {w : ℕ}

/-- The lowest `n` bytes of a word, the lowest first. -/
def littleEndian : ℕ → BitVec w → List Byte
  | 0, _ => []
  | n + 1, v => v.setWidth 8 :: littleEndian n (v >>> 8)

/-- The word that consists of some bytes. -/
def ofLittleEndian (bs : List Byte) : BitVec w :=
  bs.foldr (fun b v => v <<< 8 ||| b.setWidth w) 0

@[simp] theorem length_littleEndian (n : ℕ) (v : BitVec w) : (littleEndian n v).length = n := by
  induction n generalizing v with
  | zero => rfl
  | succ n ih => rw [littleEndian, List.length_cons, ih]

theorem getElem?_littleEndian {n k : ℕ} (hk : k < n) (v : BitVec w) :
    (littleEndian n v)[k]? = some ((v >>> (8 * k)).setWidth 8) := by
  induction n generalizing k v with
  | zero => omega
  | succ n ih =>
    rw [littleEndian]
    cases k with
    | zero => simp
    | succ k =>
      rw [List.getElem?_cons_succ, ih (by omega), ← BitVec.shiftRight_add]
      congr 3
      omega

/-- Which bit of which byte a bit of the word is. -/
theorem getLsbD_ofLittleEndian (bs : List Byte) (i : ℕ) :
    (ofLittleEndian bs : BitVec w).getLsbD i
      = (decide (i < w) && (bs.getD (i / 8) 0).getLsbD (i % 8)) := by
  induction bs generalizing i with
  | nil => simp [ofLittleEndian]
  | cons b bs ih =>
    have hcons : (ofLittleEndian (b :: bs) : BitVec w)
        = (ofLittleEndian bs : BitVec w) <<< 8 ||| b.setWidth w := rfl
    rw [hcons, BitVec.getLsbD_or, BitVec.getLsbD_shiftLeft, BitVec.getLsbD_setWidth]
    by_cases hi : i < 8
    · simp [hi, Nat.div_eq_of_lt hi, Nat.mod_eq_of_lt hi]
    · obtain ⟨j, rfl⟩ := Nat.exists_eq_add_of_le' (Nat.not_lt.mp hi)
      have hhigh : b.getLsbD (j + 8) = false := BitVec.getLsbD_of_ge b _ (by omega)
      rw [Nat.add_sub_cancel, ih, hhigh, Nat.add_div_right j (by decide), Nat.add_mod_right,
        List.getD_cons_succ]
      by_cases hw : j + 8 < w
      · simp [hw, show j < w by omega]
      · simp [hw]

/-! ### The order of the bytes -/

/-- Which byte comes first. -/
inductive ByteOrder
  | LSBFIRST
  | MSBFIRST
  deriving DecidableEq

namespace ByteOrder

/-- The bytes from the lowest on as they lie in the order, and the other way round. -/
def arrange : ByteOrder → List Byte → List Byte
  | LSBFIRST, bs => bs
  | MSBFIRST, bs => bs.reverse

/-- Which byte of a word of `n` bytes lies at `k`. -/
def index : ByteOrder → ℕ → ℕ → ℕ
  | LSBFIRST, _, k => k
  | MSBFIRST, n, k => n - 1 - k

variable (order : ByteOrder) {n k : ℕ}

@[simp] theorem length_arrange (bs : List Byte) : (order.arrange bs).length = bs.length := by
  cases order with
  | LSBFIRST => rfl
  | MSBFIRST => exact List.length_reverse

theorem index_lt (hk : k < n) : order.index n k < n := by
  cases order with
  | LSBFIRST => exact hk
  | MSBFIRST => rw [index]; omega

theorem index_index (hk : k < n) : order.index n (order.index n k) = k := by
  cases order with
  | LSBFIRST => rfl
  | MSBFIRST => simp only [index]; omega

theorem getElem?_arrange {bs : List Byte} (hk : k < bs.length) :
    (order.arrange bs)[k]? = bs[order.index bs.length k]? := by
  cases order with
  | LSBFIRST => rfl
  | MSBFIRST => exact List.getElem?_reverse hk

end ByteOrder

end Words
