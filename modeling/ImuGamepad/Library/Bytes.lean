import Mathlib.Data.Fin.Basic
import Mathlib.Tactic.Common
import Mathlib.Tactic.Ring

/-!
# Records of bytes

Fixed-length byte records, the slices copied in and out of them, and the little-endian words that
live in them. A record of `n` bytes is a function `Fin n → Byte`, so that a record has no invalid
values and extensionality is `funext`.

Copying is total. `splice` drops what would land past the end, and `slice` reads zeros there; the
bounds that make a copy faithful are hypotheses of the lemmas, in the same shape for all of them.

## Main definitions

* `Bytes n` — a record of `n` bytes
* `Bytes.slice`, `Bytes.splice` — copying a piece out of a record, and into it
* `Bytes.ofWord`, `Bytes.toWord` — little-endian words
* `Bytes.getInt16`, `Bytes.setInt16` — the 16-bit field at an offset

## Main results

* `Bytes.slice_splice_self`, `slice_splice_of_disjoint` — read after write, read elsewhere
* `Bytes.toWord_ofWord` — a word survives its encoding
* `Bytes.getInt16_setInt16_self`, `getInt16_setInt16_of_disjoint`
* `Bytes.foldl_update_eq_splice` — a loop of single-byte writes is one splice
-/

/-- A byte. -/
abbrev Byte := BitVec 8

/-- A record of `n` bytes. -/
abbrev Bytes (n : ℕ) := Fin n → Byte

namespace Bytes

variable {n m k : ℕ}

/-! ### Slices -/

/-- The `m` bytes from address `a`; zeros past the end. -/
def slice (img : Bytes n) (a m : ℕ) : Bytes m :=
  fun j => if h : a + j < n then img ⟨a + j, h⟩ else 0

/-- `img` with `bs` copied in from address `a`; what would land past the end is dropped. -/
def splice (img : Bytes n) (a : ℕ) (bs : Bytes m) : Bytes n :=
  fun i => if h : a ≤ i ∧ i - a < m then bs ⟨i - a, h.2⟩ else img i

theorem slice_apply {img : Bytes n} {a m : ℕ} (j : Fin m) (h : a + j < n) :
    slice img a m j = img ⟨a + j, h⟩ := dif_pos h

theorem splice_of_mem {img : Bytes n} {a : ℕ} {bs : Bytes m} {i : Fin n} (h₁ : a ≤ i)
    (h₂ : i - a < m) : splice img a bs i = bs ⟨i - a, h₂⟩ := dif_pos ⟨h₁, h₂⟩

theorem splice_of_not_mem {img : Bytes n} {a : ℕ} {bs : Bytes m} {i : Fin n}
    (h : (i : ℕ) < a ∨ a + m ≤ i) : splice img a bs i = img i :=
  dif_neg (by omega)

/-- **Read after write.** -/
theorem slice_splice_self {img : Bytes n} {a : ℕ} {bs : Bytes m} (h : a + m ≤ n) :
    slice (splice img a bs) a m = bs := by
  funext j
  rw [slice_apply j (by omega), splice_of_mem (by simp) (by simp)]
  simp

/-- **Read elsewhere.** -/
theorem slice_splice_of_disjoint {img : Bytes n} {a b : ℕ} {bs : Bytes m}
    (h : b + k ≤ a ∨ a + m ≤ b) : slice (splice img a bs) b k = slice img b k := by
  funext j
  by_cases hj : b + j < n
  · rw [slice_apply j hj, slice_apply j hj]
    exact splice_of_not_mem (by have := j.isLt; simp only; omega)
  · rw [slice, slice, dif_neg hj, dif_neg hj]

/-- Reading a piece of what was written. -/
theorem slice_splice_inside {img : Bytes n} {a b : ℕ} {bs : Bytes m} (hab : a ≤ b)
    (hb : b + k ≤ a + m) (hn : a + m ≤ n) :
    slice (splice img a bs) b k = slice bs (b - a) k := by
  funext j
  have hj := j.isLt
  rw [slice_apply j (by omega), slice_apply j (by omega),
    splice_of_mem (by simp only; omega) (by simp only; omega)]
  congr 1
  ext
  simp only
  omega

/-- A slice of a slice. -/
theorem slice_slice {img : Bytes n} {a b : ℕ} (h : b + k ≤ m) :
    slice (slice img a m) b k = slice img (a + b) k := by
  funext j
  have hj := j.isLt
  rw [slice_apply j (by omega), slice, slice]
  simp only [Nat.add_assoc]

/-- Two records agree on a slice exactly when they agree at its addresses. -/
theorem slice_eq_iff {img img' : Bytes n} {a m : ℕ} (h : a + m ≤ n) :
    slice img a m = slice img' a m ↔ ∀ i : Fin n, a ≤ i → (i : ℕ) < a + m → img i = img' i := by
  constructor
  · intro heq i h₁ h₂
    have := congrFun heq ⟨i - a, by omega⟩
    rw [slice_apply _ (by simp only; omega), slice_apply _ (by simp only; omega)] at this
    simpa [Nat.add_sub_cancel' h₁] using this
  · intro hall
    funext j
    rw [slice_apply j (by omega), slice_apply j (by omega)]
    exact hall _ (by simp) (by simp)

/-- A copy changes nothing exactly when what it copies, as far as it fits, is there already. -/
theorem splice_eq_self_iff_forall {img : Bytes n} {a : ℕ} {bs : Bytes m} :
    splice img a bs = img ↔ ∀ (j : Fin m) (h : a + j < n), img ⟨a + j, h⟩ = bs j := by
  constructor
  · intro heq j h
    rw [← heq, splice_of_mem (Nat.le_add_right a j) (by simp)]
    simp
  · intro hall
    funext i
    by_cases hi : a ≤ i ∧ i - a < m
    · rw [splice_of_mem hi.1 hi.2, ← hall ⟨i - a, hi.2⟩ (by simp only; omega)]
      congr 1
      ext
      simp only
      omega
    · exact splice_of_not_mem (by omega)

/-- Where all of it fits, that is a slice. -/
theorem splice_eq_self_iff {img : Bytes n} {a : ℕ} {bs : Bytes m} (h : a + m ≤ n) :
    splice img a bs = img ↔ slice img a m = bs := by
  rw [splice_eq_self_iff_forall, funext_iff]
  refine forall_congr' fun j => ?_
  have hj : a + j < n := by have := j.isLt; omega
  rw [slice_apply j hj, forall_prop_of_true hj]

/-- Writing `bs` byte by byte, from the first to the last, is one splice. -/
theorem foldl_update_eq_splice (img : Bytes n) (a : ℕ) (bs : Bytes m) :
    (List.finRange m).foldl
        (fun (acc : Bytes n) (j : Fin m) => fun i => if (i : ℕ) = a + j then bs j else acc i) img
      = splice img a bs := by
  have key : ∀ (l : List (Fin m)) (acc : Bytes n) (i : Fin n),
      l.foldl (fun (acc : Bytes n) (j : Fin m) => fun i => if (i : ℕ) = a + j then bs j else acc i)
          acc i
        = if h : ∃ j ∈ l, (i : ℕ) = a + j then splice img a bs i else acc i := by
    intro l
    induction l with
    | nil => simp
    | cons j l ih =>
      intro acc i
      rw [List.foldl_cons, ih]
      by_cases hl : ∃ j' ∈ l, (i : ℕ) = a + j'
      · rw [dif_pos hl, dif_pos (hl.imp fun _ h => ⟨List.mem_cons_of_mem _ h.1, h.2⟩)]
      · rw [dif_neg hl]
        by_cases hj : (i : ℕ) = a + j
        · rw [if_pos hj, dif_pos ⟨j, List.mem_cons_self, hj⟩,
            splice_of_mem (by omega) (by have := j.isLt; omega)]
          congr 1
          ext
          simp only
          omega
        · rw [if_neg hj, dif_neg]
          rintro ⟨j', hmem, hj'⟩
          rcases List.mem_cons.mp hmem with rfl | hmem
          · exact hj hj'
          · exact hl ⟨j', hmem, hj'⟩
  funext i
  rw [key]
  split
  · rfl
  · rename_i h
    refine (splice_of_not_mem ?_).symm
    by_contra hcon
    exact h ⟨⟨i - a, by omega⟩, List.mem_finRange _, by simp only; omega⟩

/-! ### Little-endian words -/

/-- The low `k` bytes of a word, least significant first. -/
def ofWord (k : ℕ) {w : ℕ} (v : BitVec w) : Bytes k := fun j => v.extractLsb' (8 * j) 8

/-- The number a record spells, least significant byte first. -/
def leNat : {k : ℕ} → Bytes k → ℕ
  | 0, _ => 0
  | _ + 1, bs => (bs 0).toNat + 256 * leNat (bs ∘ Fin.succ)

theorem leNat_succ (bs : Bytes (k + 1)) :
    leNat bs = (bs 0).toNat + 256 * leNat (bs ∘ Fin.succ) := rfl

/-- The `w`-bit word a record spells. -/
def toWord {k : ℕ} (w : ℕ) (bs : Bytes k) : BitVec w := BitVec.ofNat w (leNat bs)

theorem leNat_ofWord {w : ℕ} : ∀ (k : ℕ) (v : BitVec w), leNat (ofWord k v) = v.toNat % 256 ^ k
  | 0, v => by simp [leNat, Nat.mod_one]
  | k + 1, v => by
    have htail : ofWord (k + 1) v ∘ Fin.succ = ofWord k (v >>> 8) := by
      funext j
      apply BitVec.eq_of_toNat_eq
      have hpow : 2 ^ (8 * (j : ℕ) + 8) = 256 * 2 ^ (8 * (j : ℕ)) := by ring
      simp [ofWord, BitVec.extractLsb'_toNat, Nat.shiftRight_eq_div_pow, Nat.div_div_eq_div_mul,
        Nat.mul_add, hpow]
    have hhead : (ofWord (k + 1) v 0).toNat = v.toNat % 256 := by simp [ofWord]
    rw [leNat_succ, htail, leNat_ofWord k, hhead, BitVec.toNat_ushiftRight,
      Nat.shiftRight_eq_div_pow, pow_succ' 256 k, Nat.mod_mul]

/-- **A word survives its encoding.** -/
theorem toWord_ofWord {w : ℕ} (h : w = 8 * k) (v : BitVec w) : toWord w (ofWord k v) = v := by
  apply BitVec.eq_of_toNat_eq
  have hpow : 256 ^ k = 2 ^ w := by rw [h, pow_mul, show 2 ^ 8 = 256 from rfl]
  rw [toWord, BitVec.toNat_ofNat, leNat_ofWord, hpow, Nat.mod_mod,
    Nat.mod_eq_of_lt v.isLt]

theorem leNat_lt : ∀ {k : ℕ} (bs : Bytes k), leNat bs < 256 ^ k
  | 0, _ => by simp [leNat]
  | k + 1, bs => by
    have hhead : (bs 0).toNat < 256 := (bs 0).isLt
    have htail := leNat_lt (bs ∘ Fin.succ)
    rw [leNat_succ, pow_succ']
    omega

theorem leNat_injective : ∀ {k : ℕ}, Function.Injective (leNat : Bytes k → ℕ)
  | 0, bs, bs', _ => Subsingleton.elim bs bs'
  | k + 1, bs, bs', h => by
    have h₁ : (bs 0).toNat < 256 := (bs 0).isLt
    have h₂ : (bs' 0).toNat < 256 := (bs' 0).isLt
    rw [leNat_succ, leNat_succ] at h
    have hhead : bs 0 = bs' 0 := BitVec.eq_of_toNat_eq (by omega)
    have htail : bs ∘ Fin.succ = bs' ∘ Fin.succ := leNat_injective (by omega)
    funext i
    cases i using Fin.cases with
    | zero => exact hhead
    | succ j => exact congrFun htail j

/-- A record is determined by the word it spells. -/
theorem toWord_injective {w : ℕ} (h : w = 8 * k) :
    Function.Injective (toWord w : Bytes k → BitVec w) := by
  intro bs bs' heq
  have hpow : 2 ^ w = 256 ^ k := by rw [h, pow_mul, show 2 ^ 8 = 256 from rfl]
  have hnat := congrArg BitVec.toNat heq
  rw [toWord, toWord, BitVec.toNat_ofNat, BitVec.toNat_ofNat, hpow, Nat.mod_eq_of_lt (leNat_lt bs),
    Nat.mod_eq_of_lt (leNat_lt bs')] at hnat
  exact leNat_injective hnat

/-! ### 16-bit fields -/

/-- The 16-bit field at offset `a`. -/
def getInt16 (bs : Bytes n) (a : ℕ) : BitVec 16 := toWord 16 (slice bs a 2)

/-- Overwrite the 16-bit field at offset `a`. -/
def setInt16 (bs : Bytes n) (a : ℕ) (v : BitVec 16) : Bytes n := splice bs a (ofWord 2 v)

theorem getInt16_setInt16_self {bs : Bytes n} {a : ℕ} {v : BitVec 16} (h : a + 2 ≤ n) :
    getInt16 (setInt16 bs a v) a = v := by
  rw [getInt16, setInt16, slice_splice_self h, toWord_ofWord rfl]

theorem getInt16_setInt16_of_disjoint {bs : Bytes n} {a b : ℕ} {v : BitVec 16}
    (h : b + 2 ≤ a ∨ a + 2 ≤ b) : getInt16 (setInt16 bs a v) b = getInt16 bs b := by
  rw [getInt16, setInt16, slice_splice_of_disjoint h, getInt16]

/-- A record of an even number of bytes is determined by its 16-bit fields. -/
theorem eq_of_getInt16_eq {bs bs' : Bytes (2 * n)}
    (h : ∀ k < n, getInt16 bs (2 * k) = getInt16 bs' (2 * k)) : bs = bs' := by
  funext i
  have hi := i.isLt
  have hslice : slice bs (2 * (i / 2)) 2 = slice bs' (2 * (i / 2)) 2 :=
    toWord_injective rfl (h (i / 2) (by omega))
  exact (slice_eq_iff (by omega)).mp hslice i (by omega) (by omega)

end Bytes
