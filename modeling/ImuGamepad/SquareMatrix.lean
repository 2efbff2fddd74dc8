import ImuGamepad.Library.Loops
import Mathlib.LinearAlgebra.Matrix.Swap
import Mathlib.LinearAlgebra.Matrix.ToLinearEquiv
import Mathlib.Algebra.Order.Field.Basic
import Mathlib.Data.List.FinRange

/-!
# Inverting a matrix in situ

The fusion filter inverts a matrix by Gauss–Jordan elimination with full pivoting, in the place of
the matrix itself. The entries are those of an ordered field here, so that what is proved is that
the algorithm is right, not how it rounds.

In the middle of the elimination the matrix holds the columns of two others. A column that has not
been pivoted belongs to what the elimination has made of the given matrix, and a column that has,
to what it has made of the identity; of the first one the pivoted columns are known, and of the
second one the others. `left` and `right` are those two matrices. Their quotient is the given matrix
up to the order of its rows, because every step is an operation on rows. That is the invariant.

## Main definitions

* `fmatrixAeqInvA` — the inversion
* `left`, `right` — the two matrices

## Main results

* `fmatrixAeqInvA_inverts` — the result is the inverse, or the identity where there is none
-/

namespace ImuGamepad

open Loops

section

variable {n : ℕ} {K : Type*}

/-! ### The algorithm -/

/-- `A[i][j] = x`. -/
def assign (A : Matrix (Fin n) (Fin n) K) (i j : Fin n) (x : K) : Matrix (Fin n) (Fin n) K :=
  A.updateRow i (Function.update (A i) j x)

/-- `fmatrixAeqI`. -/
def fmatrixAeqI [Zero K] [One K] (A : Matrix (Fin n) (Fin n) K) : Matrix (Fin n) (Fin n) K :=
  (List.finRange n).foldl
    (fun A i => assign ((List.finRange n).foldl (fun A j => assign A i j 0) A) i i 1) A

/-- The rows `r` and `c` are swapped. -/
def swapRows (r c : Fin n) (A : Matrix (Fin n) (Fin n) K) : Matrix (Fin n) (Fin n) K :=
  if r ≠ c then
    (List.finRange n).foldl (fun A l => assign (assign A r l (A c l)) c l (A r l)) A
  else A

/-- The columns `i` and `j` are swapped. -/
def swapColumns (i j : Fin n) (A : Matrix (Fin n) (Fin n) K) : Matrix (Fin n) (Fin n) K :=
  if i ≠ j then
    (List.finRange n).foldl (fun A k => assign (assign A k i (A k j)) k j (A k i)) A
  else A

section

variable [Field K]

/-- Row `c` is multiplied. -/
def scaleRow (c : Fin n) (recippiv : K) (A : Matrix (Fin n) (Fin n) K) :
    Matrix (Fin n) (Fin n) K :=
  (List.finRange n).foldl (fun A l => assign A c l (A c l * recippiv)) A

/-- Row `c` is subtracted from row `m`, so often that column `c` would vanish. That column is set to
zero first. -/
def eliminateRow (c m : Fin n) (A : Matrix (Fin n) (Fin n) K) : Matrix (Fin n) (Fin n) K :=
  (List.finRange n).foldl (fun B l => assign B m l (B m l - B c l * A m c)) (assign A m c 0)

/-- The pivot at row and column `c` is normalized, and the other rows are reduced by it. -/
def eliminate (c : Fin n) (A : Matrix (Fin n) (Fin n) K) : Matrix (Fin n) (Fin n) K :=
  (List.finRange n).foldl (fun A m => if m ≠ c then eliminateRow c m A else A)
    (scaleRow c (1 / A c c) (assign A c c 1))

variable [LinearOrder K]

/-- The best pivot so far, and its size. -/
abbrev BestPivot (n : ℕ) (K : Type*) := (Fin n × Fin n) × K

/-- The candidate in row `j` and column `k`. The search fails where a column has been pivoted more
than once. -/
def tryPivot (A : Matrix (Fin n) (Fin n) K) (iPivot : Fin n → ℕ) (j : Fin n)
    (best : BestPivot n K) (k : Fin n) : Option (BestPivot n K) :=
  if iPivot k = 0 then some (keepMax (fun place => |A place.1 place.2|) best (j, k))
  else if 1 < iPivot k then none
  else some best

/-- The search, from the place of the last pivot on. -/
def findPivot (A : Matrix (Fin n) (Fin n) K) (iPivot : Fin n → ℕ) (last : Fin n × Fin n) :
    Option (BestPivot n K) :=
  (List.finRange n).foldlM (fun best j =>
    if iPivot j ≠ 1 then (List.finRange n).foldlM (tryPivot A iPivot j) best else some best)
    (last, 0)

/-- The local variables of `fmatrixAeqInvA`. The indices of the pivots are in the order in which
they were found. -/
structure Inversion (n : ℕ) (K : Type*) where
  A : Matrix (Fin n) (Fin n) K
  iPivot : Fin n → ℕ
  last : Fin n × Fin n
  pivots : List (Fin n × Fin n)

/-- One turn of the main loop. It fails where the function returns the identity. -/
def Inversion.turn (s : Inversion n K) : Option (Inversion n K) := do
  let (place, _) ← findPivot s.A s.iPivot s.last
  let c := place.2
  let A := swapRows place.1 c s.A
  if A c c = 0 then none
  else return {
    A := eliminate c A
    iPivot := Function.update s.iPivot c (s.iPivot c + 1)
    last := place
    pivots := s.pivots ++ [place] }

/-- The last loop. -/
def unscramble (pivots : List (Fin n × Fin n)) (A : Matrix (Fin n) (Fin n) K) :
    Matrix (Fin n) (Fin n) K :=
  pivots.reverse.foldl (fun A place => swapColumns place.1 place.2 A) A

/-- `fmatrixAeqInvA`. -/
def fmatrixAeqInvA [NeZero n] (A : Matrix (Fin n) (Fin n) K) : Matrix (Fin n) (Fin n) K :=
  match (List.finRange n).foldlM (fun (s : Inversion n K) _ => s.turn) ⟨A, 0, (0, 0), []⟩ with
  | some s => unscramble s.pivots s.A
  | none => fmatrixAeqI A

end

/-! ### The loops -/

section

variable {A : Matrix (Fin n) (Fin n) K} {i j : Fin n}

theorem assign_apply (x : K) (i' j' : Fin n) :
    assign A i j x i' j' = if i' = i ∧ j' = j then x else A i' j' := by
  rw [assign, Matrix.updateRow_apply]
  by_cases hi : i' = i
  · subst hi
    simp [Function.update_apply]
  · simp [hi]

/-- Swapping rows. -/
theorem swapRows_eq (r c : Fin n) (A : Matrix (Fin n) (Fin n) K) :
    swapRows r c A = A.submatrix (Equiv.swap r c) id := by
  rw [swapRows]
  split
  · rename_i hne
    have hcells := foldl_cells (fun (A : Matrix (Fin n) (Fin n) K) l i => A i l)
      (fun A l => assign (assign A r l (A c l)) c l (A r l))
      (g := fun _ column i => column (Equiv.swap r c i)) (I := fun _ => True)
      (fun _ _ _ => trivial) (fun A l _ => ?_) (fun A l i _ hil => ?_) (List.nodup_finRange n)
      (a := A) trivial
    · ext i l
      simpa using congrFun (hcells l) i
    · funext i
      simp only [assign_apply, and_true, Equiv.swap_apply_def]
      by_cases hc : i = c
      · simp [hc, hne.symm]
      · by_cases hr : i = r
        · simp [hr, hne]
        · simp [hc, hr]
    · funext m
      simp [assign_apply, hil]
  · rename_i heq
    rw [not_not.mp heq]
    simp

/-- Swapping columns. -/
theorem swapColumns_eq (i j : Fin n) (A : Matrix (Fin n) (Fin n) K) :
    swapColumns i j A = A.submatrix id (Equiv.swap i j) := by
  rw [swapColumns]
  split
  · rename_i hne
    have hcells := foldl_cells (fun (A : Matrix (Fin n) (Fin n) K) k => A k)
      (fun A k => assign (assign A k i (A k j)) k j (A k i))
      (g := fun _ row l => row (Equiv.swap i j l)) (I := fun _ => True)
      (fun _ _ _ => trivial) (fun A k _ => ?_) (fun A k m _ hmk => ?_) (List.nodup_finRange n)
      (a := A) trivial
    · ext k l
      simpa using congrFun (hcells k) l
    · funext l
      simp only [assign_apply, true_and, Equiv.swap_apply_def]
      by_cases hj : l = j
      · simp [hj, hne.symm]
      · by_cases hi : l = i
        · simp [hi, hne]
        · simp [hj, hi]
    · funext l
      simp [assign_apply, hmk]
  · rename_i heq
    rw [not_not.mp heq]
    simp

end

theorem fmatrixAeqI_eq [Zero K] [One K] (A : Matrix (Fin n) (Fin n) K) : fmatrixAeqI A = 1 := by
  have hrow (A : Matrix (Fin n) (Fin n) K) (i m l : Fin n) :
      (List.finRange n).foldl (fun A j => assign A i j 0) A m l = if m = i then 0 else A m l := by
    have hcells := foldl_cells (fun (A : Matrix (Fin n) (Fin n) K) l i => A i l)
      (fun A j => assign A i j 0)
      (g := fun _ column m => if m = i then 0 else column m) (I := fun _ => True)
      (fun _ _ _ => trivial) (fun A j _ => ?_) (fun A j l _ hne => ?_) (List.nodup_finRange n)
      (a := A) trivial l
    · simpa using congrFun hcells m
    · funext m
      simp [assign_apply]
    · funext m
      simp [assign_apply, hne]
  have hcells := foldl_cells (fun (A : Matrix (Fin n) (Fin n) K) i => A i)
    (fun A i => assign ((List.finRange n).foldl (fun A j => assign A i j 0) A) i i 1)
    (g := fun i _ j => if i = j then 1 else 0) (I := fun _ => True)
    (fun _ _ _ => trivial) (fun A i _ => ?_) (fun A i m _ hne => ?_) (List.nodup_finRange n)
    (a := A) trivial
  · ext i j
    simpa [fmatrixAeqI, Matrix.one_apply] using congrFun (hcells i) j
  · funext j
    simp only [assign_apply, hrow, true_and, if_true, eq_comm]
  · funext j
    simp only [assign_apply, hrow, hne, false_and, if_false]

section

variable [Field K] {A : Matrix (Fin n) (Fin n) K} {c : Fin n}

theorem scaleRow_apply (recippiv : K) (m l : Fin n) :
    scaleRow c recippiv A m l = if m = c then A m l * recippiv else A m l := by
  have hcells := foldl_cells (fun (A : Matrix (Fin n) (Fin n) K) l i => A i l)
    (fun A l => assign A c l (A c l * recippiv))
    (g := fun _ column m => if m = c then column m * recippiv else column m) (I := fun _ => True)
    (fun _ _ _ => trivial) (fun A j _ => ?_) (fun A j l _ hne => ?_) (List.nodup_finRange n)
    (a := A) trivial l
  · simpa [scaleRow] using congrFun hcells m
  · funext m
    simp only [assign_apply, and_true]
    split
    · rename_i h
      rw [h]
    · rfl
  · funext m
    simp [assign_apply, hne]

theorem eliminateRow_apply {m : Fin n} (hm : m ≠ c) (i l : Fin n) :
    eliminateRow c m A i l
      = if i = m then (if l = c then 0 else A m l) - A c l * A m c else A i l := by
  have hcells := foldl_cells (fun (B : Matrix (Fin n) (Fin n) K) l i => B i l)
    (fun B l => assign B m l (B m l - B c l * A m c))
    (g := fun _ column i => if i = m then column m - column c * A m c else column i)
    (I := fun _ => True)
    (fun _ _ _ => trivial) (fun A j _ => ?_) (fun A j l _ hne => ?_) (List.nodup_finRange n)
    (a := assign A m c 0) trivial l
  · have happly := congrFun hcells i
    simp only [List.mem_finRange, if_true, assign_apply, true_and, hm.symm, false_and, if_false]
      at happly
    rw [eliminateRow, happly]
    split
    · rfl
    · rename_i h
      rw [if_neg fun h' => h h'.1]
  · funext i
    simp only [assign_apply, and_true]
  · funext i
    simp [assign_apply, hne]

/-- What the operation on the rows for a pivot does to any matrix. -/
def reduceBy (A : Matrix (Fin n) (Fin n) K) (c : Fin n) (M : Matrix (Fin n) (Fin n) K) :
    Matrix (Fin n) (Fin n) K :=
  Matrix.of fun m l =>
    if m = c then M c l * (A c c)⁻¹ else M m l - M c l * (A c c)⁻¹ * A m c

/-- It is done to the matrix itself, after the column of the pivot has been replaced. -/
theorem eliminate_eq (c : Fin n) (A : Matrix (Fin n) (Fin n) K) :
    eliminate c A = reduceBy A c (A.updateCol c (Pi.single c 1)) := by
  have hscaled (m l : Fin n) : scaleRow c (1 / A c c) (assign A c c 1) m l
      = if m = c then (if l = c then 1 else A c l) * (A c c)⁻¹ else A m l := by
    rw [scaleRow_apply, assign_apply, one_div]
    by_cases hm : m = c
    · simp [hm]
    · simp [hm]
  have hcells := foldl_cells (fun (A : Matrix (Fin n) (Fin n) K) m => A m)
    (fun B m => if m ≠ c then eliminateRow c m B else B)
    (g := fun m row l => if m = c then row l else
      (if l = c then 0 else row l) - (if l = c then 1 else A c l) * (A c c)⁻¹ * row c)
    (I := fun B => ∀ l, B c l = (if l = c then 1 else A c l) * (A c c)⁻¹)
    (fun B m hB l => ?_) (fun B m hB => ?_) (fun B m i _ hne => ?_) (List.nodup_finRange n)
    (a := scaleRow c (1 / A c c) (assign A c c 1)) (fun l => by rw [hscaled, if_pos rfl])
  · ext m l
    have happly := congrFun (hcells m) l
    simp only [List.mem_finRange, if_true, hscaled] at happly
    rw [eliminate, happly, reduceBy, Matrix.of_apply]
    by_cases hm : m = c
    · simp [hm, Matrix.updateCol_apply]
    · by_cases hl : l = c
      · simp [hm, hl]
      · simp [hm, hl]
  · by_cases hm : m = c
    · rw [if_neg (not_not.mpr hm)]
      exact hB l
    · rw [if_pos hm, eliminateRow_apply hm, if_neg (Ne.symm hm)]
      exact hB l
  · funext l
    by_cases hm : m = c
    · simp [hm]
    · rw [if_pos hm, eliminateRow_apply hm, if_pos rfl, if_neg hm, hB]
  · funext l
    by_cases hm : m = c
    · simp [hm]
    · rw [if_pos hm, eliminateRow_apply hm, if_neg hne]

end

/-! ### The search -/

section

variable [Field K] [LinearOrder K] {A : Matrix (Fin n) (Fin n) K} {iPivot : Fin n → ℕ}

theorem foldlM_tryPivot (hpivot : ∀ k, iPivot k ≤ 1) (j : Fin n) (ks : List (Fin n))
    (best : BestPivot n K) :
    ks.foldlM (tryPivot A iPivot j) best
      = some (((ks.filter fun k => iPivot k = 0).map fun k => (j, k)).foldl
          (keepMax fun place => |A place.1 place.2|) best) := by
  induction ks generalizing best with
  | nil => rfl
  | cons k ks ih =>
    rw [List.foldlM_cons, tryPivot]
    have hle := hpivot k
    by_cases hfree : iPivot k = 0
    · rw [if_pos hfree, List.filter_cons_of_pos (by simpa using hfree)]
      exact ih _
    · rw [if_neg hfree, if_neg (by omega), List.filter_cons_of_neg (by simpa using hfree)]
      exact ih _

/-- The columns that have not been pivoted, in a row that has not been pivoted. -/
def candidatesIn (iPivot : Fin n → ℕ) (j : Fin n) : List (Fin n × Fin n) :=
  if iPivot j ≠ 1 then ((List.finRange n).filter fun k => iPivot k = 0).map fun k => (j, k) else []

/-- The rows and columns that have not been pivoted. -/
def candidates (iPivot : Fin n → ℕ) : List (Fin n × Fin n) :=
  (List.finRange n).flatMap (candidatesIn iPivot)

theorem mem_candidates (hpivot : ∀ k, iPivot k ≤ 1) {j k : Fin n} :
    (j, k) ∈ candidates iPivot ↔ iPivot j = 0 ∧ iPivot k = 0 := by
  rw [candidates, List.mem_flatMap]
  constructor
  · rintro ⟨j', -, hmem⟩
    have hle := hpivot j'
    rw [candidatesIn] at hmem
    split at hmem
    · obtain ⟨k', hk', heq⟩ := List.mem_map.mp hmem
      obtain ⟨rfl, rfl⟩ := Prod.mk.inj heq
      exact ⟨by omega, by simpa using hk'⟩
    · cases hmem
  · rintro ⟨hj, hk⟩
    exact ⟨j, List.mem_finRange j, by simp [candidatesIn, hj, hk]⟩

theorem findPivot_eq (hpivot : ∀ k, iPivot k ≤ 1) (last : Fin n × Fin n) :
    findPivot A iPivot last
      = some ((candidates iPivot).foldl (keepMax fun place => |A place.1 place.2|) (last, 0)) := by
  have hloop : ∀ (js : List (Fin n)) (best : BestPivot n K),
      js.foldlM (fun best j => if iPivot j ≠ 1 then
          (List.finRange n).foldlM (tryPivot A iPivot j) best else some best) best
        = some ((js.flatMap (candidatesIn iPivot)).foldl
            (keepMax fun place => |A place.1 place.2|) best) := by
    intro js
    induction js with
    | nil => exact fun best => rfl
    | cons j js ih =>
      intro best
      rw [List.foldlM_cons, List.flatMap_cons, List.foldl_append, candidatesIn]
      split
      · rw [foldlM_tryPivot hpivot]
        exact ih _
      · exact ih _
  exact hloop _ _

/-- **The search finds a largest entry** of those whose row and column have not been pivoted. -/
theorem findPivot_spec [IsStrictOrderedRing K] (hpivot : ∀ k, iPivot k ≤ 1)
    (hfree : ∃ k, iPivot k = 0) (last : Fin n × Fin n) :
    ∃ r c, findPivot A iPivot last = some ((r, c), |A r c|) ∧ iPivot r = 0 ∧ iPivot c = 0 ∧
      ∀ j k, iPivot j = 0 → iPivot k = 0 → |A j k| ≤ |A r c| := by
  obtain ⟨k, hk⟩ := hfree
  have hne : candidates iPivot ≠ [] :=
    List.ne_nil_of_mem ((mem_candidates hpivot).mpr ⟨hk, hk⟩)
  obtain ⟨hmem, hvalue, hmax⟩ := foldl_keepMax (last, (0 : K)) hne
    (f := fun place => |A place.1 place.2|) fun place _ => abs_nonneg _
  rw [findPivot_eq hpivot]
  generalize (candidates iPivot).foldl _ (last, (0 : K)) = best at hmem hvalue hmax ⊢
  obtain ⟨⟨r, c⟩, largest⟩ := best
  obtain ⟨hr, hc⟩ := (mem_candidates hpivot).mp hmem
  refine ⟨r, c, by rw [show largest = |A r c| from hvalue], hr, hc, fun j k hj hk => ?_⟩
  exact (hmax (j, k) ((mem_candidates hpivot).mpr ⟨hj, hk⟩)).trans_eq hvalue

end

/-! ### The invariant -/

/-- The given matrix, with its rows swapped. -/
def permuteRows (pivots : List (Fin n × Fin n)) (A : Matrix (Fin n) (Fin n) K) :
    Matrix (Fin n) (Fin n) K :=
  pivots.foldl (fun A place => A.submatrix (Equiv.swap place.1 place.2) id) A

theorem permuteRows_concat {A : Matrix (Fin n) (Fin n) K} (pivots : List (Fin n × Fin n))
    (place : Fin n × Fin n) :
    permuteRows (pivots ++ [place]) A
      = (permuteRows pivots A).submatrix (Equiv.swap place.1 place.2) id := by
  rw [permuteRows, List.foldl_append]
  rfl

section

variable [Field K]

/-- What the elimination has made of the given matrix: of its pivoted columns, those of the
identity. -/
def left (iPivot : Fin n → ℕ) (A : Matrix (Fin n) (Fin n) K) : Matrix (Fin n) (Fin n) K :=
  Matrix.of fun i k => if iPivot k = 0 then A i k else (1 : Matrix (Fin n) (Fin n) K) i k

/-- And of the identity. -/
def right (iPivot : Fin n → ℕ) (A : Matrix (Fin n) (Fin n) K) : Matrix (Fin n) (Fin n) K :=
  Matrix.of fun i k => if iPivot k = 0 then (1 : Matrix (Fin n) (Fin n) K) i k else A i k

variable {A M N : Matrix (Fin n) (Fin n) K} {iPivot : Fin n → ℕ} {r c : Fin n}

theorem reduceBy_mul : reduceBy A c (M * N) = reduceBy A c M * N := by
  ext m l
  by_cases hm : m = c
  · simp only [reduceBy, Matrix.of_apply, Matrix.mul_apply, if_pos hm, Finset.sum_mul]
    exact Finset.sum_congr rfl fun k _ => by ring
  · simp only [reduceBy, Matrix.of_apply, Matrix.mul_apply, if_neg hm, Finset.sum_mul,
      ← Finset.sum_sub_distrib]
    exact Finset.sum_congr rfl fun k _ => by ring

theorem det_permuteRows_eq_zero_iff (pivots : List (Fin n × Fin n)) :
    (permuteRows pivots A).det = 0 ↔ A.det = 0 := by
  induction pivots using List.reverseRecOn with
  | nil => rfl
  | append_singleton pivots place ih =>
    have hsign : ((Equiv.Perm.sign (Equiv.swap place.1 place.2) : ℤ) : K) ≠ 0 := by
      rw [Equiv.Perm.sign_swap']
      split <;> simp
    rw [permuteRows_concat, Matrix.det_permute, ← ih, mul_eq_zero, or_iff_right hsign]

/-- Swapping two columns of a factor is swapping the rows of the other one. -/
theorem submatrix_swap_mul (i j : Fin n) :
    M.submatrix id (Equiv.swap i j) * N = M * N.submatrix (Equiv.swap i j) id := by
  have hswap : N = (N.submatrix (Equiv.swap i j) id).submatrix (Equiv.swap i j) id := by
    ext
    simp
  conv_lhs => rw [hswap]
  rw [Matrix.submatrix_mul_equiv, Matrix.submatrix_id_id]

theorem unscramble_mul [LinearOrder K] (pivots : List (Fin n × Fin n)) :
    unscramble pivots M * N = M * permuteRows pivots N := by
  induction pivots generalizing N with
  | nil => rfl
  | cons place pivots ih =>
    rw [unscramble, List.reverse_cons, List.foldl_append, List.foldl_cons, List.foldl_nil,
      swapColumns_eq, submatrix_swap_mul]
    exact ih

/-- A row swap, of two rows that have not been pivoted. -/
theorem left_swap (hr : iPivot r = 0) (hc : iPivot c = 0) :
    left iPivot (A.submatrix (Equiv.swap r c) id)
      = (left iPivot A).submatrix (Equiv.swap r c) id := by
  ext i k
  simp only [left, Matrix.of_apply, Matrix.submatrix_apply, id]
  split
  · rfl
  · rename_i hk
    have hkr : k ≠ r := fun h => hk (h ▸ hr)
    have hkc : k ≠ c := fun h => hk (h ▸ hc)
    simp only [Matrix.one_apply, Equiv.swap_apply_eq_iff, Equiv.swap_apply_of_ne_of_ne hkr hkc]

theorem right_swap (hr : iPivot r = 0) (hc : iPivot c = 0) :
    right iPivot (A.submatrix (Equiv.swap r c) id)
      = (right iPivot A).submatrix (Equiv.swap r c) (Equiv.swap r c) := by
  ext i k
  have hfree : iPivot (Equiv.swap r c k) = 0 ↔ iPivot k = 0 := by
    rw [Equiv.swap_apply_def]
    split_ifs with hkr hkc
    · simp [hkr, hr, hc]
    · simp [hkc, hr, hc]
    · rfl
  simp only [right, Matrix.of_apply, Matrix.submatrix_apply, id, hfree]
  split
  · simp [Matrix.one_apply]
  · rename_i hk
    have hkr : k ≠ r := fun h => hk (h ▸ hr)
    have hkc : k ≠ c := fun h => hk (h ▸ hc)
    rw [Equiv.swap_apply_of_ne_of_ne hkr hkc]

/-- The elimination of a column that has not been pivoted. -/
theorem left_eliminate (hc : iPivot c = 0) (hne : A c c ≠ 0) :
    left (Function.update iPivot c (iPivot c + 1)) (eliminate c A)
      = reduceBy A c (left iPivot A) := by
  ext m k
  simp only [left, eliminate_eq, reduceBy, Matrix.of_apply, Function.update_apply, hc,
    Matrix.updateCol_apply, Matrix.one_apply]
  by_cases hk : k = c
  · subst hk
    by_cases hm : m = k
    · simp [hm, hc, hne]
    · simp [hm, hc, hne]
  · by_cases hfree : iPivot k = 0
    · simp [hk, hfree]
    · by_cases hm : m = c
      · simp [hk, hfree, hm, Ne.symm hk]
      · simp [hk, hfree, hm, Ne.symm hk]

theorem right_eliminate (hc : iPivot c = 0) :
    right (Function.update iPivot c (iPivot c + 1)) (eliminate c A)
      = reduceBy A c (right iPivot A) := by
  ext m k
  simp only [right, eliminate_eq, reduceBy, Matrix.of_apply, Function.update_apply, hc,
    Matrix.updateCol_apply, Matrix.one_apply]
  by_cases hk : k = c
  · subst hk
    by_cases hm : m = k
    · simp [hm, hc]
    · simp [hm, hc]
  · by_cases hfree : iPivot k = 0
    · by_cases hm : m = c
      · simp [hk, hfree, hm, Ne.symm hk]
      · simp [hk, hfree, hm, Ne.symm hk]
    · simp [hk, hfree]

end

section

variable [Field K]

/-- Every column is pivoted at most once, one in each turn, and the two matrices have the given one
as their quotient, up to the order of its rows. -/
structure Inversion.Invariant (A₀ : Matrix (Fin n) (Fin n) K) (turns : ℕ) (s : Inversion n K) :
    Prop where
  pivot_le : ∀ k, s.iPivot k ≤ 1
  count : ∑ k, s.iPivot k = turns
  quotient : left s.iPivot s.A = right s.iPivot s.A * permuteRows s.pivots A₀

variable {A₀ : Matrix (Fin n) (Fin n) K} {turns : ℕ} {s : Inversion n K}

theorem Inversion.Invariant.exists_free (h : s.Invariant A₀ turns) (hturns : turns < n) :
    ∃ k, s.iPivot k = 0 := by
  by_contra hnone
  have hone (k : Fin n) : s.iPivot k = 1 := by
    have hle := h.pivot_le k
    have hne : s.iPivot k ≠ 0 := fun hk => hnone ⟨k, hk⟩
    omega
  have hcount := h.count
  simp only [hone, Finset.sum_const, Finset.card_univ, Fintype.card_fin, smul_eq_mul,
    mul_one] at hcount
  omega

/-- A row of zeros is a combination of the rows of the given matrix, and not the trivial one. -/
theorem Inversion.Invariant.det_eq_zero (h : s.Invariant A₀ turns) {r : Fin n}
    (hr : s.iPivot r = 0) (hzero : ∀ k, s.iPivot k = 0 → s.A r k = 0) : A₀.det = 0 := by
  rw [← det_permuteRows_eq_zero_iff s.pivots, ← Matrix.exists_vecMul_eq_zero_iff]
  refine ⟨right s.iPivot s.A r, fun hrow => ?_, ?_⟩
  · have hone := congrFun hrow r
    simp [right, hr] at hone
  · have hrow : Matrix.vecMul (right s.iPivot s.A r) (permuteRows s.pivots A₀)
        = left s.iPivot s.A r := by
      rw [h.quotient]
      rfl
    rw [hrow]
    funext k
    by_cases hk : s.iPivot k = 0
    · simp [left, hk, hzero k hk]
    · have hne : r ≠ k := fun heq => hk (heq ▸ hr)
      simp [left, hk, hne]

theorem Inversion.invariant_start [NeZero n] (A₀ : Matrix (Fin n) (Fin n) K) :
    Inversion.Invariant A₀ 0 ⟨A₀, 0, (0, 0), []⟩ := by
  refine ⟨fun _ => Nat.zero_le _, by simp, ?_⟩
  ext i k
  have hone : (Matrix.of fun i k => (1 : Matrix (Fin n) (Fin n) K) i k) = 1 := rfl
  simp [left, right, permuteRows, hone]

variable [LinearOrder K]

/-- **One turn** keeps it, or finds that the given matrix has no inverse. -/
theorem Inversion.Invariant.turn [IsStrictOrderedRing K] (h : s.Invariant A₀ turns)
    (hturns : turns < n) :
    (s.turn = none ∧ A₀.det = 0) ∨ ∃ s', s.turn = some s' ∧ s'.Invariant A₀ (turns + 1) := by
  obtain ⟨r, c, hfind, hr, hc, hmax⟩ :=
    findPivot_spec h.pivot_le (h.exists_free hturns) s.last (A := s.A)
  have hpivot : swapRows r c s.A c c = s.A r c := by
    rw [swapRows_eq, Matrix.submatrix_apply, Equiv.swap_apply_right, id]
  by_cases hzero : s.A r c = 0
  · refine Or.inl ⟨?_, h.det_eq_zero hr fun k hk => ?_⟩
    · simp [Inversion.turn, hfind, hpivot, hzero]
    · have hle := hmax r k hr hk
      rw [hzero, abs_zero] at hle
      exact abs_nonpos_iff.mp hle
  · refine Or.inr ⟨_, by simp [Inversion.turn, hfind, hpivot, hzero]; rfl, ?_, ?_, ?_⟩
    · intro k
      simp only [Function.update_apply]
      have hle := h.pivot_le k
      split
      · omega
      · exact hle
    · have hsum := Finset.sum_update_of_mem (Finset.mem_univ c) s.iPivot (s.iPivot c + 1)
      have hcount := h.count
      rw [← Finset.add_sum_erase _ _ (Finset.mem_univ c), Finset.erase_eq] at hcount
      rw [hsum]
      omega
    · simp only
      rw [left_eliminate hc (by rw [hpivot]; exact hzero), right_eliminate hc, swapRows_eq,
        left_swap hr hc, right_swap hr hc, permuteRows_concat, h.quotient, ← reduceBy_mul,
        Matrix.submatrix_mul_equiv]

/-- **The main loop.** -/
theorem Inversion.Invariant.loop [IsStrictOrderedRing K] (h : s.Invariant A₀ turns)
    (ls : List (Fin n)) (hturns : turns + ls.length = n) :
    (ls.foldlM (fun (s : Inversion n K) _ => s.turn) s = none ∧ A₀.det = 0) ∨
      ∃ s', ls.foldlM (fun (s : Inversion n K) _ => s.turn) s = some s' ∧ s'.Invariant A₀ n := by
  induction ls generalizing turns s with
  | nil => exact Or.inr ⟨s, rfl, by simpa [← hturns] using h⟩
  | cons l ls ih =>
    rw [List.length_cons] at hturns
    rw [List.foldlM_cons]
    rcases h.turn (by omega) with ⟨hnone, hdet⟩ | ⟨s', hsome, hs'⟩
    · exact Or.inl ⟨by rw [hnone]; rfl, hdet⟩
    · rw [hsome]
      exact ih hs' (by omega)

/-- In the end every column has been pivoted. -/
theorem Inversion.Invariant.mul_eq_one (h : s.Invariant A₀ n) :
    unscramble s.pivots s.A * A₀ = 1 := by
  have hone (k : Fin n) : s.iPivot k = 1 := by
    by_contra hne
    have hlt : s.iPivot k < 1 := lt_of_le_of_ne (h.pivot_le k) hne
    have hsum := Finset.sum_lt_sum (fun i _ => h.pivot_le i) ⟨k, Finset.mem_univ k, hlt⟩
    simp [h.count] at hsum
  have hleft : left s.iPivot s.A = 1 := by
    ext i k
    simp [left, hone]
  have hright : right s.iPivot s.A = s.A := by
    ext i k
    simp [right, hone]
  rw [unscramble_mul, ← hright, ← h.quotient, hleft]

/-- **The result is the inverse**, or the identity where there is none. -/
theorem fmatrixAeqInvA_eq [IsStrictOrderedRing K] [NeZero n] (A : Matrix (Fin n) (Fin n) K) :
    fmatrixAeqInvA A = if A.det = 0 then 1 else A⁻¹ := by
  rw [fmatrixAeqInvA]
  rcases (Inversion.invariant_start A).loop (List.finRange n) (by simp) with
    ⟨hnone, hdet⟩ | ⟨s, hsome, hs⟩
  · rw [hnone, if_pos hdet]
    exact fmatrixAeqI_eq A
  · have hmul := hs.mul_eq_one
    have hdet : A.det ≠ 0 := (Matrix.isUnit_det_of_left_inverse hmul).ne_zero
    rw [hsome, if_neg hdet]
    exact (Matrix.inv_eq_left_inv hmul).symm

/-- **The inversion inverts**, from both sides, and a matrix that has no inverse becomes the
identity. -/
theorem fmatrixAeqInvA_inverts [IsStrictOrderedRing K] [NeZero n] (A : Matrix (Fin n) (Fin n) K) :
    (A.det ≠ 0 → fmatrixAeqInvA A * A = 1 ∧ A * fmatrixAeqInvA A = 1) ∧
      (A.det = 0 → fmatrixAeqInvA A = 1) := by
  rw [fmatrixAeqInvA_eq]
  constructor
  · intro hdet
    have hunit : IsUnit A.det := isUnit_iff_ne_zero.mpr hdet
    rw [if_neg hdet]
    exact ⟨Matrix.nonsing_inv_mul A hunit, Matrix.mul_nonsing_inv A hunit⟩
  · intro hdet
    rw [if_pos hdet]

/-- A matrix with a zero where the first pivot would be without a search. -/
theorem fmatrixAeqInvA_inverts_two :
    ((!![0, 2; 1, 3] : Matrix (Fin 2) (Fin 2) ℚ).det ≠ 0 →
      fmatrixAeqInvA !![0, 2; 1, 3] * !![0, 2; 1, 3] = (1 : Matrix (Fin 2) (Fin 2) ℚ) ∧
        !![0, 2; 1, 3] * fmatrixAeqInvA !![0, 2; 1, 3] = (1 : Matrix (Fin 2) (Fin 2) ℚ)) ∧
    ((!![0, 2; 1, 3] : Matrix (Fin 2) (Fin 2) ℚ).det = 0 →
      fmatrixAeqInvA !![0, 2; 1, 3] = (1 : Matrix (Fin 2) (Fin 2) ℚ)) :=
  fmatrixAeqInvA_inverts _

end

end

end ImuGamepad
