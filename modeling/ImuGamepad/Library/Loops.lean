import Mathlib.Algebra.BigOperators.Group.Finset.Basic
import Mathlib.Data.List.Induction
import Mathlib.Data.List.Nodup
import Mathlib.Order.Lattice
import Mathlib.Tactic.Common

/-!
# Loops over an index

Three kinds of loop that programs run over the indices of an array. One changes in each turn only
what belongs to the index of that turn, so that the order of the turns does not matter and the loop
changes everything at once. One adds up a term for every index. The last one remembers the best
index so far.

## Main definitions

* `Loops.keepMax` — one turn of a search for the largest value

## Main results

* `Loops.foldl_cells` — a loop whose turns change one cell each
* `Loops.foldl_sum` — a loop that adds up one term for every index
* `Loops.foldl_keepMax` — a search finds a place where the value is largest
-/

namespace Loops

variable {ι α β : Type*}

/-- **A loop whose turns change one cell each** changes all of them at once. What a turn does to its
cell may depend on anything that every turn keeps, which is what the invariant is for. -/
theorem foldl_cells [DecidableEq ι] (cell : α → ι → β) (step : α → ι → α) {g : ι → β → β}
    {I : α → Prop} (hkeep : ∀ a l, I a → I (step a l))
    (hself : ∀ a l, I a → cell (step a l) l = g l (cell a l))
    (hother : ∀ a l i, I a → i ≠ l → cell (step a l) i = cell a i)
    {ls : List ι} (hls : ls.Nodup) {a : α} (ha : I a) (i : ι) :
    cell (ls.foldl step a) i = if i ∈ ls then g i (cell a i) else cell a i := by
  induction ls generalizing a with
  | nil => simp
  | cons l ls ih =>
    rw [List.nodup_cons] at hls
    rw [List.foldl_cons, ih hls.2 (hkeep a l ha)]
    by_cases hi : i = l
    · subst hi
      rw [if_neg hls.1, if_pos List.mem_cons_self, hself a i ha]
    · simp only [List.mem_cons, hi, false_or, hother a l i ha hi]

/-- **A loop that adds up one term for every index.** -/
theorem foldl_sum [Fintype ι] [AddCommMonoid α] {ls : List ι} (hls : ls.Nodup)
    (hall : ∀ i, i ∈ ls) {step : α → ι → α} {f : ι → α} (hstep : ∀ a i, step a i = a + f i)
    (a : α) : ls.foldl step a = a + ∑ i, f i := by
  classical
  have hfold (a : α) : ls.foldl step a = a + (ls.map f).sum := by
    clear hls hall
    induction ls generalizing a with
    | nil => simp
    | cons l ls ih => rw [List.foldl_cons, ih, hstep, List.map_cons, List.sum_cons, add_assoc]
  have huniv : ls.toFinset = Finset.univ := by
    ext i
    simp [hall]
  rw [hfold, ← List.sum_toFinset f hls, huniv]

/-- One turn of a search for the largest value: the last of the largest wins. -/
def keepMax [LinearOrder β] (f : ι → β) (best : ι × β) (i : ι) : ι × β :=
  if best.2 ≤ f i then (i, f i) else best

/-- **A search that starts below every value finds a largest one.** -/
theorem foldl_keepMax [LinearOrder β] {f : ι → β} {ls : List ι} (best : ι × β) (hls : ls ≠ [])
    (hbest : ∀ i ∈ ls, best.2 ≤ f i) :
    (ls.foldl (keepMax f) best).1 ∈ ls ∧
      (ls.foldl (keepMax f) best).2 = f (ls.foldl (keepMax f) best).1 ∧
        ∀ i ∈ ls, f i ≤ (ls.foldl (keepMax f) best).2 := by
  induction ls using List.reverseRecOn with
  | nil => exact absurd rfl hls
  | append_singleton ls a ih =>
    rw [List.foldl_append, List.foldl_cons, List.foldl_nil, keepMax]
    rcases eq_or_ne ls [] with rfl | hne
    · rw [List.foldl_nil, if_pos (hbest a (by simp))]
      simp
    · obtain ⟨hmem, hvalue, hmax⟩ := ih hne fun i hi => hbest i (by simp [hi])
      split
      · rename_i hle
        refine ⟨by simp, rfl, fun i hi => ?_⟩
        rcases List.mem_append.mp hi with hi | hi
        · exact (hmax i hi).trans hle
        · rw [List.mem_singleton.mp hi]
      · rename_i hlt
        refine ⟨by simp [hmem], hvalue, fun i hi => ?_⟩
        rcases List.mem_append.mp hi with hi | hi
        · exact hmax i hi
        · rw [List.mem_singleton.mp hi]
          exact (not_le.mp hlt).le

end Loops
