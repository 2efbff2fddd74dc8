import ImuGamepad.Library.Runs

/-!
# Calls in order, up to the first that fails

An initialisation makes a series of calls on a state, each of which reports whether it has
succeeded, and returns at the first one that has not. A call may also stop with an error. The calls
are a family over some index, so that what holds of each of them is one hypothesis.

## Main definitions

* `Runs.inOrder` — the series of calls

## Main results

* `Runs.inOrder_invariant`, `inOrder_result` — what the calls keep, and what the series reports
* `Runs.exists_inOrder_ok` — progress
* `Runs.inOrder_erase` — a series of calls with ghost state, seen without it
-/

namespace Runs

universe u v

variable {ε : Type u} {ι : Type*} {σ τ : Type v} {call : ι → σ → Except ε (Bool × σ)} {i : ι}
  {is : List ι} {s t : σ} {b : Bool}

/-- Make the calls in order, up to the first that reports failure. -/
def inOrder (call : ι → σ → Except ε (Bool × σ)) : List ι → σ → Except ε (Bool × σ)
  | [], s => .ok (true, s)
  | i :: is, s => do
    let (ok, s) ← call i s
    if !ok then return (false, s)
    inOrder call is s

theorem inOrder_cons_of_error {e : ε} (h : call i s = .error e) :
    inOrder call (i :: is) s = .error e := by
  rw [inOrder, h]
  rfl

theorem inOrder_cons_of_false (h : call i s = .ok (false, t)) :
    inOrder call (i :: is) s = .ok (false, t) := by
  rw [inOrder, h]
  rfl

theorem inOrder_cons_of_true (h : call i s = .ok (true, t)) :
    inOrder call (i :: is) s = inOrder call is t := by
  rw [inOrder, h]
  rfl

/-- The first call either ends the series or hands over to the rest of it. -/
theorem inOrder_cons_eq_ok_iff :
    inOrder call (i :: is) s = .ok (b, t) ↔
      (call i s = .ok (false, t) ∧ b = false) ∨
        ∃ u, call i s = .ok (true, u) ∧ inOrder call is u = .ok (b, t) := by
  cases h : call i s with
  | error e => simp [inOrder_cons_of_error h]
  | ok r =>
    obtain ⟨ok, u⟩ := r
    cases ok with
    | false => simp [inOrder_cons_of_false h, eq_comm, and_comm]
    | true => simp [inOrder_cons_of_true h]

/-- What every call keeps, the series keeps. -/
theorem inOrder_invariant {I : σ → Prop} (h : inOrder call is s = .ok (b, t)) (hs : I s)
    (hcall : ∀ i ∈ is, ∀ u ok v, I u → call i u = .ok (ok, v) → I v) : I t := by
  induction is generalizing s with
  | nil =>
    cases h
    exact hs
  | cons i is ih =>
    rw [List.forall_mem_cons] at hcall
    rcases inOrder_cons_eq_ok_iff.mp h with ⟨hi, -⟩ | ⟨u, hi, hrest⟩
    · exact hcall.1 s false t hs hi
    · exact ih hrest (hcall.1 s true u hs hi) hcall.2

/-- The series reports success exactly if every call would. -/
theorem inOrder_result {found : ι → Bool} (h : inOrder call is s = .ok (b, t))
    (hcall : ∀ i ∈ is, ∀ u ok v, call i u = .ok (ok, v) → ok = found i) : b = is.all found := by
  induction is generalizing s with
  | nil =>
    cases h
    rfl
  | cons i is ih =>
    rw [List.forall_mem_cons] at hcall
    rw [List.all_cons]
    rcases inOrder_cons_eq_ok_iff.mp h with ⟨hi, rfl⟩ | ⟨u, hi, hrest⟩
    · rw [← hcall.1 s false t hi, Bool.false_and]
    · rw [← hcall.1 s true u hi, Bool.true_and]
      exact ih hrest hcall.2

/-- Where every call goes through from a state of the invariant and keeps it, so does the
series. -/
theorem exists_inOrder_ok {I : σ → Prop} (hs : I s)
    (hcall : ∀ i ∈ is, ∀ u, I u → ∃ ok v, call i u = .ok (ok, v) ∧ I v) :
    ∃ b t, inOrder call is s = .ok (b, t) ∧ I t := by
  induction is generalizing s with
  | nil => exact ⟨true, s, rfl, hs⟩
  | cons i is ih =>
    rw [List.forall_mem_cons] at hcall
    obtain ⟨ok, u, hi, hu⟩ := hcall.1 s hs
    cases ok with
    | false => exact ⟨false, u, inOrder_cons_of_false hi, hu⟩
    | true =>
      rw [inOrder_cons_of_true hi]
      exact ih hu hcall.2

/-- **Erasure.** Where every call with ghost state is the call without it, so is the series. -/
theorem inOrder_erase {logged : ι → τ → Except ε (Bool × τ)} (erase : τ → σ)
    (hcall : ∀ i ∈ is, ∀ u, (logged i u).map (fun r => (r.1, erase r.2)) = call i (erase u))
    (u : τ) : (inOrder logged is u).map (fun r => (r.1, erase r.2))
      = inOrder call is (erase u) := by
  induction is generalizing u with
  | nil => rfl
  | cons i is ih =>
    rw [List.forall_mem_cons] at hcall
    have hi := hcall.1 u
    cases h : logged i u with
    | error e =>
      rw [h] at hi
      rw [inOrder_cons_of_error h, inOrder_cons_of_error hi.symm]
      rfl
    | ok r =>
      obtain ⟨ok, v⟩ := r
      rw [h] at hi
      cases ok with
      | false =>
        rw [inOrder_cons_of_false h, inOrder_cons_of_false hi.symm]
        rfl
      | true =>
        rw [inOrder_cons_of_true h, inOrder_cons_of_true hi.symm]
        exact ih hcall.2 v

end Runs
