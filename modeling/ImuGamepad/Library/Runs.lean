import Mathlib.Data.List.Basic
import Mathlib.Data.List.Infix
import Mathlib.Tactic.Common

/-!
# Runs of a labelled transition system

A system is a step relation `step : σ → α → σ → Prop` over states `σ` and labels `α`. Nothing is
assumed of it: it may be partial, so that a label stands for an input the state does not accept or
for a call that fails, and it may be nondeterministic.

Two ways of speaking about a run are kept apart. `Path` says where a whole list of labels leads.
`Always` says something about *every step on the way*, and is the form in which frame conditions,
safety properties and the conditions that guard them are stated. The rules below turn a fact about
one step into a fact about every run, and `always_congr` turns an equivalence between two
conditions on one step into an equivalence between two conditions on whole runs.

## Main definitions

* `Runs.Path` — the run over a list of labels leads from one state to another
* `Runs.Always` — every step a run takes satisfies a condition
* `Runs.OkStep` — the step relation of a function that may fail
* `Runs.kept` — a run without the steps of some kind
* `Runs.Since` — a past operator on traces: something has happened, and no reset after it

## Main results

* `Runs.always_iff` — in terms of paths
* `Runs.Always.path_invariant`, `Always.of_invariant`, `Path.traced_invariant` — the invariant rules
* `Runs.always_congr`, `Runs.always_label_iff` — an equivalence between step conditions lifts to
  runs
* `Runs.Path.view_eq_foldl` — a run seen through a view is a run of an abstract machine
* `Runs.always_view_eq_iff` — stuttering
* `Runs.always_simulated_iff` — simulation by a function
* `Runs.path_okStep_iff` — a path of a fallible function is a successful monadic fold
* `Runs.exists_foldlM_ok` — progress
* `Runs.Path.of_kept` — steps that change nothing can be left out
* `Runs.since_concat` — how one more event changes what has happened since
* `Runs.Path.since_or` — what events set and clear
-/

namespace Runs

variable {σ α : Type*} {step : σ → α → σ → Prop}

/-! ### Paths -/

/-- `Path step s as t`: performing the labels `as` in order leads from `s` to `t`. -/
inductive Path (step : σ → α → σ → Prop) : σ → List α → σ → Prop
  | nil (s : σ) : Path step s [] s
  | cons {s t u : σ} {a : α} {as : List α} :
      step s a t → Path step t as u → Path step s (a :: as) u

@[simp] theorem path_nil_iff {s t : σ} : Path step s [] t ↔ s = t :=
  ⟨fun h => by cases h; rfl, fun h => h ▸ .nil s⟩

theorem path_cons_iff {s u : σ} {a : α} {as : List α} :
    Path step s (a :: as) u ↔ ∃ t, step s a t ∧ Path step t as u := by
  constructor
  · rintro (_ | ⟨hst, hrest⟩)
    exact ⟨_, hst, hrest⟩
  · rintro ⟨t, hst, hrest⟩
    exact .cons hst hrest

theorem path_append_iff {s u : σ} {as bs : List α} :
    Path step s (as ++ bs) u ↔ ∃ t, Path step s as t ∧ Path step t bs u := by
  induction as generalizing s with
  | nil => simp
  | cons a as ih =>
    simp only [List.cons_append, path_cons_iff, ih]
    constructor
    · rintro ⟨t, hst, v, htv, hvu⟩
      exact ⟨v, ⟨t, hst, htv⟩, hvu⟩
    · rintro ⟨v, ⟨t, hst, htv⟩, hvu⟩
      exact ⟨t, hst, v, htv, hvu⟩

theorem path_concat_iff {s u : σ} {as : List α} {a : α} :
    Path step s (as ++ [a]) u ↔ ∃ t, Path step s as t ∧ step t a u := by
  simp [path_append_iff, path_cons_iff]

/-! ### Every step on the way -/

/-- Every step the run from `s` over `as` takes satisfies `Q`. Where the system is partial the
run stops at the first label it does not accept, and nothing is said about the labels after it. -/
def Always (step : σ → α → σ → Prop) (Q : σ → α → σ → Prop) : σ → List α → Prop
  | _, [] => True
  | s, a :: as => ∀ t, step s a t → Q s a t ∧ Always step Q t as

@[simp] theorem always_nil (Q : σ → α → σ → Prop) (s : σ) : Always step Q s [] := trivial

theorem always_cons_iff {Q : σ → α → σ → Prop} {s : σ} {a : α} {as : List α} :
    Always step Q s (a :: as) ↔ ∀ t, step s a t → Q s a t ∧ Always step Q t as :=
  Iff.rfl

theorem always_append_iff {Q : σ → α → σ → Prop} {s : σ} {as bs : List α} :
    Always step Q s (as ++ bs) ↔
      Always step Q s as ∧ ∀ t, Path step s as t → Always step Q t bs := by
  induction as generalizing s with
  | nil => simp
  | cons a as ih =>
    simp only [List.cons_append, always_cons_iff, ih, path_cons_iff]
    constructor
    · intro h
      refine ⟨fun t hst => ⟨(h t hst).1, (h t hst).2.1⟩, ?_⟩
      rintro u ⟨t, hst, htu⟩
      exact (h t hst).2.2 u htu
    · rintro ⟨h₁, h₂⟩ t hst
      exact ⟨(h₁ t hst).1, (h₁ t hst).2, fun u htu => h₂ u ⟨t, hst, htu⟩⟩

/-- What holds of every step holds of the last one. -/
theorem Always.last {Q : σ → α → σ → Prop} {s t t' : σ} {as : List α} {a : α}
    (h : Always step Q s (as ++ [a])) (hpath : Path step s as t) (hstep : step t a t') :
    Q t a t' := ((always_append_iff.mp h).2 t hpath t' hstep).1

/-- What holds of every step is what holds of the last step of every part of the run. -/
theorem always_iff {Q : σ → α → σ → Prop} {s : σ} {as : List α} :
    Always step Q s as ↔
      ∀ pre a t u, pre ++ [a] <+: as → Path step s pre t → step t a u → Q t a u := by
  constructor
  · rintro h pre a t u ⟨post, rfl⟩ hpath hstep
    exact (always_append_iff.mp h).1.last hpath hstep
  · intro h
    induction as generalizing s with
    | nil => exact always_nil Q s
    | cons a as ih =>
      intro t hst
      refine ⟨h [] a s t (by simp) (.nil s) hst, ih fun pre b u v hpre hpath hstep => ?_⟩
      exact h (a :: pre) b u v (by simpa using hpre) (.cons hst hpath) hstep

/-! ### Rules -/

/-- What holds of every step from a state of an invariant that every step keeps. -/
theorem Always.of_invariant {Q : σ → α → σ → Prop} {I : σ → Prop} {s : σ} {as : List α} (hs : I s)
    (hstep : ∀ t a t', I t → step t a t' → I t' ∧ Q t a t') : Always step Q s as := by
  induction as generalizing s with
  | nil => exact always_nil Q s
  | cons a as ih =>
    intro t hst
    obtain ⟨ht, hq⟩ := hstep s a t hs hst
    exact ⟨hq, ih ht⟩

/-- **The invariant rule.** What one step keeps when it satisfies `Q`, a run whose steps all
satisfy `Q` keeps. -/
theorem Always.path_invariant {Q : σ → α → σ → Prop} {I : σ → Prop} {s t : σ} {as : List α}
    (h : Always step Q s as) (hpath : Path step s as t) (hs : I s)
    (hstep : ∀ u a u', I u → step u a u' → Q u a u' → I u') : I t := by
  induction hpath with
  | nil => exact hs
  | cons hst _ ih =>
    obtain ⟨hq, hrest⟩ := h _ hst
    exact ih hrest (hstep _ _ _ hs hst hq)

/-- The invariant rule for a run over labels of some kind, and an invariant that every step over
such a label keeps. -/
theorem Path.invariant_of_labels {I : σ → Prop} {C : α → Prop} {s t : σ} {as : List α}
    (hpath : Path step s as t) (has : ∀ a ∈ as, C a) (hs : I s)
    (hstep : ∀ u a u', I u → C a → step u a u' → I u') : I t := by
  induction hpath with
  | nil => exact hs
  | cons hst _ ih =>
    rw [List.forall_mem_cons] at has
    exact ih has.2 (hstep _ _ _ hs has.1 hst)

/-- The invariant rule for an invariant that every step keeps. -/
theorem Path.invariant {I : σ → Prop} {s t : σ} {as : List α} (hpath : Path step s as t)
    (hs : I s) (hstep : ∀ u a u', I u → step u a u' → I u') : I t :=
  hpath.invariant_of_labels (C := fun _ => True) (fun _ _ => trivial) hs
    fun u a u' hu _ hst => hstep u a u' hu hst

/-- The invariant rule for an invariant that relates the state to the labels so far. -/
theorem Path.traced_invariant {I : List α → σ → Prop} {s t : σ} {as : List α}
    (hpath : Path step s as t) (hs : I [] s)
    (hstep : ∀ pre u a v, I pre u → step u a v → I (pre ++ [a]) v) : I as t := by
  induction as using List.reverseRecOn generalizing t with
  | nil => exact path_nil_iff.mp hpath ▸ hs
  | append_singleton as a ih =>
    obtain ⟨u, hsu, hut⟩ := path_concat_iff.mp hpath
    exact hstep as u a t (ih hsu) hut

/-- Where two conditions on a step agree in every state of an invariant, and the first one keeps
the invariant, they agree on whole runs. The invariant may therefore depend on the condition
under study: it is only asked for in states all of whose predecessors satisfied it. -/
theorem always_congr {Q C : σ → α → σ → Prop} {I : σ → Prop} {s : σ} {as : List α} (hs : I s)
    (hiff : ∀ t a t', I t → step t a t' → (Q t a t' ↔ C t a t'))
    (hstep : ∀ t a t', I t → step t a t' → Q t a t' → I t') :
    Always step Q s as ↔ Always step C s as := by
  induction as generalizing s with
  | nil => simp
  | cons a as ih =>
    simp only [always_cons_iff]
    refine forall_congr' fun t => imp_congr_right fun hst => ?_
    constructor
    · rintro ⟨hq, hrest⟩
      exact ⟨(hiff s a t hs hst).mp hq, (ih (hstep s a t hs hst hq)).mp hrest⟩
    · rintro ⟨hc, hrest⟩
      have hq := (hiff s a t hs hst).mpr hc
      exact ⟨hq, (ih (hstep s a t hs hst hq)).mpr hrest⟩

/-- Where every label is accepted, and a step satisfies `Q` exactly if its label satisfies `C`, a
condition on a run is one on its labels. As in `always_congr`, the invariant is only asked for in
states all of whose predecessors satisfied `Q`. -/
theorem always_label_iff {Q : σ → α → σ → Prop} {C : α → Prop} {I : σ → Prop} {s : σ} {as : List α}
    (hs : I s) (hgo : ∀ t a, I t → ∃ t', step t a t')
    (hiff : ∀ t a t', I t → step t a t' → (Q t a t' ↔ C a))
    (hstep : ∀ t a t', I t → step t a t' → Q t a t' → I t') :
    Always step Q s as ↔ ∀ a ∈ as, C a := by
  induction as generalizing s with
  | nil => simp
  | cons a as ih =>
    rw [always_cons_iff, List.forall_mem_cons]
    constructor
    · intro h
      obtain ⟨t, hst⟩ := hgo s a hs
      obtain ⟨hq, hrest⟩ := h t hst
      exact ⟨(hiff s a t hs hst).mp hq, (ih (hstep s a t hs hst hq)).mp hrest⟩
    · rintro ⟨ha, has⟩ t hst
      have hq := (hiff s a t hs hst).mpr ha
      exact ⟨hq, (ih (hstep s a t hs hst hq)).mpr has⟩

/-- **Projection.** Where a view of the state changes as an abstract machine does, the view after
a run is the abstract machine's state after the same labels. -/
theorem Path.view_eq_foldl {τ : Type*} {view : σ → τ} {next : τ → α → τ}
    (hview : ∀ s a t, step s a t → view t = next (view s) a) {s t : σ} {as : List α}
    (hpath : Path step s as t) : view t = as.foldl next (view s) := by
  induction hpath with
  | nil => rfl
  | cons hst _ ih => rw [ih, hview _ _ _ hst, List.foldl_cons]

/-- **Stuttering.** A view is the same after every part of a run exactly when every step of the run
keeps it. -/
theorem always_view_eq_iff {τ : Type*} {view : σ → τ} {s : σ} {as : List α} :
    Always step (fun t _ u => view u = view t) s as ↔
      ∀ pre u, pre <+: as → Path step s pre u → view u = view s := by
  induction as generalizing s with
  | nil =>
    refine ⟨fun _ pre u hpre hpath => ?_, fun _ => trivial⟩
    obtain rfl := List.prefix_nil.mp hpre
    rw [path_nil_iff.mp hpath]
  | cons a as ih =>
    simp only [always_cons_iff, ih]
    constructor
    · intro h pre u hpre hpath
      cases pre with
      | nil => rw [path_nil_iff.mp hpath]
      | cons b pre =>
        obtain ⟨rfl, hrest⟩ := List.cons_prefix_cons.mp hpre
        obtain ⟨t, hst, htu⟩ := path_cons_iff.mp hpath
        exact ((h t hst).2 pre u hrest htu).trans (h t hst).1
    · intro h t hst
      have hfirst : view t = view s := h [a] t (by simp) (.cons hst (.nil t))
      refine ⟨hfirst, fun pre u hpre htu => ?_⟩
      exact (h (a :: pre) u (by simpa using hpre) (.cons hst htu)).trans hfirst.symm

/-- A sequence of two calls succeeds when both do. -/
theorem bind_eq_ok_iff.{u, v} {ε : Type u} {β γ : Type v} {x : Except ε β}
    {f : β → Except ε γ} {c : γ} : x >>= f = .ok c ↔ ∃ b, x = .ok b ∧ f b = .ok c := by
  cases x <;> simp [bind, Except.bind]

/-- The step relation of a function that may fail: the successful steps. -/
def OkStep {ε : Type*} (f : σ → α → Except ε σ) : σ → α → σ → Prop :=
  fun s a t => f s a = .ok t

theorem path_okStep_iff {ε : Type*} {f : σ → α → Except ε σ} {s t : σ} {as : List α} :
    Path (OkStep f) s as t ↔ as.foldlM f s = .ok t := by
  induction as generalizing s with
  | nil => simp [pure, Except.pure]
  | cons a as ih =>
    rw [path_cons_iff, List.foldlM_cons]
    cases h : f s a with
    | error e => simp [OkStep, h, bind, Except.bind]
    | ok u => simp [OkStep, h, bind, Except.bind, ih]

/-- **Progress.** Where every step from a state of the invariant goes through and keeps it, so does
every run. -/
theorem exists_foldlM_ok {ε : Type*} {f : σ → α → Except ε σ} {I : σ → Prop} {s : σ} {as : List α}
    (hs : I s) (hstep : ∀ t, ∀ a ∈ as, I t → ∃ u, f t a = .ok u ∧ I u) :
    ∃ t, as.foldlM f s = .ok t ∧ I t := by
  induction as generalizing s with
  | nil => exact ⟨s, rfl, hs⟩
  | cons a as ih =>
    obtain ⟨t, ht, hit⟩ := hstep s a List.mem_cons_self hs
    rw [List.foldlM_cons, ht]
    exact ih hit fun u b hb => hstep u b (List.mem_cons_of_mem a hb)

/-! ### Leaving steps out -/

/-- The labels of a run, but for those that satisfy `skip` in the state they meet. -/
def kept {ε : Type*} (f : σ → α → Except ε σ) (skip : σ → α → Prop)
    [∀ s a, Decidable (skip s a)] : σ → List α → List α
  | _, [] => []
  | s, a :: as =>
    match f s a with
    | .ok t => if skip s a then kept f skip t as else a :: kept f skip t as
    | .error _ => a :: as

/-- **Steps that change nothing can be left out.** -/
theorem Path.of_kept {ε : Type*} {f : σ → α → Except ε σ} {skip : σ → α → Prop}
    [∀ s a, Decidable (skip s a)] {s t : σ} {as : List α}
    (h : Always (OkStep f) (fun u a u' => skip u a → u' = u) s as)
    (hpath : Path (OkStep f) s as t) : Path (OkStep f) s (kept f skip s as) t := by
  induction hpath with
  | nil s => exact .nil s
  | @cons s u t a as hstep _ ih =>
    obtain ⟨hsame, hrest⟩ := h u hstep
    rw [kept, show f s a = .ok u from hstep]
    by_cases hskip : skip s a
    · simp only [if_pos hskip]
      have htail := ih hrest
      rwa [hsame hskip] at htail ⊢
    · simp only [if_neg hskip]
      exact .cons hstep (ih hrest)

/-! ### What has happened since -/

/-- Something satisfying `p` occurs in the trace, and nothing satisfying `reset` after it. -/
def Since (p reset : α → Prop) (as : List α) : Prop :=
  ∃ pre a post, as = pre ++ a :: post ∧ p a ∧ ∀ b ∈ post, ¬ reset b

@[simp] theorem not_since_nil (p reset : α → Prop) : ¬ Since p reset [] := by
  rintro ⟨pre, a, post, h, -, -⟩
  simp at h

/-- One more event either happens itself, or it is no reset and leaves the past as it was. -/
theorem since_concat {p reset : α → Prop} {as : List α} {b : α} :
    Since p reset (as ++ [b]) ↔ p b ∨ (¬ reset b ∧ Since p reset as) := by
  constructor
  · rintro ⟨pre, a, post, heq, ha, hpost⟩
    rcases List.eq_nil_or_concat post with rfl | ⟨post, c, rfl⟩
    · obtain ⟨rfl, rfl⟩ : as = pre ∧ b = a := by simpa using List.append_inj' heq rfl
      exact Or.inl ha
    · have heq' : as ++ [b] = (pre ++ a :: post) ++ [c] := by simpa using heq
      obtain ⟨rfl, rfl⟩ : as = pre ++ a :: post ∧ b = c := by
        simpa using List.append_inj' heq' rfl
      exact Or.inr ⟨hpost b (by simp), pre, a, post, rfl, ha, fun d hd => hpost d (by simp [hd])⟩
  · rintro (hb | ⟨hb, pre, a, post, rfl, ha, hpost⟩)
    · exact ⟨as, b, [], rfl, hb, by simp⟩
    · refine ⟨pre, a, post ++ [b], by simp, ha, fun d hd => ?_⟩
      rcases List.mem_append.mp hd with hd | hd
      · exact hpost d hd
      · rwa [List.mem_singleton.mp hd]

/-- **The latch rule.** What some events set and some clear, and others leave as it is, is what it
was last made, or what it was at the start. -/
theorem Path.since_or {bit : σ → Prop} {sets clears : α → Prop} {s t : σ} {as : List α}
    (hpath : Path step s as t)
    (hstep : ∀ u a v, step u a v → (bit v ↔ sets a ∨ ¬ clears a ∧ bit u)) :
    bit t ↔ Since sets clears as ∨ (∀ a ∈ as, ¬ clears a) ∧ bit s := by
  refine hpath.traced_invariant (by simp)
    (I := fun pre u => bit u ↔ Since sets clears pre ∨ (∀ a ∈ pre, ¬ clears a) ∧ bit s) ?_
  intro pre u a v hu huv
  have hall : (∀ b ∈ pre ++ [a], ¬ clears b) ↔ ¬ clears a ∧ ∀ b ∈ pre, ¬ clears b := by
    simp [or_imp, forall_and, and_comm]
  rw [hstep u a v huv, hu, since_concat, hall]
  tauto

end Runs
