import Mathlib

/-! # Clocked Machines

    A machine is a function `step` from the state in a cycle and the inputs of
    the cycle to the state after its clock edge. `run` iterates it over a
    stream of inputs; `Reachable` forgets the stream.

    Rules: what every step keeps holds along runs, and between the runs of two
    machines what every pair of their steps keeps. A machine whose steps agree
    with those of another along its run has the same run, and a part of a
    machine runs as a machine of its own. A run goes on from where a part of it
    ends, and so does its `trace` (`run_add`, `trace_add`); `joined` puts the
    inputs of two parts together. What a machine with finitely many states and no
    inputs reaches, it reaches soon (`iterate_reaches_lt_card`).
-/

namespace Clocked

variable {σ τ ι κ : Type}

/-- The state at the beginning of cycle `n`. -/
def run (step : σ → ι → σ) (s : σ) (inputs : Nat → ι) : Nat → σ
  | 0 => s
  | n + 1 => step (run step s inputs n) (inputs n)

/-- The states that allowed inputs lead to. -/
inductive Reachable (step : σ → ι → σ) (init : σ → Prop) (allowed : ι → Prop) : σ → Prop
  | init {s : σ} : init s → Reachable step init allowed s
  | step {s : σ} {i : ι} : Reachable step init allowed s → allowed i →
      Reachable step init allowed (step s i)

theorem run_succ (step : σ → ι → σ) (s : σ) (inputs : Nat → ι) (n : Nat) :
    run step s inputs (n + 1) = step (run step s inputs n) (inputs n) := rfl

/-- What every step of a run keeps holds along it. -/
theorem run_rule {step : σ → ι → σ} {inputs : Nat → ι} (Inv : σ → Prop) {s : σ} (hs : Inv s)
    (hstep : ∀ t n, Inv t → Inv (step t (inputs n))) (n : Nat) : Inv (run step s inputs n) := by
  induction n with
  | zero => exact hs
  | succ n ih => exact hstep _ n ih

/-- What every pair of steps of two machines keeps holds between their runs. -/
theorem run_related {step : σ → ι → σ} {step' : τ → κ → τ} {inputs : Nat → ι}
    {inputs' : Nat → κ} (R : σ → τ → Prop) {s : σ} {t : τ} (hst : R s t)
    (hstep : ∀ u v n, R u v → R (step u (inputs n)) (step' v (inputs' n))) (n : Nat) :
    R (run step s inputs n) (run step' t inputs' n) := by
  induction n with
  | zero => exact hst
  | succ n ih => exact hstep _ _ n ih

/-- The states along a run with allowed inputs are reachable. -/
theorem reachable_run {step : σ → ι → σ} {init : σ → Prop} {allowed : ι → Prop} {s : σ}
    (hs : init s) {inputs : Nat → ι} (hinputs : ∀ n, allowed (inputs n)) (n : Nat) :
    Reachable step init allowed (run step s inputs n) := by
  induction n with
  | zero => exact .init hs
  | succ n ih => exact .step ih (hinputs n)

/-- Machines that agree along the run of one of them, up to a cycle. -/
theorem run_eq_run {step : σ → ι → σ} {step' : σ → κ → σ} {inputs : Nat → ι}
    {inputs' : Nat → κ} {s : σ} (n : Nat)
    (h : ∀ k < n, step' (run step s inputs k) (inputs' k) =
      step (run step s inputs k) (inputs k)) :
    run step' s inputs' n = run step s inputs n := by
  induction n with
  | zero => rfl
  | succ n ih =>
    have hn := ih (fun k hk => h k (Nat.lt_succ_of_lt hk))
    rw [run_succ, run_succ, hn]
    exact h n (Nat.lt_succ_self n)

/-- A part of a machine that steps as another machine, on inputs that the rest provides. -/
theorem run_map {step : σ → ι → σ} {step' : τ → κ → τ} (f : σ → τ) (g : σ → ι → κ)
    (h : ∀ s i, f (step s i) = step' (f s) (g s i)) (s : σ) (inputs : Nat → ι) (n : Nat) :
    f (run step s inputs n) =
      run step' (f s) (fun k => g (run step s inputs k) (inputs k)) n := by
  induction n with
  | zero => rfl
  | succ n ih =>
    rw [run_succ, run_succ, h, ih]

/-- A run goes on from its state in cycle `m`. -/
theorem run_add (step : σ → ι → σ) (s : σ) (inputs : Nat → ι) (m n : Nat) :
    run step s inputs (m + n) = run step (run step s inputs m) (fun k => inputs (m + k)) n := by
  induction n with
  | zero => rfl
  | succ n ih =>
    rw [← Nat.add_assoc, run_succ, run_succ, ih]

/-- The states and the inputs of the first `n` cycles. -/
def trace (step : σ → ι → σ) (s : σ) (inputs : Nat → ι) (n : Nat) : List (σ × ι) :=
  (List.range n).map fun k => (run step s inputs k, inputs k)

theorem trace_add (step : σ → ι → σ) (s : σ) (inputs : Nat → ι) (m n : Nat) :
    trace step s inputs (m + n) =
      trace step s inputs m ++
        trace step (run step s inputs m) (fun k => inputs (m + k)) n := by
  unfold trace
  rw [List.range_add, List.map_append, List.map_map]
  congr 1
  apply List.map_congr_left
  intro k _
  show (run step s inputs (m + k), inputs (m + k)) = _
  rw [run_add]

/-- The inputs of `n` cycles and those after them, as one stream. -/
def joined (n : Nat) (inputs rest : Nat → ι) (k : Nat) : ι :=
  if k < n then inputs k else rest (k - n)

theorem joined_lt {n k : Nat} (inputs rest : Nat → ι) (hk : k < n) :
    joined n inputs rest k = inputs k := if_pos hk

theorem joined_add (n : Nat) (inputs rest : Nat → ι) (k : Nat) :
    joined n inputs rest (n + k) = rest k := by
  have hk : ¬ n + k < n := by omega
  rw [joined, if_neg hk, Nat.add_sub_cancel_left]

/-- Iterates that go round can be left out. -/
theorem iterate_shortcut {α : Type} {f : α → α} {a : α} {i j k : Nat} (hj : j ≤ k)
    (h : f^[i] a = f^[j] a) : f^[k - j + i] a = f^[k] a := by
  rw [Function.iterate_add_apply, h, ← Function.iterate_add_apply, Nat.sub_add_cancel hj]

/-- What the iterates of a function on a finite type reach, they reach before they
    have gone through all of its values. -/
theorem iterate_reaches_lt_card {α : Type} [Fintype α] {f : α → α} {a : α} {p : α → Prop}
    (h : ∃ k, p (f^[k] a)) : ∃ k < Fintype.card α, p (f^[k] a) := by
  classical
  refine ⟨Nat.find h, ?_, Nat.find_spec h⟩
  by_contra hlong
  obtain ⟨i, hi, j, hj, hne, hij⟩ := Finset.exists_ne_map_eq_of_card_lt_of_maps_to
    (s := Finset.range (Nat.find h + 1)) (t := Finset.univ) (f := fun k => f^[k] a)
    (by rw [Finset.card_range, Finset.card_univ]; omega) (fun k _ => Finset.mem_univ _)
  have hi' := Finset.mem_range.mp hi
  have hj' := Finset.mem_range.mp hj
  -- two iterates up to the first hit are the same, so there is an earlier one
  rcases Nat.lt_or_gt_of_ne hne with hlt | hlt
  · refine Nat.find_min h (m := Nat.find h - j + i) (by omega) ?_
    rw [iterate_shortcut (by omega) hij]
    exact Nat.find_spec h
  · refine Nat.find_min h (m := Nat.find h - i + j) (by omega) ?_
    rw [iterate_shortcut (by omega) hij.symm]
    exact Nat.find_spec h

end Clocked
