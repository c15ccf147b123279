import Mathlib

/-! # Logarithms of Sums of Exponentials on the Simplex

    The function `log (∑ exp (p k)) - p y` for a vector `p` of positive numbers
    whose sum is one. It takes its values in an open interval of length one,
    whose ends depend on the number of entries only (`window`): `p y` is all but
    one at the lower end, and all but zero at the upper one.
-/

namespace Simplex

variable {ι : Type} [Fintype ι]

/-- A probability vector without a zero. -/
structure Positive (p : ι → ℝ) : Prop where
  pos : ∀ k, 0 < p k
  sum_eq : ∑ k, p k = 1

theorem Positive.le_one {p : ι → ℝ} (h : Positive p) (k : ι) : p k ≤ 1 := by
  rw [← h.sum_eq]
  exact Finset.single_le_sum (fun j _ => (h.pos j).le) (Finset.mem_univ k)

/-- Exponentials, divided by their sum. -/
theorem positive_normalized [Nonempty ι] (x : ι → ℝ) :
    Positive fun j => Real.exp (x j) / ∑ k, Real.exp (x k) := by
  have hsum : 0 < ∑ k, Real.exp (x k) :=
    Finset.sum_pos (fun k _ => Real.exp_pos (x k)) Finset.univ_nonempty
  constructor
  · intro k
    exact div_pos (Real.exp_pos (x k)) hsum
  · rw [← Finset.sum_div, div_self hsum.ne']

/-- The chord of `exp` between 0 and 1. -/
theorem exp_le_chord {x : ℝ} (h0 : 0 ≤ x) (h1 : x ≤ 1) :
    Real.exp x ≤ 1 + (Real.exp 1 - 1) * x := by
  have hconvex := convexOn_exp.2 (Set.mem_univ 0) (Set.mem_univ 1) (sub_nonneg.mpr h1) h0
    (sub_add_cancel 1 x)
  simp only [smul_eq_mul, mul_zero, mul_one, zero_add, Real.exp_zero] at hconvex
  linarith

/-- The upper end of the window for `n` entries. -/
noncomputable def ceiling (n : ℕ) : ℝ := Real.log (Real.exp 1 + (n - 1))

/-- The sum of exponentials is largest at the corners. -/
theorem sum_exp_le {p : ι → ℝ} (h : Positive p) :
    ∑ k, Real.exp (p k) ≤ Real.exp 1 + (Fintype.card ι - 1) := by
  calc ∑ k, Real.exp (p k)
      ≤ ∑ k, (1 + (Real.exp 1 - 1) * p k) :=
        Finset.sum_le_sum fun k _ => exp_le_chord (h.pos k).le (h.le_one k)
    _ = Fintype.card ι + (Real.exp 1 - 1) * ∑ k, p k := by
        rw [Finset.sum_add_distrib, ← Finset.mul_sum]
        simp
    _ = Real.exp 1 + (Fintype.card ι - 1) := by
        rw [h.sum_eq]
        ring

/-- Every other entry is more than `p y - 1`. -/
theorem lt_sum_exp [Nontrivial ι] {p : ι → ℝ} (h : Positive p) (y : ι) :
    Real.exp (p y - 1) * (Real.exp 1 + (Fintype.card ι - 1)) < ∑ k, Real.exp (p k) := by
  classical
  obtain ⟨j, hj⟩ := exists_ne y
  have hothers : ∑ k ∈ Finset.univ.erase y, Real.exp (p y - 1) <
      ∑ k ∈ Finset.univ.erase y, Real.exp (p k) := by
    apply Finset.sum_lt_sum_of_nonempty ⟨j, Finset.mem_erase.mpr ⟨hj, Finset.mem_univ j⟩⟩
    intro k _
    exact Real.exp_lt_exp.mpr (by linarith [h.le_one y, h.pos k])
  have hcard : ((Finset.univ.erase y).card : ℝ) = Fintype.card ι - 1 := by
    rw [Finset.card_erase_of_mem (Finset.mem_univ y), Finset.card_univ,
      Nat.cast_sub Fintype.card_pos, Nat.cast_one]
  rw [Finset.sum_const, nsmul_eq_mul, hcard] at hothers
  rw [← Finset.add_sum_erase _ _ (Finset.mem_univ y)]
  have hown : Real.exp (p y - 1) * Real.exp 1 = Real.exp (p y) := by
    rw [← Real.exp_add, sub_add_cancel]
  linarith

/-- **The window** of the function: an interval of length one. -/
theorem window [Nontrivial ι] {p : ι → ℝ} (h : Positive p) (y : ι) :
    Real.log (∑ k, Real.exp (p k)) - p y ∈
      Set.Ioo (ceiling (Fintype.card ι) - 1) (ceiling (Fintype.card ι)) := by
  have hpos : 0 < Real.exp 1 + ((Fintype.card ι : ℝ) - 1) := by
    have hone : (1 : ℝ) ≤ Fintype.card ι := by exact_mod_cast Fintype.card_pos
    linarith [Real.exp_pos 1]
  have hsum : 0 < ∑ k, Real.exp (p k) :=
    Finset.sum_pos (fun k _ => Real.exp_pos (p k)) ⟨y, Finset.mem_univ y⟩
  constructor
  · have hlog := Real.log_lt_log (mul_pos (Real.exp_pos _) hpos) (lt_sum_exp h y)
    rw [Real.log_mul (Real.exp_pos _).ne' hpos.ne', Real.log_exp] at hlog
    unfold ceiling
    linarith
  · have hlog := Real.log_le_log hsum (sum_exp_le h)
    unfold ceiling
    linarith [h.pos y]

/-- The mean of numbers in an interval is in it. -/
theorem mean_mem_Ioo {a b : ℝ} {xs : List ℝ} (hne : xs ≠ []) (h : ∀ x ∈ xs, x ∈ Set.Ioo a b) :
    xs.sum / xs.length ∈ Set.Ioo a b := by
  have hlength : (0 : ℝ) < xs.length := by exact_mod_cast List.length_pos_iff.mpr hne
  have hbounds : ∀ ys : List ℝ, ys ≠ [] → (∀ x ∈ ys, x ∈ Set.Ioo a b) →
      a * ys.length < ys.sum ∧ ys.sum < b * ys.length := by
    intro ys hys hmem
    induction ys with
    | nil => exact absurd rfl hys
    | cons y ys ih =>
      have hy := hmem y List.mem_cons_self
      rw [List.sum_cons, List.length_cons, Nat.cast_succ]
      rcases eq_or_ne ys [] with rfl | hrest
      · simpa using hy
      · obtain ⟨hlow, hhigh⟩ := ih hrest fun x hx => hmem x (List.mem_cons_of_mem y hx)
        constructor
        · linarith [hy.1]
        · linarith [hy.2]
  obtain ⟨hlow, hhigh⟩ := hbounds xs hne h
  exact ⟨(lt_div_iff₀ hlength).mpr hlow, (div_lt_iff₀ hlength).mpr hhigh⟩

end Simplex
