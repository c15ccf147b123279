import Mathlib

/-! # Loops that can Fail

    Loops of an imperative program over a state `σ` with errors `ε`:

    * `for` over the first `n` indices, as `List.foldlM` over `List.finRange n`,
      with its invariant rule;
    * `while` with `break`, as a `Loop` whose body returns `.yield s` to go on
      and `.done s` to leave. A loop carries a measure that its body decreases,
      so `Loop.run` is total, and a rule that names an outcome also says that
      the loop returns.

    Each rule packages one induction: total correctness (`Loop.run_rule`), what
    holds whenever the condition is tested (`Loop.Visits.rule`), and the
    lockstep of two loops (`Loop.run_lockstep`). What a run costs is tallied next to
    the state (`Loop.tallied`), which does not change the run.
-/

/-! ### Sequencing -/

@[simp] theorem Except.ok_bind {ε α β : Type} (a : α) (f : α → Except ε β) :
    (Except.ok a >>= f) = f a := rfl

/-- A sequence that succeeds is two steps that succeed. -/
theorem Except.of_bind_ok {ε α β : Type} {x : Except ε α} {f : α → Except ε β} {b : β}
    (h : (x >>= f) = .ok b) : ∃ a, x = .ok a ∧ f a = .ok b := by
  cases x with
  | error e => cases h
  | ok a => exact ⟨a, rfl, h⟩

/-! ### Bounded loops -/

/-- A comprehension whose every element has a value with `P`. -/
theorem List.mapM_some_rule {α β : Type} {f : α → Option β} (P : β → Prop) {xs : List α}
    (h : ∀ x ∈ xs, ∃ y, f x = some y ∧ P y) :
    ∃ ys, xs.mapM f = some ys ∧ ys.length = xs.length ∧ ∀ y ∈ ys, P y := by
  induction xs with
  | nil => exact ⟨[], rfl, rfl, fun _ hmem => absurd hmem List.not_mem_nil⟩
  | cons x xs ih =>
    obtain ⟨y, hy, hP⟩ := h x List.mem_cons_self
    obtain ⟨ys, hys, hlength, hall⟩ := ih fun x' hx' => h x' (List.mem_cons_of_mem x hx')
    refine ⟨y :: ys, ?_, by rw [List.length_cons, List.length_cons, hlength], ?_⟩
    · rw [List.mapM_cons, hy, hys]
      rfl
    · intro z hz
      rcases List.mem_cons.mp hz with rfl | hz
      · exact hP
      · exact hall z hz

/-- A comprehension that has a value has one for every element. -/
theorem List.mapM_some_iff {α β : Type} {f : α → Option β} {xs : List α} {ys : List β} :
    xs.mapM f = some ys ↔ List.Forall₂ (fun x y => f x = some y) xs ys := by
  induction xs generalizing ys with
  | nil => simp [eq_comm]
  | cons x xs ih =>
    rw [List.mapM_cons, Option.bind_eq_bind, Option.bind_eq_some_iff, List.forall₂_cons_left_iff]
    constructor
    · rintro ⟨y, hy, hrest⟩
      obtain ⟨ys', hys', hcons⟩ := Option.bind_eq_some_iff.mp hrest
      exact ⟨y, ys', hy, ih.mp hys', (Option.some.inj hcons).symm⟩
    · rintro ⟨y, ys', hy, hys', rfl⟩
      exact ⟨y, hy, Option.bind_eq_some_iff.mpr ⟨ys', ih.mpr hys', rfl⟩⟩

/-- The order of the elements is the order of the values. -/
theorem List.mapM_perm {α β : Type} {f : α → Option β} {xs xs' : List α} (h : xs.Perm xs') :
    Option.Rel List.Perm (xs.mapM f) (xs'.mapM f) := by
  have hsome : ∀ {zs zs' : List α}, zs.Perm zs' → ∀ {ys}, zs'.mapM f = some ys →
      ∃ ys', zs.mapM f = some ys' ∧ ys'.Perm ys := by
    intro zs zs' hperm ys hys
    obtain ⟨ys', hys', hperm'⟩ := List.perm_comp_forall₂ hperm (List.mapM_some_iff.mp hys)
    exact ⟨ys', List.mapM_some_iff.mpr hys', hperm'⟩
  cases hys : xs'.mapM f with
  | some ys =>
    obtain ⟨ys', hys', hperm⟩ := hsome h hys
    rw [hys']
    exact .some hperm
  | none =>
    cases hys' : xs.mapM f with
    | none => exact .none
    | some ys =>
      -- a value of one list would be a value of the other
      obtain ⟨zs, hzs, -⟩ := hsome h.symm hys'
      rw [hys] at hzs
      cases hzs

/-- Invariant rule of `for i in range(n)`, up to iteration `k`: if iteration `i`
    succeeds from every state with `P i` and establishes `P (i + 1)`, the first
    `k` iterations succeed with `P k`. -/
theorem List.foldlM_take_finRange_rule {ε β : Type} {n : Nat} {f : β → Fin n → Except ε β}
    (P : Nat → β → Prop) {b : β} (hinit : P 0 b)
    (hstep : ∀ (i : Fin n) b, P i b → ∃ b', f b i = .ok b' ∧ P (i + 1) b')
    (k : Nat) (hk : k ≤ n) :
    ∃ b', ((List.finRange n).take k).foldlM f b = .ok b' ∧ P k b' := by
  induction n generalizing b P k with
  | zero =>
    have hk0 : k = 0 := by omega
    subst hk0
    exact ⟨b, rfl, hinit⟩
  | succ n ih =>
    cases k with
    | zero => exact ⟨b, rfl, hinit⟩
    | succ k =>
      obtain ⟨b₁, hb₁, hP₁⟩ := hstep 0 b hinit
      -- the other iterations are a loop over the successors
      have hrest := ih (f := fun b i => f b i.succ) (fun i => P (i + 1)) hP₁
        (fun i b' hb' => hstep i.succ b' hb') k (by omega)
      obtain ⟨b', hb', hP'⟩ := hrest
      refine ⟨b', ?_, hP'⟩
      rw [List.finRange_succ, List.take_succ_cons, List.foldlM_cons, hb₁, Except.ok_bind,
        ← List.map_take, List.foldlM_map]
      exact hb'

/-- The rule for the whole loop. -/
theorem List.foldlM_finRange_rule {ε β : Type} {n : Nat} {f : β → Fin n → Except ε β}
    (P : Nat → β → Prop) {b : β} (hinit : P 0 b)
    (hstep : ∀ (i : Fin n) b, P i b → ∃ b', f b i = .ok b' ∧ P (i + 1) b') :
    ∃ b', (List.finRange n).foldlM f b = .ok b' ∧ P n b' := by
  have hrule := List.foldlM_take_finRange_rule P hinit hstep n (Nat.le_refl n)
  rwa [List.take_of_length_le (by simp)] at hrule

/-! ### While loops -/

/-- `while cond: body`, with a measure that every completed iteration decreases. -/
structure Loop (ε σ : Type) where
  cond : σ → Bool
  body : σ → Except ε (ForInStep σ)
  measure : σ → Nat
  decreases : ∀ {s s'}, cond s → body s = .ok (.yield s') → measure s' < measure s

namespace Loop

variable {ε σ τ : Type} (L : Loop ε σ) (M : Loop ε τ)

def run (s : σ) : Except ε σ :=
  if _hc : L.cond s then
    match _hb : L.body s with
    | .error e => .error e
    | .ok (.done s') => .ok s'
    | .ok (.yield s') => run s'
  else
    .ok s
termination_by L.measure s
decreasing_by exact L.decreases _hc _hb

variable {L M}

theorem run_exit {s : σ} (hc : ¬ L.cond s) : L.run s = .ok s := by
  rw [run, dif_neg hc]

theorem run_done {s s' : σ} (hc : L.cond s) (hb : L.body s = .ok (.done s')) :
    L.run s = .ok s' := by
  rw [run, dif_pos hc]
  split <;> simp_all

theorem run_yield {s s' : σ} (hc : L.cond s) (hb : L.body s = .ok (.yield s')) :
    L.run s = L.run s' := by
  rw [run, dif_pos hc]
  split <;> simp_all

theorem run_error {s : σ} {e : ε} (hc : L.cond s) (hb : L.body s = .error e) :
    L.run s = .error e := by
  rw [run, dif_pos hc]
  split <;> simp_all

/-- What an iteration may end in: `Inv` if the loop goes on, `Post` if it breaks. -/
def StepPost (Inv Post : σ → Prop) : ForInStep σ → Prop
  | .yield s => Inv s
  | .done s => Post s

/-- Total correctness: an invariant under which every iteration succeeds. -/
theorem run_rule (Inv Post : σ → Prop)
    (hbody : ∀ s, Inv s → L.cond s → ∃ r, L.body s = .ok r ∧ StepPost Inv Post r)
    (hexit : ∀ s, Inv s → ¬ L.cond s → Post s) {s : σ} (hs : Inv s) :
    ∃ s', L.run s = .ok s' ∧ Post s' := by
  -- by induction on the measure, which an iteration that goes on decreases
  induction hμ : L.measure s using Nat.strong_induction_on generalizing s with
  | _ μ ih =>
    by_cases hc : L.cond s
    · obtain ⟨r, hb, hr⟩ := hbody s hs hc
      cases r with
      | done s' => exact ⟨s', run_done hc hb, hr⟩
      | yield s' =>
        rw [run_yield hc hb]
        exact ih (L.measure s') (hμ ▸ L.decreases hc hb) hr rfl
    · exact ⟨s, run_exit hc, hexit s hs hc⟩

/-- The states in which the loop condition is tested, from a start state on. -/
inductive Visits (L : Loop ε σ) (s : σ) : σ → Prop
  | start : Visits L s s
  | next {s₁ s₂ : σ} : Visits L s s₁ → L.cond s₁ → L.body s₁ = .ok (.yield s₂) → Visits L s s₂

/-- What holds at the start and is kept by every completed iteration holds
    whenever the condition is tested. -/
theorem Visits.rule {s₀ : σ} (Inv : σ → Prop) (hinit : Inv s₀)
    (hbody : ∀ s s', Inv s → L.cond s → L.body s = .ok (.yield s') → Inv s')
    {s : σ} (hs : L.Visits s₀ s) : Inv s := by
  induction hs with
  | start => exact hinit
  | next _ hc hb ih => exact hbody _ _ ih hc hb

/-- Two iterations with related ends: `R` if both go on, `Q` if both break. -/
def StepRel (R Q : σ → τ → Prop) : ForInStep σ → ForInStep τ → Prop
  | .yield s, .yield t => R s t
  | .done s, .done t => Q s t
  | _, _ => False

/-- Two loops whose iterations succeed together and stay related. -/
theorem run_lockstep (R Q : σ → τ → Prop) (hcond : ∀ s t, R s t → L.cond s = M.cond t)
    (hbody : ∀ s t, R s t → L.cond s →
      ∃ r r', L.body s = .ok r ∧ M.body t = .ok r' ∧ StepRel R Q r r')
    (hexit : ∀ s t, R s t → ¬ L.cond s → Q s t) {s : σ} {t : τ} (hst : R s t) :
    ∃ s' t', L.run s = .ok s' ∧ M.run t = .ok t' ∧ Q s' t' := by
  -- the measure of one loop is enough, as the other takes the same iterations
  induction hμ : L.measure s using Nat.strong_induction_on generalizing s t with
  | _ μ ih =>
    by_cases hc : L.cond s
    · have hc' : M.cond t := hcond s t hst ▸ hc
      obtain ⟨r, r', hb, hb', hr⟩ := hbody s t hst hc
      match r, r', hr with
      | .done s', .done t', hr => exact ⟨s', t', run_done hc hb, run_done hc' hb', hr⟩
      | .yield s', .yield t', hr =>
        rw [run_yield hc hb, run_yield hc' hb']
        exact ih (L.measure s') (hμ ▸ L.decreases hc hb) hr rfl
    · have hc' : ¬ M.cond t := hcond s t hst ▸ hc
      exact ⟨s, t, run_exit hc, run_exit hc', hexit s t hst hc⟩

/-- The state inside the end of an iteration. -/
def map_step (f : σ → τ) : ForInStep σ → ForInStep τ
  | .yield s => .yield (f s)
  | .done s => .done (f s)

/-- A loop whose iterations are those of another loop with some of the state left
    out, errors included. -/
theorem run_map (f : σ → τ) (hcond : ∀ s, M.cond (f s) = L.cond s)
    (hbody : ∀ s, M.body (f s) = (L.body s).map (map_step f)) (s : σ) :
    M.run (f s) = (L.run s).map f := by
  induction hμ : L.measure s using Nat.strong_induction_on generalizing s with
  | _ μ ih =>
    have hb' := hbody s
    by_cases hc : L.cond s
    · have hc' : M.cond (f s) := (hcond s).trans hc
      cases hb : L.body s with
      | error e =>
        rw [hb] at hb'
        rw [run_error hc hb, run_error hc' hb']
        rfl
      | ok r =>
        rw [hb] at hb'
        cases r with
        | done s' =>
          rw [run_done hc hb, run_done hc' hb']
          rfl
        | yield s' =>
          rw [run_yield hc hb, run_yield hc' hb']
          exact ih (L.measure s') (hμ ▸ L.decreases hc hb) s' rfl
    · have hc' : ¬ M.cond (f s) := by
        rw [hcond s]
        exact hc
      rw [run_exit hc, run_exit hc']
      rfl

/-- The loop with a tally next to its state, which every iteration changes by the state
    that it starts from. -/
def tallied {γ : Type} (L : Loop ε σ) (charge : σ → γ → γ) : Loop ε (σ × γ) where
  cond s := L.cond s.1
  body s := (L.body s.1).map (map_step fun s' => (s', charge s.1 s.2))
  measure s := L.measure s.1
  decreases := by
    intro s s' hc hb
    cases hbody : L.body s.1 with
    | error e =>
      rw [hbody] at hb
      cases hb
    | ok r =>
      rw [hbody] at hb
      cases r with
      | done t => cases hb
      | yield t =>
        cases hb
        exact L.decreases hc hbody

/-- The tally has no part in the run. -/
theorem run_tallied {γ : Type} (charge : σ → γ → γ) (s : σ) (c : γ) :
    ((L.tallied charge).run (s, c)).map Prod.fst = L.run s := by
  refine (run_map Prod.fst (fun _ => rfl) ?_ (s, c)).symm
  intro s
  show L.body s.1 = ((L.body s.1).map _).map _
  cases L.body s.1 with
  | error e => rfl
  | ok r => cases r <;> rfl

end Loop
