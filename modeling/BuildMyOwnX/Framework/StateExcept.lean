import Mathlib

/-! # Stateful Computations that can Raise

    `StateExcept ε σ`: computations on a state `σ` that may raise an `ε`. The
    state is kept when they do, so what happened before the exception is not
    lost. `run` gives the outcome from a state, and its equations for the
    monad operations turn a computation into a case split.

    Two computations are `Related` if from every state they raise the same or
    return related values, and leave the same state. The rules follow the
    structure of the two computations, which have to have the same shape. A
    `Steady` computation neither reads the state nor changes it.
-/

abbrev StateExcept (ε σ : Type) : Type → Type := ExceptT ε (StateM σ)

namespace StateExcept

variable {ε σ α β : Type}

/-- The outcome and the final state. -/
def run (x : StateExcept ε σ α) (s : σ) : Except ε α × σ := (ExceptT.run x).run s

@[simp] theorem run_pure (a : α) (s : σ) : run (pure a : StateExcept ε σ α) s = (.ok a, s) := rfl

/-- An outcome computed without the state. -/
@[simp] theorem run_lift (e : Except ε α) (s : σ) :
    run (liftM e : StateExcept ε σ α) s = (e, s) := by
  cases e <;> rfl

/-- A value at hand is passed on. -/
theorem lift_ok_bind (a : α) (f : α → StateExcept ε σ β) :
    ((liftM (.ok a : Except ε α) : StateExcept ε σ α) >>= f) = f a := rfl

theorem run_bind (x : StateExcept ε σ α) (f : α → StateExcept ε σ β) (s : σ) :
    run (x >>= f) s =
      match run x s with
      | (.ok a, s') => run (f a) s'
      | (.error e, s') => (.error e, s') := by
  unfold run
  rw [ExceptT.run_bind, StateT.run_bind]
  rcases hx : (ExceptT.run x).run s with ⟨r, s'⟩
  cases r with
  | ok a => rfl
  | error e => rfl

/-- A sequence that returns is two computations that return. -/
theorem bind_ok {x : StateExcept ε σ α} {f : α → StateExcept ε σ β} {s s' : σ} {b : β}
    (h : run (x >>= f) s = (.ok b, s')) :
    ∃ a s₁, run x s = (.ok a, s₁) ∧ run (f a) s₁ = (.ok b, s') := by
  rw [run_bind] at h
  match hx : run x s with
  | (.ok a, s₁) =>
    rw [hx] at h
    exact ⟨a, s₁, rfl, h⟩
  | (.error e, s₁) =>
    rw [hx] at h
    cases h

/-- A computation that returns goes on. -/
theorem run_bind_ok {x : StateExcept ε σ α} {s s₁ : σ} {a : α} (hx : run x s = (.ok a, s₁))
    (f : α → StateExcept ε σ β) : run (x >>= f) s = run (f a) s₁ := by
  rw [run_bind, hx]

/-- Computing a result from another leaves the state alone. -/
theorem run_bind_pure_state (x : StateExcept ε σ α) (g : α → β) (s : σ) :
    (run (x >>= fun a => pure (g a)) s).2 = (run x s).2 := by
  rw [run_bind]
  match run x s with
  | (.ok a, s') => rfl
  | (.error e, s') => rfl

/-- Invariant rule of `for x in xs`, for the runs that return. -/
theorem foldlM_rule {f : β → α → StateExcept ε σ β} (P : β → Prop) {b b' : β} {s s' : σ}
    {xs : List α} (h : run (xs.foldlM f b) s = (.ok b', s')) (hinit : P b)
    (hstep : ∀ b x s b' s', P b → run (f b x) s = (.ok b', s') → P b') : P b' := by
  induction xs generalizing b s with
  | nil =>
    rw [List.foldlM_nil, run_pure] at h
    cases h
    exact hinit
  | cons x xs ih =>
    rw [List.foldlM_cons] at h
    obtain ⟨b₁, s₁, hx, hxs⟩ := bind_ok h
    exact ih hxs (hstep b x s b₁ s₁ hinit hx)

/-- A loop that collects one result for each element. -/
theorem mapM_length {f : α → StateExcept ε σ β} {xs : List α} {ys : List β} {s s' : σ}
    (h : run (xs.mapM f) s = (.ok ys, s')) : ys.length = xs.length := by
  induction xs generalizing ys s with
  | nil =>
    rw [List.mapM_nil, run_pure] at h
    cases h
    rfl
  | cons x xs ih =>
    rw [List.mapM_cons] at h
    obtain ⟨y, s₁, -, hrest⟩ := bind_ok h
    obtain ⟨ys, s₂, hxs, hpure⟩ := bind_ok hrest
    rw [run_pure] at hpure
    cases hpure
    rw [List.length_cons, List.length_cons, ih hxs]

/-! ### What is raised -/

/-- Whatever is raised has the property. -/
def OnlyRaises (P : ε → Prop) (x : StateExcept ε σ α) : Prop :=
  ∀ s e s', run x s = (.error e, s') → P e

section raised

variable {P : ε → Prop}

theorem OnlyRaises.pure (a : α) : OnlyRaises P (pure a : StateExcept ε σ α) := by
  intro s e s' h
  rw [run_pure] at h
  cases h

theorem OnlyRaises.bind {x : StateExcept ε σ α} {f : α → StateExcept ε σ β}
    (hx : OnlyRaises P x) (hf : ∀ a, OnlyRaises P (f a)) : OnlyRaises P (x >>= f) := by
  intro s e s' h
  rw [run_bind] at h
  match hrun : run x s with
  | (.ok a, s₁) =>
    rw [hrun] at h
    exact hf a s₁ e s' h
  | (.error e', s₁) =>
    rw [hrun] at h
    cases h
    exact hx s e _ hrun

theorem OnlyRaises.foldlM {f : β → α → StateExcept ε σ β} (hf : ∀ b x, OnlyRaises P (f b x))
    (xs : List α) (b : β) : OnlyRaises P (xs.foldlM f b) := by
  induction xs generalizing b with
  | nil => exact .pure b
  | cons x xs ih =>
    rw [List.foldlM_cons]
    exact (hf b x).bind ih

end raised

/-! ### Computations without a state -/

/-- The same outcome from every state, which stays. -/
def Steady (x : StateExcept ε σ α) : Prop := ∃ r, ∀ s, run x s = (r, s)

section steady

theorem Steady.pure (a : α) : Steady (pure a : StateExcept ε σ α) := ⟨.ok a, fun _ => rfl⟩

theorem Steady.lift (e : Except ε α) : Steady (liftM e : StateExcept ε σ α) := ⟨e, run_lift e⟩

theorem Steady.bind {x : StateExcept ε σ α} {f : α → StateExcept ε σ β} (hx : Steady x)
    (hf : ∀ a, Steady (f a)) : Steady (x >>= f) := by
  obtain ⟨r, hr⟩ := hx
  cases r with
  | ok a =>
    obtain ⟨r, hfa⟩ := hf a
    exact ⟨r, fun s => by rw [run_bind_ok (hr s), hfa]⟩
  | error e => exact ⟨.error e, fun s => by rw [run_bind, hr]⟩

/-- What is computed without the state returns or raises at once. -/
theorem Steady.lift_bind {e : Except ε α} {f : α → StateExcept ε σ β}
    (hf : ∀ a, e = .ok a → Steady (f a)) : Steady (liftM e >>= f) := by
  cases e with
  | ok a => exact hf a rfl
  | error raised => exact ⟨.error raised, fun _ => rfl⟩

theorem Steady.map {x : StateExcept ε σ α} (hx : Steady x) (f : α → β) : Steady (f <$> x) := by
  rw [map_eq_pure_bind]
  exact hx.bind fun a => .pure (f a)

theorem Steady.foldlM {f : β → α → StateExcept ε σ β} (hf : ∀ b x, Steady (f b x))
    (xs : List α) (b : β) : Steady (xs.foldlM f b) := by
  induction xs generalizing b with
  | nil => exact .pure b
  | cons x xs ih =>
    rw [List.foldlM_cons]
    exact (hf b x).bind ih

end steady

/-! ### Related computations -/

section related

variable {α' β' : Type} {R : α → α' → Prop} {S : β → β' → Prop}

/-- The same exception, or related values. -/
def SameOutcome (R : α → α' → Prop) : Except ε α → Except ε α' → Prop
  | .ok a, .ok a' => R a a'
  | .error e, .error e' => e = e'
  | _, _ => False

theorem SameOutcome.mono {R' : α → α' → Prop} (hR : ∀ a a', R a a' → R' a a') {e : Except ε α}
    {e' : Except ε α'} (h : SameOutcome R e e') : SameOutcome R' e e' := by
  cases e <;> cases e'
  case ok.ok a a' => exact hR a a' h
  case error.error => exact h
  case ok.error => exact h.elim
  case error.ok => exact h.elim

/-- Values computed from the two values are compared by comparing these. -/
theorem SameOutcome.map_iff {f : α → β} {g : α' → β'} {e : Except ε α} {e' : Except ε α'} :
    SameOutcome S (e.map f) (e'.map g) ↔ SameOutcome (fun a a' => S (f a) (g a')) e e' := by
  cases e <;> cases e' <;> exact Iff.rfl

def Related (R : α → α' → Prop) (x : StateExcept ε σ α) (y : StateExcept ε σ α') : Prop :=
  ∀ s, SameOutcome R (run x s).1 (run y s).1 ∧ (run x s).2 = (run y s).2

theorem Related.pure {a : α} {a' : α'} (h : R a a') :
    Related R (pure a : StateExcept ε σ α) (pure a') :=
  fun _ => ⟨h, rfl⟩

/-- Outcomes computed without the state. -/
theorem Related.lift {e : Except ε α} {e' : Except ε α'} (h : SameOutcome R e e') :
    Related R (liftM e : StateExcept ε σ α) (liftM e') := by
  intro s
  rw [run_lift, run_lift]
  exact ⟨h, rfl⟩

theorem Related.bind {x : StateExcept ε σ α} {y : StateExcept ε σ α'}
    {f : α → StateExcept ε σ β} {g : α' → StateExcept ε σ β'} (hxy : Related R x y)
    (hfg : ∀ a a', R a a' → Related S (f a) (g a')) : Related S (x >>= f) (y >>= g) := by
  intro s
  have hs := hxy s
  rw [run_bind, run_bind]
  match hx : run x s, hy : run y s with
  | (.ok a, s₁), (.ok a', s₂) =>
    rw [hx, hy] at hs
    obtain ⟨ha, hstate⟩ := hs
    cases hstate
    exact hfg a a' ha s₁
  | (.error e, s₁), (.error e', s₂) =>
    rw [hx, hy] at hs
    exact hs
  | (.ok a, s₁), (.error e', s₂) =>
    rw [hx, hy] at hs
    exact hs.1.elim
  | (.error e, s₁), (.ok a', s₂) =>
    rw [hx, hy] at hs
    exact hs.1.elim

/-- Results computed from related results. -/
theorem Related.map {x : StateExcept ε σ α} {y : StateExcept ε σ α'} {f : α → β} {g : α' → β'}
    (hxy : Related R x y) (hfg : ∀ a a', R a a' → S (f a) (g a')) :
    Related S (f <$> x) (g <$> y) := by
  rw [map_eq_pure_bind, map_eq_pure_bind]
  exact hxy.bind fun a a' h => .pure (hfg a a' h)

/-- Two loops over the same list. -/
theorem Related.foldlM {γ : Type} {f : α → γ → StateExcept ε σ α} {g : α' → γ → StateExcept ε σ α'}
    (hfg : ∀ a a' x, R a a' → Related R (f a x) (g a' x)) (xs : List γ) {a : α} {a' : α'}
    (h : R a a') : Related R (xs.foldlM f a) (xs.foldlM g a') := by
  induction xs generalizing a a' with
  | nil => exact .pure h
  | cons x xs ih =>
    rw [List.foldlM_cons, List.foldlM_cons]
    exact (hfg a a' x h).bind fun b b' hb => ih hb

theorem SameOutcome.refl (e : Except ε α) : SameOutcome Eq e e := by
  cases e <;> exact rfl

end related

end StateExcept
