import Mathlib

/-! # Interleaved Processes

    Processes that each have a state of their own, and one state that they
    share. In its turn a process changes its own state and the shared one; a
    schedule is the list of the processes whose turn it is.

    Rules: what every turn of a process keeps, whatever the shared state is,
    holds of it under every schedule (`run_rule`), and processes that are
    related to others turn by turn stay so under every schedule
    (`run_lockstep`). A process that gets nearer to its end in each of its turns
    is there after enough of them, whoever else is scheduled (`run_turns`). A
    server that does one thing after another is one of the schedules
    (`run_serial`).
-/

namespace Interleave

variable {ι : Type} {L M : ι → Type} {σ : Type}

/-- The states of the processes and the state they share. -/
structure Config (L : ι → Type) (σ : Type) where
  locals : ∀ i, L i
  shared : σ

variable [DecidableEq ι]

/-- The turn of process `i`. -/
def turn (act : ∀ i, L i → σ → L i × σ) (c : Config L σ) (i : ι) : Config L σ where
  locals := Function.update c.locals i (act i (c.locals i) c.shared).1
  shared := (act i (c.locals i) c.shared).2

def run (act : ∀ i, L i → σ → L i × σ) (c : Config L σ) (schedule : List ι) : Config L σ :=
  schedule.foldl (turn act) c

variable {act : ∀ i, L i → σ → L i × σ} {act' : ∀ i, M i → σ → M i × σ} {c : Config L σ}

theorem run_cons (i : ι) (schedule : List ι) :
    run act c (i :: schedule) = run act (turn act c i) schedule := rfl

theorem turn_self (c : Config L σ) (i : ι) :
    (turn act c i).locals i = (act i (c.locals i) c.shared).1 :=
  Function.update_self ..

theorem turn_other (c : Config L σ) {i j : ι} (h : j ≠ i) :
    (turn act c i).locals j = c.locals j :=
  Function.update_of_ne h ..

/-- An invariant of the processes and the shared state. -/
theorem run_config_rule (Inv : Config L σ → Prop) (hc : Inv c)
    (hturn : ∀ c i, Inv c → Inv (turn act c i)) (schedule : List ι) :
    Inv (run act c schedule) := by
  induction schedule generalizing c with
  | nil => exact hc
  | cons i schedule ih => exact ih (hturn c i hc)

/-- What every turn of a process keeps holds of it under every schedule. -/
theorem run_rule (Inv : ∀ i, L i → Prop) (hc : ∀ i, Inv i (c.locals i))
    (hact : ∀ i l s, Inv i l → Inv i (act i l s).1) (schedule : List ι) :
    ∀ i, Inv i ((run act c schedule).locals i) := by
  refine run_config_rule (fun c => ∀ i, Inv i (c.locals i)) hc ?_ schedule
  intro c i hinv j
  by_cases hj : j = i
  · subst hj
    rw [turn_self]
    exact hact j _ _ (hinv j)
  · rw [turn_other c hj]
    exact hinv j

/-- Processes related turn by turn share the same state under every schedule. -/
theorem run_lockstep {d : Config M σ} (R : ∀ i, L i → M i → Prop)
    (hc : ∀ i, R i (c.locals i) (d.locals i)) (hshared : c.shared = d.shared)
    (hact : ∀ i l m s, R i l m →
      R i (act i l s).1 (act' i m s).1 ∧ (act i l s).2 = (act' i m s).2)
    (schedule : List ι) :
    (∀ i, R i ((run act c schedule).locals i) ((run act' d schedule).locals i)) ∧
      (run act c schedule).shared = (run act' d schedule).shared := by
  induction schedule generalizing c d with
  | nil => exact ⟨hc, hshared⟩
  | cons i schedule ih =>
    -- both take the turn of `i` on the same shared state
    have hi := hact i _ _ c.shared (hc i)
    rw [run_cons, run_cons]
    apply ih
    · intro j
      by_cases hj : j = i
      · subst hj
        rw [turn_self, turn_self, ← hshared]
        exact hi.1
      · rw [turn_other c hj, turn_other d hj]
        exact hc j
    · show (act i _ c.shared).2 = (act' i _ d.shared).2
      rw [← hshared]
      exact hi.2

/-- A measure that goes down in each turn of a process is down by the number of its
    turns. -/
theorem run_turns (μ : ∀ i, L i → Nat) (hact : ∀ i l s, μ i (act i l s).1 ≤ μ i l - 1)
    (schedule : List ι) (i : ι) :
    μ i ((run act c schedule).locals i) ≤ μ i (c.locals i) - schedule.count i := by
  induction schedule generalizing c with
  | nil => exact Nat.le_refl _
  | cons j schedule ih =>
    have hrest := @ih (turn act c j)
    rw [run_cons]
    by_cases hj : j = i
    · -- this turn counts, and it costs at least one
      subst hj
      rw [turn_self] at hrest
      rw [List.count_cons_self]
      have hone := hact j (c.locals j) c.shared
      omega
    · rw [turn_other c (Ne.symm hj)] at hrest
      rw [List.count_cons_of_ne hj]
      exact hrest

/-- A process that is scheduled alone. -/
theorem run_replicate (act : ∀ i, L i → σ → L i × σ) (c : Config L σ) (n : Nat) (i : ι) :
    ((run act c (List.replicate n i)).locals i, (run act c (List.replicate n i)).shared) =
      (fun p => act i p.1 p.2)^[n] (c.locals i, c.shared) := by
  induction n generalizing c with
  | zero => rfl
  | succ n ih =>
    have hturn : ((turn act c i).locals i, (turn act c i).shared) =
        act i (c.locals i) c.shared := by
      rw [turn_self]
      rfl
    rw [List.replicate_succ, run_cons, ih, hturn, Function.iterate_succ_apply]

/-- Turns of one process after others of it. -/
theorem iterate_trans {β : Type} {f : β → β} {a b c : β} (hab : ∃ m, f^[m] a = b)
    (hbc : ∃ n, f^[n] b = c) : ∃ n, f^[n] a = c := by
  obtain ⟨m, rfl⟩ := hab
  obtain ⟨n, rfl⟩ := hbc
  exact ⟨n + m, Function.iterate_add_apply f n m a⟩

theorem run_append (schedule schedule' : List ι) :
    run act c (schedule ++ schedule') = run act (run act c schedule) schedule' :=
  List.foldl_append

/-- A process without a turn is where it was. -/
theorem run_not_mem {schedule : List ι} {i : ι} (h : i ∉ schedule) :
    (run act c schedule).locals i = c.locals i := by
  induction schedule generalizing c with
  | nil => rfl
  | cons j schedule ih =>
    rw [run_cons, ih (List.not_mem_of_not_mem_cons h), turn_other c (List.ne_of_not_mem_cons h)]

/-- What the processes give that run one after another, each of them alone. -/
def serial {β : Type} (alone : ι → σ → β × σ) : List ι → σ → List β × σ
  | [], s => ([], s)
  | i :: order, s =>
    let (b, s) := alone i s
    let (bs, s) := serial alone order s
    (b :: bs, s)

omit [DecidableEq ι] in
theorem serial_cons {β : Type} (alone : ι → σ → β × σ) (i : ι) (order : List ι) (s : σ) :
    serial alone (i :: order) s =
      ((alone i s).1 :: (serial alone order (alone i s).2).1,
        (serial alone order (alone i s).2).2) := rfl

/-- Processes that reach their end alone, from every shared state that they keep to, reach
    it one after another under some schedule. Of the shared state only `part` counts. -/
theorem run_serial {β τ : Type} (view : ∀ i, L i → β) (part : σ → τ) (Inv : σ → Prop)
    (alone : ι → τ → β × τ) {start : ∀ i, L i}
    (halone : ∀ i s, Inv s → ∃ n l s', (fun p => act i p.1 p.2)^[n] (start i, s) = (l, s') ∧
      Inv s' ∧ (view i l, part s') = alone i (part s))
    {order : List ι} (hnodup : order.Nodup) (hshared : Inv c.shared)
    (hstart : ∀ i ∈ order, c.locals i = start i) :
    ∃ schedule, (∀ i ∈ schedule, i ∈ order) ∧
      (order.map (fun i => view i ((run act c schedule).locals i)),
        part (run act c schedule).shared) = serial alone order (part c.shared) := by
  induction order generalizing c with
  | nil => exact ⟨[], fun i hi => hi, rfl⟩
  | cons i order ih =>
    obtain ⟨hi, hnodup⟩ := List.nodup_cons.mp hnodup
    obtain ⟨n, l, s', hturns, hkept, hview⟩ := halone i c.shared hshared
    have hrun := run_replicate act c n i
    rw [hstart i List.mem_cons_self, hturns, Prod.mk.injEq] at hrun
    obtain ⟨hlocal, hshared'⟩ := hrun
    -- the others have not moved while `i` was running
    have hothers : ∀ j ∈ order, (run act c (List.replicate n i)).locals j = start j := by
      intro j hj
      have hne : j ≠ i := fun h => hi (h ▸ hj)
      rw [run_not_mem fun h => hne (List.eq_of_mem_replicate h)]
      exact hstart j (List.mem_cons_of_mem i hj)
    obtain ⟨schedule, hwithin, hrest⟩ := ih hnodup (hshared' ▸ hkept) hothers
    refine ⟨List.replicate n i ++ schedule, ?_, ?_⟩
    · intro j hj
      rcases List.mem_append.mp hj with hj | hj
      · rw [List.eq_of_mem_replicate hj]
        exact List.mem_cons_self
      · exact List.mem_cons_of_mem i (hwithin j hj)
    · -- and `i` does not move any more
      have hstays : (run act (run act c (List.replicate n i)) schedule).locals i = l := by
        rw [run_not_mem fun h => hi (hwithin i h), hlocal]
      rw [hshared', Prod.mk.injEq] at hrest
      rw [serial_cons, ← hview, run_append, List.map_cons, hstays, hrest.1, hrest.2]

end Interleave
