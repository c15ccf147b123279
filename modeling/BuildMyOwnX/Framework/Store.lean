import Mathlib

/-! # Addressed Stores

    A store holds one datum for each address. At a clock edge it is cleared, or
    written at one address, or left alone, as an `Interface` reads off the inputs
    of the edge; clearing wins over writing.

    What a cell holds after any sequence of edges is the datum of the last write
    to it since the store was last cleared (`run_apply`). A device whose edges
    are those of a store has the same runs (`run_eq`).
-/

namespace Store

variable {ι A D : Type} [DecidableEq A]

/-- How the inputs of an edge act on a store. -/
structure Interface (ι A D : Type) where
  clear : ι → Bool
  enable : ι → Bool
  addr : ι → A
  data : ι → D

namespace Interface

variable (I : Interface ι A D) (zero : D)

/-- The cells after an edge: at most one of them is written. -/
def step (cells : A → D) (i : ι) : A → D :=
  if I.clear i then fun _ => zero
  else if I.enable i then Function.update cells (I.addr i) (I.data i)
  else cells

/-- The cells after a sequence of edges, from the cleared store. -/
def run (inputs : List ι) : A → D := inputs.foldl (I.step zero) fun _ => zero

def writes (a : A) (i : ι) : Bool := I.enable i && decide (I.addr i = a)

/-- The edges after the last one that cleared the store. -/
def since_clear (inputs : List ι) : List ι := inputs.rtakeWhile fun i => !I.clear i

/-- The datum of the last write to an address since the last clear. -/
def last_write (inputs : List ι) (a : A) : Option D :=
  ((I.since_clear inputs).filter (I.writes a)).getLast?.map I.data

variable {I zero}

theorem step_apply (cells : A → D) (i : ι) (a : A) :
    I.step zero cells i a =
      if I.clear i then zero else if I.writes a i then I.data i else cells a := by
  unfold step writes
  by_cases haddr : I.addr i = a
  · subst haddr
    cases I.clear i <;> cases I.enable i <;> simp
  · have hne : a ≠ I.addr i := fun h => haddr h.symm
    cases I.clear i <;> cases I.enable i <;> simp [haddr, hne]

omit [DecidableEq A] in
theorem since_clear_concat (inputs : List ι) (i : ι) :
    I.since_clear (inputs ++ [i]) =
      if I.clear i then [] else I.since_clear inputs ++ [i] := by
  rw [since_clear, List.rtakeWhile_concat]
  cases I.clear i <;> rfl

omit [DecidableEq A] in
/-- A store without a clear remembers every edge. -/
theorem since_clear_eq_self (h : ∀ i, I.clear i = false) (inputs : List ι) :
    I.since_clear inputs = inputs := by
  apply List.rtakeWhile_eq_self_iff.mpr
  intro i _
  rw [h i]
  rfl

theorem last_write_concat (inputs : List ι) (i : ι) (a : A) :
    I.last_write (inputs ++ [i]) a =
      if I.clear i then none
      else if I.writes a i then some (I.data i) else I.last_write inputs a := by
  rw [last_write, since_clear_concat]
  split
  · rfl
  · rw [List.filter_append]
    by_cases hwrites : I.writes a i
    · simp [hwrites]
    · simp [hwrites, last_write]

/-- **A store returns what was last written**, for every sequence of edges. -/
theorem run_apply (inputs : List ι) (a : A) :
    I.run zero inputs a = (I.last_write inputs a).getD zero := by
  induction inputs using List.reverseRecOn with
  | nil => rfl
  | append_singleton inputs i ih =>
    have hrun : I.run zero (inputs ++ [i]) = I.step zero (I.run zero inputs) i := by
      rw [run, List.foldl_append]
      rfl
    rw [hrun, step_apply, last_write_concat, ih]
    split
    · rfl
    · split <;> rfl

/-- A device whose every edge is an edge of the store has the runs of the store. -/
theorem run_eq {device : (A → D) → ι → A → D}
    (h : ∀ cells i, device cells i = I.step zero cells i) (inputs : List ι) :
    inputs.foldl device (fun _ => zero) = I.run zero inputs := by
  have hdevice : device = I.step zero := funext fun cells => funext fun i => h cells i
  rw [hdevice]
  rfl

end Interface

end Store
