import Mathlib

/-! # Combinational Blocks and Latches

    A combinational block assigns its output as a function of its inputs. Where
    it assigns nothing the output stays as it was, and the block has a memory.

    `run` is the output after a history of inputs. It is what was last assigned
    (`run_eq`), so under some inputs it is independent of the history exactly
    when the block assigns its output there (`combinational_iff`).
-/

namespace Latch

variable {ι D : Type}

/-- The output after the inputs have changed to `i`. -/
def settle (assign : ι → Option D) (out : D) (i : ι) : D := (assign i).getD out

/-- The output after a history of inputs. -/
def run (assign : ι → Option D) (out : D) (inputs : List ι) : D :=
  inputs.foldl (settle assign) out

variable {assign : ι → Option D} {out : D} {i : ι}

theorem run_concat (inputs : List ι) :
    run assign out (inputs ++ [i]) = (assign i).getD (run assign out inputs) := by
  unfold run
  rw [List.foldl_append]
  rfl

/-- Inputs under which the output is assigned hide the history. -/
theorem run_concat_of_assigned {d : D} (hi : assign i = some d) (inputs : List ι) :
    run assign out (inputs ++ [i]) = d := by
  rw [run_concat, hi, Option.getD_some]

/-- Inputs under which nothing is assigned show it. -/
theorem run_concat_of_held (hi : assign i = none) (inputs : List ι) :
    run assign out (inputs ++ [i]) = run assign out inputs := by
  rw [run_concat, hi, Option.getD_none]

/-- **The output is what was last assigned**, for every history. -/
theorem run_eq (inputs : List ι) :
    run assign out inputs = (inputs.filterMap assign).getLast?.getD out := by
  induction inputs using List.reverseRecOn with
  | nil => rfl
  | append_singleton inputs i ih =>
    rw [List.filterMap_append]
    by_cases hi : (assign i).isSome
    · obtain ⟨d, hd⟩ := Option.isSome_iff_exists.mp hi
      rw [run_concat_of_assigned hd]
      simp [hd]
    · rw [Option.not_isSome_iff_eq_none] at hi
      rw [run_concat_of_held hi, ih]
      simp [hi]

/-- Under `i` the output is the same after every history. -/
def Combinational (assign : ι → Option D) (out : D) (i : ι) : Prop :=
  ∀ inputs inputs', run assign out (inputs ++ [i]) = run assign out (inputs' ++ [i])

/-- **Exactly** the inputs under which the output is assigned are combinational, in a
    block that assigns two values. -/
theorem combinational_iff {j j' : ι} {d d' : D} (hj : assign j = some d)
    (hj' : assign j' = some d') (hne : d ≠ d') :
    Combinational assign out i ↔ (assign i).isSome := by
  constructor
  · intro h
    by_contra hnone
    rw [Option.not_isSome_iff_eq_none] at hnone
    -- the histories that end with `j` and with `j'` are told apart
    have hsame := h [j] [j']
    rw [run_concat_of_held hnone, run_concat_of_held hnone] at hsame
    have hd : run assign out [j] = d := run_concat_of_assigned hj []
    have hd' : run assign out [j'] = d' := run_concat_of_assigned hj' []
    exact hne (hd.symm.trans (hsame.trans hd'))
  · intro hi inputs inputs'
    obtain ⟨d, hd⟩ := Option.isSome_iff_exists.mp hi
    rw [run_concat_of_assigned hd, run_concat_of_assigned hd]

/-- A device that settles as the block does has its runs. -/
theorem foldl_eq_run {device : D → ι → D} (h : ∀ out i, device out i = (assign i).getD out)
    (inputs : List ι) : inputs.foldl device out = run assign out inputs := by
  have hdevice : device = settle assign := funext fun out => funext fun i => h out i
  rw [hdevice]
  rfl

end Latch
