import BuildMyOwnX.CPU.Chip

/-! # What the Chip Runs

    Whole runs of `chip` as it is wired. The port `mem_read_data` of the cpu is
    behind a net of one bit, so the instruction register never holds another
    word than 0 or 1, `LDI r0 0` or `LDI r0 1`. From that everything follows:
    the FSM alternates between `FSM_FETCH` and `FSM_EXECUTE`, no other register
    is written, no word of the memory either, and `halted` stays low. The
    program in memory has no part in it (`chip_runs_no_program`).
-/

namespace CPU

open Clocked (run run_succ)

/-! ## Section 1: The words behind the net -/

/-- Both words are an `LDI` of themselves into `r0`, at no address. -/
theorem decoder_from_net (net : Bool) :
    decoder (from_net 16 net) = { opcode := .LDI, immediate := from_net 16 net } := by
  cases net <;> decide

theorem opcode_from_net (net : Bool) : opcode (from_net 16 net) = .LDI := by
  rw [← decoder_opcode, decoder_from_net]

/-! ## Section 2: The invariant -/

/-- The state of the FSM in cycle `n`. -/
def alternating (n : Nat) : BitVec 3 := if n % 2 = 0 then FSM_FETCH else FSM_EXECUTE

/-- What holds in cycle `n` of every run of `chip`. -/
structure ChipInv (image : Words) (n : Nat) (s : System) : Prop where
  fsm : s.cpu.fsm = alternating n
  ir : ∃ net, s.cpu.ir = from_net 16 net
  r0 : ∃ net, s.cpu.regs 0 = from_net 16 net
  regs : ∀ r, r ≠ 0 → s.cpu.regs r = 0
  words : s.words = image

theorem chip_inv_start (image : Words) (alu_out : BitVec 16) :
    ChipInv image 0 ⟨power_on alu_out, image⟩ :=
  ⟨rfl, ⟨false, rfl⟩, ⟨false, rfl⟩, fun _ _ => rfl, rfl⟩

section step

variable {image : Words} {n : Nat} {s : System}

/-- The operation is `LDI` in every cycle. -/
theorem ChipInv.opcode (h : ChipInv image n s) : opcode s.cpu.ir = .LDI := by
  obtain ⟨net, hir⟩ := h.ir
  rw [hir, opcode_from_net]

theorem ChipInv.write_disabled (h : ChipInv image n s) : s.cpu.mem_write_enable = false := by
  simp [State.mem_write_enable, h.opcode]

theorem alternating_step (n : Nat) (reset : Bool) :
    control_fsm reset .LDI (alternating n) = alternating (n + 1) := by
  unfold alternating
  rcases Nat.mod_two_eq_zero_or_one n with heven | hodd
  · have hnext : ¬ (n + 1) % 2 = 0 := by omega
    rw [if_pos heven, if_neg hnext]
    rfl
  · have hnext : (n + 1) % 2 = 0 := by omega
    rw [if_neg (by omega), if_pos hnext]
    rfl

/-- With reset low a cycle writes the immediate, the word itself, to `r0`. -/
theorem ChipInv.step_regs (h : ChipInv image n s) {i : Input} (hreset : i.reset = false) :
    (step s.cpu i).regs = Function.update s.cpu.regs 0 s.cpu.ir := by
  obtain ⟨net, hir⟩ := h.ir
  rw [step_regs_ldi hreset h.opcode, State.decoder_out, hir, decoder_from_net]

theorem ChipInv.step (h : ChipInv image n s) (i : Chip.Input) :
    ChipInv image (n + 1) (Chip.step s i) := by
  obtain ⟨net, hir⟩ := h.ir
  constructor
  · show (CPU.step s.cpu _).fsm = _
    rw [step_fsm, h.opcode, h.fsm, alternating_step]
  · -- the register keeps its word, takes the one behind the net, or is cleared
    show ∃ net, register i.reset _ (from_net 16 i.in_cpu_mem_data) s.cpu.ir = _
    unfold register
    split_ifs
    · exact ⟨false, rfl⟩
    · exact ⟨i.in_cpu_mem_data, rfl⟩
    · exact ⟨net, hir⟩
  · cases hreset : i.reset with
    | true =>
      refine ⟨false, ?_⟩
      show register_file i.reset _ _ _ _ 0 = _
      rw [hreset, register_file_reset]
      rfl
    | false =>
      refine ⟨net, ?_⟩
      show (CPU.step s.cpu ⟨i.reset, _, _⟩).regs 0 = _
      rw [h.step_regs hreset, Function.update_self, hir]
  · intro r hr
    cases hreset : i.reset with
    | true =>
      show register_file i.reset _ _ _ _ r = _
      rw [hreset, register_file_reset]
    | false =>
      show (CPU.step s.cpu ⟨i.reset, _, _⟩).regs r = _
      rw [h.step_regs hreset, Function.update_of_ne hr, h.regs r hr]
  · show memory _ s.cpu.mem_write_enable _ s.words = image
    rw [memory_eq, h.write_disabled]
    exact h.words

end step

/-! ## Section 3: Whole runs -/

section runs

variable (image : Words) (alu_out : BitVec 16) (inputs : Nat → Chip.Input)

theorem chip_inv_run (n : Nat) : ChipInv image n (chip_run image alu_out inputs n) := by
  induction n with
  | zero => exact chip_inv_start image alu_out
  | succ n ih => exact ih.step (inputs n)

/-- What the cpu of the chip takes in, in a cycle. -/
def cpu_input (i : Chip.Input) : Input := ⟨i.reset, Chip.cpu_mem_read_data i, i.undriven⟩

/-- The cpu of the chip is a machine of its own: nothing of the memory comes back. -/
theorem chip_cpu_run (n : Nat) :
    (chip_run image alu_out inputs n).cpu =
      run step (power_on alu_out) (fun k => cpu_input (inputs k)) n := by
  have hcycle : ∀ s i, (Chip.step s i).cpu = step s.cpu (cpu_input i) := fun _ _ => rfl
  exact Clocked.run_map System.cpu (fun _ i => cpu_input i) hcycle
    ⟨power_on alu_out, image⟩ inputs n

/-- **The chip runs no program**: whatever is in memory, on the reset and on the nets
    without a driver, the cpu executes nothing but `LDI r0 0` and `LDI r0 1` in every
    cycle, goes through the same states as with any other program in memory, never
    writes memory and never halts. -/
theorem chip_runs_no_program (n : Nat) :
    ChipInv image n (chip_run image alu_out inputs n) ∧
    Chip.halted (chip_run image alu_out inputs n) = false ∧
    Chip.cpu_out_mem_write_enable (chip_run image alu_out inputs n) = false ∧
    ∀ image', (chip_run image' alu_out inputs n).cpu = (chip_run image alu_out inputs n).cpu := by
  have hinv := chip_inv_run image alu_out inputs n
  refine ⟨hinv, ?_, hinv.write_disabled, fun image' => ?_⟩
  · rw [Chip.halted, State.halted, hinv.fsm, alternating]
    split_ifs <;> decide
  · rw [chip_cpu_run, chip_cpu_run]

end runs

end CPU
