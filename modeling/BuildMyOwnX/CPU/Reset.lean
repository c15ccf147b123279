import BuildMyOwnX.CPU.Cpu

/-! # Reset

    A clock edge with reset high clears the instruction register, the program
    counter and the eight registers in any state, since `register` tests reset
    first. The FSM does not: its `case` on the state comes first, and only
    `FSM_HALT` tests reset. So the edge leads to the power-on state exactly
    when the FSM would go to `FSM_FETCH` anyway, or is halted
    (`reset_restores_iff`).
-/

namespace CPU

open Clocked (run)

/-- The state that a reset is to lead to, and what follows from it: from there on
    the machine runs as from power-on. -/
structure Restored (s : State) : Prop where
  fsm : s.fsm = FSM_FETCH
  pc : s.pc = 0
  ir : s.ir = 0
  regs : ∀ r, s.regs r = 0
  runs : ∃ alu_out, ∀ inputs n, run step s inputs n = run step (power_on alu_out) inputs n

theorem restored_power_on (alu_out : BitVec 16) : Restored (power_on alu_out) :=
  ⟨rfl, rfl, rfl, fun _ => rfl, alu_out, fun _ _ => rfl⟩

variable (s : State) (mem_read_data : BitVec 16) (undriven : Undriven)

/-- A reset clears everything but the FSM and the latch. -/
theorem step_reset :
    step s ⟨true, mem_read_data, undriven⟩ =
      { power_on (s.alu_data ⟨true, mem_read_data, undriven⟩) with
        fsm := control_fsm true (opcode s.ir) s.fsm } := by
  simp only [step, register, program_counter, register_file_reset, decoder_out_opcode, power_on,
    if_pos]

/-- When the FSM is back in `FSM_FETCH` after a reset. -/
theorem control_fsm_reset (opcode : Opcode) (state : BitVec 3) :
    control_fsm true opcode state = FSM_FETCH ↔
      state = FSM_HALT ∨ state = FSM_MEMORY ∨
        (state = FSM_EXECUTE ∧ opcode ≠ .LOAD ∧ opcode ≠ .STORE ∧ opcode ≠ .HALT) := by
  revert state
  cases opcode <;> decide

/-- **Reset**: the edge leads to the power-on state exactly from `FSM_HALT`, from
    `FSM_MEMORY`, and from an `FSM_EXECUTE` that would go back to `FSM_FETCH`. -/
theorem reset_restores_iff :
    Restored (step s ⟨true, mem_read_data, undriven⟩) ↔
      s.fsm = FSM_HALT ∨ s.fsm = FSM_MEMORY ∨
        (s.fsm = FSM_EXECUTE ∧ opcode s.ir ≠ .LOAD ∧ opcode s.ir ≠ .STORE ∧
          opcode s.ir ≠ .HALT) := by
  -- all that the edge leaves open is the FSM
  rw [← control_fsm_reset, step_reset]
  constructor
  · intro h
    exact h.fsm
  · intro hfetch
    rw [hfetch]
    exact restored_power_on _

/-- A reset in the cycle after power-on leaves the FSM in `FSM_EXECUTE`. -/
theorem reset_not_restored :
    ¬ ∀ s, Reachable s → ∀ mem_read_data undriven,
      Restored (step s ⟨true, mem_read_data, undriven⟩) := by
  intro h
  have hfsm := (h (power_on 0) (.init ⟨0, rfl⟩) 0 ⟨0, 0⟩).fsm
  exact absurd hfsm (by decide)

end CPU
