import BuildMyOwnX.CPU.Cpu

/-! # Halt

    Whether a halted CPU is quiescent. It need not be: the write enable of the
    register file follows the word in the instruction register in every FSM
    state, also in `FSM_HALT`, and the edge into `FSM_HALT` latches whatever is
    on the read bus. `quiescent_iff` says for which words nothing changes; a
    write of the ALU output changes nothing only if operands and latch of the
    ALU are all zero (`AluQuiet`), since `alu_op` is undriven.
-/

namespace CPU

open Clocked (run)

/-- Without reset nothing changes from `s` on, and nothing is written. -/
def Quiescent (s : State) : Prop :=
  ∀ inputs : Nat → Input, (∀ n, (inputs n).reset = false) → ∀ n,
    (run step s inputs n).halted ∧ (run step s inputs n).mem_write_enable = false ∧
    (run step s inputs n).regs = s.regs ∧ (run step s inputs n).pc = s.pc ∧
    (run step s inputs n).ir = s.ir

/-- The word in the instruction register writes no register, or writes what is
    there already. -/
def WritesNothing (s : State) : Prop :=
  is_register_write_op (opcode s.ir) = false ∨
  (opcode s.ir = .LDI ∧ s.regs s.decoder_out.dst_reg = s.decoder_out.immediate) ∨
  (opcode s.ir ≠ .LDI ∧ s.regs s.decoder_out.dst_reg = 0 ∧ AluQuiet s)

theorem step_writes_nothing {s : State} {i : Input} (hreset : i.reset = false)
    (h : WritesNothing s) : (step s i).regs = s.regs := by
  rcases h with hnone | ⟨hldi, hdst⟩ | ⟨hldi, hdst, hquiet⟩
  · exact step_regs_none hreset hnone
  · rw [step_regs_ldi hreset hldi, ← hdst, Function.update_eq_self]
  · by_cases hwrite : is_register_write_op (opcode s.ir)
    · rw [step_regs_alu hreset hwrite hldi, hquiet.alu_data, ← hdst, Function.update_eq_self]
    · exact step_regs_none hreset (by simpa using hwrite)

/-- If the registers and the instruction register stay, so does what the ALU reads. -/
theorem AluQuiet.step {s : State} {i : Input} (h : AluQuiet s) (hregs : (step s i).regs = s.regs)
    (hir : (step s i).ir = s.ir) : AluQuiet (step s i) := by
  constructor
  · rw [State.read_data_a, hregs, decoder_out_congr hir]
    exact h.read_data_a
  · rw [State.read_data_b, hregs, decoder_out_congr hir]
    exact h.read_data_b
  · rw [step_alu_out]
    exact h.alu_data i

/-- What is kept from one halted cycle to the next. -/
structure HaltInv (s t : State) : Prop where
  fsm : t.fsm = FSM_HALT
  regs : t.regs = s.regs
  pc : t.pc = s.pc
  ir : t.ir = s.ir
  writes_nothing : WritesNothing t

theorem HaltInv.step {s t : State} {i : Input} (hreset : i.reset = false) (h : HaltInv s t) :
    HaltInv s (step t i) := by
  have hexec : t.fsm ≠ FSM_EXECUTE := by
    rw [h.fsm]
    decide
  have hregs := step_writes_nothing hreset h.writes_nothing
  have hir : (CPU.step t i).ir = t.ir := by rw [step_ir hreset, if_neg hexec]
  constructor
  · rw [step_fsm, h.fsm, hreset]
    rfl
  · rw [hregs, h.regs]
  · rw [step_pc hreset, if_neg hexec, h.pc]
  · rw [hir, h.ir]
  · unfold WritesNothing
    rw [hir, hregs, decoder_out_congr hir]
    rcases h.writes_nothing with hnone | hldi | ⟨hldi, hdst, hquiet⟩
    · exact .inl hnone
    · exact .inr (.inl hldi)
    · exact .inr (.inr ⟨hldi, hdst, hquiet.step hregs hir⟩)

/-- **Halt**: a halted CPU is quiescent exactly when the word that was latched on
    the edge into `FSM_HALT` writes nothing. -/
theorem quiescent_iff (s : State) (hhalted : s.halted) : Quiescent s ↔ WritesNothing s := by
  have hfsm : s.fsm = FSM_HALT := of_decide_eq_true hhalted
  constructor
  · intro h
    -- one halted cycle, with any operation on the undriven net
    have hstep : ∀ undriven, (step s ⟨false, 0, undriven⟩).regs = s.regs :=
      fun undriven => (h (fun _ => ⟨false, 0, undriven⟩) (fun _ => rfl) 1).2.2.1
    by_cases hwrite : is_register_write_op (opcode s.ir)
    · refine .inr ?_
      by_cases hldi : opcode s.ir = .LDI
      · have hdst := congrFun (hstep ⟨0, 0⟩) s.decoder_out.dst_reg
        rw [step_regs_ldi rfl hldi, Function.update_self] at hdst
        exact .inl ⟨hldi, hdst.symm⟩
      · have hdst : ∀ undriven, s.alu_data ⟨false, 0, undriven⟩ =
            s.regs s.decoder_out.dst_reg := by
          intro undriven
          have hreg := congrFun (hstep undriven) s.decoder_out.dst_reg
          rwa [step_regs_alu rfl hwrite hldi, Function.update_self] at hreg
        obtain ⟨hquiet, hzero⟩ := alu_quiet_of_constant hdst
        exact .inr ⟨hldi, hzero, hquiet⟩
    · exact .inl (by simpa using hwrite)
  · -- the invariant holds in the first cycle and is kept by every other
    intro h inputs hreset n
    have hinv : HaltInv s (run step s inputs n) :=
      Clocked.run_rule (HaltInv s) ⟨hfsm, rfl, rfl, rfl, h⟩
        (fun t k ht => ht.step (hreset k)) n
    refine ⟨?_, ?_, hinv.regs, hinv.pc, hinv.ir⟩
    · rw [State.halted, hinv.fsm]
      rfl
    · rw [State.mem_write_enable, hinv.fsm]
      rfl

/-- A CPU halted on a word that is itself `HALT`. -/
theorem quiescent_iff_halt :
    let s : State := { power_on 0 with fsm := FSM_HALT, ir := 0xf000 }
    Quiescent s :=
  (quiescent_iff _ rfl).mpr (.inl rfl)

/-- `HALT` is executed while `LDI r1 5` is on the read bus, and is replaced by it. -/
theorem halted_not_quiescent : ¬ ∀ s, Reachable s → s.halted → Quiescent s := by
  intro h
  let inputs (n : Nat) : Input := ⟨false, if n = 1 then 0xf000 else 0x0205, ⟨0, 0⟩⟩
  have hreach : Reachable (run step (power_on 0) inputs 4) :=
    Clocked.reachable_run ⟨0, rfl⟩ (fun _ => trivial) 4
  have hregs := (h _ hreach (by decide) (fun _ => ⟨false, 0, ⟨0, 0⟩⟩) (fun _ => rfl) 1).2.2.1
  exact absurd (congrFun hregs 1) (by decide)

end CPU
