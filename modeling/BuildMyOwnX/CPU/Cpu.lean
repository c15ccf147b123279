import BuildMyOwnX.CPU.Components
import BuildMyOwnX.Framework.Clocked

/-! # The CPU as a Clocked Machine

    `control_unit`, `datapath_16bit` and `cpu`: every net of a cycle is a
    function of the state and the inputs in the cycle, and `step` is the state
    after the clock edge. `System` connects `cpu` to `memory` by full buses.

    Two nets have no driver and hold a new arbitrary value in every cycle:
    `alu_op`, an output that `control_unit` does not assign, and `pc`, which is
    connected to an output that `program_counter` does not assign. The register
    inside `program_counter` works, but nothing reads it.
-/

namespace CPU

/-! ## Section 1: State and inputs -/

/-- What the nets without a driver hold. -/
structure Undriven where
  alu_op : BitVec 4
  pc : BitVec 16

/-- The inputs of `cpu` in a cycle. -/
structure Input where
  reset : Bool
  mem_read_data : BitVec 16
  undriven : Undriven

structure State where
  fsm : BitVec 3
  ir : BitVec 16
  /-- The register of `program_counter`. -/
  pc : BitVec 16
  regs : Registers
  /-- The latch of the ALU output. -/
  alu_out : BitVec 16

/-- The state at power-on; the latch has no initial value. -/
def power_on (alu_out : BitVec 16) : State where
  fsm := FSM_FETCH
  ir := 0
  pc := 0
  regs := fun _ => 0
  alu_out := alu_out

/-! ## Section 2: control_unit -/

def is_register_write_op : Opcode → Bool
  -- `STORE` is here and `LOAD` is not
  | .ADD | .SUB | .SHL | .SHR | .MUL | .AND | .OR | .XOR | .MOV | .STORE | .LDI => true
  | .LOAD | .CMP | .JMP | .JZ | .HALT => false

def is_immediate_writeback_op (opcode : Opcode) : Bool :=
  if opcode = .LOAD ∨ opcode = .LDI then true else false

namespace State

variable (s : State) (i : Input)

def decoder_out : Decoded := decoder s.ir

def datapath_immediate : BitVec 16 :=
  if s.decoder_out.opcode = .LOAD ∧ s.fsm = FSM_MEMORY then i.mem_read_data
  else s.decoder_out.immediate

-- unlike the enables below, this one does not look at the FSM state
def datapath_write_enable : Bool := is_register_write_op s.decoder_out.opcode

def mem_address (undriven : Undriven) : BitVec 9 :=
  -- the instruction register is loaded in `FSM_EXECUTE`, from the second address
  if s.fsm = FSM_FETCH then undriven.pc.extractLsb' 0 9 else s.decoder_out.address

def advance_pc : Bool := s.fsm = FSM_EXECUTE

def write_enable_pc : Bool :=
  s.fsm = FSM_EXECUTE ∧ (s.decoder_out.opcode = .JZ ∨ s.decoder_out.opcode = .JMP)

def mem_write_enable : Bool := s.fsm = FSM_EXECUTE ∧ s.decoder_out.opcode = .STORE

def halted : Bool := s.fsm = FSM_HALT

def datapath_writeback_select : Bool := is_immediate_writeback_op s.decoder_out.opcode

/-! ## Section 3: datapath_16bit -/

def read_data_a : BitVec 16 := s.regs s.decoder_out.src_reg_a

def read_data_b : BitVec 16 := s.regs s.decoder_out.src_reg_b

/-- The ALU output in the cycle. -/
def alu_data : BitVec 16 := alu_16bit i.undriven.alu_op s.read_data_a s.read_data_b s.alu_out

def write_data : BitVec 16 :=
  if s.datapath_writeback_select then s.datapath_immediate i else s.alu_data i

/-- `write_reg_data`, the register that the destination bits name. -/
def mem_write_data : BitVec 16 := s.regs s.decoder_out.dst_reg

end State

/-! ## Section 4: The clock edge -/

def step (s : State) (i : Input) : State where
  fsm := control_fsm i.reset s.decoder_out.opcode s.fsm
  ir := register i.reset (s.fsm = FSM_EXECUTE) i.mem_read_data s.ir
  pc := program_counter i.reset s.advance_pc s.write_enable_pc
    (s.decoder_out.address.setWidth 16) s.pc
  regs := register_file i.reset s.datapath_write_enable s.decoder_out.dst_reg (s.write_data i) s.regs
  alu_out := s.alu_data i

/-- `cpu` and `memory`, connected by full buses. -/
structure System where
  cpu : State
  words : Words

/-- The inputs of the system in a cycle. -/
structure System.Input where
  reset : Bool
  undriven : Undriven

/-- What the memory puts on the read bus. -/
def System.mem_read_data (s : System) (undriven : Undriven) : BitVec 16 :=
  s.words (s.cpu.mem_address undriven)

def System.step (s : System) (i : System.Input) : System where
  cpu := CPU.step s.cpu ⟨i.reset, s.mem_read_data i.undriven, i.undriven⟩
  words := memory (s.cpu.mem_address i.undriven) s.cpu.mem_write_enable s.cpu.mem_write_data s.words

/-- The states of `cpu` after some inputs from power-on. -/
abbrev Reachable : State → Prop :=
  Clocked.Reachable step (fun s => ∃ alu_out, s = power_on alu_out) (fun _ => True)

/-- The states of `cpu` that are reached with reset low. -/
abbrev ReachableWithoutReset : State → Prop :=
  Clocked.Reachable step (fun s => ∃ alu_out, s = power_on alu_out) (fun i => i.reset = false)

/-! ## Section 5: What a step does -/

@[simp] theorem decoder_opcode (w : BitVec 16) : (decoder w).opcode = opcode w := by
  unfold decoder
  generalize opcode w = o
  cases o <;> rfl

/-- The decoded word is all that the decoder outputs depend on. -/
theorem decoder_out_congr {s t : State} (h : t.ir = s.ir) : t.decoder_out = s.decoder_out :=
  congrArg decoder h

@[simp] theorem decoder_out_opcode (s : State) : s.decoder_out.opcode = opcode s.ir :=
  decoder_opcode s.ir

section step

variable {s : State} {i : Input}

theorem step_fsm : (step s i).fsm = control_fsm i.reset (opcode s.ir) s.fsm := by
  rw [step, decoder_out_opcode]

@[simp] theorem step_alu_out : (step s i).alu_out = s.alu_data i := rfl

/-- The instruction register is loaded at the end of `FSM_EXECUTE` only. -/
theorem step_ir (hreset : i.reset = false) :
    (step s i).ir = if s.fsm = FSM_EXECUTE then i.mem_read_data else s.ir := by
  simp [step, register, hreset]

/-- The program counter moves at the end of `FSM_EXECUTE` only, and every jump is
    taken. -/
theorem step_pc (hreset : i.reset = false) :
    (step s i).pc =
      if s.fsm = FSM_EXECUTE then
        if opcode s.ir = .JZ ∨ opcode s.ir = .JMP then s.decoder_out.address.setWidth 16
        else s.pc + 1
      else s.pc := by
  simp only [step, program_counter, State.advance_pc, State.write_enable_pc, hreset, register,
    decoder_out_opcode, adder_16bit_eq]
  by_cases hexec : s.fsm = FSM_EXECUTE <;>
    by_cases hjump : opcode s.ir = .JZ ∨ opcode s.ir = .JMP <;> simp [hexec, hjump]

/-- The registers are written in every cycle in which the instruction register
    holds a register-write operation, whatever the FSM state. -/
theorem step_regs (hreset : i.reset = false) :
    (step s i).regs =
      if is_register_write_op (opcode s.ir) then
        Function.update s.regs s.decoder_out.dst_reg (s.write_data i)
      else s.regs := by
  simp only [step, State.datapath_write_enable, hreset, register_file_eq, decoder_out_opcode]

/-- An operation that is no register write leaves the registers alone. -/
theorem step_regs_none (hreset : i.reset = false) (h : is_register_write_op (opcode s.ir) = false) :
    (step s i).regs = s.regs := by
  rw [step_regs hreset, h]
  rfl

/-- `LDI` writes its immediate. -/
theorem step_regs_ldi (hreset : i.reset = false) (h : opcode s.ir = .LDI) :
    (step s i).regs =
      Function.update s.regs s.decoder_out.dst_reg s.decoder_out.immediate := by
  rw [step_regs hreset, h]
  simp [State.write_data, State.datapath_writeback_select, is_immediate_writeback_op, h,
    State.datapath_immediate, is_register_write_op]

/-- Every other register write, `STORE` included, takes the ALU output. -/
theorem step_regs_alu (hreset : i.reset = false) (h : is_register_write_op (opcode s.ir))
    (hldi : opcode s.ir ≠ .LDI) :
    (step s i).regs = Function.update s.regs s.decoder_out.dst_reg (s.alu_data i) := by
  have hload : opcode s.ir ≠ .LOAD := by
    intro hload
    rw [hload] at h
    exact absurd h (by decide)
  rw [step_regs hreset, if_pos h]
  simp [State.write_data, State.datapath_writeback_select, is_immediate_writeback_op, hldi, hload]

end step

/-! ## Section 6: The ALU without an operation -/

/-- Operation 0 has no case, so the latch shows. -/
theorem alu_no_operation (a b out : BitVec 16) : alu_16bit 0 a b out = out := rfl

theorem alu_zero (op : BitVec 4) : alu_16bit op 0 0 0 = 0 := by
  unfold alu_16bit
  simp only [adder_16bit_eq, subtracter_16bit_eq]
  split_ifs <;> rfl

/-- Only zeros give the same output for every operation. -/
theorem alu_constant {a b out v : BitVec 16} (h : ∀ op, alu_16bit op a b out = v) :
    a = 0 ∧ b = 0 ∧ out = 0 ∧ v = 0 := by
  have hand : a &&& b = v := h ALU_OP_AND
  have hor : a ||| b = v := h ALU_OP_OR
  have hxor : a ^^^ b = v := h ALU_OP_XOR
  have hlatch : out = v := (alu_no_operation a b out).symm.trans (h 0)
  have hbits : ∀ i < 16, a.getLsbD i = false ∧ b.getLsbD i = false := by
    intro i _
    have h₁ := congrArg (·.getLsbD i) (hand.trans hor.symm)
    have h₂ := congrArg (·.getLsbD i) (hand.trans hxor.symm)
    simp only [BitVec.getLsbD_and, BitVec.getLsbD_or, BitVec.getLsbD_xor] at h₁ h₂
    revert h₁ h₂
    cases a.getLsbD i <;> cases b.getLsbD i <;> simp
  have ha : a = 0 := BitVec.eq_of_getLsbD_eq fun i hi => by simp [(hbits i hi).1]
  have hb : b = 0 := BitVec.eq_of_getLsbD_eq fun i hi => by simp [(hbits i hi).2]
  have hv : v = 0 := by rw [← hand, ha, hb]; rfl
  exact ⟨ha, hb, hlatch.trans hv, hv⟩

/-- The ALU output is zero whatever the operation. -/
structure AluQuiet (s : State) : Prop where
  read_data_a : s.read_data_a = 0
  read_data_b : s.read_data_b = 0
  alu_out : s.alu_out = 0

theorem AluQuiet.alu_data {s : State} (h : AluQuiet s) (i : Input) : s.alu_data i = 0 := by
  rw [State.alu_data, h.read_data_a, h.read_data_b, h.alu_out, alu_zero]

/-- A fixed ALU output is zero, from zeros. -/
theorem alu_quiet_of_constant {s : State} {mem_read_data v : BitVec 16}
    (h : ∀ undriven, s.alu_data ⟨false, mem_read_data, undriven⟩ = v) : AluQuiet s ∧ v = 0 := by
  have hop : ∀ op, alu_16bit op s.read_data_a s.read_data_b s.alu_out = v :=
    fun op => h ⟨op, 0⟩
  obtain ⟨ha, hb, hout, hv⟩ := alu_constant hop
  exact ⟨⟨ha, hb, hout⟩, hv⟩

end CPU
