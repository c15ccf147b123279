import Mathlib

/-! # The Modules of the CPU

    The Verilog modules below `cpu`, one definition for each. A combinational
    module is a function of its inputs. A module with a register is the
    function from its inputs and the register to the value after the clock
    edge, where non-blocking assignments take effect.

    `alu_16bit` has no case for some operations and so keeps its output there:
    the output is a latch, and its old value is an argument.
-/

namespace CPU

/-! ## Section 1: isa.vh, alu_ops.vh, fsm_states.vh -/

/-- The operation codes. -/
inductive Opcode
  | LDI | MOV | ADD | SUB | AND | OR | XOR | SHL | SHR | MUL | LOAD | STORE | CMP | JMP | JZ | HALT
  deriving DecidableEq, Repr

/-- The encoding of `isa.vh`. -/
def Opcode.of_bits (bits : BitVec 4) : Opcode :=
  match bits.toNat with
  | 0x0 => .LDI
  | 0x1 => .MOV
  | 0x2 => .ADD
  | 0x3 => .SUB
  | 0x4 => .AND
  | 0x5 => .OR
  | 0x6 => .XOR
  | 0x7 => .SHL
  | 0x8 => .SHR
  | 0x9 => .MUL
  | 0xa => .LOAD
  | 0xb => .STORE
  | 0xc => .CMP
  | 0xd => .JMP
  | 0xe => .JZ
  | _ => .HALT

abbrev ALU_OP_ADD : BitVec 4 := 0b0010
abbrev ALU_OP_SUB : BitVec 4 := 0b0011
abbrev ALU_OP_AND : BitVec 4 := 0b0100
abbrev ALU_OP_OR : BitVec 4 := 0b0101
abbrev ALU_OP_XOR : BitVec 4 := 0b0110
abbrev ALU_OP_SHL : BitVec 4 := 0b0111
abbrev ALU_OP_SHR : BitVec 4 := 0b1000
abbrev ALU_OP_MUL : BitVec 4 := 0b1001

def FSM_FETCH : BitVec 3 := 0
def FSM_EXECUTE : BitVec 3 := 1
def FSM_MEMORY : BitVec 3 := 2
def FSM_HALT : BitVec 3 := 3

/-! ## Section 2: gates.v, adder.v and alu.v -/

def and_gate (a b : Bool) : Bool := a && b

def xor_gate (a b : Bool) : Bool := a ^^ b

structure AdderOut where
  out : Bool
  carry : Bool

def half_adder (a b : Bool) : AdderOut := ⟨xor_gate a b, and_gate a b⟩

def full_adder (a b carry_in : Bool) : AdderOut :=
  let ha_1 := half_adder a b
  let ha_2 := half_adder ha_1.out carry_in
  ⟨ha_2.out, xor_gate ha_1.carry ha_2.carry⟩

/-- The carry into bit `i` of the chain of `adder_16bit`: `i > 0 ? carry[i-1] : 1'b0`. -/
def carry_in {w : Nat} (a b : BitVec w) : Nat → Bool
  | 0 => false
  | i + 1 => (full_adder (a.getLsbD i) (b.getLsbD i) (carry_in a b i)).carry

/-- The generate loop of `adder_16bit` at width `w`. -/
def adder {w : Nat} (a b : BitVec w) : BitVec w :=
  BitVec.ofFnLE fun i => (full_adder (a.getLsbD i) (b.getLsbD i) (carry_in a b i)).out

def adder_16bit (a b : BitVec 16) : BitVec 16 := adder a b

def subtracter_16bit (a b : BitVec 16) : BitVec 16 :=
  let b_ones_compliment := ~~~b
  let b_twos_compliment := adder_16bit b_ones_compliment 1
  adder_16bit a b_twos_compliment

def alu_16bit (op : BitVec 4) (a b out : BitVec 16) : BitVec 16 :=
  if op = ALU_OP_ADD then adder_16bit a b
  else if op = ALU_OP_SUB then subtracter_16bit a b
  else if op = ALU_OP_AND then a &&& b
  else if op = ALU_OP_OR then a ||| b
  else if op = ALU_OP_XOR then a ^^^ b
  else if op = ALU_OP_SHL then a <<< b
  else if op = ALU_OP_SHR then a >>> b
  -- `ALU_OP_MUL` and `ALU_OP_CMP` have no case either
  else out

/-- The carries of the chain are those of the sum. -/
theorem carry_in_eq {w : Nat} (a b : BitVec w) (i : Nat) :
    carry_in a b i = BitVec.carry i a b false := by
  induction i with
  | zero => rw [BitVec.carry_zero, carry_in]
  | succ i ih =>
    rw [BitVec.carry_succ, carry_in, ih]
    cases a.getLsbD i <;> cases b.getLsbD i <;> cases BitVec.carry i a b false <;> rfl

/-- The chain of full adders adds modulo `2 ^ w`. -/
theorem adder_eq_add {w : Nat} (a b : BitVec w) : adder a b = a + b := by
  apply BitVec.eq_of_getElem_eq
  intro i hi
  rw [adder, BitVec.getElem_ofFnLE, BitVec.getElem_add hi, carry_in_eq]
  simp only [full_adder, half_adder, xor_gate, ← BitVec.getLsbD_eq_getElem, Bool.xor_assoc]

theorem adder_16bit_eq (a b : BitVec 16) : adder_16bit a b = a + b := adder_eq_add a b

theorem subtracter_16bit_eq (a b : BitVec 16) : subtracter_16bit a b = a - b := by
  simp only [subtracter_16bit, adder_16bit_eq]
  rw [BitVec.sub_eq_add_neg, BitVec.neg_eq_not_add]
  rfl

/-! ## Section 3: Registers -/

/-- `register`: reset wins over a write. -/
def register (reset write_enable : Bool) (data_in data_out : BitVec 16) : BitVec 16 :=
  if reset then 0 else if write_enable then data_in else data_out

/-- The register of `program_counter` after the clock edge. Its output port
    `data_out` is never assigned. -/
def program_counter (reset advance write_enable : Bool) (write_data register_out : BitVec 16) :
    BitVec 16 :=
  let incrementer_out := adder_16bit register_out 1
  let reg_write_enable := write_enable || advance
  let reg_data_in := if write_enable then write_data else incrementer_out
  register reset reg_write_enable reg_data_in register_out

/-- The eight register instances, by number. -/
abbrev Registers : Type := BitVec 3 → BitVec 16

/-- `register_file` after the clock edge. -/
def register_file (reset write_enable : Bool) (write_addr : BitVec 3) (write_data : BitVec 16)
    (data_out : Registers) : Registers :=
  let reg_write_enable : BitVec 8 := if write_enable then 1#8 <<< write_addr else 0
  fun i => register reset (reg_write_enable.getLsbD i.toNat) write_data (data_out i)

/-- The 512 register instances of `memory`, by address. -/
abbrev Words : Type := BitVec 9 → BitVec 16

/-- `memory` after the clock edge. -/
def memory (address : BitVec 9) (write_enable : Bool) (write_data : BitVec 16)
    (register_out : Words) : Words :=
  fun i => register false (write_enable && address == i) write_data (register_out i)

theorem write_enable_bit : ∀ write_addr i : BitVec 3,
    (1#8 <<< write_addr).getLsbD i.toNat = decide (i = write_addr) := by decide

/-- At most one register is written, the others keep their values. -/
theorem register_file_eq (write_enable : Bool) (write_addr : BitVec 3) (write_data : BitVec 16)
    (data_out : Registers) :
    register_file false write_enable write_addr write_data data_out =
      if write_enable then Function.update data_out write_addr write_data else data_out := by
  funext i
  cases write_enable with
  | false => simp [register_file, register]
  | true =>
    simp only [register_file, register, if_pos, write_enable_bit, Function.update_apply]
    simp

theorem register_file_reset (write_enable : Bool) (write_addr : BitVec 3)
    (write_data : BitVec 16) (data_out : Registers) :
    register_file true write_enable write_addr write_data data_out = fun _ => 0 := rfl

/-- At most one word is written, the others keep their values. -/
theorem memory_eq (address : BitVec 9) (write_enable : Bool) (write_data : BitVec 16)
    (register_out : Words) :
    memory address write_enable write_data register_out =
      if write_enable then Function.update register_out address write_data
      else register_out := by
  funext i
  cases write_enable with
  | false => simp [memory, register]
  | true =>
    have hsymm : address = i ↔ i = address := eq_comm
    simp [memory, register, Function.update_apply, hsymm]

/-! ## Section 4: decoder.v and control_fsm.v -/

structure Decoded where
  opcode : Opcode
  dst_reg : BitVec 3 := 0
  src_reg_a : BitVec 3 := 0
  src_reg_b : BitVec 3 := 0
  immediate : BitVec 16 := 0
  address : BitVec 9 := 0
  deriving DecidableEq, Repr

def opcode (instruction_data : BitVec 16) : Opcode :=
  Opcode.of_bits (instruction_data.extractLsb' 12 4)

def decoder (instruction_data : BitVec 16) : Decoded :=
  let opcode := opcode instruction_data
  let bits_11_9 := instruction_data.extractLsb' 9 3
  let bits_8_6 := instruction_data.extractLsb' 6 3
  let bits_5_3 := instruction_data.extractLsb' 3 3
  let bits_8_0 := instruction_data.extractLsb' 0 9
  let bits_11_0 := instruction_data.extractLsb' 0 12
  match opcode with
  | .ADD | .SUB | .SHR | .SHL | .MUL | .AND | .OR | .XOR =>
    { opcode, dst_reg := bits_11_9, src_reg_a := bits_8_6, src_reg_b := bits_5_3 }
  | .LOAD | .STORE => { opcode, dst_reg := bits_11_9, address := bits_8_0 }
  | .CMP => { opcode, src_reg_a := bits_11_9, src_reg_b := bits_8_6 }
  | .MOV => { opcode, dst_reg := bits_11_9, src_reg_a := bits_8_6 }
  | .LDI => { opcode, dst_reg := bits_11_9, immediate := bits_8_0.setWidth 16 }
  -- twelve bits are assigned to nine, the upper three are lost
  | .JMP | .JZ => { opcode, address := bits_11_0.setWidth 9 }
  | .HALT => { opcode }

/-- `control_fsm` after the clock edge. Only `FSM_HALT` looks at the reset. -/
def control_fsm (reset : Bool) (opcode : Opcode) (state : BitVec 3) : BitVec 3 :=
  if state = FSM_FETCH then FSM_EXECUTE
  else if state = FSM_EXECUTE then
    match opcode with
    | .LOAD | .STORE => FSM_MEMORY
    | .HALT => FSM_HALT
    -- the other thirteen operations
    | _ => FSM_FETCH
  else if state = FSM_MEMORY then FSM_FETCH
  else if state = FSM_HALT then if reset then FSM_FETCH else state
  else state

section control_fsm

variable (reset : Bool) (opcode : Opcode)

@[simp] theorem control_fsm_fetch : control_fsm reset opcode FSM_FETCH = FSM_EXECUTE := rfl

@[simp] theorem control_fsm_memory : control_fsm reset opcode FSM_MEMORY = FSM_FETCH := rfl

@[simp] theorem control_fsm_halt :
    control_fsm reset opcode FSM_HALT = if reset then FSM_FETCH else FSM_HALT := rfl

/-- The three ways out of `FSM_EXECUTE`. -/
theorem control_fsm_execute :
    control_fsm reset opcode FSM_EXECUTE =
      if opcode = .LOAD ∨ opcode = .STORE then FSM_MEMORY
      else if opcode = .HALT then FSM_HALT
      else FSM_FETCH := by
  cases opcode <;> rfl

end control_fsm

end CPU
