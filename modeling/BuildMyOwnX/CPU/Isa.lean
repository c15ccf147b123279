import BuildMyOwnX.CPU.Cpu

/-! # The Instruction Set

    An interpreter for the instructions of the README: what each of them does to
    the registers, the memory and the program counter. This is what the CPU is
    for; it is written from the README and not from the Verilog, except for the
    operation codes, which only `isa.vh` has.
-/

namespace CPU

namespace Isa

/-! ## Section 1: Fields -/

/-- Bits 11:9, the destination or the first operand. -/
def rd (w : BitVec 16) : BitVec 3 := w.extractLsb' 9 3

/-- Bits 8:6. -/
def r1 (w : BitVec 16) : BitVec 3 := w.extractLsb' 6 3

/-- Bits 5:3. -/
def r2 (w : BitVec 16) : BitVec 3 := w.extractLsb' 3 3

/-- Bits 8:0, a memory address. -/
def addr (w : BitVec 16) : BitVec 9 := w.extractLsb' 0 9

/-- Bits 8:0, an immediate. -/
def immediate (w : BitVec 16) : BitVec 16 := (w.extractLsb' 0 9).setWidth 16

/-! ## Section 2: Instructions -/

/-- The registers after an instruction; `loaded` is the word that `LOAD` reads. -/
def write_back (w : BitVec 16) (regs : Registers) (loaded : BitVec 16) : Registers :=
  let a := regs (r1 w)
  let b := regs (r2 w)
  match opcode w with
  | .LDI => Function.update regs (rd w) (immediate w)
  | .LOAD => Function.update regs (rd w) loaded
  | .MOV => Function.update regs (rd w) a
  | .ADD => Function.update regs (rd w) (a + b)
  | .SUB => Function.update regs (rd w) (a - b)
  | .AND => Function.update regs (rd w) (a &&& b)
  | .OR => Function.update regs (rd w) (a ||| b)
  | .XOR => Function.update regs (rd w) (a ^^^ b)
  | .SHL => Function.update regs (rd w) (a <<< b.toNat)
  | .SHR => Function.update regs (rd w) (a >>> b.toNat)
  | .MUL => Function.update regs (rd w) (a * b)
  | .STORE | .CMP | .JMP | .JZ | .HALT => regs

structure State where
  regs : Registers
  mem : Words
  pc : BitVec 9
  /-- Whether the operands of the last `CMP` were equal, if there was one. -/
  cmp : Option Bool

def start (image : Words) : State where
  regs := fun _ => 0
  mem := image
  pc := 0
  cmp := none

/-- `JZ` jumps after a `CMP` of equal operands. -/
def next_pc (w : BitVec 16) (s : State) : BitVec 9 :=
  if opcode w = .JMP ∨ (opcode w = .JZ ∧ s.cmp = some true) then addr w else s.pc + 1

/-- One instruction; `HALT` has no next state. -/
def exec (w : BitVec 16) (s : State) : Option State :=
  if opcode w = .HALT then none
  else some {
    regs := write_back w s.regs (s.mem (addr w))
    mem := if opcode w = .STORE then Function.update s.mem (addr w) (s.regs (rd w)) else s.mem
    pc := next_pc w s
    cmp := if opcode w = .CMP then some (s.regs (rd w) == s.regs (r1 w)) else s.cmp }

/-! ## Section 3: Runs -/

/-- The state after `k` instructions, if none of them is `HALT`. -/
def run (image : Words) : Nat → Option State
  | 0 => some (start image)
  | k + 1 => (run image k).bind fun s => exec (s.mem s.pc) s

/-- The clock cycles of an instruction. -/
def cycles (w : BitVec 16) : Nat :=
  if opcode w = .LOAD ∨ opcode w = .STORE then 3 else 2

/-- The clock cycles of the first `k` instructions. -/
def run_cycles (image : Words) : Nat → Nat
  | 0 => 0
  | k + 1 => run_cycles image k + ((run image k).map fun s => cycles (s.mem s.pc)).getD 0

/-! ## Section 4: Agreement with the decoder -/

/-- What an instruction other than `LOAD` writes back does not depend on the memory. -/
theorem write_back_congr {w : BitVec 16} (h : opcode w ≠ .LOAD) (regs : Registers) (x y : BitVec 16) :
    write_back w regs x = write_back w regs y := by
  unfold write_back
  revert h
  cases opcode w <;> simp

end Isa

section fields

variable {w : BitVec 16}

/-- The decoder and the README agree on the fields of a register write. -/
theorem decoder_dst_reg (h : is_register_write_op (opcode w) ∨ opcode w = .LOAD) :
    (decoder w).dst_reg = Isa.rd w := by
  unfold decoder
  revert h
  cases opcode w <;> simp [is_register_write_op, Isa.rd]

theorem decoder_immediate (h : opcode w = .LDI) : (decoder w).immediate = Isa.immediate w := by
  unfold decoder
  rw [h]
  rfl

/-- The operand registers of the operations that write the ALU output. -/
theorem decoder_src_reg_a (h : is_register_write_op (opcode w)) (hldi : opcode w ≠ .LDI)
    (hstore : opcode w ≠ .STORE) : (decoder w).src_reg_a = Isa.r1 w := by
  unfold decoder
  revert h hldi hstore
  cases opcode w <;> simp [is_register_write_op, Isa.r1]

theorem decoder_src_reg_b (h : is_register_write_op (opcode w)) (hldi : opcode w ≠ .LDI)
    (hstore : opcode w ≠ .STORE) (hmov : opcode w ≠ .MOV) :
    (decoder w).src_reg_b = Isa.r2 w := by
  unfold decoder
  revert h hldi hstore hmov
  cases opcode w <;> simp [is_register_write_op, Isa.r2]

/-- The address of a jump is the same for the decoder, which cuts twelve bits to nine. -/
theorem decoder_jump_address (h : opcode w = .JMP ∨ opcode w = .JZ) :
    (decoder w).address = Isa.addr w := by
  have hcut : (w.extractLsb' 0 12).setWidth 9 = w.extractLsb' 0 9 := by
    apply BitVec.eq_of_getLsbD_eq
    intro i hi
    simp only [BitVec.getLsbD_setWidth, BitVec.getLsbD_extractLsb', hi, decide_true,
      Bool.true_and, Nat.zero_add]
    rw [decide_eq_true (Nat.lt_trans hi (by decide)), Bool.true_and]
  unfold decoder
  rcases h with h | h <;> rw [h] <;> exact hcut

end fields

end CPU
