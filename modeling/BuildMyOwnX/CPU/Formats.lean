import BuildMyOwnX.CPU.Isa

/-! # Instruction Formats

    The instructions of the README with their operands, and the words that its
    tables of formats give to them. The tables leave no word out and use none
    twice, so the words are a notation for the instructions (`word_equiv`).

    The decoder reads this notation: it puts every operand of an instruction on
    the ports that take it and zeros on all others (`decoder_word`). What it
    cannot tell apart are the unused bits and, of the twelve address bits of a
    jump, the three above the nine that memory has (`instruction_formats`).
-/

namespace CPU

/-! ## Section 1: The formats -/

/-- The five formats of the README, and `HALT`, which has no operands. -/
inductive Format
  | register_address | three_registers | two_registers | one_address | register_immediate
  | no_operands

def Opcode.format : Opcode → Format
  | .LOAD | .STORE => .register_address
  | .ADD | .SUB | .SHL | .SHR | .MUL | .AND | .OR | .XOR => .three_registers
  | .CMP | .MOV => .two_registers
  | .JMP | .JZ => .one_address
  | .LDI => .register_immediate
  | .HALT => .no_operands

/-- The fields of a format below the opcode, from bit 11 down. -/
inductive Operands : Format → Type
  | register_address (r : BitVec 3) (addr : BitVec 9) : Operands .register_address
  | three_registers (rd r1 r2 unused : BitVec 3) : Operands .three_registers
  | two_registers (r1 r2 : BitVec 3) (unused : BitVec 6) : Operands .two_registers
  | one_address (addr : BitVec 12) : Operands .one_address
  | register_immediate (rd : BitVec 3) (immediate : BitVec 9) : Operands .register_immediate
  | no_operands (unused : BitVec 12) : Operands .no_operands

structure Instruction where
  opcode : Opcode
  operands : Operands opcode.format

/-! ## Section 2: Words -/

/-- The encoding of `isa.vh`, the other way. -/
def Opcode.bits : Opcode → BitVec 4
  | .LDI => 0x0
  | .MOV => 0x1
  | .ADD => 0x2
  | .SUB => 0x3
  | .AND => 0x4
  | .OR => 0x5
  | .XOR => 0x6
  | .SHL => 0x7
  | .SHR => 0x8
  | .MUL => 0x9
  | .LOAD => 0xa
  | .STORE => 0xb
  | .CMP => 0xc
  | .JMP => 0xd
  | .JZ => 0xe
  | .HALT => 0xf

def Operands.bits {f : Format} : Operands f → BitVec 12
  | .register_address r addr => r ++ addr
  | .three_registers rd r1 r2 unused => rd ++ (r1 ++ (r2 ++ unused))
  | .two_registers r1 r2 unused => r1 ++ (r2 ++ unused)
  | .one_address addr => addr
  | .register_immediate rd immediate => rd ++ immediate
  | .no_operands unused => unused

def Instruction.word (i : Instruction) : BitVec 16 := i.opcode.bits ++ i.operands.bits

/-- The fields of twelve bits in a format. -/
def Operands.of_bits (b : BitVec 12) : (f : Format) → Operands f
  | .register_address => .register_address (b.extractLsb' 9 3) (b.extractLsb' 0 9)
  | .three_registers =>
    .three_registers (b.extractLsb' 9 3) (b.extractLsb' 6 3) (b.extractLsb' 3 3)
      (b.extractLsb' 0 3)
  | .two_registers => .two_registers (b.extractLsb' 9 3) (b.extractLsb' 6 3) (b.extractLsb' 0 6)
  | .one_address => .one_address b
  | .register_immediate => .register_immediate (b.extractLsb' 9 3) (b.extractLsb' 0 9)
  | .no_operands => .no_operands b

def Instruction.of_word (w : BitVec 16) : Instruction where
  opcode := CPU.opcode w
  operands := .of_bits (w.extractLsb' 0 12) (CPU.opcode w).format

@[simp] theorem Opcode.of_bits_bits (o : Opcode) : Opcode.of_bits o.bits = o := by
  cases o <;> rfl

@[simp] theorem Opcode.bits_of_bits (b : BitVec 4) : (Opcode.of_bits b).bits = b := by
  revert b
  decide

/-- The low part of an appended word. -/
theorem extract_low {v w : Nat} (hi : BitVec v) (lo : BitVec w) :
    (hi ++ lo).extractLsb' 0 w = lo := by
  rw [BitVec.extractLsb'_append_eq_of_add_le (by omega), BitVec.extractLsb'_eq_self]

/-- A field below the high part. -/
theorem extract_below {v w start len : Nat} (hi : BitVec v) (lo : BitVec w)
    (h : start + len ≤ w) : (hi ++ lo).extractLsb' start len = lo.extractLsb' start len :=
  BitVec.extractLsb'_append_eq_of_add_le h

/-- Cutting up what was put together. -/
@[simp] theorem Operands.of_bits_bits {f : Format} (o : Operands f) : of_bits o.bits f = o := by
  cases o with
  | register_address r addr =>
    exact congrArg₂ Operands.register_address BitVec.extractLsb'_append_eq_left (extract_low r addr)
  | register_immediate rd immediate =>
    exact congrArg₂ Operands.register_immediate BitVec.extractLsb'_append_eq_left
      (extract_low rd immediate)
  | one_address addr => rfl
  | no_operands unused => rfl
  | two_registers r1 r2 unused =>
    have h₁ : (r1 ++ (r2 ++ unused)).extractLsb' 9 3 = r1 := BitVec.extractLsb'_append_eq_left
    have h₂ : (r1 ++ (r2 ++ unused)).extractLsb' 6 3 = r2 :=
      (extract_below _ _ (by decide)).trans BitVec.extractLsb'_append_eq_left
    have h₃ : (r1 ++ (r2 ++ unused)).extractLsb' 0 6 = unused :=
      (extract_below _ _ (by decide)).trans (extract_low r2 unused)
    show Operands.two_registers ((r1 ++ (r2 ++ unused)).extractLsb' 9 3)
      ((r1 ++ (r2 ++ unused)).extractLsb' 6 3) ((r1 ++ (r2 ++ unused)).extractLsb' 0 6) = _
    rw [h₁, h₂, h₃]
  | three_registers rd r1 r2 unused =>
    have h₁ : (rd ++ (r1 ++ (r2 ++ unused))).extractLsb' 9 3 = rd :=
      BitVec.extractLsb'_append_eq_left
    have h₂ : (rd ++ (r1 ++ (r2 ++ unused))).extractLsb' 6 3 = r1 :=
      (extract_below _ _ (by decide)).trans BitVec.extractLsb'_append_eq_left
    have h₃ : (rd ++ (r1 ++ (r2 ++ unused))).extractLsb' 3 3 = r2 :=
      (extract_below _ _ (by decide)).trans
        ((extract_below _ _ (by decide)).trans BitVec.extractLsb'_append_eq_left)
    have h₄ : (rd ++ (r1 ++ (r2 ++ unused))).extractLsb' 0 3 = unused :=
      (extract_below _ _ (by decide)).trans
        ((extract_below _ _ (by decide)).trans (extract_low r2 unused))
    show Operands.three_registers ((rd ++ (r1 ++ (r2 ++ unused))).extractLsb' 9 3)
      ((rd ++ (r1 ++ (r2 ++ unused))).extractLsb' 6 3)
      ((rd ++ (r1 ++ (r2 ++ unused))).extractLsb' 3 3)
      ((rd ++ (r1 ++ (r2 ++ unused))).extractLsb' 0 3) = _
    rw [h₁, h₂, h₃, h₄]

/-- Putting together what was cut up. -/
@[simp] theorem Operands.bits_of_bits (b : BitVec 12) (f : Format) : (of_bits b f).bits = b := by
  have hnine : b.extractLsb' 9 3 ++ b.extractLsb' 0 9 = b := BitVec.extractLsb'_append_extractLsb'
  have hsix : b.extractLsb' 6 3 ++ b.extractLsb' 0 6 = b.extractLsb' 0 9 :=
    BitVec.extractLsb'_append_extractLsb'_eq_extractLsb' rfl
  have hthree : b.extractLsb' 3 3 ++ b.extractLsb' 0 3 = b.extractLsb' 0 6 :=
    BitVec.extractLsb'_append_extractLsb'_eq_extractLsb' rfl
  cases f with
  | register_address => exact hnine
  | register_immediate => exact hnine
  | one_address => rfl
  | no_operands => rfl
  | two_registers => exact (congrArg (b.extractLsb' 9 3 ++ ·) hsix).trans hnine
  | three_registers =>
    exact (congrArg (fun x => b.extractLsb' 9 3 ++ (b.extractLsb' 6 3 ++ x)) hthree).trans
      ((congrArg (b.extractLsb' 9 3 ++ ·) hsix).trans hnine)

namespace Instruction

@[simp] theorem opcode_word (i : Instruction) : CPU.opcode i.word = i.opcode := by
  have hbits : i.word.extractLsb' 12 4 = i.opcode.bits := BitVec.extractLsb'_append_eq_left
  rw [CPU.opcode, hbits, Opcode.of_bits_bits]

@[simp] theorem operands_word (i : Instruction) : i.word.extractLsb' 0 12 = i.operands.bits :=
  extract_low _ _

@[simp] theorem of_word_word (i : Instruction) : of_word i.word = i := by
  unfold of_word
  rw [opcode_word, operands_word, Operands.of_bits_bits]

@[simp] theorem word_of_word (w : BitVec 16) : (of_word w).word = w := by
  have hcut : w.extractLsb' 12 4 ++ w.extractLsb' 0 12 = w :=
    BitVec.extractLsb'_append_extractLsb'
  unfold of_word word
  rw [Operands.bits_of_bits, CPU.opcode, Opcode.bits_of_bits]
  exact hcut

/-- The words are a notation for the instructions. -/
def word_equiv : Instruction ≃ BitVec 16 where
  toFun := word
  invFun := of_word
  left_inv := of_word_word
  right_inv := word_of_word

end Instruction

/-! ## Section 3: The decoder -/

/-- The ports for the operands, as the README names them; the others are zero. -/
def Operands.ports {f : Format} (opcode : Opcode) : Operands f → Decoded
  | .register_address r addr => { opcode, dst_reg := r, address := addr }
  | .three_registers rd r1 r2 _ => { opcode, dst_reg := rd, src_reg_a := r1, src_reg_b := r2 }
  | .two_registers r1 r2 _ =>
    -- `MOV rd r1` has a destination, `CMP r1 r2` has none
    if opcode = .MOV then { opcode, dst_reg := r1, src_reg_a := r2 }
    else { opcode, src_reg_a := r1, src_reg_b := r2 }
  | .one_address addr => { opcode, address := addr.setWidth 9 }
  | .register_immediate rd immediate =>
    { opcode, dst_reg := rd, immediate := immediate.setWidth 16 }
  | .no_operands _ => { opcode }

/-- The operands without the bits that no port takes. -/
def Operands.used {f : Format} : Operands f → Operands f
  | .register_address r addr => .register_address r addr
  | .three_registers rd r1 r2 _ => .three_registers rd r1 r2 0
  | .two_registers r1 r2 _ => .two_registers r1 r2 0
  | .one_address addr => .one_address ((addr.setWidth 9).setWidth 12)
  | .register_immediate rd immediate => .register_immediate rd immediate
  | .no_operands _ => .no_operands 0

def Instruction.used (i : Instruction) : Instruction := ⟨i.opcode, i.operands.used⟩

/-- The decoder cuts its fields out of the whole word. -/
theorem extract_operands (w : BitVec 16) (start len : Nat) (h : start + len ≤ 12) :
    (w.extractLsb' 0 12).extractLsb' start len = w.extractLsb' start len := by
  rw [BitVec.extractLsb'_extractLsb'_of_le h]

theorem decoder_of_word (w : BitVec 16) :
    decoder w = (Instruction.of_word w).operands.ports (opcode w) := by
  have h₁ := extract_operands w 9 3 (by decide)
  have h₂ := extract_operands w 6 3 (by decide)
  have h₃ := extract_operands w 3 3 (by decide)
  have h₄ := extract_operands w 0 9 (by decide)
  unfold decoder Instruction.of_word
  generalize opcode w = o
  cases o <;> simp [Opcode.format, Operands.of_bits, Operands.ports, h₁, h₂, h₃, h₄]

/-- Every operand is on its port. -/
theorem decoder_word (i : Instruction) : decoder i.word = i.operands.ports i.opcode := by
  rw [decoder_of_word, i.opcode_word, i.of_word_word]

theorem Operands.ports_used {f : Format} (o : Opcode) (x : Operands f) :
    x.used.ports o = x.ports o := by
  cases x <;> simp [used, ports]

/-- The ports show all bits that are used. -/
theorem Operands.used_eq_of_ports {f : Format} {o : Opcode} {x x' : Operands f}
    (h : x.ports o = x'.ports o) : x.used = x'.used := by
  cases x with
  | register_address r addr =>
    cases x' with
    | register_address r' addr' =>
      have hr : r = r' := congrArg Decoded.dst_reg h
      have haddr : addr = addr' := congrArg Decoded.address h
      rw [hr, haddr]
  | three_registers rd r1 r2 unused =>
    cases x' with
    | three_registers rd' r1' r2' unused' =>
      have hd : rd = rd' := congrArg Decoded.dst_reg h
      have ha : r1 = r1' := congrArg Decoded.src_reg_a h
      have hb : r2 = r2' := congrArg Decoded.src_reg_b h
      rw [used, used, hd, ha, hb]
  | two_registers r1 r2 unused =>
    cases x' with
    | two_registers r1' r2' unused' =>
      rw [ports, ports] at h
      split_ifs at h
      · have hd : r1 = r1' := congrArg Decoded.dst_reg h
        have ha : r2 = r2' := congrArg Decoded.src_reg_a h
        rw [used, used, hd, ha]
      · have ha : r1 = r1' := congrArg Decoded.src_reg_a h
        have hb : r2 = r2' := congrArg Decoded.src_reg_b h
        rw [used, used, ha, hb]
  | one_address addr =>
    cases x' with
    | one_address addr' =>
      have haddr : addr.setWidth 9 = addr'.setWidth 9 := congrArg Decoded.address h
      rw [used, used, haddr]
  | register_immediate rd immediate =>
    cases x' with
    | register_immediate rd' immediate' =>
      have hd : rd = rd' := congrArg Decoded.dst_reg h
      have hwide : immediate.setWidth 16 = immediate'.setWidth 16 :=
        congrArg Decoded.immediate h
      -- sixteen bits hold all nine
      have himmediate : immediate = immediate' := by
        simpa using congrArg (BitVec.setWidth 9) hwide
      rw [hd, himmediate]
  | no_operands unused =>
    cases x' with
    | no_operands unused' => rfl

/-! ## Section 4: Both readers -/

/-- The interpreter of the README reads no bit of a word that the decoder does not. -/
theorem exec_congr {w w' : BitVec 16} (h : decoder w = decoder w') (s : Isa.State) :
    Isa.exec w s = Isa.exec w' s := by
  have ho : opcode w = opcode w' := by
    rw [← decoder_opcode w, h, decoder_opcode]
  unfold decoder at h
  unfold Isa.exec Isa.write_back Isa.next_pc Isa.rd Isa.r1 Isa.r2 Isa.addr Isa.immediate
  rw [ho] at h ⊢
  generalize opcode w' = o at h ⊢
  -- an instruction reads the fields of its format, which are on the ports
  cases o <;> simp [BitVec.setWidth_extractLsb'_of_le] at h ⊢ <;> simp [h]

theorem decoder_used (i : Instruction) : decoder i.used.word = decoder i.word := by
  rw [decoder_word, decoder_word]
  exact i.operands.ports_used i.opcode

/-- The decoder tells two instructions apart by their used bits. -/
theorem decoder_eq_iff (i i' : Instruction) :
    decoder i.word = decoder i'.word ↔ i.used = i'.used := by
  constructor
  · intro h
    have ho : i.opcode = i'.opcode := by
      rw [← i.opcode_word, ← decoder_opcode, h, decoder_opcode, i'.opcode_word]
    rw [decoder_word, decoder_word] at h
    obtain ⟨o, x⟩ := i
    obtain ⟨o', x'⟩ := i'
    dsimp only at ho
    subst ho
    exact congrArg (Instruction.mk o) (Operands.used_eq_of_ports h)
  · intro h
    rw [← decoder_used i, h, decoder_used i']

/-- **The instruction formats**: every word is one instruction and no other, the decoder
    puts the operands of every instruction on its ports and zeros on all others, and
    neither it nor the interpreter of the README tells two instructions apart that
    differ in unused bits only. -/
theorem instruction_formats :
    Function.Bijective Instruction.word ∧
    (∀ i : Instruction, decoder i.word = i.operands.ports i.opcode) ∧
    (∀ i i' : Instruction, decoder i.word = decoder i'.word ↔ i.used = i'.used) ∧
    ∀ (i i' : Instruction) (s : Isa.State), i.used = i'.used →
      Isa.exec i.word s = Isa.exec i'.word s :=
  ⟨Instruction.word_equiv.bijective, decoder_word, decoder_eq_iff,
    fun i i' s h => exec_congr ((decoder_eq_iff i i').mpr h) s⟩

/-- `JMP 0x234` and `JMP 0xe34`, which the decoder takes for one another. -/
example : decoder 0xd234 = decoder 0xde34 := by decide

end CPU
