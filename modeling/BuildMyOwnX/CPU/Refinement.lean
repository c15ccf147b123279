import BuildMyOwnX.CPU.Isa

/-! # Refinement of the Instruction Set

    Whether `cpu` with its memory does what the interpreter does, at the end of
    the cycles of each instruction (`RefinesAt`).

    It does not in general. The word that is executed is not the word at the
    program counter: the instruction register is loaded in `FSM_EXECUTE`, when
    the address bus holds the address of the word before (`latched_word`). Of
    the words that are executed, those that write the ALU output write anything,
    since `alu_op` is undriven, and `LOAD` and `STORE` are not carried out.

    What remains is proved by simulation: as long as the word in the register is
    `LDI`, `CMP`, `JMP` or `JZ` and happens to have the effect of the word at the
    program counter, the CPU and the interpreter agree (`refines_of_in_step`).
    For these words that is necessary too (`same_effect_of_refines`), and a word
    that writes the ALU output ends the agreement (`not_refines_alu_word`). So
    the condition is exact where both sides take two cycles for each instruction
    (`refines_iff_in_step`).
-/

namespace CPU

open Clocked (run run_succ)

/-! ## Section 1: The statement -/

/-- The system from power-on with reset low. -/
def system_run (image : Words) (alu_out : BitVec 16) (undriven : Nat → Undriven) : Nat → System :=
  run System.step ⟨power_on alu_out, image⟩ fun n => ⟨false, undriven n⟩

/-- After each of the first `k` instructions of the interpreter, as long as it has not
    halted, the registers, the memory and the program counter are the interpreter's. -/
def RefinesAt (image : Words) (k : Nat) : Prop :=
  ∀ alu_out undriven, ∀ j ≤ k, ∀ st, Isa.run image j = some st →
    let s := system_run image alu_out undriven (Isa.run_cycles image j)
    s.cpu.regs = st.regs ∧ s.words = st.mem ∧ s.cpu.pc.extractLsb' 0 9 = st.pc

/-- The word in the instruction register during instruction `j`, as long as every
    instruction takes two cycles. -/
def latched_word (image : Words) : Nat → BitVec 16
  | 0 => 0
  | j + 1 => image (decoder (latched_word image j)).address

/-- The words that the CPU executes in two cycles and without the ALU. -/
def plain (w : BitVec 16) : Prop :=
  opcode w = .LDI ∨ opcode w = .CMP ∨ opcode w = .JMP ∨ opcode w = .JZ

instance (w : BitVec 16) : Decidable (plain w) := inferInstanceAs (Decidable (_ ∨ _))

/-- Executing `x` in place of `w` makes no difference to `st`; as the CPU knows no flag,
    its `JZ` always jumps. -/
structure SameEffect (x w : BitVec 16) (st : Isa.State) : Prop where
  plain : plain x
  no_memory : opcode w ≠ .LOAD ∧ opcode w ≠ .STORE
  regs : Isa.write_back x st.regs 0 = Isa.write_back w st.regs 0
  pc : Isa.next_pc x { st with cmp := some true } = Isa.next_pc w st

/-- In each of the first `k` instructions the word in the instruction register has the
    effect of the word at the program counter. -/
def InStep (image : Words) (k : Nat) : Prop :=
  ∀ j < k, ∀ st, Isa.run image j = some st → opcode (st.mem st.pc) ≠ .HALT →
    SameEffect (latched_word image j) (st.mem st.pc) st

theorem InStep.mono {image : Words} {j k : Nat} (h : InStep image k) (hj : j ≤ k) :
    InStep image j :=
  fun i hi => h i (Nat.lt_of_lt_of_le hi hj)

/-! ## Section 2: Two cycles with a plain word -/

section plain

variable {w : BitVec 16}

theorem plain.no_memory (h : plain w) : opcode w ≠ .LOAD ∧ opcode w ≠ .STORE := by
  rcases h with h | h | h | h <;> simp [h]

theorem plain.no_halt (h : plain w) : opcode w ≠ .HALT := by
  rcases h with h | h | h | h <;> simp [h]

/-- A plain word writes the same again. -/
theorem plain.write_back_idem (h : plain w) (regs : Registers) (x : BitVec 16) :
    Isa.write_back w (Isa.write_back w regs x) x = Isa.write_back w regs x := by
  unfold Isa.write_back
  rcases h with h | h | h | h <;> simp [h]

end plain

section cycles

variable {s : System} {u : Undriven}

/-- The registers after a cycle with a plain word, in any FSM state. -/
theorem plain_cycle_regs (h : plain s.cpu.ir) :
    (s.step ⟨false, u⟩).cpu.regs = Isa.write_back s.cpu.ir s.cpu.regs 0 := by
  by_cases hldi : opcode s.cpu.ir = .LDI
  · have hwrite : is_register_write_op (opcode s.cpu.ir) := by
      rw [hldi]
      rfl
    show (step s.cpu _).regs = _
    rw [step_regs_ldi rfl hldi, State.decoder_out, decoder_dst_reg (.inl hwrite),
      decoder_immediate hldi, Isa.write_back, hldi]
  · have hop : opcode s.cpu.ir = .CMP ∨ opcode s.cpu.ir = .JMP ∨ opcode s.cpu.ir = .JZ :=
      h.resolve_left hldi
    show (step s.cpu _).regs = _
    rw [step_regs_none rfl (by rcases hop with h | h | h <;> rw [h] <;> rfl), Isa.write_back]
    rcases hop with h | h | h <;> rw [h]

/-- No plain word writes memory. -/
theorem plain_cycle_words (h : plain s.cpu.ir) : (s.step ⟨false, u⟩).words = s.words := by
  have hwrite : s.cpu.mem_write_enable = false := by
    simp [State.mem_write_enable, h.no_memory.2]
  show memory _ _ _ _ = _
  rw [memory_eq, hwrite]
  rfl

/-- `FSM_FETCH` keeps the word and the program counter. -/
theorem fetch_cycle (hfsm : s.cpu.fsm = FSM_FETCH) :
    (s.step ⟨false, u⟩).cpu.fsm = FSM_EXECUTE ∧ (s.step ⟨false, u⟩).cpu.ir = s.cpu.ir ∧
    (s.step ⟨false, u⟩).cpu.pc = s.cpu.pc := by
  have hexec : s.cpu.fsm ≠ FSM_EXECUTE := by
    rw [hfsm]
    decide
  refine ⟨?_, ?_, ?_⟩
  · show (step s.cpu _).fsm = _
    rw [step_fsm, hfsm, control_fsm_fetch]
  · show (step s.cpu _).ir = _
    rw [step_ir rfl, if_neg hexec]
  · show (step s.cpu _).pc = _
    rw [step_pc rfl, if_neg hexec]

/-- `FSM_EXECUTE` of a plain word latches the word at its own address. -/
theorem execute_cycle_plain (h : plain s.cpu.ir) (hfsm : s.cpu.fsm = FSM_EXECUTE) :
    (s.step ⟨false, u⟩).cpu.fsm = FSM_FETCH ∧
    (s.step ⟨false, u⟩).cpu.ir = s.words (decoder s.cpu.ir).address ∧
    (s.step ⟨false, u⟩).cpu.pc =
      if opcode s.cpu.ir = .JZ ∨ opcode s.cpu.ir = .JMP then
        (decoder s.cpu.ir).address.setWidth 16
      else s.cpu.pc + 1 := by
  have hfetch : s.cpu.fsm ≠ FSM_FETCH := by
    rw [hfsm]
    decide
  refine ⟨?_, ?_, ?_⟩
  · show (step s.cpu _).fsm = _
    rw [step_fsm, hfsm, control_fsm_execute, if_neg (by simp [h.no_memory]), if_neg h.no_halt]
  · show (step s.cpu _).ir = _
    rw [step_ir rfl, if_pos hfsm]
    show s.words (s.cpu.mem_address u) = _
    rw [State.mem_address, if_neg hfetch]
    rfl
  · show (step s.cpu _).pc = _
    rw [step_pc rfl, if_pos hfsm]
    rfl

/-- Both cycles of a plain word. -/
theorem plain_cycles (h : plain s.cpu.ir) (hfsm : s.cpu.fsm = FSM_FETCH) (u' : Undriven) :
    let t := (s.step ⟨false, u⟩).step ⟨false, u'⟩
    t.cpu.fsm = FSM_FETCH ∧ t.cpu.ir = s.words (decoder s.cpu.ir).address ∧
    t.cpu.regs = Isa.write_back s.cpu.ir s.cpu.regs 0 ∧ t.words = s.words ∧
    t.cpu.pc =
      if opcode s.cpu.ir = .JZ ∨ opcode s.cpu.ir = .JMP then
        (decoder s.cpu.ir).address.setWidth 16
      else s.cpu.pc + 1 := by
  obtain ⟨hfsm₁, hir₁, hpc₁⟩ := fetch_cycle (u := u) hfsm
  have hplain₁ : plain (s.step ⟨false, u⟩).cpu.ir := hir₁ ▸ h
  have hwords₁ : (s.step ⟨false, u⟩).words = s.words := plain_cycle_words h
  obtain ⟨hfsm₂, hir₂, hpc₂⟩ := execute_cycle_plain (u := u') hplain₁ hfsm₁
  refine ⟨hfsm₂, ?_, ?_, (plain_cycle_words hplain₁).trans hwords₁, ?_⟩
  · rw [hir₂, hwords₁, hir₁]
  · -- the second cycle writes what the first has written
    rw [plain_cycle_regs hplain₁, hir₁, plain_cycle_regs h, h.write_back_idem]
  · rw [hpc₂, hir₁, hpc₁]

end cycles

/-- The low nine bits of the program counter move as the interpreter's do. -/
theorem pc_low_bits {x : BitVec 16} {pc : BitVec 16} {st : Isa.State}
    (hpc : pc.extractLsb' 0 9 = st.pc) :
    (if opcode x = .JZ ∨ opcode x = .JMP then (decoder x).address.setWidth 16
      else pc + 1).extractLsb' 0 9 = Isa.next_pc x { st with cmp := some true } := by
  unfold Isa.next_pc
  by_cases hjump : opcode x = .JMP ∨ opcode x = .JZ
  · -- a jump loads nine bits into sixteen
    rw [if_pos hjump.symm, if_pos (by simpa using hjump), decoder_jump_address hjump]
    apply BitVec.eq_of_getLsbD_eq
    intro i hi
    simp [hi, Nat.lt_trans hi (by decide : 9 < 16)]
  · rw [if_neg fun h => hjump h.symm, if_neg (by simpa using hjump)]
    show (pc + 1).extractLsb' 0 9 = st.pc + 1
    rw [← hpc]
    apply BitVec.eq_of_toNat_eq
    simp [BitVec.extractLsb'_toNat, BitVec.toNat_add]

/-! ## Section 3: The simulation -/

/-- At the beginning of instruction `j`. -/
structure Boundary (image : Words) (j : Nat) (st : Isa.State) (s : System) : Prop where
  fsm : s.cpu.fsm = FSM_FETCH
  ir : s.cpu.ir = latched_word image j
  regs : s.cpu.regs = st.regs
  words : s.words = image
  mem : st.mem = image
  pc : s.cpu.pc.extractLsb' 0 9 = st.pc

theorem boundary_start (image : Words) (alu_out : BitVec 16) :
    Boundary image 0 (Isa.start image) ⟨power_on alu_out, image⟩ :=
  ⟨rfl, rfl, rfl, rfl, rfl, rfl⟩

/-- What an instruction other than `HALT` leads to. -/
theorem exec_eq {w : BitVec 16} {st st' : Isa.State} (h : Isa.exec w st = some st') :
    opcode w ≠ .HALT ∧ st'.regs = Isa.write_back w st.regs (st.mem (Isa.addr w)) ∧
    st'.pc = Isa.next_pc w st ∧ (opcode w ≠ .STORE → st'.mem = st.mem) := by
  unfold Isa.exec at h
  by_cases hhalt : opcode w = .HALT
  · rw [if_pos hhalt] at h
    exact absurd h (by simp)
  · rw [if_neg hhalt, Option.some.injEq] at h
    subst h
    exact ⟨hhalt, rfl, rfl, fun hstore => if_neg hstore⟩

/-- And every other instruction leads to something. -/
theorem exec_some {w : BitVec 16} (h : opcode w ≠ .HALT) (st : Isa.State) :
    ∃ st', Isa.exec w st = some st' :=
  ⟨_, if_neg h⟩

/-- Two cycles with a plain word, from the beginning of an instruction. -/
theorem Boundary.plain_cycles {image : Words} {j : Nat} {st : Isa.State} {s : System}
    (hb : Boundary image j st s) (hplain : plain (latched_word image j)) (u u' : Undriven) :
    let t := (s.step ⟨false, u⟩).step ⟨false, u'⟩
    t.cpu.fsm = FSM_FETCH ∧ t.cpu.ir = latched_word image (j + 1) ∧
    t.cpu.regs = Isa.write_back (latched_word image j) st.regs 0 ∧ t.words = image ∧
    t.cpu.pc.extractLsb' 0 9 =
      Isa.next_pc (latched_word image j) { st with cmp := some true } := by
  obtain ⟨hfsm, hir, hregs, hwords, hpc⟩ :=
    CPU.plain_cycles (u := u) (hb.ir ▸ hplain) hb.fsm u'
  refine ⟨hfsm, ?_, ?_, hwords.trans hb.words, ?_⟩
  · rw [hir, hb.words, hb.ir]
    rfl
  · rw [hregs, hb.ir, hb.regs]
  · rw [hpc, pc_low_bits hb.pc, hb.ir]

/-- They carry out the instruction of the interpreter, if the word has its effect. -/
theorem Boundary.step {image : Words} {j : Nat} {st st' : Isa.State} {s : System}
    (hb : Boundary image j st s) (hexec : Isa.exec (st.mem st.pc) st = some st')
    (hsame : SameEffect (latched_word image j) (st.mem st.pc) st) (u u' : Undriven) :
    Boundary image (j + 1) st' ((s.step ⟨false, u⟩).step ⟨false, u'⟩) := by
  obtain ⟨-, hregs', hpc', hmem'⟩ := exec_eq hexec
  obtain ⟨hfsm, hir, hregs, hwords, hpc⟩ := hb.plain_cycles hsame.plain u u'
  refine ⟨hfsm, hir, ?_, hwords, (hmem' hsame.no_memory.2).trans hb.mem, ?_⟩
  · rw [hregs, hsame.regs, hregs']
    exact Isa.write_back_congr hsame.no_memory.1 _ _ _
  · rw [hpc, hsame.pc, hpc']

/-- An instruction other than `LOAD` and `STORE` takes two cycles. -/
theorem run_cycles_succ {image : Words} {k : Nat} {st : Isa.State}
    (hst : Isa.run image k = some st)
    (h : opcode (st.mem st.pc) ≠ .LOAD ∧ opcode (st.mem st.pc) ≠ .STORE) :
    Isa.run_cycles image (k + 1) = Isa.run_cycles image k + 2 := by
  simp [Isa.run_cycles, hst, Isa.cycles, h]

/-- The run reaches the beginning of every instruction in the cycle that `run_cycles` says. -/
theorem boundary_run {image : Words} (alu_out : BitVec 16) (undriven : Nat → Undriven) {k : Nat}
    (h : InStep image k) :
    ∀ st, Isa.run image k = some st →
      Boundary image k st (system_run image alu_out undriven (Isa.run_cycles image k)) := by
  induction k with
  | zero =>
    intro st hst
    rw [Isa.run, Option.some.injEq] at hst
    subst hst
    exact boundary_start image alu_out
  | succ k ih =>
    intro st' hst'
    rw [Isa.run] at hst'
    obtain ⟨st, hst, hexec⟩ := Option.bind_eq_some_iff.mp hst'
    have hb := ih (h.mono (Nat.le_succ k)) st hst
    have hsame := h k (Nat.lt_succ_self k) st hst (exec_eq hexec).1
    -- one `FSM_FETCH` and one `FSM_EXECUTE`
    rw [run_cycles_succ hst hsame.no_memory, system_run, run_succ, run_succ]
    exact hb.step hexec hsame _ _

/-- **Refinement**: a run whose instructions all find a word of the same effect in the
    instruction register agrees with the interpreter. -/
theorem refines_of_in_step (image : Words) (k : Nat) (h : InStep image k) :
    RefinesAt image k := by
  intro alu_out undriven j hj st hst
  have hb := boundary_run alu_out undriven (h.mono hj) st hst
  exact ⟨hb.regs, hb.words.trans hb.mem.symm, hb.pc⟩

/-- Memory full of `JMP 1`. -/
theorem refines_jmp : RefinesAt (fun _ => 0xd001) 3 := by
  refine refines_of_in_step (fun _ => 0xd001) 3 fun j hj st hst _ => ?_
  interval_cases j <;> cases hst
  · exact ⟨by decide, by decide, funext (by decide), by decide⟩
  · exact ⟨by decide, by decide, rfl, by decide⟩
  · exact ⟨by decide, by decide, rfl, by decide⟩

/-- `LDI r1 5` at address 0: the CPU executes the zero word of the cleared register, and
    `r1` stays zero. -/
theorem not_refines : ¬ ∀ image k, RefinesAt image k := by
  intro h
  let image : Words := fun a => if a = 0 then 0x0205 else 0
  have hrun : (Isa.run image 1).map (·.regs 1) = some 5 := by decide
  obtain ⟨st, hst, hr1⟩ := Option.map_eq_some_iff.mp hrun
  have hregs := congrFun (h image 1 0 (fun _ => ⟨0, 0⟩) 1 (Nat.le_refl 1) st hst).1 1
  rw [hr1] at hregs
  exact absurd hregs (by decide)

/-! ## Section 4: Words of another effect -/

section other

variable {image : Words} {k : Nat} {st st' : Isa.State}

/-- For plain words the condition is necessary as well: if a run that was in step agrees
    after one more instruction, the word in the instruction register had its effect. -/
theorem same_effect_of_refines (h : InStep image k) (hrefines : RefinesAt image (k + 1))
    (hst : Isa.run image k = some st) (hexec : Isa.exec (st.mem st.pc) st = some st')
    (hplain : plain (latched_word image k))
    (hmem : opcode (st.mem st.pc) ≠ .LOAD ∧ opcode (st.mem st.pc) ≠ .STORE) :
    SameEffect (latched_word image k) (st.mem st.pc) st := by
  obtain ⟨-, hregs', hpc', -⟩ := exec_eq hexec
  have hst' : Isa.run image (k + 1) = some st' := by rw [Isa.run, hst, Option.bind_some, hexec]
  have hagree := hrefines 0 (fun _ => ⟨0, 0⟩) (k + 1) (Nat.le_refl _) st' hst'
  rw [run_cycles_succ hst hmem, system_run, run_succ, run_succ] at hagree
  obtain ⟨-, -, hregs, -, hpc⟩ :=
    (boundary_run 0 (fun _ => ⟨0, 0⟩) h st hst).plain_cycles hplain ⟨0, 0⟩ ⟨0, 0⟩
  refine ⟨hplain, hmem, ?_, ?_⟩
  · rw [← hregs, ← Isa.write_back_congr hmem.1 st.regs (st.mem (Isa.addr (st.mem st.pc))),
      ← hregs']
    exact hagree.1
  · rw [← hpc, ← hpc']
    exact hagree.2.2

/-- Without an operation the latch of the ALU keeps its value from power-on. -/
theorem alu_out_stays (alu_out : BitVec 16) (n : Nat) :
    (system_run image alu_out (fun _ => ⟨0, 0⟩) n).cpu.alu_out = alu_out := by
  refine Clocked.run_rule (fun s : System => s.cpu.alu_out = alu_out) rfl (fun t n ht => ?_) n
  show (step t.cpu _).alu_out = alu_out
  rw [step_alu_out, State.alu_data, alu_no_operation, ht]

/-- A word that writes the ALU output breaks the agreement with an instruction of two cycles. -/
theorem not_refines_alu_word (h : InStep image k) (hst : Isa.run image k = some st)
    (hexec : Isa.exec (st.mem st.pc) st = some st')
    (hmem : opcode (st.mem st.pc) ≠ .LOAD ∧ opcode (st.mem st.pc) ≠ .STORE)
    (hwrite : is_register_write_op (opcode (latched_word image k)))
    (hldi : opcode (latched_word image k) ≠ .LDI) : ¬ RefinesAt image (k + 1) := by
  intro hrefines
  have hst' : Isa.run image (k + 1) = some st' := by rw [Isa.run, hst, Option.bind_some, hexec]
  -- the destination register holds what the latch held at power-on
  have hdst : ∀ alu_out, st'.regs (decoder (latched_word image k)).dst_reg = alu_out := by
    intro alu_out
    have hb := boundary_run alu_out (fun _ => ⟨0, 0⟩) h st hst
    let s := system_run image alu_out (fun _ => ⟨0, 0⟩) (Isa.run_cycles image k)
    let t := s.step ⟨false, ⟨0, 0⟩⟩
    have hir : t.cpu.ir = latched_word image k := (fetch_cycle hb.fsm).2.1.trans hb.ir
    have hlatch : t.cpu.alu_out = alu_out := alu_out_stays alu_out (Isa.run_cycles image k + 1)
    have hregs : (t.step ⟨false, ⟨0, 0⟩⟩).cpu.regs =
        Function.update t.cpu.regs t.cpu.decoder_out.dst_reg (t.cpu.alu_data _) :=
      step_regs_alu rfl (hir ▸ hwrite) (hir ▸ hldi)
    have hagree := (hrefines alu_out (fun _ => ⟨0, 0⟩) (k + 1) (Nat.le_refl _) st' hst').1
    rw [run_cycles_succ hst hmem] at hagree
    rw [← hagree]
    show (t.step ⟨false, ⟨0, 0⟩⟩).cpu.regs _ = alu_out
    rw [hregs, State.decoder_out, hir, Function.update_self, State.alu_data, alu_no_operation,
      hlatch]
  exact absurd ((hdst 0).symm.trans (hdst 1)) (by decide)

/-- The first `k` instructions of the interpreter do not load or store, and meanwhile the
    CPU does not load or halt. -/
def TwoCycles (image : Words) (k : Nat) : Prop :=
  ∀ j < k, (opcode (latched_word image j) ≠ .LOAD ∧ opcode (latched_word image j) ≠ .HALT) ∧
    ∀ st, Isa.run image j = some st →
      opcode (st.mem st.pc) ≠ .LOAD ∧ opcode (st.mem st.pc) ≠ .STORE

/-- A word is plain, or it writes the ALU output, or the CPU loads or halts. -/
theorem plain_or_alu_word {w : BitVec 16} (h : opcode w ≠ .LOAD ∧ opcode w ≠ .HALT) :
    plain w ∨ (is_register_write_op (opcode w) ∧ opcode w ≠ .LDI) := by
  unfold plain
  revert h
  cases opcode w <;> decide

/-- **The condition is exact** for runs whose instructions all take two cycles. -/
theorem refines_iff_in_step (h : TwoCycles image k) : RefinesAt image k ↔ InStep image k := by
  refine ⟨fun hrefines => ?_, refines_of_in_step image k⟩
  induction k with
  | zero => exact fun j hj => absurd hj (Nat.not_lt_zero j)
  | succ k ih =>
    have hbefore : InStep image k :=
      ih (fun j hj => h j (Nat.lt_succ_of_lt hj))
        fun alu_out undriven j hj => hrefines alu_out undriven j (Nat.le_succ_of_le hj)
    intro j hj st hst hhalt
    rcases Nat.lt_succ_iff_lt_or_eq.mp hj with hlt | rfl
    · exact hbefore j hlt st hst hhalt
    · -- the first instruction that is not in step would end the agreement
      obtain ⟨hword, hmem⟩ := h j hj
      obtain ⟨st', hexec⟩ := exec_some hhalt st
      rcases plain_or_alu_word hword with hplain | ⟨hwrite, hldi⟩
      · exact same_effect_of_refines hbefore hrefines hst hexec hplain (hmem st hst)
      · exact absurd hrefines (not_refines_alu_word hbefore hst hexec (hmem st hst) hwrite hldi)

end other

end CPU
