import BuildMyOwnX.CPU.Isa

/-! # Write-back

    Whether an instruction writes back exactly what the instruction set says
    (`ExecuteLaw`), for arbitrary memory responses.

    `LOAD` and `STORE` never do: the instruction register is loaded again before
    their `FSM_MEMORY`, `LOAD` is missing from `is_register_write_op` and
    `STORE` is in it. The writes of the ALU output do only when there is nothing
    but zero to write (`AluQuiet`), since `alu_op` is undriven. The other words
    do always, although `LDI` writes in each of its cycles.
-/

namespace CPU

open Clocked (run run_succ)

/-! ## Section 1: The execute law -/

/-- The cycle of `FSM_EXECUTE` for the word that has just been latched, counted
    from the cycle that begins with it: one `FSM_FETCH` before it, and also an
    `FSM_MEMORY` if the instruction before was `LOAD` or `STORE`. -/
def execute_cycle (s : State) : Nat := if s.fsm = FSM_MEMORY then 2 else 1

/-- The last cycle of the instruction. -/
def last_cycle (s : State) : Nat :=
  if opcode s.ir = .LOAD ∨ opcode s.ir = .STORE then execute_cycle s + 1 else execute_cycle s

/-- From the cycle that begins with `s.ir` latched, exactly the write-back of the
    instruction set happens, and memory is written by `STORE` alone, once. -/
structure ExecuteLaw (s : State) (inputs : Nat → Input) : Prop where
  registers : (run step s inputs (last_cycle s + 1)).regs =
    Isa.write_back s.ir s.regs (inputs (last_cycle s)).mem_read_data
  store : opcode s.ir = .STORE →
    ∃ c ≤ last_cycle s, (run step s inputs c).mem_write_enable ∧
      (∀ c' ≤ last_cycle s, (run step s inputs c').mem_write_enable → c' = c) ∧
      (run step s inputs c).mem_address (inputs c).undriven = Isa.addr s.ir ∧
      (run step s inputs c).mem_write_data = s.regs (Isa.rd s.ir)
  no_store : opcode s.ir ≠ .STORE →
    ∀ c ≤ last_cycle s, (run step s inputs c).mem_write_enable = false

/-- A state in which a word has just been latched, and is going to be executed. -/
def Latched (s : State) : Prop := s.fsm = FSM_FETCH ∨ s.fsm = FSM_MEMORY

/-- The law for every response of the memory. -/
def ObeysExecuteLaw (s : State) : Prop :=
  ∀ inputs : Nat → Input, (∀ n, (inputs n).reset = false) → ExecuteLaw s inputs

/-- The words that obey the law: those that write no register, `LDI`, and the
    writes of the ALU output when there is nothing but zero to write. `LOAD` and
    `STORE` never do. -/
def ObeysWhen (s : State) : Prop :=
  match opcode s.ir with
  | .LDI | .CMP | .JMP | .JZ | .HALT => True
  | .LOAD | .STORE => False
  | _ => AluQuiet s

/-! ## Section 2: The cycles of an instruction -/

section cycles

variable {s : State} {inputs : Nat → Input}

/-- A word stays in the instruction register until an `FSM_EXECUTE`. -/
theorem ir_stays (hreset : ∀ n, (inputs n).reset = false) (n : Nat)
    (h : ∀ c < n, (run step s inputs c).fsm ≠ FSM_EXECUTE) : (run step s inputs n).ir = s.ir := by
  induction n with
  | zero => rfl
  | succ n ih =>
    rw [run_succ, step_ir (hreset n), if_neg (h n (Nat.lt_succ_self n))]
    exact ih fun c hc => h c (Nat.lt_succ_of_lt hc)

/-- The FSM enters `FSM_EXECUTE` in `execute_cycle` and not before. -/
theorem latched_fsm (hs : Latched s) :
    (∀ c < execute_cycle s, (run step s inputs c).fsm ≠ FSM_EXECUTE) ∧
    (run step s inputs (execute_cycle s)).fsm = FSM_EXECUTE := by
  have hfetch : FSM_FETCH ≠ FSM_EXECUTE := by decide
  have hmemory : FSM_MEMORY ≠ FSM_EXECUTE := by decide
  rcases hs with hs | hs
  · have hcycle : execute_cycle s = 1 := by
      rw [execute_cycle, hs]
      rfl
    rw [hcycle]
    refine ⟨?_, ?_⟩
    · intro c hc
      interval_cases c
      exact hs ▸ hfetch
    · show (step s (inputs 0)).fsm = FSM_EXECUTE
      rw [step_fsm, hs, control_fsm_fetch]
  · -- the `FSM_MEMORY` of the instruction before comes first
    have hcycle : execute_cycle s = 2 := by
      rw [execute_cycle, hs]
      rfl
    have h₁ : (step s (inputs 0)).fsm = FSM_FETCH := by rw [step_fsm, hs, control_fsm_memory]
    rw [hcycle]
    refine ⟨?_, ?_⟩
    · intro c hc
      interval_cases c
      · exact hs ▸ hmemory
      · exact h₁ ▸ hfetch
    · show (step (step s (inputs 0)) (inputs 1)).fsm = FSM_EXECUTE
      rw [step_fsm, h₁, control_fsm_fetch]

/-- A latched word stays until its `FSM_EXECUTE`. -/
theorem latched_ir (hs : Latched s) (hreset : ∀ n, (inputs n).reset = false) :
    ∀ c ≤ execute_cycle s, (run step s inputs c).ir = s.ir :=
  fun c hc => ir_stays hreset c fun c' hc' => (latched_fsm hs).1 c' (Nat.lt_of_lt_of_le hc' hc)

/-- The next word is latched at the end of `FSM_EXECUTE`. -/
theorem next_word (hs : Latched s) (hreset : ∀ n, (inputs n).reset = false) :
    (run step s inputs (execute_cycle s + 1)).ir =
      (inputs (execute_cycle s)).mem_read_data := by
  rw [run_succ, step_ir (hreset _), if_pos (latched_fsm hs).2]

/-- The same run up to cycle `n`, with other values on the undriven nets in cycle `n`. -/
theorem exists_undriven (hreset : ∀ n, (inputs n).reset = false) (n : Nat) (undriven : Undriven) :
    ∃ inputs' : Nat → Input, (∀ k, (inputs' k).reset = false) ∧
      run step s inputs' (n + 1) = step (run step s inputs n) ⟨false, 0, undriven⟩ := by
  refine ⟨Function.update inputs n ⟨false, 0, undriven⟩, fun k => ?_, ?_⟩
  · by_cases hk : k = n
    · rw [hk, Function.update_self]
    · rw [Function.update_of_ne hk]
      exact hreset k
  · rw [run_succ, Function.update_self, Clocked.run_eq_run n fun k hk => ?_]
    rw [Function.update_of_ne (Nat.ne_of_lt hk)]

end cycles

/-! ## Section 3: Words that obey the law -/

variable {s t : State} {i : Input}

/-- Operations on zeros give zero. -/
theorem write_back_zero {w : BitVec 16} {regs : Registers} (h : is_register_write_op (opcode w))
    (hldi : opcode w ≠ .LDI) (hstore : opcode w ≠ .STORE) (ha : regs (Isa.r1 w) = 0)
    (hb : opcode w ≠ .MOV → regs (Isa.r2 w) = 0) (x : BitVec 16) :
    Isa.write_back w regs x = Function.update regs (Isa.rd w) 0 := by
  unfold Isa.write_back
  simp only [ha]
  revert h hldi hstore hb
  cases opcode w <;> simp +contextual [is_register_write_op]

/-- A write of the ALU output that obeys the law is quiet. -/
theorem obeys_quiet (h : ObeysWhen s) (hwrite : is_register_write_op (opcode s.ir))
    (hldi : opcode s.ir ≠ .LDI) : AluQuiet s := by
  unfold ObeysWhen at h
  revert h hwrite hldi
  cases opcode s.ir <;> simp [is_register_write_op]

/-- The value that a word which obeys the law writes. -/
def written (s : State) : BitVec 16 :=
  if opcode s.ir = .LDI then s.decoder_out.immediate else 0

/-- The registers after the write of such a word. -/
def written_regs (s : State) : Registers :=
  if is_register_write_op (opcode s.ir) then
    Function.update s.regs s.decoder_out.dst_reg (written s)
  else s.regs

/-- The register writes of a word that obeys the law. -/
theorem write_back_of_obeys (h : ObeysWhen s) (x : BitVec 16) :
    Isa.write_back s.ir s.regs x = written_regs s := by
  unfold written_regs
  by_cases hwrite : is_register_write_op (opcode s.ir)
  · rw [if_pos hwrite, State.decoder_out, decoder_dst_reg (.inl hwrite)]
    by_cases hldi : opcode s.ir = .LDI
    · rw [written, if_pos hldi, State.decoder_out, decoder_immediate hldi, Isa.write_back, hldi]
    · have hstore : opcode s.ir ≠ .STORE := by
        intro hstore
        rw [ObeysWhen, hstore] at h
        exact h
      have hquiet := obeys_quiet h hwrite hldi
      have ha : s.regs (Isa.r1 s.ir) = 0 := by
        rw [← decoder_src_reg_a hwrite hldi hstore]
        exact hquiet.read_data_a
      have hb : opcode s.ir ≠ .MOV → s.regs (Isa.r2 s.ir) = 0 := by
        intro hmov
        rw [← decoder_src_reg_b hwrite hldi hstore hmov]
        exact hquiet.read_data_b
      rw [written, if_neg hldi]
      exact write_back_zero hwrite hldi hstore ha hb x
  · rw [if_neg hwrite]
    unfold Isa.write_back
    unfold ObeysWhen at h
    revert h hwrite
    cases opcode s.ir <;> simp [is_register_write_op]

/-- While the word `s.ir` stays latched: its write has not happened yet or has,
    and the ALU still sees zeros if it is the source. -/
structure WriteInv (s t : State) : Prop where
  ir : t.ir = s.ir
  regs : t.regs = s.regs ∨ (is_register_write_op (opcode s.ir) ∧
    t.regs = Function.update s.regs s.decoder_out.dst_reg (written s))
  latch : is_register_write_op (opcode s.ir) → opcode s.ir ≠ .LDI → t.alu_out = 0

theorem write_inv_start (h : ObeysWhen s) : WriteInv s s :=
  ⟨rfl, .inl rfl, fun hwrite hldi => (obeys_quiet h hwrite hldi).alu_out⟩

theorem WriteInv.alu_quiet (h : ObeysWhen s) (ht : WriteInv s t)
    (hwrite : is_register_write_op (opcode s.ir)) (hldi : opcode s.ir ≠ .LDI) : AluQuiet t := by
  have hquiet := obeys_quiet h hwrite hldi
  have hzero : written s = 0 := if_neg hldi
  -- writing a zero does not disturb operands that are zero
  have hread : ∀ r, s.regs r = 0 → t.regs r = 0 := by
    intro r hr
    rcases ht.regs with hregs | ⟨-, hregs⟩
    · rw [hregs, hr]
    · rw [hregs, Function.update_apply, hzero, hr, ite_self]
  constructor
  · rw [State.read_data_a, decoder_out_congr ht.ir]
    exact hread _ hquiet.read_data_a
  · rw [State.read_data_b, decoder_out_congr ht.ir]
    exact hread _ hquiet.read_data_b
  · exact ht.latch hwrite hldi

/-- A cycle with the word latched completes its write. -/
theorem WriteInv.step_regs (h : ObeysWhen s) (ht : WriteInv s t) (hreset : i.reset = false) :
    (step t i).regs = written_regs s := by
  unfold written_regs
  by_cases hwrite : is_register_write_op (opcode s.ir)
  · rw [if_pos hwrite]
    have hwrite' : is_register_write_op (opcode t.ir) := ht.ir ▸ hwrite
    have hupdate : (step t i).regs = Function.update t.regs s.decoder_out.dst_reg (written s) := by
      by_cases hldi : opcode s.ir = .LDI
      · rw [step_regs_ldi hreset (ht.ir ▸ hldi), decoder_out_congr ht.ir, written, if_pos hldi]
      · rw [step_regs_alu hreset hwrite' (ht.ir ▸ hldi), decoder_out_congr ht.ir,
          (ht.alu_quiet h hwrite hldi).alu_data, written, if_neg hldi]
    rw [hupdate]
    rcases ht.regs with hregs | ⟨-, hregs⟩
    · rw [hregs]
    · rw [hregs, Function.update_idem]
  · rw [if_neg hwrite, step_regs_none hreset (by rw [ht.ir]; simpa using hwrite)]
    rcases ht.regs with hregs | ⟨hwritten, -⟩
    · exact hregs
    · exact absurd hwritten hwrite

/-- The invariant is kept while the word stays latched. -/
theorem WriteInv.step (h : ObeysWhen s) (ht : WriteInv s t) (hreset : i.reset = false)
    (hexec : t.fsm ≠ FSM_EXECUTE) : WriteInv s (CPU.step t i) := by
  constructor
  · rw [step_ir hreset, if_neg hexec, ht.ir]
  · rw [ht.step_regs h hreset]
    by_cases hwrite : is_register_write_op (opcode s.ir)
    · exact .inr ⟨hwrite, if_pos hwrite⟩
    · exact .inl (if_neg hwrite)
  · intro hwrite hldi
    rw [step_alu_out]
    exact (ht.alu_quiet h hwrite hldi).alu_data i

/-- It holds up to the `FSM_EXECUTE` of the word. -/
theorem write_inv_run {inputs : Nat → Input} (h : ObeysWhen s) (hs : Latched s)
    (hreset : ∀ n, (inputs n).reset = false) :
    ∀ c ≤ execute_cycle s, WriteInv s (run step s inputs c) := by
  intro c hc
  induction c with
  | zero => exact write_inv_start h
  | succ c ih =>
    exact (ih (Nat.le_of_lt hc)).step h (hreset c) ((latched_fsm hs).1 c hc)

/-- A word that obeys the law is no `LOAD` and no `STORE`. -/
theorem obeys_last_cycle (h : ObeysWhen s) :
    opcode s.ir ≠ .STORE ∧ last_cycle s = execute_cycle s := by
  have hmem : opcode s.ir ≠ .LOAD ∧ opcode s.ir ≠ .STORE := by
    unfold ObeysWhen at h
    revert h
    cases opcode s.ir <;> simp
  exact ⟨hmem.2, if_neg (by simp [hmem])⟩

/-- **Sufficiency**: the write-back of such a word is that of the instruction set. -/
theorem obeys_execute_law (h : ObeysWhen s) (hs : Latched s) : ObeysExecuteLaw s := by
  intro inputs hreset
  obtain ⟨hstore, hlast⟩ := obeys_last_cycle h
  have hinv := write_inv_run h hs hreset
  constructor
  · rw [hlast, run_succ, (hinv _ le_rfl).step_regs h (hreset _), write_back_of_obeys h]
  · intro hstore'
    exact absurd hstore' hstore
  · intro _ c hc
    rw [hlast] at hc
    simp [State.mem_write_enable, (hinv c hc).ir, hstore]

/-! ## Section 4: Words that do not -/

/-- Without register writes the registers stay. -/
theorem run_regs_none {inputs : Nat → Input} (hreset : ∀ n, (inputs n).reset = false) (n : Nat)
    (h : ∀ c < n, is_register_write_op (opcode (run step s inputs c).ir) = false) :
    (run step s inputs n).regs = s.regs := by
  induction n with
  | zero => rfl
  | succ n ih =>
    rw [run_succ, step_regs_none (hreset n) (h n (Nat.lt_succ_self n))]
    exact ih fun c hc => h c (Nat.lt_succ_of_lt hc)

/-- `LOAD` writes nothing if `HALT` takes its place in the instruction register. -/
theorem not_load (hs : Latched s) (h : ObeysExecuteLaw s) : opcode s.ir ≠ .LOAD := by
  intro hload
  have hlast : last_cycle s = execute_cycle s + 1 := if_pos (.inl hload)
  -- the law would make the register hold whatever is on the bus in `FSM_MEMORY`
  have hdst : ∀ v, s.regs (Isa.rd s.ir) = v := by
    intro v
    let inputs (n : Nat) : Input := ⟨false, if n = execute_cycle s then 0xf000 else v, ⟨0, 0⟩⟩
    have hreset : ∀ n, (inputs n).reset = false := fun _ => rfl
    have hword : (run step s inputs (execute_cycle s + 1)).ir = 0xf000 :=
      (next_word hs hreset).trans (if_pos rfl)
    have hregs : (run step s inputs (execute_cycle s + 2)).regs = s.regs := by
      refine run_regs_none hreset _ fun c hc => ?_
      rcases Nat.lt_succ_iff_lt_or_eq.mp hc with hc | rfl
      · rw [latched_ir hs hreset c (Nat.le_of_lt_succ hc), hload]
        rfl
      · rw [hword]
        rfl
    have hlaw := congrFun (h inputs hreset).registers (Isa.rd s.ir)
    rw [hlast, hregs, Isa.write_back, hload] at hlaw
    simpa [inputs] using hlaw
  exact absurd ((hdst 0).symm.trans (hdst 1)) (by decide)

/-- In the `FSM_MEMORY` of `STORE` the word that took its place writes already. -/
theorem not_store (hs : Latched s) (h : ObeysExecuteLaw s) : opcode s.ir ≠ .STORE := by
  intro hstore
  have hlast : last_cycle s = execute_cycle s + 1 := if_pos (.inr hstore)
  -- an `LDI` to `r0` on the bus in `FSM_EXECUTE` is written one cycle later
  have hzero : ∀ w : BitVec 16, opcode w = .LDI → (decoder w).dst_reg = 0 →
      s.regs 0 = (decoder w).immediate := by
    intro w hw hdst
    let inputs (_ : Nat) : Input := ⟨false, w, ⟨0, 0⟩⟩
    have hreset : ∀ n, (inputs n).reset = false := fun _ => rfl
    have hword : (run step s inputs (execute_cycle s + 1)).ir = w := next_word hs hreset
    have hlaw := congrFun (h inputs hreset).registers 0
    have hldi : opcode (run step s inputs (execute_cycle s + 1)).ir = .LDI := by
      rw [hword, hw]
    rw [hlast, run_succ, step_regs_ldi (hreset (execute_cycle s + 1)) hldi, State.decoder_out,
      hword, hdst, Function.update_self, Isa.write_back, hstore] at hlaw
    exact hlaw.symm
  have h₀ : s.regs 0 = 0 := hzero 0x0000 rfl rfl
  have h₁ : s.regs 0 = 1 := hzero 0x0001 rfl rfl
  exact absurd (h₀.symm.trans h₁) (by decide)

/-- If the ALU sees zeros after every cycle, it saw them before. -/
theorem alu_quiet_before (h : ∀ undriven, AluQuiet (step s ⟨false, 0, undriven⟩)) :
    AluQuiet s :=
  (alu_quiet_of_constant fun undriven => (h undriven).alu_out).1

/-- If the ALU sees zeros after `n` cycles of every run, it saw them at its beginning. -/
theorem alu_quiet_of_run (n : Nat) :
    (∀ inputs : Nat → Input, (∀ k, (inputs k).reset = false) → AluQuiet (run step s inputs n)) →
    AluQuiet s := by
  induction n with
  | zero =>
    intro h
    exact h (fun _ => ⟨false, 0, ⟨0, 0⟩⟩) fun _ => rfl
  | succ n ih =>
    intro h
    refine ih fun inputs hreset => alu_quiet_before fun undriven => ?_
    obtain ⟨inputs', hreset', hrun⟩ := exists_undriven (s := s) hreset n undriven
    exact hrun ▸ h inputs' hreset'

/-- A write of the ALU output is that of the instruction set for every operation on
    the undriven net only if there is nothing but zero to write. -/
theorem alu_quiet_of_obeys (hs : Latched s) (h : ObeysExecuteLaw s)
    (hwrite : is_register_write_op (opcode s.ir)) (hldi : opcode s.ir ≠ .LDI) : AluQuiet s := by
  have hload := not_load hs h
  have hlast : last_cycle s = execute_cycle s := if_neg (by simp [hload, not_store hs h])
  refine alu_quiet_of_run (execute_cycle s) fun inputs hreset => ?_
  have hir : (run step s inputs (execute_cycle s)).ir = s.ir :=
    latched_ir hs hreset _ le_rfl
  -- the last cycle writes one value for every operation
  have hvalue : ∀ undriven,
      (run step s inputs (execute_cycle s)).alu_data ⟨false, 0, undriven⟩ =
        Isa.write_back s.ir s.regs 0 (Isa.rd s.ir) := by
    intro undriven
    obtain ⟨inputs', hreset', hrun⟩ := exists_undriven (s := s) hreset (execute_cycle s) undriven
    have hlaw := congrFun (h inputs' hreset').registers (Isa.rd s.ir)
    rw [hlast, hrun, step_regs_alu rfl (hir ▸ hwrite) (hir ▸ hldi), State.decoder_out, hir,
      decoder_dst_reg (.inl hwrite), Function.update_self] at hlaw
    exact hlaw.trans (congrFun (Isa.write_back_congr hload _ _ _) _)
  exact (alu_quiet_of_constant hvalue).1

/-- **Necessity**: no other word obeys the law. -/
theorem obeys_when (hs : Latched s) (h : ObeysExecuteLaw s) : ObeysWhen s := by
  have hload := not_load hs h
  have hstore := not_store hs h
  have hquiet := alu_quiet_of_obeys hs h
  unfold ObeysWhen
  revert hload hstore hquiet
  cases opcode s.ir <;> simp [is_register_write_op]

/-- **Execute law**: a latched word obeys the law for every response of the memory
    exactly when it writes no register and is neither `LOAD` nor `STORE`, when it is
    `LDI`, or when operands and latch of the ALU are zero. -/
theorem execute_law_iff (s : State) (hs : Latched s) : ObeysExecuteLaw s ↔ ObeysWhen s :=
  ⟨obeys_when hs, fun h => obeys_execute_law h hs⟩

/-- The word at power-on. -/
theorem execute_law_power_on : ObeysExecuteLaw (power_on 0) :=
  (execute_law_iff _ (.inl rfl)).mpr trivial

/-- `LOAD r1 100` with `0x005A` on the read bus in `FSM_MEMORY`, after a `HALT` in
    `FSM_EXECUTE`, leaves `r1` at zero. -/
theorem load_not_written : ¬ ∀ s, ReachableWithoutReset s → Latched s → ObeysExecuteLaw s := by
  intro h
  let program (_ : Nat) : Input := ⟨false, 0xa264, ⟨0, 0⟩⟩
  let responses (n : Nat) : Input := ⟨false, if n = 1 then 0xf000 else 0x005A, ⟨0, 0⟩⟩
  have hreach : ReachableWithoutReset (run step (power_on 0) program 2) :=
    .step (.step (.init ⟨0, rfl⟩) rfl) rfl
  have hlaw := (h _ hreach (.inl (by decide)) responses fun _ => rfl).registers
  exact absurd (congrFun hlaw 1) (by decide)

end CPU
