import BuildMyOwnX.CPU.Refinement

/-! # What the CPU Fetches

    Which words `cpu` with its memory gets to execute. The instruction register
    is loaded in `FSM_EXECUTE`, from the address that the word in it names, so the
    program counter decides nothing: neither its register nor the undriven net
    that should carry it can be observed (`pc_unobservable`).

    The words that follow are a chain in the memory (`latched_word`). As long as
    no `STORE` is among them the memory stays as it is, and what the registers
    hold has no say in what is executed (`data_unobservable`). The chain goes
    round within 512 words, and whether the CPU ever halts can be read off them
    (`halts_iff`).
-/

namespace CPU

open Clocked (run run_succ)

/-! ## Section 1: The program counter is not observable -/

/-- Equal but for the program counter. -/
structure SameButPc (s t : System) : Prop where
  fsm : s.cpu.fsm = t.cpu.fsm
  ir : s.cpu.ir = t.cpu.ir
  regs : s.cpu.regs = t.cpu.regs
  alu_out : s.cpu.alu_out = t.cpu.alu_out
  words : s.words = t.words

/-- The address of a cycle that is no `FSM_FETCH` comes from the decoder. -/
theorem SameButPc.mem_address {s t : System} (h : SameButPc s t) (u u' : Undriven)
    (hfetch : s.cpu.fsm ≠ FSM_FETCH) : s.cpu.mem_address u = t.cpu.mem_address u' := by
  have hfetch' : t.cpu.fsm ≠ FSM_FETCH := h.fsm ▸ hfetch
  unfold State.mem_address State.decoder_out
  rw [if_neg hfetch, if_neg hfetch', h.ir]

/-- In `FSM_FETCH` nothing is done with the word on the read bus. -/
theorem step_in_fetch {s : State} (hfetch : s.fsm = FSM_FETCH) (reset : Bool) (u : Undriven)
    (word word' : BitVec 16) : step s ⟨reset, word, u⟩ = step s ⟨reset, word', u⟩ := by
  have hmemory : ¬ (s.decoder_out.opcode = .LOAD ∧ s.fsm = FSM_MEMORY) := by
    rw [hfetch]
    exact fun h => absurd h.2 (by decide)
  have hexec : decide (s.fsm = FSM_EXECUTE) = false := by
    rw [hfetch]
    rfl
  simp only [step, register, hexec, State.write_data, State.datapath_immediate, if_neg hmemory,
    State.alu_data]
  rfl

theorem memory_in_fetch {s : State} (hfetch : s.fsm = FSM_FETCH) (address : BitVec 9)
    (words : Words) : memory address s.mem_write_enable s.mem_write_data words = words := by
  have hdisabled : s.mem_write_enable = false := by
    rw [State.mem_write_enable, hfetch]
    rfl
  rw [memory_eq, hdisabled]
  rfl

theorem SameButPc.step {s t : System} (h : SameButPc s t) (reset : Bool) (alu_op : BitVec 4)
    (pc pc' : BitVec 16) :
    SameButPc (s.step ⟨reset, ⟨alu_op, pc⟩⟩) (t.step ⟨reset, ⟨alu_op, pc'⟩⟩) := by
  obtain ⟨⟨fsm, ir, p, regs, alu_out⟩, words⟩ := s
  obtain ⟨⟨fsm', ir', p', regs', alu_out'⟩, words'⟩ := t
  have haddress := h.mem_address ⟨alu_op, pc⟩ ⟨alu_op, pc'⟩
  obtain ⟨hfsm, hir, hregs, hlatch, hwords⟩ := h
  dsimp only at hfsm hir hregs hlatch hwords
  subst hfsm hir hregs hlatch hwords
  unfold System.step System.mem_read_data
  dsimp only at haddress ⊢
  by_cases hfetch : fsm = FSM_FETCH
  · -- the words on the two read buses differ, and nothing takes them
    have hstep := step_in_fetch (s := ⟨fsm, ir, p, regs, alu_out⟩) hfetch reset ⟨alu_op, pc⟩
    have hstep' := step_in_fetch (s := ⟨fsm, ir, p', regs, alu_out⟩) hfetch reset ⟨alu_op, pc'⟩
    rw [hstep _ 0, hstep' _ 0, memory_in_fetch hfetch, memory_in_fetch hfetch]
    constructor <;> rfl
  · rw [haddress hfetch]
    constructor <;> rfl

/-- What can be seen of the system in a cycle. -/
structure SameOutputs (s t : System) : Prop where
  state : SameButPc s t
  halted : s.cpu.halted = t.cpu.halted
  write_enable : s.cpu.mem_write_enable = t.cpu.mem_write_enable
  write_data : s.cpu.mem_write_data = t.cpu.mem_write_data
  address : s.cpu.fsm ≠ FSM_FETCH → ∀ u u', s.cpu.mem_address u = t.cpu.mem_address u'

theorem SameButPc.outputs {s t : System} (h : SameButPc s t) : SameOutputs s t := by
  refine ⟨h, ?_, ?_, ?_, fun hfetch u u' => h.mem_address u u' hfetch⟩
  · unfold State.halted
    rw [h.fsm]
  · unfold State.mem_write_enable State.decoder_out
    rw [h.fsm, h.ir]
  · unfold State.mem_write_data State.decoder_out
    rw [h.regs, h.ir]

/-- The inputs of the system, with `pc` on the net of the program counter. -/
def inputs_with (resets : Nat → Bool) (alu_ops : Nat → BitVec 4) (pc : Nat → BitVec 16)
    (n : Nat) : System.Input := ⟨resets n, ⟨alu_ops n, pc n⟩⟩

/-- **The program counter is not observable**: whatever its register and its net hold,
    the system goes through the same states and has the same outputs, but for the
    address of a fetch, whose word nothing takes. -/
theorem pc_unobservable (s : System) (pc : BitVec 16) (resets : Nat → Bool)
    (alu_ops : Nat → BitVec 4) (pcs pcs' : Nat → BitVec 16) (n : Nat) :
    SameOutputs (run System.step s (inputs_with resets alu_ops pcs) n)
      (run System.step ⟨{ s.cpu with pc := pc }, s.words⟩ (inputs_with resets alu_ops pcs') n) := by
  have hsame : SameButPc (run System.step s (inputs_with resets alu_ops pcs) n)
      (run System.step ⟨{ s.cpu with pc := pc }, s.words⟩ (inputs_with resets alu_ops pcs') n) :=
    Clocked.run_related SameButPc (s := s) (t := ⟨{ s.cpu with pc := pc }, s.words⟩)
      ⟨rfl, rfl, rfl, rfl, rfl⟩
      (fun _ _ n h => h.step (resets n) (alu_ops n) (pcs n) (pcs' n)) n
  exact hsame.outputs

/-! ## Section 2: The chain of words -/

/-- The address that the word at an address names. -/
def next_address (image : Words) (a : BitVec 9) : BitVec 9 := (decoder (image a)).address

/-- Behind the zero word of power-on the chain begins at address 0. -/
theorem latched_word_succ (image : Words) (k : Nat) :
    latched_word image (k + 1) = image ((next_address image)^[k] 0) := by
  induction k with
  | zero =>
    have hzero : (decoder 0).address = 0 := by decide
    show image (decoder 0).address = image 0
    rw [hzero]
  | succ k ih =>
    rw [Function.iterate_succ_apply', next_address, ← ih]
    rfl

/-- There are 512 addresses, so every word of the chain is among the first of it. -/
theorem latched_word_reaches {image : Words} {p : BitVec 16 → Prop}
    (h : ∃ k, p (latched_word image k)) : ∃ k ≤ 512, p (latched_word image k) := by
  obtain ⟨k, hk⟩ := h
  cases k with
  | zero => exact ⟨0, Nat.zero_le 512, hk⟩
  | succ k =>
    rw [latched_word_succ] at hk
    obtain ⟨j, hj, hp⟩ := Clocked.iterate_reaches_lt_card
      (f := next_address image) (a := 0) (p := fun a => p (image a)) ⟨k, hk⟩
    have hcard : Fintype.card (BitVec 9) = 512 := by
      rw [← FinEnum.card_eq_fintypeCard, FinEnum.card_bitVec]
      norm_num
    refine ⟨j + 1, by omega, ?_⟩
    rw [latched_word_succ]
    exact hp

/-- The chain up to its 512th word. -/
def StoreFree (image : Words) : Prop := ∀ k ≤ 512, opcode (latched_word image k) ≠ .STORE

theorem StoreFree.all {image : Words} (h : StoreFree image) (k : Nat) :
    opcode (latched_word image k) ≠ .STORE := by
  intro hstore
  obtain ⟨j, hj, hj'⟩ := latched_word_reaches (p := fun w => opcode w = .STORE) ⟨k, hstore⟩
  exact h j hj hj'

/-- The CPU holds a word of the chain, and the memory is as it was. -/
structure InChain (image : Words) (k : Nat) (s : System) : Prop where
  ir : s.cpu.ir = latched_word image k
  words : s.words = image

section cycles

variable {image : Words} {k : Nat} {s : System} {reset : Bool} {u : Undriven}

/-- Without `STORE` no cycle writes memory. -/
theorem InChain.write_disabled (h : InChain image k s) (hfree : StoreFree image) :
    s.cpu.mem_write_enable = false := by
  simp [State.mem_write_enable, h.ir, hfree.all k]

theorem InChain.step_words (h : InChain image k s) (hfree : StoreFree image) :
    (s.step ⟨reset, u⟩).words = image := by
  show memory _ _ _ _ = _
  rw [memory_eq, h.write_disabled hfree]
  exact h.words

/-- `FSM_EXECUTE` moves on along the chain, whatever the word. -/
theorem InChain.execute (h : InChain image k s) (hfree : StoreFree image)
    (hfsm : s.cpu.fsm = FSM_EXECUTE) : InChain image (k + 1) (s.step ⟨false, u⟩) := by
  have hfetch : s.cpu.fsm ≠ FSM_FETCH := by
    rw [hfsm]
    decide
  refine ⟨?_, h.step_words hfree⟩
  show (step s.cpu _).ir = _
  rw [step_ir rfl, if_pos hfsm]
  show s.words (s.cpu.mem_address u) = image _
  rw [State.mem_address, if_neg hfetch, h.words, State.decoder_out, h.ir]

/-- The other states keep the word. -/
theorem InChain.keep (h : InChain image k s) (hfree : StoreFree image)
    (hfsm : s.cpu.fsm ≠ FSM_EXECUTE) : InChain image k (s.step ⟨false, u⟩) := by
  refine ⟨?_, h.step_words hfree⟩
  show (step s.cpu _).ir = _
  rw [step_ir rfl, if_neg hfsm]
  exact h.ir

/-- A reset goes back to the zero word, the first of the chain. -/
theorem InChain.restart (h : InChain image k s) (hfree : StoreFree image) :
    InChain image 0 (s.step ⟨true, u⟩) := ⟨rfl, h.step_words hfree⟩

/-- Whatever the cycle, the CPU stays in the chain. -/
theorem InChain.step (h : InChain image k s) (hfree : StoreFree image) :
    ∃ k', InChain image k' (s.step ⟨reset, u⟩) := by
  cases reset with
  | true => exact ⟨0, h.restart hfree⟩
  | false =>
    by_cases hexec : s.cpu.fsm = FSM_EXECUTE
    · exact ⟨k + 1, h.execute hfree hexec⟩
    · exact ⟨k, h.keep hfree hexec⟩

theorem system_step_fsm :
    (s.step ⟨false, u⟩).cpu.fsm = control_fsm false (opcode s.cpu.ir) s.cpu.fsm := step_fsm

end cycles

/-! ## Section 3: Data has no say -/

/-- Equal in all that decides what is executed. -/
structure SameControl (s t : System) : Prop where
  fsm : s.cpu.fsm = t.cpu.fsm
  ir : s.cpu.ir = t.cpu.ir
  pc : s.cpu.pc = t.cpu.pc
  words : s.words = t.words

/-- In a cycle that is no `FSM_FETCH` both get the same word. -/
theorem SameControl.mem_read_data {s t : System} (h : SameControl s t) (u u' : Undriven)
    (hfetch : s.cpu.fsm ≠ FSM_FETCH) : s.mem_read_data u = t.mem_read_data u' := by
  have hfetch' : t.cpu.fsm ≠ FSM_FETCH := h.fsm ▸ hfetch
  unfold System.mem_read_data State.mem_address State.decoder_out
  rw [if_neg hfetch, if_neg hfetch', h.ir, h.words]

/-- Only the memory can carry data into what is executed, and without `STORE` it
    stays as it is. -/
theorem SameControl.step {image : Words} (hfree : StoreFree image) {s t : System} {k : Nat}
    (h : SameControl s t) (hchain : InChain image k s) (reset : Bool) (u u' : Undriven) :
    SameControl (s.step ⟨reset, u⟩) (t.step ⟨reset, u'⟩) := by
  have hchain' : InChain image k t := ⟨h.ir ▸ hchain.ir, h.words ▸ hchain.words⟩
  have hdecoded : t.cpu.decoder_out = s.cpu.decoder_out := decoder_out_congr h.ir.symm
  constructor
  · show control_fsm reset _ _ = control_fsm reset _ _
    rw [hdecoded, h.fsm]
  · show register reset (decide (s.cpu.fsm = FSM_EXECUTE)) (s.mem_read_data u) s.cpu.ir =
      register reset (decide (t.cpu.fsm = FSM_EXECUTE)) (t.mem_read_data u') t.cpu.ir
    rw [← h.fsm, ← h.ir]
    by_cases hexec : s.cpu.fsm = FSM_EXECUTE
    · rw [h.mem_read_data u u' (by rw [hexec]; decide)]
    · -- the instruction register takes no word
      rw [decide_eq_false hexec]
      rfl
  · show program_counter reset s.cpu.advance_pc s.cpu.write_enable_pc _ _ =
      program_counter reset t.cpu.advance_pc t.cpu.write_enable_pc _ _
    unfold State.advance_pc State.write_enable_pc
    rw [hdecoded, h.fsm, h.pc]
  · exact (hchain.step_words hfree).trans (hchain'.step_words hfree).symm

/-- The system at power-on, but with any data in the registers and in the ALU latch. -/
def power_on_with (image : Words) (regs : Registers) (alu_out : BitVec 16) : System :=
  ⟨{ power_on alu_out with regs }, image⟩

/-- **Data has no say**: without a `STORE` in the chain, whatever the registers and the
    latch hold at first and the undriven nets in every cycle, with the same resets the
    CPU goes through the same control states and words and halts in the same cycles,
    and nothing is written to memory. -/
theorem data_unobservable (image : Words) (hfree : StoreFree image) (regs regs' : Registers)
    (alu_out alu_out' : BitVec 16) (resets : Nat → Bool) (undriven undriven' : Nat → Undriven)
    (n : Nat) :
    let s := run System.step (power_on_with image regs alu_out)
      (fun k => ⟨resets k, undriven k⟩) n
    let s' := run System.step (power_on_with image regs' alu_out')
      (fun k => ⟨resets k, undriven' k⟩) n
    SameControl s s' ∧ s.cpu.halted = s'.cpu.halted ∧
      s.cpu.mem_write_enable = false ∧ s'.cpu.mem_write_enable = false := by
  intro s s'
  -- the chain goes along in the relation, since it rules a `STORE` out
  obtain ⟨hsame, k, hchain⟩ : SameControl s s' ∧ ∃ k, InChain image k s := by
    have hstart : InChain image 0 (power_on_with image regs alu_out) := ⟨rfl, rfl⟩
    refine Clocked.run_related (s := power_on_with image regs alu_out)
      (t := power_on_with image regs' alu_out')
      (fun s s' => SameControl s s' ∧ ∃ k, InChain image k s)
      ⟨⟨rfl, rfl, rfl, rfl⟩, 0, hstart⟩ ?_ n
    intro u v n huv
    obtain ⟨hsame, k, hchain⟩ := huv
    exact ⟨hsame.step hfree hchain _ _ _, hchain.step hfree⟩
  have hchain' : InChain image k s' := ⟨hsame.ir ▸ hchain.ir, hsame.words ▸ hchain.words⟩
  refine ⟨hsame, ?_, hchain.write_disabled hfree, hchain'.write_disabled hfree⟩
  unfold State.halted
  rw [hsame.fsm]

/-- A memory full of `JMP 1` holds no `STORE` at all. -/
theorem jmp_opcode (k : Nat) : opcode (latched_word (fun _ => 0xd001) k) = .LDI ∨
    opcode (latched_word (fun _ => 0xd001) k) = .JMP := by
  cases k with
  | zero => exact .inl (by decide)
  | succ k => exact .inr (by show opcode 0xd001 = .JMP; decide)

theorem jmp_store_free : StoreFree (fun _ => 0xd001) := by
  intro k _ hstore
  rcases jmp_opcode k with h | h <;> rw [h] at hstore <;> exact absurd hstore (by decide)

/-- Registers full of ones and others full of zeros, 20 cycles on. -/
theorem data_unobservable_jmp :
    SameControl
      (run System.step (power_on_with (fun _ => 0xd001) (fun _ => 0xffff) 7)
        (fun k => ⟨false, ⟨0, k⟩⟩) 20)
      (run System.step (power_on_with (fun _ => 0xd001) (fun _ => 0) 0)
        (fun _ => ⟨false, ⟨5, 0⟩⟩) 20) :=
  (data_unobservable _ jmp_store_free (fun _ => 0xffff) (fun _ => 0) 7 0 (fun _ => false)
    (fun k => ⟨0, k⟩) (fun _ => ⟨5, 0⟩) 20).1

/-! ## Section 4: Whether the CPU halts -/

section halts

variable {image : Words} {alu_out : BitVec 16} {undriven : Nat → Undriven}

/-- The states before the first `HALT`. -/
structure Running (image : Words) (s : System) : Prop where
  in_chain : ∃ k, InChain image k s
  fsm : s.cpu.fsm = FSM_FETCH ∨ s.cpu.fsm = FSM_EXECUTE ∨ s.cpu.fsm = FSM_MEMORY

theorem Running.step (hfree : StoreFree image)
    (hhalt : ∀ k, opcode (latched_word image k) ≠ .HALT) {s : System} (h : Running image s)
    (u : Undriven) : Running image (s.step ⟨false, u⟩) := by
  obtain ⟨⟨k, hk⟩, hfsm⟩ := h
  rcases hfsm with hfetch | hexec | hmem
  · refine ⟨⟨k, hk.keep hfree (by rw [hfetch]; decide)⟩, .inr (.inl ?_)⟩
    rw [system_step_fsm, hfetch, control_fsm_fetch]
  · -- only a `HALT` leaves the three states
    refine ⟨⟨k + 1, hk.execute hfree hexec⟩, ?_⟩
    rw [system_step_fsm, hexec, control_fsm_execute, hk.ir, if_neg (hhalt k)]
    split_ifs
    · exact .inr (.inr rfl)
    · exact .inl rfl
  · refine ⟨⟨k, hk.keep hfree (by rw [hmem]; decide)⟩, .inl ?_⟩
    rw [system_step_fsm, hmem, control_fsm_memory]

/-- A chain without `HALT` never halts. -/
theorem never_halts (hfree : StoreFree image)
    (hhalt : ∀ k, opcode (latched_word image k) ≠ .HALT) (n : Nat) :
    (system_run image alu_out undriven n).cpu.halted = false := by
  have hrun : Running image (system_run image alu_out undriven n) :=
    Clocked.run_rule (Running image) ⟨⟨0, rfl, rfl⟩, .inl rfl⟩
      (fun _ _ ht => ht.step hfree hhalt _) n
  rw [State.halted]
  rcases hrun.fsm with h | h | h <;> rw [h] <;> decide

theorem system_run_fsm (n : Nat) :
    (system_run image alu_out undriven (n + 1)).cpu.fsm =
      control_fsm false (opcode (system_run image alu_out undriven n).cpu.ir)
        (system_run image alu_out undriven n).cpu.fsm := system_step_fsm

/-- A word is executed in the cycle after its `FSM_FETCH`. -/
theorem InChain.fetched (hfree : StoreFree image) {k n : Nat}
    (h : InChain image k (system_run image alu_out undriven n))
    (hfetch : (system_run image alu_out undriven n).cpu.fsm = FSM_FETCH) :
    InChain image k (system_run image alu_out undriven (n + 1)) ∧
      (system_run image alu_out undriven (n + 1)).cpu.fsm = FSM_EXECUTE := by
  refine ⟨h.keep hfree (by rw [hfetch]; decide), ?_⟩
  rw [system_run_fsm, hfetch, control_fsm_fetch]

/-- A word that is no `HALT` takes two cycles or three. -/
theorem chain_boundary (alu_out : BitVec 16) (undriven : Nat → Undriven)
    (hfree : StoreFree image) {k : Nat} (hhalt : ∀ j < k, opcode (latched_word image j) ≠ .HALT) :
    ∃ n ≤ 3 * k, InChain image k (system_run image alu_out undriven n) ∧
      (system_run image alu_out undriven n).cpu.fsm = FSM_FETCH := by
  induction k with
  | zero => exact ⟨0, Nat.le_refl 0, ⟨rfl, rfl⟩, rfl⟩
  | succ k ih =>
    obtain ⟨n, hn, hchain, hfetch⟩ := ih fun j hj => hhalt j (Nat.lt_succ_of_lt hj)
    -- cycle `n` is the `FSM_FETCH` of the word, cycle `n + 1` its `FSM_EXECUTE`
    obtain ⟨hchain₁, hexec⟩ := hchain.fetched hfree hfetch
    have hchain₂ : InChain image (k + 1) (system_run image alu_out undriven (n + 2)) :=
      hchain₁.execute hfree hexec
    have hnext : (system_run image alu_out undriven (n + 2)).cpu.fsm = _ := system_run_fsm (n + 1)
    rw [hexec, control_fsm_execute, hchain₁.ir, if_neg (hhalt k (Nat.lt_succ_self k))] at hnext
    split_ifs at hnext with hmemory
    · -- `LOAD` has an `FSM_MEMORY`
      refine ⟨n + 3, by omega, hchain₂.keep hfree (by rw [hnext]; decide), ?_⟩
      rw [system_run_fsm, hnext, control_fsm_memory]
    · exact ⟨n + 2, by omega, hchain₂, hnext⟩

/-- Without a reset `FSM_HALT` is for good. -/
theorem halted_stays {n : Nat} (h : (system_run image alu_out undriven n).cpu.fsm = FSM_HALT)
    (m : Nat) : (system_run image alu_out undriven (n + m)).cpu.fsm = FSM_HALT := by
  induction m with
  | zero => exact h
  | succ m ih =>
    rw [← Nat.add_assoc, system_run_fsm, ih, control_fsm_halt]
    rfl

/-- The first `HALT` of the chain takes effect by cycle `3 * 512 + 2`. -/
theorem halts_by {k : Nat} (hk : k ≤ 512) (hfree : StoreFree image)
    (hhalt : opcode (latched_word image k) = .HALT)
    (hbefore : ∀ j < k, opcode (latched_word image j) ≠ .HALT) {n : Nat} (hn : 1538 ≤ n) :
    (system_run image alu_out undriven n).cpu.halted = true := by
  obtain ⟨m, hm, hchain, hfetch⟩ := chain_boundary alu_out undriven hfree hbefore
  obtain ⟨hchain₁, hexec⟩ := hchain.fetched hfree hfetch
  have hhalted : (system_run image alu_out undriven (m + 2)).cpu.fsm = FSM_HALT := by
    rw [system_run_fsm, hexec, control_fsm_execute, hchain₁.ir, hhalt]
    rfl
  have hlate := halted_stays hhalted (n - (m + 2))
  rw [Nat.add_sub_of_le (by omega)] at hlate
  rw [State.halted, hlate]
  rfl

/-- **Halting is decidable**: without a `STORE` in the chain, the CPU halts if and only if
    there is a `HALT` in it, whatever the latch and the undriven nets hold, and it is then
    halted in every cycle from 1538 on. -/
theorem halts_iff (image : Words) (hfree : StoreFree image) (alu_out : BitVec 16)
    (undriven : Nat → Undriven) :
    ((∃ n, (system_run image alu_out undriven n).cpu.halted = true) ↔
      ∃ k ≤ 512, opcode (latched_word image k) = .HALT) ∧
    ((∃ n, (system_run image alu_out undriven n).cpu.halted = true) →
      ∀ n ≥ 1538, (system_run image alu_out undriven n).cpu.halted = true) := by
  have hsome : (∃ n, (system_run image alu_out undriven n).cpu.halted = true) →
      ∃ k, opcode (latched_word image k) = .HALT := by
    rintro ⟨n, hn⟩
    by_contra hnone
    rw [never_halts hfree (not_exists.mp hnone) n] at hn
    exact absurd hn (by decide)
  have hlate : (∃ k, opcode (latched_word image k) = .HALT) →
      ∀ n ≥ 1538, (system_run image alu_out undriven n).cpu.halted = true := by
    intro hhalt n hn
    -- the first `HALT`, which is among the 512 words
    have hfirst := Nat.find_spec hhalt
    obtain ⟨k, hk, hk'⟩ := latched_word_reaches (p := fun w => opcode w = .HALT) hhalt
    exact halts_by ((Nat.find_min' hhalt hk').trans hk) hfree hfirst
      (fun j hj => Nat.find_min hhalt hj) hn
  refine ⟨⟨fun h => latched_word_reaches (p := fun w => opcode w = .HALT) (hsome h), ?_⟩,
    fun h => hlate (hsome h)⟩
  rintro ⟨k, -, hk⟩
  exact ⟨1538, hlate ⟨k, hk⟩ 1538 (Nat.le_refl _)⟩

end halts

/-- Memory full of `JMP 1`: the chain is the zero word and then `JMP 1`. -/
theorem halts_iff_jmp :
    StoreFree (fun _ => 0xd001) ∧
      ¬ ∃ n, (system_run (fun _ => 0xd001) 0 (fun _ => ⟨0, 0⟩) n).cpu.halted = true := by
  refine ⟨jmp_store_free, fun hhalts => ?_⟩
  obtain ⟨k, -, hk⟩ := (halts_iff _ jmp_store_free 0 _).1.mp hhalts
  rcases jmp_opcode k with h | h <;> rw [h] at hk <;> exact absurd hk (by decide)

end CPU
