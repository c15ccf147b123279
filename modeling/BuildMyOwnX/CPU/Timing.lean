import BuildMyOwnX.CPU.Cpu

/-! # Instruction Timing

    `control_fsm` over whole programs. An instruction takes the cycles from one
    `FSM_FETCH` to the next, two of them, and one more in `FSM_MEMORY` for a
    `LOAD` or a `STORE` (`Held.spent`). A program takes the cycles of its
    instructions one after another, since a run goes on where a part of it ends.

    The opcode is the bits of the port here: no operation may be missing from
    the lists of the `case` statement, which has no default.
-/

namespace CPU

open Clocked (run trace joined)

/-! ## Section 1: control_fsm on its ports -/

abbrev OP_LDI : BitVec 4 := 0b0000
abbrev OP_MOV : BitVec 4 := 0b0001
abbrev OP_ADD : BitVec 4 := 0b0010
abbrev OP_SUB : BitVec 4 := 0b0011
abbrev OP_AND : BitVec 4 := 0b0100
abbrev OP_OR : BitVec 4 := 0b0101
abbrev OP_XOR : BitVec 4 := 0b0110
abbrev OP_SHL : BitVec 4 := 0b0111
abbrev OP_SHR : BitVec 4 := 0b1000
abbrev OP_MUL : BitVec 4 := 0b1001
abbrev OP_LOAD : BitVec 4 := 0b1010
abbrev OP_STORE : BitVec 4 := 0b1011
abbrev OP_CMP : BitVec 4 := 0b1100
abbrev OP_JMP : BitVec 4 := 0b1101
abbrev OP_JZ : BitVec 4 := 0b1110
abbrev OP_HALT : BitVec 4 := 0b1111

/-- The inputs of `control_fsm` in a cycle. -/
structure FsmInput where
  reset : Bool
  opcode : BitVec 4

/-- The inner `case` statement. -/
def execute_case (opcode : BitVec 4) (state : BitVec 3) : BitVec 3 :=
  if opcode ∈ [OP_LDI, OP_MOV, OP_ADD, OP_SUB, OP_AND, OP_OR, OP_XOR, OP_SHL, OP_SHR, OP_MUL,
      OP_CMP, OP_JMP, OP_JZ] then FSM_FETCH
  else if opcode ∈ [OP_LOAD, OP_STORE] then FSM_MEMORY
  else if opcode = OP_HALT then FSM_HALT
  -- no operation is left, see `execute_case_eq`
  else state

/-- `control_fsm` after the clock edge, with the opcode as it is on the port. -/
def fsm_step (state : BitVec 3) (i : FsmInput) : BitVec 3 :=
  if state = FSM_FETCH then FSM_EXECUTE
  else if state = FSM_EXECUTE then execute_case i.opcode state
  else if state = FSM_MEMORY then FSM_FETCH
  else if state = FSM_HALT then if i.reset then FSM_FETCH else state
  else state

/-- The state of the FSM at the beginning of cycle `n`; it is `FSM_FETCH` at first. -/
def fsm_run (inputs : Nat → FsmInput) (n : Nat) : BitVec 3 := run fsm_step FSM_FETCH inputs n

/-- The operations with a cycle in `FSM_MEMORY`. -/
def uses_memory (opcode : BitVec 4) : Bool := opcode = OP_LOAD ∨ opcode = OP_STORE

/-- Every operation is in one of the lists. -/
theorem execute_case_eq : ∀ (opcode : BitVec 4) (state : BitVec 3),
    execute_case opcode state =
      if uses_memory opcode then FSM_MEMORY
      else if opcode = OP_HALT then FSM_HALT
      else FSM_FETCH := by decide

section fsm_step

variable (i : FsmInput)

theorem fsm_step_fetch : fsm_step FSM_FETCH i = FSM_EXECUTE := rfl

theorem fsm_step_execute :
    fsm_step FSM_EXECUTE i =
      if uses_memory i.opcode then FSM_MEMORY
      else if i.opcode = OP_HALT then FSM_HALT
      else FSM_FETCH := execute_case_eq i.opcode FSM_EXECUTE

theorem fsm_step_memory : fsm_step FSM_MEMORY i = FSM_FETCH := rfl

theorem fsm_step_halt : fsm_step FSM_HALT i = if i.reset then FSM_FETCH else FSM_HALT := rfl

/-- The FSM of `cpu`, on the decoded opcode. -/
theorem fsm_step_eq (state : BitVec 3) :
    fsm_step state i = control_fsm i.reset (Opcode.of_bits i.opcode) state := by
  have hexecute : ∀ opcode : BitVec 4,
      execute_case opcode FSM_EXECUTE = control_fsm false (Opcode.of_bits opcode) FSM_EXECUTE := by
    decide
  unfold fsm_step
  by_cases hstate : state = FSM_EXECUTE
  · subst hstate
    exact hexecute i.opcode
  · unfold control_fsm
    rw [if_neg hstate, if_neg hstate]

end fsm_step

/-! ## Section 2: One instruction -/

/-- `opcode` is held, with reset low, for the `n` cycles from `FSM_FETCH` to the next
    `FSM_FETCH`. -/
structure Held (opcode : BitVec 4) (inputs : Nat → FsmInput) (n : Nat) : Prop where
  pos : 0 < n
  inputs_eq : ∀ k < n, inputs k = { reset := false, opcode := opcode }
  fetch : fsm_run inputs n = FSM_FETCH
  before : ∀ k, 0 < k → k < n → fsm_run inputs k ≠ FSM_FETCH

/-- The states of an instruction, one for each cycle. -/
def phases (opcode : BitVec 4) : List (BitVec 3) :=
  if uses_memory opcode then [FSM_FETCH, FSM_EXECUTE, FSM_MEMORY] else [FSM_FETCH, FSM_EXECUTE]

/-- The cycles of an instruction, with the inputs. -/
def instruction_trace (opcode : BitVec 4) : List (BitVec 3 × FsmInput) :=
  (phases opcode).map fun state => (state, { reset := false, opcode := opcode })

theorem length_phases (opcode : BitVec 4) :
    (phases opcode).length = 2 + if uses_memory opcode then 1 else 0 := by
  unfold phases
  split <;> rfl

theorem two_le_phases (opcode : BitVec 4) : 2 ≤ (phases opcode).length := by
  rw [length_phases]
  exact Nat.le_add_right 2 _

variable {inputs : Nat → FsmInput} {opcode : BitVec 4} {n : Nat}

theorem fsm_run_one (inputs : Nat → FsmInput) : fsm_run inputs 1 = FSM_EXECUTE := rfl

theorem fsm_run_two (inputs : Nat → FsmInput) :
    fsm_run inputs 2 =
      if uses_memory (inputs 1).opcode then FSM_MEMORY
      else if (inputs 1).opcode = OP_HALT then FSM_HALT
      else FSM_FETCH := fsm_step_execute (inputs 1)

/-- A halted FSM stays halted while reset is low. -/
theorem fsm_run_halted (h : fsm_run inputs n = FSM_HALT) (m : Nat)
    (hlow : ∀ k < m, (inputs (n + k)).reset = false) : fsm_run inputs (n + m) = FSM_HALT := by
  induction m with
  | zero => exact h
  | succ m ih =>
    have hm := ih fun k hk => hlow k (Nat.lt_succ_of_lt hk)
    show fsm_step (fsm_run inputs (n + m)) (inputs (n + m)) = FSM_HALT
    rw [hm, fsm_step_halt, hlow m (Nat.lt_succ_self m)]
    rfl

theorem Held.two_le (h : Held opcode inputs n) : 2 ≤ n := by
  have hpos := h.pos
  have hn : n ≠ 1 := by
    intro hone
    have hfetch := h.fetch
    rw [hone, fsm_run_one] at hfetch
    exact absurd hfetch (by decide)
  omega

/-- The opcode in `FSM_EXECUTE`. -/
theorem Held.opcode_one (h : Held opcode inputs n) : (inputs 1).opcode = opcode := by
  rw [h.inputs_eq 1 h.two_le]

/-- `HALT` is not held until the next `FSM_FETCH`: there is none. -/
theorem Held.not_halt (h : Held opcode inputs n) : opcode ≠ OP_HALT := by
  intro hhalt
  subst hhalt
  have hhalted : fsm_run inputs 2 = FSM_HALT := by
    rw [fsm_run_two, h.opcode_one]
    rfl
  have hlow : ∀ k < n - 2, (inputs (2 + k)).reset = false := by
    intro k hk
    rw [h.inputs_eq (2 + k) (by omega)]
  have hstays := fsm_run_halted hhalted (n - 2) hlow
  rw [Nat.add_sub_of_le h.two_le, h.fetch] at hstays
  exact absurd hstays (by decide)

/-- The states of the cycles in which an operation is held, and the one after them. -/
theorem fsm_run_phases (hone : (inputs 1).opcode = opcode) (hrun : opcode ≠ OP_HALT) :
    (List.range (phases opcode).length).map (fsm_run inputs) = phases opcode ∧
      fsm_run inputs (phases opcode).length = FSM_FETCH := by
  have htwo := fsm_run_two inputs
  rw [hone] at htwo
  unfold phases
  by_cases hmemory : uses_memory opcode
  · rw [if_pos hmemory] at htwo ⊢
    constructor
    · show [FSM_FETCH, FSM_EXECUTE, fsm_run inputs 2] = _
      rw [htwo]
    · show fsm_step (fsm_run inputs 2) (inputs 2) = FSM_FETCH
      rw [htwo, fsm_step_memory]
  · rw [if_neg hmemory, if_neg hrun] at htwo
    rw [if_neg hmemory]
    exact ⟨rfl, htwo⟩

/-- `FSM_FETCH` is only the first of the states of an instruction. -/
theorem fetch_once {k : Nat} (hpos : 0 < k) (hk : k < (phases opcode).length) :
    (phases opcode)[k] ≠ FSM_FETCH := by
  unfold phases at hk ⊢
  split at hk
  case isTrue hmemory =>
    simp only [if_pos hmemory]
    have hcases : k = 1 ∨ k = 2 := by
      simp at hk
      omega
    rcases hcases with rfl | rfl
    · show FSM_EXECUTE ≠ FSM_FETCH
      decide
    · show FSM_MEMORY ≠ FSM_FETCH
      decide
  case isFalse hmemory =>
    simp only [if_neg hmemory]
    have hk' : k = 1 := by
      simp at hk
      omega
    subst hk'
    show FSM_EXECUTE ≠ FSM_FETCH
    decide

theorem fsm_run_phase (hone : (inputs 1).opcode = opcode) (hrun : opcode ≠ OP_HALT) {k : Nat}
    (hk : k < (phases opcode).length) : fsm_run inputs k = (phases opcode)[k] := by
  have hstates := (fsm_run_phases hone hrun).1
  have hget := congrArg (·[k]?) hstates
  simpa [hk] using hget

/-- **The cycles of an instruction**: an operation that is held comes back to `FSM_FETCH`
    after its phases and not before. -/
theorem Held.spent (h : Held opcode inputs n) : n = (phases opcode).length := by
  have hfetch := (fsm_run_phases h.opcode_one h.not_halt).2
  rcases Nat.lt_trichotomy n (phases opcode).length with hlt | heq | hgt
  · have hphase := fsm_run_phase h.opcode_one h.not_halt hlt
    exact absurd (hphase.symm.trans h.fetch) (fetch_once h.pos hlt)
  · exact heq
  · have hpos : 0 < (phases opcode).length := Nat.lt_of_lt_of_le (by decide) (two_le_phases opcode)
    exact absurd hfetch (h.before _ hpos hgt)

theorem Held.trace_eq (h : Held opcode inputs n) :
    trace fsm_step FSM_FETCH inputs n = instruction_trace opcode := by
  unfold trace instruction_trace
  rw [← (fsm_run_phases h.opcode_one h.not_halt).1, List.map_map, ← h.spent]
  apply List.map_congr_left
  intro k hk
  show (fsm_run inputs k, inputs k) = (fsm_run inputs k, _)
  rw [h.inputs_eq k (List.mem_range.mp hk)]

/-- Every operation but `HALT` can be held. -/
theorem held_phases (hrun : opcode ≠ OP_HALT)
    (hinputs : ∀ k < (phases opcode).length, inputs k = { reset := false, opcode := opcode }) :
    Held opcode inputs (phases opcode).length := by
  have htwo := two_le_phases opcode
  have hone : (inputs 1).opcode = opcode := by
    rw [hinputs 1 htwo]
  constructor
  · omega
  · exact hinputs
  · exact (fsm_run_phases hone hrun).2
  · intro k hpos hk
    rw [fsm_run_phase hone hrun hk]
    exact fetch_once hpos hk

/-! ## Section 3: A program -/

/-- The operations of a program are held one after another, in `n` cycles. -/
inductive Drives : List (BitVec 4) → (Nat → FsmInput) → Nat → Prop
  | nil (inputs : Nat → FsmInput) : Drives [] inputs 0
  | cons {opcode : BitVec 4} {program : List (BitVec 4)} {inputs : Nat → FsmInput} {m n : Nat} :
      Held opcode inputs m → Drives program (fun k => inputs (m + k)) n →
      Drives (opcode :: program) inputs (m + n)

def program_cycles (program : List (BitVec 4)) : Nat :=
  2 * program.length + program.countP uses_memory

variable {program : List (BitVec 4)}

theorem program_cycles_cons (opcode : BitVec 4) (program : List (BitVec 4)) :
    program_cycles (opcode :: program) = (phases opcode).length + program_cycles program := by
  unfold program_cycles
  rw [length_phases, List.length_cons, List.countP_cons]
  omega

/-- Where an instruction ends the run goes on as from the start. -/
theorem fsm_run_add {m : Nat} (hm : fsm_run inputs m = FSM_FETCH) (n : Nat) :
    fsm_run inputs (m + n) = fsm_run (fun k => inputs (m + k)) n := by
  show run fsm_step FSM_FETCH inputs (m + n) = _
  rw [Clocked.run_add]
  show run fsm_step (fsm_run inputs m) _ n = _
  rw [hm]
  rfl

/-- **The cycles of a program**: the FSM is back in `FSM_FETCH`. -/
theorem Drives.spent (h : Drives program inputs n) :
    n = program_cycles program ∧ fsm_run inputs n = FSM_FETCH := by
  induction h with
  | nil inputs => exact ⟨rfl, rfl⟩
  | cons hheld _ ih =>
    rw [program_cycles_cons, ← hheld.spent, fsm_run_add hheld.fetch]
    exact ⟨congrArg _ ih.1, ih.2⟩

theorem Drives.trace_eq (h : Drives program inputs n) :
    trace fsm_step FSM_FETCH inputs n = program.flatMap instruction_trace := by
  induction h with
  | nil inputs => rfl
  | cons hheld _ ih =>
    rw [Clocked.trace_add, List.flatMap_cons, hheld.trace_eq]
    show _ ++ trace fsm_step (fsm_run _ _) _ _ = _
    rw [hheld.fetch, ih]

/-- Every program without `HALT` can be driven, whatever the inputs after it. -/
theorem drives_exists (hrun : ∀ opcode ∈ program, opcode ≠ OP_HALT) (rest : Nat → FsmInput) :
    ∃ inputs, Drives program inputs (program_cycles program) ∧
      ∀ k, inputs (program_cycles program + k) = rest k := by
  induction program with
  | nil =>
    refine ⟨rest, .nil rest, ?_⟩
    intro k
    exact congrArg rest (Nat.zero_add k)
  | cons opcode program ih =>
    obtain ⟨inputs, hdrives, hrest⟩ := ih fun opcode' hmem =>
      hrun opcode' (List.mem_cons_of_mem opcode hmem)
    -- the first operation is held before the others
    let held : Nat → FsmInput := fun _ => { reset := false, opcode := opcode }
    refine ⟨joined (phases opcode).length held inputs, ?_, ?_⟩
    · rw [program_cycles_cons]
      constructor
      · apply held_phases (hrun opcode List.mem_cons_self)
        intro k hk
        exact Clocked.joined_lt held inputs hk
      · simp only [Clocked.joined_add]
        exact hdrives
    · intro k
      rw [program_cycles_cons, Nat.add_assoc, Clocked.joined_add, hrest]

/-! ## Section 4: Visits -/

/-- The number of cycles in a state. -/
def visits (state : BitVec 3) (cycles : List (BitVec 3 × FsmInput)) : Nat :=
  cycles.countP fun c => decide (c.1 = state)

theorem visits_instruction (state : BitVec 3) (opcode : BitVec 4) :
    visits state (instruction_trace opcode) =
      (if state = FSM_FETCH then 1 else 0) + (if state = FSM_EXECUTE then 1 else 0) +
        (if state = FSM_MEMORY ∧ uses_memory opcode then 1 else 0) := by
  unfold visits instruction_trace phases
  by_cases hmemory : uses_memory opcode
  · rw [if_pos hmemory]
    simp only [List.map_cons, List.map_nil, List.countP_cons, List.countP_nil, hmemory,
      decide_eq_true_eq, eq_comm (b := state), and_true]
    omega
  · rw [if_neg hmemory]
    simp only [List.map_cons, List.map_nil, List.countP_cons, List.countP_nil, hmemory,
      decide_eq_true_eq, eq_comm (b := state), and_false, if_false, Bool.false_eq_true]
    omega

/-- Each operation adds its visits. -/
theorem visits_program (state : BitVec 3) (program : List (BitVec 4)) :
    visits state (program.flatMap instruction_trace) =
      (if state = FSM_FETCH then program.length else 0) +
        (if state = FSM_EXECUTE then program.length else 0) +
        (if state = FSM_MEMORY then program.countP uses_memory else 0) := by
  induction program with
  | nil => simp [visits]
  | cons opcode program ih =>
    have happend : visits state ((opcode :: program).flatMap instruction_trace) =
        visits state (instruction_trace opcode) +
          visits state (program.flatMap instruction_trace) := by
      rw [List.flatMap_cons, visits, List.countP_append]
      rfl
    rw [happend, ih, visits_instruction, List.length_cons, List.countP_cons]
    by_cases hmemory : state = FSM_MEMORY
    · simp only [hmemory, true_and, if_true]
      split_ifs <;> omega
    · simp only [hmemory, false_and, if_false]
      split_ifs <;> omega

theorem visits_fetch (program : List (BitVec 4)) :
    visits FSM_FETCH (program.flatMap instruction_trace) = program.length :=
  visits_program FSM_FETCH program

theorem visits_execute (program : List (BitVec 4)) :
    visits FSM_EXECUTE (program.flatMap instruction_trace) = program.length := by
  rw [visits_program]
  exact Nat.zero_add program.length

theorem visits_memory (program : List (BitVec 4)) :
    visits FSM_MEMORY (program.flatMap instruction_trace) = program.countP uses_memory := by
  rw [visits_program]
  exact Nat.zero_add (program.countP uses_memory)

/-! ## Section 5: The law of timing -/

/-- The four encodings of `fsm_states.vh`. -/
def IsState (state : BitVec 3) : Prop :=
  state = FSM_FETCH ∨ state = FSM_EXECUTE ∨ state = FSM_MEMORY ∨ state = FSM_HALT

instance : DecidablePred IsState := fun _ => inferInstanceAs (Decidable (_ ∨ _ ∨ _ ∨ _))

theorem fsm_step_is_state {state : BitVec 3} (h : IsState state) (i : FsmInput) :
    IsState (fsm_step state i) := by
  rcases h with rfl | rfl | rfl | rfl
  · rw [fsm_step_fetch]
    decide
  · rw [fsm_step_execute]
    split_ifs <;> decide
  · rw [fsm_step_memory]
    decide
  · rw [fsm_step_halt]
    split_ifs <;> decide

/-- No inputs lead out of the four states. -/
theorem fsm_run_is_state (inputs : Nat → FsmInput) (n : Nat) : IsState (fsm_run inputs n) :=
  Clocked.run_rule IsState (by decide) (fun _ n h => fsm_step_is_state h (inputs n)) n

/-- `FSM_MEMORY` is entered from `FSM_EXECUTE` only, by the operations that use it. -/
theorem fsm_step_eq_memory {state : BitVec 3} (h : IsState state) (i : FsmInput) :
    fsm_step state i = FSM_MEMORY ↔ state = FSM_EXECUTE ∧ uses_memory i.opcode := by
  rcases h with rfl | rfl | rfl | rfl
  · rw [fsm_step_fetch]
    simp [FSM_FETCH, FSM_EXECUTE, FSM_MEMORY]
  · rw [fsm_step_execute]
    split_ifs <;> simp_all [FSM_FETCH, FSM_MEMORY, FSM_HALT]
  · rw [fsm_step_memory]
    simp [FSM_FETCH, FSM_EXECUTE, FSM_MEMORY]
  · rw [fsm_step_halt]
    split_ifs <;> simp [FSM_FETCH, FSM_EXECUTE, FSM_MEMORY, FSM_HALT]

/-- In `FSM_HALT` from cycle `n` on, for as long as reset is low. -/
structure Halts (inputs : Nat → FsmInput) (n : Nat) : Prop where
  stays : ∀ m, (∀ k < m, (inputs (n + k)).reset = false) → fsm_run inputs (n + m) = FSM_HALT
  reset : ∀ m, (∀ k < m, (inputs (n + k)).reset = false) → (inputs (n + m)).reset = true →
    fsm_run inputs (n + m + 1) = FSM_FETCH

/-- A `HALT` at the beginning of an instruction. -/
theorem halts_of_halt (hfetch : fsm_run inputs n = FSM_FETCH)
    (hhalt : (inputs (n + 1)).opcode = OP_HALT) : Halts inputs (n + 2) := by
  have hhalted : fsm_run inputs (n + 2) = FSM_HALT := by
    rw [fsm_run_add hfetch, fsm_run_two]
    show (if uses_memory (inputs (n + 1)).opcode then FSM_MEMORY
      else if (inputs (n + 1)).opcode = OP_HALT then FSM_HALT else FSM_FETCH) = FSM_HALT
    rw [hhalt]
    rfl
  constructor
  · exact fsm_run_halted hhalted
  · intro m hlow hreset
    show fsm_step (fsm_run inputs (n + 2 + m)) (inputs (n + 2 + m)) = FSM_FETCH
    rw [fsm_run_halted hhalted m hlow, fsm_step_halt, hreset]
    rfl

/-- The run of the FSM through a program that is driven in `n` cycles. -/
structure Timing (program : List (BitVec 4)) (inputs : Nat → FsmInput) (n : Nat) : Prop where
  cycles : n = 2 * program.length + program.countP uses_memory
  back : fsm_run inputs n = FSM_FETCH
  /-- Cycle by cycle, with the inputs. -/
  states : trace fsm_step FSM_FETCH inputs n = program.flatMap instruction_trace
  fetch : visits FSM_FETCH (trace fsm_step FSM_FETCH inputs n) = program.length
  execute : visits FSM_EXECUTE (trace fsm_step FSM_FETCH inputs n) = program.length
  memory : visits FSM_MEMORY (trace fsm_step FSM_FETCH inputs n) = program.countP uses_memory
  /-- A `HALT` that follows. -/
  halt : (∀ k < 2, inputs (n + k) = { reset := false, opcode := OP_HALT }) → Halts inputs (n + 2)

theorem Drives.timing (h : Drives program inputs n) : Timing program inputs n := by
  obtain ⟨hcycles, hback⟩ := h.spent
  refine ⟨hcycles, hback, h.trace_eq, ?_, ?_, ?_, ?_⟩
  · rw [h.trace_eq, visits_fetch]
  · rw [h.trace_eq, visits_execute]
  · rw [h.trace_eq, visits_memory]
  · intro hhalt
    have hopcode : (inputs (n + 1)).opcode = OP_HALT := by
      rw [hhalt 1 (by decide)]
    exact halts_of_halt hback hopcode

/-- **Instruction timing**: a program without `HALT` can be driven, and then takes two
    cycles for each operation and one more for each that uses the memory; for every
    stream of inputs the FSM is in one of its four states, and in `FSM_MEMORY`
    exactly after a `LOAD` or a `STORE` in `FSM_EXECUTE`. -/
theorem instruction_timing :
    (∀ program inputs n, Drives program inputs n → Timing program inputs n) ∧
    (∀ program, (∀ opcode ∈ program, opcode ≠ OP_HALT) → ∀ rest : Nat → FsmInput,
      ∃ inputs, Drives program inputs (program_cycles program) ∧
        ∀ k, inputs (program_cycles program + k) = rest k) ∧
    ∀ (inputs : Nat → FsmInput) (n : Nat), IsState (fsm_run inputs n) ∧
      (fsm_run inputs (n + 1) = FSM_MEMORY ↔
        fsm_run inputs n = FSM_EXECUTE ∧ uses_memory (inputs n).opcode) := by
  refine ⟨?_, ?_, ?_⟩
  · intro program inputs n h
    exact h.timing
  · intro program hrun rest
    exact drives_exists hrun rest
  · intro inputs n
    have hstate := fsm_run_is_state inputs n
    exact ⟨hstate, fsm_step_eq_memory hstate (inputs n)⟩

/-- An addition, a load and a store, and then `HALT`. -/
theorem instruction_timing_three :
    ∃ inputs, Timing [OP_ADD, OP_LOAD, OP_STORE] inputs 8 ∧ Halts inputs 10 := by
  obtain ⟨inputs, hdrives, hrest⟩ := instruction_timing.2.1 [OP_ADD, OP_LOAD, OP_STORE]
    (by decide) fun _ => { reset := false, opcode := OP_HALT }
  have htiming := instruction_timing.1 _ inputs 8 hdrives
  exact ⟨inputs, htiming, htiming.halt fun k _ => hrest k⟩

/-! ## Section 6: The FSM of cpu -/

/-- What `cpu` puts on the ports of its FSM. -/
def fsm_input (s : State) (i : Input) : FsmInput where
  reset := i.reset
  opcode := s.ir.extractLsb' 12 4

theorem cpu_step_fsm (s : State) (i : Input) : (step s i).fsm = fsm_step s.fsm (fsm_input s i) := by
  rw [step_fsm, fsm_step_eq]
  rfl

/-- The runs above are those of the FSM inside `cpu`, whatever is on the buses. -/
theorem cpu_run_fsm (alu_out : BitVec 16) (inputs : Nat → Input) (n : Nat) :
    (run step (power_on alu_out) inputs n).fsm =
      fsm_run (fun k => fsm_input (run step (power_on alu_out) inputs k) (inputs k)) n :=
  Clocked.run_map State.fsm fsm_input cpu_step_fsm (power_on alu_out) inputs n

end CPU
