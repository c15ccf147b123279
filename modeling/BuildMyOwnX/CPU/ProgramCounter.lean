import BuildMyOwnX.CPU.Cpu

/-! # The Program Counter

    `program_counter` keeps its value in an inner register, fed back through the
    incrementer. The register follows the law of a program counter over every
    sequence of clock edges (`program_counter_run_eq`).

    The output `data_out` does not: it is declared as a register of its own and
    no statement assigns it, so it says nothing about the inner one. The testbench
    compares it with `!=`, which an unknown value passes.
-/

namespace CPU

/-! ## Section 1: The module and its law -/

/-- The inputs of `program_counter` at a clock edge. -/
structure ProgramCounterInput where
  reset : Bool
  advance : Bool
  write_enable : Bool
  write_data : BitVec 16

/-- The inner register after some clock edges; it is zero at first. -/
def program_counter_run (inputs : List ProgramCounterInput) : BitVec 16 :=
  inputs.foldl
    (fun register_out i =>
      program_counter i.reset i.advance i.write_enable i.write_data register_out) 0

/-- The output port, which holds what a net without a driver holds. -/
def program_counter_data_out (_register_out undriven : BitVec 16) : BitVec 16 := undriven

/-- The value of a program counter after an edge. -/
def next_pc (pc : BitVec 16) (i : ProgramCounterInput) : BitVec 16 :=
  if i.reset then 0
  else if i.write_enable then i.write_data
  else if i.advance then pc + 1
  else pc

def pc_after (inputs : List ProgramCounterInput) : BitVec 16 := inputs.foldl next_pc 0

/-- The output is the value of the program counter. -/
def TracksPc (inputs : List ProgramCounterInput) : Prop :=
  ∀ undriven, program_counter_data_out (program_counter_run inputs) undriven = pc_after inputs

/-- The address that the control unit fetches from, `pc[8:0]`, is that of the
    program counter. -/
def FetchesAtPc (inputs : List ProgramCounterInput) : Prop :=
  ∀ undriven, (program_counter_data_out (program_counter_run inputs) undriven).extractLsb' 0 9 =
    (pc_after inputs).extractLsb' 0 9

/-! ## Section 2: The register follows the law, the output does not -/

theorem program_counter_eq (pc : BitVec 16) (i : ProgramCounterInput) :
    program_counter i.reset i.advance i.write_enable i.write_data pc = next_pc pc i := by
  simp only [program_counter, register, adder_16bit_eq, next_pc]
  cases i.reset <;> cases i.write_enable <;> cases i.advance <;> rfl

theorem program_counter_run_eq (inputs : List ProgramCounterInput) :
    program_counter_run inputs = pc_after inputs := by
  have hstep : (fun register_out i => program_counter i.reset i.advance i.write_enable
      i.write_data register_out) = next_pc :=
    funext fun pc => funext fun i => program_counter_eq pc i
  rw [program_counter_run, hstep]
  rfl

/-- Wherever the control unit fetches from, the net may hold another address. -/
theorem not_fetches_at_pc (inputs : List ProgramCounterInput) : ¬ FetchesAtPc inputs := by
  intro h
  have h₀ : (0 : BitVec 16).extractLsb' 0 9 = _ := h 0
  have h₁ : (1 : BitVec 16).extractLsb' 0 9 = _ := h 1
  exact absurd (h₀.trans h₁.symm) (by decide)

theorem not_tracks_pc (inputs : List ProgramCounterInput) : ¬ TracksPc inputs := by
  intro h
  exact not_fetches_at_pc inputs fun undriven => congrArg _ (h undriven)

/-- **Program counter law**: after every sequence of edges the inner register has
    the value of the program counter, and neither the output port nor the fetch
    address is determined by it. -/
theorem program_counter_law (inputs : List ProgramCounterInput) :
    program_counter_run inputs = pc_after inputs ∧
      ¬ TracksPc inputs ∧ ¬ FetchesAtPc inputs :=
  ⟨program_counter_run_eq inputs, not_tracks_pc inputs, not_fetches_at_pc inputs⟩

/-- The first case of the testbench, an edge with reset high. -/
theorem reset_not_tracked : ¬ TracksPc [⟨true, false, false, 0⟩] :=
  not_tracks_pc _

/-- In `cpu` the address of a fetch is left open in every state. -/
theorem fetch_address_open (s : State) (hfetch : s.fsm = FSM_FETCH) :
    ∀ address, ∃ undriven, s.mem_address undriven = address := by
  intro address
  refine ⟨⟨0, address.setWidth 16⟩, ?_⟩
  rw [State.mem_address, if_pos hfetch]
  apply BitVec.eq_of_getLsbD_eq
  intro i hi
  simp only [BitVec.getLsbD_extractLsb', BitVec.getLsbD_setWidth, Nat.zero_add]
  simp [hi]
  omega

end CPU
