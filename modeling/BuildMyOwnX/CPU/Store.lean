import BuildMyOwnX.CPU.Components
import BuildMyOwnX.Framework.Store

/-! # The Memory and the Register File as Stores

    Whole runs of the two register arrays: after any sequence of clock edges
    `memory` and `register_file` return at each port what was last written to
    the address there, and zero where nothing was.

    Each is an instance of a `Store.Interface`. The work is done where the
    decoded enables are shown to select one register (`memory_eq`,
    `register_file_eq`): an edge is then an edge of the store.
-/

namespace CPU

/-! ## Section 1: memory -/

/-- The inputs of `memory` at a clock edge. -/
structure MemoryInput where
  address : BitVec 9
  write_enable : Bool
  write_data : BitVec 16

/-- The output of `memory`. -/
def memory_read_data (address : BitVec 9) (register_out : Words) : BitVec 16 :=
  register_out address

/-- The registers of `memory` after some clock edges; they are zero at first. -/
def memory_run (inputs : List MemoryInput) : Words :=
  inputs.foldl (fun register_out i => memory i.address i.write_enable i.write_data register_out)
    fun _ => 0

/-- `memory` has no reset. -/
def memory_interface : Store.Interface MemoryInput (BitVec 9) (BitVec 16) where
  clear _ := false
  enable := MemoryInput.write_enable
  addr := MemoryInput.address
  data := MemoryInput.write_data

/-- A function from addresses to words, updated where an edge enables it. -/
def update_word (words : BitVec 9 → BitVec 16) (i : MemoryInput) : BitVec 9 → BitVec 16 :=
  if i.write_enable then Function.update words i.address i.write_data else words

theorem memory_run_eq (inputs : List MemoryInput) :
    memory_run inputs = memory_interface.run 0 inputs := by
  apply Store.Interface.run_eq
  intro register_out i
  rw [memory_eq]
  rfl

/-- **The memory is a faithful store**: it returns the last word written to the
    address, and its registers are a function updated at one point for each
    enabled edge. -/
theorem memory_faithful (inputs : List MemoryInput) :
    (∀ address, memory_read_data address (memory_run inputs) =
      ((inputs.filter fun i => i.write_enable && decide (i.address = address)).getLast?.map
        MemoryInput.write_data).getD 0) ∧
    memory_run inputs = inputs.foldl update_word fun _ => 0 := by
  constructor
  · intro address
    rw [memory_read_data, memory_run_eq, Store.Interface.run_apply, Store.Interface.last_write,
      Store.Interface.since_clear_eq_self fun _ => rfl]
    rfl
  · rw [memory_run_eq]
    rfl

/-! ## Section 2: register_file -/

/-- The inputs of `register_file` at a clock edge. -/
structure RegisterFileInput where
  reset : Bool
  write_enable : Bool
  write_addr : BitVec 3
  write_data : BitVec 16

/-- The outputs of `register_file`. -/
structure RegisterFileOut where
  read_data_a : BitVec 16
  read_data_b : BitVec 16
  write_reg_data : BitVec 16
  deriving DecidableEq

def register_file_out (read_addr_a read_addr_b write_addr : BitVec 3) (data_out : Registers) :
    RegisterFileOut where
  read_data_a := data_out read_addr_a
  read_data_b := data_out read_addr_b
  write_reg_data := data_out write_addr

/-- The eight registers after some clock edges; they are zero at first. -/
def register_file_run (inputs : List RegisterFileInput) : Registers :=
  inputs.foldl
    (fun data_out i => register_file i.reset i.write_enable i.write_addr i.write_data data_out)
    fun _ => 0

def register_file_interface : Store.Interface RegisterFileInput (BitVec 3) (BitVec 16) where
  clear := RegisterFileInput.reset
  enable := RegisterFileInput.write_enable
  addr := RegisterFileInput.write_addr
  data := RegisterFileInput.write_data

/-- The edges since the last one with reset high. -/
def since_reset (inputs : List RegisterFileInput) : List RegisterFileInput :=
  inputs.rtakeWhile fun i => !i.reset

/-- The data of the last of these that wrote a register, or zero. -/
def last_written (inputs : List RegisterFileInput) (addr : BitVec 3) : BitVec 16 :=
  (((since_reset inputs).filter fun i =>
    i.write_enable && decide (i.write_addr = addr)).getLast?.map RegisterFileInput.write_data).getD 0

/-- Reset wins, whatever the write port holds. -/
theorem register_file_edge (reset write_enable : Bool) (write_addr : BitVec 3)
    (write_data : BitVec 16) (data_out : Registers) :
    register_file reset write_enable write_addr write_data data_out =
      if reset then fun _ => 0
      else if write_enable then Function.update data_out write_addr write_data
      else data_out := by
  cases reset with
  | true => rw [register_file_reset, if_pos rfl]
  | false => rw [register_file_eq, if_neg Bool.false_ne_true]

theorem register_file_run_eq (inputs : List RegisterFileInput) :
    register_file_run inputs = register_file_interface.run 0 inputs := by
  apply Store.Interface.run_eq
  intro data_out i
  rw [register_file_edge]
  rfl

theorem register_file_run_apply (inputs : List RegisterFileInput) (addr : BitVec 3) :
    register_file_run inputs addr = last_written inputs addr := by
  rw [register_file_run_eq, Store.Interface.run_apply]
  rfl

/-- **The register file is a faithful store with three ports**, and an edge with
    reset high clears it, enabled or not. -/
theorem register_file_faithful (inputs : List RegisterFileInput) :
    (∀ read_addr_a read_addr_b write_addr,
      register_file_out read_addr_a read_addr_b write_addr (register_file_run inputs) =
        { read_data_a := last_written inputs read_addr_a
          read_data_b := last_written inputs read_addr_b
          write_reg_data := last_written inputs write_addr }) ∧
    ∀ i, i.reset = true → register_file_run (inputs ++ [i]) = fun _ => 0 := by
  constructor
  · intro read_addr_a read_addr_b write_addr
    simp only [register_file_out, register_file_run_apply]
  · intro i hreset
    rw [register_file_run, List.foldl_append]
    show register_file i.reset _ _ _ _ = _
    rw [hreset, register_file_reset]

end CPU
