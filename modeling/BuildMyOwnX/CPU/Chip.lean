import BuildMyOwnX.CPU.Cpu

/-! # The Chip

    `chip` connects `cpu` and `memory`, but not as `System` does. Its address and
    write data nets are declared without a range and carry one bit, and so is
    the net at the memory's `read_data`; the net at the cpu's `mem_read_data` is
    another one, `in_cpu_mem_data`, which is implicit, one bit wide, and has no
    driver.

    Chip and `System` go through the same states as long as every value fits
    its net, and the bit on the undriven net is the word that the memory holds.
    They are in lockstep up to a cycle exactly in that case (`lockstep_iff`).
-/

namespace CPU

open Clocked (run run_succ)

/-! ## Section 1: chip.v -/

/-- The inputs of `chip` in a cycle, and what its undriven nets hold. -/
structure Chip.Input extends System.Input where
  in_cpu_mem_data : Bool

/-- A port of `w` bits that reads a one-bit net. -/
def from_net (w : Nat) (net : Bool) : BitVec w := (BitVec.ofBool net).setWidth w

/-- A one-bit net that a port drives. -/
def to_net {w : Nat} (port : BitVec w) : Bool := port.getLsbD 0

namespace Chip

variable (s : System) (i : Input)

def cpu_out_mem_address : Bool := to_net (s.cpu.mem_address i.undriven)

def cpu_out_mem_write_data : Bool := to_net s.cpu.mem_write_data

def cpu_out_mem_write_enable : Bool := s.cpu.mem_write_enable

/-- The ports of `memory_module`. -/
def memory_address : BitVec 9 := from_net 9 (cpu_out_mem_address s i)

def memory_write_data : BitVec 16 := from_net 16 (cpu_out_mem_write_data s)

/-- The port of `cpu_module`. -/
def cpu_mem_read_data : BitVec 16 := from_net 16 i.in_cpu_mem_data

/-- The net that nothing reads. -/
def cpu_in_mem_data : Bool := to_net (s.words (memory_address s i))

def halted : Bool := s.cpu.halted

def step : System where
  cpu := CPU.step s.cpu ⟨i.reset, cpu_mem_read_data i, i.undriven⟩
  words := memory (memory_address s i) (cpu_out_mem_write_enable s) (memory_write_data s) s.words

end Chip

/-! ## Section 2: Lockstep -/

/-- The states of `chip` and of `System` for the same inputs. -/
def chip_run (image : Words) (alu_out : BitVec 16) (inputs : Nat → Chip.Input) : Nat → System :=
  run Chip.step ⟨power_on alu_out, image⟩ inputs

def full_run (image : Words) (alu_out : BitVec 16) (inputs : Nat → Chip.Input) : Nat → System :=
  run System.step ⟨power_on alu_out, image⟩ fun n => (inputs n).toInput

/-- What `chip` in state `s` and `System` in state `t` have in common in a cycle. -/
structure Agrees (s t : System) (i : Chip.Input) : Prop where
  address : Chip.memory_address s i = s.cpu.mem_address i.undriven
  write_data : Chip.memory_write_data s = s.cpu.mem_write_data
  write_enable : Chip.cpu_out_mem_write_enable s = s.cpu.mem_write_enable
  read_data : Chip.cpu_mem_read_data i = s.words (s.cpu.mem_address i.undriven)
  halted : Chip.halted s = t.cpu.halted

/-- In each of the cycles `0, …, n`. -/
def Lockstep (image : Words) (alu_out : BitVec 16) (inputs : Nat → Chip.Input) (n : Nat) : Prop :=
  ∀ c ≤ n, Agrees (chip_run image alu_out inputs c) (full_run image alu_out inputs c) (inputs c)

/-- One bit is enough: the address is 0 or 1, so is the data on the write bus, and the
    word that is read is the bit on the undriven net. -/
structure Fits (s : System) (i : Chip.Input) : Prop where
  address : (s.cpu.mem_address i.undriven).toNat ≤ 1
  write_data : s.cpu.mem_write_data.toNat ≤ 1
  read_data : s.mem_read_data i.undriven = (BitVec.ofBool i.in_cpu_mem_data).setWidth 16

/-! ## Section 3: Proof -/

/-- Through a one-bit net come 0 and 1 only. -/
theorem from_to_net {w : Nat} (hw : 0 < w) (port : BitVec w) :
    from_net w (to_net port) = port ↔ port.toNat ≤ 1 := by
  have hone : 1 % 2 ^ w = 1 := Nat.mod_eq_of_lt (Nat.one_lt_two_pow hw.ne')
  have hbit : (from_net w (to_net port)).toNat = port.toNat % 2 := by
    rw [from_net, to_net, ← BitVec.and_one_eq_setWidth_ofBool_getLsbD, BitVec.toNat_and,
      BitVec.toNat_ofNat, hone, Nat.and_one_is_mod]
  rw [← BitVec.toNat_inj, hbit]
  omega

section cycle

variable {s t : System} {i : Chip.Input}

/-- The wiring of a cycle is right exactly if everything fits. -/
theorem agrees_iff : Agrees s t i ↔ Fits s i ∧ s.cpu.halted = t.cpu.halted := by
  constructor
  · intro h
    exact ⟨⟨(from_to_net (by decide) _).mp h.address, (from_to_net (by decide) _).mp h.write_data,
      h.read_data.symm⟩, h.halted⟩
  · rintro ⟨h, hhalted⟩
    exact ⟨(from_to_net (by decide) _).mpr h.address, (from_to_net (by decide) _).mpr h.write_data,
      rfl, h.read_data.symm, hhalted⟩

/-- If everything fits, the clock edge is that of the full buses. -/
theorem step_of_fits (h : Fits s i) : Chip.step s i = System.step s i.toInput := by
  have haddress : Chip.memory_address s i = s.cpu.mem_address i.undriven :=
    (from_to_net (by decide) _).mpr h.address
  have hwrite : Chip.memory_write_data s = s.cpu.mem_write_data :=
    (from_to_net (by decide) _).mpr h.write_data
  have hread : Chip.cpu_mem_read_data i = s.mem_read_data i.undriven := h.read_data.symm
  rw [Chip.step, System.step, haddress, hwrite, hread]
  rfl

end cycle

variable {image : Words} {alu_out : BitVec 16} {inputs : Nat → Chip.Input} {n : Nat}

/-- While everything fits in the run with full buses, the chip is in the same states. -/
theorem chip_run_of_full (h : ∀ c < n, Fits (full_run image alu_out inputs c) (inputs c)) :
    chip_run image alu_out inputs n = full_run image alu_out inputs n :=
  Clocked.run_eq_run n fun c hc => step_of_fits (h c hc)

/-- And while everything fits in its own run. -/
theorem full_run_of_chip (h : ∀ c < n, Fits (chip_run image alu_out inputs c) (inputs c)) :
    full_run image alu_out inputs n = chip_run image alu_out inputs n :=
  Clocked.run_eq_run n fun c hc => (step_of_fits (h c hc)).symm

/-- **Chip**: it is in lockstep with the CPU and its memory exactly as long as in their
    run everything fits its one-bit net. -/
theorem lockstep_iff (image : Words) (alu_out : BitVec 16) (inputs : Nat → Chip.Input) (n : Nat) :
    Lockstep image alu_out inputs n ↔
      ∀ c ≤ n, Fits (full_run image alu_out inputs c) (inputs c) := by
  constructor
  · intro h c hc
    -- in its own run everything fits, so that run is the one with full buses
    have hchip : ∀ c' ≤ n, Fits (chip_run image alu_out inputs c') (inputs c') :=
      fun c' hc' => (agrees_iff.mp (h c' hc')).1
    rw [full_run_of_chip fun c' hc' => hchip c' (Nat.le_trans (Nat.le_of_lt hc') hc)]
    exact hchip c hc
  · intro h c hc
    have hrun : chip_run image alu_out inputs c = full_run image alu_out inputs c :=
      chip_run_of_full fun c' hc' => h c' (Nat.le_trans (Nat.le_of_lt hc') hc)
    rw [hrun]
    exact agrees_iff.mpr ⟨h c hc, rfl⟩

/-- Whatever is in memory and on the reset, some value of the undriven program counter net
    breaks the lockstep: the first address does not fit. -/
theorem lockstep_breaks (image : Words) (alu_out : BitVec 16) (resets : Nat → Bool) (n : Nat) :
    ∃ inputs : Nat → Chip.Input, (∀ c, (inputs c).reset = resets c) ∧
      ¬ Lockstep image alu_out inputs n := by
  refine ⟨fun c => ⟨⟨resets c, ⟨0, 2⟩⟩, false⟩, fun _ => rfl, fun h => ?_⟩
  have haddress := (agrees_iff.mp (h 0 (Nat.zero_le n))).1.address
  exact absurd haddress (by decide : ¬ (2 : BitVec 9).toNat ≤ 1)

/-- Memory full of `0xffff` does not come through to the cpu. -/
theorem not_lockstep : ¬ ∀ image alu_out inputs n, Lockstep image alu_out inputs n := by
  intro h
  let inputs (_ : Nat) : Chip.Input := ⟨⟨false, ⟨0, 0⟩⟩, true⟩
  have hread := (h (fun _ => 0xffff) 0 inputs 0 0 le_rfl).read_data
  exact absurd hread (by decide)

end CPU
