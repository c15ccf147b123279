import BuildMyOwnX.CPU.Arithmetic
import BuildMyOwnX.Framework.Latch

/-! # The ALU over Histories of Inputs

    `alu_16bit` is an `always @(*)` block whose `case` has no default. Where it
    has a case the output is the result of the operation, whatever the inputs
    were before. `ALU_OP_MUL` is defined in the header and has none: there the
    output is the result of the last operation that had one.
-/

namespace CPU

/-! ## Section 1: The block as a latch -/

/-- The inputs of `alu_16bit`. -/
structure AluInput where
  op : BitVec 4
  a : BitVec 16
  b : BitVec 16

/-- The output after a history of inputs, from what it was at power-on. -/
def alu_run (out : BitVec 16) (inputs : List AluInput) : BitVec 16 :=
  inputs.foldl (fun out i => alu_16bit i.op i.a i.b out) out

/-- What the `case` statement assigns. -/
def alu_case (i : AluInput) : Option (BitVec 16) :=
  if i.op = ALU_OP_ADD then some (adder_16bit i.a i.b)
  else if i.op = ALU_OP_SUB then some (subtracter_16bit i.a i.b)
  else if i.op = ALU_OP_AND then some (i.a &&& i.b)
  else if i.op = ALU_OP_OR then some (i.a ||| i.b)
  else if i.op = ALU_OP_XOR then some (i.a ^^^ i.b)
  else if i.op = ALU_OP_SHL then some (i.a <<< i.b)
  else if i.op = ALU_OP_SHR then some (i.a >>> i.b)
  else none

theorem alu_16bit_eq (out : BitVec 16) (i : AluInput) :
    alu_16bit i.op i.a i.b out = (alu_case i).getD out := by
  unfold alu_16bit alu_case
  split_ifs <;> rfl

theorem alu_run_eq (out : BitVec 16) (inputs : List AluInput) :
    alu_run out inputs = Latch.run alu_case out inputs :=
  Latch.foldl_eq_run alu_16bit_eq inputs

/-- The output is the result of the last operation that has a case. -/
theorem alu_holds (out : BitVec 16) (inputs : List AluInput) :
    alu_run out inputs = (inputs.filterMap alu_case).getLast?.getD out := by
  rw [alu_run_eq, Latch.run_eq]

/-! ## Section 2: The operations of the header -/

/-- The operations that `alu_ops.vh` names, other than the comparison. -/
inductive AluOp
  | ADD | SUB | AND | OR | XOR | SHL | SHR | MUL
  deriving DecidableEq, Repr

namespace AluOp

def bits : AluOp → BitVec 4
  | ADD => ALU_OP_ADD
  | SUB => ALU_OP_SUB
  | AND => ALU_OP_AND
  | OR => ALU_OP_OR
  | XOR => ALU_OP_XOR
  | SHL => ALU_OP_SHL
  | SHR => ALU_OP_SHR
  | MUL => ALU_OP_MUL

/-- The result of an operation on words, as a number. -/
def value (op : AluOp) (a b : Nat) : Nat :=
  match op with
  | ADD => (a + b) % 2 ^ 16
  | SUB => (((a : Int) - b) % 2 ^ 16).toNat
  | AND => a &&& b
  | OR => a ||| b
  | XOR => a ^^^ b
  | SHL => a * 2 ^ b % 2 ^ 16
  | SHR => a / 2 ^ b
  | MUL => a * b % 2 ^ 16

end AluOp

/-- The output under `op`, `a` and `b`, after any history. -/
structure AluCorrect (out : BitVec 16) (op : AluOp) (a b : BitVec 16) : Prop where
  combinational : ∀ inputs inputs',
    alu_run out (inputs ++ [⟨op.bits, a, b⟩]) = alu_run out (inputs' ++ [⟨op.bits, a, b⟩])
  value : ∀ inputs,
    (alu_run out (inputs ++ [⟨op.bits, a, b⟩])).toNat = op.value a.toNat b.toNat
  shifted_out : 16 ≤ b.toNat → op = .SHL ∨ op = .SHR → ∀ inputs,
    alu_run out (inputs ++ [⟨op.bits, a, b⟩]) = 0

/-- Every operation but the multiplication has a case, and the right one. -/
theorem alu_case_value {op : AluOp} (hop : op ≠ .MUL) (a b : BitVec 16) :
    ∃ d, alu_case ⟨op.bits, a, b⟩ = some d ∧ d.toNat = op.value a.toNat b.toNat := by
  cases op with
  | ADD =>
    refine ⟨adder_16bit a b, rfl, ?_⟩
    rw [adder_16bit_eq, BitVec.toNat_add]
    rfl
  | SUB =>
    refine ⟨subtracter_16bit a b, rfl, ?_⟩
    have hsub := toNat_sub_eq_emod a b
    rw [subtracter_16bit_eq]
    show (a - b).toNat = (((a.toNat : Int) - b.toNat) % 2 ^ 16).toNat
    omega
  | AND => exact ⟨a &&& b, rfl, BitVec.toNat_and ..⟩
  | OR => exact ⟨a ||| b, rfl, BitVec.toNat_or ..⟩
  | XOR => exact ⟨a ^^^ b, rfl, BitVec.toNat_xor ..⟩
  | SHL =>
    refine ⟨a <<< b, rfl, ?_⟩
    rw [BitVec.shiftLeft_eq', BitVec.toNat_shiftLeft, Nat.shiftLeft_eq]
    rfl
  | SHR =>
    refine ⟨a >>> b, rfl, ?_⟩
    rw [BitVec.ushiftRight_eq', BitVec.toNat_ushiftRight, Nat.shiftRight_eq_div_pow]
    rfl
  | MUL => exact absurd rfl hop

theorem shifted_out_value {op : AluOp} (hop : op = .SHL ∨ op = .SHR) {a b : Nat}
    (ha : a < 2 ^ 16) (hb : 16 ≤ b) : op.value a b = 0 := by
  rcases hop with rfl | rfl
  · show a * 2 ^ b % 2 ^ 16 = 0
    have hdvd : 2 ^ 16 ∣ a * 2 ^ b := Dvd.dvd.mul_left (Nat.pow_dvd_pow 2 hb) a
    exact Nat.mod_eq_zero_of_dvd hdvd
  · show a / 2 ^ b = 0
    have hlt : a < 2 ^ b := Nat.lt_of_lt_of_le ha (Nat.pow_le_pow_right (by decide) hb)
    exact Nat.div_eq_of_lt hlt

theorem alu_case_mul (a b : BitVec 16) : alu_case ⟨AluOp.MUL.bits, a, b⟩ = none := rfl

/-- **Exactly** the operations with a case are combinational and correct; the
    multiplication has none. -/
theorem alu_correct_iff (out : BitVec 16) (op : AluOp) (a b : BitVec 16) :
    AluCorrect out op a b ↔ op ≠ .MUL := by
  constructor
  · intro h hmul
    subst hmul
    have hadd : alu_case ⟨ALU_OP_ADD, 0, 0⟩ = some 0 := rfl
    have hadd' : alu_case ⟨ALU_OP_ADD, 0, 1⟩ = some 1 := rfl
    have hcombinational : Latch.Combinational alu_case out ⟨AluOp.MUL.bits, a, b⟩ := by
      intro inputs inputs'
      rw [← alu_run_eq, ← alu_run_eq]
      exact h.combinational inputs inputs'
    rw [Latch.combinational_iff hadd hadd' (by decide), alu_case_mul] at hcombinational
    cases hcombinational
  · intro hop
    obtain ⟨d, hd, hvalue⟩ := alu_case_value hop a b
    have hrun : ∀ inputs, alu_run out (inputs ++ [⟨op.bits, a, b⟩]) = d := by
      intro inputs
      rw [alu_run_eq, Latch.run_concat_of_assigned hd]
    constructor
    · intro inputs inputs'
      rw [hrun, hrun]
    · intro inputs
      rw [hrun, hvalue]
    · intro hb hshift inputs
      rw [hrun]
      apply BitVec.eq_of_toNat_eq
      rw [hvalue, shifted_out_value hshift a.isLt hb]
      rfl

/-- After `1 + 1` the product of 3 and 5 is 2. -/
theorem product_not_computed : ¬ AluCorrect 0 .MUL 3 5 := by
  intro h
  have hproduct : (alu_run 0 ([⟨ALU_OP_ADD, 1, 1⟩] ++ [⟨AluOp.MUL.bits, 3, 5⟩])).toNat = 15 :=
    h.value [⟨ALU_OP_ADD, 1, 1⟩]
  have hheld : (alu_run 0 ([⟨ALU_OP_ADD, 1, 1⟩] ++ [⟨AluOp.MUL.bits, 3, 5⟩])).toNat = 2 := rfl
  rw [hheld] at hproduct
  cases hproduct

end CPU
