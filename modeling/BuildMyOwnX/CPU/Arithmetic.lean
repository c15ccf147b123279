import BuildMyOwnX.CPU.Components

/-! # Ripple-Carry Arithmetic

    The generate loop of `adder_16bit` as nets, at every width: one sum bit and
    one carry bit for each cell, tied by the equation of the cell. The nets have
    one solution (`adder_nets_iff`), the sum modulo `2 ^ w`, and its last carry
    says whether the sum overflows. Two such chains subtract.
-/

namespace CPU

variable {w : Nat}

/-! ## Section 1: The nets of adder_16bit -/

/-- The cells of the generate loop on the nets `out` and `carry`. -/
def AdderNets (a b out carry : BitVec w) : Prop :=
  ∀ i < w, full_adder (a.getLsbD i) (b.getLsbD i)
      (if i > 0 then carry.getLsbD (i - 1) else false) =
    { out := out.getLsbD i, carry := carry.getLsbD i }

/-- The net `carry` of the chain. -/
def adder_carry (a b : BitVec w) : BitVec w := BitVec.ofFnLE fun i => carry_in a b (i + 1)

theorem adder_carry_bit (a b : BitVec w) {i : Nat} (hi : i < w) :
    (adder_carry a b).getLsbD i = carry_in a b (i + 1) := by
  rw [adder_carry, BitVec.getLsbD_eq_getElem hi, BitVec.getElem_ofFnLE]

theorem adder_bit (a b : BitVec w) {i : Nat} (hi : i < w) :
    (adder a b).getLsbD i = (full_adder (a.getLsbD i) (b.getLsbD i) (carry_in a b i)).out := by
  rw [adder, BitVec.getLsbD_eq_getElem hi, BitVec.getElem_ofFnLE]

/-- The carry into a cell is the net before it. -/
theorem AdderNets.carry_in_eq {a b out carry : BitVec w} (h : AdderNets a b out carry) :
    ∀ i ≤ w, carry_in a b i = if i > 0 then carry.getLsbD (i - 1) else false := by
  intro i
  induction i with
  | zero =>
    intro _
    rfl
  | succ i ih =>
    intro hi
    have hcell := congrArg AdderOut.carry (h i hi)
    rw [← ih (Nat.le_of_succ_le hi)] at hcell
    show carry_in a b (i + 1) = carry.getLsbD i
    exact hcell

/-- **The nets have one solution**, the chain of full adders. -/
theorem adder_nets_iff {a b out carry : BitVec w} :
    AdderNets a b out carry ↔ out = adder a b ∧ carry = adder_carry a b := by
  constructor
  · intro h
    constructor
    · apply BitVec.eq_of_getLsbD_eq
      intro i hi
      have hcell := congrArg AdderOut.out (h i hi)
      rw [adder_bit a b hi, h.carry_in_eq i (Nat.le_of_lt hi)]
      exact hcell.symm
    · apply BitVec.eq_of_getLsbD_eq
      intro i hi
      rw [adder_carry_bit a b hi, h.carry_in_eq (i + 1) hi]
      rfl
  · rintro ⟨rfl, rfl⟩ i hi
    have hin : (if i > 0 then (adder_carry a b).getLsbD (i - 1) else false) = carry_in a b i := by
      cases i with
      | zero => rfl
      | succ i => exact adder_carry_bit a b (Nat.lt_of_succ_lt hi)
    rw [hin, adder_bit a b hi, adder_carry_bit a b hi]
    rfl

/-! ## Section 2: What the chains compute -/

/-- The last carry of the chain is the overflow of the sum. -/
theorem adder_carry_msb (a b : BitVec w) :
    (adder_carry a b).msb = decide (2 ^ w ≤ a.toNat + b.toNat) := by
  cases w with
  | zero => simp [BitVec.of_length_zero]
  | succ w =>
    rw [BitVec.msb_eq_getLsbD_last, Nat.add_sub_cancel, adder_carry_bit a b (Nat.lt_succ_self w),
      carry_in_eq]
    simp [BitVec.carry, Nat.mod_eq_of_lt a.isLt, Nat.mod_eq_of_lt b.isLt]

/-- `subtracter_16bit` at width `w`. -/
def subtracter (a b : BitVec w) : BitVec w :=
  let b_ones_compliment := ~~~b
  let b_twos_compliment := adder b_ones_compliment 1
  adder a b_twos_compliment

theorem subtracter_eq_sub (a b : BitVec w) : subtracter a b = a - b := by
  unfold subtracter
  rw [adder_eq_add, adder_eq_add, BitVec.sub_eq_add_neg, BitVec.neg_eq_not_add]
  rfl

theorem toNat_sub_eq_emod (a b : BitVec w) :
    ((a - b).toNat : Int) = ((a.toNat : Int) - b.toNat) % 2 ^ w := by
  rw [BitVec.toNat_sub]
  have hb : b.toNat ≤ 2 ^ w := Nat.le_of_lt b.isLt
  push_cast [hb]
  have hshift : (2 ^ w - (b.toNat : Int) + a.toNat) = (a.toNat - b.toNat) + 2 ^ w * 1 := by ring
  rw [hshift, Int.add_mul_emod_self_left]

/-- The chains of width `w` on `a` and `b`. -/
structure RippleCarry (a b : BitVec w) : Prop where
  nets : ∀ out carry, AdderNets a b out carry ↔ out = adder a b ∧ carry = adder_carry a b
  sum : (adder a b).toNat = (a.toNat + b.toNat) % 2 ^ w
  /-- `carry[w-1]`, the carry out of the last cell. -/
  final_carry : (adder_carry a b).msb = true ↔ 2 ^ w ≤ a.toNat + b.toNat
  /-- Both adders of the subtracter as nets, their carries dropped. -/
  subtracter_nets : ∀ b_twos_compliment carry out carry',
    AdderNets (~~~b) 1 b_twos_compliment carry → AdderNets a b_twos_compliment out carry' →
    out = subtracter a b
  difference : ((subtracter a b).toNat : Int) = ((a.toNat : Int) - b.toNat) % 2 ^ w

/-- What rests on the chains of width 16. -/
structure RestsOnChains (a b : BitVec 16) : Prop where
  adder_16bit : adder_16bit a b = adder a b
  subtracter_16bit : subtracter_16bit a b = subtracter a b
  add : ∀ out, alu_16bit ALU_OP_ADD a b out = adder a b
  sub : ∀ out, alu_16bit ALU_OP_SUB a b out = subtracter a b
  pc_increment : ∀ write_data, program_counter false true false write_data a = adder a 1

/-- **Ripple-carry arithmetic**: at every width the chain adds modulo `2 ^ w` with
    the overflow as its last carry, and two chains subtract; the modules are the
    chains of width 16. -/
theorem ripple_carry :
    (∀ (w : Nat) (a b : BitVec w), RippleCarry a b) ∧
      ∀ a b : BitVec 16, RestsOnChains a b := by
  constructor
  · intro w a b
    constructor
    · intro out carry
      exact adder_nets_iff
    · rw [adder_eq_add, BitVec.toNat_add]
    · rw [adder_carry_msb, decide_eq_true_iff]
    · intro b_twos_compliment carry out carry' htwos hout
      obtain ⟨rfl, -⟩ := adder_nets_iff.mp htwos
      exact (adder_nets_iff.mp hout).1
    · rw [subtracter_eq_sub, toNat_sub_eq_emod]
  · intro a b
    exact ⟨rfl, rfl, fun _ => rfl, fun _ => rfl, fun _ => rfl⟩

end CPU
