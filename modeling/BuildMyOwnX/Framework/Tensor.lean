import Mathlib

/-! # Row-major Tensors

    Dense tensors with their shape in the type. The elements live in one flat
    row-major array; a multi-index reaches its element through the bijection
    `Tensor.flat`, so reinterpreting the storage (`Tensor.view`) keeps the
    array and changes only the bijection.

    The operations below are the ones array programs are written with:
    elementwise maps, matrix products, slicing of rows, splitting and joining
    of columns, axis swaps, masking and the softmax of the last axis. Each has
    one `get_*` lemma, tagged `simp`, that says what its elements are.
-/

universe u v

/-! ### Multi-indices and storage -/

/-- Multi-indices of a tensor of the given shape. -/
@[reducible] def Tensor.Index : List Nat → Type
  | [] => Unit
  | n :: shape => Fin n × Tensor.Index shape

/-- The row-major position of a multi-index: `pos [m, n] (i, j) = i * n + j`. -/
def Tensor.pos : (shape : List Nat) → Tensor.Index shape → Nat
  | [], _ => 0
  | _ :: shape, (i, ix) => i.val * shape.prod + Tensor.pos shape ix

/-- Multi-indices are the positions in flat storage. -/
def Tensor.flat : (shape : List Nat) → Tensor.Index shape ≃ Fin shape.prod
  | [] => finOneEquiv.symm
  | n :: shape =>
    ((Equiv.refl (Fin n)).prodCongr (Tensor.flat shape)).trans
      (finProdFinEquiv.trans (finCongr List.prod_cons.symm))

/-- A tensor: a flat row-major array with as many elements as its shape says. -/
structure Tensor (α : Type u) (shape : List Nat) where
  data : Vector α shape.prod

namespace Tensor

/-! Axes of these sizes are indexed by literals. -/

instance ne_zero_one : NeZero 1 := ⟨by decide⟩

instance ne_zero_two : NeZero 2 := ⟨by decide⟩

instance ne_zero_three : NeZero 3 := ⟨by decide⟩

/-- A row of a clipped slice is a row of the whole. -/
theorem lt_of_clipped {k m : Nat} (i : Fin (min k m)) : i.val < m := by omega

variable {α : Type u} {β : Type v} {shape shape' : List Nat}

/-- The element at a multi-index. -/
def get (t : Tensor α shape) (ix : Index shape) : α := t.data[(flat shape ix).val]

/-- The tensor with the given elements. -/
def ofFn (f : Index shape → α) : Tensor α shape :=
  ⟨Vector.ofFn fun k => f ((flat shape).symm k)⟩

@[simp] theorem get_ofFn (f : Index shape → α) (ix : Index shape) :
    (ofFn f).get ix = f ix := by
  simp [get, ofFn]

section ranks

variable {l m n : Nat}

/-! The same for the ranks in use, with the axes as separate arguments. -/

def get₁ (t : Tensor α [n]) (j : Fin n) : α := t.get (j, ())

def get₂ (t : Tensor α [m, n]) (i : Fin m) (j : Fin n) : α := t.get (i, j, ())

def get₃ (t : Tensor α [l, m, n]) (h : Fin l) (i : Fin m) (j : Fin n) : α :=
  t.get (h, i, j, ())

def ofFn₁ (f : Fin n → α) : Tensor α [n] := ofFn fun (j, _) => f j

def ofFn₂ (f : Fin m → Fin n → α) : Tensor α [m, n] := ofFn fun (i, j, _) => f i j

def ofFn₃ (f : Fin l → Fin m → Fin n → α) : Tensor α [l, m, n] :=
  ofFn fun (h, i, j, _) => f h i j

@[simp] theorem get₁_ofFn₁ (f : Fin n → α) (j : Fin n) : (ofFn₁ f).get₁ j = f j :=
  get_ofFn _ _

@[simp] theorem get₂_ofFn₂ (f : Fin m → Fin n → α) (i : Fin m) (j : Fin n) :
    (ofFn₂ f).get₂ i j = f i j := get_ofFn _ _

@[simp] theorem get₃_ofFn₃ (f : Fin l → Fin m → Fin n → α) (h : Fin l) (i : Fin m) (j : Fin n) :
    (ofFn₃ f).get₃ h i j = f h i j := get_ofFn _ _

end ranks

@[ext] theorem ext {t u : Tensor α shape} (h : ∀ ix, t.get ix = u.get ix) : t = u := by
  obtain ⟨t⟩ := t
  obtain ⟨u⟩ := u
  congr 1
  apply Vector.ext
  intro k hk
  have hk' := h ((flat shape).symm ⟨k, hk⟩)
  simpa [get] using hk'

theorem flat_val : (shape : List Nat) → (ix : Index shape) →
    (flat shape ix).val = pos shape ix
  | [], _ => rfl
  | n :: shape, (i, ix) => by
    have hrec : (flat (n :: shape) (i, ix)).val = (flat shape ix).val + shape.prod * i.val := rfl
    rw [hrec, flat_val shape ix, pos, mul_comm, add_comm]

/-! ### Views -/

/-- Reinterpret the storage under another shape with as many elements. -/
def view (h : shape.prod = shape'.prod) (t : Tensor α shape) : Tensor α shape' :=
  ⟨t.data.cast h⟩

/-- A view has at a multi-index the element the original has at the multi-index
    with the same position in storage. -/
theorem get_view (h : shape.prod = shape'.prod) (t : Tensor α shape)
    {ix : Index shape} {ix' : Index shape'}
    (hpos : pos shape' ix' = pos shape ix) :
    (t.view h).get ix' = t.get ix := by
  simp [get, view, flat_val, hpos]

/-- Positions stay when `d = h * e` columns are seen as `h` groups of `e`. -/
theorem pos_split {m d h e : Nat} (hd : h * e = d) (i : Fin m) (a : Fin h) (b : Fin e) :
    pos [m, d] (i, Fin.cast hd (finProdFinEquiv (a, b)), ()) = pos [m, h, e] (i, a, b, ()) := by
  subst hd
  simp only [pos, List.prod_cons, List.prod_nil, Fin.val_cast, finProdFinEquiv_apply_val]
  ring

/-- Splitting the last axis in two: `d = h * e` columns become `h` groups of `e`. -/
theorem get₃_view_split {m d h e : Nat} (hd : h * e = d)
    (hp : [m, d].prod = [m, h, e].prod) (t : Tensor α [m, d])
    (i : Fin m) (a : Fin h) (b : Fin e) :
    (t.view hp).get₃ i a b =
      t.get₂ i (Fin.cast hd (finProdFinEquiv (a, b))) :=
  get_view hp t (pos_split hd i a b).symm

/-- Merging the last two axes: the inverse of `get₃_view_split`. -/
theorem get₂_view_merge {m d h e : Nat} (hd : h * e = d)
    (hp : [m, h, e].prod = [m, d].prod) (t : Tensor α [m, h, e])
    (i : Fin m) (a : Fin h) (b : Fin e) :
    (t.view hp).get₂ i (Fin.cast hd (finProdFinEquiv (a, b))) = t.get₃ i a b :=
  get_view hp t (pos_split hd i a b)

/-- A tensor whose storage is always row-major is its own contiguous copy. -/
def contiguous (t : Tensor α shape) : Tensor α shape := t

@[simp] theorem contiguous_eq (t : Tensor α shape) : t.contiguous = t := rfl

/-! ### Elementwise operations -/

def map (f : α → β) (t : Tensor α shape) : Tensor β shape := ofFn fun ix => f (t.get ix)

@[simp] theorem get₂_map {m n : Nat} (f : α → β) (t : Tensor α [m, n]) (i : Fin m)
    (j : Fin n) : (t.map f).get₂ i j = f (t.get₂ i j) := get_ofFn _ _

@[simp] theorem get₃_map {l m n : Nat} (f : α → β) (t : Tensor α [l, m, n]) (h : Fin l)
    (i : Fin m) (j : Fin n) : (t.map f).get₃ h i j = f (t.get₃ h i j) := get_ofFn _ _

instance [Add α] : Add (Tensor α shape) := ⟨fun t u => ofFn fun ix => t.get ix + u.get ix⟩

@[simp] theorem get₂_add [Add α] {m n : Nat} (t u : Tensor α [m, n]) (i : Fin m) (j : Fin n) :
    (t + u).get₂ i j = t.get₂ i j + u.get₂ i j := get_ofFn _ _

/-- Add one row to every row of a matrix. -/
def addRow [Add α] {m n : Nat} (t : Tensor α [m, n]) (r : Tensor α [n]) : Tensor α [m, n] :=
  ofFn₂ fun i j => t.get₂ i j + r.get₁ j

@[simp] theorem get₂_addRow [Add α] {m n : Nat} (t : Tensor α [m, n]) (r : Tensor α [n])
    (i : Fin m) (j : Fin n) :
    (t.addRow r).get₂ i j = t.get₂ i j + r.get₁ j := get_ofFn _ _

/-- A tensor of optional elements, when every element is there. -/
def sequence (t : Tensor (Option α) shape) : Option (Tensor α shape) :=
  if h : ∀ k : Fin shape.prod, (t.data[k.val]).isSome then
    some ⟨Vector.ofFn fun k => (t.data[k.val]).get (h k)⟩
  else
    none

/-- A tensor all of whose elements are there is read as the tensor of those. -/
theorem sequence_eq_some {t : Tensor (Option α) shape} {u : Tensor α shape}
    (h : ∀ ix, t.get ix = some (u.get ix)) : t.sequence = some u := by
  have hdata : ∀ k : Fin shape.prod, t.data[k.val] = some u.data[k.val] := by
    intro k
    simpa [get] using h ((flat shape).symm k)
  have hall : ∀ k : Fin shape.prod, (t.data[k.val]).isSome := by
    intro k
    rw [hdata k]; rfl
  rw [sequence, dif_pos hall]
  congr 1
  obtain ⟨u⟩ := u
  congr 1
  apply Vector.ext
  intro k hk
  simp [hdata ⟨k, hk⟩]

/-! ### Rows and columns -/

/-- Row `i` of a matrix. -/
def row {m n : Nat} (t : Tensor α [m, n]) (i : Fin m) : Tensor α [n] :=
  ofFn₁ fun j => t.get₂ i j

@[simp] theorem get₁_row {m n : Nat} (t : Tensor α [m, n]) (i : Fin m) (j : Fin n) :
    (t.row i).get₁ j = t.get₂ i j := get_ofFn _ _

/-- The rows of a matrix as functions of the column. -/
def rows {m n : Nat} (t : Tensor α [m, n]) (i : Fin m) : Fin n → α :=
  fun j => t.get₂ i j

@[simp] theorem rows_ofFn₂ {m n : Nat} (f : Fin m → Fin n → α) (i : Fin m) :
    (ofFn₂ f).rows i = f i := by
  funext j
  exact get₂_ofFn₂ f i j

/-- The slice `t[:k]` of the first `k` rows, clipped to the rows there are. -/
def takeRows {m n : Nat} (k : Nat) (t : Tensor α [m, n]) : Tensor α [min k m, n] :=
  ofFn₂ fun i j => t.get₂ ⟨i, lt_of_clipped i⟩ j

@[simp] theorem get₂_takeRows {m n k : Nat} (t : Tensor α [m, n]) (i : Fin (min k m))
    (j : Fin n) : (t.takeRows k).get₂ i j = t.get₂ ⟨i, lt_of_clipped i⟩ j := get_ofFn _ _

/-- The `i`-th of `c` equal groups of columns. -/
def chunk {m n : Nat} (c : Nat) (t : Tensor α [m, c * n]) (i : Fin c) : Tensor α [m, n] :=
  ofFn₂ fun r j => t.get₂ r (finProdFinEquiv (i, j))

@[simp] theorem get₂_chunk {m n c : Nat} (t : Tensor α [m, c * n]) (i : Fin c) (r : Fin m)
    (j : Fin n) : (t.chunk c i).get₂ r j = t.get₂ r (finProdFinEquiv (i, j)) :=
  get_ofFn _ _

/-- Join `c` matrices of one shape side by side. -/
def cat {m n c : Nat} (ts : Fin c → Tensor α [m, n]) : Tensor α [m, c * n] :=
  ofFn₂ fun r j => (ts j.divNat).get₂ r j.modNat

@[simp] theorem get₂_cat {m n c : Nat} (ts : Fin c → Tensor α [m, n]) (i : Fin c) (r : Fin m)
    (j : Fin n) : (cat ts).get₂ r (finProdFinEquiv (i, j)) = (ts i).get₂ r j := by
  have hij : finProdFinEquiv.symm (finProdFinEquiv (i, j)) = (i, j) := by simp
  have hdiv : (finProdFinEquiv (i, j)).divNat = i := congrArg Prod.fst hij
  have hmod : (finProdFinEquiv (i, j)).modNat = j := congrArg Prod.snd hij
  simp [cat, hdiv, hmod]

/-! ### Axes -/

/-- The transpose of a matrix. -/
def transpose {m n : Nat} (t : Tensor α [m, n]) : Tensor α [n, m] :=
  ofFn₂ fun j i => t.get₂ i j

@[simp] theorem get₂_transpose {m n : Nat} (t : Tensor α [m, n]) (j : Fin n) (i : Fin m) :
    t.transpose.get₂ j i = t.get₂ i j := get_ofFn _ _

/-- Swap the first two of three axes. -/
def transpose01 {a b c : Nat} (t : Tensor α [a, b, c]) : Tensor α [b, a, c] :=
  ofFn₃ fun j i k => t.get₃ i j k

@[simp] theorem get₃_transpose01 {a b c : Nat} (t : Tensor α [a, b, c]) (j : Fin b) (i : Fin a)
    (k : Fin c) : t.transpose01.get₃ j i k = t.get₃ i j k := get_ofFn _ _

/-- Swap the last two of three axes. -/
def mT {a b c : Nat} (t : Tensor α [a, b, c]) : Tensor α [a, c, b] :=
  ofFn₃ fun i k j => t.get₃ i j k

@[simp] theorem get₃_mT {a b c : Nat} (t : Tensor α [a, b, c]) (i : Fin a) (k : Fin c)
    (j : Fin b) : t.mT.get₃ i k j = t.get₃ i j k := get_ofFn _ _

/-! ### Products -/

section products

variable [AddCommMonoid α] [Mul α]

/-- Matrix product. -/
def matmul {m k n : Nat} (t : Tensor α [m, k]) (u : Tensor α [k, n]) : Tensor α [m, n] :=
  ofFn₂ fun i j => ∑ l : Fin k, t.get₂ i l * u.get₂ l j

@[simp] theorem get₂_matmul {m k n : Nat} (t : Tensor α [m, k]) (u : Tensor α [k, n])
    (i : Fin m) (j : Fin n) :
    (t.matmul u).get₂ i j = ∑ l : Fin k, t.get₂ i l * u.get₂ l j :=
  get_ofFn _ _

/-- Matrix product of each matrix of a batch. -/
def bmm {b m k n : Nat} (t : Tensor α [b, m, k]) (u : Tensor α [b, k, n]) :
    Tensor α [b, m, n] :=
  ofFn₃ fun h i j => ∑ l : Fin k, t.get₃ h i l * u.get₃ h l j

@[simp] theorem get₃_bmm {b m k n : Nat} (t : Tensor α [b, m, k]) (u : Tensor α [b, k, n])
    (h : Fin b) (i : Fin m) (j : Fin n) :
    (t.bmm u).get₃ h i j = ∑ l : Fin k, t.get₃ h i l * u.get₃ h l j :=
  get_ofFn _ _

end products

/-! ### Finite sums of masked terms -/

/-- A sum over `Fin n` that a mask cuts off above `t` is the sum up to `t`. -/
theorem sum_fin_le [AddCommMonoid α] {n t : Nat} (ht : t < n) (f : Nat → α) :
    ∑ s : Fin n, (if s.val ≤ t then f s.val else 0) = ∑ s ∈ Finset.range (t + 1), f s := by
  rw [Fin.sum_univ_eq_sum_range (fun s => if s ≤ t then f s else 0) n]
  have hsub : Finset.range (t + 1) ⊆ Finset.range n :=
    Finset.range_subset_range.mpr (by omega)
  rw [← Finset.sum_subset hsub]
  · apply Finset.sum_congr rfl
    intro s hs
    have hst : s ≤ t := by simpa [Nat.lt_succ_iff] using hs
    rw [if_pos hst]
  · intro s _ hs
    have hst : ¬ s ≤ t := by simpa [Nat.lt_succ_iff] using hs
    rw [if_neg hst]

/-! ### Masks and softmax -/

/-- Keep the elements on and above the `diagonal`-th diagonal. -/
def triu {m n : Nat} (diagonal : Nat) (t : Tensor Bool [m, n]) : Tensor Bool [m, n] :=
  ofFn₂ fun i j => t.get₂ i j && decide (i.val + diagonal ≤ j.val)

@[simp] theorem get₂_triu {m n diagonal : Nat} (t : Tensor Bool [m, n]) (i : Fin m) (j : Fin n) :
    (t.triu diagonal).get₂ i j =
      (t.get₂ i j && decide (i.val + diagonal ≤ j.val)) := get_ofFn _ _

/-- Replace the elements a mask selects, the same ones in each matrix of a batch. -/
def masked_fill {b m n : Nat} (t : Tensor α [b, m, n]) (mask : Tensor Bool [m, n])
    (value : α) : Tensor α [b, m, n] :=
  ofFn₃ fun h i j => if mask.get₂ i j then value else t.get₃ h i j

@[simp] theorem get₃_masked_fill {b m n : Nat} (t : Tensor α [b, m, n])
    (mask : Tensor Bool [m, n]) (value : α) (h : Fin b) (i : Fin m) (j : Fin n) :
    (t.masked_fill mask value).get₃ h i j =
      if mask.get₂ i j then value else t.get₃ h i j := get_ofFn _ _

/-- The weight of a score before normalisation: a score of `⊥` (minus infinity) has none. -/
def expWeight [Zero α] (exp : α → α) : WithBot α → α := WithBot.recBotCoe 0 exp

@[simp] theorem expWeight_bot [Zero α] (exp : α → α) : expWeight exp ⊥ = 0 := rfl

@[simp] theorem expWeight_coe [Zero α] (exp : α → α) (x : α) : expWeight exp x = exp x := rfl

/-- The softmax of the last axis. -/
def softmax [Field α] {b m n : Nat} (exp : α → α) (t : Tensor (WithBot α) [b, m, n]) :
    Tensor α [b, m, n] :=
  ofFn₃ fun h i j =>
    expWeight exp (t.get₃ h i j) / ∑ l : Fin n, expWeight exp (t.get₃ h i l)

@[simp] theorem get₃_softmax [Field α] {b m n : Nat} (exp : α → α)
    (t : Tensor (WithBot α) [b, m, n]) (h : Fin b) (i : Fin m) (j : Fin n) :
    (t.softmax exp).get₃ h i j =
      expWeight exp (t.get₃ h i j) /
        ∑ l : Fin n, expWeight exp (t.get₃ h i l) := get_ofFn _ _

end Tensor
