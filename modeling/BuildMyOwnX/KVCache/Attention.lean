import BuildMyOwnX.KVCache.Causal

/-! # Multi-head Causal Attention

    The attention that `Transformer.prefill` computes, compared with the
    textbook formula: in each head a query is weighed against the keys up to its
    own position by the softmax of the scaled dot products, and the values are
    averaged with these weights.

    The textbook side is written with explicit columns, `h * e + j` for element
    `j` of head `h`. The pipeline gets there by a view of the flat storage, an
    axis swap and back; `Config.column` is where the two meet.
-/

namespace KVCache

variable {α : Type} [Field α] {cfg : Config} {T : Nat}

/-! ## Section 1: The textbook formula -/

theorem Config.head_column_lt (cfg : Config) (h : Fin cfg.n_head) (j : Fin cfg.head_size) :
    h.val * cfg.head_size + j.val < cfg.n_embd := by
  have hlt := (cfg.column (h, j)).isLt
  have hcolumn : (cfg.column (h, j)).val = j.val + cfg.head_size * h.val := rfl
  rw [Nat.mul_comm, Nat.add_comm]
  omega

/-- Element `j` of head `h`, the heads lying one after another. -/
def Config.head_column (cfg : Config) (h : Fin cfg.n_head) (j : Fin cfg.head_size) :
    Fin cfg.n_embd :=
  ⟨h.val * cfg.head_size + j.val, cfg.head_column_lt h j⟩

theorem Config.column_eq (cfg : Config) (h : Fin cfg.n_head) (j : Fin cfg.head_size) :
    cfg.column (h, j) = cfg.head_column h j := by
  apply Fin.ext
  show j.val + cfg.head_size * h.val = h.val * cfg.head_size + j.val
  rw [Nat.mul_comm, Nat.add_comm]

/-- The dot product of query `t` and key `s` in head `h`, over the root of the
    head size. -/
def scaled_dot (F : Scalars α) (q k : Tensor α [T, cfg.n_embd]) (h : Fin cfg.n_head)
    (t s : Fin T) : α :=
  (∑ i, q.get₂ t (cfg.head_column h i) * k.get₂ s (cfg.head_column h i)) / F.sqrt cfg.head_size

/-- The softmax over the positions `s ≤ t`. -/
def causal_softmax (F : Scalars α) (q k : Tensor α [T, cfg.n_embd]) (h : Fin cfg.n_head)
    (t s : Fin T) : α :=
  F.exp (scaled_dot F q k h t s) / ∑ r ∈ Finset.Iic t, F.exp (scaled_dot F q k h t r)

/-- The columns of head `h` agree. -/
def SameHead (h : Fin cfg.n_head) (x y : Tensor α [T, cfg.n_embd]) : Prop :=
  ∀ t j, x.get₂ t (cfg.head_column h j) = y.get₂ t (cfg.head_column h j)

/-- `attention_out` is causal multi-head attention on `q`, `k` and `v`, with the
    weights of the pipeline of `prefill`. -/
structure CausalMultiHead [LinearOrder α] (F : Scalars α)
    (q k v attention_out : Tensor α [T, cfg.n_embd]) : Prop where
  output : ∀ t h j, attention_out.get₂ t (cfg.head_column h j) =
    ∑ s ∈ Finset.Iic t, causal_softmax F q k h t s * v.get₂ s (cfg.head_column h j)
  /-- The weights are those of the pipeline. -/
  weights : ∀ h t s, s ≤ t → (attention_probs F q k).get₃ h t s = causal_softmax F q k h t s
  positive : ∀ h t s, s ≤ t → 0 < (attention_probs F q k).get₃ h t s
  masked : ∀ h t s, t < s → (attention_probs F q k).get₃ h t s = 0
  total : ∀ h t, ∑ s, (attention_probs F q k).get₃ h t s = 1
  /-- No row of the softmax divides by zero. -/
  normaliser : ∀ h t, 0 < ∑ s, Tensor.expWeight F.exp ((masked_scores F q k).get₃ h t s)
  /-- A head is computed from its own columns. -/
  head_local : ∀ h q' k' v' attention_out', prefill_attention F q' k' v' = .ok attention_out' →
    SameHead h q q' → SameHead h k k' → SameHead h v v' →
    SameHead h attention_out attention_out'

/-! ## Section 2: The weights of the pipeline -/

theorem score_eq_scaled_dot (F : Scalars α) (q k : Tensor α [T, cfg.n_embd])
    (h : Fin cfg.n_head) (t s : Fin T) :
    score F (q.rows t) (k.rows s) h = scaled_dot F q k h t s := by
  unfold score scaled_dot
  congr 1
  apply Finset.sum_congr rfl
  intro i _
  rw [cfg.column_eq]
  rfl

theorem expWeight_scaled_dot (F : Scalars α) (q k : Tensor α [T, cfg.n_embd])
    (h : Fin cfg.n_head) (t s : Fin T) :
    Tensor.expWeight F.exp ((masked_scores F q k).get₃ h t s) =
      if s ≤ t then F.exp (scaled_dot F q k h t s) else 0 := by
  rw [expWeight_masked_scores, score_eq_scaled_dot]
  rfl

/-- The masked terms drop out of the normaliser. -/
theorem sum_expWeight (F : Scalars α) (q k : Tensor α [T, cfg.n_embd]) (h : Fin cfg.n_head)
    (t : Fin T) :
    ∑ s, Tensor.expWeight F.exp ((masked_scores F q k).get₃ h t s) =
      ∑ r ∈ Finset.Iic t, F.exp (scaled_dot F q k h t r) := by
  have hIic : (Finset.univ.filter fun s => s ≤ t) = Finset.Iic t := by
    ext s
    simp
  simp only [expWeight_scaled_dot]
  rw [← Finset.sum_filter, hIic]

theorem get₃_attention_probs (F : Scalars α) (q k : Tensor α [T, cfg.n_embd])
    (h : Fin cfg.n_head) (t s : Fin T) :
    (attention_probs F q k).get₃ h t s = if s ≤ t then causal_softmax F q k h t s else 0 := by
  rw [attention_probs, Tensor.get₃_softmax, sum_expWeight, expWeight_scaled_dot, causal_softmax]
  split
  · rfl
  · exact zero_div _

/-- The formula needs no order: it holds for any real functions. -/
theorem attention_output (F : Scalars α) (q k v : Tensor α [T, cfg.n_embd]) (hT : 0 < T) :
    ∃ attention_out, prefill_attention F q k v = .ok attention_out ∧
      ∀ t h j, attention_out.get₂ t (cfg.head_column h j) =
        ∑ s ∈ Finset.Iic t, causal_softmax F q k h t s * v.get₂ s (cfg.head_column h j) := by
  obtain ⟨out, hrun, hout⟩ := prefill_attention_spec F q k v hT
  refine ⟨out, hrun, ?_⟩
  intro t h j
  rw [← cfg.column_eq, hout]
  symm
  -- the positions after `t` have weight zero
  apply Finset.sum_subset_zero_on_sdiff (Finset.subset_univ _)
  · intro s hs
    have hst : ¬ s ≤ t := by simpa using hs
    rw [get₃_attention_probs, if_neg hst, zero_mul]
  · intro s hs
    rw [get₃_attention_probs, if_pos (Finset.mem_Iic.mp hs)]

theorem scaled_dot_same_head (F : Scalars α) {q q' k k' : Tensor α [T, cfg.n_embd]}
    {h : Fin cfg.n_head} (hq : SameHead h q q') (hk : SameHead h k k') (t s : Fin T) :
    scaled_dot F q k h t s = scaled_dot F q' k' h t s := by
  unfold scaled_dot
  congr 1
  apply Finset.sum_congr rfl
  intro i _
  rw [hq, hk]

theorem averages_same_head (F : Scalars α) {q q' k k' v v' : Tensor α [T, cfg.n_embd]}
    {h : Fin cfg.n_head} (hq : SameHead h q q') (hk : SameHead h k k') (hv : SameHead h v v')
    (t : Fin T) (j : Fin cfg.head_size) :
    ∑ s ∈ Finset.Iic t, causal_softmax F q k h t s * v.get₂ s (cfg.head_column h j) =
      ∑ s ∈ Finset.Iic t, causal_softmax F q' k' h t s * v'.get₂ s (cfg.head_column h j) := by
  apply Finset.sum_congr rfl
  intro s _
  simp only [causal_softmax, scaled_dot_same_head F hq hk, hv s j]

/-! ## Section 3: Probabilities -/

section order

variable [LinearOrder α] [IsStrictOrderedRing α]

/-- A query is never masked from itself, so the normaliser is positive. -/
theorem normaliser_pos (F : Scalars α) (hexp : ∀ x, 0 < F.exp x)
    (q k : Tensor α [T, cfg.n_embd]) (h : Fin cfg.n_head) (t : Fin T) :
    0 < ∑ r ∈ Finset.Iic t, F.exp (scaled_dot F q k h t r) :=
  Finset.sum_pos (fun _ _ => hexp _) ⟨t, Finset.mem_Iic.mpr (le_refl t)⟩

theorem sum_attention_probs (F : Scalars α) (hexp : ∀ x, 0 < F.exp x)
    (q k : Tensor α [T, cfg.n_embd]) (h : Fin cfg.n_head) (t : Fin T) :
    ∑ s, (attention_probs F q k).get₃ h t s = 1 := by
  simp only [attention_probs, Tensor.get₃_softmax]
  rw [← Finset.sum_div, sum_expWeight]
  exact div_self (ne_of_gt (normaliser_pos F hexp q k h t))

/-- **The attention of `prefill` is causal multi-head attention**, for every
    positive number of tokens, number of heads and head size. -/
theorem prefill_attention_textbook (F : Scalars α) (hexp : ∀ x, 0 < F.exp x)
    (q k v : Tensor α [T, cfg.n_embd]) (hT : 0 < T) :
    ∃ attention_out, prefill_attention F q k v = .ok attention_out ∧
      CausalMultiHead F q k v attention_out := by
  obtain ⟨out, hrun, hout⟩ := attention_output F q k v hT
  refine ⟨out, hrun, hout, ?_, ?_, ?_, ?_, ?_, ?_⟩
  · intro h t s hst
    rw [get₃_attention_probs, if_pos hst]
  · intro h t s hst
    rw [get₃_attention_probs, if_pos hst]
    exact div_pos (hexp _) (normaliser_pos F hexp q k h t)
  · intro h t s hts
    rw [get₃_attention_probs, if_neg (not_le_of_gt hts)]
  · exact sum_attention_probs F hexp q k
  · intro h t
    rw [sum_expWeight]
    exact normaliser_pos F hexp q k h t
  · intro h q' k' v' out' hrun' hq hk hv t j
    -- the formula holds of the other run too, and reads the same columns there
    obtain ⟨_, hok, hout'⟩ := attention_output F q' k' v' hT
    cases hrun'.symm.trans hok
    rw [hout, hout', averages_same_head F hq hk hv]

end order

/-- Two heads of size two. -/
def two_heads : Config where
  n_positions := 4
  n_layer := 1
  n_head := 2
  n_embd := 4
  n_inner := 1
  vocab_size := 2
  n_head_dvd := Nat.dvd_mul_right 2 2

/-- A matrix of three tokens. -/
def three_tokens (f : Nat → Nat → Rat) : Tensor Rat [3, two_heads.n_embd] :=
  Tensor.ofFn₂ fun t c => f t.val c.val

theorem prefill_attention_textbook_two_heads :
    ∃ attention_out,
      prefill_attention tiny_scalars (three_tokens fun t c => t + c)
        (three_tokens fun t c => t * c) (three_tokens fun t c => c - t) = .ok attention_out ∧
      CausalMultiHead tiny_scalars (three_tokens fun t c => t + c)
        (three_tokens fun t c => t * c) (three_tokens fun t c => c - t) attention_out :=
  prefill_attention_textbook tiny_scalars
    (fun x => by show (0 : Rat) < 1 + x ^ 2; positivity) _ _ _ (by decide)

end KVCache
