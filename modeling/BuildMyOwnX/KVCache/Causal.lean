import BuildMyOwnX.KVCache.Model

/-! # The Causal Transformer, Row by Row

    What the two code paths of a block are for: a causal map of sequences.
    Row `t` of the output of a block is a function of rows `0..t` of its input
    (`block_row`), so a whole run is a function `hidden` of the token sequence,
    the layer and the position, in which neither a cache nor the length of a
    batch occurs.

    `Transformer.prefill` computes this function on all rows of a batch at
    once, `Transformer.decode` on one row against cached keys and values. The
    lemmas of Section 3 connect each step of the two paths to it.
-/

namespace KVCache

variable {α : Type} [Field α] {cfg : Config} {rows T S m n : Nat}

/-! ## Section 1: Rows -/

abbrev Row (α : Type) (n : Nat) : Type := Fin n → α

def linear_row (wb : WeightsAndBiases α [m, n] n) (x : Row α m) : Row α n :=
  fun j => (∑ l, x l * wb.weights.get₂ l j) + wb.bias.get₁ j

def layer_norm_row (F : Scalars α) (ln : WeightsAndBiases α [n] n) (x : Row α n) : Row α n :=
  let mean := (∑ j, x j) / n
  let variance := (∑ j, (x j - mean) ^ 2) / n
  fun j => ln.weights.get₁ j * ((x j - mean) / F.sqrt (variance + 1e-05)) +
    ln.bias.get₁ j

@[simp] theorem get₂_linear (x : Tensor α [T, m]) (wb : WeightsAndBiases α [m, n] n)
    (i : Fin T) (j : Fin n) : (linear x wb).get₂ i j = linear_row wb (x.rows i) j := by
  simp [linear, linear_row, Tensor.rows]

@[simp] theorem get₂_layer_norm (F : Scalars α) (x : Tensor α [m, n])
    (ln : WeightsAndBiases α [n] n) (i : Fin m) (j : Fin n) :
    (layer_norm F x ln).get₂ i j = layer_norm_row F ln (x.rows i) j := by
  simp [layer_norm, layer_norm_row, mean, Tensor.rows]

theorem rows_linear (x : Tensor α [T, m]) (wb : WeightsAndBiases α [m, n] n) (i : Fin T) :
    (linear x wb).rows i = linear_row wb (x.rows i) :=
  funext fun j => get₂_linear x wb i j

theorem rows_layer_norm (F : Scalars α) (x : Tensor α [m, n]) (ln : WeightsAndBiases α [n] n)
    (i : Fin m) : (layer_norm F x ln).rows i = layer_norm_row F ln (x.rows i) :=
  funext fun j => get₂_layer_norm F x ln i j

/-! ## Section 2: The causal function of a block -/

/-- The column of element `i` of head `h`. -/
def Config.column (cfg : Config) : Fin cfg.n_head × Fin cfg.head_size ≃ Fin cfg.n_embd :=
  finProdFinEquiv.trans (finCongr cfg.n_head_mul_head_size)

/-- The score of a key for a query in one head. -/
def score (F : Scalars α) (q k : Row α cfg.n_embd) (h : Fin cfg.n_head) : α :=
  (∑ i, q (cfg.column (h, i)) * k (cfg.column (h, i))) / F.sqrt cfg.head_size

/-- The weight that position `t` gives to position `s ≤ t` in one head: the
    softmax of the scores of the positions up to `t`. -/
def weight (F : Scalars α) (q : Row α cfg.n_embd) (K : Nat → Row α cfg.n_embd) (t : Nat)
    (h : Fin cfg.n_head) (s : Nat) : α :=
  F.exp (score F q (K s) h) / ∑ r ∈ Finset.range (t + 1), F.exp (score F q (K r) h)

/-- Causal attention at position `t`. -/
def attention_row (F : Scalars α) (q : Row α cfg.n_embd) (K V : Nat → Row α cfg.n_embd)
    (t : Nat) : Row α cfg.n_embd :=
  fun c => ∑ s ∈ Finset.range (t + 1), weight F q K t (cfg.column.symm c).1 s * V s c

/-- Query (`0`), key (`1`) and value (`2`) of an input row. -/
def qkv_row (F : Scalars α) (b : BlockWeights α cfg) (x : Row α cfg.n_embd) (i : Fin 3) :
    Row α cfg.n_embd :=
  fun j => linear_row b.attn_head (layer_norm_row F b.ln1 x) (finProdFinEquiv (i, j))

/-- Key and value side by side, as a cache row holds them. -/
def kv_row (F : Scalars α) (b : BlockWeights α cfg) (x : Row α cfg.n_embd) :
    Row α (2 * cfg.n_embd) :=
  fun c => qkv_row F b x (![1, 2] c.divNat) c.modNat

def finish_row (F : Scalars α) (b : BlockWeights α cfg) (x a : Row α cfg.n_embd) :
    Row α cfg.n_embd :=
  let out := fun j => x j + linear_row b.proj a j
  let mlp_out := fun j => F.gelu (linear_row b.mlp (layer_norm_row F b.ln2 out) j)
  fun j => out j + linear_row b.mlp_proj mlp_out j

/-- Output row `t` of a block for the input rows `X 0, X 1, ...`. -/
def block_row (F : Scalars α) (b : BlockWeights α cfg) (X : Nat → Row α cfg.n_embd) (t : Nat) :
    Row α cfg.n_embd :=
  finish_row F b (X t) (attention_row F (qkv_row F b (X t) 0)
    (fun s => qkv_row F b (X s) 1) (fun s => qkv_row F b (X s) 2) t)

/-- Later positions have no influence on attention. -/
theorem attention_row_congr (F : Scalars α) (q : Row α cfg.n_embd)
    {K K' V V' : Nat → Row α cfg.n_embd} {t : Nat}
    (hK : ∀ s ≤ t, K s = K' s) (hV : ∀ s ≤ t, V s = V' s) :
    attention_row F q K V t = attention_row F q K' V' t := by
  have hsum : ∀ h, ∑ r ∈ Finset.range (t + 1), F.exp (score F q (K r) h) =
      ∑ r ∈ Finset.range (t + 1), F.exp (score F q (K' r) h) := by
    intro h
    apply Finset.sum_congr rfl
    intro r hr
    rw [hK r (Nat.lt_succ_iff.mp (Finset.mem_range.mp hr))]
  funext c
  apply Finset.sum_congr rfl
  intro s hs
  have hst : s ≤ t := Nat.lt_succ_iff.mp (Finset.mem_range.mp hs)
  rw [weight, weight, hsum, hK s hst, hV s hst]

theorem block_row_congr (F : Scalars α) (b : BlockWeights α cfg)
    {X Y : Nat → Row α cfg.n_embd} {t : Nat} (h : ∀ s ≤ t, X s = Y s) :
    block_row F b X t = block_row F b Y t := by
  rw [block_row, block_row, h t (Nat.le_refl t)]
  congr 1
  apply attention_row_congr
  · intro s hs; rw [h s hs]
  · intro s hs; rw [h s hs]

namespace GPT2

/-- The input row of the first block at each position of a token sequence; zero
    past its end or past the position table. -/
def input_row (model : GPT2 α cfg) (tokens : List (Token cfg)) (t : Nat) :
    Row α cfg.n_embd :=
  if h : t < tokens.length ∧ t < cfg.n_positions then
    fun j => model.wte.get₂ (tokens.get ⟨t, h.1⟩) j + model.wpe.get₂ ⟨t, h.2⟩ j
  else
    fun _ => 0

/-- The row at position `t` before block `layer`. -/
def hidden (F : Scalars α) (model : GPT2 α cfg) (tokens : List (Token cfg)) :
    Nat → Nat → Row α cfg.n_embd
  | 0 => model.input_row tokens
  | layer + 1 =>
    if h : layer < cfg.n_layer then
      block_row F (model.h ⟨layer, h⟩) (model.hidden F tokens layer)
    else
      model.hidden F tokens layer

/-- The logits at position `t`. -/
def logits_row (F : Scalars α) (model : GPT2 α cfg) (tokens : List (Token cfg)) (t : Nat) :
    Row α cfg.vocab_size :=
  fun j => ∑ l, layer_norm_row F model.ln_f (model.hidden F tokens cfg.n_layer t) l *
    model.lm_head.get₂ j l

/-- The cache row of a layer at position `t`. -/
def cache_row (F : Scalars α) (model : GPT2 α cfg) (tokens : List (Token cfg))
    (layer : Fin cfg.n_layer) (t : Nat) : Row α (2 * cfg.n_embd) :=
  kv_row F (model.h layer) (model.hidden F tokens layer t)

theorem hidden_succ (F : Scalars α) (model : GPT2 α cfg) (tokens : List (Token cfg))
    (layer : Fin cfg.n_layer) :
    model.hidden F tokens (layer + 1) =
      block_row F (model.h layer) (model.hidden F tokens layer) := by
  rw [hidden, dif_pos layer.isLt]

/-- Two token sequences that agree up to position `t` have the same rows there,
    in every layer. -/
theorem hidden_congr (F : Scalars α) (model : GPT2 α cfg) {xs ys : List (Token cfg)} {t : Nat}
    (h : ∀ s ≤ t, model.input_row xs s = model.input_row ys s) (layer : Nat) :
    ∀ s ≤ t, model.hidden F xs layer s = model.hidden F ys layer s := by
  -- a block reads earlier positions, so the induction is for all of them at once
  induction layer with
  | zero => exact h
  | succ layer ih =>
    intro s hs
    by_cases hl : layer < cfg.n_layer
    · rw [hidden, hidden, dif_pos hl, dif_pos hl]
      apply block_row_congr
      intro r hr
      exact ih r (Nat.le_trans hr hs)
    · rw [hidden, hidden, dif_neg hl, dif_neg hl]
      exact ih s hs

/-- Appending tokens leaves the input rows of the others alone. -/
theorem input_row_append (model : GPT2 α cfg) (xs ys : List (Token cfg)) {t : Nat}
    (ht : t < xs.length) : model.input_row (xs ++ ys) t = model.input_row xs t := by
  by_cases hN : t < cfg.n_positions
  · have ht' : t < (xs ++ ys).length := by rw [List.length_append]; omega
    rw [input_row, input_row, dif_pos ⟨ht', hN⟩, dif_pos ⟨ht, hN⟩]
    simp [List.getElem_append_left ht]
  · rw [input_row, input_row, dif_neg (fun h => hN h.2), dif_neg (fun h => hN h.2)]

theorem hidden_append (F : Scalars α) (model : GPT2 α cfg) (xs ys : List (Token cfg))
    (layer : Nat) {t : Nat} (ht : t < xs.length) :
    model.hidden F (xs ++ ys) layer t = model.hidden F xs layer t :=
  hidden_congr F model
    (fun _ hs => model.input_row_append xs ys (Nat.lt_of_le_of_lt hs ht)) layer t (Nat.le_refl t)

theorem cache_row_append (F : Scalars α) (model : GPT2 α cfg) (xs ys : List (Token cfg))
    (layer : Fin cfg.n_layer) {t : Nat} (ht : t < xs.length) :
    model.cache_row F (xs ++ ys) layer t = model.cache_row F xs layer t := by
  rw [cache_row, cache_row, hidden_append F model xs ys _ ht]

end GPT2

/-! ## Section 3: The two code paths compute the causal function -/

omit [Field α] in
theorem get₃_split_heads (q : Tensor α [T, cfg.n_embd]) (h : Fin cfg.n_head) (t : Fin T)
    (i : Fin cfg.head_size) :
    (split_heads q).get₃ h t i = q.rows t (cfg.column (h, i)) := by
  simp only [split_heads, Tensor.get₃_transpose01]
  exact Tensor.get₃_view_split cfg.n_head_mul_head_size _ q t h i

omit [Field α] in
/-- If there is a row, the heads end up side by side. -/
theorem merge_heads_spec (x : Tensor α [cfg.n_head, T, cfg.head_size]) (hT : 0 < T) :
    ∃ y : Tensor α [T, cfg.n_embd], merge_heads x = .ok y ∧
      ∀ t h i, y.get₂ t (cfg.column (h, i)) = x.get₃ h t i := by
  refine ⟨_, if_neg (Nat.ne_of_gt hT), ?_⟩
  intro t h i
  rw [Tensor.contiguous_eq, ← Tensor.get₃_transpose01]
  exact Tensor.get₂_view_merge cfg.n_head_mul_head_size _ _ t h i

theorem get₃_attention_scores (F : Scalars α) (q : Tensor α [T, cfg.n_embd])
    (k : Tensor α [S, cfg.n_embd]) (h : Fin cfg.n_head) (t : Fin T) (s : Fin S) :
    (attention_scores F (split_heads q) (split_heads k)).get₃ h t s =
      ↑(score F (q.rows t) (k.rows s) h) := by
  simp [attention_scores, get₃_split_heads, score]

/-- The scores of `prefill` after the mask. -/
def masked_scores (F : Scalars α) (q k : Tensor α [T, cfg.n_embd]) :
    Tensor (WithBot α) [cfg.n_head, T, T] :=
  (attention_scores F (split_heads q) (split_heads k)).masked_fill
    ((Tensor.ofFn₂ fun _ _ => true).triu 1) ⊥

/-- A masked score weighs nothing, one at or before the query its exponential. -/
theorem expWeight_masked_scores (F : Scalars α) (q k : Tensor α [T, cfg.n_embd])
    (h : Fin cfg.n_head) (t s : Fin T) :
    Tensor.expWeight F.exp ((masked_scores F q k).get₃ h t s) =
      if s.val ≤ t.val then F.exp (score F (q.rows t) (k.rows s) h) else 0 := by
  rw [masked_scores, Tensor.get₃_masked_fill, Tensor.get₂_triu, Tensor.get₂_ofFn₂,
    get₃_attention_scores]
  by_cases hst : s.val ≤ t.val
  · have hmask : ¬ t.val + 1 ≤ s.val := by omega
    simp [hst, hmask]
  · have hmask : t.val + 1 ≤ s.val := by omega
    simp [hst, hmask]

/-- The softmax of the masked scores. -/
def attention_probs (F : Scalars α) (q k : Tensor α [T, cfg.n_embd]) :
    Tensor α [cfg.n_head, T, T] :=
  (masked_scores F q k).softmax F.exp

/-- The pipeline returns the averages of the values. -/
theorem prefill_attention_spec (F : Scalars α) (q k v : Tensor α [T, cfg.n_embd])
    (hT : 0 < T) :
    ∃ attention_out, prefill_attention F q k v = .ok attention_out ∧
      ∀ t h j, attention_out.get₂ t (cfg.column (h, j)) =
        ∑ s, (attention_probs F q k).get₃ h t s * v.get₂ s (cfg.column (h, j)) := by
  have hpipeline : prefill_attention F q k v =
      merge_heads ((attention_probs F q k).bmm (split_heads v)) := rfl
  obtain ⟨y, hmerge, hy⟩ := merge_heads_spec ((attention_probs F q k).bmm (split_heads v)) hT
  refine ⟨y, hpipeline.trans hmerge, ?_⟩
  intro t h j
  rw [hy, Tensor.get₃_bmm]
  apply Finset.sum_congr rfl
  intro s _
  rw [get₃_split_heads]
  rfl

/-- The masked pipeline of `prefill` is causal attention at every position. -/
theorem rows_prefill_attention (F : Scalars α) (q k v : Tensor α [T, cfg.n_embd]) (hT : 0 < T)
    {K V : Nat → Row α cfg.n_embd} (hK : ∀ s : Fin T, k.rows s = K s)
    (hV : ∀ s : Fin T, v.rows s = V s) :
    ∃ attention_out, prefill_attention F q k v = .ok attention_out ∧
      ∀ t, attention_out.rows t = attention_row F (q.rows t) K V t := by
  obtain ⟨out, hrun, hout⟩ := prefill_attention_spec F q k v hT
  refine ⟨out, hrun, ?_⟩
  intro t
  -- the normaliser is a sum over the positions up to `t`
  have hsum : ∀ h, ∑ s : Fin T, (if s.val ≤ t.val then F.exp (score F (q.rows t) (K s) h) else 0)
      = ∑ r ∈ Finset.range (t.val + 1), F.exp (score F (q.rows t) (K r) h) := fun h =>
    Tensor.sum_fin_le t.isLt fun s => F.exp (score F (q.rows t) (K s) h)
  funext c
  obtain ⟨⟨h, j⟩, rfl⟩ := cfg.column.surjective c
  show out.get₂ t (cfg.column (h, j)) = _
  simp only [hout, attention_probs, Tensor.get₃_softmax,
    expWeight_masked_scores, hK, hsum, attention_row, Equiv.symm_apply_apply]
  rw [← Tensor.sum_fin_le t.isLt fun s => weight F (q.rows t) K t h s * V s (cfg.column (h, j))]
  apply Finset.sum_congr rfl
  intro s _
  have hVs : v.get₂ s (cfg.column (h, j)) = V s (cfg.column (h, j)) := congrFun (hV s) _
  rw [weight, hVs]
  by_cases hst : s.val ≤ t.val
  · simp [hst]
  · simp [hst]

/-- The unmasked pipeline of `decode` is causal attention at the last of the
    positions it is given keys and values for. -/
theorem rows_decode_attention (F : Scalars α) (q : Tensor α [1, cfg.n_embd])
    (k v : Tensor α [S, cfg.n_embd]) {K V : Nat → Row α cfg.n_embd} {t : Nat}
    (hS : S = t + 1) (hK : ∀ s : Fin S, k.rows s = K s) (hV : ∀ s : Fin S, v.rows s = V s) :
    ∃ attention_out, decode_attention F q k v = .ok attention_out ∧
      attention_out.rows 0 = attention_row F (q.rows 0) K V t := by
  subst hS
  -- there is one row, so the last size of the view is determined
  obtain ⟨out, hrun, hout⟩ := merge_heads_spec
    (((attention_scores F (split_heads q) (split_heads k)).softmax F.exp).bmm (split_heads v))
    Nat.one_pos
  refine ⟨out, hrun, ?_⟩
  -- nothing is masked: all the keys there are lie at or before `t`
  funext c
  obtain ⟨⟨h, j⟩, rfl⟩ := cfg.column.surjective c
  show out.get₂ 0 (cfg.column (h, j)) = _
  simp only [hout, Tensor.get₃_bmm, Tensor.get₃_softmax,
    get₃_attention_scores, Tensor.expWeight_coe, hK, get₃_split_heads, hV, attention_row,
    weight, Equiv.symm_apply_apply]
  rw [Fin.sum_univ_eq_sum_range (fun s => F.exp (score F (q.rows 0) (K s) h)) (t + 1),
    Fin.sum_univ_eq_sum_range (fun s => F.exp (score F (q.rows 0) (K s) h) /
      (∑ r ∈ Finset.range (t + 1), F.exp (score F (q.rows 0) (K r) h)) *
        V s (cfg.column (h, j))) (t + 1)]

namespace Transformer

theorem rows_chunk_qkv (F : Scalars α) (b : Transformer α cfg) (x : Tensor α [T, cfg.n_embd])
    (i : Fin 3) (t : Fin T) :
    ((b.qkv F x).chunk 3 i).rows t = qkv_row F b.toBlockWeights (x.rows t) i := by
  funext j
  simp [Tensor.rows, qkv, qkv_row, ← rows_layer_norm]

/-- The row that both paths store for an input row. -/
theorem rows_cat_kv (F : Scalars α) (b : Transformer α cfg) (x : Tensor α [T, cfg.n_embd])
    (t : Fin T) :
    (Tensor.cat ![(b.qkv F x).chunk 3 1, (b.qkv F x).chunk 3 2]).rows t =
      kv_row F b.toBlockWeights (x.rows t) := by
  have hchunk : ∀ i : Fin 2, ![(b.qkv F x).chunk 3 1, (b.qkv F x).chunk 3 2] i =
      (b.qkv F x).chunk 3 (![1, 2] i) := by
    intro i
    fin_cases i <;> rfl
  funext c
  rw [kv_row, ← rows_chunk_qkv, ← hchunk]
  exact Tensor.get₂_ofFn₂ _ t c

theorem rows_finish (F : Scalars α) (b : Transformer α cfg) (x a : Tensor α [T, cfg.n_embd])
    (t : Fin T) :
    (b.finish F x a).rows t = finish_row F b.toBlockWeights (x.rows t) (a.rows t) := by
  have hout : (x + linear a b.proj).rows t =
      fun j => x.rows t j + linear_row b.proj (a.rows t) j := by
    funext j
    simp [Tensor.rows]
  have hmlp : ((linear (layer_norm F (x + linear a b.proj) b.ln2) b.mlp).map F.gelu).rows t =
      fun j => F.gelu (linear_row b.mlp (layer_norm_row F b.ln2
        (fun j => x.rows t j + linear_row b.proj (a.rows t) j)) j) := by
    funext j
    rw [← hout, ← rows_layer_norm, ← rows_linear]
    simp [Tensor.rows]
  funext j
  rw [finish_row, ← hmlp, ← rows_linear]
  simp [Tensor.rows, finish]

end Transformer

end KVCache
