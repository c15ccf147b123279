import BuildMyOwnX.Framework.Loop
import BuildMyOwnX.KVCache.Causal

/-! # Prefill and Decode Refine the Causal Transformer

    Both forward passes run the blocks in order over a hidden state and the
    cache. The invariant of that loop, after the first `i` blocks, is

    - the hidden rows are those of `GPT2.hidden` before block `i`, and
    - the cache differs from the initial one exactly in the written rows of the
      first `i` layers, which hold `GPT2.cache_row` (`Stored`).

    A prefill writes rows `0..T-1`, a decode at position `p` writes row `p` and
    reads the rows up to it, which must have been written (`Filled`).
-/

namespace KVCache

variable {α : Type} {cfg : Config} {rows T : Nat}

/-! ## Section 1: What a step leaves in the cache -/

/-- The contents of a cache, by layer and position. -/
abbrev Contents (α : Type) (cfg : Config) : Type :=
  Fin cfg.n_layer → Nat → Row α (2 * cfg.n_embd)

/-- From `c₀` to `c` exactly the cells `at_` were written, with contents `K`. -/
structure Stored (c₀ c : Cache α cfg rows) (at_ : Fin rows → Fin cfg.n_layer → Prop)
    (K : Contents α cfg) : Prop where
  written : ∀ r l col, at_ r l → c.get₃ r l col = some (K l r col)
  frame : ∀ r l col, ¬ at_ r l → c.get₃ r l col = c₀.get₃ r l col

/-- The same for an optional cache, of which nothing is asked when it is absent. -/
def StoredOpt (c₀ c : Option (Cache α cfg rows)) (at_ : Fin rows → Fin cfg.n_layer → Prop)
    (K : Contents α cfg) : Prop :=
  match c₀, c with
  | none, none => True
  | some c₀, some c => Stored c₀ c at_ K
  | _, _ => False

/-- Rows `0..n-1` hold `K` in every layer. -/
def Filled (c : Cache α cfg rows) (n : Nat) (K : Contents α cfg) : Prop :=
  ∀ r l col, r.val < n → c.get₃ r l col = some (K l r col)

theorem Stored.refl {c : Cache α cfg rows} {at_ : Fin rows → Fin cfg.n_layer → Prop}
    {K : Contents α cfg} (h : ∀ r l, ¬ at_ r l) : Stored c c at_ K :=
  ⟨fun r l _ hat => absurd hat (h r l), fun _ _ _ _ => rfl⟩

theorem Stored.trans {c₀ c₁ c₂ : Cache α cfg rows}
    {at₁ at₂ at_ : Fin rows → Fin cfg.n_layer → Prop} {K : Contents α cfg}
    (h₁ : Stored c₀ c₁ at₁ K) (h₂ : Stored c₁ c₂ at₂ K)
    (hat : ∀ r l, at_ r l ↔ at₁ r l ∨ at₂ r l) : Stored c₀ c₂ at_ K := by
  constructor
  · intro r l col h
    -- what both wrote was written last by the second
    by_cases h' : at₂ r l
    · exact h₂.written r l col h'
    · have hold : at₁ r l := ((hat r l).mp h).resolve_right h'
      rw [h₂.frame r l col h', h₁.written r l col hold]
  · intro r l col h
    have hn : ¬ at₁ r l ∧ ¬ at₂ r l := not_or.mp (fun h' => h ((hat r l).mpr h'))
    rw [h₂.frame r l col hn.2, h₁.frame r l col hn.1]

theorem StoredOpt.refl {c : Option (Cache α cfg rows)}
    {at_ : Fin rows → Fin cfg.n_layer → Prop} {K : Contents α cfg}
    (h : ∀ r l, ¬ at_ r l) : StoredOpt c c at_ K := by
  cases c with
  | none => trivial
  | some c => exact Stored.refl h

theorem StoredOpt.trans {c₀ c₁ c₂ : Option (Cache α cfg rows)}
    {at₁ at₂ at_ : Fin rows → Fin cfg.n_layer → Prop} {K : Contents α cfg}
    (h₁ : StoredOpt c₀ c₁ at₁ K) (h₂ : StoredOpt c₁ c₂ at₂ K)
    (hat : ∀ r l, at_ r l ↔ at₁ r l ∨ at₂ r l) : StoredOpt c₀ c₂ at_ K := by
  match c₀, c₁, c₂, h₁, h₂ with
  | none, none, none, _, _ => trivial
  | some _, some _, some _, h₁, h₂ => exact Stored.trans h₁ h₂ hat

theorem StoredOpt.of_none {c : Option (Cache α cfg rows)}
    {at_ : Fin rows → Fin cfg.n_layer → Prop} {K : Contents α cfg}
    (h : StoredOpt none c at_ K) : c = none := by
  cases c with
  | none => rfl
  | some c => exact absurd h (by simp [StoredOpt])

theorem StoredOpt.of_some {c₀ : Cache α cfg rows} {c : Option (Cache α cfg rows)}
    {at_ : Fin rows → Fin cfg.n_layer → Prop} {K : Contents α cfg}
    (h : StoredOpt (some c₀) c at_ K) : ∃ c', c = some c' ∧ Stored c₀ c' at_ K := by
  cases c with
  | none => exact absurd h (by simp [StoredOpt])
  | some c => exact ⟨c, rfl, h⟩

theorem Stored.filled {c₀ c : Cache α cfg rows} {K : Contents α cfg} {n : Nat}
    (h : Stored c₀ c (fun r _ => r.val < n) K) : Filled c n K :=
  fun r l col hr => h.written r l col hr

theorem store_rows_spec (c₀ : Cache α cfg rows) (layer_id : Fin cfg.n_layer)
    (kv : Tensor α [T, 2 * cfg.n_embd]) {K : Contents α cfg}
    (hK : ∀ t : Fin T, kv.rows t = K layer_id t) (hT : T ≤ rows) :
    ∃ c, store_rows c₀ layer_id kv = .ok c ∧
      Stored c₀ c (fun r l => l = layer_id ∧ r.val < T) K := by
  refine ⟨_, if_pos hT, ?_, ?_⟩
  · rintro r l col ⟨rfl, hr⟩
    rw [Tensor.get₃_ofFn₃, dif_pos ⟨rfl, hr⟩]
    exact congrArg some (congrFun (hK ⟨r, hr⟩) col)
  · intro r l col h
    rw [Tensor.get₃_ofFn₃, dif_neg h]

theorem store_row_spec (c₀ : Cache α cfg rows) (layer_id : Fin cfg.n_layer) (p : Nat)
    (kv : Tensor α [1, 2 * cfg.n_embd]) {K : Contents α cfg}
    (hK : kv.rows 0 = K layer_id p) :
    Stored c₀ (store_row c₀ layer_id p kv) (fun r l => l = layer_id ∧ r.val = p) K := by
  constructor
  · rintro r l col ⟨rfl, hr⟩
    rw [store_row, Tensor.get₃_ofFn₃, if_pos ⟨rfl, hr⟩, hr]
    exact congrArg some (congrFun hK col)
  · intro r l col h
    rw [store_row, Tensor.get₃_ofFn₃, if_neg h]

/-- Rows that hold `K` are read as `K`. -/
theorem load_rows_spec (c : Cache α cfg rows) (layer_id : Fin cfg.n_layer) (stop : Nat)
    {K : Contents α cfg}
    (h : ∀ r col, r.val < stop → c.get₃ r layer_id col = some (K layer_id r col)) :
    ∃ kv, load_rows c layer_id stop = .ok kv ∧ ∀ s, kv.rows s = K layer_id s := by
  let kv : Tensor α [min stop rows, 2 * cfg.n_embd] := Tensor.ofFn₂ fun r col => K layer_id r col
  refine ⟨kv, ?_, ?_⟩
  · have hseq : (Tensor.ofFn₂ fun r col =>
        c.get₃ ⟨r, by omega⟩ layer_id col : Tensor _ [min stop rows, _]).sequence = some kv := by
      apply Tensor.sequence_eq_some
      rintro ⟨r, col, ⟨⟩⟩
      have hr : r.val < stop := Nat.lt_of_lt_of_le r.isLt (Nat.min_le_left _ _)
      show Tensor.get₂ _ r col = some (kv.get₂ r col)
      rw [Tensor.get₂_ofFn₂, Tensor.get₂_ofFn₂, h _ _ hr]
    simp only [load_rows, hseq]
  · intro s
    funext col
    exact Tensor.get₂_ofFn₂ _ s col

/-! ## Section 2: One block -/

variable [Field α]

namespace Transformer

/-- A block prefill computes the causal function of the block on every row, and
    stores the rows of its layer if there is a cache. -/
theorem prefill_spec (F : Scalars α) (b : Transformer α cfg) {x : Tensor α [T, cfg.n_embd]}
    {X : Nat → Row α cfg.n_embd} (hx : ∀ t : Fin T, x.rows t = X t) (hpos : 0 < T)
    {c₀ : Option (Cache α cfg rows)} (hT : c₀.isSome → T ≤ rows) {K : Contents α cfg}
    (hK : ∀ t < T, K b.layer_id t = kv_row F b.toBlockWeights (X t)) :
    ∃ y c, b.prefill F x c₀ = .ok (y, c) ∧
      (∀ t : Fin T, y.rows t = block_row F b.toBlockWeights X t) ∧
      StoredOpt c₀ c (fun r l => l = b.layer_id ∧ r.val < T) K := by
  have hchunk : ∀ (i : Fin 3) (s : Fin T),
      ((b.qkv F x).chunk 3 i).rows s = qkv_row F b.toBlockWeights (X s) i := by
    intro i s
    rw [rows_chunk_qkv, hx s]
  -- the output is the same whether or not there is a cache
  obtain ⟨out, hout, houtrows⟩ := rows_prefill_attention F ((b.qkv F x).chunk 3 0)
    ((b.qkv F x).chunk 3 1) ((b.qkv F x).chunk 3 2) hpos
    (K := fun s => qkv_row F b.toBlockWeights (X s) 1)
    (V := fun s => qkv_row F b.toBlockWeights (X s) 2) (hchunk 1) (hchunk 2)
  have hy : ∀ t : Fin T, (b.finish F x out).rows t = block_row F b.toBlockWeights X t := by
    intro t
    rw [rows_finish, hx t, houtrows, hchunk 0]
    rfl
  cases c₀ with
  | none =>
    refine ⟨b.finish F x out, none, ?_, hy, trivial⟩
    simp only [prefill, hout]
    rfl
  | some c₀ =>
    have hkv : ∀ t : Fin T, (Tensor.cat ![(b.qkv F x).chunk 3 1, (b.qkv F x).chunk 3 2]).rows t =
        K b.layer_id t := by
      intro t
      rw [rows_cat_kv, hx t, hK t t.isLt]
    obtain ⟨c, hc, hstored⟩ := store_rows_spec c₀ b.layer_id _ hkv (hT rfl)
    refine ⟨b.finish F x out, some c, ?_, hy, hstored⟩
    simp only [prefill, hc, hout]
    rfl

/-- Without rows the block has stored nothing when the view of the attention
    raises. -/
theorem prefill_no_rows (F : Scalars α) (b : Transformer α cfg) (x : Tensor α [0, cfg.n_embd])
    (c₀ : Option (Cache α cfg rows)) : b.prefill F x c₀ = .error .ambiguous_view := by
  cases c₀ with
  | none => rfl
  | some c₀ =>
    simp only [prefill, store_rows, if_pos (Nat.zero_le rows)]
    rfl

/-- A block decode at position `p` computes the causal function of the block
    there, provided the rows before `p` are in the cache, and stores row `p`. -/
theorem decode_spec (F : Scalars α) (b : Transformer α cfg) {x : Tensor α [1, cfg.n_embd]}
    {X : Nat → Row α cfg.n_embd} {p : Nat} (hx : x.rows 0 = X p) (hp : p < rows)
    {c₀ : Cache α cfg rows} {K : Contents α cfg}
    (hK : ∀ t ≤ p, K b.layer_id t = kv_row F b.toBlockWeights (X t))
    (hread : ∀ r col, r.val < p → c₀.get₃ r b.layer_id col = some (K b.layer_id r col)) :
    ∃ y c, b.decode F x c₀ p = .ok (y, c) ∧
      y.rows 0 = block_row F b.toBlockWeights X p ∧
      Stored c₀ c (fun r l => l = b.layer_id ∧ r.val = p) K := by
  have hkv : (Tensor.cat ![(b.qkv F x).chunk 3 1, (b.qkv F x).chunk 3 2]).rows 0 =
      K b.layer_id p := by
    rw [rows_cat_kv, hx, hK p (Nat.le_refl p)]
  have hstored := store_row_spec c₀ b.layer_id p _ hkv
  -- rows before `p` were there, row `p` has just been stored
  have hrows : ∀ r col, r.val < p + 1 →
      (store_row c₀ b.layer_id p (Tensor.cat
        ![(b.qkv F x).chunk 3 1, (b.qkv F x).chunk 3 2])).get₃ r b.layer_id col =
        some (K b.layer_id r col) := by
    intro r col hr
    by_cases hrp : r.val = p
    · exact hstored.written r b.layer_id col ⟨rfl, hrp⟩
    · rw [hstored.frame r b.layer_id col (fun h => hrp h.2)]
      exact hread r col (by omega)
  obtain ⟨kv, hload, hkvrows⟩ := load_rows_spec _ b.layer_id (p + 1) hrows
  have hlen : min (p + 1) rows = p + 1 := Nat.min_eq_left hp
  -- the two halves of a cache row are its key and its value
  have hchunk : ∀ (i : Fin 2) (s : Fin (min (p + 1) rows)),
      (kv.chunk 2 i).rows s = qkv_row F b.toBlockWeights (X s) (![1, 2] i) := by
    intro i s
    have hs : s.val ≤ p := by have := s.isLt; omega
    funext j
    have hcol : (finProdFinEquiv (i, j)).divNat = i ∧ (finProdFinEquiv (i, j)).modNat = j :=
      Prod.ext_iff.mp (finProdFinEquiv.symm_apply_apply (i, j))
    show Tensor.get₂ _ s j = _
    rw [Tensor.get₂_chunk]
    show kv.rows s (finProdFinEquiv (i, j)) = _
    rw [hkvrows s, hK s hs, kv_row, hcol.1, hcol.2]
  have hq : ((b.qkv F x).chunk 3 0).rows 0 = qkv_row F b.toBlockWeights (X p) 0 := by
    rw [rows_chunk_qkv, hx]
  obtain ⟨out, hout, houtrow⟩ := rows_decode_attention F ((b.qkv F x).chunk 3 0)
    (kv.chunk 2 0) (kv.chunk 2 1)
    (K := fun s => qkv_row F b.toBlockWeights (X s) 1)
    (V := fun s => qkv_row F b.toBlockWeights (X s) 2) hlen (hchunk 0) (hchunk 1)
  refine ⟨b.finish F x out, _, ?_, ?_, hstored⟩
  · simp only [decode, hload, Except.ok_bind, hout]
    rfl
  · rw [rows_finish, hx, houtrow, hq]
    rfl

end Transformer

/-! ## Section 3: The forward passes -/

namespace GPT2

/-- Adding the positions to the token embeddings gives the input rows. -/
theorem add_rows_spec (model : GPT2 α cfg) (tokens : List (Token cfg))
    (hN : tokens.length ≤ cfg.n_positions) :
    ∃ hs, add_rows (model.token_embeddings tokens) (model.wpe.takeRows tokens.length) = .ok hs ∧
      ∀ t, hs.rows t = model.hidden F tokens 0 t := by
  have hlen : min tokens.length cfg.n_positions = tokens.length := Nat.min_eq_left hN
  refine ⟨_, dif_pos hlen, ?_⟩
  intro t
  funext j
  have ht : t.val < tokens.length ∧ t.val < cfg.n_positions := ⟨t.isLt, by omega⟩
  rw [hidden, input_row, dif_pos ht]
  simp [Tensor.rows, token_embeddings]

theorem rows_logits (F : Scalars α) (model : GPT2 α cfg) (tokens : List (Token cfg))
    {hs : Tensor α [T, cfg.n_embd]} {i : Fin T} {t : Nat}
    (h : hs.rows i = model.hidden F tokens cfg.n_layer t) :
    (model.logits F hs).rows i = model.logits_row F tokens t := by
  funext j
  rw [logits_row, ← h, ← rows_layer_norm]
  simp [Tensor.rows, logits]

/-- A prefill returns the causal logits of every position and fills the rows of
    its tokens in every layer. -/
theorem prefill_spec (F : Scalars α) (model : GPT2 α cfg) {tokens : List (Token cfg)}
    (hpos : 0 < tokens.length) (hN : tokens.length ≤ cfg.n_positions)
    (c₀ : Option (Cache α cfg rows))
    (hrows : c₀.isSome → tokens.length ≤ rows) :
    ∃ y c, model.prefill F tokens c₀ = .ok (y, c) ∧
      (∀ t : Fin tokens.length, y.rows t = model.logits_row F tokens t) ∧
      StoredOpt c₀ c (fun r _ => r.val < tokens.length) (model.cache_row F tokens) := by
  obtain ⟨hs₀, hadd, hhs₀⟩ := add_rows_spec (F := F) model tokens hN
  -- after `i` blocks the rows are those before block `i`, and `i` layers are stored
  have hfold := List.foldlM_finRange_rule
    (f := fun (s : Tensor α [tokens.length, cfg.n_embd] × Option (Cache α cfg rows)) layer_id =>
      (model.transformer_blocks layer_id).prefill F s.1 s.2)
    (fun i s => (∀ t : Fin tokens.length, s.1.rows t = model.hidden F tokens i t) ∧
      StoredOpt c₀ s.2 (fun r l => l.val < i ∧ r.val < tokens.length)
        (model.cache_row F tokens))
    (b := (hs₀, c₀)) ⟨hhs₀, StoredOpt.refl (fun _ _ h => Nat.not_lt_zero _ h.1)⟩ ?_
  · obtain ⟨⟨hs, c⟩, hrun, hhs, hc⟩ := hfold
    refine ⟨model.logits F hs, c, ?_, fun t => rows_logits F model tokens (hhs t), ?_⟩
    · simp only [prefill, hadd, Except.ok_bind, hrun]
      rfl
    · refine StoredOpt.trans hc (StoredOpt.refl fun _ _ h => h) ?_
      intro r l
      simp [l.isLt]
  · rintro i ⟨hs, c⟩ ⟨hhs, hc⟩
    -- there is a cache after some blocks only if there was one at the start
    have hsome : c.isSome → tokens.length ≤ rows := by
      intro h
      apply hrows
      cases c₀ with
      | none =>
        have hnone : c = none := StoredOpt.of_none hc
        rw [hnone] at h
        exact absurd h (by simp)
      | some c₀ => rfl
    obtain ⟨y, c', hrun, hy, hc'⟩ := Transformer.prefill_spec F (model.transformer_blocks i)
      (X := model.hidden F tokens i) hhs hpos hsome (K := model.cache_row F tokens)
      (fun t _ => rfl)
    refine ⟨(y, c'), hrun, ?_, ?_⟩
    · intro t
      rw [hy t, hidden_succ]
      rfl
    · refine StoredOpt.trans hc hc' ?_
      intro r l
      have hl : l = i ↔ l.val = i.val := Fin.ext_iff
      simp only [transformer_blocks, hl]
      omega

/-- The prefill without a cache. -/
theorem prefill_none_spec (F : Scalars α) (model : GPT2 α cfg) (rows : Nat)
    {tokens : List (Token cfg)} (hpos : 0 < tokens.length)
    (hN : tokens.length ≤ cfg.n_positions) :
    ∃ y, model.prefill F tokens (none : Option (Cache α cfg rows)) = .ok (y, none) ∧
      ∀ t : Fin tokens.length, y.rows t = model.logits_row F tokens t := by
  obtain ⟨y, c, hrun, hy, hc⟩ := model.prefill_spec F hpos hN
    (none : Option (Cache α cfg rows)) (fun h => absurd h (by simp))
  exact ⟨y, hc.of_none ▸ hrun, hy⟩

/-- The prefill into a cache with enough rows. -/
theorem prefill_some_spec (F : Scalars α) (model : GPT2 α cfg) {tokens : List (Token cfg)}
    (hpos : 0 < tokens.length) (hN : tokens.length ≤ cfg.n_positions)
    (hrows : tokens.length ≤ rows) (c₀ : Cache α cfg rows) :
    ∃ y c, model.prefill F tokens (some c₀) = .ok (y, some c) ∧
      (∀ t : Fin tokens.length, y.rows t = model.logits_row F tokens t) ∧
      Stored c₀ c (fun r _ => r.val < tokens.length) (model.cache_row F tokens) := by
  obtain ⟨y, c, hrun, hy, hc⟩ := model.prefill_spec F hpos hN (some c₀) (fun _ => hrows)
  obtain ⟨c', rfl, hstored⟩ := hc.of_some
  exact ⟨y, c', hrun, hy, hstored⟩

/-- Without tokens the first block raises. -/
theorem prefill_no_tokens (F : Scalars α) (model : GPT2 α cfg) (hblocks : cfg.n_layer ≠ 0)
    (c₀ : Option (Cache α cfg rows)) :
    model.prefill F [] c₀ = .error .ambiguous_view := by
  obtain ⟨hs, hadd, -⟩ := add_rows_spec (F := F) model [] (Nat.zero_le _)
  simp only [prefill, hadd, Except.ok_bind]
  cases hrange : List.finRange cfg.n_layer with
  | nil => exact absurd (List.finRange_eq_nil_iff.mp hrange) hblocks
  | cons i layers =>
    rw [List.foldlM_cons, Transformer.prefill_no_rows]
    rfl

/-- With no block either there is nothing that raises. -/
theorem prefill_no_blocks (F : Scalars α) (model : GPT2 α cfg) (hblocks : cfg.n_layer = 0)
    (c₀ : Option (Cache α cfg rows)) : ∃ y, model.prefill F [] c₀ = .ok (y, c₀) := by
  obtain ⟨hs, hadd, -⟩ := add_rows_spec (F := F) model [] (Nat.zero_le _)
  refine ⟨model.logits F hs, ?_⟩
  simp only [prefill, hadd, Except.ok_bind, List.finRange_eq_nil_iff.mpr hblocks]
  rfl

/-- The first `k` blocks of a decode at position `p`, with the rows before `p`
    in the cache. -/
theorem decode_blocks_spec (F : Scalars α) (model : GPT2 α cfg) (tokens : List (Token cfg))
    {p : Nat} (hp : p < rows) {c₀ : Cache α cfg rows}
    (hfilled : Filled c₀ p (model.cache_row F tokens)) {hs₀ : Tensor α [1, cfg.n_embd]}
    (hhs₀ : hs₀.rows 0 = model.hidden F tokens 0 p) (k : Nat) (hk : k ≤ cfg.n_layer) :
    ∃ s : Tensor α [1, cfg.n_embd] × Cache α cfg rows,
      ((List.finRange cfg.n_layer).take k).foldlM
        (fun (hs, kv_cache) layer_id =>
          (model.transformer_blocks layer_id).decode F hs kv_cache p) (hs₀, c₀) = .ok s ∧
      s.1.rows 0 = model.hidden F tokens k p ∧
      Stored c₀ s.2 (fun r l => l.val < k ∧ r.val = p) (model.cache_row F tokens) := by
  refine List.foldlM_take_finRange_rule
    (fun i (s : Tensor α [1, cfg.n_embd] × Cache α cfg rows) =>
      s.1.rows 0 = model.hidden F tokens i p ∧
      Stored c₀ s.2 (fun r l => l.val < i ∧ r.val = p) (model.cache_row F tokens))
    ⟨hhs₀, Stored.refl (fun _ _ h => Nat.not_lt_zero _ h.1)⟩ ?_ k hk
  rintro i ⟨hs, c⟩ ⟨hhs, hc⟩
  -- rows before `p` have not been touched since the start of this decode
  have hread : ∀ r col, r.val < p →
      c.get₃ r i col = some (model.cache_row F tokens i r col) := by
    intro r col hr
    rw [hc.frame r i col (fun h => by omega)]
    exact hfilled r i col hr
  obtain ⟨y, c', hrun, hy, hc'⟩ := Transformer.decode_spec F (model.transformer_blocks i)
    (X := model.hidden F tokens i) hhs hp (K := model.cache_row F tokens)
    (fun t _ => rfl) hread
  refine ⟨(y, c'), hrun, ?_, ?_⟩
  · rw [hy, hidden_succ]
    rfl
  · refine Stored.trans hc hc' ?_
    intro r l
    have hl : l = i ↔ l.val = i.val := Fin.ext_iff
    simp only [transformer_blocks, hl]
    omega

/-- The input row of a decode. -/
theorem decode_input_spec (F : Scalars α) (model : GPT2 α cfg) (tokens : List (Token cfg))
    {p : Nat} (hlen : p < tokens.length) (hN : p < cfg.n_positions) :
    ((model.token_embeddings [tokens.get ⟨p, hlen⟩]).addRow (model.wpe.row ⟨p, hN⟩) :
      Tensor α [1, cfg.n_embd]).rows 0 = model.hidden F tokens 0 p := by
  funext j
  rw [hidden, input_row, dif_pos ⟨hlen, hN⟩]
  simp [Tensor.rows, token_embeddings]

/-- A decode at position `p`, with the rows before `p` in the cache, returns
    the causal logits of position `p` and stores its row in every layer. -/
theorem decode_spec (F : Scalars α) (model : GPT2 α cfg) (tokens : List (Token cfg))
    {p : Nat} (hlen : p < tokens.length) (hN : p < cfg.n_positions) (hp : p < rows)
    {c₀ : Cache α cfg rows} (hfilled : Filled c₀ p (model.cache_row F tokens)) :
    ∃ y c, model.decode F (tokens.get ⟨p, hlen⟩) p c₀ = .ok (y, c) ∧
      y.rows 0 = model.logits_row F tokens p ∧
      Stored c₀ c (fun r _ => r.val = p) (model.cache_row F tokens) := by
  obtain ⟨⟨hs, c⟩, hrun, hhs, hc⟩ := model.decode_blocks_spec F tokens hp hfilled
    (model.decode_input_spec F tokens hlen hN) cfg.n_layer (Nat.le_refl _)
  rw [List.take_of_length_le (by simp)] at hrun
  refine ⟨model.logits F hs, c, ?_, rows_logits F model tokens hhs, ?_⟩
  · simp only [decode, dif_pos hN]
    show (List.foldlM _ _ (List.finRange cfg.n_layer) >>= _) = _
    rw [hrun]
    rfl
  · refine Stored.trans hc (Stored.refl fun _ _ h => h) ?_
    intro r l
    simp [l.isLt]

end GPT2

end KVCache
