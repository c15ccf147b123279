import BuildMyOwnX.Framework.Tensor

/-! # GPT-2 with a Key/Value Cache

    The forward passes of `KV_Cache/model.py` over exact arithmetic:
    `Transformer.prefill`, `Transformer.decode` and the `GPT2` methods of the
    same names that run the blocks one after another.

    Tensors carry their shape in the type, so the products and sums that torch
    checks when it runs are well formed here. What can still fail is fallible:
    a slice with too few rows, a view of no rows whose size `-1` is open, a
    position outside an embedding table, and a read of memory that `torch.empty`
    left uninitialised. A cache cell is therefore an `Option`: `none` until
    something is written to it.
-/

namespace KVCache

/-! ## Section 1: Weights -/

/-- The real functions torch applies elementwise. -/
structure Scalars (α : Type) where
  exp : α → α
  sqrt : α → α
  gelu : α → α

/-- The sizes of a model (the entries of its `config` the code uses). -/
structure Config where
  n_positions : Nat
  n_layer : Nat
  n_head : Nat
  n_embd : Nat
  n_inner : Nat
  vocab_size : Nat
  n_head_dvd : n_head ∣ n_embd

/-- The size of one attention head, `q.shape[-1] // self.n_heads`. -/
abbrev Config.head_size (cfg : Config) : Nat := cfg.n_embd / cfg.n_head

theorem Config.n_head_mul_head_size (cfg : Config) :
    cfg.n_head * cfg.head_size = cfg.n_embd := Nat.mul_div_cancel' cfg.n_head_dvd

structure WeightsAndBiases (α : Type) (shape : List Nat) (n : Nat) where
  weights : Tensor α shape
  bias : Tensor α [n]

/-- The weights of one block, `transformer.h.{i}.*`. -/
structure BlockWeights (α : Type) (cfg : Config) where
  ln1 : WeightsAndBiases α [cfg.n_embd] cfg.n_embd
  attn_head : WeightsAndBiases α [cfg.n_embd, 3 * cfg.n_embd] (3 * cfg.n_embd)
  proj : WeightsAndBiases α [cfg.n_embd, cfg.n_embd] cfg.n_embd
  ln2 : WeightsAndBiases α [cfg.n_embd] cfg.n_embd
  mlp : WeightsAndBiases α [cfg.n_embd, cfg.n_inner] cfg.n_inner
  mlp_proj : WeightsAndBiases α [cfg.n_inner, cfg.n_embd] cfg.n_embd

structure Transformer (α : Type) (cfg : Config) extends BlockWeights α cfg where
  layer_id : Fin cfg.n_layer

/-- A loaded model. -/
structure GPT2 (α : Type) (cfg : Config) where
  wte : Tensor α [cfg.vocab_size, cfg.n_embd]
  wpe : Tensor α [cfg.n_positions, cfg.n_embd]
  h : Fin cfg.n_layer → BlockWeights α cfg
  ln_f : WeightsAndBiases α [cfg.n_embd] cfg.n_embd
  lm_head : Tensor α [cfg.vocab_size, cfg.n_embd]

abbrev Token (cfg : Config) : Type := Fin cfg.vocab_size

/-- What a forward pass raises. -/
inductive Error
  /-- Shapes that do not broadcast. -/
  | size_mismatch
  /-- The size `-1` of a view of no rows, which can be any value. -/
  | ambiguous_view
  /-- A position or row outside a tensor. -/
  | index_error
  /-- A failed `assert`. -/
  | assertion_error
  /-- A read of a cell that nothing has written. -/
  | uninitialised
  deriving DecidableEq, Repr

/-- The cache `[rows, len(transformer_blocks), embedding_dim * 2]`. -/
abbrev Cache (α : Type) (cfg : Config) (rows : Nat) : Type :=
  Tensor (Option α) [rows, cfg.n_layer, 2 * cfg.n_embd]

variable {α : Type} [Field α] {cfg : Config} {rows T S m n : Nat}

/-! ## Section 2: Layers -/

/-- `mean(dim=-1, keepdim=True)`. -/
def mean (x : Tensor α [m, n]) : Tensor α [m, 1] :=
  Tensor.ofFn₂ fun i _ => (∑ j : Fin n, x.get₂ i j) / n

def layer_norm (F : Scalars α) (activations : Tensor α [m, n])
    (ln : WeightsAndBiases α [n] n) : Tensor α [m, n] :=
  let eps : α := 1e-05
  let mean_ := mean activations
  let centered : Tensor α [m, n] := Tensor.ofFn₂ fun i j =>
    activations.get₂ i j - mean_.get₂ i 0
  let variance := mean (centered.map (· ^ 2))
  let normalized : Tensor α [m, n] := Tensor.ofFn₂ fun i j =>
    centered.get₂ i j / F.sqrt (variance.get₂ i 0 + eps)
  Tensor.ofFn₂ fun i j =>
    ln.weights.get₁ j * normalized.get₂ i j + ln.bias.get₁ j

/-- `x @ wb.weights + wb.bias`. -/
def linear (x : Tensor α [T, m]) (wb : WeightsAndBiases α [m, n] n) : Tensor α [T, n] :=
  (x.matmul wb.weights).addRow wb.bias

/-- `q.view(q.shape[0], self.n_heads, q.shape[-1] // self.n_heads).transpose(0, 1)`. -/
def split_heads (q : Tensor α [T, cfg.n_embd]) : Tensor α [cfg.n_head, T, cfg.head_size] :=
  let view : Tensor α [T, cfg.n_head, cfg.head_size] :=
    q.view (by simp [cfg.n_head_mul_head_size])
  view.transpose01

/-- `x.transpose(0, 1).contiguous()` and then `.view(x.shape[0], -1)`, whose last
    size torch infers from the number of entries over the number of rows. -/
def merge_heads (x : Tensor α [cfg.n_head, T, cfg.head_size]) :
    Except Error (Tensor α [T, cfg.n_embd]) :=
  let attention_out := x.transpose01.contiguous
  if T = 0 then
    -- no rows have no entries, whatever the last size
    .error .ambiguous_view
  else
    .ok <| attention_out.view (by simp [cfg.n_head_mul_head_size])

/-- The scaled products of queries and keys,
    `(q_head_split @ k_head_split.mT) / math.sqrt(k_head_split.shape[-1])`. -/
def attention_scores (F : Scalars α) (q_head_split : Tensor α [cfg.n_head, T, cfg.head_size])
    (k_head_split : Tensor α [cfg.n_head, S, cfg.head_size]) :
    Tensor (WithBot α) [cfg.n_head, T, S] :=
  (q_head_split.bmm k_head_split.mT).map fun x => ↑(x / F.sqrt cfg.head_size)

/-- The attention of `Transformer.prefill`, up to the output projection. -/
def prefill_attention (F : Scalars α) (q k v : Tensor α [T, cfg.n_embd]) :
    Except Error (Tensor α [T, cfg.n_embd]) :=
  let q_head_split := split_heads q
  let k_head_split := split_heads k
  let v_head_split := split_heads v
  let scores := attention_scores F q_head_split k_head_split
  -- positions after the query
  let ones : Tensor Bool [T, T] := Tensor.ofFn₂ fun _ _ => true
  let mask := ones.triu 1
  let scores := scores.masked_fill mask ⊥
  let attention_probs := scores.softmax F.exp
  let attention_out := attention_probs.bmm v_head_split
  merge_heads attention_out

/-- The attention of `Transformer.decode`, up to the output projection: one
    query against all the cached keys and values, and no mask. -/
def decode_attention (F : Scalars α) (q : Tensor α [1, cfg.n_embd])
    (k v : Tensor α [S, cfg.n_embd]) : Except Error (Tensor α [1, cfg.n_embd]) :=
  let q_head_split := split_heads q
  let k_head_split := split_heads k
  let v_head_split := split_heads v
  let scores := attention_scores F q_head_split k_head_split
  let attention_probs := scores.softmax F.exp
  let attention_out := attention_probs.bmm v_head_split
  merge_heads attention_out

namespace Transformer

/-- The layer norm and the joint query, key and value projection of a block. -/
def qkv (F : Scalars α) (b : Transformer α cfg) (x_input : Tensor α [T, cfg.n_embd]) :
    Tensor α [T, 3 * cfg.n_embd] :=
  let x := layer_norm F x_input b.ln1
  linear x b.attn_head

/-- The output projection, the residual sums and the MLP of a block. -/
def finish (F : Scalars α) (b : Transformer α cfg)
    (x_input attention_out : Tensor α [T, cfg.n_embd]) : Tensor α [T, cfg.n_embd] :=
  let attention_out := linear attention_out b.proj
  let attention_out := x_input + attention_out
  let mlp_in := layer_norm F attention_out b.ln2
  let mlp_out := (linear mlp_in b.mlp).map F.gelu
  let mlp_out := linear mlp_out b.mlp_proj
  attention_out + mlp_out

end Transformer

/-! ## Section 3: The cache -/

/-- `kv_cache[: kv.shape[0], layer_id, :] = kv`. When the cache has fewer rows
    the shapes differ, which torch refuses unless the one row of `kv`
    broadcasts to the empty slice. -/
def store_rows (kv_cache : Cache α cfg rows) (layer_id : Fin cfg.n_layer)
    (kv : Tensor α [T, 2 * cfg.n_embd]) : Except Error (Cache α cfg rows) :=
  if T ≤ rows then
    .ok <| Tensor.ofFn₃ fun r l c =>
      if h : l = layer_id ∧ r.val < T then some (kv.get₂ ⟨r, h.2⟩ c)
      else kv_cache.get₃ r l c
  else if T = 1 then
    .ok kv_cache
  else
    .error .size_mismatch

/-- `kv_cache[token_position : token_position + 1, layer_id, :] = kv`. Past the
    last row the slice is empty and nothing is stored. -/
def store_row (kv_cache : Cache α cfg rows) (layer_id : Fin cfg.n_layer)
    (token_position : Nat) (kv : Tensor α [1, 2 * cfg.n_embd]) : Cache α cfg rows :=
  Tensor.ofFn₃ fun r l c =>
    if l = layer_id ∧ r.val = token_position then some (kv.get₂ 0 c)
    else kv_cache.get₃ r l c

/-- `kv_cache[:stop, layer_id, :]`, clipped to the rows there are. -/
def load_rows (kv_cache : Cache α cfg rows) (layer_id : Fin cfg.n_layer) (stop : Nat) :
    Except Error (Tensor α [min stop rows, 2 * cfg.n_embd]) :=
  let cells : Tensor (Option α) [min stop rows, 2 * cfg.n_embd] :=
    Tensor.ofFn₂ fun r c => kv_cache.get₃ ⟨r, Tensor.lt_of_clipped r⟩ layer_id c
  match cells.sequence with
  | some kv => .ok kv
  | none => .error .uninitialised

/-! ## Section 4: Blocks -/

namespace Transformer

def prefill (F : Scalars α) (b : Transformer α cfg) (x_input : Tensor α [T, cfg.n_embd])
    (kv_cache : Option (Cache α cfg rows)) :
    Except Error (Tensor α [T, cfg.n_embd] × Option (Cache α cfg rows)) := do
  let qkv := b.qkv F x_input
  let q := qkv.chunk 3 0
  let k := qkv.chunk 3 1
  let v := qkv.chunk 3 2
  let kv_cache ← match kv_cache with
    | none => pure none
    | some kv_cache => do
      let kv := Tensor.cat ![k, v]
      some <$> store_rows kv_cache b.layer_id kv
  let attention_out ← prefill_attention F q k v
  let transformer_out := b.finish F x_input attention_out
  return (transformer_out, kv_cache)

def decode (F : Scalars α) (b : Transformer α cfg) (x_input : Tensor α [1, cfg.n_embd])
    (kv_cache : Cache α cfg rows) (token_position : Nat) :
    Except Error (Tensor α [1, cfg.n_embd] × Cache α cfg rows) := do
  let qkv := b.qkv F x_input
  let q := qkv.chunk 3 0
  let k_new_token := qkv.chunk 3 1
  let v_new_token := qkv.chunk 3 2
  let kv_cache := store_row kv_cache b.layer_id token_position
    (Tensor.cat ![k_new_token, v_new_token])
  -- the row just stored is among those that are read
  let kv ← load_rows kv_cache b.layer_id (token_position + 1)
  let k := kv.chunk 2 0
  let v := kv.chunk 2 1
  let attention_out ← decode_attention F q k v
  let transformer_out := b.finish F x_input attention_out
  return (transformer_out, kv_cache)

end Transformer

/-! ## Section 5: The model -/

/-- `t + r` for the rows `r` of a table slice, with torch's broadcasting. One row
    plus an empty slice would be no row at all; that is a mismatch here. -/
def add_rows (t : Tensor α [T, n]) (r : Tensor α [S, n]) : Except Error (Tensor α [T, n]) :=
  if h : S = T then
    .ok <| Tensor.ofFn₂ fun i j => t.get₂ i j + r.get₂ (Fin.cast h.symm i) j
  else if h : S = 1 then
    .ok <| Tensor.ofFn₂ fun i j => t.get₂ i j + r.get₂ ⟨0, by omega⟩ j
  else
    .error .size_mismatch

namespace GPT2

def transformer_blocks (model : GPT2 α cfg) (layer_id : Fin cfg.n_layer) :
    Transformer α cfg :=
  { model.h layer_id with layer_id }

/-- `self.state["transformer.wte.weight"][tokens]`. -/
def token_embeddings (model : GPT2 α cfg) (tokens : List (Token cfg)) :
    Tensor α [tokens.length, cfg.n_embd] :=
  Tensor.ofFn₂ fun i j => model.wte.get₂ (tokens.get i) j

/-- The final layer norm and the product with `lm_head.weight.T`. -/
def logits (F : Scalars α) (model : GPT2 α cfg) (hs : Tensor α [T, cfg.n_embd]) :
    Tensor α [T, cfg.vocab_size] :=
  (layer_norm F hs model.ln_f).matmul model.lm_head.transpose

def prefill (F : Scalars α) (model : GPT2 α cfg) (input_tokens : List (Token cfg))
    (kv_cache : Option (Cache α cfg rows)) :
    Except Error (Tensor α [input_tokens.length, cfg.vocab_size] ×
      Option (Cache α cfg rows)) := do
  let token_embeddings := model.token_embeddings input_tokens
  let positional_embeddings := model.wpe.takeRows input_tokens.length
  let hs ← add_rows token_embeddings positional_embeddings
  let (hs, kv_cache) ← (List.finRange cfg.n_layer).foldlM
    (fun (hs, kv_cache) layer_id => (model.transformer_blocks layer_id).prefill F hs kv_cache)
    (hs, kv_cache)
  return (model.logits F hs, kv_cache)

def decode (F : Scalars α) (model : GPT2 α cfg) (next_token : Token cfg) (position : Nat)
    (kv_cache : Cache α cfg rows) :
    Except Error (Tensor α [1, cfg.vocab_size] × Cache α cfg rows) := do
  let token_embedding : Tensor α [1, cfg.n_embd] := model.token_embeddings [next_token]
  if h : position < cfg.n_positions then
    let positional_embedding := model.wpe.row ⟨position, h⟩
    let hs := token_embedding.addRow positional_embedding
    let (hs, kv_cache) ← (List.finRange cfg.n_layer).foldlM
      (fun (hs, kv_cache) layer_id =>
        (model.transformer_blocks layer_id).decode F hs kv_cache position)
      (hs, kv_cache)
    return (model.logits F hs, kv_cache)
  else
    -- a single position is an index, which is not clipped like a slice
    throw .index_error

end GPT2

/-! ## Section 6: A small instance -/

/-- One layer with one head, two tokens and four positions. -/
def tiny_config : Config where
  n_positions := 4
  n_layer := 1
  n_head := 1
  n_embd := 1
  n_inner := 1
  vocab_size := 2
  n_head_dvd := Nat.dvd_refl 1

def tiny_scalars : Scalars Rat where
  exp x := 1 + x ^ 2
  sqrt x := x
  gelu x := max x 0

/-- All weights are one, except that the two token embeddings differ. -/
def tiny_model : GPT2 Rat tiny_config :=
  let ones {shape : List Nat} : Tensor Rat shape := Tensor.ofFn fun _ => 1
  { wte := Tensor.ofFn₂ fun i _ => i.val
    wpe := ones
    h := fun _ =>
      { ln1 := ⟨ones, ones⟩
        attn_head := ⟨ones, ones⟩
        proj := ⟨ones, ones⟩
        ln2 := ⟨ones, ones⟩
        mlp := ⟨ones, ones⟩
        mlp_proj := ⟨ones, ones⟩ }
    ln_f := ⟨ones, ones⟩
    lm_head := ones }

end KVCache
