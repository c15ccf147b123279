import BuildMyOwnX.KVCache.Generate

/-! # Whole Runs of the Generation Loop

    Two results about runs of any length, both from the loop invariant:

    - the cached and the uncached run draw the same tokens, because each of
      their iterations appends `next_token` of the tokens so far
      (`generation_agrees`);
    - in the cached run every index is in range and every cache cell that is
      read has been written in that run (`cached_iterations_safe`).
-/

namespace KVCache

variable {α : Type} [Field α] {cfg : Config} {σ : Type} {rows : Nat}

/-! ## Section 1: Cached and uncached runs -/

/-- Two runs that have drawn the same tokens from the same random states, one
    with the cache and one without. -/
structure SameDraws (rt : Runtime α cfg σ) (model : GPT2 α cfg) (input_length : Nat)
    (s t : LoopState α cfg σ rows) : Prop where
  tokens : s.all_tokens = t.all_tokens
  rng : s.rng = t.rng
  cached : LoopInv rt model true input_length s
  uncached : LoopInv rt model false input_length t

/-- Two iterations draw the same token and break together. -/
theorem body_same_draws (rt : Runtime α cfg σ) (model : GPT2 α cfg) {input_length : Nat}
    {s t : LoopState α cfg σ rows} (hpos : 0 < input_length)
    (hst : SameDraws rt model input_length s t)
    (hlt : s.all_tokens.length < rows) (hrows : rows ≤ cfg.n_positions) :
    ∃ r r', generate_body rt model true input_length s = .ok r ∧
      generate_body rt model false input_length t = .ok r' ∧
      Loop.StepRel (SameDraws rt model input_length)
        (SameDraws rt model input_length) r r' := by
  obtain ⟨s', hs, hstokens, hsrng, -, hsinv⟩ :=
    body_spec rt model true hpos hst.cached hlt hrows
  obtain ⟨t', ht, httokens, htrng, -, htinv⟩ :=
    body_spec rt model false hpos hst.uncached (hst.tokens ▸ hlt) hrows
  -- both draw from the same logits in the same random state
  rw [← hst.tokens, ← hst.rng] at ht httokens htrng
  have hst' : SameDraws rt model input_length s' t' :=
    ⟨hstokens.trans httokens.symm, hsrng.trans htrng.symm, hsinv, htinv⟩
  refine ⟨_, _, hs, ht, ?_⟩
  split <;> exact hst'

/-- The two loops run in lockstep. -/
theorem generate_tokens_same_draws (rt : Runtime α cfg σ) (model : GPT2 α cfg)
    (input_tokens : List (Token cfg)) (max_new_tokens : Nat) (rng : σ)
    (hpos : 0 < input_tokens.length) :
    ∃ s t, generate_tokens rt model true input_tokens max_new_tokens rng = .ok s ∧
      generate_tokens rt model false input_tokens max_new_tokens rng = .ok t ∧
      SameDraws rt model input_tokens.length s t := by
  unfold generate_tokens
  refine Loop.run_lockstep (SameDraws rt model input_tokens.length)
    (SameDraws rt model input_tokens.length) ?_ ?_ ?_ ?_
  · intro s t hst
    show decide _ = decide _
    rw [hst.tokens]
  · intro s t hst hc
    have hlt : s.all_tokens.length < _ := of_decide_eq_true hc
    exact body_same_draws rt model hpos hst hlt (Nat.min_le_left _ _)
  · intro s t hst _
    exact hst
  · exact ⟨rfl, rfl, loop_start_inv rt model true input_tokens rng,
      loop_start_inv rt model false input_tokens rng⟩

/-- The two modes return the same tokens and texts and leave the sampler in the
    same state; only the timings may differ. -/
def GenerationAgrees (rt : Runtime α cfg σ) (model : GPT2 α cfg) (prompt : String)
    (max_new_tokens : Nat) (rng : σ) : Prop :=
  let input_tokens := rt.tokenizer.encode prompt
  ∃ cached uncached result result' rng',
    generate_tokens rt model true input_tokens max_new_tokens rng = .ok cached ∧
    generate_tokens rt model false input_tokens max_new_tokens rng = .ok uncached ∧
    cached.all_tokens = uncached.all_tokens ∧
    generate_with_metadata rt model true prompt max_new_tokens rng = .ok (result, rng') ∧
    generate_with_metadata rt model false prompt max_new_tokens rng = .ok (result', rng') ∧
    result.full_text = result'.full_text ∧
    result.output_text = result'.output_text ∧
    result.prompt_tokens = result'.prompt_tokens ∧
    result.output_tokens = result'.output_tokens

/-- **Cached and uncached generation agree**, whatever the model, the sampler,
    the bounds and the fresh memory. -/
theorem generation_agrees (rt : Runtime α cfg σ) (model : GPT2 α cfg) (prompt : String)
    (hprompt : rt.tokenizer.encode prompt ≠ []) (max_new_tokens : Nat) (rng : σ) :
    GenerationAgrees rt model prompt max_new_tokens rng := by
  obtain ⟨s, t, hs, ht, hst⟩ := generate_tokens_same_draws rt model
    (rt.tokenizer.encode prompt) max_new_tokens rng (List.length_pos_of_ne_nil hprompt)
  have hs' := generate_with_metadata_ok hs
  have ht' := generate_with_metadata_ok ht
  rw [← hst.rng] at ht'
  refine ⟨s, t, _, _, s.rng, hs, ht, hst.tokens, hs', ht', ?_, ?_, rfl, ?_⟩ <;>
    simp only [generation_result, hst.tokens]

/-- A tokenizer that sees one token, a sampler that counts its draws and prefers
    the second token from the third draw on. -/
def tiny_runtime : Runtime Rat tiny_config Nat where
  scalars := tiny_scalars
  tokenizer :=
    { encode := fun _ => [(0 : Fin 2)]
      decode := fun tokens => String.ofList (tokens.map fun t => if t.val = 0 then 'a' else 'b')
      eos_token_id := some 1 }
  sample _ draws := (if draws < 2 then (0 : Fin 2) else (1 : Fin 2), draws + 1)
  empty _ := Tensor.ofFn fun _ => none

theorem generation_agrees_tiny : GenerationAgrees tiny_runtime tiny_model "a" 3 0 :=
  generation_agrees tiny_runtime tiny_model "a" (by simp [tiny_runtime]) 3 0

/-! ## Section 2: Index safety and definite initialisation -/

/-- The run on fresh memory, no cell of which counts as written. -/
def Runtime.fresh (rt : Runtime α cfg σ) : Runtime α cfg σ :=
  { rt with empty := fun _ => Tensor.ofFn fun _ => none }

/-- The hidden state and the cache with which `GPT2.decode` enters block `layer_id`. -/
def GPT2.decode_until (F : Scalars α) (model : GPT2 α cfg) (next_token : Token cfg)
    (position : Nat) (kv_cache : Cache α cfg rows) (layer_id : Fin cfg.n_layer) :
    Except Error (Tensor α [1, cfg.n_embd] × Cache α cfg rows) :=
  let token_embedding : Tensor α [1, cfg.n_embd] := model.token_embeddings [next_token]
  if h : position < cfg.n_positions then
    let hs := token_embedding.addRow (model.wpe.row ⟨position, h⟩)
    ((List.finRange cfg.n_layer).take layer_id).foldlM
      (fun (hs, kv_cache) layer_id =>
        (model.transformer_blocks layer_id).decode F hs kv_cache position)
      (hs, kv_cache)
  else
    throw .index_error

/-- The cache from which block `layer_id` reads rows `0..position`: the one it
    entered with and the row it has just stored. -/
def Transformer.decode_source (F : Scalars α) (b : Transformer α cfg)
    (x_input : Tensor α [1, cfg.n_embd]) (kv_cache : Cache α cfg rows) (token_position : Nat) :
    Cache α cfg rows :=
  let qkv := b.qkv F x_input
  store_row kv_cache b.layer_id token_position (Tensor.cat ![qkv.chunk 3 1, qkv.chunk 3 2])

/-- The accesses of one iteration with the cache. -/
structure SafeIteration (rt : Runtime α cfg σ) (model : GPT2 α cfg) (input_length : Nat)
    (s : LoopState α cfg σ rows) : Prop where
  /-- Nothing is raised: no shape mismatch, no index out of range, no read of a
      cell that has not been written. -/
  succeeds : ∃ r, generate_body rt model true input_length s = .ok r
  /-- A prefill gets one positional embedding for each token, and writes rows
      that the cache has. -/
  prefill : s.all_tokens.length = input_length →
    min s.all_tokens.length cfg.n_positions = s.all_tokens.length ∧
    s.all_tokens.length ≤ rows
  /-- A decode has a position in both tables, and every layer reads rows whose
      cells have all been written. -/
  decode : s.all_tokens.length ≠ input_length →
    s.all_tokens.length - 1 < cfg.n_positions ∧
    s.all_tokens.length - 1 < rows ∧
    ∃ (h : s.all_tokens ≠ []) (kv_cache : Cache α cfg rows), s.kv_cache = some kv_cache ∧
      ∀ layer_id, ∃ hs c,
        model.decode_until rt.scalars (s.all_tokens.getLast h) (s.all_tokens.length - 1)
          kv_cache layer_id = .ok (hs, c) ∧
        ∀ r col, r.val ≤ s.all_tokens.length - 1 →
          ((((model.transformer_blocks layer_id).decode_source rt.scalars hs c
            (s.all_tokens.length - 1)).get₃ r layer_id col).isSome)

/-- With the rows before `p` filled, every block of a decode at `p` reads cells
    that have been written. -/
theorem decode_source_spec (F : Scalars α) (model : GPT2 α cfg) (tokens : List (Token cfg))
    {p : Nat} (hlen : p < tokens.length) (hN : p < cfg.n_positions) (hp : p < rows)
    {kv_cache : Cache α cfg rows} (hfilled : Filled kv_cache p (model.cache_row F tokens))
    (layer_id : Fin cfg.n_layer) :
    ∃ hs c, model.decode_until F (tokens.get ⟨p, hlen⟩) p kv_cache layer_id = .ok (hs, c) ∧
      ∀ r col, r.val ≤ p →
        ((((model.transformer_blocks layer_id).decode_source F hs c p).get₃ r
          layer_id col).isSome) := by
  obtain ⟨⟨hs, c⟩, hrun, -, hc⟩ := model.decode_blocks_spec F tokens hp hfilled
    (model.decode_input_spec F tokens hlen hN) layer_id (Nat.le_of_lt layer_id.isLt)
  refine ⟨hs, c, ?_, ?_⟩
  · rw [GPT2.decode_until]
    simp only [dif_pos hN]
    exact hrun
  · intro r col hr
    unfold Transformer.decode_source store_row
    rw [Tensor.get₃_ofFn₃]
    -- row `p` has just been stored, the rows before it were filled
    by_cases hrp : r.val = p
    · rw [if_pos ⟨rfl, hrp⟩]
      rfl
    · rw [if_neg (fun h => hrp h.2), hc.frame r layer_id col (fun h => hrp h.2),
        hfilled r layer_id col (by omega)]
      rfl

/-- The invariant makes an iteration safe. -/
theorem safe_iteration (rt : Runtime α cfg σ) (model : GPT2 α cfg) {input_length : Nat}
    {s : LoopState α cfg σ rows} (hpos : 0 < input_length)
    (hinv : LoopInv rt model true input_length s)
    (hlt : s.all_tokens.length < rows) (hrows : rows ≤ cfg.n_positions) :
    SafeIteration rt model input_length s := by
  have hprompt := hinv.prompt_le
  constructor
  · obtain ⟨s', hs', -⟩ := body_spec rt model true hpos hinv hlt hrows
    exact ⟨_, hs'⟩
  · intro _
    exact ⟨Nat.min_eq_left (by omega), Nat.le_of_lt hlt⟩
  · intro hlater
    have hne : s.all_tokens ≠ [] := List.ne_nil_of_length_pos (by omega)
    have hp : s.all_tokens.length - 1 < s.all_tokens.length := by omega
    obtain ⟨c, hc, hfilled⟩ := hinv.cached rfl
    refine ⟨by omega, by omega, hne, c, hc, fun layer_id => ?_⟩
    rw [getLast_eq_get hne hp]
    exact decode_source_spec rt.scalars model s.all_tokens hp (by omega) (by omega)
      (hfilled (by omega)) layer_id

/-- The invariant holds whenever the loop condition is tested. -/
theorem visited_inv (rt : Runtime α cfg σ) (model : GPT2 α cfg) (use_kv_cache : Bool)
    (input_tokens : List (Token cfg)) (max_new_tokens : Nat) (rng : σ)
    (hpos : 0 < input_tokens.length)
    {s : LoopState α cfg σ (max_total_tokens cfg input_tokens.length max_new_tokens)}
    (hs : (generate_loop rt model use_kv_cache input_tokens.length _).Visits
      (loop_start rt use_kv_cache _ input_tokens rng) s) :
    LoopInv rt model use_kv_cache input_tokens.length s := by
  refine hs.rule _ (loop_start_inv rt model use_kv_cache input_tokens rng) ?_
  intro t t' hinv hc hbody
  have hlt : t.all_tokens.length < _ := of_decide_eq_true hc
  obtain ⟨t'', hok, -, -, -, hinv'⟩ :=
    body_spec rt model use_kv_cache hpos hinv hlt (Nat.min_le_left _ _)
  have hend := Except.ok.inj (hok.symm.trans hbody)
  split at hend
  · cases hend
  · cases hend
    exact hinv'

/-- **Index safety and definite initialisation**: the cached run on fresh memory
    returns, and every one of its iterations is safe. -/
theorem cached_iterations_safe (rt : Runtime α cfg σ) (model : GPT2 α cfg)
    (input_tokens : List (Token cfg)) (hprompt : input_tokens ≠ []) (max_new_tokens : Nat)
    (rng : σ) :
    (∃ s, generate_tokens rt.fresh model true input_tokens max_new_tokens rng = .ok s) ∧
    ∀ s, (generate_loop rt.fresh model true input_tokens.length _).Visits
        (loop_start rt.fresh true (max_total_tokens cfg input_tokens.length max_new_tokens)
          input_tokens rng) s →
      s.all_tokens.length < max_total_tokens cfg input_tokens.length max_new_tokens →
      SafeIteration rt.fresh model input_tokens.length s := by
  have hpos : 0 < input_tokens.length := List.length_pos_of_ne_nil hprompt
  constructor
  · obtain ⟨s, -, hs, -⟩ :=
      generate_tokens_same_draws rt.fresh model input_tokens max_new_tokens rng hpos
    exact ⟨s, hs⟩
  · intro s hvisits hlt
    have hinv := visited_inv rt.fresh model true input_tokens max_new_tokens rng hpos hvisits
    exact safe_iteration rt.fresh model hpos hinv hlt (Nat.min_le_left _ _)

/-- The prefill of a prompt of two tokens, with room for two more, and the decode
    of the third token. -/
theorem cached_iterations_safe_tiny :
    let start : LoopState Rat tiny_config Nat (max_total_tokens tiny_config 2 2) :=
      loop_start tiny_runtime.fresh true _ [(0 : Fin 2), (1 : Fin 2)] 0
    SafeIteration tiny_runtime.fresh tiny_model 2 start ∧
    ∃ s, generate_body tiny_runtime.fresh tiny_model true 2 start = .ok (.yield s) ∧
      s.all_tokens = [(0 : Fin 2), (1 : Fin 2), (0 : Fin 2)] ∧
      SafeIteration tiny_runtime.fresh tiny_model 2 s := by
  intro start
  have hsafe := (cached_iterations_safe tiny_runtime tiny_model [(0 : Fin 2), (1 : Fin 2)]
    (by decide) 2 0).2
  have hinv : LoopInv tiny_runtime.fresh tiny_model true 2 start :=
    loop_start_inv tiny_runtime.fresh tiny_model true [(0 : Fin 2), (1 : Fin 2)] 0
  -- the first draw is token 0, which is not the end of sequence
  obtain ⟨s, hbody, htokens, -⟩ := body_spec tiny_runtime.fresh tiny_model true Nat.two_pos
    hinv (by decide) (by decide)
  have hs : s.all_tokens = [(0 : Fin 2), (1 : Fin 2), (0 : Fin 2)] := htokens
  refine ⟨hsafe start .start (by decide), s, hbody, hs, ?_⟩
  refine hsafe s (.next .start (by decide) hbody) ?_
  rw [hs]
  decide

end KVCache
