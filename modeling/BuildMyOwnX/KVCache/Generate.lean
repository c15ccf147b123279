import BuildMyOwnX.KVCache.CachedRun

/-! # The Generation Loop

    `GPT2.generate_with_metadata`, with the `while` loop as a `Loop` over the
    local variables. What torch and the tokenizer contribute is a parameter
    (`Runtime`): the real functions, the tokenizer, the sampler of
    `poll_token_from_logits` as a state machine over the random state, and the
    contents that `torch.empty` happens to find in memory. Wall-clock times are
    left out; the call counts of `GenerationTimings` are kept.

    The loop invariant (`LoopInv`) ties the cache to the tokens: after the
    first iteration all rows but the last are filled with the contents for the
    tokens so far. Under it one iteration, cached or not, appends the token
    sampled from the causal logits of the last position (`body_spec`).
-/

namespace KVCache

variable {α : Type} [Field α] {cfg : Config} {σ : Type}

/-! ## Section 1: Model -/

structure Tokenizer (cfg : Config) where
  encode : String → List (Token cfg)
  decode : List (Token cfg) → String
  eos_token_id : Option Nat

/-- What the loop takes from outside the model. -/
structure Runtime (α : Type) (cfg : Config) (σ : Type) where
  scalars : Scalars α
  tokenizer : Tokenizer cfg
  /-- Softmax and `multinomial` of one row of logits. -/
  sample : Row α cfg.vocab_size → σ → Token cfg × σ
  /-- The contents of fresh memory. -/
  empty : (rows : Nat) → Cache α cfg rows

structure GenerationTimings where
  prefill_calls : Nat := 0
  decode_calls : Nat := 0
  deriving DecidableEq, Repr

structure GenerationResult where
  full_text : String
  output_text : String
  prompt_tokens : Nat
  output_tokens : Nat
  timings : GenerationTimings

/-- The local variables of the loop and the random state. -/
structure LoopState (α : Type) (cfg : Config) (σ : Type) (rows : Nat) where
  all_tokens : List (Token cfg)
  kv_cache : Option (Cache α cfg rows)
  timings : GenerationTimings
  rng : σ

variable {rows : Nat}

/-- `poll_token_from_logits`: a token drawn from the last row. -/
def poll_token_from_logits (rt : Runtime α cfg σ) {T : Nat}
    (logits : Tensor α [T, cfg.vocab_size]) (rng : σ) : Except Error (Token cfg × σ) :=
  if h : 0 < T then
    .ok (rt.sample (logits.rows ⟨T - 1, by omega⟩) rng)
  else
    .error .index_error

/-- The forward pass of one iteration: the logits, the cache and the timings
    after it. -/
def forward (rt : Runtime α cfg σ) (model : GPT2 α cfg) (use_kv_cache : Bool)
    (input_length : Nat) (s : LoopState α cfg σ rows) :
    Except Error ((T : Nat) × Tensor α [T, cfg.vocab_size] × Option (Cache α cfg rows) ×
      GenerationTimings) :=
  if use_kv_cache then
    match s.kv_cache with
    | none => .error .assertion_error
    | some kv_cache =>
      if s.all_tokens.length = input_length then do
        let (logits, kv_cache) ← model.prefill rt.scalars s.all_tokens (some kv_cache)
        return ⟨_, logits, kv_cache,
          { s.timings with prefill_calls := s.timings.prefill_calls + 1 }⟩
      else if h : s.all_tokens = [] then
        -- `all_tokens[-1:]` has no token to decode
        .error .index_error
      else do
        let (logits, kv_cache) ← model.decode rt.scalars (s.all_tokens.getLast h)
          (s.all_tokens.length - 1) kv_cache
        return ⟨_, logits, some kv_cache,
          { s.timings with decode_calls := s.timings.decode_calls + 1 }⟩
  else do
    let (logits, _) ← model.prefill rt.scalars s.all_tokens (none : Option (Cache α cfg rows))
    return ⟨_, logits, s.kv_cache,
      { s.timings with prefill_calls := s.timings.prefill_calls + 1 }⟩

/-- One iteration; `.done` is the `break` after an end-of-sequence token. -/
def generate_body (rt : Runtime α cfg σ) (model : GPT2 α cfg) (use_kv_cache : Bool)
    (input_length : Nat) (s : LoopState α cfg σ rows) :
    Except Error (ForInStep (LoopState α cfg σ rows)) := do
  let ⟨_, logits, kv_cache, timings⟩ ← forward rt model use_kv_cache input_length s
  let (next_token, rng) ← poll_token_from_logits rt logits s.rng
  let s := { all_tokens := s.all_tokens ++ [next_token], kv_cache, timings, rng }
  if rt.tokenizer.eos_token_id = some next_token.val then
    return .done s
  else
    return .yield s

/-- An iteration appends one token. -/
theorem generate_body_length {rt : Runtime α cfg σ} {model : GPT2 α cfg} {use_kv_cache : Bool}
    {input_length : Nat} {s s' : LoopState α cfg σ rows}
    (h : generate_body rt model use_kv_cache input_length s = .ok (.yield s')) :
    s'.all_tokens.length = s.all_tokens.length + 1 := by
  simp only [generate_body] at h
  cases hf : forward rt model use_kv_cache input_length s with
  | error e => rw [hf] at h; cases h
  | ok f =>
    rw [hf, Except.ok_bind] at h
    cases hp : poll_token_from_logits rt f.2.1 s.rng with
    | error e => rw [hp] at h; cases h
    | ok p =>
      rw [hp, Except.ok_bind] at h
      split at h
      · cases h
      · cases h
        simp

/-- `while all_tokens.shape[0] < max_total_tokens`. -/
def generate_loop (rt : Runtime α cfg σ) (model : GPT2 α cfg) (use_kv_cache : Bool)
    (input_length max_total_tokens : Nat) :
    Loop Error (LoopState α cfg σ max_total_tokens) where
  cond s := s.all_tokens.length < max_total_tokens
  body := generate_body rt model use_kv_cache input_length
  measure s := max_total_tokens - s.all_tokens.length
  decreases := by
    intro s s' hc hb
    have hlen := generate_body_length hb
    have hlt : s.all_tokens.length < max_total_tokens := by simpa using hc
    omega

def max_total_tokens (cfg : Config) (input_length max_new_tokens : Nat) : Nat :=
  min cfg.n_positions (input_length + max_new_tokens)

/-- The local variables before the loop. -/
def loop_start (rt : Runtime α cfg σ) (use_kv_cache : Bool) (rows : Nat)
    (input_tokens : List (Token cfg)) (rng : σ) : LoopState α cfg σ rows where
  all_tokens := input_tokens
  kv_cache := if use_kv_cache then some (rt.empty rows) else none
  timings := {}
  rng := rng

/-- The local variables after the loop. -/
def generate_tokens (rt : Runtime α cfg σ) (model : GPT2 α cfg) (use_kv_cache : Bool)
    (input_tokens : List (Token cfg)) (max_new_tokens : Nat) (rng : σ) :
    Except Error
      (LoopState α cfg σ (max_total_tokens cfg input_tokens.length max_new_tokens)) :=
  (generate_loop rt model use_kv_cache input_tokens.length _).run
    (loop_start rt use_kv_cache _ input_tokens rng)

/-- The `GenerationResult` made from the local variables after the loop. -/
def generation_result (rt : Runtime α cfg σ) (input_tokens : List (Token cfg))
    (s : LoopState α cfg σ rows) : GenerationResult :=
  let output_tokens := s.all_tokens.drop input_tokens.length
  { full_text := rt.tokenizer.decode s.all_tokens
    output_text := rt.tokenizer.decode output_tokens
    prompt_tokens := input_tokens.length
    output_tokens := output_tokens.length
    timings := s.timings }

/-- `generate_with_metadata`, returning the random state as well. -/
def generate_with_metadata (rt : Runtime α cfg σ) (model : GPT2 α cfg) (use_kv_cache : Bool)
    (prompt : String) (max_new_tokens : Nat) (rng : σ) :
    Except Error (GenerationResult × σ) := do
  let input_tokens := rt.tokenizer.encode prompt
  let s ← generate_tokens rt model use_kv_cache input_tokens max_new_tokens rng
  return (generation_result rt input_tokens s, s.rng)

/-- A loop that returns gives a result. -/
theorem generate_with_metadata_ok {rt : Runtime α cfg σ} {model : GPT2 α cfg}
    {use_kv_cache : Bool} {prompt : String} {max_new_tokens : Nat} {rng : σ}
    {s : LoopState α cfg σ _}
    (h : generate_tokens rt model use_kv_cache (rt.tokenizer.encode prompt) max_new_tokens rng =
      .ok s) :
    generate_with_metadata rt model use_kv_cache prompt max_new_tokens rng =
      .ok (generation_result rt (rt.tokenizer.encode prompt) s, s.rng) := by
  simp only [generate_with_metadata, h, Except.ok_bind]
  rfl

/-! ## Section 2: One iteration -/

/-- The token drawn after `tokens`, and the random state after the draw. -/
def next_token (rt : Runtime α cfg σ) (model : GPT2 α cfg) (tokens : List (Token cfg))
    (rng : σ) : Token cfg × σ :=
  rt.sample (model.logits_row rt.scalars tokens (tokens.length - 1)) rng

/-- The call counts after an iteration. -/
def count_call (use_kv_cache : Bool) (input_length length : Nat) (timings : GenerationTimings) :
    GenerationTimings :=
  if use_kv_cache ∧ length ≠ input_length then
    { timings with decode_calls := timings.decode_calls + 1 }
  else
    { timings with prefill_calls := timings.prefill_calls + 1 }

/-- The loop invariant: with the cache enabled there is one, and from the second
    iteration on it holds the rows of all tokens but the last. -/
structure LoopInv (rt : Runtime α cfg σ) (model : GPT2 α cfg) (use_kv_cache : Bool)
    (input_length : Nat) (s : LoopState α cfg σ rows) : Prop where
  prompt_le : input_length ≤ s.all_tokens.length
  cached : use_kv_cache → ∃ c, s.kv_cache = some c ∧
    (input_length < s.all_tokens.length →
      Filled c (s.all_tokens.length - 1) (model.cache_row rt.scalars s.all_tokens))

theorem loop_start_inv (rt : Runtime α cfg σ) (model : GPT2 α cfg) (use_kv_cache : Bool)
    (input_tokens : List (Token cfg)) (rng : σ) :
    LoopInv rt model use_kv_cache input_tokens.length
      (loop_start rt use_kv_cache rows input_tokens rng) := by
  constructor
  · exact Nat.le_refl _
  · intro huse
    exact ⟨rt.empty rows, by simp [loop_start, huse],
      fun h => absurd h (Nat.lt_irrefl _)⟩

/-- The last token is the one at position `len - 1`. -/
theorem getLast_eq_get {tokens : List (Token cfg)} (h : tokens ≠ [])
    (hp : tokens.length - 1 < tokens.length) : tokens.getLast h = tokens.get ⟨_, hp⟩ := by
  rw [List.getLast_eq_getElem, List.get_eq_getElem]

/-- Both modes compute the causal logits of the last position, and a cache
    then holds the rows of all tokens. -/
theorem forward_spec (rt : Runtime α cfg σ) (model : GPT2 α cfg) (use_kv_cache : Bool)
    {input_length : Nat} {s : LoopState α cfg σ rows} (hpos : 0 < input_length)
    (hinv : LoopInv rt model use_kv_cache input_length s)
    (hlt : s.all_tokens.length < rows) (hrows : rows ≤ cfg.n_positions) :
    ∃ (T : Nat) (hT : 0 < T) (logits : Tensor α [T, cfg.vocab_size])
      (c : Option (Cache α cfg rows)),
      forward rt model use_kv_cache input_length s = .ok ⟨T, logits, c,
        count_call use_kv_cache input_length s.all_tokens.length s.timings⟩ ∧
      logits.rows ⟨T - 1, by omega⟩ =
        model.logits_row rt.scalars s.all_tokens (s.all_tokens.length - 1) ∧
      (use_kv_cache → ∃ c', c = some c' ∧
        Filled c' s.all_tokens.length (model.cache_row rt.scalars s.all_tokens)) := by
  have hprompt := hinv.prompt_le
  have htokens : 0 < s.all_tokens.length := by omega
  cases use_kv_cache with
  | false =>
    -- every iteration without the cache is a prefill of all tokens
    obtain ⟨y, hrun, hy⟩ := model.prefill_none_spec rt.scalars rows htokens (by omega)
    refine ⟨_, by omega, y, s.kv_cache, ?_, hy _, fun h => absurd h (by simp)⟩
    simp [forward, hrun, count_call]
  | true =>
    obtain ⟨c, hc, hfilled⟩ := hinv.cached rfl
    -- the first iteration prefills the cache, the later ones decode the last token
    by_cases hfirst : s.all_tokens.length = input_length
    · obtain ⟨y, c', hrun, hy, hc'⟩ := model.prefill_some_spec rt.scalars htokens
        (by omega) (Nat.le_of_lt hlt) c
      refine ⟨_, by omega, y, some c', ?_, hy _, fun _ => ⟨c', rfl, hc'.filled⟩⟩
      simp only [forward, hc, if_pos hfirst, hrun, count_call]
      simp [hfirst]
    · have hne : s.all_tokens ≠ [] := List.ne_nil_of_length_pos htokens
      have hp : s.all_tokens.length - 1 < s.all_tokens.length := by omega
      obtain ⟨y, c', hrun, hy, hc'⟩ := model.decode_spec rt.scalars s.all_tokens hp
        (by omega) (by omega) (hfilled (by omega))
      rw [← getLast_eq_get hne hp] at hrun
      refine ⟨1, Nat.one_pos, y, some c', ?_, hy, fun _ => ⟨c', rfl, ?_⟩⟩
      · simp only [forward, hc, if_neg hfirst, dif_neg hne, hrun, count_call]
        simp [hfirst]
      · -- the rows before the last were there, the last is the one just written
        intro r l col hr
        by_cases hlastrow : r.val = s.all_tokens.length - 1
        · exact hc'.written r l col hlastrow
        · rw [hc'.frame r l col hlastrow]
          exact hfilled (by omega) r l col (by omega)

/-- One iteration under the invariant: it succeeds, appends the next token,
    breaks exactly on end of sequence, and keeps the invariant. -/
theorem body_spec (rt : Runtime α cfg σ) (model : GPT2 α cfg) (use_kv_cache : Bool)
    {input_length : Nat} {s : LoopState α cfg σ rows} (hpos : 0 < input_length)
    (hinv : LoopInv rt model use_kv_cache input_length s)
    (hlt : s.all_tokens.length < rows) (hrows : rows ≤ cfg.n_positions) :
    ∃ s', generate_body rt model use_kv_cache input_length s =
        .ok (if rt.tokenizer.eos_token_id = some (next_token rt model s.all_tokens s.rng).1.val
          then .done s' else .yield s') ∧
      s'.all_tokens = s.all_tokens ++ [(next_token rt model s.all_tokens s.rng).1] ∧
      s'.rng = (next_token rt model s.all_tokens s.rng).2 ∧
      s'.timings = count_call use_kv_cache input_length s.all_tokens.length s.timings ∧
      LoopInv rt model use_kv_cache input_length s' := by
  obtain ⟨T, hT, logits, c, hforward, hlogits, hcache⟩ :=
    forward_spec rt model use_kv_cache hpos hinv hlt hrows
  have hpoll : poll_token_from_logits rt logits s.rng =
      .ok (next_token rt model s.all_tokens s.rng) := by
    rw [poll_token_from_logits, dif_pos hT, hlogits]
    rfl
  refine ⟨{
    all_tokens := s.all_tokens ++ [(next_token rt model s.all_tokens s.rng).1]
    kv_cache := c
    timings := count_call use_kv_cache input_length s.all_tokens.length s.timings
    rng := (next_token rt model s.all_tokens s.rng).2 }, ?_, rfl, rfl, rfl, ?_⟩
  · simp only [generate_body, hforward, Except.ok_bind, hpoll]
    split <;> rfl
  · constructor
    · have hprompt := hinv.prompt_le
      simp only [List.length_append, List.length_singleton]
      omega
    · intro huse
      obtain ⟨c', hc', hfilled⟩ := hcache huse
      refine ⟨c', hc', ?_⟩
      intro _ r l col hr
      have hr' : r.val < s.all_tokens.length := by simpa using hr
      rw [hfilled r l col hr', GPT2.cache_row_append _ _ _ _ _ hr']

end KVCache
