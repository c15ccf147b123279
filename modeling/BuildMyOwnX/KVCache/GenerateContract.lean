import BuildMyOwnX.KVCache.GenerateRuns

/-! # The Contract of the Generation Loop

    What a caller of `generate_with_metadata` may rely on: the tokens it returns
    start with the prompt, how many are new, where an end-of-sequence token may
    stand, and how the forward passes are split into prefills and decodes.

    The invariant (`ProgressInv`) describes a run by the tokens it has added: no
    end of sequence among them, and the call counts are a function of their
    number (`calls`). A `break` adds one last token to such a state.
-/

namespace KVCache

variable {α : Type} [Field α] {cfg : Config} {σ : Type} {rows : Nat}

/-! ## Section 1: The contract -/

def Tokenizer.is_eos (tokenizer : Tokenizer cfg) (token : Token cfg) : Prop :=
  tokenizer.eos_token_id = some token.val

/-- The forward passes that make `n` tokens. -/
def calls (use_kv_cache : Bool) (n : Nat) : GenerationTimings where
  prefill_calls := if use_kv_cache then min n 1 else n
  decode_calls := if use_kv_cache then n - 1 else 0

/-- The final tokens, `output` of them new, and the result made from them. -/
structure GenerationContract (rt : Runtime α cfg σ) (use_kv_cache : Bool)
    (input_tokens : List (Token cfg)) (max_new_tokens : Nat)
    (all_tokens output : List (Token cfg)) (result : GenerationResult) : Prop where
  prompt_unchanged : all_tokens = input_tokens ++ output
  prompt_tokens : result.prompt_tokens = input_tokens.length
  output_tokens : result.output_tokens = output.length
  full_text : result.full_text = rt.tokenizer.decode all_tokens
  output_text : result.output_text = rt.tokenizer.decode output
  bounded : output.length ≤ min max_new_tokens (cfg.n_positions - input_tokens.length)
  /-- Fewer tokens than allowed only after an end of sequence. -/
  full : output.length = min max_new_tokens (cfg.n_positions - input_tokens.length) ∨
    ∃ token, output.getLast? = some token ∧ rt.tokenizer.is_eos token
  /-- An end of sequence is the last token, so there is at most one. -/
  eos_last : ∀ i (h : i < output.length), rt.tokenizer.is_eos output[i] → i + 1 = output.length
  calls_eq : result.timings.prefill_calls + result.timings.decode_calls = result.output_tokens
  cached_calls : use_kv_cache = true →
    result.timings.prefill_calls = (if 1 ≤ result.output_tokens then 1 else 0) ∧
    result.timings.decode_calls = result.output_tokens - 1
  uncached_calls : use_kv_cache = false → result.timings.decode_calls = 0
  no_room : cfg.n_positions ≤ input_tokens.length → output = []

/-! ## Section 2: Progress of the loop -/

theorem count_call_calls (use_kv_cache : Bool) (input_length n : Nat) :
    count_call use_kv_cache input_length (input_length + n) (calls use_kv_cache n) =
      calls use_kv_cache (n + 1) := by
  cases use_kv_cache with
  | false => simp [count_call, calls]
  | true =>
    -- the first call is the prefill
    cases n with
    | zero => simp [count_call, calls]
    | succ n => simp [count_call, calls]

theorem calls_total (use_kv_cache : Bool) (n : Nat) :
    (calls use_kv_cache n).prefill_calls + (calls use_kv_cache n).decode_calls = n := by
  cases use_kv_cache with
  | false => rfl
  | true =>
    show min n 1 + (n - 1) = n
    omega

/-- A run that has added `output` to the prompt. -/
structure Added (use_kv_cache : Bool) (input_tokens output : List (Token cfg))
    (s : LoopState α cfg σ rows) : Prop where
  tokens : s.all_tokens = input_tokens ++ output
  timings : s.timings = calls use_kv_cache output.length
  /-- A token is added only where there was room. -/
  room : output ≠ [] → s.all_tokens.length ≤ rows

/-- The invariant of the loop: no token added so far is an end of sequence. -/
structure ProgressInv (rt : Runtime α cfg σ) (model : GPT2 α cfg) (use_kv_cache : Bool)
    (input_tokens : List (Token cfg)) (s : LoopState α cfg σ rows) : Prop where
  inv : LoopInv rt model use_kv_cache input_tokens.length s
  progress : ∃ output, Added use_kv_cache input_tokens output s ∧
    ∀ token ∈ output, ¬ rt.tokenizer.is_eos token

/-- The state after the loop: no room is left, or the last token added is an end
    of sequence. -/
def ProgressPost (rt : Runtime α cfg σ) (use_kv_cache : Bool)
    (input_tokens : List (Token cfg)) (s : LoopState α cfg σ rows) : Prop :=
  ∃ output, Added use_kv_cache input_tokens output s ∧
    ((∀ token ∈ output, ¬ rt.tokenizer.is_eos token) ∧ rows ≤ s.all_tokens.length ∨
      ∃ before token, output = before ++ [token] ∧ rt.tokenizer.is_eos token ∧
        ∀ token ∈ before, ¬ rt.tokenizer.is_eos token)

theorem loop_start_progress (rt : Runtime α cfg σ) (model : GPT2 α cfg) (use_kv_cache : Bool)
    (input_tokens : List (Token cfg)) (rng : σ) :
    ProgressInv rt model use_kv_cache input_tokens
      (loop_start rt use_kv_cache rows input_tokens rng) := by
  refine ⟨loop_start_inv rt model use_kv_cache input_tokens rng, [], ⟨?_, ?_, ?_⟩, ?_⟩
  · exact (List.append_nil _).symm
  · cases use_kv_cache <;> rfl
  · intro h
    exact absurd rfl h
  · intro token htoken
    cases htoken

omit [Field α] in
/-- One more token, counted. -/
theorem Added.append {use_kv_cache : Bool} {input_tokens output : List (Token cfg)}
    {s s' : LoopState α cfg σ rows} {token : Token cfg}
    (h : Added use_kv_cache input_tokens output s) (hlt : s.all_tokens.length < rows)
    (htokens : s'.all_tokens = s.all_tokens ++ [token])
    (htimings : s'.timings =
      count_call use_kv_cache input_tokens.length s.all_tokens.length s.timings) :
    Added use_kv_cache input_tokens (output ++ [token]) s' := by
  constructor
  · rw [htokens, h.tokens, List.append_assoc]
  · rw [htimings, h.timings, h.tokens, List.length_append, count_call_calls,
      List.length_append, List.length_singleton]
  · intro _
    rw [htokens, List.length_append, List.length_singleton]
    omega

/-- One iteration goes on with the invariant or breaks with the postcondition. -/
theorem body_progress (rt : Runtime α cfg σ) (model : GPT2 α cfg) (use_kv_cache : Bool)
    {input_tokens : List (Token cfg)} (hpos : 0 < input_tokens.length)
    {s : LoopState α cfg σ rows} (hinv : ProgressInv rt model use_kv_cache input_tokens s)
    (hlt : s.all_tokens.length < rows) (hrows : rows ≤ cfg.n_positions) :
    ∃ r, generate_body rt model use_kv_cache input_tokens.length s = .ok r ∧
      Loop.StepPost (ProgressInv rt model use_kv_cache input_tokens)
        (ProgressPost rt use_kv_cache input_tokens) r := by
  obtain ⟨hloop, output, hadded, hno_eos⟩ := hinv
  obtain ⟨s', hrun, htokens, -, htimings, hloop'⟩ :=
    body_spec rt model use_kv_cache hpos hloop hlt hrows
  have hadded' := hadded.append hlt htokens htimings
  refine ⟨_, hrun, ?_⟩
  split
  case isTrue heos =>
    exact ⟨_, hadded', Or.inr ⟨output, _, rfl, heos, hno_eos⟩⟩
  case isFalse heos =>
    refine ⟨hloop', _, hadded', ?_⟩
    intro token htoken
    rcases List.mem_append.mp htoken with hold | hnew
    · exact hno_eos token hold
    · rw [List.mem_singleton.mp hnew]
      exact heos

/-- The loop returns, with the postcondition. -/
theorem generate_tokens_progress (rt : Runtime α cfg σ) (model : GPT2 α cfg)
    (use_kv_cache : Bool) (input_tokens : List (Token cfg)) (max_new_tokens : Nat) (rng : σ)
    (hpos : 0 < input_tokens.length) :
    ∃ s, generate_tokens rt model use_kv_cache input_tokens max_new_tokens rng = .ok s ∧
      ProgressPost rt use_kv_cache input_tokens s := by
  refine Loop.run_rule (ProgressInv rt model use_kv_cache input_tokens)
    (ProgressPost rt use_kv_cache input_tokens) ?_ ?_ ?_
  · intro s hinv hc
    exact body_progress rt model use_kv_cache hpos hinv (of_decide_eq_true hc)
      (Nat.min_le_left _ _)
  · intro s hinv hc
    obtain ⟨output, hadded, hno_eos⟩ := hinv.progress
    have hge : ¬ s.all_tokens.length < _ := fun h => hc (decide_eq_true h)
    exact ⟨output, hadded, Or.inl ⟨hno_eos, Nat.le_of_not_lt hge⟩⟩
  · exact loop_start_progress rt model use_kv_cache input_tokens rng

/-! ## Section 3: The contract holds -/

omit [Field α] in
/-- The postcondition of the loop is the contract of its result. -/
theorem contract_of_progress (rt : Runtime α cfg σ) {use_kv_cache : Bool}
    {input_tokens : List (Token cfg)} {max_new_tokens : Nat}
    {s : LoopState α cfg σ (max_total_tokens cfg input_tokens.length max_new_tokens)}
    (h : ProgressPost rt use_kv_cache input_tokens s) :
    ∃ output, GenerationContract rt use_kv_cache input_tokens max_new_tokens s.all_tokens output
      (generation_result rt input_tokens s) := by
  obtain ⟨output, hadded, hend⟩ := h
  have hdrop : s.all_tokens.drop input_tokens.length = output := by
    rw [hadded.tokens, List.drop_left]
  have hlength : s.all_tokens.length = input_tokens.length + output.length := by
    rw [hadded.tokens, List.length_append]
  have houtput : (generation_result rt input_tokens s).output_tokens = output.length :=
    congrArg List.length hdrop
  have htimings : (generation_result rt input_tokens s).timings =
      calls use_kv_cache output.length := hadded.timings
  -- where a token was added there was room for all of them
  have hroom : output.length ≤ min max_new_tokens (cfg.n_positions - input_tokens.length) := by
    by_cases hnil : output = []
    · rw [hnil]
      exact Nat.zero_le _
    · have hle := hadded.room hnil
      unfold max_total_tokens at hle
      omega
  refine ⟨output, hadded.tokens, rfl, houtput, rfl, congrArg _ hdrop, hroom, ?_, ?_, ?_, ?_, ?_,
    ?_⟩
  · rcases hend with ⟨-, hfull⟩ | ⟨before, token, rfl, heos, -⟩
    · left
      unfold max_total_tokens at hfull
      omega
    · right
      exact ⟨token, List.getLast?_concat, heos⟩
  · intro i hi heos
    rcases hend with ⟨hno_eos, -⟩ | ⟨before, token, rfl, -, hno_eos⟩
    · exact absurd heos (hno_eos _ (List.getElem_mem hi))
    · by_cases hbefore : i < before.length
      · rw [List.getElem_append_left hbefore] at heos
        exact absurd heos (hno_eos _ (List.getElem_mem hbefore))
      · rw [List.length_append, List.length_singleton] at hi ⊢
        omega
  · rw [htimings, houtput, calls_total]
  · intro hcached
    rw [htimings, houtput, hcached]
    refine ⟨?_, rfl⟩
    show min output.length 1 = _
    split <;> omega
  · intro huncached
    rw [htimings, huncached]
    rfl
  · intro hlong
    rw [← List.length_eq_zero_iff]
    omega

/-- **Contract of the generation loop**: for every non-empty prompt, in both
    modes, `generate_with_metadata` returns and its result meets the contract. -/
theorem generation_contract (rt : Runtime α cfg σ) (model : GPT2 α cfg) (use_kv_cache : Bool)
    (prompt : String) (hprompt : rt.tokenizer.encode prompt ≠ []) (max_new_tokens : Nat)
    (rng : σ) :
    ∃ s output result rng',
      generate_tokens rt model use_kv_cache (rt.tokenizer.encode prompt) max_new_tokens rng =
        .ok s ∧
      generate_with_metadata rt model use_kv_cache prompt max_new_tokens rng =
        .ok (result, rng') ∧
      GenerationContract rt use_kv_cache (rt.tokenizer.encode prompt) max_new_tokens
        s.all_tokens output result := by
  obtain ⟨s, hs, hpost⟩ := generate_tokens_progress rt model use_kv_cache
    (rt.tokenizer.encode prompt) max_new_tokens rng (List.length_pos_of_ne_nil hprompt)
  obtain ⟨output, hcontract⟩ := contract_of_progress rt hpost
  exact ⟨s, output, _, s.rng, hs, generate_with_metadata_ok hs, hcontract⟩

/-- Five tokens asked for after a prompt of one, with room for three. -/
theorem generation_contract_tiny : ∃ s output result rng',
    generate_tokens tiny_runtime tiny_model true [(0 : Fin 2)] 5 0 = .ok s ∧
    generate_with_metadata tiny_runtime tiny_model true "a" 5 0 = .ok (result, rng') ∧
    GenerationContract tiny_runtime true [(0 : Fin 2)] 5 s.all_tokens output result :=
  generation_contract tiny_runtime tiny_model true "a" (by simp [tiny_runtime]) 5 0

end KVCache
