import BuildMyOwnX.Framework.StateExcept
import BuildMyOwnX.KVCache.GenerateContract

/-! # Autoregressive Sampling

    What the generation loop is for, without its cache, its call counts and its
    arrays: draw a token from the logits of the tokens so far, append it, and go
    on until a token is an end of sequence or enough are drawn (`drawn`). Both
    modes of the loop compute this (`generate_tokens_drawn`).

    Read off it: a smaller budget only cuts the output short, and a run that was
    cut can be resumed from its tokens (`budget_cuts`). A prompt without tokens
    is no exception to the agreement of the two modes: it raises in both, or
    draws nothing in both (`modes_agree`).
-/

namespace KVCache

variable {α : Type} [Field α] {cfg : Config} {σ : Type} {rows : Nat}

/-! ## Section 1: The sampling process -/

section drawn

variable (rt : Runtime α cfg σ) (model : GPT2 α cfg)

/-- Up to `k` draws after `tokens`. -/
def drawn : Nat → List (Token cfg) → σ → List (Token cfg) × σ
  | 0, tokens, rng => (tokens, rng)
  | k + 1, tokens, rng =>
    let (token, rng) := next_token rt model tokens rng
    if rt.tokenizer.eos_token_id = some token.val then (tokens ++ [token], rng)
    else drawn k (tokens ++ [token]) rng

theorem drawn_zero (tokens : List (Token cfg)) (rng : σ) :
    drawn rt model 0 tokens rng = (tokens, rng) := rfl

theorem drawn_succ (k : Nat) (tokens : List (Token cfg)) (rng : σ) :
    drawn rt model (k + 1) tokens rng =
      if rt.tokenizer.eos_token_id = some (next_token rt model tokens rng).1.val then
        (tokens ++ [(next_token rt model tokens rng).1], (next_token rt model tokens rng).2)
      else
        drawn rt model k (tokens ++ [(next_token rt model tokens rng).1])
          (next_token rt model tokens rng).2 := rfl

/-- The draws go on after the tokens there were. -/
theorem drawn_extends (k : Nat) (tokens : List (Token cfg)) (rng : σ) :
    tokens <+: (drawn rt model k tokens rng).1 := by
  induction k generalizing tokens rng with
  | zero => exact List.prefix_refl tokens
  | succ k ih =>
    rw [drawn_succ]
    have hone := List.prefix_append tokens [(next_token rt model tokens rng).1]
    split
    · exact hone
    · exact hone.trans (ih _ _)

/-- Fewer draws are the first of more draws. -/
theorem drawn_cut {k l : Nat} (hkl : k ≤ l) (tokens : List (Token cfg)) (rng : σ) :
    (drawn rt model k tokens rng).1 =
      (drawn rt model l tokens rng).1.take (tokens.length + k) := by
  induction k generalizing l tokens rng with
  | zero =>
    obtain ⟨rest, hrest⟩ := drawn_extends rt model l tokens rng
    rw [drawn_zero, ← hrest, Nat.add_zero, List.take_left]
  | succ k ih =>
    obtain ⟨l, rfl⟩ : ∃ l', l = l' + 1 := ⟨l - 1, by omega⟩
    rw [drawn_succ, drawn_succ]
    split
    · -- both have drawn an end of sequence
      rw [List.take_of_length_le]
      rw [List.length_append, List.length_singleton]
      omega
    · have hlength : tokens.length + (k + 1) =
          (tokens ++ [(next_token rt model tokens rng).1]).length + k := by
        rw [List.length_append, List.length_singleton]
        omega
      rw [hlength]
      exact ih (Nat.le_of_succ_le_succ hkl) _ _

/-- The last draw, if there was one, was an end of sequence. -/
def Ended (before after : List (Token cfg)) : Prop :=
  ∃ token, (after.drop before.length).getLast? = some token ∧ rt.tokenizer.is_eos token

omit [Field α] in
/-- The last of the later draws is the last of all. -/
theorem Ended.of_later {tokens after : List (Token cfg)} {token : Token cfg}
    (hextends : tokens ++ [token] <+: after) (h : Ended rt (tokens ++ [token]) after) :
    Ended rt tokens after := by
  obtain ⟨rest, rfl⟩ := hextends
  obtain ⟨last, hlast, heos⟩ := h
  refine ⟨last, ?_, heos⟩
  rw [List.drop_left] at hlast
  rw [List.append_assoc, List.drop_left, List.getLast?_append, hlast]
  rfl

omit [Field α] in
/-- A draw that is an end of sequence is the last. -/
theorem Ended.of_draw {tokens : List (Token cfg)} {token : Token cfg}
    (heos : rt.tokenizer.is_eos token) : Ended rt tokens (tokens ++ [token]) := by
  refine ⟨token, ?_, heos⟩
  rw [List.drop_left]
  rfl

/-- Draws that have not ended can be taken up again. -/
theorem drawn_resume (k l : Nat) (tokens : List (Token cfg)) (rng : σ)
    (h : ¬ Ended rt tokens (drawn rt model k tokens rng).1) :
    drawn rt model l (drawn rt model k tokens rng).1 (drawn rt model k tokens rng).2 =
      drawn rt model (k + l) tokens rng := by
  induction k generalizing tokens rng with
  | zero =>
    rw [drawn_zero, Nat.zero_add]
  | succ k ih =>
    rw [Nat.succ_add, drawn_succ, drawn_succ]
    rw [drawn_succ] at h
    split at h
    case isTrue heos => exact absurd (Ended.of_draw rt heos) h
    case isFalse heos =>
      rw [if_neg heos, if_neg heos]
      exact ih _ _ fun hended => h (hended.of_later rt (drawn_extends rt model k _ _))

theorem drawn_length_le (k : Nat) (tokens : List (Token cfg)) (rng : σ) :
    (drawn rt model k tokens rng).1.length ≤ tokens.length + k := by
  rw [drawn_cut rt model (Nat.le_refl k) tokens rng]
  exact List.length_take_le _ _

/-- Draws that have not ended are all there. -/
theorem drawn_length (k : Nat) (tokens : List (Token cfg)) (rng : σ)
    (h : ¬ Ended rt tokens (drawn rt model k tokens rng).1) :
    (drawn rt model k tokens rng).1.length = tokens.length + k := by
  induction k generalizing tokens rng with
  | zero => rfl
  | succ k ih =>
    rw [drawn_succ] at h ⊢
    split at h
    case isTrue heos => exact absurd (Ended.of_draw rt heos) h
    case isFalse heos =>
      rw [if_neg heos, ih, List.length_append, List.length_singleton, Nat.add_assoc,
        Nat.add_comm 1 k]
      exact fun hended => h (hended.of_later rt (drawn_extends rt model k _ _))

end drawn

/-! ## Section 2: The loop samples -/

/-- The loop invariant: what is still to be drawn leads to the same end. -/
structure DrawsInv (rt : Runtime α cfg σ) (model : GPT2 α cfg) (use_kv_cache : Bool)
    (input_tokens : List (Token cfg)) (rng : σ) (s : LoopState α cfg σ rows) : Prop where
  inv : LoopInv rt model use_kv_cache input_tokens.length s
  rest : drawn rt model (rows - s.all_tokens.length) s.all_tokens s.rng =
    drawn rt model (rows - input_tokens.length) input_tokens rng

/-- **The loop samples**: in both modes the tokens and the random state after
    the loop are those of the sampling process. -/
theorem generate_tokens_drawn (rt : Runtime α cfg σ) (model : GPT2 α cfg) (use_kv_cache : Bool)
    (input_tokens : List (Token cfg)) (hprompt : input_tokens ≠ []) (max_new_tokens : Nat)
    (rng : σ) :
    ∃ s, generate_tokens rt model use_kv_cache input_tokens max_new_tokens rng = .ok s ∧
      (s.all_tokens, s.rng) = drawn rt model
        (min (cfg.n_positions - input_tokens.length) max_new_tokens) input_tokens rng := by
  have hpos : 0 < input_tokens.length := List.length_pos_of_ne_nil hprompt
  have hrows : max_total_tokens cfg input_tokens.length max_new_tokens - input_tokens.length =
      min (cfg.n_positions - input_tokens.length) max_new_tokens := by
    unfold max_total_tokens
    omega
  rw [← hrows]
  refine Loop.run_rule (DrawsInv rt model use_kv_cache input_tokens rng) _ ?_ ?_ ?_
  · intro s hinv hc
    have hlt : s.all_tokens.length < _ := of_decide_eq_true hc
    obtain ⟨s', hrun, htokens, hrng, -, hloop⟩ :=
      body_spec rt model use_kv_cache hpos hinv.inv hlt (Nat.min_le_left _ _)
    have hrest := hinv.rest
    -- this iteration is the first of the draws that were left
    obtain ⟨k, hk⟩ := Nat.exists_eq_succ_of_ne_zero (Nat.sub_ne_zero_of_lt hlt)
    rw [hk, drawn_succ, ← htokens, ← hrng] at hrest
    refine ⟨_, hrun, ?_⟩
    split
    case isTrue heos =>
      rw [if_pos heos] at hrest
      exact hrest
    case isFalse heos =>
      rw [if_neg heos] at hrest
      have hk' : max_total_tokens cfg input_tokens.length max_new_tokens - s'.all_tokens.length =
          k := by
        rw [htokens, List.length_append, List.length_singleton]
        omega
      exact ⟨hloop, hk' ▸ hrest⟩
  · intro s hinv hc
    have hge : ¬ s.all_tokens.length < _ := fun h => hc (decide_eq_true h)
    have hrest := hinv.rest
    rw [Nat.sub_eq_zero_of_le (Nat.le_of_not_lt hge)] at hrest
    exact hrest
  · exact ⟨loop_start_inv rt model use_kv_cache input_tokens rng, rfl⟩

/-- A run with the smaller budget `m` and one with the larger `m'`: the first is
    the second cut short, and taken up again it becomes the second. -/
def BudgetCuts (rt : Runtime α cfg σ) (model : GPT2 α cfg) (use_kv_cache use_kv_cache' : Bool)
    (input_tokens : List (Token cfg)) (m m' : Nat) (rng : σ) : Prop :=
  ∃ s s', generate_tokens rt model use_kv_cache input_tokens m rng = .ok s ∧
    generate_tokens rt model use_kv_cache' input_tokens m' rng = .ok s' ∧
    s.all_tokens = s'.all_tokens.take (input_tokens.length + m) ∧
    (¬ Ended rt input_tokens s.all_tokens →
      ∃ t, generate_tokens rt model use_kv_cache' s.all_tokens (m' - m) s.rng = .ok t ∧
        t.all_tokens = s'.all_tokens ∧ t.rng = s'.rng)

/-- **Smaller budgets**: whichever modes the two runs use. -/
theorem budget_cuts (rt : Runtime α cfg σ) (model : GPT2 α cfg)
    (use_kv_cache use_kv_cache' : Bool) (input_tokens : List (Token cfg))
    (hprompt : input_tokens ≠ []) {m m' : Nat} (hm : m ≤ m') (rng : σ) :
    BudgetCuts rt model use_kv_cache use_kv_cache' input_tokens m m' rng := by
  obtain ⟨s, hs, hdraws⟩ :=
    generate_tokens_drawn rt model use_kv_cache input_tokens hprompt m rng
  obtain ⟨s', hs', hdraws'⟩ :=
    generate_tokens_drawn rt model use_kv_cache' input_tokens hprompt m' rng
  have htokens := congrArg Prod.fst hdraws
  have hrng := congrArg Prod.snd hdraws
  have htokens' := congrArg Prod.fst hdraws'
  have hrng' := congrArg Prod.snd hdraws'
  dsimp only at htokens hrng htokens' hrng'
  refine ⟨s, s', hs, hs', ?_, ?_⟩
  · rw [htokens, htokens']
    by_cases hroom : m ≤ cfg.n_positions - input_tokens.length
    · rw [Nat.min_eq_right hroom]
      exact drawn_cut rt model (by omega) input_tokens rng
    · -- both runs end at the positions the model has
      rw [Nat.min_eq_left (by omega), Nat.min_eq_left (by omega), List.take_of_length_le]
      have hle := drawn_length_le rt model (cfg.n_positions - input_tokens.length)
        input_tokens rng
      omega
  · intro hended
    have hne : s.all_tokens ≠ [] := by
      obtain ⟨rest, hrest⟩ := drawn_extends rt model
        (min (cfg.n_positions - input_tokens.length) m) input_tokens rng
      rw [htokens, ← hrest]
      exact List.append_ne_nil_of_left_ne_nil hprompt rest
    obtain ⟨t, ht, hdrawst⟩ :=
      generate_tokens_drawn rt model use_kv_cache' s.all_tokens hne (m' - m) s.rng
    rw [htokens] at hended
    have hlength : s.all_tokens.length = _ :=
      (congrArg List.length htokens).trans (drawn_length rt model _ input_tokens rng hended)
    have hbudget : min (cfg.n_positions - input_tokens.length) m +
        min (cfg.n_positions - s.all_tokens.length) (m' - m) =
        min (cfg.n_positions - input_tokens.length) m' := by
      rw [hlength]
      omega
    have hsame : (t.all_tokens, t.rng) = (s'.all_tokens, s'.rng) := by
      rw [hdrawst, hdraws', ← hbudget, ← drawn_resume rt model _ _ input_tokens rng hended,
        htokens, hrng]
    exact ⟨t, ht, congrArg Prod.fst hsame, congrArg Prod.snd hsame⟩

/-- One token asked for without the cache, taken up again with it. -/
theorem budget_cuts_tiny : BudgetCuts tiny_runtime tiny_model false true [(0 : Fin 2)] 1 3 0 :=
  budget_cuts tiny_runtime tiny_model false true [(0 : Fin 2)] (by simp) (by decide) 0

/-! ## Section 3: Prompts without tokens -/

/-- Results that differ at most in their timings. -/
structure SameResult (result result' : GenerationResult) : Prop where
  full_text : result.full_text = result'.full_text
  output_text : result.output_text = result'.output_text
  prompt_tokens : result.prompt_tokens = result'.prompt_tokens
  output_tokens : result.output_tokens = result'.output_tokens

omit [Field α] in
theorem same_result_of_tokens (rt : Runtime α cfg σ) (input_tokens : List (Token cfg))
    {rows' : Nat} {s : LoopState α cfg σ rows} {s' : LoopState α cfg σ rows'}
    (h : s.all_tokens = s'.all_tokens) :
    SameResult (generation_result rt input_tokens s) (generation_result rt input_tokens s') := by
  constructor <;> simp only [generation_result, h]

/-- What an iteration without tokens raises: the view of no rows in the first
    block or, in a model without blocks, the last row of no logits. -/
def no_tokens_error (cfg : Config) : Error :=
  if cfg.n_layer = 0 then .index_error else .ambiguous_view

/-- The prefill of nothing raises, or returns no logits and it is the draw that raises. -/
theorem prefill_nothing (F : Scalars α) (model : GPT2 α cfg) (c₀ : Option (Cache α cfg rows)) :
    model.prefill F [] c₀ = .error (no_tokens_error cfg) ∨
      ∃ y, model.prefill F [] c₀ = .ok (y, c₀) ∧ no_tokens_error cfg = .index_error := by
  unfold no_tokens_error
  by_cases hblocks : cfg.n_layer = 0
  · obtain ⟨y, hrun⟩ := model.prefill_no_blocks F hblocks c₀
    exact .inr ⟨y, hrun, if_pos hblocks⟩
  · rw [if_neg hblocks]
    exact .inl (model.prefill_no_tokens F hblocks c₀)

theorem body_no_tokens (rt : Runtime α cfg σ) (model : GPT2 α cfg) (use_kv_cache : Bool)
    {s : LoopState α cfg σ rows} (htokens : s.all_tokens = [])
    (hcache : use_kv_cache → ∃ c, s.kv_cache = some c) :
    generate_body rt model use_kv_cache 0 s = .error (no_tokens_error cfg) := by
  obtain ⟨tokens, kv_cache, timings, rng⟩ := s
  cases htokens
  -- the iteration is a prefill in both modes
  cases use_kv_cache with
  | false =>
    rcases prefill_nothing rt.scalars model (none : Option (Cache α cfg rows)) with
      hrun | ⟨y, hrun, herror⟩
    · simp only [generate_body, forward, Bool.false_eq_true, if_false, hrun]
      rfl
    · simp only [generate_body, forward, Bool.false_eq_true, if_false, hrun, herror]
      rfl
  | true =>
    obtain ⟨c, hc⟩ := hcache rfl
    cases hc
    rcases prefill_nothing rt.scalars model (some c) with hrun | ⟨y, hrun, herror⟩
    · simp only [generate_body, forward, if_true, List.length_nil, hrun]
      rfl
    · simp only [generate_body, forward, if_true, List.length_nil, hrun, herror]
      rfl

/-- A prompt without tokens raises if there is a token to draw. -/
theorem generate_tokens_no_tokens (rt : Runtime α cfg σ) (model : GPT2 α cfg)
    (use_kv_cache : Bool) (max_new_tokens : Nat) (rng : σ) :
    generate_tokens rt model use_kv_cache [] max_new_tokens rng =
      if 0 < max_total_tokens cfg 0 max_new_tokens then
        .error (no_tokens_error cfg)
      else
        .ok (loop_start rt use_kv_cache _ [] rng) := by
  split
  case isTrue hpos =>
    apply Loop.run_error (decide_eq_true hpos)
    apply body_no_tokens rt model use_kv_cache rfl
    rintro rfl
    exact ⟨_, rfl⟩
  case isFalse hpos =>
    exact Loop.run_exit fun hc => hpos (of_decide_eq_true hc)

/-- The two modes agree on every prompt. -/
theorem modes_agree (rt : Runtime α cfg σ) (model : GPT2 α cfg)
    (use_kv_cache use_kv_cache' : Bool) (prompt : String) (max_new_tokens : Nat) (rng : σ) :
    StateExcept.SameOutcome (fun p q => SameResult p.1 q.1 ∧ p.2 = q.2)
      (generate_with_metadata rt model use_kv_cache prompt max_new_tokens rng)
      (generate_with_metadata rt model use_kv_cache' prompt max_new_tokens rng) := by
  by_cases hprompt : rt.tokenizer.encode prompt = []
  · unfold generate_with_metadata
    dsimp only
    generalize rt.tokenizer.encode prompt = tokens at hprompt ⊢
    subst hprompt
    rw [generate_tokens_no_tokens, generate_tokens_no_tokens]
    -- the two modes test the same budget
    show StateExcept.SameOutcome _ ((ite (0 < max_total_tokens cfg 0 max_new_tokens) _ _) >>= _)
      ((ite (0 < max_total_tokens cfg 0 max_new_tokens) _ _) >>= _)
    split
    · exact rfl
    · exact ⟨same_result_of_tokens rt [] rfl, rfl⟩
  · obtain ⟨s, hs, hdraws⟩ :=
      generate_tokens_drawn rt model use_kv_cache _ hprompt max_new_tokens rng
    obtain ⟨s', hs', hdraws'⟩ :=
      generate_tokens_drawn rt model use_kv_cache' _ hprompt max_new_tokens rng
    have hsame := hdraws.trans hdraws'.symm
    rw [generate_with_metadata_ok hs, generate_with_metadata_ok hs']
    have htokens : s.all_tokens = s'.all_tokens := congrArg Prod.fst hsame
    have hrng : s.rng = s'.rng := congrArg Prod.snd hsame
    exact ⟨same_result_of_tokens rt _ htokens, hrng⟩

end KVCache
