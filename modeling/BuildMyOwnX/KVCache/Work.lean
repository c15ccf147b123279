import BuildMyOwnX.KVCache.Sampling

/-! # The Work of a Run

    What the cache is for. A forward pass computes the rows of its logits, one for
    each position that goes through the blocks; the work of a run is the number
    of all of them, tallied next to the loop (`Loop.tallied`).

    Both modes generate the same tokens. For `k` of them after a prompt of `P` the
    cached run computes `P + (k - 1)` rows, the prompt once and each token once
    but the last, and the other one `P + (P + 1) + … + (P + k - 1)`
    (`work_of_modes`).
-/

namespace KVCache

variable {α : Type} [Field α] {cfg : Config} {σ : Type} {rows : Nat}

/-! ## Section 1: The tally -/

section tally

variable (rt : Runtime α cfg σ) (model : GPT2 α cfg) (use_kv_cache : Bool) (input_length : Nat)

/-- The rows of logits that the forward pass of an iteration computes. -/
def rows_computed (s : LoopState α cfg σ rows) : Nat :=
  match forward rt model use_kv_cache input_length s with
  | .ok ⟨T, _⟩ => T
  | .error _ => 0

/-- `generate_tokens`, with the rows computed so far next to its local variables. -/
def tallied_generate_tokens (input_tokens : List (Token cfg)) (max_new_tokens : Nat) (rng : σ) :
    Except Error
      (LoopState α cfg σ (max_total_tokens cfg input_tokens.length max_new_tokens) × Nat) :=
  ((generate_loop rt model use_kv_cache input_tokens.length _).tallied fun s work =>
      work + rows_computed rt model use_kv_cache input_tokens.length s).run
    (loop_start rt use_kv_cache _ input_tokens rng, 0)

/-- The tally has no part in the run. -/
theorem tallied_erase (input_tokens : List (Token cfg)) (max_new_tokens : Nat) (rng : σ) :
    (tallied_generate_tokens rt model use_kv_cache input_tokens max_new_tokens rng).map Prod.fst =
      generate_tokens rt model use_kv_cache input_tokens max_new_tokens rng :=
  Loop.run_tallied _ _ _

/-- A prefill computes a row for every token, a decode only one. -/
theorem forward_rows {s : LoopState α cfg σ rows} {r}
    (h : forward rt model use_kv_cache input_length s = .ok r) :
    r.1 = if use_kv_cache ∧ s.all_tokens.length ≠ input_length then 1
      else s.all_tokens.length := by
  unfold forward at h
  cases use_kv_cache with
  | false =>
    obtain ⟨_, -, h⟩ := Except.of_bind_ok h
    cases h
    simp
  | true =>
    cases hcache : s.kv_cache with
    | none =>
      rw [hcache] at h
      cases h
    | some kv_cache =>
      -- the first iteration is the prefill, every later one a decode
      simp only [hcache, if_true] at h
      split at h
      · next hfirst =>
        obtain ⟨_, -, h⟩ := Except.of_bind_ok h
        cases h
        simp [hfirst]
      · next hfirst =>
        split at h
        · cases h
        · obtain ⟨_, -, h⟩ := Except.of_bind_ok h
          cases h
          simp [hfirst]

end tally

/-! ## Section 2: The sum of a run -/

/-- The rows of the first `k` iterations after a prompt of `P` tokens. -/
def work (use_kv_cache : Bool) (P k : Nat) : Nat :=
  ∑ i ∈ Finset.range k, if use_kv_cache ∧ i ≠ 0 then 1 else P + i

theorem work_cached (P k : Nat) : work true P (k + 1) = P + k := by
  unfold work
  rw [Finset.sum_range_succ']
  simp [add_comm]

/-- Twice the sum of `P`, `P + 1`, … -/
theorem work_uncached (P k : Nat) : 2 * work false P k = k * (2 * P + (k - 1)) := by
  have hsum : work false P k = k * P + ∑ i ∈ Finset.range k, i := by
    simp only [work, Bool.false_eq_true, false_and, if_false]
    rw [Finset.sum_add_distrib, Finset.sum_const, Finset.card_range, smul_eq_mul]
  have hgauss := Finset.sum_range_id_mul_two k
  rw [hsum, Nat.mul_add, Nat.mul_comm 2 (∑ i ∈ Finset.range k, i), hgauss, Nat.mul_add]
  ring

/-- The loop invariant: the tally is the sum for the tokens added so far. -/
structure TallyInv (rt : Runtime α cfg σ) (model : GPT2 α cfg) (use_kv_cache : Bool)
    (input_length : Nat) (s : LoopState α cfg σ rows × Nat) : Prop where
  inv : LoopInv rt model use_kv_cache input_length s.1
  tally : s.2 = work use_kv_cache input_length (s.1.all_tokens.length - input_length)

/-- One iteration adds the rows of one more token. -/
theorem work_step (rt : Runtime α cfg σ) (model : GPT2 α cfg) (use_kv_cache : Bool)
    {input_length : Nat} (hpos : 0 < input_length) {s : LoopState α cfg σ rows}
    (hinv : LoopInv rt model use_kv_cache input_length s) (hlt : s.all_tokens.length < rows)
    (hrows : rows ≤ cfg.n_positions) :
    work use_kv_cache input_length (s.all_tokens.length + 1 - input_length) =
      work use_kv_cache input_length (s.all_tokens.length - input_length) +
        rows_computed rt model use_kv_cache input_length s := by
  obtain ⟨T, -, logits, c, hforward, -⟩ := forward_spec rt model use_kv_cache hpos hinv hlt hrows
  have hT : rows_computed rt model use_kv_cache input_length s =
      if use_kv_cache ∧ s.all_tokens.length ≠ input_length then 1 else s.all_tokens.length := by
    rw [rows_computed, hforward]
    exact forward_rows rt model use_kv_cache input_length hforward
  have hle := hinv.prompt_le
  have hnext : s.all_tokens.length + 1 - input_length =
      s.all_tokens.length - input_length + 1 := by omega
  have hfirst : s.all_tokens.length - input_length ≠ 0 ↔ s.all_tokens.length ≠ input_length := by
    omega
  rw [hT, hnext, work, Finset.sum_range_succ, ← work]
  simp only [hfirst, Nat.add_sub_of_le hle]

/-- The tallied loop returns, and its tally is the sum. -/
theorem tallied_run (rt : Runtime α cfg σ) (model : GPT2 α cfg) (use_kv_cache : Bool)
    (input_tokens : List (Token cfg)) (hpos : 0 < input_tokens.length) (max_new_tokens : Nat)
    (rng : σ) :
    ∃ r, tallied_generate_tokens rt model use_kv_cache input_tokens max_new_tokens rng = .ok r ∧
      r.2 = work use_kv_cache input_tokens.length
        (r.1.all_tokens.length - input_tokens.length) := by
  refine Loop.run_rule (TallyInv rt model use_kv_cache input_tokens.length) _ ?_
    (fun s hs _ => hs.tally) ⟨loop_start_inv rt model use_kv_cache input_tokens rng, ?_⟩
  · rintro ⟨s, tally⟩ ⟨hinv, htally⟩ hc
    have hlt : s.all_tokens.length < _ := of_decide_eq_true hc
    obtain ⟨s', hrun, htokens, -, -, hinv'⟩ :=
      body_spec rt model use_kv_cache hpos hinv hlt (Nat.min_le_left _ _)
    have hstep := work_step rt model use_kv_cache hpos hinv hlt (Nat.min_le_left _ _)
    -- the rows of this iteration are the next summand
    have htally' : tally + rows_computed rt model use_kv_cache input_tokens.length s =
        work use_kv_cache input_tokens.length (s'.all_tokens.length - input_tokens.length) := by
      rw [htokens, List.length_append, List.length_singleton, hstep]
      exact congrArg (· + _) htally
    refine ⟨_, congrArg (Except.map _) hrun, ?_⟩
    split
    · exact htally'
    · exact ⟨hinv', htally'⟩
  · show 0 = work use_kv_cache input_tokens.length (input_tokens.length - input_tokens.length)
    rw [Nat.sub_self]
    rfl

/-! ## Section 3: The two modes -/

/-- A cached and an uncached run, with the rows that each computes. -/
def WorkOfModes (rt : Runtime α cfg σ) (model : GPT2 α cfg) (input_tokens : List (Token cfg))
    (max_new_tokens : Nat) (rng : σ) : Prop :=
  ∃ cached uncached,
    tallied_generate_tokens rt model true input_tokens max_new_tokens rng = .ok cached ∧
    tallied_generate_tokens rt model false input_tokens max_new_tokens rng = .ok uncached ∧
    generate_tokens rt model true input_tokens max_new_tokens rng = .ok cached.1 ∧
    generate_tokens rt model false input_tokens max_new_tokens rng = .ok uncached.1 ∧
    cached.1.all_tokens = uncached.1.all_tokens ∧
    let P := input_tokens.length
    let k := cached.1.all_tokens.length - P
    cached.2 = (if k = 0 then 0 else P + (k - 1)) ∧ 2 * uncached.2 = k * (2 * P + (k - 1))

/-- **The work of both modes**: for every non-empty prompt they generate the same tokens,
    the cached run with a number of rows linear in the number of new tokens and the
    other with a quadratic one. -/
theorem work_of_modes (rt : Runtime α cfg σ) (model : GPT2 α cfg)
    (input_tokens : List (Token cfg)) (hprompt : input_tokens ≠ []) (max_new_tokens : Nat)
    (rng : σ) : WorkOfModes rt model input_tokens max_new_tokens rng := by
  have hpos : 0 < input_tokens.length := List.length_pos_of_ne_nil hprompt
  obtain ⟨cached, hcached, hwork⟩ := tallied_run rt model true input_tokens hpos max_new_tokens rng
  obtain ⟨uncached, huncached, hwork'⟩ :=
    tallied_run rt model false input_tokens hpos max_new_tokens rng
  obtain ⟨s, s', hs, hs', hsame⟩ :=
    generate_tokens_same_draws rt model input_tokens max_new_tokens rng hpos
  -- without its tally each run is the run of the mode
  have herase := tallied_erase rt model true input_tokens max_new_tokens rng
  have herase' := tallied_erase rt model false input_tokens max_new_tokens rng
  rw [hcached, hs] at herase
  rw [huncached, hs'] at herase'
  have hfst : cached.1 = s := Except.ok.inj herase
  have hfst' : uncached.1 = s' := Except.ok.inj herase'
  have htokens : cached.1.all_tokens = uncached.1.all_tokens := by
    rw [hfst, hfst', hsame.tokens]
  refine ⟨cached, uncached, hcached, huncached, hfst ▸ hs, hfst' ▸ hs', htokens, ?_, ?_⟩
  · rw [hwork]
    cases hk : cached.1.all_tokens.length - input_tokens.length with
    | zero => rfl
    | succ k =>
      rw [work_cached, if_neg (Nat.succ_ne_zero k), Nat.add_sub_cancel]
  · rw [hwork', htokens, work_uncached]

/-- Three tokens asked for after a prompt of one. -/
theorem work_of_modes_tiny : WorkOfModes tiny_runtime tiny_model [(0 : Fin 2)] 3 0 :=
  work_of_modes tiny_runtime tiny_model [(0 : Fin 2)] (by simp) 3 0

end KVCache
