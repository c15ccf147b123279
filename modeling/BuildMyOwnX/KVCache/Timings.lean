import BuildMyOwnX.Framework.Json
import BuildMyOwnX.KVCache.GenerateContract

/-! # Measured Timings

    The milliseconds of `metrics.py`, which the generation loop of `model.py`
    collects next to its call counts: each forward pass is measured by two
    readings of `time.perf_counter`. The readings are a sequence of rationals.

    Measuring does not change what is generated (`timed_run_erases`): the timed
    loop is the loop of the other modules with more in its state. On a clock that
    does not run backwards the milliseconds add up (`timings_account`). They are
    not negative, their total is at most the time between the first and the last
    reading, and the averages of `as_dict` are those of the calls made.
-/

namespace KVCache

variable {α : Type} [Field α] {cfg : Config} {σ : Type} {rows : Nat}

/-! ## Section 1: metrics.py -/

structure MeasuredTimings extends GenerationTimings where
  prefill_ms : ℚ := 0
  decode_ms : ℚ := 0

namespace MeasuredTimings

def total_ms (t : MeasuredTimings) : ℚ := t.prefill_ms + t.decode_ms

def average_prefill_ms (t : MeasuredTimings) : ℚ :=
  if t.prefill_calls ≠ 0 then t.prefill_ms / t.prefill_calls else 0

def average_decode_ms (t : MeasuredTimings) : ℚ :=
  if t.decode_calls ≠ 0 then t.decode_ms / t.decode_calls else 0

def as_dict (t : MeasuredTimings) : List (String × Json ℚ) :=
  [("prefill_ms", .float t.prefill_ms),
    ("decode_ms", .float t.decode_ms),
    ("total_ms", .float t.total_ms),
    ("prefill_calls", .int t.prefill_calls),
    ("decode_calls", .int t.decode_calls),
    ("average_prefill_ms", .float t.average_prefill_ms),
    ("average_decode_ms", .float t.average_decode_ms)]

end MeasuredTimings

/-- The output, the milliseconds, and how often the clock has been read. -/
def measure_inference_ms {τ : Type} (clock : Nat → ℚ) (readings : Nat)
    (operation : Except Error τ) : Except Error (τ × ℚ × Nat) := do
  let started_at := clock readings
  let output ← operation
  let elapsed_ms := (clock (readings + 1) - started_at) * 1000
  return (output, elapsed_ms, readings + 2)

/-! ## Section 2: The timed loop -/

/-- The local variables with all timings. -/
structure TimedState (α : Type) (cfg : Config) (σ : Type) (rows : Nat) where
  all_tokens : List (Token cfg)
  kv_cache : Option (Cache α cfg rows)
  timings : MeasuredTimings
  rng : σ
  readings : Nat

/-- Without the milliseconds. -/
abbrev TimedState.erase (s : TimedState α cfg σ rows) : LoopState α cfg σ rows where
  all_tokens := s.all_tokens
  kv_cache := s.kv_cache
  timings := s.timings.toGenerationTimings
  rng := s.rng

section timed

variable (clock : Nat → ℚ) (rt : Runtime α cfg σ) (model : GPT2 α cfg) (use_kv_cache : Bool)
  (input_length : Nat)

/-- The forward pass of one iteration, measured. -/
def timed_forward (s : TimedState α cfg σ rows) :
    Except Error ((T : Nat) × Tensor α [T, cfg.vocab_size] × Option (Cache α cfg rows) ×
      MeasuredTimings × Nat) :=
  if use_kv_cache then
    match s.kv_cache with
    | none => .error .assertion_error
    | some kv_cache =>
      if s.all_tokens.length = input_length then do
        let ((logits, kv_cache), prefill_ms, readings) ← measure_inference_ms clock s.readings
          (model.prefill rt.scalars s.all_tokens (some kv_cache))
        return ⟨_, logits, kv_cache,
          { s.timings with
            prefill_ms := s.timings.prefill_ms + prefill_ms
            prefill_calls := s.timings.prefill_calls + 1 },
          readings⟩
      else if h : s.all_tokens = [] then
        .error .index_error
      else do
        let ((logits, kv_cache), decode_ms, readings) ← measure_inference_ms clock s.readings
          (model.decode rt.scalars (s.all_tokens.getLast h) (s.all_tokens.length - 1) kv_cache)
        return ⟨_, logits, some kv_cache,
          { s.timings with
            decode_ms := s.timings.decode_ms + decode_ms
            decode_calls := s.timings.decode_calls + 1 },
          readings⟩
  else do
    let ((logits, _), prefill_ms, readings) ← measure_inference_ms clock s.readings
      (model.prefill rt.scalars s.all_tokens (none : Option (Cache α cfg rows)))
    return ⟨_, logits, s.kv_cache,
      { s.timings with
        prefill_ms := s.timings.prefill_ms + prefill_ms
        prefill_calls := s.timings.prefill_calls + 1 },
      readings⟩

/-- One iteration, measured. -/
def timed_body (s : TimedState α cfg σ rows) :
    Except Error (ForInStep (TimedState α cfg σ rows)) := do
  let ⟨_, logits, kv_cache, timings, readings⟩ ←
    timed_forward clock rt model use_kv_cache input_length s
  let (next_token, rng) ← poll_token_from_logits rt logits s.rng
  let s := { all_tokens := s.all_tokens ++ [next_token], kv_cache, timings, rng, readings }
  if rt.tokenizer.eos_token_id = some next_token.val then
    return .done s
  else
    return .yield s

/-! ## Section 3: Measuring changes nothing else -/

/-- The milliseconds of the iteration that starts at these readings. -/
def elapsed (readings : Nat) : ℚ := (clock (readings + 1) - clock readings) * 1000

/-- The timings after an iteration that leads to these counts: its time goes to
    the decodes or to the prefills. -/
def TimedState.charge (s : TimedState α cfg σ rows) (counts : GenerationTimings) :
    MeasuredTimings :=
  { counts with
    prefill_ms := s.timings.prefill_ms +
      if use_kv_cache ∧ s.all_tokens.length ≠ input_length then 0 else elapsed clock s.readings
    decode_ms := s.timings.decode_ms +
      if use_kv_cache ∧ s.all_tokens.length ≠ input_length then elapsed clock s.readings else 0 }

/-- The state after an iteration that leads to `s'`. -/
def TimedState.after (s : TimedState α cfg σ rows) (s' : LoopState α cfg σ rows) :
    TimedState α cfg σ rows where
  all_tokens := s'.all_tokens
  kv_cache := s'.kv_cache
  timings := s.charge clock use_kv_cache input_length s'.timings
  rng := s'.rng
  readings := s.readings + 2

/-- The measured forward pass is the forward pass, with its time added. -/
theorem timed_forward_eq (s : TimedState α cfg σ rows) :
    timed_forward clock rt model use_kv_cache input_length s =
      (forward rt model use_kv_cache input_length s.erase).map fun r =>
        ⟨r.1, r.2.1, r.2.2.1, s.charge clock use_kv_cache input_length r.2.2.2,
          s.readings + 2⟩ := by
  obtain ⟨tokens, kv_cache, timings, rng, readings⟩ := s
  cases use_kv_cache with
  | false =>
    simp only [timed_forward, forward, TimedState.erase, Bool.false_eq_true, if_false]
    -- with no cache every pass is a prefill
    cases model.prefill rt.scalars tokens (none : Option (Cache α cfg rows)) with
    | error e => rfl
    | ok r => simp [measure_inference_ms, TimedState.charge, elapsed, Except.map, pure, Except.pure]
  | true =>
    cases kv_cache with
    | none => rfl
    | some kv_cache =>
      simp only [timed_forward, forward, TimedState.erase, if_true]
      by_cases hfirst : tokens.length = input_length
      · rw [if_pos hfirst, if_pos hfirst]
        cases model.prefill rt.scalars tokens (some kv_cache) with
        | error e => rfl
        | ok r =>
          simp [measure_inference_ms, TimedState.charge, elapsed, Except.map, pure, Except.pure,
            hfirst]
      · rw [if_neg hfirst, if_neg hfirst]
        by_cases hnil : tokens = []
        · rw [dif_pos hnil, dif_pos hnil]
          rfl
        · rw [dif_neg hnil, dif_neg hnil]
          cases model.decode rt.scalars (tokens.getLast hnil) (tokens.length - 1) kv_cache with
          | error e => rfl
          | ok r =>
            simp [measure_inference_ms, TimedState.charge, elapsed, Except.map, pure, Except.pure,
              hfirst]

/-- So is the iteration. -/
theorem timed_body_eq (s : TimedState α cfg σ rows) :
    timed_body clock rt model use_kv_cache input_length s =
      (generate_body rt model use_kv_cache input_length s.erase).map
        (Loop.map_step (s.after clock use_kv_cache input_length)) := by
  unfold timed_body generate_body
  rw [timed_forward_eq]
  cases forward rt model use_kv_cache input_length s.erase with
  | error e => rfl
  | ok r =>
    simp only [Except.map, Except.ok_bind]
    show (poll_token_from_logits rt r.2.1 s.rng >>= _) =
      Except.map _ (poll_token_from_logits rt r.2.1 s.rng >>= _)
    cases poll_token_from_logits rt r.2.1 s.rng with
    | error e => rfl
    | ok p =>
      simp only [Except.ok_bind]
      split <;> rfl

/-- The timed loop. -/
def timed_loop (max_total_tokens : Nat) : Loop Error (TimedState α cfg σ max_total_tokens) where
  cond s := s.all_tokens.length < max_total_tokens
  body := timed_body clock rt model use_kv_cache input_length
  measure s := max_total_tokens - s.all_tokens.length
  decreases := by
    intro s s' hc hb
    have hlt : s.all_tokens.length < max_total_tokens := by simpa using hc
    rw [timed_body_eq] at hb
    cases hbody : generate_body rt model use_kv_cache input_length s.erase with
    | error e =>
      rw [hbody] at hb
      cases hb
    | ok r =>
      rw [hbody] at hb
      cases r with
      | done t => cases hb
      | yield t =>
        cases hb
        have hlen : t.all_tokens.length = s.all_tokens.length + 1 := generate_body_length hbody
        show max_total_tokens - t.all_tokens.length < max_total_tokens - s.all_tokens.length
        omega

end timed

section run

variable (clock : Nat → ℚ) (rt : Runtime α cfg σ) (model : GPT2 α cfg) (use_kv_cache : Bool)

/-- The local variables before the loop. -/
def timed_start (rows : Nat) (input_tokens : List (Token cfg)) (rng : σ) :
    TimedState α cfg σ rows where
  all_tokens := input_tokens
  kv_cache := if use_kv_cache then some (rt.empty rows) else none
  timings := {}
  rng := rng
  readings := 0

/-- The local variables after the loop. -/
def timed_generate_tokens (input_tokens : List (Token cfg)) (max_new_tokens : Nat) (rng : σ) :
    Except Error
      (TimedState α cfg σ (max_total_tokens cfg input_tokens.length max_new_tokens)) :=
  (timed_loop clock rt model use_kv_cache input_tokens.length _).run
    (timed_start rt use_kv_cache _ input_tokens rng)

/-- **Measuring changes nothing**: without its milliseconds a timed run is the
    run, whether it returns or raises. -/
theorem timed_run_erases (input_tokens : List (Token cfg)) (max_new_tokens : Nat) (rng : σ) :
    (timed_generate_tokens clock rt model use_kv_cache input_tokens max_new_tokens rng).map
        TimedState.erase =
      generate_tokens rt model use_kv_cache input_tokens max_new_tokens rng := by
  refine (Loop.run_map TimedState.erase (fun s => rfl) ?_
    (timed_start rt use_kv_cache _ input_tokens rng)).symm
  intro s
  show generate_body rt model use_kv_cache input_tokens.length s.erase =
    (timed_body clock rt model use_kv_cache input_tokens.length s).map _
  rw [timed_body_eq]
  cases generate_body rt model use_kv_cache input_tokens.length s.erase with
  | error e => rfl
  | ok r => cases r <;> rfl

end run

/-! ## Section 4: The milliseconds add up -/

/-- The time of those of the first `n` iterations that `p` holds for. -/
def spent (clock : Nat → ℚ) (p : Nat → Prop) [DecidablePred p] (n : Nat) : ℚ :=
  ∑ i ∈ Finset.range n, if p i then elapsed clock (2 * i) else 0

section spent

variable {clock : Nat → ℚ} (hclock : Monotone clock) (p : Nat → Prop) [DecidablePred p]

include hclock in
theorem elapsed_nonneg (readings : Nat) : 0 ≤ elapsed clock readings := by
  have hle : clock readings ≤ clock (readings + 1) := hclock (Nat.le_succ readings)
  unfold elapsed
  linarith

include hclock in
theorem spent_nonneg (n : Nat) : 0 ≤ spent clock p n := by
  apply Finset.sum_nonneg
  intro i _
  split
  · exact elapsed_nonneg hclock _
  · exact le_refl 0

theorem spent_eq_zero {n : Nat} (h : ∀ i < n, ¬ p i) : spent clock p n = 0 := by
  apply Finset.sum_eq_zero
  intro i hi
  exact if_neg (h i (Finset.mem_range.mp hi))

/-- The iterations are either of the two kinds. -/
theorem spent_add_spent (n : Nat) :
    spent clock p n + spent clock (fun i => ¬ p i) n = spent clock (fun _ => True) n := by
  unfold spent
  rw [← Finset.sum_add_distrib]
  apply Finset.sum_congr rfl
  intro i _
  by_cases hp : p i <;> simp [hp]

include hclock in
/-- All iterations take at most the time from the first reading to the last. -/
theorem spent_le (n : Nat) :
    spent clock (fun _ => True) n ≤ (clock (2 * n - 1) - clock 0) * 1000 := by
  induction n with
  | zero => simp [spent]
  | succ n ih =>
    have hlast : spent clock (fun _ => True) (n + 1) =
        spent clock (fun _ => True) n + elapsed clock (2 * n) := by
      unfold spent
      rw [Finset.sum_range_succ, if_pos trivial]
    have hgap : clock (2 * n - 1) ≤ clock (2 * n) := hclock (Nat.sub_le _ _)
    have hend : 2 * (n + 1) - 1 = 2 * n + 1 := by omega
    rw [hlast, hend, elapsed]
    linarith

end spent

/-- Iteration `i` is a decode. -/
def IsDecode (use_kv_cache : Bool) (i : Nat) : Prop := use_kv_cache ∧ i ≠ 0

instance (use_kv_cache : Bool) : DecidablePred (IsDecode use_kv_cache) :=
  fun i => inferInstanceAs (Decidable (use_kv_cache = true ∧ i ≠ 0))

/-- The time so far, by kind, after as many iterations as there are new tokens. -/
structure Charged (clock : Nat → ℚ) (use_kv_cache : Bool) (input_length : Nat)
    (s : TimedState α cfg σ rows) : Prop where
  readings : s.readings = 2 * (s.all_tokens.length - input_length)
  prefill_ms : s.timings.prefill_ms =
    spent clock (fun i => ¬ IsDecode use_kv_cache i) (s.all_tokens.length - input_length)
  decode_ms : s.timings.decode_ms =
    spent clock (IsDecode use_kv_cache) (s.all_tokens.length - input_length)

omit [Field α] in
/-- One more token, and the time of its iteration. -/
theorem Charged.after {clock : Nat → ℚ} {use_kv_cache : Bool} {input_length : Nat}
    {s : TimedState α cfg σ rows} (h : Charged clock use_kv_cache input_length s)
    (hle : input_length ≤ s.all_tokens.length) {s' : LoopState α cfg σ rows}
    (hlen : s'.all_tokens.length = s.all_tokens.length + 1) :
    Charged clock use_kv_cache input_length (s.after clock use_kv_cache input_length s') := by
  have hnew : s'.all_tokens.length - input_length = s.all_tokens.length - input_length + 1 := by
    omega
  -- the iteration is a decode in both accounts or in neither
  have hkind : IsDecode use_kv_cache (s.all_tokens.length - input_length) ↔
      use_kv_cache ∧ s.all_tokens.length ≠ input_length := by
    unfold IsDecode
    rw [ne_eq, Nat.sub_eq_zero_iff_le]
    constructor
    · rintro ⟨huse, hnot⟩
      exact ⟨huse, fun heq => hnot heq.le⟩
    · rintro ⟨huse, hne⟩
      exact ⟨huse, by omega⟩
  constructor
  · show s.readings + 2 = 2 * (s'.all_tokens.length - input_length)
    rw [h.readings, hnew, Nat.mul_succ]
  · show s.timings.prefill_ms + _ = spent _ _ (s'.all_tokens.length - input_length)
    rw [h.prefill_ms, hnew, spent, spent, Finset.sum_range_succ, h.readings]
    simp only [hkind, ite_not]
  · show s.timings.decode_ms + _ = spent _ _ (s'.all_tokens.length - input_length)
    rw [h.decode_ms, hnew, spent, spent, Finset.sum_range_succ, h.readings]
    simp only [hkind]

/-- What the timings of `n` new tokens say, on a clock with these readings. -/
structure TimingsAccount (clock : Nat → ℚ) (use_kv_cache : Bool) (n : Nat)
    (timings : MeasuredTimings) : Prop where
  calls_eq : timings.toGenerationTimings = calls use_kv_cache n
  prefill_ms_nonneg : 0 ≤ timings.prefill_ms
  decode_ms_nonneg : 0 ≤ timings.decode_ms
  /-- The clock is read twice for each token. -/
  total_le : timings.total_ms ≤ (clock (2 * n - 1) - clock 0) * 1000
  average_prefill : timings.average_prefill_ms * timings.prefill_calls = timings.prefill_ms
  average_decode : timings.average_decode_ms * timings.decode_calls = timings.decode_ms
  uncached : use_kv_cache = false → timings.decode_ms = 0

/-- An average is of the calls made; without calls there is no time. -/
theorem average_mul {ms : ℚ} {n : Nat} (h : n = 0 → ms = 0) :
    (if n ≠ 0 then ms / n else 0) * n = ms := by
  by_cases hn : n = 0
  · rw [h hn, hn]
    simp
  · rw [if_pos hn]
    exact div_mul_cancel₀ ms (Nat.cast_ne_zero.mpr hn)

theorem account_of_charged {clock : Nat → ℚ} (hclock : Monotone clock) {use_kv_cache : Bool}
    {n : Nat} {timings : MeasuredTimings}
    (hcalls : timings.toGenerationTimings = calls use_kv_cache n)
    (hprefill : timings.prefill_ms = spent clock (fun i => ¬ IsDecode use_kv_cache i) n)
    (hdecode : timings.decode_ms = spent clock (IsDecode use_kv_cache) n) :
    TimingsAccount clock use_kv_cache n timings := by
  have hprefill_calls : timings.prefill_calls = if use_kv_cache then min n 1 else n :=
    congrArg GenerationTimings.prefill_calls hcalls
  have hdecode_calls : timings.decode_calls = if use_kv_cache then n - 1 else 0 :=
    congrArg GenerationTimings.decode_calls hcalls
  have huncached : use_kv_cache = false → timings.decode_ms = 0 := by
    rintro rfl
    rw [hdecode]
    exact spent_eq_zero _ fun i _ hi => by cases hi.1
  constructor
  · exact hcalls
  · rw [hprefill]
    exact spent_nonneg hclock _ n
  · rw [hdecode]
    exact spent_nonneg hclock _ n
  · rw [MeasuredTimings.total_ms, hprefill, hdecode, add_comm, spent_add_spent]
    exact spent_le hclock n
  · apply average_mul
    intro hzero
    have hn : n = 0 := by
      rw [hprefill_calls] at hzero
      split at hzero <;> omega
    rw [hprefill, hn]
    rfl
  · apply average_mul
    intro hzero
    cases use_kv_cache with
    | false => exact huncached rfl
    | true =>
      -- the only iteration there may be is the prefill
      rw [hdecode]
      refine spent_eq_zero _ fun i hi hdec => hdec.2 ?_
      have hn : n - 1 = 0 := hdecode_calls.symm.trans hzero
      omega
  · exact huncached

/-- A timed run of a non-empty prompt, on a clock that does not run backwards: it
    is the run without its milliseconds, and they account for it. -/
def TimedRun (clock : Nat → ℚ) (rt : Runtime α cfg σ) (model : GPT2 α cfg) (use_kv_cache : Bool)
    (input_tokens : List (Token cfg)) (max_new_tokens : Nat) (rng : σ) : Prop :=
  ∃ s, timed_generate_tokens clock rt model use_kv_cache input_tokens max_new_tokens rng = .ok s ∧
    generate_tokens rt model use_kv_cache input_tokens max_new_tokens rng = .ok s.erase ∧
    input_tokens.length ≤ s.all_tokens.length ∧
    TimingsAccount clock use_kv_cache (s.all_tokens.length - input_tokens.length) s.timings

/-- The timed loop returns, and its time has been charged. -/
theorem timed_run_charged (clock : Nat → ℚ) (rt : Runtime α cfg σ) (model : GPT2 α cfg)
    (use_kv_cache : Bool) (input_tokens : List (Token cfg)) (hpos : 0 < input_tokens.length)
    (max_new_tokens : Nat) (rng : σ) :
    ∃ s, timed_generate_tokens clock rt model use_kv_cache input_tokens max_new_tokens rng =
        .ok s ∧ Charged clock use_kv_cache input_tokens.length s := by
  refine Loop.run_rule
    (fun s => LoopInv rt model use_kv_cache input_tokens.length s.erase ∧
      Charged clock use_kv_cache input_tokens.length s) _ ?_ (fun s hs _ => hs.2) ?_
  · rintro s ⟨hinv, hcharged⟩ hc
    have hlt : s.all_tokens.length < _ := of_decide_eq_true hc
    obtain ⟨t, hrun, htokens, -, -, hinv'⟩ :=
      body_spec rt model use_kv_cache hpos hinv hlt (Nat.min_le_left _ _)
    have hlen : t.all_tokens.length = s.all_tokens.length + 1 := by
      rw [htokens, List.length_append, List.length_singleton]
    -- the measured iteration is the plain one, and its time is charged
    have hcharged' := hcharged.after hinv.prompt_le hlen
    refine ⟨_, (timed_body_eq clock rt model use_kv_cache input_tokens.length s).trans
      (by rw [hrun]; rfl), ?_⟩
    split
    · exact hcharged'
    · exact ⟨hinv', hcharged'⟩
  · refine ⟨loop_start_inv rt model use_kv_cache input_tokens rng, ?_⟩
    have hzero : (timed_start rt use_kv_cache
        (max_total_tokens cfg input_tokens.length max_new_tokens) input_tokens
          rng).all_tokens.length - input_tokens.length = 0 := Nat.sub_self _
    constructor <;> rw [hzero] <;> rfl

/-- **The timings account for the run**: for every non-empty prompt, in both modes. -/
theorem timings_account (clock : Nat → ℚ) (hclock : Monotone clock) (rt : Runtime α cfg σ)
    (model : GPT2 α cfg) (use_kv_cache : Bool) (input_tokens : List (Token cfg))
    (hprompt : input_tokens ≠ []) (max_new_tokens : Nat) (rng : σ) :
    TimedRun clock rt model use_kv_cache input_tokens max_new_tokens rng := by
  have hpos : 0 < input_tokens.length := List.length_pos_of_ne_nil hprompt
  obtain ⟨t, ht, output, hadded, -⟩ :=
    generate_tokens_progress rt model use_kv_cache input_tokens max_new_tokens rng hpos
  obtain ⟨s, hs, hcharged⟩ :=
    timed_run_charged clock rt model use_kv_cache input_tokens hpos max_new_tokens rng
  -- the counts are those of the run without the clock
  have herase : s.erase = t := by
    have hmap := timed_run_erases clock rt model use_kv_cache input_tokens max_new_tokens rng
    rw [hs, ht] at hmap
    exact Except.ok.inj hmap
  have htokens : s.all_tokens = input_tokens ++ output := by
    rw [← hadded.tokens, ← herase]
  have hcalls : s.timings.toGenerationTimings = calls use_kv_cache output.length := by
    rw [← hadded.timings, ← herase]
  have hnew : s.all_tokens.length - input_tokens.length = output.length := by
    rw [htokens, List.length_append, Nat.add_sub_cancel_left]
  refine ⟨s, hs, ?_, ?_, ?_⟩
  · rw [herase]
    exact ht
  · rw [htokens, List.length_append]
    exact Nat.le_add_right _ _
  · rw [hnew]
    refine account_of_charged hclock hcalls ?_ ?_
    · rw [hcharged.prefill_ms, hnew]
    · rw [hcharged.decode_ms, hnew]

/-- A clock that goes one second further with each reading. -/
theorem timings_account_tiny :
    TimedRun (fun readings => readings) tiny_runtime tiny_model true [(0 : Fin 2)] 3 0 :=
  timings_account (fun readings => readings) Nat.mono_cast tiny_runtime tiny_model true
    [(0 : Fin 2)] (by simp) 3 0

end KVCache
