import BuildMyOwnX.Framework.Interleave
import BuildMyOwnX.KVCache.GenerateContract

/-! # Generations that Run at the Same Time

    The servers run requests in threads. A call of `generate_with_metadata` has
    its tokens, its cache and its timings to itself; what it shares with the
    calls in other threads is the random state that the sampler draws from. A
    turn of a call is one test of the loop condition and, if it holds, one
    iteration, in which only the draw touches the random state.

    Calls may be of different models. Whatever the schedule, each of them meets
    the contract of the generation loop, and all draw the same tokens with the
    cache and without (`interleaved_generations`).
-/

namespace KVCache

variable {α : Type} [Field α] {σ : Type}

/-! ## Section 1: Calls -/

/-- A call that has been made: the loaded model and the arguments. -/
structure Call (α σ : Type) where
  cfg : Config
  rt : Runtime α cfg σ
  model : GPT2 α cfg
  input_tokens : List (Token cfg)
  max_new_tokens : Nat

/-- The rows of the cache that the call allocates. -/
abbrev Call.rows (call : Call α σ) : Nat :=
  max_total_tokens call.cfg call.input_tokens.length call.max_new_tokens

/-- How far a call has got. -/
inductive Call.Progress (call : Call α σ)
  | running (s : LoopState α call.cfg σ call.rows)
  | returned (s : LoopState α call.cfg σ call.rows)
  | raised (e : Error)

/-- The call before its first turn. The random state of its own is never read. -/
def Call.start (use_kv_cache : Bool) (call : Call α σ) (rng : σ) : call.Progress :=
  .running (loop_start call.rt use_kv_cache call.rows call.input_tokens rng)

/-- The call and the random state after an iteration. -/
def Call.after (call : Call α σ) (rng : σ) :
    Except Error (ForInStep (LoopState α call.cfg σ call.rows)) → call.Progress × σ
  | .ok (.yield s) => (.running s, s.rng)
  | .ok (.done s) => (.returned s, s.rng)
  -- nothing has been drawn yet when the iteration raises
  | .error e => (.raised e, rng)

def Call.turn (use_kv_cache : Bool) (call : Call α σ) : call.Progress → σ → call.Progress × σ
  | .running s, rng =>
    if s.all_tokens.length < call.rows then
      call.after rng (generate_body call.rt call.model use_kv_cache call.input_tokens.length
        { s with rng := rng })
    else
      (.returned { s with rng := rng }, rng)
  | p, rng => (p, rng)

section calls

variable {ι : Type} [DecidableEq ι] (use_kv_cache : Bool) (calls : ι → Call α σ)

def start_calls (rng : σ) : Interleave.Config (fun i => (calls i).Progress) σ where
  locals i := (calls i).start use_kv_cache rng
  shared := rng

/-- The calls after the turns of a schedule. -/
def run_calls (rng : σ) (schedule : List ι) :
    Interleave.Config (fun i => (calls i).Progress) σ :=
  Interleave.run (fun i => (calls i).turn use_kv_cache) (start_calls use_kv_cache calls rng)
    schedule

end calls

/-! ## Section 2: One turn -/

variable {call : Call α σ} {use_kv_cache : Bool}

theorem Call.turn_running {s : LoopState α call.cfg σ call.rows} {rng : σ}
    (hlt : s.all_tokens.length < call.rows) :
    call.turn use_kv_cache (.running s) rng =
      call.after rng (generate_body call.rt call.model use_kv_cache call.input_tokens.length
        { s with rng := rng }) := if_pos hlt

theorem Call.turn_exit {s : LoopState α call.cfg σ call.rows} {rng : σ}
    (hge : ¬ s.all_tokens.length < call.rows) :
    call.turn use_kv_cache (.running s) rng = (.returned { s with rng := rng }, rng) := if_neg hge

/-- The invariants of the loop do not mention the random state. -/
theorem LoopInv.with_rng {cfg : Config} {rt : Runtime α cfg σ} {model : GPT2 α cfg}
    {input_length rows : Nat} {s : LoopState α cfg σ rows}
    (h : LoopInv rt model use_kv_cache input_length s) (rng : σ) :
    LoopInv rt model use_kv_cache input_length { s with rng := rng } :=
  ⟨h.prompt_le, h.cached⟩

theorem ProgressInv.with_rng {cfg : Config} {rt : Runtime α cfg σ} {model : GPT2 α cfg}
    {input_tokens : List (Token cfg)} {rows : Nat} {s : LoopState α cfg σ rows}
    (h : ProgressInv rt model use_kv_cache input_tokens s) (rng : σ) :
    ProgressInv rt model use_kv_cache input_tokens { s with rng := rng } := by
  obtain ⟨output, hadded, hno_eos⟩ := h.progress
  exact ⟨h.inv.with_rng rng, output, ⟨hadded.tokens, hadded.timings, hadded.room⟩, hno_eos⟩

/-- Where the loop condition fails there is no room left. -/
theorem ProgressInv.exit {cfg : Config} {rt : Runtime α cfg σ} {model : GPT2 α cfg}
    {input_tokens : List (Token cfg)} {rows : Nat} {s : LoopState α cfg σ rows}
    (h : ProgressInv rt model use_kv_cache input_tokens s)
    (hge : ¬ s.all_tokens.length < rows) : ProgressPost rt use_kv_cache input_tokens s := by
  obtain ⟨output, hadded, hno_eos⟩ := h.progress
  exact ⟨output, hadded, Or.inl ⟨hno_eos, Nat.le_of_not_lt hge⟩⟩

/-- The invariant of a call: that of its loop while it runs, and the postcondition once it
    has returned. It does not raise. -/
def Call.Inv (use_kv_cache : Bool) (call : Call α σ) : call.Progress → Prop
  | .running s => ProgressInv call.rt call.model use_kv_cache call.input_tokens s
  | .returned s => ProgressPost call.rt use_kv_cache call.input_tokens s
  | .raised _ => False

theorem Call.turn_inv (hprompt : call.input_tokens ≠ []) (p : call.Progress) (rng : σ)
    (hp : call.Inv use_kv_cache p) : call.Inv use_kv_cache (call.turn use_kv_cache p rng).1 := by
  cases p with
  | raised e => exact hp
  | returned s => exact hp
  | running s =>
    by_cases hlt : s.all_tokens.length < call.rows
    · have hinv := ProgressInv.with_rng hp rng
      obtain ⟨r, hbody, hr⟩ := body_progress call.rt call.model use_kv_cache
        (List.length_pos_of_ne_nil hprompt) hinv hlt (Nat.min_le_left _ _)
      rw [turn_running hlt, hbody]
      cases r with
      | yield s' => exact hr
      | done s' => exact hr
    · rw [turn_exit hlt]
      exact (ProgressInv.with_rng hp rng).exit hlt

/-- Two runs of a call with the same tokens so far, one with the cache and one without. -/
def Call.SameTokens (call : Call α σ) : call.Progress → call.Progress → Prop
  | .running s, .running t => s.all_tokens = t.all_tokens ∧
      LoopInv call.rt call.model true call.input_tokens.length s ∧
      LoopInv call.rt call.model false call.input_tokens.length t
  | .returned s, .returned t => s.all_tokens = t.all_tokens
  | _, _ => False

theorem Call.turn_same_tokens (hprompt : call.input_tokens ≠ []) (p q : call.Progress) (rng : σ)
    (h : call.SameTokens p q) :
    call.SameTokens (call.turn true p rng).1 (call.turn false q rng).1 ∧
      (call.turn true p rng).2 = (call.turn false q rng).2 := by
  match p, q, h with
  | .returned s, .returned t, h => exact ⟨h, rfl⟩
  | .running s, .running t, h =>
    obtain ⟨htokens, hcached, huncached⟩ := h
    by_cases hlt : s.all_tokens.length < call.rows
    · -- both draw from the random state that is shared now
      have hst : SameDraws call.rt call.model call.input_tokens.length
          { s with rng := rng } { t with rng := rng } :=
        ⟨htokens, rfl, hcached.with_rng rng, huncached.with_rng rng⟩
      obtain ⟨r, r', hr, hr', hrel⟩ := body_same_draws call.rt call.model
        (List.length_pos_of_ne_nil hprompt) hst hlt (Nat.min_le_left _ _)
      rw [turn_running hlt, turn_running (htokens ▸ hlt), hr, hr']
      match r, r', hrel with
      | .yield s', .yield t', hrel => exact ⟨⟨hrel.tokens, hrel.cached, hrel.uncached⟩, hrel.rng⟩
      | .done s', .done t', hrel => exact ⟨hrel.tokens, hrel.rng⟩
    · rw [turn_exit hlt, turn_exit (htokens ▸ hlt)]
      exact ⟨htokens, rfl⟩

/-- The turns that a call may still take. -/
def Call.turns_left (call : Call α σ) : call.Progress → Nat
  | .running s => call.rows - s.all_tokens.length + 1
  | .returned _ => 0
  | .raised _ => 0

theorem Call.turn_turns_left (p : call.Progress) (rng : σ) :
    call.turns_left (call.turn use_kv_cache p rng).1 ≤ call.turns_left p - 1 := by
  cases p with
  | raised e => exact Nat.zero_le _
  | returned s => exact Nat.zero_le _
  | running s =>
    by_cases hlt : s.all_tokens.length < call.rows
    · rw [turn_running hlt]
      cases hbody : generate_body call.rt call.model use_kv_cache call.input_tokens.length
          { s with rng := rng } with
      | error e => exact Nat.zero_le _
      | ok r =>
        cases r with
        | done s' => exact Nat.zero_le _
        | yield s' =>
          -- a call that goes on has one token more, so there is less room
          have hlength : s'.all_tokens.length = s.all_tokens.length + 1 :=
            generate_body_length (s := { s with rng := rng }) hbody
          show call.rows - s'.all_tokens.length + 1 ≤ call.rows - s.all_tokens.length + 1 - 1
          omega
    · rw [turn_exit hlt]
      exact Nat.zero_le _

/-- Turns of a call without any of another are the loop. -/
theorem Call.turns_eq_loop (call : Call α σ) {use_kv_cache : Bool}
    (s : LoopState α call.cfg σ call.rows) (rng : σ) {s' : LoopState α call.cfg σ call.rows}
    (h : (generate_loop call.rt call.model use_kv_cache call.input_tokens.length call.rows).run
      { s with rng := rng } = .ok s') :
    ∃ n, (fun pr : call.Progress × σ => call.turn use_kv_cache pr.1 pr.2)^[n]
      (.running s, rng) = (.returned s', s'.rng) := by
  -- by induction on the room that is left
  induction hμ : call.rows - s.all_tokens.length using Nat.strong_induction_on
    generalizing s rng with
  | _ μ ih =>
    by_cases hlt : s.all_tokens.length < call.rows
    · have hc : (generate_loop call.rt call.model use_kv_cache call.input_tokens.length
          call.rows).cond { s with rng := rng } := decide_eq_true hlt
      cases hbody : generate_body call.rt call.model use_kv_cache call.input_tokens.length
          { s with rng := rng } with
      | error e =>
        rw [Loop.run_error hc hbody] at h
        cases h
      | ok r =>
        cases r with
        | done t =>
          rw [Loop.run_done hc hbody] at h
          cases h
          refine ⟨1, ?_⟩
          show call.turn use_kv_cache (.running s) rng = _
          rw [Call.turn_running hlt, hbody]
          rfl
        | yield t =>
          have hlength : t.all_tokens.length = s.all_tokens.length + 1 :=
            generate_body_length (s := { s with rng := rng }) hbody
          rw [Loop.run_yield hc hbody] at h
          obtain ⟨n, hn⟩ := ih _ (by omega) t t.rng h rfl
          refine ⟨n + 1, ?_⟩
          rw [Function.iterate_succ_apply]
          show _^[n] (call.turn use_kv_cache (.running s) rng) = _
          rw [Call.turn_running hlt, hbody]
          exact hn
    · have hc : ¬ (generate_loop call.rt call.model use_kv_cache call.input_tokens.length
          call.rows).cond { s with rng := rng } := by simpa [generate_loop] using hlt
      rw [Loop.run_exit hc] at h
      cases h
      refine ⟨1, ?_⟩
      show call.turn use_kv_cache (.running s) rng = _
      rw [Call.turn_exit hlt]

/-! ## Section 3: Any schedule -/

section schedule

variable {ι : Type} [DecidableEq ι]

/-- A call under a schedule: it has not raised, it has returned if it had enough turns, and
    what it returns meets the contract. -/
structure CallKept (use_kv_cache : Bool) (call : Call α σ) (turns : Nat) (p : call.Progress) :
    Prop where
  never_raises : ∀ e, p ≠ .raised e
  returns : call.rows - call.input_tokens.length + 1 ≤ turns → ∃ s, p = .returned s
  contract : ∀ s, p = .returned s → ∃ output,
    GenerationContract call.rt use_kv_cache call.input_tokens call.max_new_tokens s.all_tokens
      output (generation_result call.rt call.input_tokens s)

theorem call_kept {calls : ι → Call α σ} (hprompts : ∀ i, (calls i).input_tokens ≠ [])
    (use_kv_cache : Bool) (rng : σ) (schedule : List ι) (i : ι) :
    CallKept use_kv_cache (calls i) (schedule.count i)
      ((run_calls use_kv_cache calls rng schedule).locals i) := by
  have hinv : (calls i).Inv use_kv_cache ((run_calls use_kv_cache calls rng schedule).locals i) :=
    Interleave.run_rule (c := start_calls use_kv_cache calls rng)
      (fun i => (calls i).Inv use_kv_cache)
      (fun i => loop_start_progress (calls i).rt (calls i).model use_kv_cache _ rng)
      (fun i p rng hp => Call.turn_inv (hprompts i) p rng hp) schedule i
  have hturns : (calls i).turns_left ((run_calls use_kv_cache calls rng schedule).locals i) ≤
      (calls i).rows - (calls i).input_tokens.length + 1 - schedule.count i :=
    Interleave.run_turns (c := start_calls use_kv_cache calls rng)
      (fun i => (calls i).turns_left)
      (fun i p rng => Call.turn_turns_left p rng) schedule i
  cases hp : (run_calls use_kv_cache calls rng schedule).locals i with
  | raised e =>
    rw [hp] at hinv
    exact hinv.elim
  | running s =>
    -- a turn is left to it, so it has not had enough of them
    rw [hp] at hturns
    refine ⟨?_, ?_, ?_⟩
    · intro e he
      cases he
    · intro henough
      simp only [Call.turns_left] at hturns
      omega
    · intro s' hs'
      cases hs'
  | returned s =>
    rw [hp] at hinv
    refine ⟨?_, fun _ => ⟨s, rfl⟩, ?_⟩
    · intro e he
      cases he
    · intro s' hs'
      cases hs'
      exact contract_of_progress _ hinv

/-- A call that no other interrupts returns what `generate_tokens` returns. -/
theorem generate_tokens_alone (use_kv_cache : Bool) (calls : ι → Call α σ) (rng : σ) (i : ι)
    {s : LoopState α (calls i).cfg σ (calls i).rows}
    (h : generate_tokens (calls i).rt (calls i).model use_kv_cache (calls i).input_tokens
      (calls i).max_new_tokens rng = .ok s) :
    ∃ n, (run_calls use_kv_cache calls rng (List.replicate n i)).locals i = .returned s ∧
      (run_calls use_kv_cache calls rng (List.replicate n i)).shared = s.rng := by
  obtain ⟨n, hn⟩ := Call.turns_eq_loop (calls i)
    (loop_start (calls i).rt use_kv_cache (calls i).rows (calls i).input_tokens rng) rng h
  have hrun := Interleave.run_replicate (fun i => (calls i).turn use_kv_cache)
    (start_calls use_kv_cache calls rng) n i
  have hboth := hrun.trans hn
  exact ⟨n, congrArg Prod.fst hboth, congrArg Prod.snd hboth⟩

/-- **Interleaved generations**: under every schedule of any calls with tokens to start
    from, no call raises, each has returned after as many turns as it can need, what it
    returns meets the contract, and with the cache and without it every call has drawn the
    same tokens and the random state is the same. -/
theorem interleaved_generations (calls : ι → Call α σ)
    (hprompts : ∀ i, (calls i).input_tokens ≠ []) (rng : σ) (schedule : List ι) :
    (∀ use_kv_cache i, CallKept use_kv_cache (calls i) (schedule.count i)
      ((run_calls use_kv_cache calls rng schedule).locals i)) ∧
    (∀ i, (calls i).SameTokens ((run_calls true calls rng schedule).locals i)
      ((run_calls false calls rng schedule).locals i)) ∧
    (run_calls true calls rng schedule).shared = (run_calls false calls rng schedule).shared := by
  refine ⟨fun use_kv_cache i => call_kept hprompts use_kv_cache rng schedule i, ?_⟩
  refine Interleave.run_lockstep (c := start_calls true calls rng)
    (d := start_calls false calls rng) (fun i => (calls i).SameTokens) ?_ rfl ?_ schedule
  · intro i
    exact ⟨rfl, loop_start_inv _ _ true _ rng, loop_start_inv _ _ false _ rng⟩
  · intro i p q s h
    exact Call.turn_same_tokens (hprompts i) p q s h

/-- Two calls of three and of one token, turn by turn. -/
theorem interleaved_generations_two :
    let call (m : Nat) : Call Rat Nat := ⟨tiny_config, tiny_runtime, tiny_model, [(0 : Fin 2)], m⟩
    let calls (i : Bool) : Call Rat Nat := if i then call 3 else call 1
    (run_calls true calls 0 [true, false, true, false]).shared =
      (run_calls false calls 0 [true, false, true, false]).shared := by
  intro call calls
  have hprompts : ∀ i, (calls i).input_tokens ≠ [] := by
    intro i
    cases i <;> exact List.cons_ne_nil _ _
  exact (interleaved_generations calls hprompts 0 [true, false, true, false]).2.2

end schedule

end KVCache
