import BuildMyOwnX.KVCache.GenerateContract
import BuildMyOwnX.Server.Bookkeeping
import BuildMyOwnX.Server.PromptText

/-! # The Calls that a Request Starts

    The two endpoints of `server.py` on the generation loop, with a log of the
    token lists that the calls of `generate_with_metadata` start from.

    `/v1/responses` never starts from nothing: `build_prompt` refuses blank text
    (`responses_outcome`). `/v1/completions` has no such check. Where a request
    denotes no empty text it starts from tokens too (`completions_outcome`), and
    otherwise it does not: exactly the requests whose prompts are all encoded to
    something, and are at least one, do (`completions_started_iff`).
-/

namespace Server

open KVCache (GenerationResult Runtime Token)

/-! ## Section 1: The endpoints -/

variable {α : Type} [Field α] {cfg : KVCache.Config} {ρ φ : Type}

/-- How an exception of the loop is shown. -/
def exception_name : KVCache.Error → String
  | .index_error => "IndexError"
  | .assertion_error => "AssertionError"
  | .size_mismatch | .ambiguous_view | .uninitialised => "RuntimeError"

/-- A loaded model: the random state of its sampler, and the log. -/
def loaded_model (rt : Runtime α cfg ρ) (model : KVCache.GPT2 α cfg) (use_kv_cache : Bool)
    (decode : List Int → String) : GPT2 (ρ × List (List (Token cfg))) where
  decode := decode
  generate_with_metadata prompt max_new_tokens := do
    let (rng, log) ← get
    let log := log ++ [rt.tokenizer.encode prompt]
    match KVCache.generate_with_metadata rt model use_kv_cache prompt max_new_tokens rng with
    | .ok (result, rng) =>
      set (rng, log)
      return result
    | .error e =>
      set (rng, log)
      throw (.exception (exception_name e))

/-- `POST /v1/completions`. -/
def completions {σ : Type} (get_model : String → Except String (GPT2 σ))
    (request : CompletionsCreateRequest φ) (uuid_hex : String) (now : Nat) :
    Handler σ (CompletionsCreateResponse ⊕ StreamingResponse) :=
  if request.stream then
    Sum.inr <$> stream_legacy_completion get_model request uuid_hex now
  else
    Sum.inl <$> run_legacy_completion get_model request uuid_hex now

/-- `Field(default=None, ge=1, le=512)`. -/
def ValidMaxTokens (max_tokens : Option Nat) : Prop := ∀ m ∈ max_tokens, 1 ≤ m ∧ m ≤ 512

structure ResponsesCreateRequest.Valid (payload : ResponsesCreateRequest φ) : Prop where
  max_output_tokens : ValidMaxTokens payload.max_output_tokens

structure CompletionsCreateRequest.Valid (request : CompletionsCreateRequest φ) : Prop where
  max_tokens : ValidMaxTokens request.max_tokens
  n : 1 ≤ request.n ∧ request.n ≤ 8

/-! ## Section 2: Outcomes -/

variable {β : Type}

/-- The request is refused with one of some statuses, before the model is called. -/
def Refused (status : Nat → Prop) (handler : Handler (ρ × List (List (Token cfg))) β)
    (rng : ρ) : Prop :=
  ∃ status_code detail, status status_code ∧
    StateExcept.run handler (rng, []) = (.error (.http_exception status_code detail), (rng, []))

/-- At least one call is made, and every call starts from at least one token. -/
def Started (handler : Handler (ρ × List (List (Token cfg))) β) (rng : ρ) : Prop :=
  let log := (StateExcept.run handler (rng, [])).2.2
  log ≠ [] ∧ ∀ tokens ∈ log, tokens ≠ []

/-- As `Started`, and the request is answered. -/
def Answered (handler : Handler (ρ × List (List (Token cfg))) β) (rng : ρ) : Prop :=
  ∃ response rng' log, StateExcept.run handler (rng, []) = (.ok response, (rng', log)) ∧
    log ≠ [] ∧ ∀ tokens ∈ log, tokens ≠ []

theorem Answered.started {handler : Handler (ρ × List (List (Token cfg))) β} {rng : ρ}
    (h : Answered handler rng) : Started handler rng := by
  obtain ⟨response, rng', log, hrun, hlog⟩ := h
  unfold Started
  rw [hrun]
  exact hlog

/-- A handler that answers, and then computes its response. -/
theorem Answered.bind {γ : Type} {handler : Handler (ρ × List (List (Token cfg))) β} {rng : ρ}
    (h : Answered handler rng) {f : β → Handler (ρ × List (List (Token cfg))) γ}
    (hf : ∀ b, ∃ c, f b = pure c) : Answered (handler >>= f) rng := by
  obtain ⟨response, rng', log, hrun, hlog⟩ := h
  obtain ⟨response', hpure⟩ := hf response
  refine ⟨response', rng', log, ?_, hlog⟩
  rw [StateExcept.run_bind_ok hrun, hpure, StateExcept.run_pure]

/-- An exception before anything else. -/
theorem refused_lift {status : Nat → Prop} {status_code : Nat} {detail : String}
    (hstatus : status status_code) {γ : Type}
    (f : γ → Handler (ρ × List (List (Token cfg))) β) (rng : ρ) :
    Refused status
      (liftM (.error (.http_exception status_code detail) : Except Raised γ) >>= f) rng :=
  ⟨status_code, detail, hstatus, rfl⟩

theorem Refused.bind {γ : Type} {status : Nat → Prop}
    {handler : Handler (ρ × List (List (Token cfg))) β} {rng : ρ}
    (h : Refused status handler rng) (f : β → Handler (ρ × List (List (Token cfg))) γ) :
    Refused status (handler >>= f) rng := by
  obtain ⟨status_code, detail, hstatus, hrun⟩ := h
  refine ⟨status_code, detail, hstatus, ?_⟩
  rw [StateExcept.run_bind, hrun]

/-! ## Section 3: One call and many -/

section calls

variable (rt : Runtime α cfg ρ) (model : KVCache.GPT2 α cfg) (use_kv_cache : Bool)
  (decode : List Int → String)

/-- A call is logged whether it returns or not. -/
theorem run_call (prompt : String) (max_new_tokens : Nat) (rng : ρ)
    (log : List (List (Token cfg))) :
    StateExcept.run ((loaded_model rt model use_kv_cache decode).generate_with_metadata prompt
        max_new_tokens) (rng, log) =
      match KVCache.generate_with_metadata rt model use_kv_cache prompt max_new_tokens rng with
      | .ok (result, rng') => (.ok result, (rng', log ++ [rt.tokenizer.encode prompt]))
      | .error e =>
        (.error (.exception (exception_name e)), (rng, log ++ [rt.tokenizer.encode prompt])) := by
  have hget : StateExcept.run (get : Handler (ρ × List (List (Token cfg))) _) (rng, log) =
      (.ok (rng, log), (rng, log)) := rfl
  unfold loaded_model
  dsimp only
  rw [StateExcept.run_bind_ok hget]
  dsimp only
  cases KVCache.generate_with_metadata rt model use_kv_cache prompt max_new_tokens rng with
  | error e => rfl
  | ok r => rfl

/-- A call that starts from some token returns. -/
theorem call_ok {prompt : String} (h : rt.tokenizer.encode prompt ≠ []) (max_new_tokens : Nat)
    (rng : ρ) (log : List (List (Token cfg))) :
    ∃ result rng', StateExcept.run ((loaded_model rt model use_kv_cache
        decode).generate_with_metadata prompt max_new_tokens) (rng, log) =
      (.ok result, (rng', log ++ [rt.tokenizer.encode prompt])) := by
  obtain ⟨s, hs, -⟩ := KVCache.generate_tokens_progress rt model use_kv_cache
    (rt.tokenizer.encode prompt) max_new_tokens rng (List.length_pos_of_ne_nil h)
  refine ⟨KVCache.generation_result rt (rt.tokenizer.encode prompt) s, s.rng, ?_⟩
  rw [run_call, KVCache.generate_with_metadata_ok hs]

/-- So do many, one after another. -/
theorem calls_ok {prompts : List String} (h : ∀ prompt ∈ prompts, rt.tokenizer.encode prompt ≠ [])
    (max_new_tokens : Nat) (rng : ρ) (log : List (List (Token cfg))) :
    ∃ results rng', StateExcept.run (prompts.mapM fun prompt => (loaded_model rt model
        use_kv_cache decode).generate_with_metadata prompt max_new_tokens) (rng, log) =
      (.ok results, (rng', log ++ prompts.map rt.tokenizer.encode)) := by
  induction prompts generalizing rng log with
  | nil => exact ⟨[], rng, by rw [List.mapM_nil, List.map_nil, List.append_nil]; rfl⟩
  | cons prompt prompts ih =>
    obtain ⟨result, rng₁, hcall⟩ := call_ok rt model use_kv_cache decode
      (h prompt List.mem_cons_self) max_new_tokens rng log
    obtain ⟨results, rng₂, hcalls⟩ := ih (fun p hp => h p (List.mem_cons_of_mem _ hp)) rng₁
      (log ++ [rt.tokenizer.encode prompt])
    refine ⟨result :: results, rng₂, ?_⟩
    rw [List.mapM_cons, StateExcept.run_bind_ok hcall, StateExcept.run_bind_ok hcalls,
      StateExcept.run_pure, List.map_cons, List.append_assoc, List.singleton_append]

/-- The log after a call and then some more. -/
theorem log_cons (prompt : String) (prompts : List String) (max_new_tokens : Nat) (rng : ρ)
    (log : List (List (Token cfg))) :
    (StateExcept.run ((prompt :: prompts).mapM fun prompt => (loaded_model rt model use_kv_cache
        decode).generate_with_metadata prompt max_new_tokens) (rng, log)).2.2 =
      match KVCache.generate_with_metadata rt model use_kv_cache prompt max_new_tokens rng with
      | .ok (_, rng') =>
        (StateExcept.run (prompts.mapM fun prompt => (loaded_model rt model use_kv_cache
          decode).generate_with_metadata prompt max_new_tokens)
          (rng', log ++ [rt.tokenizer.encode prompt])).2.2
      | .error _ => log ++ [rt.tokenizer.encode prompt] := by
  rw [List.mapM_cons, StateExcept.run_bind, run_call]
  cases KVCache.generate_with_metadata rt model use_kv_cache prompt max_new_tokens rng with
  | error e => rfl
  | ok r => exact congrArg Prod.snd (StateExcept.run_bind_pure_state _ _ _)

theorem log_grows (prompts : List String) (max_new_tokens : Nat) (rng : ρ)
    {log : List (List (Token cfg))} {tokens : List (Token cfg)} (h : tokens ∈ log) :
    tokens ∈ (StateExcept.run (prompts.mapM fun prompt => (loaded_model rt model
      use_kv_cache decode).generate_with_metadata prompt max_new_tokens) (rng, log)).2.2 := by
  induction prompts generalizing rng log with
  | nil => exact h
  | cons prompt prompts ih =>
    rw [log_cons]
    have hmem : tokens ∈ log ++ [rt.tokenizer.encode prompt] := List.mem_append_left _ h
    cases KVCache.generate_with_metadata rt model use_kv_cache prompt max_new_tokens rng with
    | error e => exact hmem
    | ok r => exact ih r.2 hmem

/-- A call that starts from nothing is reached, and logged. -/
theorem calls_from_nothing {prompts : List String}
    (h : ∃ prompt ∈ prompts, rt.tokenizer.encode prompt = []) (max_new_tokens : Nat) (rng : ρ)
    (log : List (List (Token cfg))) :
    [] ∈ (StateExcept.run (prompts.mapM fun prompt => (loaded_model rt model
      use_kv_cache decode).generate_with_metadata prompt max_new_tokens) (rng, log)).2.2 := by
  induction prompts generalizing rng log with
  | nil =>
    obtain ⟨prompt, hmem, -⟩ := h
    cases hmem
  | cons prompt prompts ih =>
    rw [log_cons]
    by_cases hprompt : rt.tokenizer.encode prompt = []
    · have hmem : [] ∈ log ++ [rt.tokenizer.encode prompt] := by
        rw [hprompt]
        exact List.mem_append_right _ List.mem_cons_self
      cases KVCache.generate_with_metadata rt model use_kv_cache prompt max_new_tokens rng with
      | error e => exact hmem
      | ok r => exact log_grows rt model use_kv_cache decode prompts max_new_tokens r.2 hmem
    · -- this one returns, so the call is among the others
      obtain ⟨s, hs, -⟩ := KVCache.generate_tokens_progress rt model use_kv_cache
        (rt.tokenizer.encode prompt) max_new_tokens rng (List.length_pos_of_ne_nil hprompt)
      rw [KVCache.generate_with_metadata_ok hs]
      obtain ⟨p, hmem, hp⟩ := h
      rcases List.mem_cons.mp hmem with rfl | hmem
      · exact absurd hp hprompt
      · exact ih ⟨p, hmem, hp⟩ _ _

end calls

/-! ## Section 4: The outcomes of a request -/

/-- The model of a request does not load. -/
def LoadFails {M : Type} (get_model : String → Except String M) (model_name : String) : Prop :=
  ∃ exc, get_model (PyString.strip model_name) = .error exc

/-- The model of a request is the given one, if it loads. -/
def LoadsAs {M : Type} (get_model : String → Except String M) (model_name : String) (m : M) :
    Prop :=
  ∀ m', get_model (PyString.strip model_name) = .ok m' → m' = m

theorem get_requested_model_cases {M : Type} (get_model : String → Except String M)
    (failure model_name : String) :
    (∃ m, get_requested_model get_model failure model_name = .ok m ∧
      get_model (PyString.strip model_name) = .ok m) ∨
    ∃ status_code detail, get_requested_model get_model failure model_name =
        .error (.http_exception status_code detail) ∧
      (status_code = 422 ∨ (status_code = 502 ∧ LoadFails get_model model_name)) := by
  by_cases hname : PyString.strip model_name = ""
  · right
    refine ⟨422, "`model` cannot be empty.", ?_, Or.inl rfl⟩
    unfold get_requested_model
    simp only [if_pos hname]
  · cases hmodel : get_model (PyString.strip model_name) with
    | ok m => exact Or.inl ⟨m, get_requested_model_ok hname hmodel, rfl⟩
    | error exc =>
      right
      refine ⟨502, failure ++ " `" ++ PyString.strip model_name ++ "`: " ++ exc, ?_,
        Or.inr ⟨rfl, exc, hmodel⟩⟩
      unfold get_requested_model
      simp only [if_neg hname, hmodel]

section outcomes

variable {rt : Runtime α cfg ρ} {model : KVCache.GPT2 α cfg} {use_kv_cache : Bool}
  {decode : List Int → String}
  {get_model : String → Except String (GPT2 (ρ × List (List (Token cfg))))}

/-- `/v1/responses`: refused, or answered from at least one token. -/
theorem responses_outcome [One φ] (hencode : ∀ text, text ≠ "" → rt.tokenizer.encode text ≠ [])
    (as_dict : KVCache.GenerationTimings → Entries φ) {payload : ResponsesCreateRequest φ}
    (hmodel : LoadsAs get_model payload.model (loaded_model rt model use_kv_cache decode))
    (response_hex message_hex : String) (now : Nat) (rng : ρ) :
    Refused (fun status => status = 422 ∨ (status = 501 ∧ payload.stream = true) ∨
        (status = 502 ∧ LoadFails get_model payload.model))
      (run_openai_compatible_generation as_dict get_model payload response_hex message_hex now)
      rng ∨
    Answered
      (run_openai_compatible_generation as_dict get_model payload response_hex message_hex now)
      rng := by
  unfold run_openai_compatible_generation
  by_cases hstream : payload.stream = true
  · left
    rw [response_prompt, if_pos hstream]
    exact refused_lift (Or.inr (Or.inl ⟨rfl, hstream⟩)) _ rng
  rw [response_prompt, if_neg hstream]
  by_cases hblank : AllBlank payload
  · left
    rw [(build_prompt_error_iff payload).mpr hblank]
    exact refused_lift (Or.inl rfl) _ rng
  obtain ⟨prompt, hprompt⟩ := built_prompt payload hblank
  rw [hprompt.build, StateExcept.lift_ok_bind]
  rcases get_requested_model_cases get_model "Failed to load model" payload.model with
    ⟨m, hm, hloaded⟩ | ⟨status_code, detail, herror, hstatus⟩
  · right
    rw [hm, hmodel m hloaded, StateExcept.lift_ok_bind]
    obtain ⟨result, rng', hcall⟩ := call_ok rt model use_kv_cache decode
      (hencode prompt hprompt.nonempty) (response_max_output_tokens payload) rng []
    refine ⟨_, rng', [rt.tokenizer.encode prompt], StateExcept.run_bind_ok hcall _, ?_, ?_⟩
    · exact List.cons_ne_nil _ _
    · intro tokens htokens
      rw [List.mem_singleton.mp htokens]
      exact hencode prompt hprompt.nonempty
  · left
    rw [herror]
    exact refused_lift (hstatus.imp_right Or.inr) _ rng

/-- The response that `completions` makes of the choices. -/
theorem completions_eq (request : CompletionsCreateRequest φ) (uuid_hex : String) (now : Nat) :
    completions get_model request uuid_hex now =
      generate_completion_choices get_model request >>= fun r => pure
        (if request.stream then
          .inr (streaming_response ("cmpl_" ++ uuid_hex) now request.model r.1)
        else
          .inl (completions_response ("cmpl_" ++ uuid_hex) now request.model r.1 r.2)) := by
  unfold completions stream_legacy_completion run_legacy_completion
  split <;> rw [map_bind] <;> rfl

/-- The choices of the denoted prompts, from the loaded model. -/
theorem choices_eq {request : CompletionsCreateRequest φ} {prompts : List String}
    (hmodel : get_requested_model get_model "Failed to load model" request.model =
      .ok (loaded_model rt model use_kv_cache decode))
    (hprompts : normalize_completion_prompts request.prompt decode = .ok prompts) :
    generate_completion_choices get_model request =
      (schedule request.n prompts).mapM (fun prompt => (loaded_model rt model use_kv_cache
        decode).generate_with_metadata prompt (max_output_tokens request)) >>= fun results =>
          pure (choices_of request.suffix results, usage_of results) := by
  have hdecode : normalize_completion_prompts request.prompt
      (loaded_model rt model use_kv_cache decode).decode = .ok prompts := hprompts
  rw [generate_completion_choices, hmodel, StateExcept.lift_ok_bind, hdecode,
    StateExcept.lift_ok_bind, generate_choices_eq]

theorem mem_schedule {n : Nat} (hn : 1 ≤ n) {prompts : List String} {prompt : String} :
    prompt ∈ schedule n prompts ↔ prompt ∈ prompts := by
  unfold schedule
  rw [List.mem_flatMap]
  constructor
  · rintro ⟨p, hp, hmem⟩
    rw [(List.mem_replicate.mp hmem).2]
    exact hp
  · intro hp
    exact ⟨prompt, hp, List.mem_replicate.mpr ⟨by omega, rfl⟩⟩

/-- Prompts with tokens are answered. -/
theorem choices_answered {request : CompletionsCreateRequest φ} (hn : 1 ≤ request.n)
    {prompts : List String}
    (hmodel : get_requested_model get_model "Failed to load model" request.model =
      .ok (loaded_model rt model use_kv_cache decode))
    (hprompts : normalize_completion_prompts request.prompt decode = .ok prompts)
    (hne : prompts ≠ []) (htokens : ∀ prompt ∈ prompts, rt.tokenizer.encode prompt ≠ [])
    (rng : ρ) : Answered (generate_completion_choices get_model request) rng := by
  have hscheduled : ∀ prompt ∈ schedule request.n prompts, rt.tokenizer.encode prompt ≠ [] :=
    fun prompt hmem => htokens prompt ((mem_schedule hn).mp hmem)
  obtain ⟨results, rng', hcalls⟩ := calls_ok rt model use_kv_cache decode hscheduled
    (max_output_tokens request) rng []
  rw [choices_eq hmodel hprompts]
  refine ⟨_, rng', _, StateExcept.run_bind_ok hcalls _, ?_, ?_⟩
  · obtain ⟨prompt, hmem⟩ := List.exists_mem_of_ne_nil _ hne
    intro hempty
    rw [List.nil_append, List.map_eq_nil_iff] at hempty
    have hmem' := (mem_schedule hn).mpr hmem
    rw [hempty] at hmem'
    cases hmem'
  · intro tokens htokens
    rw [List.nil_append] at htokens
    obtain ⟨prompt, hmem, rfl⟩ := List.mem_map.mp htokens
    exact hscheduled prompt hmem

/-- **Exactly** the requests with some prompt, and tokens in every prompt, start. -/
theorem completions_started_iff {request : CompletionsCreateRequest φ} (hn : 1 ≤ request.n)
    {prompts : List String}
    (hmodel : get_requested_model get_model "Failed to load model" request.model =
      .ok (loaded_model rt model use_kv_cache decode))
    (hprompts : normalize_completion_prompts request.prompt decode = .ok prompts)
    (uuid_hex : String) (now : Nat) (rng : ρ) :
    Started (completions get_model request uuid_hex now) rng ↔
      prompts ≠ [] ∧ ∀ prompt ∈ prompts, rt.tokenizer.encode prompt ≠ [] := by
  constructor
  · intro hstarted
    unfold Started at hstarted
    rw [completions_eq, StateExcept.run_bind_pure_state, choices_eq hmodel hprompts,
      StateExcept.run_bind_pure_state] at hstarted
    constructor
    · rintro rfl
      exact hstarted.1 rfl
    · intro prompt hmem hempty
      have hnothing := calls_from_nothing rt model use_kv_cache decode
        ⟨prompt, (mem_schedule hn).mpr hmem, hempty⟩ (max_output_tokens request) rng []
      exact hstarted.2 [] hnothing rfl
  · rintro ⟨hne, htokens⟩
    rw [completions_eq]
    exact ((choices_answered hn hmodel hprompts hne htokens rng).bind fun _ => ⟨_, rfl⟩).started

/-- The value is no prompt, or it denotes some prompts and none of them is empty. -/
def SaysSomething (decode : List Int → String) (prompt : Json φ) : Prop :=
  ∀ prompts, Denotes decode prompt prompts → prompts ≠ [] ∧ ∀ text ∈ prompts, text ≠ ""

/-- `/v1/completions`: refused, or answered from at least one token. -/
theorem completions_outcome (hencode : ∀ text, text ≠ "" → rt.tokenizer.encode text ≠ [])
    {request : CompletionsCreateRequest φ} (hn : 1 ≤ request.n)
    (hmodel : LoadsAs get_model request.model (loaded_model rt model use_kv_cache decode))
    (hnonempty : SaysSomething decode request.prompt) (uuid_hex : String) (now : Nat) (rng : ρ) :
    Refused (fun status => status = 422 ∨ (status = 502 ∧ LoadFails get_model request.model))
      (completions get_model request uuid_hex now) rng ∨
    Answered (completions get_model request uuid_hex now) rng := by
  rw [completions_eq]
  rcases get_requested_model_cases get_model "Failed to load model" request.model with
    ⟨m, hm, hloaded⟩ | ⟨status_code, detail, herror, hstatus⟩
  · rw [hmodel m hloaded] at hm
    by_cases hsupported : Supported request.prompt
    · right
      obtain ⟨prompts, hprompts, hdenotes, -⟩ := normalize_supported decode hsupported
      obtain ⟨hne, htexts⟩ := hnonempty prompts hdenotes
      exact (choices_answered hn hm hprompts hne (fun text hmem => hencode text (htexts text hmem))
        rng).bind fun _ => ⟨_, rfl⟩
    · left
      apply Refused.bind
      have hdecode : normalize_completion_prompts request.prompt
          (loaded_model rt model use_kv_cache decode).decode = _ :=
        normalize_unsupported decode hsupported
      rw [generate_completion_choices, hm, StateExcept.lift_ok_bind, hdecode]
      exact refused_lift (Or.inl rfl) _ rng
  · left
    apply Refused.bind
    rw [generate_completion_choices, herror]
    exact refused_lift hstatus _ rng

/-- **Generation starts on tokens**: a valid request to either endpoint, to
    `/v1/completions` one that says something, is refused before the model is
    called or answered from at least one token in every call. -/
theorem generation_has_tokens [One φ]
    (hencode : ∀ text, text ≠ "" → rt.tokenizer.encode text ≠ [])
    (as_dict : KVCache.GenerationTimings → Entries φ) (now : Nat) (rng : ρ) :
    (∀ (payload : ResponsesCreateRequest φ) response_hex message_hex, payload.Valid →
      LoadsAs get_model payload.model (loaded_model rt model use_kv_cache decode) →
      Refused (fun status => status = 422 ∨ (status = 501 ∧ payload.stream = true) ∨
          (status = 502 ∧ LoadFails get_model payload.model))
        (run_openai_compatible_generation as_dict get_model payload response_hex message_hex now)
        rng ∨
      Answered
        (run_openai_compatible_generation as_dict get_model payload response_hex message_hex now)
        rng) ∧
    (∀ (request : CompletionsCreateRequest φ) uuid_hex, request.Valid →
      LoadsAs get_model request.model (loaded_model rt model use_kv_cache decode) →
      SaysSomething decode request.prompt →
      Refused (fun status => status = 422 ∨ (status = 502 ∧ LoadFails get_model request.model))
        (completions get_model request uuid_hex now) rng ∨
      Answered (completions get_model request uuid_hex now) rng) := by
  constructor
  · intro payload response_hex message_hex _ hmodel
    exact responses_outcome hencode as_dict hmodel response_hex message_hex now rng
  · intro request uuid_hex hvalid hmodel hnonempty
    exact completions_outcome hencode hvalid.n.1 hmodel hnonempty uuid_hex now rng

end outcomes

/-! ## Section 5: A small instance -/

/-- One token for each character. -/
def char_runtime : Runtime Rat KVCache.tiny_config Nat :=
  { KVCache.tiny_runtime with
    tokenizer :=
      { encode := fun text => text.toList.map fun _ => (0 : Fin 2)
        decode := fun tokens => String.ofList (tokens.map fun _ => 'a')
        eos_token_id := some 1 } }

def char_model : GPT2 (Nat × List (List (Token KVCache.tiny_config))) :=
  loaded_model char_runtime KVCache.tiny_model true fun ids => String.ofList (ids.map fun _ => 'a')

/-- What the tokenizer of a model is expected to do. -/
structure TokenizerLaws (rt : Runtime α cfg ρ) (decode : List Int → String) : Prop where
  encode_text : ∀ text, text ≠ "" → rt.tokenizer.encode text ≠ []
  encode_empty : rt.tokenizer.encode "" = []
  decode_empty : decode [] = ""

theorem char_runtime_laws :
    TokenizerLaws char_runtime fun ids => String.ofList (ids.map fun _ => 'a') := by
  refine ⟨?_, rfl, rfl⟩
  intro text htext hencode
  exact htext (String.toList_eq_nil_iff.mp (List.map_eq_nil_iff.mp hencode))

/-- One text, to either endpoint. -/
theorem generation_has_tokens_hi :
    let payload : ResponsesCreateRequest Rat := { model := "gpt2", input := some (.str "hi") }
    let request : CompletionsCreateRequest Rat :=
      { model := "gpt2", prompt := .str "hi", max_tokens := some 2, n := 2 }
    (Refused (fun status => status = 422 ∨ (status = 501 ∧ payload.stream = true) ∨
        (status = 502 ∧ LoadFails (fun _ => .ok char_model) payload.model))
      (run_openai_compatible_generation (fun _ => []) (fun _ => .ok char_model) payload "0" "1" 0)
      0 ∨
    Answered
      (run_openai_compatible_generation (fun _ => []) (fun _ => .ok char_model) payload "0" "1" 0)
      0) ∧
    (Refused (fun status =>
        status = 422 ∨ (status = 502 ∧ LoadFails (fun _ => .ok char_model) request.model))
      (completions (fun _ => .ok char_model) request "0" 0) 0 ∨
    Answered (completions (fun _ => .ok char_model) request "0" 0) 0) := by
  intro payload request
  have hmodel : ∀ model_name, LoadsAs (fun _ => .ok char_model) model_name char_model := by
    intro model_name m h
    exact (Except.ok.inj h).symm
  have hvalid : request.Valid := by
    refine ⟨?_, by decide, by decide⟩
    intro m hm
    cases hm
    decide
  have hsays : SaysSomething (fun ids => String.ofList (ids.map fun _ => 'a'))
      request.prompt := by
    intro prompts hdenotes
    cases hdenotes
    simp
  constructor
  · exact (generation_has_tokens char_runtime_laws.encode_text (fun _ => []) 0 0).1 payload
      "0" "1" ⟨fun m hm => by cases hm⟩ (hmodel _)
  · exact (generation_has_tokens char_runtime_laws.encode_text
      (fun _ => ([] : Entries Rat)) 0 0).2 request "0" hvalid (hmodel _) hsays

/-- Refused with a status of 4xx before the model is called, or started. -/
def RefusedOrStarted {β : Type} (handler : Handler (ρ × List (List (Token cfg))) β) (rng : ρ) :
    Prop :=
  Refused (fun status => 400 ≤ status ∧ status < 500) handler rng ∨ Started handler rng

/-- A stream is refused with a 501. -/
theorem stream_not_refused_with_4xx :
    let payload : ResponsesCreateRequest Rat :=
      { model := "gpt2", input := some (.str "hi"), stream := true }
    TokenizerLaws char_runtime (fun ids => String.ofList (ids.map fun _ => 'a')) ∧
      payload.Valid ∧
      ¬ RefusedOrStarted (run_openai_compatible_generation (fun _ => []) (fun _ => .ok char_model)
        payload "0" "1" 0) 0 := by
  intro payload
  refine ⟨char_runtime_laws, ⟨fun m hm => by cases hm⟩, ?_⟩
  have hrun : StateExcept.run (run_openai_compatible_generation (fun _ => [])
      (fun _ => .ok char_model) payload "0" "1" 0) (0, []) =
      (.error (.http_exception 501 "Streaming is not supported by this local implementation."),
        (0, [])) := rfl
  rintro (⟨status_code, detail, hstatus, hrun'⟩ | hstarted)
  · rw [hrun] at hrun'
    cases hrun'
    omega
  · unfold Started at hstarted
    rw [hrun] at hstarted
    exact hstarted.1 rfl

/-- The empty prompt of `/v1/completions` is not refused, and its call starts from
    nothing. -/
theorem empty_prompt_not_started (request : CompletionsCreateRequest φ) (hn : 1 ≤ request.n)
    (hprompt : request.prompt = .str "")
    (hname : PyString.strip request.model ≠ "") (uuid_hex : String) (now rng : Nat) :
    ¬ Started (completions (fun _ => .ok char_model) request uuid_hex now) rng := by
  have hprompts : normalize_completion_prompts request.prompt
      (fun ids => String.ofList (ids.map fun _ => 'a')) = .ok [""] := by
    rw [hprompt]
    rfl
  rw [completions_started_iff hn (get_requested_model_ok hname rfl) hprompts]
  rintro ⟨-, htokens⟩
  exact htokens "" List.mem_cons_self char_runtime_laws.encode_empty

end Server
