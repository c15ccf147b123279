import BuildMyOwnX.Config.RuntimeConfig
import BuildMyOwnX.Framework.Sessions
import BuildMyOwnX.KVCache.Sampling
import BuildMyOwnX.Server.StartedCalls

/-! # Sessions of the Server

    `create_app` of `server.py`: a runtime configuration, the models it loads and
    the endpoints, which answer one request after another. The models sample
    from one random state (`torch`'s), so a reply depends on all requests before
    it.

    The setting `kv_cache` is not observable (`kv_cache_unobservable`). Two
    servers that differ in it answer every sequence of requests alike, except
    for the timings and for the setting itself, which `/healthz` reports. The
    relation goes up from one generation (`modes_agree`) through the handlers,
    by the rules of `Related`, to a session.
-/

namespace Server

open KVCache (GenerationResult GenerationTimings Runtime SameResult)
open StateExcept (Related SameOutcome)

variable {α : Type} [Field α] {ρ φ : Type}

/-! ## Section 1: The application -/

/-- What `from_pretrained` makes of a name. -/
structure Checkpoint (α ρ : Type) where
  cfg : KVCache.Config
  rt : Runtime α cfg ρ
  model : KVCache.GPT2 α cfg
  decode : List Int → String

/-- A loaded `GPT2`. A call that raises has drawn nothing. -/
def served_model (use_kv_cache : Bool) (checkpoint : Checkpoint α ρ) : GPT2 ρ where
  decode := checkpoint.decode
  generate_with_metadata prompt max_new_tokens := do
    let rng ← get
    let (result, rng) ← match KVCache.generate_with_metadata checkpoint.rt checkpoint.model
        use_kv_cache prompt max_new_tokens rng with
      | .ok generation => pure generation
      | .error e => throw (.exception (exception_name e))
    set rng
    return result

/-- The state of the application that the handlers read. -/
structure App (ρ : Type) where
  runtime_config : Config.RuntimeConfig
  resolved_target_device : String
  get_model : String → Except String (GPT2 ρ)

/-- `create_app`, given what a name is loaded as on a device. -/
def create_app (runtime_config : Config.RuntimeConfig)
    (hub : (model_name target_device : String) → Except String (Checkpoint α ρ)) : App ρ where
  runtime_config := runtime_config
  resolved_target_device := runtime_config.target_device
  get_model model_name :=
    served_model runtime_config.kv_cache <$> hub model_name runtime_config.target_device

inductive Request (φ : Type)
  | healthz
  | responses (payload : ResponsesCreateRequest φ) (response_hex message_hex : String) (now : Nat)
  | completions (request : CompletionsCreateRequest φ) (uuid_hex : String) (now : Nat)

structure Health where
  status : String := "ok"
  kv_cache : Bool
  target_device : String
  resolved_target_device : String

inductive Response (φ : Type)
  | health (health : Health)
  | response (response : ResponsesCreateResponse φ)
  | completion (completion : CompletionsCreateResponse ⊕ StreamingResponse)

def App.healthz (app : App ρ) : Health where
  kv_cache := app.runtime_config.kv_cache
  target_device := app.runtime_config.target_device
  resolved_target_device := app.resolved_target_device

def App.handle [One φ] (app : App ρ) (as_dict : GenerationTimings → Entries φ) :
    Request φ → Handler ρ (Response φ)
  | .healthz => pure (.health app.healthz)
  | .responses payload response_hex message_hex now =>
    .response <$> run_openai_compatible_generation as_dict app.get_model payload response_hex
      message_hex now
  | .completions request uuid_hex now =>
    .completion <$> completions app.get_model request uuid_hex now

abbrev Reply (φ : Type) : Type := Except Raised (Response φ)

/-- The replies to a sequence of requests, each with the milliseconds that its
    generation takes, and the random state after it. -/
def App.session [One φ] (app : App ρ) :
    List (Request φ × (GenerationTimings → Entries φ)) → ρ → List (Reply φ) × ρ :=
  StateExcept.session fun request => app.handle request.2 request.1

/-- The requests of a session, computed from others. -/
theorem App.session_map [One φ] {κ : Type} (app : App ρ)
    (f : κ → Request φ × (GenerationTimings → Entries φ)) (requests : List κ) (rng : ρ) :
    app.session (requests.map f) rng =
      StateExcept.session (fun request => app.handle (f request).2 (f request).1) requests rng :=
  StateExcept.session_map _ f requests rng

/-! ## Section 2: What differs -/

/-- A response without its timings. -/
def ResponsesCreateResponse.without_timings (response : ResponsesCreateResponse φ) :
    ResponsesCreateResponse φ :=
  { response with metadata := response.metadata.filter (·.1 ≠ "generation_timings") }

/-- Responses that differ at most in their timings and the reported setting. -/
def Response.Same : Response φ → Response φ → Prop
  | .health h, .health h' => { h with kv_cache := h'.kv_cache } = h'
  | .response r, .response r' => r.without_timings = r'.without_timings
  | .completion r, .completion r' => r = r'
  | _, _ => False

/-- Models that decode alike and whose generations are related. -/
structure SameModel (model model' : GPT2 ρ) : Prop where
  decode : model.decode = model'.decode
  generate : ∀ prompt max_new_tokens, Related SameResult
    (model.generate_with_metadata prompt max_new_tokens)
    (model'.generate_with_metadata prompt max_new_tokens)

/-! ## Section 3: The handlers keep the relation -/

/-- The two modes of one checkpoint. -/
theorem served_model_same (use_kv_cache use_kv_cache' : Bool) (checkpoint : Checkpoint α ρ) :
    SameModel (served_model use_kv_cache checkpoint) (served_model use_kv_cache' checkpoint) := by
  refine ⟨rfl, ?_⟩
  intro prompt max_new_tokens rng
  have hmodes := KVCache.modes_agree checkpoint.rt checkpoint.model use_kv_cache use_kv_cache'
    prompt max_new_tokens rng
  have hget : StateExcept.run (get : Handler ρ ρ) rng = (.ok rng, rng) := rfl
  unfold served_model
  dsimp only
  rw [StateExcept.run_bind_ok hget, StateExcept.run_bind_ok hget]
  match hrun : KVCache.generate_with_metadata checkpoint.rt checkpoint.model use_kv_cache prompt
      max_new_tokens rng, hrun' : KVCache.generate_with_metadata checkpoint.rt checkpoint.model
      use_kv_cache' prompt max_new_tokens rng with
  | .ok (result, rng₁), .ok (result', rng₂) =>
    rw [hrun, hrun'] at hmodes
    exact hmodes
  -- both raise, and then nothing has been drawn
  | .error e, .error e' =>
    rw [hrun, hrun'] at hmodes
    exact ⟨congrArg (fun e => Raised.exception (exception_name e)) hmodes, rfl⟩
  | .ok _, .error _ =>
    rw [hrun, hrun'] at hmodes
    exact hmodes.elim
  | .error _, .ok _ =>
    rw [hrun, hrun'] at hmodes
    exact hmodes.elim

section handlers

variable {get_model get_model' : String → Except String (GPT2 ρ)}

theorem get_requested_model_same
    (hmodels : ∀ name, SameOutcome SameModel (get_model name) (get_model' name))
    (failure model_name : String) :
    SameOutcome SameModel (get_requested_model get_model failure model_name)
      (get_requested_model get_model' failure model_name) := by
  have hmodel := hmodels (PyString.strip model_name)
  unfold get_requested_model
  dsimp only
  split
  · exact rfl
  · revert hmodel
    cases get_model (PyString.strip model_name) <;> cases get_model' (PyString.strip model_name)
    case ok.ok => exact id
    case error.error exc exc' =>
      rintro rfl
      exact rfl
    case ok.error => exact False.elim
    case error.ok => exact False.elim

/-- Setting a key is not visible without it. -/
theorem filter_set_item (key : String) (value : Json φ) (entries : Entries φ) :
    (set_item key value entries).filter (·.1 ≠ key) = entries.filter (·.1 ≠ key) := by
  have hreplaced : (entries.map fun entry =>
      if entry.1 = key then (key, value) else entry).filter (·.1 ≠ key) =
        entries.filter (·.1 ≠ key) := by
    induction entries with
    | nil => rfl
    | cons entry entries ih =>
      rw [List.map_cons]
      by_cases hkey : entry.1 = key
      · rw [if_pos hkey, List.filter_cons_of_neg (by simp),
          List.filter_cons_of_neg (by simpa using hkey), ih]
      · rw [if_neg hkey, List.filter_cons_of_pos (by simpa using hkey),
          List.filter_cons_of_pos (by simpa using hkey), ih]
  unfold set_item
  split
  · exact hreplaced
  · rw [List.filter_append, List.filter_cons_of_neg (by simp), List.filter_nil, List.append_nil]

theorem responses_same [One φ]
    (hmodels : ∀ name, SameOutcome SameModel (get_model name) (get_model' name))
    (as_dict as_dict' : GenerationTimings → Entries φ) (payload : ResponsesCreateRequest φ)
    (response_hex message_hex : String) (now : Nat) :
    Related (fun response response' => response.without_timings = response'.without_timings)
      (run_openai_compatible_generation as_dict get_model payload response_hex message_hex now)
      (run_openai_compatible_generation as_dict' get_model' payload response_hex message_hex
        now) := by
  unfold run_openai_compatible_generation
  refine (Related.lift (SameOutcome.refl (response_prompt payload))).bind ?_
  rintro prompt _ rfl
  refine (Related.lift (get_requested_model_same hmodels _ payload.model)).bind ?_
  intro model model' hmodel
  refine (hmodel.generate prompt (response_max_output_tokens payload)).bind ?_
  intro generation generation' hgeneration
  apply Related.pure
  -- the timings are set in the metadata, under their own key
  unfold ResponsesCreateResponse.without_timings responses_response
  simp only [filter_set_item, hgeneration.output_text, hgeneration.prompt_tokens,
    hgeneration.output_tokens]

/-- Generations are related, so the choices made of them are equal. -/
theorem generate_choices_same {generate generate' : String → Handler ρ GenerationResult}
    (hgenerate : ∀ prompt, Related SameResult (generate prompt) (generate' prompt))
    (suffix : Option String) (n : Nat) (prompts : List String) :
    Related Eq (generate_choices generate suffix n prompts)
      (generate_choices generate' suffix n prompts) := by
  have hadd : ∀ prompt (t t' : Totals), t = t' →
      Related Eq (add_choice generate suffix prompt t) (add_choice generate' suffix prompt t') := by
    rintro prompt t _ rfl
    refine (hgenerate prompt).bind ?_
    intro generation generation' hgeneration
    apply Related.pure
    rw [hgeneration.output_text, hgeneration.prompt_tokens, hgeneration.output_tokens]
  unfold generate_choices
  refine Related.bind (R := Eq) ?_ ?_
  · -- the totals are equal before each generation, so they are after it
    refine Related.foldlM ?_ prompts rfl
    intro t t' prompt ht
    exact Related.foldlM (fun t t' _ ht => hadd prompt t t' ht) _ ht
  · rintro t _ rfl
    exact .pure rfl

theorem completion_choices_same
    (hmodels : ∀ name, SameOutcome SameModel (get_model name) (get_model' name))
    (request : CompletionsCreateRequest φ) :
    Related Eq (generate_completion_choices get_model request)
      (generate_completion_choices get_model' request) := by
  unfold generate_completion_choices
  refine (Related.lift (get_requested_model_same hmodels _ request.model)).bind ?_
  intro model model' hmodel
  rw [hmodel.decode]
  refine (Related.lift (SameOutcome.refl _)).bind ?_
  rintro prompts _ rfl
  exact generate_choices_same (fun prompt => hmodel.generate prompt _) request.suffix request.n
    prompts

theorem completions_same
    (hmodels : ∀ name, SameOutcome SameModel (get_model name) (get_model' name))
    (request : CompletionsCreateRequest φ) (uuid_hex : String) (now : Nat) :
    Related Eq (completions get_model request uuid_hex now)
      (completions get_model' request uuid_hex now) := by
  have hchoices := completion_choices_same hmodels request
  unfold completions
  split
  · refine Related.map (R := Eq) (hchoices.bind ?_) fun _ _ h => congrArg Sum.inr h
    rintro r _ rfl
    exact .pure rfl
  · refine Related.map (R := Eq) (hchoices.bind ?_) fun _ _ h => congrArg Sum.inl h
    rintro r _ rfl
    exact .pure rfl

end handlers

/-! ## Section 4: Sessions -/

/-- Two servers that differ in `kv_cache`, on one request. -/
theorem handle_same [One φ] (use_kv_cache use_kv_cache' : Bool) (target_device : String)
    (hub : (model_name target_device : String) → Except String (Checkpoint α ρ))
    (as_dict as_dict' : GenerationTimings → Entries φ) (request : Request φ) :
    Related Response.Same
      ((create_app { kv_cache := use_kv_cache, target_device } hub).handle as_dict request)
      ((create_app { kv_cache := use_kv_cache', target_device } hub).handle as_dict' request) := by
  have hmodels : ∀ name, SameOutcome SameModel
      (served_model use_kv_cache <$> hub name target_device)
      (served_model use_kv_cache' <$> hub name target_device) := by
    intro name
    cases hub name target_device with
    | error exc => exact rfl
    | ok checkpoint => exact served_model_same use_kv_cache use_kv_cache' checkpoint
  cases request with
  | healthz => exact .pure rfl
  | responses payload response_hex message_hex now =>
    exact (responses_same hmodels as_dict as_dict' payload response_hex message_hex now).map
      fun _ _ h => h
  | completions request uuid_hex now =>
    exact (completions_same hmodels request uuid_hex now).map fun _ _ h => h

/-- **`kv_cache` is not observable**: whatever the hub holds, two servers that
    differ in the setting answer every session alike, however long each of them
    takes, and leave the same random state. -/
theorem kv_cache_unobservable [One φ] (use_kv_cache use_kv_cache' : Bool) (target_device : String)
    (hub : (model_name target_device : String) → Except String (Checkpoint α ρ))
    (requests : List (Request φ × (GenerationTimings → Entries φ) ×
      (GenerationTimings → Entries φ))) (rng : ρ) :
    let session := (create_app { kv_cache := use_kv_cache, target_device } hub).session
      (requests.map fun r => (r.1, r.2.1)) rng
    let session' := (create_app { kv_cache := use_kv_cache', target_device } hub).session
      (requests.map fun r => (r.1, r.2.2)) rng
    List.Forall₂ (SameOutcome Response.Same) session.1 session'.1 ∧ session.2 = session'.2 := by
  dsimp only
  -- the two sessions have the same requests, with timings of their own
  rw [App.session_map, App.session_map]
  exact StateExcept.session_related (fun request =>
    handle_same use_kv_cache use_kv_cache' target_device hub request.2.1 request.2.2 request.1)
    requests rng

/-! ## Section 5: Refused requests -/

/-- The reply is an `HTTPException`. -/
def is_refusal {β : Type} : Except Raised β → Bool
  | .error (.http_exception _ _) => true
  | _ => false

/-- Raised by a model. -/
def FromModel (raised : Raised) : Prop := ∃ message, raised = .exception message

/-- A refusal has left the state alone. -/
def KeepsState {β : Type} (handler : Handler ρ β) : Prop :=
  ∀ rng status_code detail rng',
    handler.run rng = (.error (.http_exception status_code detail), rng') → rng' = rng

theorem KeepsState.of_model {β : Type} {handler : Handler ρ β}
    (h : StateExcept.OnlyRaises FromModel handler) : KeepsState handler := by
  intro rng status_code detail rng' hrun
  obtain ⟨message, hmessage⟩ := h rng _ rng' hrun
  cases hmessage

/-- What is checked first does not touch the state. -/
theorem KeepsState.lift_bind {β γ : Type} {e : Except Raised γ} {f : γ → Handler ρ β}
    (hf : ∀ c, e = .ok c → KeepsState (f c)) : KeepsState (liftM e >>= f) := by
  intro rng status_code detail rng' hrun
  rw [StateExcept.run_bind, StateExcept.run_lift] at hrun
  cases e with
  | ok c => exact hf c rfl rng status_code detail rng' hrun
  | error raised =>
    cases hrun
    rfl

theorem KeepsState.map {β γ : Type} {handler : Handler ρ β} (h : KeepsState handler)
    (f : β → γ) : KeepsState (f <$> handler) := by
  intro rng status_code detail rng' hrun
  rw [map_eq_pure_bind, StateExcept.run_bind] at hrun
  match hh : handler.run rng with
  | (.ok b, rng₁) =>
    rw [hh] at hrun
    cases hrun
  | (.error raised, rng₁) =>
    rw [hh] at hrun
    cases hrun
    exact h rng status_code detail _ hh

theorem KeepsState.refused {handler : Handler ρ (Response φ)} (h : KeepsState handler) {rng : ρ}
    (hrefused : is_refusal (handler.run rng).1) : (handler.run rng).2 = rng := by
  match hrun : handler.run rng with
  | (.error (.http_exception status_code detail), rng') =>
    exact h rng status_code detail rng' hrun
  | (.error (.exception message), rng') =>
    rw [hrun] at hrefused
    cases hrefused
  | (.ok response, rng') =>
    rw [hrun] at hrefused
    cases hrefused

theorem served_model_raises (use_kv_cache : Bool) (checkpoint : Checkpoint α ρ) (prompt : String)
    (max_new_tokens : Nat) : StateExcept.OnlyRaises FromModel
      ((served_model use_kv_cache checkpoint).generate_with_metadata prompt max_new_tokens) := by
  intro rng raised rng' hrun
  have hget : StateExcept.run (get : Handler ρ ρ) rng = (.ok rng, rng) := rfl
  unfold served_model at hrun
  dsimp only at hrun
  rw [StateExcept.run_bind_ok hget] at hrun
  cases hgenerate : KVCache.generate_with_metadata checkpoint.rt checkpoint.model use_kv_cache
      prompt max_new_tokens rng with
  | ok generation =>
    rw [hgenerate] at hrun
    cases hrun
  | error e =>
    rw [hgenerate] at hrun
    cases hrun
    exact ⟨_, rfl⟩

section refused

variable {get_model : String → Except String (GPT2 ρ)}

/-- The models that load raise nothing else. -/
def ModelsRaise (get_model : String → Except String (GPT2 ρ)) : Prop :=
  ∀ name model, get_model name = .ok model → ∀ prompt max_new_tokens,
    StateExcept.OnlyRaises FromModel (model.generate_with_metadata prompt max_new_tokens)

theorem ModelsRaise.requested (hmodels : ModelsRaise get_model) {failure model_name : String}
    {model : GPT2 ρ} (h : get_requested_model get_model failure model_name = .ok model)
    (prompt : String) (max_new_tokens : Nat) :
    StateExcept.OnlyRaises FromModel (model.generate_with_metadata prompt max_new_tokens) := by
  rcases get_requested_model_cases get_model failure model_name with
    ⟨m, hm, hloaded⟩ | ⟨status_code, detail, herror, -⟩
  · rw [hm] at h
    cases h
    exact hmodels _ _ hloaded prompt max_new_tokens
  · rw [herror] at h
    cases h

theorem responses_keeps_state [One φ] (hmodels : ModelsRaise get_model)
    (as_dict : GenerationTimings → Entries φ) (payload : ResponsesCreateRequest φ)
    (response_hex message_hex : String) (now : Nat) :
    KeepsState (run_openai_compatible_generation as_dict get_model payload response_hex message_hex
      now) := by
  unfold run_openai_compatible_generation
  apply KeepsState.lift_bind
  intro prompt _
  apply KeepsState.lift_bind
  intro model hmodel
  exact .of_model ((hmodels.requested hmodel prompt _).bind fun _ => .pure _)

theorem generate_choices_raises {generate : String → Handler ρ GenerationResult}
    (hgenerate : ∀ prompt, StateExcept.OnlyRaises FromModel (generate prompt))
    (suffix : Option String) (n : Nat) (prompts : List String) :
    StateExcept.OnlyRaises FromModel (generate_choices generate suffix n prompts) := by
  unfold generate_choices
  refine StateExcept.OnlyRaises.bind ?_ fun t => .pure _
  refine StateExcept.OnlyRaises.foldlM ?_ prompts _
  intro t prompt
  refine StateExcept.OnlyRaises.foldlM ?_ (List.range n) t
  intro t _
  exact (hgenerate prompt).bind fun _ => .pure _

theorem completion_choices_keeps_state (hmodels : ModelsRaise get_model)
    (request : CompletionsCreateRequest φ) :
    KeepsState (generate_completion_choices get_model request) := by
  unfold generate_completion_choices
  apply KeepsState.lift_bind
  intro model hmodel
  apply KeepsState.lift_bind
  intro prompts _
  exact .of_model
    (generate_choices_raises (fun prompt => hmodels.requested hmodel prompt _) _ _ _)

theorem completions_keeps_state (hmodels : ModelsRaise get_model)
    (request : CompletionsCreateRequest φ) (uuid_hex : String) (now : Nat) :
    KeepsState (completions get_model request uuid_hex now) := by
  have hchoices := completion_choices_keeps_state hmodels request
  unfold completions stream_legacy_completion run_legacy_completion
  split
  · rw [bind_pure_comp]
    exact (hchoices.map _).map _
  · rw [bind_pure_comp]
    exact (hchoices.map _).map _

end refused

theorem handle_keeps_state [One φ] (runtime_config : Config.RuntimeConfig)
    (hub : (model_name target_device : String) → Except String (Checkpoint α ρ))
    (as_dict : GenerationTimings → Entries φ) (request : Request φ) :
    KeepsState ((create_app runtime_config hub).handle as_dict request) := by
  -- whatever the hub holds, a model that loads raises nothing but its own exceptions
  have hmodels : ModelsRaise (create_app runtime_config hub).get_model := by
    intro name model hload
    unfold create_app at hload
    dsimp only at hload
    cases hhub : hub name runtime_config.target_device with
    | error exc =>
      rw [hhub] at hload
      cases hload
    | ok checkpoint =>
      rw [hhub] at hload
      cases hload
      exact served_model_raises runtime_config.kv_cache checkpoint
  cases request with
  | healthz =>
    intro rng status_code detail rng' hrun
    cases hrun
  | responses payload response_hex message_hex now =>
    exact (responses_keeps_state hmodels as_dict payload response_hex message_hex now).map _
  | completions request uuid_hex now =>
    exact (completions_keeps_state hmodels request uuid_hex now).map _

/-- **Refused requests leave no trace**: a session without the requests that it
    refuses has the other replies and the same random state. -/
theorem refused_leave_no_trace [One φ] (runtime_config : Config.RuntimeConfig)
    (hub : (model_name target_device : String) → Except String (Checkpoint α ρ))
    (requests : List (Request φ × (GenerationTimings → Entries φ))) (rng : ρ) :
    let app := create_app runtime_config hub
    let session := app.session requests rng
    let answered := (requests.zip session.1).filter fun exchange => !is_refusal exchange.2
    app.session (answered.map Prod.fst) rng = (answered.map Prod.snd, session.2) :=
  StateExcept.session_filter is_refusal
    (fun request _ hrefused => (handle_keeps_state runtime_config hub request.2 request.1).refused
      hrefused) requests rng

end Server
