import BuildMyOwnX.Framework.EventStream
import BuildMyOwnX.Framework.JsonRoundTrip
import BuildMyOwnX.Framework.PyString
import BuildMyOwnX.Framework.StateExcept
import BuildMyOwnX.KVCache.Generate

/-! # The Completions Endpoint

    `/v1/completions` of `server.py` and of `hf_server.py`: the prompts of a
    request are normalised, each is generated from `n` times, and the choices
    are sent as one response or as a stream of events.

    A handler runs on a state `σ`, which holds what the loaded models change
    (their random state), and may raise. The state is kept when it raises.
    What the clock and `uuid4` return are arguments. The two servers differ in
    the model they load and in what they pass to it; the rest of their code is
    the same and is stated once.
-/

namespace Server

open KVCache (GenerationResult)

/-! ## Section 1: Requests and responses -/

/-- What a handler raises. -/
inductive Raised
  | http_exception (status_code : Nat) (detail : String)
  /-- An exception of the model itself. -/
  | exception (message : String)
  deriving DecidableEq, Repr

abbrev Handler (σ : Type) : Type → Type := StateExcept Raised σ

/-- A request body; `φ` are the JSON numbers with a fraction. -/
structure CompletionsCreateRequest (φ : Type) where
  model : String
  prompt : Json φ
  max_tokens : Option Nat := none
  temperature : Option φ := none
  top_p : Option φ := none
  n : Nat := 1
  stream : Bool := false
  suffix : Option String := none

structure CompletionChoice where
  text : String
  index : Nat := 0
  finish_reason : String := "stop"
  deriving DecidableEq, Repr

structure CompletionUsage where
  prompt_tokens : Nat
  completion_tokens : Nat
  total_tokens : Nat
  deriving DecidableEq, Repr

structure CompletionsCreateResponse where
  id : String
  object : String := "text_completion"
  created : Nat
  model : String
  choices : List CompletionChoice
  usage : CompletionUsage
  deriving DecidableEq, Repr

/-- What the body of a `StreamingResponse` yields. -/
structure StreamingResponse where
  body : List String
  media_type : String
  deriving DecidableEq, Repr

variable {σ φ : Type}

/-! ## Section 2: Prompts -/

def as_string : Json φ → Option String
  | .str s => some s
  | _ => none

/-- `isinstance(item, int)`, which booleans satisfy. -/
def as_int : Json φ → Option Int
  | .int n => some n
  | .bool b => some (if b then 1 else 0)
  | _ => none

def as_int_list : Json φ → Option (List Int)
  | .list items => items.mapM as_int
  | _ => none

/-- `normalize_completion_prompts`, given the decoder of the model's tokenizer. -/
def normalize_completion_prompts (prompt : Json φ) (decode : List Int → String) :
    Except Raised (List String) :=
  -- an empty list is a list of strings, so the tests are in this order
  let unsupported : Except Raised (List String) :=
    .error (.http_exception 422 "Unsupported prompt format for this local completion endpoint.")
  match prompt with
  | .str s => .ok [s]
  | .list items =>
    match items.mapM as_string, items.mapM as_int, items.mapM as_int_list with
    | some texts, _, _ => .ok texts
    | none, some tokens, _ => .ok [decode tokens]
    | none, none, some lists => .ok (lists.map decode)
    | none, none, none => unsupported
  | _ => unsupported

/-- The model behind a name, or the text of the exception that loading it raised. -/
def get_requested_model {M : Type} (get_model : String → Except String M)
    (failure : String) (model_name : String) : Except Raised M :=
  let normalized_model_name := PyString.strip model_name
  if normalized_model_name = "" then
    .error (.http_exception 422 "`model` cannot be empty.")
  else
    match get_model normalized_model_name with
    | .ok model => .ok model
    | .error exc =>
      .error (.http_exception 502 (failure ++ " `" ++ normalized_model_name ++ "`: " ++ exc))

/-- A name that is not blank and loads. -/
theorem get_requested_model_ok {M : Type} {get_model : String → Except String M} {model : M}
    {failure model_name : String} (hname : PyString.strip model_name ≠ "")
    (hmodel : get_model (PyString.strip model_name) = .ok model) :
    get_requested_model get_model failure model_name = .ok model := by
  unfold get_requested_model
  simp only [if_neg hname, hmodel]

/-! ## Section 3: Choices -/

/-- `request.max_tokens or 64`. -/
def max_output_tokens (request : CompletionsCreateRequest φ) : Nat :=
  match request.max_tokens with
  | none => 64
  | some 0 => 64
  | some m => m

/-- The local variables of `generate_completion_choices`. -/
structure Totals where
  choices : List CompletionChoice := []
  total_input_tokens : Nat := 0
  total_output_tokens : Nat := 0
  choice_index : Nat := 0

/-- One generation and its choice. -/
def add_choice (generate : String → Handler σ GenerationResult) (suffix : Option String)
    (prompt : String) (t : Totals) : Handler σ Totals := do
  let generation ← generate prompt
  let text := match suffix with
    | none => generation.output_text
    | some suffix => generation.output_text ++ suffix
  return {
    choices := t.choices ++ [{ text := text, index := t.choice_index }]
    total_input_tokens := t.total_input_tokens + generation.prompt_tokens
    total_output_tokens := t.total_output_tokens + generation.output_tokens
    choice_index := t.choice_index + 1 }

/-- The loops over the prompts and the `n` choices of each. -/
def generate_choices (generate : String → Handler σ GenerationResult) (suffix : Option String)
    (n : Nat) (prompts : List String) : Handler σ (List CompletionChoice × CompletionUsage) := do
  let t ← prompts.foldlM (fun t prompt =>
    (List.range n).foldlM (fun t _ => add_choice generate suffix prompt t) t) {}
  return (t.choices, {
    prompt_tokens := t.total_input_tokens
    completion_tokens := t.total_output_tokens
    total_tokens := t.total_input_tokens + t.total_output_tokens })

/-- So far the choices have the indices `0, 1, ..., choice_index - 1`. -/
def Totals.Indexed (t : Totals) : Prop :=
  t.choices.map (·.index) = List.range t.choice_index

theorem add_choice_indexed {generate : String → Handler σ GenerationResult}
    {suffix : Option String} {prompt : String} {t t' : Totals} {s s' : σ} (ht : t.Indexed)
    (h : (add_choice generate suffix prompt t).run s = (.ok t', s')) : t'.Indexed := by
  obtain ⟨generation, s₁, -, hpure⟩ := StateExcept.bind_ok h
  rw [StateExcept.run_pure] at hpure
  cases hpure
  unfold Totals.Indexed at ht ⊢
  simp only [List.map_append, ht, List.map_singleton, List.range_succ]

/-- The indices of the choices are `0, 1, ...` without gap or repeat. -/
theorem generate_choices_index {generate : String → Handler σ GenerationResult}
    {suffix : Option String} {n : Nat} {prompts : List String} {choices : List CompletionChoice}
    {usage : CompletionUsage} {s s' : σ}
    (h : (generate_choices generate suffix n prompts).run s = (.ok (choices, usage), s')) :
    choices.map (·.index) = List.range choices.length := by
  obtain ⟨t, s₁, hloop, hpure⟩ := StateExcept.bind_ok h
  have hindexed : t.Indexed := by
    -- one invariant for the loop over the prompts and the loop inside it
    refine StateExcept.foldlM_rule Totals.Indexed hloop rfl ?_
    intro t₁ prompt s₁ t₂ s₂ ht₁ hinner
    refine StateExcept.foldlM_rule Totals.Indexed hinner ht₁ ?_
    intro t₃ _ s₃ t₄ s₄ ht₃ hadd
    exact add_choice_indexed ht₃ hadd
  rw [StateExcept.run_pure] at hpure
  cases hpure
  unfold Totals.Indexed at hindexed
  have hlen := congrArg List.length hindexed
  rw [List.length_map, List.length_range] at hlen
  rw [hindexed, hlen]

/-! ## Section 4: Responses and streams -/

def completions_response (id : String) (now : Nat) (model : String)
    (choices : List CompletionChoice) (usage : CompletionUsage) : CompletionsCreateResponse where
  id := id
  created := now
  model := model
  choices := choices
  usage := usage

/-- A chunk of the stream. -/
def stream_chunk (completion_id : String) (created : Nat) (model text : String) (index : Nat)
    (finish_reason : Json Empty) : Json Empty :=
  .dict [
    ("id", .str completion_id),
    ("object", .str "text_completion"),
    ("created", .int created),
    ("model", .str model),
    ("usage", .null),
    ("choices", .list [
      .dict [
        ("text", .str text),
        ("index", .int index),
        ("logprobs", .null),
        ("finish_reason", finish_reason)]])]

/-- What `event_stream` yields. -/
def event_stream (completion_id : String) (created : Nat) (model : String)
    (choices : List CompletionChoice) : List String :=
  choices.flatMap (fun choice =>
    let chunk := stream_chunk completion_id created model choice.text choice.index .null
    let stop_chunk := stream_chunk completion_id created model "" choice.index (.str "stop")
    ["data: " ++ Json.dumps chunk ++ "\n\n", "data: " ++ Json.dumps stop_chunk ++ "\n\n"])
  ++ ["data: [DONE]\n\n"]

def streaming_response (completion_id : String) (created : Nat) (model : String)
    (choices : List CompletionChoice) : StreamingResponse where
  body := event_stream completion_id created model choices
  media_type := "text/event-stream"

/-! ## Section 5: server.py -/

/-- A loaded `GPT2`. -/
structure GPT2 (σ : Type) where
  decode : List Int → String
  generate_with_metadata : (prompt : String) → (max_new_tokens : Nat) → Handler σ GenerationResult

section server

variable (get_model : String → Except String (GPT2 σ)) (request : CompletionsCreateRequest φ)

def generate_completion_choices : Handler σ (List CompletionChoice × CompletionUsage) := do
  let model ← get_requested_model get_model "Failed to load model" request.model
  let prompts ← normalize_completion_prompts request.prompt model.decode
  generate_choices (fun prompt => model.generate_with_metadata prompt (max_output_tokens request))
    request.suffix request.n prompts

def run_legacy_completion (uuid_hex : String) (now : Nat) :
    Handler σ CompletionsCreateResponse := do
  let (choices, usage) ← generate_completion_choices get_model request
  return completions_response ("cmpl_" ++ uuid_hex) now request.model choices usage

def stream_legacy_completion (uuid_hex : String) (now : Nat) : Handler σ StreamingResponse := do
  let (choices, _) ← generate_completion_choices get_model request
  return streaming_response ("cmpl_" ++ uuid_hex) now request.model choices

end server

end Server

/-! ## Section 6: hf_server.py -/

namespace HfServer

open KVCache (GenerationResult)
open Server

variable {σ φ : Type}

/-- A loaded `HFTransformer`. -/
structure HFTransformer (σ φ : Type) where
  decode : List Int → String
  generate_with_metadata : (prompt : String) → (max_new_tokens : Nat) →
    (temperature top_p : Option φ) → Handler σ GenerationResult

section server

variable (get_model : String → Except String (HFTransformer σ φ))
  (request : CompletionsCreateRequest φ)

def generate_completion_choices : Handler σ (List CompletionChoice × CompletionUsage) := do
  let model ← get_requested_model get_model "Failed to load Hugging Face model" request.model
  let prompts ← normalize_completion_prompts request.prompt model.decode
  generate_choices (fun prompt => model.generate_with_metadata prompt (max_output_tokens request)
    request.temperature request.top_p) request.suffix request.n prompts

def run_legacy_completion (uuid_hex : String) (now : Nat) :
    Handler σ CompletionsCreateResponse := do
  let (choices, usage) ← generate_completion_choices get_model request
  return completions_response ("cmpl_" ++ uuid_hex) now request.model choices usage

def stream_legacy_completion (uuid_hex : String) (now : Nat) : Handler σ StreamingResponse := do
  let (choices, _) ← generate_completion_choices get_model request
  return streaming_response ("cmpl_" ++ uuid_hex) now request.model choices

end server

end HfServer
