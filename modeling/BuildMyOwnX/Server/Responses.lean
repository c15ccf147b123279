import BuildMyOwnX.Server.Completions

/-! # The Responses Endpoint

    `/v1/responses` of `server.py` and of `hf_server.py`: the text of a request is
    collected from its instructions and its input, which may be nested JSON, and
    one answer is generated for it.

    As for completions, a handler runs on a state and may raise, and what the
    clock and `uuid4` return are arguments. So is `as_dict`, since the timings it
    lists are in milliseconds. The fields of the response that are always null or
    empty are left out.
-/

namespace Server

open KVCache (GenerationResult GenerationTimings)

/-! ## Section 1: Requests and responses -/

/-- The entries of a JSON object. -/
abbrev Entries (φ : Type) : Type := List (String × Json φ)

/-- `str | list[dict[str, Any]]`. -/
inductive ResponseInput (φ : Type)
  | str (text : String)
  | list (items : List (Entries φ))

/-- `str | dict[str, Any]`. -/
inductive ToolChoice (φ : Type)
  | str (name : String)
  | dict (entries : Entries φ)

structure ResponsesCreateRequest (φ : Type) where
  model : String
  input : Option (ResponseInput φ) := none
  instructions : Option String := none
  max_output_tokens : Option Nat := none
  temperature : Option φ := none
  top_p : Option φ := none
  stream : Bool := false
  store : Bool := true
  metadata : Entries φ := []
  parallel_tool_calls : Bool := true
  previous_response_id : Option String := none
  truncation : String := "disabled"
  text : Entries φ := [("format", .dict [("type", .str "text")])]
  tool_choice : ToolChoice φ := .str "auto"
  tools : List (Entries φ) := []
  user : Option String := none

structure OutputTextPart where
  type : String := "output_text"
  text : String

structure OutputMessage where
  type : String := "message"
  id : String
  status : String := "completed"
  role : String := "assistant"
  content : List OutputTextPart

structure Usage where
  input_tokens : Nat
  cached_tokens : Nat := 0
  output_tokens : Nat
  reasoning_tokens : Nat := 0
  total_tokens : Nat

structure ResponsesCreateResponse (φ : Type) where
  id : String
  object : String := "response"
  created_at : Nat
  status : String := "completed"
  completed_at : Nat
  instructions : Option String
  max_output_tokens : Option Nat
  model : String
  output : List OutputMessage
  parallel_tool_calls : Bool
  previous_response_id : Option String
  store : Bool
  temperature : φ
  text : Entries φ
  tool_choice : ToolChoice φ
  tools : List (Entries φ)
  top_p : φ
  truncation : String
  usage : Usage
  user : Option String
  metadata : Entries φ

variable {σ φ : Type}

/-! ## Section 2: The text of a request -/

mutual

def extract_text_from_input_item : Json φ → String
  | .str text => text
  | .list parts => PyString.join_filter "\n" (extract_parts parts)
  | .dict items =>
    match items.lookup "text" with
    | some (.str text) => text
    | _ => extract_content items
  | _ => ""

/-- The texts of the parts of a list. -/
def extract_parts : List (Json φ) → List String
  | [] => []
  | part :: parts => extract_text_from_input_item part :: extract_parts parts

/-- The text of `item.get("content")`. -/
def extract_content : Entries φ → String
  | [] => ""
  | (key, content) :: items =>
    if key = "content" then
      match content with
      | .str text => text
      | .list parts => PyString.join_filter "\n" (extract_parts parts)
      | _ => ""
    else
      extract_content items

end

/-- The parts of the prompt before they are stripped. -/
def prompt_parts (request : ResponsesCreateRequest φ) : List String :=
  let instructions := match request.instructions with
    | some instructions => if instructions ≠ "" then [instructions] else []
    | none => []
  let input := match request.input with
    | some (.str text) => [text]
    | some (.list items) =>
      (items.map fun item => extract_text_from_input_item (.dict item)).filter (· ≠ "")
    | none => []
  instructions ++ input

def build_prompt (request : ResponsesCreateRequest φ) : Except Raised String :=
  let parts := (prompt_parts request).filter fun part => part ≠ "" ∧ PyString.strip part ≠ ""
  let prompt := "\n\n".intercalate (parts.map PyString.strip)
  if prompt = "" then
    .error (.http_exception 422 "A text `input` or `instructions` value is required.")
  else
    .ok prompt

/-! ## Section 3: The response -/

/-- `payload.max_output_tokens or 64`. -/
def response_max_output_tokens (payload : ResponsesCreateRequest φ) : Nat :=
  match payload.max_output_tokens with
  | none => 64
  | some 0 => 64
  | some m => m

/-- `d[key] = value`. -/
def set_item (key : String) (value : Json φ) (entries : Entries φ) : Entries φ :=
  if key ∈ entries.map Prod.fst then
    entries.map fun entry => if entry.1 = key then (key, value) else entry
  else
    entries ++ [(key, value)]

def responses_response [One φ] (payload : ResponsesCreateRequest φ)
    (generation : GenerationResult) (generation_timings : Entries φ)
    (response_hex message_hex : String) (now : Nat) : ResponsesCreateResponse φ where
  id := "resp_" ++ response_hex
  created_at := now
  completed_at := now
  instructions := payload.instructions
  max_output_tokens := payload.max_output_tokens
  model := payload.model
  output := [{ id := "msg_" ++ message_hex, content := [{ text := generation.output_text }] }]
  parallel_tool_calls := payload.parallel_tool_calls
  previous_response_id := payload.previous_response_id
  store := payload.store
  temperature := payload.temperature.getD 1
  text := payload.text
  tool_choice := payload.tool_choice
  tools := payload.tools
  top_p := payload.top_p.getD 1
  truncation := payload.truncation
  usage := {
    input_tokens := generation.prompt_tokens
    output_tokens := generation.output_tokens
    total_tokens := generation.prompt_tokens + generation.output_tokens }
  user := payload.user
  metadata := set_item "generation_timings" (.dict generation_timings) payload.metadata

/-- The prompt of a request, unless it asks for a stream. -/
def response_prompt (payload : ResponsesCreateRequest φ) : Except Raised String :=
  if payload.stream then
    .error (.http_exception 501 "Streaming is not supported by this local implementation.")
  else
    build_prompt payload

section server

variable [One φ] (as_dict : GenerationTimings → Entries φ)
  (get_model : String → Except String (GPT2 σ)) (payload : ResponsesCreateRequest φ)

def run_openai_compatible_generation (response_hex message_hex : String) (now : Nat) :
    Handler σ (ResponsesCreateResponse φ) := do
  let prompt ← response_prompt payload
  let model ← get_requested_model get_model "Failed to load model" payload.model
  let generation ← model.generate_with_metadata prompt (response_max_output_tokens payload)
  return responses_response payload generation (as_dict generation.timings) response_hex
    message_hex now

end server

end Server

namespace HfServer

open KVCache (GenerationResult GenerationTimings)
open Server

variable {σ φ : Type} [One φ] (as_dict : GenerationTimings → Entries φ)
  (get_model : String → Except String (HFTransformer σ φ)) (payload : ResponsesCreateRequest φ)

def run_openai_compatible_generation (response_hex message_hex : String) (now : Nat) :
    Handler σ (ResponsesCreateResponse φ) := do
  let prompt ← response_prompt payload
  let model ← get_requested_model get_model "Failed to load Hugging Face model" payload.model
  let generation ← model.generate_with_metadata prompt (response_max_output_tokens payload)
    payload.temperature payload.top_p
  let generation_timings := as_dict generation.timings
  let generation_timings := set_item "backend" (.str "hf_transformers") generation_timings
  -- `total_ms` is one of the timings, so the `null` is never taken
  let generation_timings := set_item "hf_generate_ms"
    ((generation_timings.lookup "total_ms").getD .null) generation_timings
  return responses_response payload generation generation_timings response_hex message_hex now

end HfServer
