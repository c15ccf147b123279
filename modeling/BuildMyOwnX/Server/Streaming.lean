import BuildMyOwnX.Server.Completions

/-! # Streamed Completions

    The event stream of a list of choices, parsed by a client, against the
    response with the same choices. Whatever the texts contain, the stream is
    parsed back chunk by chunk (`parse_event_stream`): a dumped chunk has no
    line break and begins with a brace, so it is neither cut nor taken for the
    terminator. Concatenating the texts of the chunks by index gives back the
    choices, because no two choices of a request have the same index
    (`generate_choices_index`).
-/

namespace Server

variable {σ φ : Type}

/-! ## Section 1: The client -/

/-- `d[key]`. -/
def get_item (key : String) : Json Empty → Option (Json Empty)
  | .dict items => items.lookup key
  | _ => none

/-- What a client reads of a chunk. -/
structure StreamedChoice where
  text : String
  index : Int
  finish_reason : Option String
  deriving DecidableEq, Repr

/-- `chunk["choices"][0]`, when it is the only choice and has the fields of one. -/
def read_chunk (chunk : Json Empty) : Option StreamedChoice :=
  match get_item "choices" chunk with
  | some (.list [choice]) =>
    match get_item "text" choice, get_item "index" choice, get_item "finish_reason" choice with
    | some (.str text), some (.int index), some .null => some ⟨text, index, none⟩
    | some (.str text), some (.int index), some (.str reason) => some ⟨text, index, some reason⟩
    | _, _, _ => none
  | _ => none

/-- The chunks of a stream, up to its terminator. -/
def read_stream (body : List String) : Option (List StreamedChoice) := do
  let chunks ← EventStream.parse Json.loads (String.join body)
  chunks.mapM read_chunk

/-- `texts[index] = texts.get(index, "") + text`. -/
def add_text (texts : List (Int × String)) (index : Int) (text : String) : List (Int × String) :=
  if index ∈ texts.map Prod.fst then
    texts.map fun entry => if entry.1 = index then (index, entry.2 ++ text) else entry
  else
    texts ++ [(index, text)]

/-- The texts by index, in the order in which the indices first come. -/
def texts_by_index (chunks : List StreamedChoice) : List (Int × String) :=
  chunks.foldl (fun texts chunk => add_text texts chunk.index chunk.text) []

/-! ## Section 2: The stream is parsed back -/

/-- The chunk with the text of a choice, and the stop chunk after it. -/
def choice_chunks (choice : CompletionChoice) : List StreamedChoice :=
  [⟨choice.text, choice.index, none⟩, ⟨"", choice.index, some "stop"⟩]

theorem stream_chunk_carries (completion_id : String) (created : Nat) (model text : String)
    (index : Nat) (finish_reason : Json Empty) :
    EventStream.Carries Json.loads
      (Json.dumps (stream_chunk completion_id created model text index finish_reason))
      (stream_chunk completion_id created model text index finish_reason) := by
  constructor
  · exact Json.newline_not_mem_dumps _
  · -- a dict begins with a brace, the terminator does not
    intro hdone
    have hhead : (Json.dumps (stream_chunk completion_id created model text index
        finish_reason)).toList.head? = some '{' := Json.head_dumps_dict _
    rw [hdone] at hhead
    exact absurd hhead (by decide)
  · exact Json.loads_dumps _

/-- The documents that the events of a choice carry. -/
def choice_documents (completion_id : String) (created : Nat) (model : String)
    (choice : CompletionChoice) : List (Json Empty) :=
  [stream_chunk completion_id created model choice.text choice.index .null,
    stream_chunk completion_id created model "" choice.index (.str "stop")]

theorem event_stream_eq (completion_id : String) (created : Nat) (model : String)
    (choices : List CompletionChoice) :
    event_stream completion_id created model choices =
      ((choices.flatMap (choice_documents completion_id created model)).map Json.dumps).map
        EventStream.frame ++ [EventStream.frame "[DONE]"] := by
  unfold event_stream
  rw [List.map_map, List.map_flatMap]
  rfl

/-- The stream is parsed back to the documents of the choices, in order. -/
theorem parse_event_stream (completion_id : String) (created : Nat) (model : String)
    (choices : List CompletionChoice) :
    EventStream.parse Json.loads
        (String.join (event_stream completion_id created model choices)) =
      some (choices.flatMap (choice_documents completion_id created model)) := by
  rw [event_stream_eq]
  apply EventStream.parse_frames
  rw [List.forall₂_map_left_iff, List.forall₂_same]
  intro document hdocument
  obtain ⟨choice, -, hchoice⟩ := List.mem_flatMap.mp hdocument
  rcases List.mem_pair.mp hchoice with rfl | rfl
  · exact stream_chunk_carries ..
  · exact stream_chunk_carries ..

theorem mapM_read_chunk (completion_id : String) (created : Nat) (model : String)
    (choices : List CompletionChoice) :
    (choices.flatMap (choice_documents completion_id created model)).mapM read_chunk =
      some (choices.flatMap choice_chunks) := by
  induction choices with
  | nil => rfl
  | cons choice choices ih =>
    rw [List.flatMap_cons, List.mapM_append, ih]
    rfl

theorem read_event_stream (completion_id : String) (created : Nat) (model : String)
    (choices : List CompletionChoice) :
    read_stream (event_stream completion_id created model choices) =
      some (choices.flatMap choice_chunks) := by
  unfold read_stream
  rw [parse_event_stream]
  exact mapM_read_chunk completion_id created model choices

/-! ## Section 3: Texts by index -/

/-- The chunks of a choice with a new index add its entry. -/
theorem add_choice_chunks {texts : List (Int × String)} (choice : CompletionChoice)
    (hnew : (choice.index : Int) ∉ texts.map Prod.fst) :
    (choice_chunks choice).foldl (fun texts chunk => add_text texts chunk.index chunk.text) texts =
      texts ++ [((choice.index : Int), choice.text)] := by
  -- the stop chunk appends nothing and meets the other entries no more
  have hold : texts.map (fun entry : Int × String =>
      if entry.1 = choice.index then ((choice.index : Int), entry.2 ++ "") else entry) = texts := by
    have hid : ∀ entry ∈ texts, (if entry.1 = (choice.index : Int) then
        ((choice.index : Int), entry.2 ++ "") else entry) = entry := by
      intro entry hentry
      rw [if_neg]
      intro heq
      exact hnew (heq ▸ List.mem_map_of_mem hentry)
    rw [List.map_congr_left hid, List.map_id']
  have hmem : (choice.index : Int) ∈
      (texts ++ [((choice.index : Int), choice.text)]).map Prod.fst := by simp
  show add_text (add_text texts choice.index choice.text) choice.index "" = _
  rw [add_text.eq_def texts, if_neg hnew, add_text, if_pos hmem, List.map_append, hold]
  simp

/-- Concatenating the chunks by index gives back choices with different indices. -/
theorem texts_by_index_chunks {choices : List CompletionChoice}
    (hnodup : (choices.map (·.index)).Nodup) :
    texts_by_index (choices.flatMap choice_chunks) =
      choices.map fun choice => ((choice.index : Int), choice.text) := by
  -- the induction is for any texts collected before, with other indices
  have hfold : ∀ (texts : List (Int × String)),
      (∀ choice ∈ choices, (choice.index : Int) ∉ texts.map Prod.fst) →
      (choices.flatMap choice_chunks).foldl
          (fun texts chunk => add_text texts chunk.index chunk.text) texts =
        texts ++ choices.map fun choice => ((choice.index : Int), choice.text) := by
    induction choices with
    | nil =>
      intro texts _
      simp
    | cons choice choices ih =>
      intro texts hnew
      rw [List.map_cons, List.nodup_cons] at hnodup
      rw [List.flatMap_cons, List.foldl_append,
        add_choice_chunks choice (hnew choice (List.mem_cons_self ..)), ih hnodup.2]
      · simp
      · intro other hother
        have hne : (other.index : Int) ≠ choice.index := by
          intro heq
          apply hnodup.1
          rw [← Int.ofNat.inj heq]
          exact List.mem_map_of_mem hother
        have holdnew := hnew other (List.mem_cons_of_mem _ hother)
        simp only [List.map_append, List.mem_append, not_or]
        exact ⟨holdnew, by simpa using hne⟩
  have hall := hfold [] (fun _ _ => List.not_mem_nil)
  rwa [List.nil_append] at hall

/-! ## Section 4: Both servers -/

/-- The stream has, for each choice in order, a chunk with its text and then a
    stop chunk, and carries by index the texts of the response. -/
structure StreamAgrees (choices : List CompletionChoice) (response : CompletionsCreateResponse)
    (stream : StreamingResponse) : Prop where
  choices_eq : response.choices = choices
  chunks : read_stream stream.body = some (choices.flatMap choice_chunks)
  texts : texts_by_index (choices.flatMap choice_chunks) =
    response.choices.map fun choice => ((choice.index : Int), choice.text)

theorem stream_agrees {choices : List CompletionChoice} (usage : CompletionUsage)
    (hindex : choices.map (·.index) = List.range choices.length)
    (id id' model : String) (now now' : Nat) :
    StreamAgrees choices (completions_response id now model choices usage)
      (streaming_response id' now' model choices) := by
  have hnodup : (choices.map (·.index)).Nodup := by
    rw [hindex]
    exact List.nodup_range
  exact ⟨rfl, read_event_stream id' now' model choices, texts_by_index_chunks hnodup⟩

/-- The choices that `server.py` generates are indexed in order. -/
theorem completion_choices_index {get_model : String → Except String (GPT2 σ)}
    {request : CompletionsCreateRequest φ} {choices : List CompletionChoice}
    {usage : CompletionUsage} {s s' : σ}
    (h : (generate_completion_choices get_model request).run s = (.ok (choices, usage), s')) :
    choices.map (·.index) = List.range choices.length := by
  obtain ⟨_, _, -, h⟩ := StateExcept.bind_ok h
  obtain ⟨_, _, -, h⟩ := StateExcept.bind_ok h
  exact generate_choices_index h

/-- The choices that `hf_server.py` generates are indexed in order. -/
theorem hf_completion_choices_index {get_model : String → Except String (HfServer.HFTransformer σ φ)}
    {request : CompletionsCreateRequest φ} {choices : List CompletionChoice}
    {usage : CompletionUsage} {s s' : σ}
    (h : (HfServer.generate_completion_choices get_model request).run s =
      (.ok (choices, usage), s')) :
    choices.map (·.index) = List.range choices.length := by
  obtain ⟨_, _, -, h⟩ := StateExcept.bind_ok h
  obtain ⟨_, _, -, h⟩ := StateExcept.bind_ok h
  exact generate_choices_index h

/-- **Streaming and non-streaming completions carry the same answer**, in both
    servers and for any texts. -/
theorem streaming_agrees (request : CompletionsCreateRequest φ) (choices : List CompletionChoice)
    (usage : CompletionUsage) (uuid_hex uuid_hex' : String) (now now' : Nat) (s s' : σ) :
    (∀ get_model : String → Except String (GPT2 σ),
      (generate_completion_choices get_model request).run s = (.ok (choices, usage), s') →
      ∃ response stream,
        (run_legacy_completion get_model request uuid_hex now).run s = (.ok response, s') ∧
        (stream_legacy_completion get_model request uuid_hex' now').run s = (.ok stream, s') ∧
        StreamAgrees choices response stream) ∧
    (∀ get_model : String → Except String (HfServer.HFTransformer σ φ),
      (HfServer.generate_completion_choices get_model request).run s =
        (.ok (choices, usage), s') →
      ∃ response stream,
        (HfServer.run_legacy_completion get_model request uuid_hex now).run s =
          (.ok response, s') ∧
        (HfServer.stream_legacy_completion get_model request uuid_hex' now').run s =
          (.ok stream, s') ∧
        StreamAgrees choices response stream) := by
  constructor
  · intro get_model h
    refine ⟨_, _, ?_, ?_, stream_agrees usage (completion_choices_index h)
      ("cmpl_" ++ uuid_hex) ("cmpl_" ++ uuid_hex') request.model now now'⟩
    · rw [run_legacy_completion, StateExcept.run_bind_ok h]
      rfl
    · rw [stream_legacy_completion, StateExcept.run_bind_ok h]
      rfl
  · intro get_model h
    refine ⟨_, _, ?_, ?_, stream_agrees usage (hf_completion_choices_index h)
      ("cmpl_" ++ uuid_hex) ("cmpl_" ++ uuid_hex') request.model now now'⟩
    · rw [HfServer.run_legacy_completion, StateExcept.run_bind_ok h]
      rfl
    · rw [HfServer.stream_legacy_completion, StateExcept.run_bind_ok h]
      rfl

/-- A model that answers a prompt with a blank line and the prompt, and counts
    its calls. -/
def echo (prompt : String) : Handler Nat KVCache.GenerationResult := do
  let calls ← get
  set (calls + 1)
  return {
    full_text := prompt ++ "\n\n" ++ prompt
    output_text := "\n\n" ++ prompt
    prompt_tokens := 1
    output_tokens := 2
    timings := {} }

def echo_model : GPT2 Nat := ⟨fun _ => "", fun prompt _ => echo prompt⟩

def echo_transformer : HfServer.HFTransformer Nat Empty :=
  ⟨fun _ => "", fun prompt _ _ _ => echo prompt⟩

/-- Two choices whose texts contain the framing and the terminator. -/
theorem streaming_agrees_echo :
    let request : CompletionsCreateRequest Empty :=
      { model := " gpt2 ", prompt := .str "data: [DONE]", n := 2 }
    let choices : List CompletionChoice :=
      [{ text := "\n\ndata: [DONE]", index := 0 }, { text := "\n\ndata: [DONE]", index := 1 }]
    (∃ response stream,
      (run_legacy_completion (fun _ => .ok echo_model) request "0" 0).run 0 = (.ok response, 2) ∧
      (stream_legacy_completion (fun _ => .ok echo_model) request "1" 0).run 0 =
        (.ok stream, 2) ∧
      StreamAgrees choices response stream) ∧
    (∃ response stream,
      (HfServer.run_legacy_completion (fun _ => .ok echo_transformer) request "0" 0).run 0 =
        (.ok response, 2) ∧
      (HfServer.stream_legacy_completion (fun _ => .ok echo_transformer) request "1" 0).run 0 =
        (.ok stream, 2) ∧
      StreamAgrees choices response stream) := by
  intro request choices
  have hname : PyString.strip request.model ≠ "" := by
    show PyString.strip " gpt2 " ≠ ""
    decide
  have hmodel : get_requested_model (fun _ => .ok echo_model) "Failed to load model"
      request.model = .ok echo_model := get_requested_model_ok hname rfl
  have htransformer : get_requested_model (fun _ => .ok echo_transformer)
      "Failed to load Hugging Face model" request.model = .ok echo_transformer :=
    get_requested_model_ok hname rfl
  have hboth := streaming_agrees request choices ⟨2, 4, 6⟩ "0" "1" 0 0 (0 : Nat) 2
  constructor
  · apply hboth.1
    rw [generate_completion_choices, hmodel]
    rfl
  · apply hboth.2
    rw [HfServer.generate_completion_choices, htransformer]
    rfl

end Server
