import BuildMyOwnX.Server.Streaming

/-! # Completions Bookkeeping

    What a completions request is answered with, in both servers. A prompt value
    is rejected before anything is generated, or it denotes some prompts
    (`Denotes`), and then `n` generations are run on each of them in turn
    (`schedule`); the choices and the usage are read off their results.

    The nested loop with its four accumulators is one pass over the schedule
    (`generate_choices_eq`). That is an equation of handlers, so it also says
    what a generation that raises does to the rest.
-/

namespace Server

open KVCache (GenerationResult)

variable {σ φ : Type}

/-! ## Section 1: What a prompt value denotes -/

/-- The integer a value stands for; booleans are integers. -/
inductive IsInteger : Json φ → Int → Prop
  | int (n : Int) : IsInteger (.int n) n
  | bool (b : Bool) : IsInteger (.bool b) (if b then 1 else 0)

/-- The prompts of a value, in order. -/
inductive Denotes (decode : List Int → String) : Json φ → List String → Prop
  | string (text : String) : Denotes decode (.str text) [text]
  | strings (texts : List String) : Denotes decode (.list (texts.map .str)) texts
  | token_ids {items : List (Json φ)} {tokens : List Int} : items ≠ [] →
      List.Forall₂ IsInteger items tokens → Denotes decode (.list items) [decode tokens]
  | token_id_lists {lists : List (List (Json φ))} {tokens : List (List Int)} :
      List.Forall₂ (List.Forall₂ IsInteger) lists tokens →
      Denotes decode (.list (lists.map .list)) (tokens.map decode)

/-- A string, or a list of strings, of integers or of integer lists. -/
def Supported : Json φ → Prop
  | .str _ => True
  | .list items =>
    (∀ item ∈ items, ∃ text, item = .str text) ∨
    (∀ item ∈ items, ∃ n, IsInteger item n) ∨
    (∀ item ∈ items, ∃ ids, item = .list ids ∧ ∀ id ∈ ids, ∃ n, IsInteger id n)
  | _ => False

/-- One prompt for a string or a non-empty list of integers, otherwise one for each
    item. -/
def PromptCount : Json φ → Nat → Prop
  | .list items, count =>
    ((items ≠ [] ∧ ∀ item ∈ items, ∃ n, IsInteger item n) ∧ count = 1) ∨
    (¬ (items ≠ [] ∧ ∀ item ∈ items, ∃ n, IsInteger item n) ∧ count = items.length)
  | _, count => count = 1

theorem mapM_isSome {α β : Type} {f : α → Option β} {xs : List α} :
    (xs.mapM f).isSome ↔ ∀ x ∈ xs, (f x).isSome := by
  induction xs with
  | nil => simp
  | cons x xs ih =>
    rw [List.forall_mem_cons, ← ih, List.mapM_cons]
    cases hx : f x with
    | none => simp
    | some y =>
      cases hxs : xs.mapM f with
      | none => simp
      | some ys => simp

theorem as_string_eq_some {v : Json φ} {text : String} :
    as_string v = some text ↔ v = .str text := by
  cases v <;> simp [as_string]

theorem as_int_eq_some {v : Json φ} {n : Int} : as_int v = some n ↔ IsInteger v n := by
  constructor
  · intro h
    cases v <;> simp only [as_int, Option.some.injEq, reduceCtorEq] at h
    · subst h
      exact .bool _
    · subst h
      exact .int _
  · intro h
    cases h <;> rfl

theorem as_int_list_eq_some {v : Json φ} {tokens : List Int} :
    as_int_list v = some tokens ↔
      ∃ ids, v = .list ids ∧ List.Forall₂ IsInteger ids tokens := by
  cases v <;> simp [as_int_list, List.mapM_some_iff, as_int_eq_some]

theorem mapM_as_string {items : List (Json φ)} {texts : List String} :
    items.mapM as_string = some texts ↔ items = texts.map .str := by
  rw [List.mapM_some_iff]
  simp only [as_string_eq_some]
  rw [← List.forall₂_eq_eq_eq, List.forall₂_map_right_iff]

theorem mapM_as_int {items : List (Json φ)} {tokens : List Int} :
    items.mapM as_int = some tokens ↔ List.Forall₂ IsInteger items tokens := by
  rw [List.mapM_some_iff]
  simp only [as_int_eq_some]

theorem mapM_as_int_list {items : List (Json φ)} {tokens : List (List Int)} :
    items.mapM as_int_list = some tokens ↔
      ∃ lists, items = lists.map .list ∧ List.Forall₂ (List.Forall₂ IsInteger) lists tokens := by
  rw [List.mapM_some_iff]
  simp only [as_int_list_eq_some]
  constructor
  · intro h
    induction h with
    | nil => exact ⟨[], rfl, .nil⟩
    | cons hitem _ ih =>
      obtain ⟨ids, rfl, hids⟩ := hitem
      obtain ⟨lists, rfl, hlists⟩ := ih
      exact ⟨ids :: lists, rfl, .cons hids hlists⟩
  · rintro ⟨lists, rfl, hlists⟩
    rw [List.forall₂_map_left_iff]
    exact hlists.imp fun ids _ hids => ⟨ids, rfl, hids⟩

/-! ## Section 2: Normalisation -/

theorem mapM_as_string_isSome {items : List (Json φ)} :
    (items.mapM as_string).isSome ↔ ∀ item ∈ items, ∃ text, item = .str text := by
  rw [mapM_isSome]
  simp only [Option.isSome_iff_exists, as_string_eq_some]

theorem mapM_as_int_isSome {items : List (Json φ)} :
    (items.mapM as_int).isSome ↔ ∀ item ∈ items, ∃ n, IsInteger item n := by
  rw [mapM_isSome]
  simp only [Option.isSome_iff_exists, as_int_eq_some]

theorem mapM_as_int_list_isSome {items : List (Json φ)} :
    (items.mapM as_int_list).isSome ↔
      ∀ item ∈ items, ∃ ids, item = .list ids ∧ ∀ id ∈ ids, ∃ n, IsInteger id n := by
  rw [mapM_isSome]
  refine forall₂_congr fun item _ => ?_
  cases item with
  | list ids => simpa [as_int_list] using mapM_as_int_isSome
  | null | bool _ | int _ | float _ | str _ | dict _ => simp [as_int_list]

/-- A list is supported when one of the three readings succeeds. -/
theorem supported_list {items : List (Json φ)} :
    Supported (.list items) ↔ (items.mapM as_string).isSome ∨ (items.mapM as_int).isSome ∨
      (items.mapM as_int_list).isSome := by
  rw [mapM_as_string_isSome, mapM_as_int_isSome, mapM_as_int_list_isSome]
  rfl

/-- No string is an integer, so a non-empty list is not both. -/
theorem not_integers_of_strings {texts : List String} :
    ¬ (texts.map Json.str ≠ ([] : List (Json φ)) ∧
      ∀ item ∈ texts.map (Json.str (φ := φ)), ∃ n, IsInteger item n) := by
  rintro ⟨hne, hall⟩
  cases texts with
  | nil => exact hne rfl
  | cons text texts =>
    obtain ⟨n, hn⟩ := hall (.str text) List.mem_cons_self
    cases hn

theorem normalize_list (items : List (Json φ)) (decode : List Int → String) :
    normalize_completion_prompts (.list items) decode =
      match items.mapM as_string, items.mapM as_int, items.mapM as_int_list with
      | some texts, _, _ => .ok texts
      | none, some tokens, _ => .ok [decode tokens]
      | none, none, some lists => .ok (lists.map decode)
      | none, none, none => .error (.http_exception 422
          "Unsupported prompt format for this local completion endpoint.") := rfl

/-- A supported value is normalised to the prompts it denotes. -/
theorem normalize_supported {prompt : Json φ} (decode : List Int → String)
    (h : Supported prompt) :
    ∃ prompts, normalize_completion_prompts prompt decode = .ok prompts ∧
      Denotes decode prompt prompts ∧ PromptCount prompt prompts.length := by
  match prompt, h with
  | .str text, _ => exact ⟨[text], rfl, .string text, rfl⟩
  | .list items, h =>
    rw [normalize_list]
    rw [supported_list] at h
    cases hstrings : items.mapM as_string with
    | some texts =>
      obtain rfl := mapM_as_string.mp hstrings
      exact ⟨texts, rfl, .strings texts, Or.inr ⟨not_integers_of_strings, by simp⟩⟩
    | none =>
      have hne : items ≠ [] := by
        rintro rfl
        cases hstrings
      cases hintegers : items.mapM as_int with
      | some tokens =>
        have hall := mapM_as_int_isSome.mp (Option.isSome_of_mem hintegers)
        exact ⟨[decode tokens], rfl, .token_ids hne (mapM_as_int.mp hintegers),
          Or.inl ⟨⟨hne, hall⟩, rfl⟩⟩
      | none =>
        rw [hstrings, hintegers] at h
        obtain ⟨tokens, hlists⟩ : ∃ tokens, items.mapM as_int_list = some tokens := by
          simpa [Option.isSome_iff_exists] using h
        obtain ⟨lists, rfl, hids⟩ := mapM_as_int_list.mp hlists
        refine ⟨tokens.map decode, by rw [hlists], .token_id_lists hids, Or.inr ⟨?_, ?_⟩⟩
        · rintro ⟨-, hall⟩
          rw [← mapM_as_int_isSome, hintegers] at hall
          cases hall
        · rw [List.length_map, List.length_map, hids.length_eq]

/-- Every other value is rejected. -/
theorem normalize_unsupported {prompt : Json φ} (decode : List Int → String)
    (h : ¬ Supported prompt) :
    normalize_completion_prompts prompt decode =
      .error (.http_exception 422
        "Unsupported prompt format for this local completion endpoint.") := by
  match prompt, h with
  | .str _, h => exact absurd trivial h
  | .null, _ | .bool _, _ | .int _, _ | .float _, _ | .dict _, _ => rfl
  | .list items, h =>
    rw [supported_list, not_or, not_or, Option.not_isSome_iff_eq_none,
      Option.not_isSome_iff_eq_none, Option.not_isSome_iff_eq_none] at h
    rw [normalize_list, h.1, h.2.1, h.2.2]

/-! ## Section 3: The loops -/

/-- The prompts of the generations, in the order in which they are run. -/
def schedule (n : Nat) (prompts : List String) : List String :=
  prompts.flatMap (List.replicate n)

theorem schedule_cons (n : Nat) (prompt : String) (prompts : List String) :
    schedule n (prompt :: prompts) = List.replicate n prompt ++ schedule n prompts := rfl

theorem length_schedule (n : Nat) (prompts : List String) :
    (schedule n prompts).length = prompts.length * n := by
  induction prompts with
  | nil => simp [schedule]
  | cons prompt prompts ih =>
    rw [schedule_cons, List.length_append, ih, List.length_replicate, List.length_cons, Nat.succ_mul]
    omega

/-- Generation `i` is run on prompt `i / n`. -/
theorem getElem?_schedule {n : Nat} (hn : 0 < n) (prompts : List String) (i : Nat) :
    (schedule n prompts)[i]? = prompts[i / n]? := by
  induction prompts generalizing i with
  | nil => simp [schedule]
  | cons prompt prompts ih =>
    rw [schedule_cons]
    by_cases hi : i < n
    · rw [List.getElem?_append_left (by simpa using hi), Nat.div_eq_of_lt hi]
      simp [hi]
    · have hdiv : i / n = (i - n) / n + 1 := Nat.div_eq_sub_div hn (Nat.le_of_not_lt hi)
      rw [List.getElem?_append_right (by simpa using hi), List.length_replicate, ih, hdiv,
        List.getElem?_cons_succ]

def with_suffix (suffix : Option String) (text : String) : String :=
  match suffix with
  | none => text
  | some suffix => text ++ suffix

/-- The choice with the given index. -/
def choice_of (suffix : Option String) (index : Nat) (generation : GenerationResult) :
    CompletionChoice where
  text := with_suffix suffix generation.output_text
  index := index

/-- The choices of the results of all generations. -/
def choices_of (suffix : Option String) (results : List GenerationResult) :
    List CompletionChoice :=
  results.mapIdx (choice_of suffix)

/-- The usage summed over the results. -/
def usage_of (results : List GenerationResult) : CompletionUsage where
  prompt_tokens := (results.map (·.prompt_tokens)).sum
  completion_tokens := (results.map (·.output_tokens)).sum
  total_tokens := (results.map (·.prompt_tokens)).sum + (results.map (·.output_tokens)).sum

/-- The local variables after more results. -/
def Totals.add (suffix : Option String) (t : Totals) (results : List GenerationResult) :
    Totals where
  choices := t.choices ++ results.mapIdx fun i => choice_of suffix (t.choice_index + i)
  total_input_tokens := t.total_input_tokens + (results.map (·.prompt_tokens)).sum
  total_output_tokens := t.total_output_tokens + (results.map (·.output_tokens)).sum
  choice_index := t.choice_index + results.length

theorem Totals.add_nil (suffix : Option String) (t : Totals) : t.add suffix [] = t := by
  simp [Totals.add]

theorem Totals.add_cons (suffix : Option String) (t : Totals) (generation : GenerationResult)
    (results : List GenerationResult) :
    t.add suffix (generation :: results) = (t.add suffix [generation]).add suffix results := by
  have hindex : (fun i => choice_of suffix (t.choice_index + (i + 1))) =
      fun i => choice_of suffix (t.choice_index + 1 + i) := by
    funext i
    rw [Nat.add_assoc, Nat.add_comm 1]
  simp only [Totals.add, List.mapIdx_cons, hindex, List.mapIdx_nil, List.map_cons, List.map_nil,
    List.sum_cons, List.sum_nil, List.length_cons, List.length_nil, List.append_assoc,
    Nat.add_zero, List.singleton_append, Nat.zero_add, Nat.add_assoc, Nat.add_comm 1]

variable (generate : String → Handler σ GenerationResult) (suffix : Option String)

theorem add_choice_eq (prompt : String) (t : Totals) :
    add_choice generate suffix prompt t =
      generate prompt >>= fun generation => pure (t.add suffix [generation]) := rfl

/-- A loop over some prompts adds their results in order. -/
theorem foldlM_add_choice (prompts : List String) (t : Totals) :
    prompts.foldlM (fun t prompt => add_choice generate suffix prompt t) t =
      prompts.mapM generate >>= fun results => pure (t.add suffix results) := by
  induction prompts generalizing t with
  | nil => simp [Totals.add_nil]
  | cons prompt prompts ih =>
    rw [List.foldlM_cons, List.mapM_cons, add_choice_eq, bind_assoc, bind_assoc]
    congr 1
    funext generation
    rw [pure_bind, ih, bind_assoc]
    congr 1
    funext results
    rw [pure_bind, ← Totals.add_cons]

/-- The loop over the choices of one prompt is a loop over copies of it. -/
theorem foldlM_range_eq (prompt : String) (n : Nat) (t : Totals) :
    (List.range n).foldlM (fun t _ => add_choice generate suffix prompt t) t =
      (List.replicate n prompt).foldlM (fun t prompt => add_choice generate suffix prompt t) t := by
  have hcopies : List.replicate n prompt = (List.range n).map fun _ => prompt := by
    simp
  rw [hcopies, List.foldlM_map]

/-- The nested loops are one loop over the schedule. -/
theorem foldlM_schedule (n : Nat) (prompts : List String) (t : Totals) :
    prompts.foldlM (fun t prompt =>
      (List.range n).foldlM (fun t _ => add_choice generate suffix prompt t) t) t =
      (schedule n prompts).foldlM (fun t prompt => add_choice generate suffix prompt t) t := by
  induction prompts generalizing t with
  | nil => rfl
  | cons prompt prompts ih =>
    rw [schedule_cons, List.foldlM_append, List.foldlM_cons, foldlM_range_eq]
    congr 1
    funext t
    exact ih t

/-- The generations of the schedule, and what is made of their results. -/
theorem generate_choices_eq (n : Nat) (prompts : List String) :
    generate_choices generate suffix n prompts =
      (schedule n prompts).mapM generate >>= fun results =>
        pure (choices_of suffix results, usage_of results) := by
  unfold generate_choices
  rw [foldlM_schedule, foldlM_add_choice, bind_assoc]
  congr 1
  funext results
  simp [Totals.add, choices_of, usage_of]

/-! ## Section 4: What the handlers return -/

/-- The choices and the usage of a request, against the results of its generations. -/
structure Booked (suffix : Option String) (results : List GenerationResult)
    (choices : List CompletionChoice) (usage : CompletionUsage) : Prop where
  indices : choices.map (·.index) = List.range results.length
  texts : choices.map (·.text) = results.map fun r => with_suffix suffix r.output_text
  prompt_tokens : usage.prompt_tokens = (results.map (·.prompt_tokens)).sum
  completion_tokens : usage.completion_tokens = (results.map (·.output_tokens)).sum
  total_tokens : usage.total_tokens = usage.prompt_tokens + usage.completion_tokens

/-- A handler that runs `n` generations on each prompt in turn. -/
structure Accepted (generate : String → Handler σ GenerationResult) (suffix : Option String)
    (n : Nat) (prompts : List String)
    (handler : Handler σ (List CompletionChoice × CompletionUsage)) : Prop where
  /-- The generations are run in order, and nothing else touches the state. -/
  runs : handler = (schedule n prompts).mapM generate >>= fun results =>
    pure (choices_of suffix results, usage_of results)
  generations : (schedule n prompts).length = prompts.length * n
  prompt_of : ∀ i, i < prompts.length * n → (schedule n prompts)[i]? = prompts[i / n]?
  returned : ∀ s choices usage s', StateExcept.run handler s = (.ok (choices, usage), s') →
    ∃ results, StateExcept.run ((schedule n prompts).mapM generate) s = (.ok results, s') ∧
      results.length = prompts.length * n ∧ Booked suffix results choices usage

/-- The bookkeeping of a completions request whose model is loaded. -/
structure Bookkeeping (decode : List Int → String)
    (generate : String → Handler σ GenerationResult) (request : CompletionsCreateRequest φ)
    (handler : Handler σ (List CompletionChoice × CompletionUsage)) : Prop where
  /-- No generation is run: the state is untouched. -/
  rejected : ¬ Supported request.prompt → ∀ s, StateExcept.run handler s =
    (.error (.http_exception 422
      "Unsupported prompt format for this local completion endpoint."), s)
  accepted : Supported request.prompt →
    ∃ prompts, Denotes decode request.prompt prompts ∧
      PromptCount request.prompt prompts.length ∧
      Accepted generate request.suffix request.n prompts handler

theorem booked (results : List GenerationResult) :
    Booked suffix results (choices_of suffix results) (usage_of results) := by
  refine ⟨?_, ?_, rfl, rfl, rfl⟩
  · apply List.ext_getElem?
    intro i
    by_cases hi : i < results.length <;> simp [choices_of, choice_of, hi]
  · apply List.ext_getElem?
    intro i
    simp [choices_of, choice_of, Function.comp_def]

theorem generate_choices_accepted (n : Nat) (prompts : List String) :
    Accepted generate suffix n prompts (generate_choices generate suffix n prompts) := by
  refine ⟨generate_choices_eq generate suffix n prompts, length_schedule n prompts, ?_, ?_⟩
  · intro i hi
    have hn : 0 < n := Nat.pos_of_ne_zero fun h => by simp [h] at hi
    exact getElem?_schedule hn prompts i
  · intro s choices usage s' hrun
    rw [generate_choices_eq] at hrun
    obtain ⟨results, s₁, hresults, hpure⟩ := StateExcept.bind_ok hrun
    rw [StateExcept.run_pure] at hpure
    cases hpure
    refine ⟨results, hresults, ?_, booked suffix results⟩
    rw [StateExcept.mapM_length hresults, length_schedule]

/-- The code that the two servers share, after the model has been loaded. -/
theorem normalize_then_generate (decode : List Int → String)
    (request : CompletionsCreateRequest φ) :
    Bookkeeping decode generate request
      (liftM (normalize_completion_prompts request.prompt decode) >>=
        generate_choices generate request.suffix request.n) := by
  constructor
  · intro h s
    rw [normalize_unsupported decode h]
    rfl
  · intro h
    obtain ⟨prompts, hprompts, hdenotes, hcount⟩ := normalize_supported decode h
    refine ⟨prompts, hdenotes, hcount, ?_⟩
    have hhandler : (liftM (normalize_completion_prompts request.prompt decode) >>=
        generate_choices generate request.suffix request.n) =
        generate_choices generate request.suffix request.n prompts := by
      rw [hprompts]
      rfl
    rw [hhandler]
    exact generate_choices_accepted generate request.suffix request.n prompts

/-- **Completions bookkeeping** in `server.py` and in `hf_server.py`, for every
    prompt value and every generator. -/
theorem completions_bookkeeping (request : CompletionsCreateRequest φ) :
    (∀ (get_model : String → Except String (GPT2 σ)) model,
      get_requested_model get_model "Failed to load model" request.model = .ok model →
      Bookkeeping model.decode
        (fun prompt => model.generate_with_metadata prompt (max_output_tokens request))
        request (generate_completion_choices get_model request)) ∧
    (∀ (get_model : String → Except String (HfServer.HFTransformer σ φ)) model,
      get_requested_model get_model "Failed to load Hugging Face model" request.model =
        .ok model →
      Bookkeeping model.decode
        (fun prompt => model.generate_with_metadata prompt (max_output_tokens request)
          request.temperature request.top_p)
        request (HfServer.generate_completion_choices get_model request)) := by
  constructor
  · intro get_model model hmodel
    rw [generate_completion_choices, hmodel]
    exact normalize_then_generate _ model.decode request
  · intro get_model model hmodel
    rw [HfServer.generate_completion_choices, hmodel]
    exact normalize_then_generate _ model.decode request

/-- Two prompts, the second without a token, and two generations on each. -/
theorem completions_bookkeeping_echo :
    let request : CompletionsCreateRequest Empty :=
      { model := "gpt2", prompt := .list [.list [.int 5, .bool true], .list []], n := 2 }
    Bookkeeping echo_model.decode
        (fun prompt => echo_model.generate_with_metadata prompt 64) request
        (generate_completion_choices (fun _ => .ok echo_model) request) ∧
      Bookkeeping echo_transformer.decode
        (fun prompt => echo_transformer.generate_with_metadata prompt 64 none none) request
        (HfServer.generate_completion_choices (fun _ => .ok echo_transformer) request) := by
  intro request
  have hname : PyString.strip request.model ≠ "" := by
    show PyString.strip "gpt2" ≠ ""
    decide
  have hboth := completions_bookkeeping (σ := Nat) request
  exact ⟨hboth.1 _ _ (get_requested_model_ok hname rfl),
    hboth.2 _ _ (get_requested_model_ok hname rfl)⟩

end Server
