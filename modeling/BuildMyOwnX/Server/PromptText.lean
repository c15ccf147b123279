import BuildMyOwnX.Server.Responses

/-! # The Text of a Request

    What `extract_text_from_input_item` and `build_prompt` make of nested JSON.
    A value is flattened to its leaf texts (`leaves`), and the extracted text is
    the join of those that are not empty, however the lists in it are nested
    (`extract_eq_join`, `Regroups.extract_eq`).

    `build_prompt` strips and filters a second time. White space joined by line
    breaks is white space, so the prompt is missing exactly when every leaf is
    blank (`build_prompt_error_iff`), and what it returns is a prompt that it
    would return again (`built_prompt`).
-/

namespace Server

open PyString (join_filter glue strip Blank Trimmed)

variable {φ : Type}

/-! ## Section 1: Leaves -/

mutual

/-- The leaf texts of a value, depth first. -/
def leaves : Json φ → List String
  | .str text => [text]
  | .list parts => leaves_of_parts parts
  | .dict items =>
    match items.lookup "text" with
    | some (.str text) => [text]
    | _ => leaves_of_content items
  | _ => []

def leaves_of_parts : List (Json φ) → List String
  | [] => []
  | part :: parts => leaves part ++ leaves_of_parts parts

/-- The leaves of `content`: the text itself, or those of the parts. -/
def leaves_of_content : Entries φ → List String
  | [] => []
  | (key, content) :: items =>
    if key = "content" then
      match content with
      | .str text => [text]
      | .list parts => leaves_of_parts parts
      | _ => []
    else
      leaves_of_content items

end

theorem leaves_of_parts_eq (parts : List (Json φ)) :
    leaves_of_parts parts = parts.flatMap leaves := by
  induction parts with
  | nil => rfl
  | cons part parts ih => rw [leaves_of_parts, ih, List.flatMap_cons]

theorem leaves_list (parts : List (Json φ)) : leaves (.list parts) = parts.flatMap leaves := by
  rw [leaves, leaves_of_parts_eq]

theorem leaves_of_content_eq (items : Entries φ) :
    leaves_of_content items =
      match items.lookup "content" with
      | some (.str text) => [text]
      | some (.list parts) => parts.flatMap leaves
      | _ => [] := by
  induction items with
  | nil => rfl
  | cons item items ih =>
    obtain ⟨key, content⟩ := item
    rw [leaves_of_content.eq_def]
    by_cases hkey : key = "content"
    · subst hkey
      rw [List.lookup_cons_self]
      cases content with
      | list parts => exact leaves_of_parts_eq parts
      | null | bool _ | int _ | float _ | str _ | dict _ => rfl
    · have hbeq : ("content" == key) = false := beq_eq_false_iff_ne.mpr (Ne.symm hkey)
      rw [List.lookup_cons, hbeq]
      exact (if_neg hkey).trans ih

/-- The leaves of an object, by its two keys. -/
theorem leaves_dict (items : Entries φ) :
    leaves (.dict items) =
      match items.lookup "text" with
      | some (.str text) => [text]
      | _ =>
        match items.lookup "content" with
        | some (.str text) => [text]
        | some (.list parts) => parts.flatMap leaves
        | _ => [] := by
  rw [leaves, leaves_of_content_eq]

mutual

/-- The extracted text is the join of the leaves that are not empty. -/
theorem extract_eq_join : (v : Json φ) →
    extract_text_from_input_item v = join_filter "\n" (leaves v)
  | .str text => by
    rw [extract_text_from_input_item, leaves, PyString.join_filter_singleton]
  | .list parts => by
    rw [extract_text_from_input_item, leaves, extract_parts_join]
  | .dict items => by
    rw [extract_text_from_input_item, leaves]
    generalize items.lookup "text" = text
    match text with
    | some (.str text) => exact (PyString.join_filter_singleton text).symm
    | none | some .null | some (.bool _) | some (.int _) | some (.float _) | some (.list _)
    | some (.dict _) => exact extract_content_eq_join items
  | .null | .bool _ | .int _ | .float _ => by
    rw [extract_text_from_input_item, leaves, PyString.join_filter_nil] <;> simp

theorem extract_parts_join : (parts : List (Json φ)) →
    join_filter "\n" (extract_parts parts) = join_filter "\n" (leaves_of_parts parts)
  | [] => rfl
  | part :: parts => by
    rw [extract_parts, leaves_of_parts, PyString.join_filter_cons, PyString.join_filter_append,
      extract_eq_join part, extract_parts_join parts]

theorem extract_content_eq_join : (items : Entries φ) →
    extract_content items = join_filter "\n" (leaves_of_content items)
  | [] => by rw [extract_content, leaves_of_content, PyString.join_filter_nil]
  | (key, content) :: items => by
    rw [extract_content.eq_def, leaves_of_content.eq_def]
    by_cases hkey : key = "content"
    · simp only [if_pos hkey]
      match content with
      | .str text => exact (PyString.join_filter_singleton text).symm
      | .list parts => exact extract_parts_join parts
      | .null | .bool _ | .int _ | .float _ | .dict _ => exact PyString.join_filter_nil.symm
    · simp only [if_neg hkey]
      exact extract_content_eq_join items

end

/-! ## Section 2: Regrouping -/

/-- Values that differ in how the lists in them are nested. -/
inductive Regroups : Json φ → Json φ → Prop
  | splice (xs ys zs : List (Json φ)) :
      Regroups (.list (xs ++ .list ys :: zs)) (.list (xs ++ ys ++ zs))
  | part {v w : Json φ} (xs zs : List (Json φ)) : Regroups v w →
      Regroups (.list (xs ++ v :: zs)) (.list (xs ++ w :: zs))
  | entry {xs ys : List (Json φ)} (key : String) (items items' : Entries φ) :
      Regroups (.list xs) (.list ys) →
      Regroups (.dict (items ++ (key, .list xs) :: items'))
        (.dict (items ++ (key, .list ys) :: items'))
  | refl (v : Json φ) : Regroups v v
  | symm {v w : Json φ} : Regroups v w → Regroups w v
  | trans {u v w : Json φ} : Regroups u v → Regroups v w → Regroups u w

/-- Another list under one key changes what is found there, or nothing. -/
theorem lookup_entry (key k : String) (items items' : Entries φ) (xs ys : List (Json φ)) :
    (items ++ (key, .list xs) :: items').lookup k = (items ++ (key, .list ys) :: items').lookup k ∨
      (items ++ (key, .list xs) :: items').lookup k = some (.list xs) ∧
      (items ++ (key, .list ys) :: items').lookup k = some (.list ys) := by
  rw [List.lookup_append, List.lookup_append, List.lookup_cons, List.lookup_cons]
  cases items.lookup k with
  | some v => exact Or.inl rfl
  | none =>
    by_cases hkey : (k == key) = true
    · rw [hkey]
      exact Or.inr ⟨rfl, rfl⟩
    · rw [Bool.eq_false_iff.mpr hkey]
      exact Or.inl rfl

theorem Regroups.leaves_eq {v w : Json φ} (h : Regroups v w) : leaves v = leaves w := by
  induction h with
  | splice xs ys zs =>
    simp only [leaves_list, List.flatMap_append, List.flatMap_cons, List.append_assoc]
  | part xs zs _ ih =>
    simp only [leaves_list, List.flatMap_append, List.flatMap_cons, ih]
  | @entry xs ys key items items' _ ih =>
    rw [leaves_list, leaves_list] at ih
    rw [leaves_dict, leaves_dict]
    -- a list under `text` is passed over, one under `content` is flattened
    have htext := lookup_entry key "text" items items' xs ys
    rcases lookup_entry key "content" items items' xs ys with hcontent | ⟨hcontent, hcontent'⟩
    · rw [hcontent]
      rcases htext with htext | ⟨htext, htext'⟩
      · rw [htext]
      · rw [htext, htext']
    · rw [hcontent, hcontent']
      rcases htext with htext | ⟨htext, htext'⟩
      · rw [htext]
        simp only [ih]
      · rw [htext, htext']
        exact ih
  | refl v => rfl
  | symm _ ih => exact ih.symm
  | trans _ _ ih ih' => exact ih.trans ih'

theorem Regroups.extract_eq {v w : Json φ} (h : Regroups v w) :
    extract_text_from_input_item v = extract_text_from_input_item w := by
  rw [extract_eq_join, extract_eq_join, h.leaves_eq]

/-! ## Section 3: The prompt -/

/-- The text of each item of the input. -/
def input_texts : Option (ResponseInput φ) → List String
  | some (.str text) => [text]
  | some (.list items) => items.map fun item => extract_text_from_input_item (.dict item)
  | none => []

/-- The leaves of the input. -/
def input_leaves : Option (ResponseInput φ) → List String
  | some (.str text) => [text]
  | some (.list items) => items.flatMap fun item => leaves (.dict item)
  | none => []

/-- The instructions and every leaf of the input are blank. -/
structure AllBlank (request : ResponsesCreateRequest φ) : Prop where
  instructions : ∀ text ∈ request.instructions, Blank text
  input : ∀ leaf ∈ input_leaves request.input, Blank leaf

/-- The stripped instructions and items of a request, without the blank ones. -/
def visible_texts (request : ResponsesCreateRequest φ) : List String :=
  ((request.instructions.toList ++ input_texts request.input).filter
    fun text => strip text ≠ "").map strip

theorem strip_empty : strip "" = "" := PyString.strip_eq_empty.mpr PyString.blank_empty

/-- A part with something visible is not empty. -/
theorem filter_visible (parts : List String) :
    parts.filter (fun part => part ≠ "" ∧ strip part ≠ "") =
      parts.filter fun part => strip part ≠ "" := by
  apply List.filter_congr
  intro part _
  by_cases h : part = ""
  · subst h
    simp [strip_empty]
  · simp [h]

theorem filter_nonempty (parts : List String) :
    (parts.filter fun part => part ≠ "").filter (fun part => strip part ≠ "") =
      parts.filter fun part => strip part ≠ "" := by
  rw [List.filter_filter, ← filter_visible]
  apply List.filter_congr
  intro part _
  by_cases h : part = "" <;> simp [h]

theorem filter_prompt_parts (request : ResponsesCreateRequest φ) :
    ((prompt_parts request).filter fun part => part ≠ "" ∧ strip part ≠ "").map strip =
      visible_texts request := by
  rw [filter_visible]
  unfold prompt_parts visible_texts
  rw [List.filter_append, List.filter_append]
  congr 2
  · match request.instructions with
    | none => rfl
    | some text =>
      by_cases h : text = ""
      · subst h
        simp [strip_empty]
      · simp [h]
  · match request.input with
    | none | some (.str _) => rfl
    | some (.list items) => exact filter_nonempty _

/-- The parts that are joined are trimmed and not empty. -/
theorem visible_texts_trimmed (request : ResponsesCreateRequest φ) :
    ∀ text ∈ visible_texts request, Trimmed text ∧ text ≠ "" := by
  intro text htext
  obtain ⟨part, hpart, rfl⟩ := List.mem_map.mp htext
  exact ⟨PyString.strip_trimmed part, by simpa using (List.mem_filter.mp hpart).2⟩

theorem blank_newline : Blank "\n" := by
  have hchars : "\n".toList = ['\n'] := rfl
  intro c hc
  rw [hchars, List.mem_singleton] at hc
  rw [hc]
  rfl

/-- An item is blank when its leaves are. -/
theorem input_texts_blank (input : Option (ResponseInput φ)) :
    (∀ text ∈ input_texts input, Blank text) ↔ ∀ leaf ∈ input_leaves input, Blank leaf := by
  match input with
  | none | some (.str _) => rfl
  | some (.list items) =>
    simp only [input_texts, input_leaves, List.forall_mem_map, List.mem_flatMap,
      extract_eq_join, PyString.blank_join_filter blank_newline]
    constructor
    · rintro h leaf ⟨item, hitem, hleaf⟩
      exact h item hitem leaf hleaf
    · intro h item hitem leaf hleaf
      exact h leaf ⟨item, hitem, hleaf⟩

theorem visible_texts_eq_nil (request : ResponsesCreateRequest φ) :
    visible_texts request = [] ↔ AllBlank request := by
  have hblank : visible_texts request = [] ↔
      ∀ text ∈ request.instructions.toList ++ input_texts request.input, Blank text := by
    rw [visible_texts, List.map_eq_nil_iff, List.filter_eq_nil_iff]
    apply forall₂_congr
    intro text _
    rw [← PyString.strip_eq_empty]
    simp
  rw [hblank, List.forall_mem_append, input_texts_blank]
  constructor
  · rintro ⟨hinstructions, hinput⟩
    exact ⟨fun text htext => hinstructions text (by simpa using htext), hinput⟩
  · rintro ⟨hinstructions, hinput⟩
    exact ⟨fun text htext => hinstructions text (by simpa using htext), hinput⟩

/-- What `build_prompt` returns or raises. -/
theorem build_prompt_eq (request : ResponsesCreateRequest φ) :
    build_prompt request =
      if visible_texts request = [] then
        .error (.http_exception 422 "A text `input` or `instructions` value is required.")
      else
        .ok ("\n\n".intercalate (visible_texts request)) := by
  have hempty : "\n\n".intercalate (visible_texts request) = "" ↔ visible_texts request = [] :=
    PyString.intercalate_eq_empty fun text htext => (visible_texts_trimmed request text htext).2
  simp only [build_prompt, filter_prompt_parts, hempty]

/-- A request with a text for its input and no instructions. -/
def plain_request (request : ResponsesCreateRequest φ) (text : String) :
    ResponsesCreateRequest φ :=
  { request with instructions := none, input := some (.str text) }

/-- A trimmed text is its own prompt. -/
theorem build_prompt_plain (request : ResponsesCreateRequest φ) {text : String}
    (htrimmed : Trimmed text) (hne : text ≠ "") :
    build_prompt (plain_request request text) = .ok text := by
  have htexts : visible_texts (plain_request request text) = [text] := by
    show ([text].filter fun text => strip text ≠ "").map strip = [text]
    rw [List.filter_cons_of_pos]
    · rw [List.filter_nil, List.map_singleton, PyString.strip_eq_self htrimmed]
    · rw [PyString.strip_eq_self htrimmed]
      exact decide_eq_true hne
  rw [build_prompt_eq, htexts, if_neg (List.cons_ne_nil _ _), String.intercalate_singleton]

theorem build_prompt_error_iff (request : ResponsesCreateRequest φ) :
    build_prompt request =
        .error (.http_exception 422 "A text `input` or `instructions` value is required.") ↔
      AllBlank request := by
  rw [build_prompt_eq, ← visible_texts_eq_nil]
  split
  case isTrue h => exact iff_of_true rfl h
  case isFalse h => exact iff_of_false (fun heq => by cases heq) h

/-- A prompt that a request was built into. -/
structure BuiltPrompt (request : ResponsesCreateRequest φ) (prompt : String) : Prop where
  build : build_prompt request = .ok prompt
  join : prompt = "\n\n".intercalate (visible_texts request)
  nonempty : prompt ≠ ""
  trimmed : Trimmed prompt
  unchanged : build_prompt (plain_request request prompt) = .ok prompt

theorem built_prompt (request : ResponsesCreateRequest φ) (h : ¬ AllBlank request) :
    ∃ prompt, BuiltPrompt request prompt := by
  have hne : visible_texts request ≠ [] := fun hnil => h ((visible_texts_eq_nil request).mp hnil)
  have htrimmed : Trimmed ("\n\n".intercalate (visible_texts request)) :=
    PyString.trimmed_intercalate (visible_texts_trimmed request)
  have hjoin : "\n\n".intercalate (visible_texts request) ≠ "" := fun hempty =>
    hne ((PyString.intercalate_eq_empty fun text htext =>
      (visible_texts_trimmed request text htext).2).mp hempty)
  refine ⟨"\n\n".intercalate (visible_texts request), ?_, rfl, hjoin, htrimmed, ?_⟩
  · rw [build_prompt_eq, if_neg hne]
  · exact build_prompt_plain request htrimmed hjoin

/-- **Prompt extraction**: a value is flattened to its leaves however its lists are
    nested, and a request is rejected exactly when all it says is blank. -/
theorem prompt_extraction (v : Json φ) (request : ResponsesCreateRequest φ) :
    extract_text_from_input_item v = join_filter "\n" (leaves v) ∧
    (∀ w, Regroups v w → extract_text_from_input_item w = extract_text_from_input_item v) ∧
    (build_prompt request =
        .error (.http_exception 422 "A text `input` or `instructions` value is required.") ↔
      AllBlank request) ∧
    (¬ AllBlank request → ∃ prompt, BuiltPrompt request prompt) :=
  ⟨extract_eq_join v, fun _ h => h.extract_eq.symm, build_prompt_error_iff request,
    built_prompt request⟩

/-- Blank leaves around the text of a nested part. -/
theorem prompt_extraction_nested :
    let request : ResponsesCreateRequest Empty :=
      { model := "gpt2"
        input := some (.list [
          [("content", .list [.str " ", .list [.list [], .dict [("text", .str "a ")]]])]]) }
    ∃ prompt, BuiltPrompt request prompt := by
  intro request
  refine (prompt_extraction .null request).2.2.2 ?_
  intro hblank
  have hspace : PyString.is_space 'a' = true := hblank.input "a " (by decide) 'a' (by decide)
  exact absurd hspace (by decide)

end Server
