import BuildMyOwnX.Framework.DictHeap
import BuildMyOwnX.Framework.PyString

/-! # The Runtime Configuration

    How both servers read their YAML configuration. A document is a heap of
    mappings, as `yaml.safe_load` builds it: an alias in the file is one mapping
    under two names. `_normalize_config_data` copies the mappings that it edits;
    what it returns is what `RuntimeConfig` validates.

    Parsing, the files, and what pydantic accepts for a value of another type are
    parameters.
-/

namespace Config

open StateExcept (run)

/-! ## Section 1: Documents -/

/-- A key of a YAML mapping. -/
inductive Key (β : Type) where
  | str (text : String)
  | other (key : β)
  deriving DecidableEq

/-- A YAML value. Mappings are shared, by address. -/
inductive Value (α : Type) where
  | null
  | bool (b : Bool)
  | str (text : String)
  | mapping (address : Nat)
  | other (value : α)
  deriving DecidableEq

/-- What the code raises. -/
inductive Raised (β : Type) where
  | ValueError (message : String)
  | KeyError (key : Key β)
  | YAMLError (message : String)
  deriving DecidableEq

variable {α β : Type}

abbrev Mapping (α β : Type) : Type := Dict (Key β) (Value α)

abbrev Mappings (α β : Type) : Type := DictHeap (Key β) (Value α)

/-- A parsed document: a value and its mappings, none of them missing. -/
structure Document (α β : Type) [DecidableEq β] where
  mappings : Mappings α β
  value : Value α
  value_lt : ∀ a, value = .mapping a → a < mappings.next
  entry_lt : ∀ a < mappings.next, ∀ key b,
    (mappings.read a).lookup key = some (.mapping b) → b < mappings.next

/-- The files, by path, and `yaml.safe_load` of their contents. -/
structure Files (α β : Type) [DecidableEq β] where
  expanduser : String → String
  is_file : String → Bool
  safe_load : String → Except (Raised β) (Document α β)

/-! ## Section 2: `RuntimeConfig` -/

/-- One entry of a `ValidationError`. -/
structure ErrorDetails (β : Type) where
  loc : Key β
  msg : String
  deriving DecidableEq

/-- What the source has from Python and from pydantic. -/
structure Builtins (α β : Type) where
  /-- `str.lower` -/
  lower : String → String
  /-- a string for a `bool` field, such as `"yes"` -/
  bool_of_str : String → Except String Bool
  /-- a number, a date, a list or a set for a `bool` field -/
  bool_of_other : α → Except String Bool
  /-- the same for a `str` field -/
  str_of_other : α → Except String String
  /-- `str(exc)` of a `ValidationError` -/
  str_exc : List (ErrorDetails β) → String

structure RuntimeConfig where
  kv_cache : Bool := true
  target_device : String := "auto"
  deriving DecidableEq

/-- `RuntimeConfig.normalize_target_device`. -/
def normalize_target_device (py : Builtins α β) (value : String) : Except String String :=
  let normalized := py.lower (PyString.strip value)
  if normalized = "" then
    .error "target_device cannot be empty."
  else
    .ok normalized

/-- The type check of `kv_cache`. -/
def validate_bool (py : Builtins α β) : Value α → Except String Bool
  | .bool b => .ok b
  | .str text => py.bool_of_str text
  | .other value => py.bool_of_other value
  | .null | .mapping _ => .error "Input should be a valid boolean"

/-- The type check of `target_device`. -/
def validate_str (py : Builtins α β) : Value α → Except String String
  | .str text => .ok text
  | .other value => py.str_of_other value
  | .null | .bool _ | .mapping _ => .error "Input should be a valid string"

/-- The type check of `target_device` and its field validator. -/
def validate_target_device (py : Builtins α β) (value : Value α) : Except String String :=
  match validate_str py value with
  | .error msg => .error msg
  | .ok text =>
    match normalize_target_device py text with
    | .error msg => .error ("Value error, " ++ msg)
    | .ok normalized => .ok normalized

/-- A field: the default, which is not validated, or the given value. -/
def field {τ : Type} (validate : Value α → Except String τ) (default : τ) :
    Option (Value α) → Except String τ
  | none => .ok default
  | some value => validate value

/-- What is wrong with a field. -/
def field_errors {τ : Type} (name : String) : Except String τ → List (ErrorDetails β)
  | .ok _ => []
  | .error msg => [⟨.str name, msg⟩]

/-- What is wrong with a key: `extra="forbid"`. -/
def key_errors : Key β → List (ErrorDetails β)
  | .str name =>
    if name = "kv_cache" ∨ name = "target_device" then
      []
    else
      [⟨.str name, "Extra inputs are not permitted"⟩]
  | .other key => [⟨.other key, "Keys should be strings"⟩]

section source

variable [DecidableEq β]

/-- `RuntimeConfig.model_validate`. -/
def model_validate (py : Builtins α β) (data : Mapping α β) :
    Except (List (ErrorDetails β)) RuntimeConfig :=
  let kv_cache := field (validate_bool py) true (data.lookup (.str "kv_cache"))
  let target_device :=
    field (validate_target_device py) "auto" (data.lookup (.str "target_device"))
  match kv_cache, target_device, data.keys.flatMap key_errors with
  | .ok kv_cache, .ok target_device, [] => .ok { kv_cache, target_device }
  | _, _, extra => .error (field_errors "kv_cache" kv_cache ++
      field_errors "target_device" target_device ++ extra)

/-! ## Section 3: `_normalize_config_data` and `load_runtime_config` -/

/-- The first part of `_normalize_config_data`: `model` is merged into the rest. -/
def merge_model (raw_config : Nat) : StateExcept (Raised β) (Mappings α β) Nat := do
  let normalized ← DictHeap.copy raw_config
  let _ ← DictHeap.pop normalized (.str "model_name") .null
  let model_config ← DictHeap.pop normalized (.str "model") .null
  match model_config with
  | .null => pure normalized
  | .mapping model_config => do
    let model_config ← DictHeap.copy model_config
    let _ ← DictHeap.pop model_config (.str "name") .null
    let _ ← DictHeap.pop model_config (.str "model_name") .null
    DictHeap.merge model_config normalized
  | _ => throw (.ValueError "`model` must be a mapping when provided.")

/-- The second part: a `kv_cache` that is a mapping is replaced by its `enabled`. -/
def unwrap_kv_cache (normalized : Nat) : StateExcept (Raised β) (Mappings α β) Nat := do
  let kv_cache ← DictHeap.get_default normalized (.str "kv_cache") .null
  match kv_cache with
  | .mapping kv_cache => do
    let has_enabled ← DictHeap.contains kv_cache (.str "enabled")
    if !has_enabled then
      throw (.ValueError "`kv_cache.enabled` is required when `kv_cache` is a mapping.")
    else do
      let enabled ← DictHeap.get_item (.KeyError (.str "enabled")) kv_cache (.str "enabled")
      DictHeap.set_item normalized (.str "kv_cache") enabled
      pure normalized
  | _ => pure normalized

/-- `_normalize_config_data`. -/
def normalize_config_data (raw_config : Nat) : StateExcept (Raised β) (Mappings α β) Nat := do
  let normalized ← merge_model raw_config
  unwrap_kv_cache normalized

/-- The `try` statement of `load_runtime_config`. -/
def validated (py : Builtins α β) (path : String) (normalized_config : Mapping α β) :
    Except (Raised β) RuntimeConfig :=
  match model_validate py normalized_config with
  | .ok config => .ok config
  | .error exc =>
    .error (.ValueError ("Invalid runtime config in " ++ path ++ ": " ++ py.str_exc exc))

def load_runtime_config (py : Builtins α β) (files : Files α β) (config_path : Option String) :
    StateExcept (Raised β) (Mappings α β) RuntimeConfig :=
  match config_path with
  | none => pure {}
  | some config_path => do
    let path := files.expanduser config_path
    if !files.is_file path then
      throw (.ValueError ("Config file not found: " ++ path))
    let document ← liftM (files.safe_load path)
    set document.mappings
    -- an empty file
    let raw_config ←
      match document.value with
      | .null => do
        let empty ← DictHeap.new ∅
        pure (.mapping empty)
      | raw_config => pure raw_config
    match raw_config with
    | .mapping raw_config => do
      let normalized_config ← normalize_config_data raw_config
      let mappings ← get
      liftM (validated py path (mappings.read normalized_config))
    | _ => throw (.ValueError "The YAML config must contain a top-level mapping.")

/-! ## Section 4: What each function returns -/

variable {h : Mappings α β} {raw a : Nat}

/-- The entries under `model`. -/
def under (h : Mappings α β) (raw : Nat) : Mapping α β :=
  match (h.read raw).lookup (.str "model") with
  | some (.mapping model_config) => h.read model_config
  | _ => ∅

/-- `model` is absent, null or a mapping. -/
def ModelFits (h : Mappings α β) (raw : Nat) : Prop :=
  ∀ value, (h.read raw).lookup (.str "model") = some value →
    value = .null ∨ ∃ model_config, value = .mapping model_config

/-- The entries that `merge_model` keeps; those at the top come first. -/
def merged (h : Mappings α β) (raw : Nat) : Mapping α β :=
  (((h.read raw).erase (.str "model_name")).erase (.str "model")) ∪
    (((under h raw).erase (.str "name")).erase (.str "model_name"))

/-- The copy of the document without `model_name` and `model`. -/
def popped (h : Mappings α β) (raw : Nat) : Mappings α β :=
  h.alloc (((h.read raw).erase (.str "model_name")).erase (.str "model"))

theorem popped_extends : h.Extends (popped h raw) := (DictHeap.Extends.refl h).alloc _

/-- `merge_model` up to the check of `model`. -/
theorem run_merge_model (h : Mappings α β) (raw : Nat) :
    run (merge_model raw) h =
      run (match ((h.read raw).lookup (.str "model")).getD .null with
        | .null => pure h.next
        | .mapping model_config => do
          let model_config ← DictHeap.copy model_config
          let _ ← DictHeap.pop model_config (.str "name") .null
          let _ ← DictHeap.pop model_config (.str "model_name") .null
          DictHeap.merge model_config h.next
        | _ => throw (.ValueError "`model` must be a mapping when provided."))
        (popped h raw) := by
  have hne : (Key.str "model" : Key β) ≠ .str "model_name" := by simp
  unfold merge_model popped
  rw [StateExcept.run_bind_ok (DictHeap.run_copy raw h),
    StateExcept.run_bind_ok (DictHeap.run_pop ..), StateExcept.run_bind_ok (DictHeap.run_pop ..)]
  simp only [DictHeap.write_alloc_new, DictHeap.read_alloc_new, AList.lookup_erase_ne hne]

theorem merge_model_error (hmodel : ¬ ModelFits h raw) :
    ∃ message h', run (merge_model raw) h = (.error (.ValueError message), h') ∧
      h.Extends h' := by
  rw [run_merge_model]
  unfold ModelFits at hmodel
  push Not at hmodel
  obtain ⟨value, hvalue, hnull, hmapping⟩ := hmodel
  rw [hvalue, Option.getD_some]
  cases value with
  | null => exact absurd rfl hnull
  | mapping m => exact absurd rfl (hmapping m)
  | bool | str | other => exact ⟨_, _, rfl, popped_extends⟩

theorem merge_model_ok (hmodel : ModelFits h raw)
    (hlt : ∀ m, (h.read raw).lookup (.str "model") = some (.mapping m) → m < h.next) :
    ∃ a h', run (merge_model raw) h = (.ok a, h') ∧ h.Extends h' ∧ h.next ≤ a ∧
      h'.read a = merged h raw := by
  rw [run_merge_model]
  -- nothing to merge
  have hnothing : under h raw = ∅ →
      ∃ a h', run (pure h.next : StateExcept (Raised β) (Mappings α β) Nat) (popped h raw) =
        (.ok a, h') ∧ h.Extends h' ∧ h.next ≤ a ∧ h'.read a = merged h raw := by
    intro hunder
    refine ⟨h.next, popped h raw, rfl, popped_extends, Nat.le_refl _, ?_⟩
    unfold merged popped
    rw [hunder, DictHeap.read_alloc_new]
    exact AList.union_empty.symm
  cases hvalue : (h.read raw).lookup (.str "model") with
  | none =>
    refine hnothing ?_
    unfold under
    rw [hvalue]
  | some value =>
    rcases hmodel value hvalue with rfl | ⟨m, rfl⟩
    · refine hnothing ?_
      unfold under
      rw [hvalue]
    · have hunder : under h raw = h.read m := by
        unfold under
        rw [hvalue]
      have hread : (popped h raw).read m = h.read m := popped_extends.read_eq m (hlt m hvalue)
      show ∃ a h', run (do
        let model_config ← DictHeap.copy m
        let _ ← DictHeap.pop model_config (.str "name") .null
        let _ ← DictHeap.pop model_config (.str "model_name") .null
        DictHeap.merge model_config h.next) (popped h raw) = (.ok a, h') ∧ _
      rw [StateExcept.run_bind_ok (DictHeap.run_copy ..),
        StateExcept.run_bind_ok (DictHeap.run_pop ..),
        StateExcept.run_bind_ok (DictHeap.run_pop ..), DictHeap.run_merge]
      simp only [DictHeap.write_alloc_new, DictHeap.read_alloc_new, hread]
      have hold : ((popped h raw).alloc (((h.read m).erase (.str "name")).erase
          (.str "model_name"))).read h.next = (popped h raw).read h.next :=
        DictHeap.read_alloc_old (Nat.lt_succ_self _)
      refine ⟨_, _, rfl, (popped_extends.alloc _).alloc _, ?_, ?_⟩
      · show h.next ≤ h.next + 1 + 1
        omega
      · rw [DictHeap.read_alloc_new, hold]
        unfold merged popped
        rw [hunder, DictHeap.read_alloc_new]

/-- `unwrap_kv_cache` for a mapping, up to the check of `enabled`. -/
theorem run_unwrap_kv_cache {m : Nat}
    (hvalue : (h.read a).lookup (.str "kv_cache") = some (.mapping m)) :
    run (unwrap_kv_cache a) h =
      run (if !decide (Key.str "enabled" ∈ h.read m) then
          throw (.ValueError "`kv_cache.enabled` is required when `kv_cache` is a mapping.")
        else do
          let enabled ← DictHeap.get_item (.KeyError (.str "enabled")) m (.str "enabled")
          DictHeap.set_item a (.str "kv_cache") enabled
          pure a) h := by
  unfold unwrap_kv_cache
  rw [StateExcept.run_bind_ok (DictHeap.run_get_default ..), hvalue, Option.getD_some]
  dsimp only
  rw [StateExcept.run_bind_ok (DictHeap.run_contains ..)]

theorem unwrap_kv_cache_plain (hplain : ∀ m, (h.read a).lookup (.str "kv_cache") ≠
    some (.mapping m)) : run (unwrap_kv_cache a) h = (.ok a, h) := by
  unfold unwrap_kv_cache
  rw [StateExcept.run_bind_ok (DictHeap.run_get_default ..)]
  cases hvalue : (h.read a).lookup (.str "kv_cache") with
  | none => rfl
  | some value =>
    cases value with
    | mapping m => exact absurd hvalue (hplain m)
    | null | bool | str | other => rfl

theorem unwrap_kv_cache_mapping {m : Nat} {enabled : Value α}
    (hvalue : (h.read a).lookup (.str "kv_cache") = some (.mapping m))
    (henabled : (h.read m).lookup (.str "enabled") = some enabled) :
    run (unwrap_kv_cache a) h =
      (.ok a, h.write a ((h.read a).insert (.str "kv_cache") enabled)) := by
  have hmem : (Key.str "enabled" : Key β) ∈ h.read m := by
    rw [← AList.lookup_isSome, henabled]
    rfl
  rw [run_unwrap_kv_cache hvalue, decide_eq_true hmem, Bool.not_true,
    if_neg Bool.false_ne_true, StateExcept.run_bind_ok (DictHeap.run_get_item henabled),
    StateExcept.run_bind_ok (DictHeap.run_set_item ..), StateExcept.run_pure]

theorem unwrap_kv_cache_error {m : Nat}
    (hvalue : (h.read a).lookup (.str "kv_cache") = some (.mapping m))
    (hmissing : (h.read m).lookup (.str "enabled") = none) :
    ∃ message, run (unwrap_kv_cache a) h = (.error (.ValueError message), h) := by
  rw [run_unwrap_kv_cache hvalue, decide_eq_false (AList.lookup_eq_none.mp hmissing),
    Bool.not_false, if_pos rfl]
  exact ⟨_, rfl⟩

omit [DecidableEq β] in
theorem key_errors_eq_nil {key : Key β} :
    key_errors key = [] ↔ key = .str "kv_cache" ∨ key = .str "target_device" := by
  cases key with
  | str name =>
    show (if name = "kv_cache" ∨ name = "target_device" then []
      else [(⟨.str name, "Extra inputs are not permitted"⟩ : ErrorDetails β)]) = [] ↔ _
    split
    case isTrue hname => simpa using hname
    case isFalse hname => simpa using hname
  | other key => simp [key_errors]

/-- Only the two fields, each of them valid. -/
theorem model_validate_ok {py : Builtins α β} {data : Mapping α β} {config : RuntimeConfig} :
    model_validate py data = .ok config ↔
      (∀ key ∈ data, key = .str "kv_cache" ∨ key = .str "target_device") ∧
        field (validate_bool py) true (data.lookup (.str "kv_cache")) = .ok config.kv_cache ∧
        field (validate_target_device py) "auto" (data.lookup (.str "target_device")) =
          .ok config.target_device := by
  have hextra : data.keys.flatMap key_errors = [] ↔
      ∀ key ∈ data, key = .str "kv_cache" ∨ key = .str "target_device" := by
    rw [List.flatMap_eq_nil_iff]
    exact forall₂_congr fun key _ => key_errors_eq_nil
  rw [← hextra]
  unfold model_validate
  dsimp only
  split
  case h_1 kv_cache target_device hkv hdevice hnil =>
    rw [hkv, hdevice]
    constructor
    · intro heq
      cases heq
      exact ⟨hnil, rfl, rfl⟩
    · rintro ⟨-, hb, hd⟩
      cases hb
      cases hd
      rfl
  case h_2 hbad =>
    constructor
    · intro heq
      cases heq
    · rintro ⟨hnil, hb, hd⟩
      exact absurd hnil (hbad _ _ hb hd)

theorem validated_ok {py : Builtins α β} {path : String} {data : Mapping α β}
    {config : RuntimeConfig} (hvalid : model_validate py data = .ok config) :
    validated py path data = .ok config := by
  unfold validated
  rw [hvalid]

theorem validated_error {py : Builtins α β} {path : String} {data : Mapping α β}
    (hinvalid : ∀ config, model_validate py data ≠ .ok config) :
    ∃ message, validated py path data = .error (.ValueError message) := by
  unfold validated
  cases hvalid : model_validate py data with
  | ok config => exact absurd hvalid (hinvalid config)
  | error exc => exact ⟨_, rfl⟩

end source

end Config
