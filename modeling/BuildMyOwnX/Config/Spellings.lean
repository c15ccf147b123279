import BuildMyOwnX.Config.RuntimeConfig

/-! # Spellings of a Runtime Configuration

    The value of a setting is looked up at the top of the document, then under
    `model`; a `kv_cache` that is a mapping stands for its `enabled`. These are
    the values that `_normalize_config_data` leaves (`normalize_config_data_ok`).
    `load_runtime_config` returns them validated, and only for documents that are
    `Accepted` (`load_runtime_config_iff`), so documents that spell the same
    settings differently load alike (`config_spellings`).
-/

namespace Config

open StateExcept (run)

variable {α β : Type} [DecidableEq β] {h h' : Mappings α β} {raw raw' a : Nat}

/-! ## Section 1: Chosen values -/

/-- The value at the top, or else under `model`. -/
def chosen (h : Mappings α β) (raw : Nat) (name : String) : Option (Value α) :=
  ((h.read raw).lookup (.str name)).or ((under h raw).lookup (.str name))

/-- A mapping stands for its `enabled`. -/
def unwrapped (h : Mappings α β) : Value α → Option (Value α)
  | .mapping kv_cache => (h.read kv_cache).lookup (.str "enabled")
  | value => some value

/-- The value of `kv_cache`. -/
def chosen_kv_cache (h : Mappings α β) (raw : Nat) : Option (Value α) :=
  (chosen h raw "kv_cache").bind (unwrapped h)

/-- `kv_cache` as a mapping has `enabled`. -/
def EnabledGiven (h : Mappings α β) (raw : Nat) : Prop :=
  ∀ m, chosen h raw "kv_cache" = some (.mapping m) → Key.str "enabled" ∈ h.read m

theorem lookup_merged {name : String} (hmodel : name ≠ "model") (hname : name ≠ "name")
    (hmodel_name : name ≠ "model_name") :
    (merged h raw).lookup (.str name) = chosen h raw name := by
  have hne : ∀ other, name ≠ other → (Key.str name : Key β) ≠ .str other := by
    intro other hother heq
    cases heq
    exact hother rfl
  unfold merged chosen
  rw [Dict.lookup_union, AList.lookup_erase_ne (hne _ hmodel),
    AList.lookup_erase_ne (hne _ hmodel_name), AList.lookup_erase_ne (hne _ hmodel_name),
    AList.lookup_erase_ne (hne _ hname)]

theorem mem_merged {key : Key β} :
    key ∈ merged h raw ↔
      (key ∈ h.read raw ∧ key ≠ .str "model" ∧ key ≠ .str "model_name") ∨
        (key ∈ under h raw ∧ key ≠ .str "name" ∧ key ≠ .str "model_name") := by
  unfold merged
  rw [AList.mem_union, AList.mem_erase, AList.mem_erase, AList.mem_erase, AList.mem_erase]
  tauto

/-! ## Section 2: `_normalize_config_data` -/

section normalize

variable {document : Document α β}

theorem Document.under_lt (document : Document α β) (hraw : raw < document.mappings.next)
    {key : Key β} {m : Nat}
    (hm : (under document.mappings raw).lookup key = some (.mapping m)) :
    m < document.mappings.next := by
  unfold under at hm
  split at hm
  case h_1 model_config hmodel =>
    exact document.entry_lt model_config (document.entry_lt raw hraw _ _ hmodel) _ _ hm
  case h_2 => cases hm

theorem Document.chosen_lt (document : Document α β) (hraw : raw < document.mappings.next)
    {name : String} {m : Nat} (hm : chosen document.mappings raw name = some (.mapping m)) :
    m < document.mappings.next := by
  unfold chosen at hm
  rcases Option.or_eq_some_iff.mp hm with htop | ⟨-, hunder⟩
  · exact document.entry_lt raw hraw _ _ htop
  · exact document.under_lt hraw hunder

/-- The copy at `a` after the merge: it is new and holds the chosen values. -/
structure MergedAt (document : Document α β) (raw a : Nat) (h : Mappings α β) : Prop where
  run_eq : run (merge_model raw) document.mappings = (.ok a, h)
  kept : document.mappings.Extends h
  new : document.mappings.next ≤ a
  read_eq : h.read a = merged document.mappings raw
  kv_cache : (h.read a).lookup (.str "kv_cache") = chosen document.mappings raw "kv_cache"
  target_device :
    (h.read a).lookup (.str "target_device") = chosen document.mappings raw "target_device"

theorem Document.merge (document : Document α β) (hraw : raw < document.mappings.next)
    (hmodel : ModelFits document.mappings raw) : ∃ a h, MergedAt document raw a h := by
  obtain ⟨a, h, hrun, hext, hnew, hread⟩ :=
    merge_model_ok hmodel fun m hm => document.entry_lt raw hraw _ _ hm
  refine ⟨a, h, hrun, hext, hnew, hread, ?_, ?_⟩
  · rw [hread]
    exact lookup_merged (by simp) (by simp) (by simp)
  · rw [hread]
    exact lookup_merged (by simp) (by simp) (by simp)

/-- A `kv_cache` that is a mapping is one of the document, so it is unchanged. -/
theorem MergedAt.read_kv_cache {m : Nat} (hmerged : MergedAt document raw a h)
    (hraw : raw < document.mappings.next)
    (hm : chosen document.mappings raw "kv_cache" = some (.mapping m)) :
    h.read m = document.mappings.read m :=
  hmerged.kept.read_eq m (document.chosen_lt hraw hm)

/-- What `_normalize_config_data` returns holds the chosen values, and no key is added. -/
theorem normalize_config_data_ok (hraw : raw < document.mappings.next)
    (hmodel : ModelFits document.mappings raw) (henabled : EnabledGiven document.mappings raw) :
    ∃ a h', run (normalize_config_data raw) document.mappings = (.ok a, h') ∧
      document.mappings.Extends h' ∧
      (h'.read a).lookup (.str "kv_cache") = chosen_kv_cache document.mappings raw ∧
      (h'.read a).lookup (.str "target_device") = chosen document.mappings raw "target_device" ∧
      ∀ key, key ∈ h'.read a ↔ key ∈ merged document.mappings raw := by
  obtain ⟨a, h₁, hmerged⟩ := document.merge hraw hmodel
  unfold normalize_config_data
  rw [StateExcept.run_bind_ok hmerged.run_eq]
  by_cases hmapping : ∃ m, chosen document.mappings raw "kv_cache" = some (.mapping m)
  · obtain ⟨m, hm⟩ := hmapping
    obtain ⟨enabled, hvalue⟩ :=
      Option.isSome_iff_exists.mp (AList.lookup_isSome.mpr (henabled m hm))
    have hread : (h₁.read m).lookup (.str "enabled") = some enabled := by
      rw [hmerged.read_kv_cache hraw hm]
      exact hvalue
    refine ⟨a, _, unwrap_kv_cache_mapping (hmerged.kv_cache.trans hm) hread,
      hmerged.kept.write hmerged.new _, ?_, ?_, ?_⟩
    · rw [DictHeap.read_write_same, AList.lookup_insert]
      unfold chosen_kv_cache
      rw [hm]
      exact hvalue.symm
    · rw [DictHeap.read_write_same, AList.lookup_insert_ne (by simp), hmerged.target_device]
    · intro key
      rw [DictHeap.read_write_same, AList.mem_insert, hmerged.read_eq, or_iff_right_iff_imp]
      rintro rfl
      rw [← AList.lookup_isSome, ← hmerged.read_eq, hmerged.kv_cache, hm]
      rfl
  · have hplain : ∀ m, (h₁.read a).lookup (.str "kv_cache") ≠ some (.mapping m) :=
      fun m hm => hmapping ⟨m, hmerged.kv_cache.symm.trans hm⟩
    refine ⟨a, h₁, unwrap_kv_cache_plain hplain, hmerged.kept, ?_, hmerged.target_device,
      fun key => by rw [hmerged.read_eq]⟩
    rw [hmerged.kv_cache]
    unfold chosen_kv_cache
    cases hvalue : chosen document.mappings raw "kv_cache" with
    | none => rfl
    | some value =>
      cases value with
      | mapping m => exact absurd ⟨m, hvalue⟩ hmapping
      | null | bool | str | other => rfl

theorem normalize_config_data_error (hraw : raw < document.mappings.next)
    (hbad : ¬ (ModelFits document.mappings raw ∧ EnabledGiven document.mappings raw)) :
    ∃ message h', run (normalize_config_data raw) document.mappings =
        (.error (.ValueError message), h') ∧ document.mappings.Extends h' := by
  unfold normalize_config_data
  by_cases hmodel : ModelFits document.mappings raw
  · obtain ⟨a, h₁, hmerged⟩ := document.merge hraw hmodel
    have henabled : ¬ EnabledGiven document.mappings raw := fun henabled =>
      hbad ⟨hmodel, henabled⟩
    unfold EnabledGiven at henabled
    push Not at henabled
    obtain ⟨m, hm, hmissing⟩ := henabled
    have hnone : (h₁.read m).lookup (.str "enabled") = none := by
      rw [hmerged.read_kv_cache hraw hm]
      exact AList.lookup_eq_none.mpr hmissing
    obtain ⟨message, hunwrap⟩ := unwrap_kv_cache_error (hmerged.kv_cache.trans hm) hnone
    rw [StateExcept.run_bind_ok hmerged.run_eq]
    exact ⟨message, h₁, hunwrap, hmerged.kept⟩
  · obtain ⟨message, h₁, hrun, hext⟩ := merge_model_error hmodel
    rw [StateExcept.run_bind, hrun]
    exact ⟨message, h₁, rfl, hext⟩

end normalize

/-! ## Section 3: `load_runtime_config` -/

/-- `path` is a file with a mapping in it, the one at `raw`. -/
structure Parses (files : Files α β) (path : String) (document : Document α β) (raw : Nat) :
    Prop where
  is_file : files.is_file (files.expanduser path) = true
  safe_load : files.safe_load (files.expanduser path) = .ok document
  value : document.value = .mapping raw

/-- The documents that configure the server. -/
structure Accepted (py : Builtins α β) (h : Mappings α β) (raw : Nat) : Prop where
  model : ModelFits h raw
  keys : ∀ key ∈ h.read raw,
    key = .str "kv_cache" ∨ key = .str "target_device" ∨ key = .str "model" ∨
      key = .str "model_name"
  model_keys : ∀ key ∈ under h raw,
    key = .str "kv_cache" ∨ key = .str "target_device" ∨ key = .str "name" ∨
      key = .str "model_name"
  enabled : EnabledGiven h raw
  kv_cache : ∃ b, field (validate_bool py) true (chosen_kv_cache h raw) = .ok b
  target_device :
    ∃ d, field (validate_target_device py) "auto" (chosen h raw "target_device") = .ok d

/-- The chosen values as they are validated, or the defaults. -/
structure HoldsChosen (py : Builtins α β) (h : Mappings α β) (raw : Nat)
    (config : RuntimeConfig) : Prop where
  kv_cache : field (validate_bool py) true (chosen_kv_cache h raw) = .ok config.kv_cache
  target_device : field (validate_target_device py) "auto" (chosen h raw "target_device") =
    .ok config.target_device

/-- The keys that are left are the two settings. -/
theorem keys_merged :
    (∀ key ∈ merged h raw, key = .str "kv_cache" ∨ key = .str "target_device") ↔
      (∀ key ∈ h.read raw, key = .str "kv_cache" ∨ key = .str "target_device" ∨
          key = .str "model" ∨ key = .str "model_name") ∧
        (∀ key ∈ under h raw, key = .str "kv_cache" ∨ key = .str "target_device" ∨
          key = .str "name" ∨ key = .str "model_name") := by
  simp only [mem_merged]
  constructor
  · intro hkeys
    constructor
    · intro key hkey
      have := hkeys key
      tauto
    · intro key hkey
      have := hkeys key
      tauto
  · rintro ⟨htop, hunder⟩ key (⟨hkey, hmodel, hmodel_name⟩ | ⟨hkey, hname, hmodel_name⟩)
    · have := htop key hkey
      tauto
    · have := hunder key hkey
      tauto

section load

variable {py : Builtins α β} {files : Files α β} {path : String} {document : Document α β}

/-- A parsed mapping is normalized and validated. -/
theorem run_load_runtime_config (hparse : Parses files path document raw)
    (h₀ : Mappings α β) :
    run (load_runtime_config py files (some path)) h₀ =
      match run (normalize_config_data raw) document.mappings with
      | (.ok a, h) => (validated py (files.expanduser path) (h.read a), h)
      | (.error e, h) => (.error e, h) := by
  unfold load_runtime_config
  simp only [hparse.is_file, hparse.safe_load, Bool.not_true, Bool.false_eq_true, if_false,
    StateExcept.lift_ok_bind, hparse.value]
  show run (normalize_config_data raw >>= fun a => do
    let mappings ← get
    liftM (validated py (files.expanduser path) (mappings.read a))) document.mappings = _
  rw [StateExcept.run_bind]
  match run (normalize_config_data raw) document.mappings with
  | (.ok a, h) => exact StateExcept.run_lift (validated py (files.expanduser path) (h.read a)) h
  | (.error e, h) => rfl

theorem load_runtime_config_ok (hparse : Parses files path document raw)
    (haccept : Accepted py document.mappings raw) (h₀ : Mappings α β) :
    ∃ config h', run (load_runtime_config py files (some path)) h₀ = (.ok config, h') ∧
      document.mappings.Extends h' ∧ HoldsChosen py document.mappings raw config := by
  have hraw := document.value_lt raw hparse.value
  obtain ⟨a, h', hrun, hext, hkv, hdevice, hkeys⟩ :=
    normalize_config_data_ok hraw haccept.model haccept.enabled
  obtain ⟨b, hb⟩ := haccept.kv_cache
  obtain ⟨d, hd⟩ := haccept.target_device
  have hvalid : model_validate py (h'.read a) =
      .ok { kv_cache := b, target_device := d } := by
    rw [model_validate_ok, hkv, hdevice]
    refine ⟨fun key hkey => ?_, hb, hd⟩
    exact keys_merged.mpr ⟨haccept.keys, haccept.model_keys⟩ key ((hkeys key).mp hkey)
  refine ⟨{ kv_cache := b, target_device := d }, h', ?_, hext, ⟨hb, hd⟩⟩
  rw [run_load_runtime_config hparse, hrun]
  show (validated py (files.expanduser path) (h'.read a), h') = _
  rw [validated_ok hvalid]

theorem load_runtime_config_error (hparse : Parses files path document raw)
    (hreject : ¬ Accepted py document.mappings raw) (h₀ : Mappings α β) :
    ∃ message h', run (load_runtime_config py files (some path)) h₀ =
        (.error (.ValueError message), h') ∧ document.mappings.Extends h' := by
  have hraw := document.value_lt raw hparse.value
  rw [run_load_runtime_config hparse]
  by_cases hfits : ModelFits document.mappings raw ∧ EnabledGiven document.mappings raw
  · obtain ⟨a, h', hrun, hext, hkv, hdevice, hkeys⟩ :=
      normalize_config_data_ok hraw hfits.1 hfits.2
    have hinvalid : ∀ config, model_validate py (h'.read a) ≠ .ok config := by
      intro config hvalid
      rw [model_validate_ok, hkv, hdevice] at hvalid
      obtain ⟨hleft, hb, hd⟩ := hvalid
      obtain ⟨htop, hunder⟩ := keys_merged.mp fun key hkey => hleft key ((hkeys key).mpr hkey)
      exact hreject ⟨hfits.1, htop, hunder, hfits.2, ⟨_, hb⟩, ⟨_, hd⟩⟩
    obtain ⟨message, hmessage⟩ := validated_error hinvalid
    refine ⟨message, h', ?_, hext⟩
    rw [hrun]
    show (validated py (files.expanduser path) (h'.read a), h') = _
    rw [hmessage]
  · obtain ⟨message, h', hrun, hext⟩ := normalize_config_data_error hraw hfits
    rw [hrun]
    exact ⟨message, h', rfl, hext⟩

theorem HoldsChosen.unique {config config' : RuntimeConfig}
    (hchosen : HoldsChosen py h raw config) (hchosen' : HoldsChosen py h raw config') :
    config = config' := by
  have hkv : config.kv_cache = config'.kv_cache :=
    Except.ok.inj (hchosen.kv_cache.symm.trans hchosen'.kv_cache)
  have hdevice : config.target_device = config'.target_device :=
    Except.ok.inj (hchosen.target_device.symm.trans hchosen'.target_device)
  exact congrArg₂ RuntimeConfig.mk hkv hdevice

/-- The configurations that a document gives. -/
theorem load_runtime_config_iff (hparse : Parses files path document raw) (h₀ : Mappings α β)
    (config : RuntimeConfig) :
    (run (load_runtime_config py files (some path)) h₀).1 = .ok config ↔
      Accepted py document.mappings raw ∧ HoldsChosen py document.mappings raw config := by
  by_cases haccept : Accepted py document.mappings raw
  · obtain ⟨config', h', hrun, -, hchosen⟩ := load_runtime_config_ok hparse haccept h₀
    rw [hrun]
    constructor
    · intro heq
      cases heq
      exact ⟨haccept, hchosen⟩
    · rintro ⟨-, hchosen'⟩
      rw [hchosen.unique hchosen']
  · obtain ⟨message, h', hrun, -⟩ := load_runtime_config_error hparse haccept h₀
    rw [hrun]
    constructor
    · intro heq
      cases heq
    · rintro ⟨haccept', -⟩
      exact absurd haccept' haccept

end load

/-! ## Section 4: Documents that spell the same settings -/

/-- A value in two heaps; `R` relates the mappings. -/
inductive SameValue (R : Nat → Nat → Prop) : Value α → Value α → Prop where
  | mapping {a a' : Nat} : R a a' → SameValue R (.mapping a) (.mapping a')
  | plain {value : Value α} : (∀ a, value ≠ .mapping a) → SameValue R value value

/-- Related mappings have the same entries. -/
def SameEntries (R : Nat → Nat → Prop) (h h' : Mappings α β) : Prop :=
  ∀ a a', R a a' → ∀ key,
    Option.Rel (SameValue R) ((h.read a).lookup key) ((h'.read a').lookup key)

/-- The value of a setting and how it may be written; the value of `kv_cache`
    also as `{enabled: value}`. -/
inductive Spelling (R : Nat → Nat → Prop) (h' : Mappings α β) :
    String → Value α → Value α → Prop where
  | same {name : String} {value value' : Value α} :
      SameValue R value value' → Spelling R h' name value value'
  | enabled {name : String} {value : Value α} {m : Nat} :
      name = "kv_cache" → (∀ a, value ≠ .mapping a) →
      h'.read m = AList.singleton (.str "enabled") value →
      Spelling R h' name value (.mapping m)

def settings : List String := ["kv_cache", "target_device"]

theorem kv_cache_mem : "kv_cache" ∈ settings := List.mem_cons_self

theorem target_device_mem : "target_device" ∈ settings :=
  List.mem_cons_of_mem _ List.mem_cons_self

/-- The document at `raw'` has the settings of the flat one at `raw`, the `moved`
    ones under `model`. -/
structure Respelled (R : Nat → Nat → Prop) (moved : Set String) (h : Mappings α β) (raw : Nat)
    (h' : Mappings α β) (raw' : Nat) : Prop where
  entries : SameEntries R h h'
  flat : ∀ key ∈ h.read raw, ∃ name ∈ settings, key = .str name
  model : ∀ value, (h'.read raw').lookup (.str "model") = some value →
    ∃ model_config, value = .mapping model_config
  keys : ∀ key ∈ h'.read raw', key = .str "model" ∨ ∃ name ∈ settings, key = .str name
  model_keys : ∀ key ∈ under h' raw', ∃ name ∈ settings, key = .str name
  kept : ∀ name ∈ settings, name ∉ moved → Key.str name ∉ under h' raw' ∧
    Option.Rel (Spelling R h' name) ((h.read raw).lookup (.str name))
      ((h'.read raw').lookup (.str name))
  moved : ∀ name ∈ settings, name ∈ moved → Key.str name ∉ h'.read raw' ∧
    Option.Rel (Spelling R h' name) ((h.read raw).lookup (.str name))
      ((under h' raw').lookup (.str name))

section respelled

variable {R : Nat → Nat → Prop} {moved : Set String} {py : Builtins α β}

theorem SameEntries.mem (hentries : SameEntries R h h') {a a' : Nat} (hR : R a a')
    (key : Key β) : key ∈ h.read a ↔ key ∈ h'.read a' := by
  have hrel := hentries a a' hR key
  rw [← AList.lookup_isSome, ← AList.lookup_isSome]
  generalize (h.read a).lookup key = value at *
  generalize (h'.read a').lookup key = value' at *
  cases hrel with
  | none => exact Iff.rfl
  | some => exact Iff.rfl

omit [DecidableEq β] in
theorem SameValue.validate_bool {value value' : Value α} (hsame : SameValue R value value') :
    validate_bool py value = validate_bool py value' := by
  cases hsame with
  | mapping => rfl
  | plain => rfl

omit [DecidableEq β] in
theorem SameValue.validate_target_device {value value' : Value α}
    (hsame : SameValue R value value') :
    validate_target_device py value = validate_target_device py value' := by
  cases hsame with
  | mapping => rfl
  | plain => rfl

theorem unwrapped_plain {value : Value α} (hplain : ∀ a, value ≠ .mapping a) :
    unwrapped h value = some value := by
  cases value with
  | mapping m => exact absurd rfl (hplain m)
  | null | bool | str | other => rfl

/-- What a respelled `kv_cache` stands for. -/
theorem Spelling.unwrapped {value value' : Value α} (hentries : SameEntries R h h')
    (hspell : Spelling R h' "kv_cache" value value') :
    Option.Rel (SameValue R) (unwrapped h value) (unwrapped h' value') := by
  cases hspell with
  | same hsame =>
    cases hsame with
    | mapping hR => exact hentries _ _ hR (.str "enabled")
    | plain hplain =>
      rw [unwrapped_plain hplain, unwrapped_plain hplain]
      exact .some (.plain hplain)
  | enabled _ hplain hread =>
    rw [unwrapped_plain hplain]
    show Option.Rel (SameValue R) _ ((h'.read _).lookup (.str "enabled"))
    rw [hread, ← AList.insert_empty, AList.lookup_insert]
    exact .some (.plain hplain)

omit [DecidableEq β] in
/-- A respelled `target_device` is the same value. -/
theorem Spelling.device {value value' : Value α}
    (hspell : Spelling R h' "target_device" value value') : SameValue R value value' := by
  cases hspell with
  | same hsame => exact hsame
  | enabled hname => exact absurd hname (by simp)

/-- A flat document has nothing under `model`. -/
theorem Respelled.under_flat (hrespelled : Respelled R moved h raw h' raw') :
    Key.str "model" ∉ h.read raw ∧ under h raw = ∅ := by
  have hmodel : Key.str "model" ∉ h.read raw := by
    intro hmem
    obtain ⟨name, hname, heq⟩ := hrespelled.flat _ hmem
    cases heq
    simp [settings] at hname
  refine ⟨hmodel, ?_⟩
  unfold under
  rw [AList.lookup_eq_none.mpr hmodel]

/-- The chosen values are respelled ones. -/
theorem Respelled.chosen (hrespelled : Respelled R moved h raw h' raw') (name : String)
    (hname : name ∈ settings) :
    Option.Rel (Spelling R h' name) (chosen h raw name) (chosen h' raw' name) := by
  unfold Config.chosen
  rw [hrespelled.under_flat.2, AList.lookup_empty, Option.or_none]
  by_cases hmoved : name ∈ moved
  · obtain ⟨htop, hrel⟩ := hrespelled.moved name hname hmoved
    rw [AList.lookup_eq_none.mpr htop, Option.none_or]
    exact hrel
  · obtain ⟨hunder, hrel⟩ := hrespelled.kept name hname hmoved
    rw [AList.lookup_eq_none.mpr hunder, Option.or_none]
    exact hrel

theorem Respelled.kv_cache (hrespelled : Respelled R moved h raw h' raw') :
    field (validate_bool py) true (chosen_kv_cache h raw) =
      field (validate_bool py) true (chosen_kv_cache h' raw') := by
  have hchosen := hrespelled.chosen "kv_cache" kv_cache_mem
  unfold chosen_kv_cache
  generalize Config.chosen h raw "kv_cache" = value at *
  generalize Config.chosen h' raw' "kv_cache" = value' at *
  cases hchosen with
  | none => rfl
  | some hspell =>
    have hstands := hspell.unwrapped hrespelled.entries
    rw [Option.bind_some, Option.bind_some]
    generalize Config.unwrapped h _ = stands at *
    generalize Config.unwrapped h' _ = stands' at *
    cases hstands with
    | none => rfl
    | some hsame => exact hsame.validate_bool

theorem Respelled.target_device (hrespelled : Respelled R moved h raw h' raw') :
    field (validate_target_device py) "auto" (Config.chosen h raw "target_device") =
      field (validate_target_device py) "auto" (Config.chosen h' raw' "target_device") := by
  have hchosen := hrespelled.chosen "target_device" target_device_mem
  generalize Config.chosen h raw "target_device" = value at *
  generalize Config.chosen h' raw' "target_device" = value' at *
  cases hchosen with
  | none => rfl
  | some hspell => exact hspell.device.validate_target_device

/-- A mapping in one place is one in the other with the same `enabled`, or the respelling
    of a value that needs none. -/
theorem Respelled.enabled (hrespelled : Respelled R moved h raw h' raw') :
    EnabledGiven h raw ↔ EnabledGiven h' raw' := by
  have hchosen := hrespelled.chosen "kv_cache" kv_cache_mem
  unfold EnabledGiven
  generalize Config.chosen h raw "kv_cache" = value at *
  generalize Config.chosen h' raw' "kv_cache" = value' at *
  cases hchosen with
  | none => simp
  | some hspell =>
    cases hspell with
    | same hsame =>
      cases hsame with
      | mapping hR => simpa using hrespelled.entries.mem hR (.str "enabled")
      | plain hplain => simp [hplain]
    | enabled _ hplain hread => simp [hplain, hread, AList.mem_keys]

theorem Respelled.accepted (hrespelled : Respelled R moved h raw h' raw') :
    Accepted py h raw ↔ Accepted py h' raw' := by
  have hsetting : ∀ key : Key β, (∃ name ∈ settings, key = .str name) →
      key = .str "kv_cache" ∨ key = .str "target_device" := by
    intro key hkey
    simpa [settings] using hkey
  obtain ⟨hmodel, hunder⟩ := hrespelled.under_flat
  constructor
  · intro haccept
    refine ⟨fun value hvalue => Or.inr (hrespelled.model value hvalue), ?_, ?_,
      hrespelled.enabled.mp haccept.enabled, ?_, ?_⟩
    · intro key hkey
      have hkeys := (hrespelled.keys key hkey).imp_right (hsetting key)
      tauto
    · intro key hkey
      have hkeys := hsetting key (hrespelled.model_keys key hkey)
      tauto
    · rw [← hrespelled.kv_cache]
      exact haccept.kv_cache
    · rw [← hrespelled.target_device]
      exact haccept.target_device
  · intro haccept
    refine ⟨?_, ?_, ?_, hrespelled.enabled.mpr haccept.enabled, ?_, ?_⟩
    · intro value hvalue
      rw [AList.lookup_eq_none.mpr hmodel] at hvalue
      cases hvalue
    · intro key hkey
      have hkeys := hsetting key (hrespelled.flat key hkey)
      tauto
    · intro key hkey
      rw [hunder] at hkey
      exact absurd hkey (AList.notMem_empty key)
    · rw [hrespelled.kv_cache]
      exact haccept.kv_cache
    · rw [hrespelled.target_device]
      exact haccept.target_device

theorem Respelled.holdsChosen (hrespelled : Respelled R moved h raw h' raw')
    (config : RuntimeConfig) : HoldsChosen py h raw config ↔ HoldsChosen py h' raw' config := by
  constructor
  · rintro ⟨hkv, hdevice⟩
    exact ⟨hrespelled.kv_cache ▸ hkv, hrespelled.target_device ▸ hdevice⟩
  · rintro ⟨hkv, hdevice⟩
    exact ⟨hrespelled.kv_cache ▸ hkv, hrespelled.target_device ▸ hdevice⟩

end respelled

/-! ## Section 5: The law of spellings -/

/-- An accepted document gives the chosen values, as they are validated, and any other a
    `ValueError`; the mappings of the document are left as they are. A flat document and
    a respelling of it give the same configuration, or none. -/
theorem config_spellings (py : Builtins α β) (files : Files α β) :
    (∀ path document raw, Parses files path document raw → ∀ h₀,
      ∃ h', document.mappings.Extends h' ∧
        (Accepted py document.mappings raw → ∃ config,
          run (load_runtime_config py files (some path)) h₀ = (.ok config, h') ∧
            HoldsChosen py document.mappings raw config) ∧
        (¬ Accepted py document.mappings raw → ∃ message,
          run (load_runtime_config py files (some path)) h₀ =
            (.error (.ValueError message), h'))) ∧
    ∀ path document raw, Parses files path document raw →
      ∀ path' document' raw', Parses files path' document' raw' →
      ∀ R moved, Respelled R moved document.mappings raw document'.mappings raw' →
      ∀ h₀ h₀' config,
        (run (load_runtime_config py files (some path)) h₀).1 = .ok config ↔
          (run (load_runtime_config py files (some path')) h₀').1 = .ok config := by
  constructor
  · intro path document raw hparse h₀
    by_cases haccept : Accepted py document.mappings raw
    · obtain ⟨config, h', hrun, hext, hchosen⟩ := load_runtime_config_ok hparse haccept h₀
      exact ⟨h', hext, fun _ => ⟨config, hrun, hchosen⟩, fun hreject => absurd haccept hreject⟩
    · obtain ⟨message, h', hrun, hext⟩ := load_runtime_config_error hparse haccept h₀
      exact ⟨h', hext, fun haccept' => absurd haccept' haccept, fun _ => ⟨message, hrun⟩⟩
  · intro path document raw hparse path' document' raw' hparse' R moved hrespelled h₀ h₀' config
    rw [load_runtime_config_iff hparse, load_runtime_config_iff hparse', hrespelled.accepted,
      hrespelled.holdsChosen]

/-! ### Two spellings -/

/-- A mapping with string keys, written out. -/
def mapping_of (entries : List (String × Value α)) : Mapping α β :=
  (entries.map fun entry => ⟨.str entry.1, entry.2⟩).toAList

theorem lookup_mapping_of {entries : List (String × Value α)} {key : Key β} {value : Value α}
    (hvalue : (mapping_of entries).lookup key = some value) :
    ∃ entry ∈ entries, key = .str entry.1 ∧ entry.2 = value := by
  unfold mapping_of at hvalue
  rw [AList.lookup_to_alist] at hvalue
  obtain ⟨entry, hentry, heq⟩ := List.mem_map.mp (List.of_mem_dlookup hvalue)
  cases heq
  exact ⟨entry, hentry, rfl, rfl⟩

theorem mem_mapping_of {entries : List (String × Value α)} {key : Key β}
    (hkey : key ∈ (mapping_of entries : Mapping α β)) :
    ∃ entry ∈ entries, key = .str entry.1 := by
  obtain ⟨value, hvalue⟩ := Option.isSome_iff_exists.mp (AList.lookup_isSome.mpr hkey)
  obtain ⟨entry, hentry, heq, -⟩ := lookup_mapping_of hvalue
  exact ⟨entry, hentry, heq⟩

omit [DecidableEq β] in
theorem top_lt {n a : Nat} (hn : 0 < n) (ha : (Value.mapping 0 : Value α) = .mapping a) :
    a < n := by
  cases ha
  exact hn

/-- `lower` and the strings for `bool` on ASCII text. -/
def ascii : Builtins Unit Unit where
  lower text := String.ofList (text.toList.map Char.toLower)
  bool_of_str text :=
    if text ∈ ["1", "on", "t", "true", "y", "yes"] then .ok true
    else if text ∈ ["0", "off", "f", "false", "n", "no"] then .ok false
    else .error "Input should be a valid boolean, unable to interpret input"
  bool_of_other _ := .error "Input should be a valid boolean"
  str_of_other _ := .error "Input should be a valid string"
  str_exc errors := String.join (errors.map ErrorDetails.msg)

/-- `kv_cache: "no"` and `target_device: " CPU "`. -/
def flat_mappings : Mappings Unit Unit where
  next := 1
  cells _ := mapping_of [("kv_cache", .str "no"), ("target_device", .str " CPU ")]

theorem flat_entry_lt (a : Nat) (_ : a < flat_mappings.next) (key : Key Unit) (b : Nat)
    (hb : (flat_mappings.read a).lookup key = some (.mapping b)) : b < flat_mappings.next := by
  obtain ⟨entry, hentry, -, hvalue⟩ := lookup_mapping_of hb
  rcases List.mem_pair.mp hentry with rfl | rfl
  · cases hvalue
  · cases hvalue

def flat_document : Document Unit Unit where
  mappings := flat_mappings
  value := .mapping 0
  value_lt _ := top_lt Nat.zero_lt_one
  entry_lt := flat_entry_lt

/-- The same with `kv_cache: {enabled: "no"}` under `model`. -/
def nested_mappings : Mappings Unit Unit where
  next := 3
  cells a :=
    if a = 0 then mapping_of [("model", .mapping 1), ("target_device", .str " CPU ")]
    else if a = 1 then mapping_of [("kv_cache", .mapping 2)]
    else mapping_of [("enabled", .str "no")]

theorem nested_entry_lt (a : Nat) (_ : a < nested_mappings.next) (key : Key Unit) (b : Nat)
    (hb : (nested_mappings.read a).lookup key = some (.mapping b)) : b < nested_mappings.next := by
  show b < 3
  unfold nested_mappings DictHeap.read at hb
  dsimp only at hb
  split_ifs at hb
  all_goals
    obtain ⟨entry, hentry, -, hvalue⟩ := lookup_mapping_of hb
    simp only [List.mem_cons, List.not_mem_nil, or_false] at hentry
  · rcases hentry with rfl | rfl
    · cases hvalue
      decide
    · cases hvalue
  · cases hentry
    cases hvalue
    decide
  · cases hentry
    cases hvalue

def nested_document : Document Unit Unit where
  mappings := nested_mappings
  value := .mapping 0
  value_lt _ := top_lt (Nat.zero_lt_succ 2)
  entry_lt := nested_entry_lt

def two_files : Files Unit Unit where
  expanduser path := path
  is_file path := decide (path ∈ ["flat.yaml", "nested.yaml"])
  safe_load path := if path = "flat.yaml" then .ok flat_document else .ok nested_document

theorem flat_parses : Parses two_files "flat.yaml" flat_document 0 := ⟨rfl, rfl, rfl⟩

theorem nested_parses : Parses two_files "nested.yaml" nested_document 0 := ⟨rfl, rfl, rfl⟩

theorem nested_respelled :
    Respelled (fun _ _ => False) {"kv_cache"} flat_mappings 0 nested_mappings 0 := by
  have hunder : under nested_mappings 0 = mapping_of [("kv_cache", .mapping 2)] := rfl
  constructor
  · intro a a' hR
    cases hR
  · intro key hkey
    obtain ⟨entry, hentry, rfl⟩ := mem_mapping_of hkey
    rcases List.mem_pair.mp hentry with rfl | rfl
    · exact ⟨_, kv_cache_mem, rfl⟩
    · exact ⟨_, target_device_mem, rfl⟩
  · intro value hvalue
    have hmodel : (nested_mappings.read 0).lookup (.str "model") = some (.mapping 1) := rfl
    rw [hmodel] at hvalue
    cases hvalue
    exact ⟨1, rfl⟩
  · intro key hkey
    obtain ⟨entry, hentry, rfl⟩ := mem_mapping_of hkey
    rcases List.mem_pair.mp hentry with rfl | rfl
    · exact Or.inl rfl
    · exact Or.inr ⟨_, target_device_mem, rfl⟩
  · intro key hkey
    rw [hunder] at hkey
    obtain ⟨entry, hentry, rfl⟩ := mem_mapping_of hkey
    rw [List.mem_singleton.mp hentry]
    exact ⟨_, kv_cache_mem, rfl⟩
  · intro name hname hkept
    -- only `target_device` stays at the top
    have hdevice : name = "target_device" := by
      simpa [settings, Set.mem_singleton_iff.not.mp hkept] using hname
    subst hdevice
    exact ⟨by decide, .some (.same (.plain (by simp)))⟩
  · intro name hname hmoved
    rw [Set.mem_singleton_iff.mp hmoved]
    exact ⟨by decide, .some (.enabled rfl (by simp) rfl)⟩

theorem config_spellings_nested :
    (run (load_runtime_config ascii two_files (some "nested.yaml")) nested_mappings).1 =
      .ok { kv_cache := false, target_device := "cpu" } := by
  have hflat : (run (load_runtime_config ascii two_files (some "flat.yaml")) flat_mappings).1 =
      .ok { kv_cache := false, target_device := "cpu" } := rfl
  exact ((config_spellings ascii two_files).2 _ _ _ flat_parses _ _ _ nested_parses _ _
    nested_respelled _ _ _).mp hflat

/-- The device is not returned as it is written. -/
theorem device_is_normalized :
    Accepted ascii flat_mappings 0 ∧
      chosen flat_mappings 0 "target_device" = some (.str " CPU ") ∧
      (run (load_runtime_config ascii two_files (some "flat.yaml")) flat_mappings).1 =
        .ok { kv_cache := false, target_device := "cpu" } ∧
      "cpu" ≠ " CPU " := by
  have hrun : (run (load_runtime_config ascii two_files (some "flat.yaml")) flat_mappings).1 =
      .ok { kv_cache := false, target_device := "cpu" } := rfl
  exact ⟨((load_runtime_config_iff flat_parses _ _).mp hrun).1, rfl, hrun, by decide⟩

end Config
