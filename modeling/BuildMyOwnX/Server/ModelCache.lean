import BuildMyOwnX.Framework.Interleave
import BuildMyOwnX.Framework.LruCache
import BuildMyOwnX.Server.Completions

/-! # The Model Cache under Concurrent Requests

    `app.state.get_model` of `server.py`, which `@lru_cache` wraps: requests run in
    threads and load their models through one cache of 128 entries. A load is
    slow and leaves the cache to the other threads, so the loads of one name may
    overlap; a lookup, and storing a model that has been loaded, are one step
    each. A load that fails is not stored, and is made again for the next
    request.

    Under every schedule of the threads the cache stays coherent
    (`model_cache_coherent`): its keys are the last used names, its entries were
    loaded under their names, and each thread gets what a load of its own name
    gave. If loads always give the same, the cache cannot be told from calling
    `GPT2` anew (`model_cache_transparent`). While no more than 128 names are
    asked for, a name that has loaded is not loaded again
    (`model_cache_no_reload`).
-/

namespace Server

open Interleave (Config turn run)

/-! ## Section 1: The threads -/

/-- The default `maxsize` of `lru_cache`. -/
def cache_maxsize : Nat := 128

/-- Where a thread is in `get_requested_model`. -/
inductive Phase (M : Type)
  | start
  /-- In the call of `GPT2`, the load of this number. -/
  | loading (ticket : Nat)
  | returned (result : Except Raised M)

/-- What the threads share. The last two fields are a record for the theorems. -/
structure Models (M : Type) where
  cache : LruCache String M cache_maxsize
  /-- The names of the loads begun, in order. -/
  loads : List String
  /-- The names looked up or stored, the latest first. -/
  uses : List String

def Models.initial {M : Type} : Models M := ⟨.empty, [], []⟩

section thread

variable {M : Type} (load : (ticket : Nat) → (model_name : String) → Except String M)
  (model_name : String)

/-- What `get_requested_model` makes of the outcome of `app.state.get_model`. -/
def requested (outcome : Except String M) : Except Raised M :=
  get_requested_model (fun _ => outcome) "Failed to load model" model_name

/-- A turn of the thread. -/
def get_model_turn : Phase M → Models M → Phase M × Models M
  | .start, s =>
    let normalized_model_name := PyString.strip model_name
    if normalized_model_name = "" then
      (.returned (.error (.http_exception 422 "`model` cannot be empty.")), s)
    else
      match s.cache.find normalized_model_name with
      | some model =>
        (.returned (requested model_name (.ok model)),
          { s with
            cache := s.cache.touch normalized_model_name
            uses := normalized_model_name :: s.uses })
      | none =>
        (.loading s.loads.length, { s with loads := s.loads ++ [normalized_model_name] })
  | .loading ticket, s =>
    let normalized_model_name := PyString.strip model_name
    match load ticket normalized_model_name with
    | .ok model =>
      (.returned (requested model_name (.ok model)),
        { s with
          cache := s.cache.insert normalized_model_name model
          -- another thread may have stored it first, then nothing changes
          uses := if normalized_model_name ∈ s.cache.keys then s.uses
            else normalized_model_name :: s.uses })
    | .error exc => (.returned (requested model_name (.error exc)), s)
  | .returned result, s => (.returned result, s)

end thread

variable {ι M : Type} [DecidableEq ι] (load : (ticket : Nat) → String → Except String M)
  (model_names : ι → String)

/-- The threads, one for each request, under a schedule. -/
def run_threads (schedule : List ι) : Config (fun _ : ι => Phase M) (Models M) :=
  run (fun i => get_model_turn load (model_names i)) ⟨fun _ => .start, .initial⟩ schedule

/-- What a turn can do. -/
inductive Turned (model_name : String) : Phase M → Models M → Phase M → Models M → Prop
  | blank {s : Models M} (hname : PyString.strip model_name = "") :
    Turned model_name .start s
      (.returned (.error (.http_exception 422 "`model` cannot be empty."))) s
  | hit {s : Models M} {model : M} (hname : PyString.strip model_name ≠ "")
      (hfind : s.cache.find (PyString.strip model_name) = some model) :
    Turned model_name .start s (.returned (requested model_name (.ok model)))
      { s with
        cache := s.cache.touch (PyString.strip model_name)
        uses := PyString.strip model_name :: s.uses }
  | miss {s : Models M} (hname : PyString.strip model_name ≠ "")
      (hfind : s.cache.find (PyString.strip model_name) = none) :
    Turned model_name .start s (.loading s.loads.length)
      { s with loads := s.loads ++ [PyString.strip model_name] }
  | stored {s : Models M} {ticket : Nat} {model : M}
      (hload : load ticket (PyString.strip model_name) = .ok model)
      (hnew : PyString.strip model_name ∉ s.cache.keys) :
    Turned model_name (.loading ticket) s (.returned (requested model_name (.ok model)))
      { s with
        cache := s.cache.insert (PyString.strip model_name) model
        uses := PyString.strip model_name :: s.uses }
  | stored_before {s : Models M} {ticket : Nat} {model : M}
      (hload : load ticket (PyString.strip model_name) = .ok model)
      (hold : PyString.strip model_name ∈ s.cache.keys) :
    Turned model_name (.loading ticket) s (.returned (requested model_name (.ok model))) s
  | failed {s : Models M} {ticket : Nat} {exc : String}
      (hload : load ticket (PyString.strip model_name) = .error exc) :
    Turned model_name (.loading ticket) s (.returned (requested model_name (.error exc))) s
  | waiting {s : Models M} {result : Except Raised M} :
    Turned model_name (.returned result) s (.returned result) s

theorem turned (model_name : String) (phase : Phase M) (s : Models M) :
    Turned load model_name phase s (get_model_turn load model_name phase s).1
      (get_model_turn load model_name phase s).2 := by
  cases phase with
  | start =>
    unfold get_model_turn
    dsimp only
    by_cases hname : PyString.strip model_name = ""
    · rw [if_pos hname]
      exact .blank hname
    · rw [if_neg hname]
      cases hfind : s.cache.find (PyString.strip model_name) with
      | none => exact .miss hname hfind
      | some model => exact .hit hname hfind
  | loading ticket =>
    unfold get_model_turn
    dsimp only
    cases hload : load ticket (PyString.strip model_name) with
    | error exc => exact .failed hload
    | ok model =>
      -- another thread may have stored the name in the meantime
      by_cases hold : PyString.strip model_name ∈ s.cache.keys
      · have hkeep : s.cache.insert (PyString.strip model_name) model = s.cache := dif_pos hold
        dsimp only
        rw [hkeep, if_pos hold]
        exact .stored_before hload hold
      · dsimp only
        rw [if_neg hold]
        exact .stored hload hold
  | returned result => exact .waiting

/-! ## Section 2: The invariant -/

/-- Some load of the name gave this outcome. -/
def Loaded (loads : List String) (name : String) (outcome : Except String M) : Prop :=
  ∃ ticket, loads[ticket]? = some name ∧ load ticket name = outcome

/-- What is known of a thread. -/
def ThreadInv (model_name : String) (s : Models M) : Phase M → Prop
  | .start => True
  | .loading ticket =>
    PyString.strip model_name ≠ "" ∧ s.loads[ticket]? = some (PyString.strip model_name)
  | .returned result =>
    PyString.strip model_name = "" ∧
        result = .error (.http_exception 422 "`model` cannot be empty.") ∨
      PyString.strip model_name ≠ "" ∧ ∃ outcome,
        Loaded load s.loads (PyString.strip model_name) outcome ∧
        (outcome.isOk → PyString.strip model_name ∈ s.uses) ∧
        result = requested model_name outcome

/-- The cache follows the uses, which are of names asked for, and its entries
    have been loaded under their names. -/
structure ModelsInv (s : Models M) : Prop where
  follows : s.cache.Follows s.uses
  uses : ∀ name ∈ s.uses, ∃ i, PyString.strip (model_names i) = name
  entries : ∀ name model, (name, model) ∈ s.cache.entries → Loaded load s.loads name (.ok model)

structure CacheInv (c : Config (fun _ : ι => Phase M) (Models M)) : Prop where
  models : ModelsInv load model_names c.shared
  threads : ∀ i, ThreadInv load (model_names i) c.shared (c.locals i)

variable {load model_names}

/-- The record only grows. -/
structure Models.Extends (s s' : Models M) : Prop where
  loads : s.loads <+: s'.loads
  uses : s.uses <:+ s'.uses

theorem Models.Extends.refl (s : Models M) : s.Extends s :=
  ⟨List.prefix_refl _, List.suffix_refl _⟩

theorem Turned.extends {model_name : String} {phase phase' : Phase M} {s s' : Models M}
    (h : Turned load model_name phase s phase' s') : s.Extends s' := by
  cases h with
  | miss => exact ⟨List.prefix_append _ _, List.suffix_refl _⟩
  | hit | stored => exact ⟨List.prefix_refl _, List.suffix_cons _ _⟩
  | blank | stored_before | failed | waiting => exact .refl _

theorem getElem?_of_prefix {loads loads' : List String} (h : loads <+: loads') {ticket : Nat}
    {name : String} (hticket : loads[ticket]? = some name) : loads'[ticket]? = some name := by
  obtain ⟨rest, rfl⟩ := h
  obtain ⟨hlt, -⟩ := List.getElem?_eq_some_iff.mp hticket
  rw [List.getElem?_append_left hlt, hticket]

theorem Loaded.mono {loads loads' : List String} {name : String} {outcome : Except String M}
    (h : Loaded load loads name outcome) (hloads : loads <+: loads') :
    Loaded load loads' name outcome := by
  obtain ⟨ticket, hticket, hload⟩ := h
  exact ⟨ticket, getElem?_of_prefix hloads hticket, hload⟩

theorem ThreadInv.mono {model_name : String} {s s' : Models M} {phase : Phase M}
    (h : ThreadInv load model_name s phase) (hs : s.Extends s') :
    ThreadInv load model_name s' phase := by
  cases phase with
  | start => trivial
  | loading ticket => exact ⟨h.1, getElem?_of_prefix hs.loads h.2⟩
  | returned result =>
    rcases h with hblank | ⟨hname, outcome, hloaded, huse, hresult⟩
    · exact Or.inl hblank
    · exact Or.inr ⟨hname, outcome, hloaded.mono hs.loads,
        fun hok => hs.uses.subset (huse hok), hresult⟩

omit [DecidableEq ι] in
/-- The thread itself after its turn. -/
theorem Turned.thread_inv {model_name : String} {phase phase' : Phase M} {s s' : Models M}
    (h : Turned load model_name phase s phase' s') (hmodels : ModelsInv load model_names s)
    (hthread : ThreadInv load model_name s phase) : ThreadInv load model_name s' phase' := by
  cases h with
  | blank hname => exact Or.inl ⟨hname, rfl⟩
  | hit hname hfind =>
    have hloaded := hmodels.entries _ _ (LruCache.mem_of_find hfind)
    exact Or.inr ⟨hname, _, hloaded, fun _ => List.mem_cons_self, rfl⟩
  | miss hname => exact ⟨hname, List.getElem?_concat_length⟩
  | stored hload =>
    exact Or.inr ⟨hthread.1, _, ⟨_, hthread.2, hload⟩, fun _ => List.mem_cons_self, rfl⟩
  | stored_before hload hold =>
    exact Or.inr ⟨hthread.1, _, ⟨_, hthread.2, hload⟩, fun _ => hmodels.follows.mem_uses hold, rfl⟩
  | failed hload =>
    exact Or.inr ⟨hthread.1, _, ⟨_, hthread.2, hload⟩, fun hok => (by cases hok), rfl⟩
  | waiting => exact hthread

omit [DecidableEq ι] in
/-- The models after the turn of a thread. -/
theorem Turned.models_inv {i : ι} {phase phase' : Phase M} {s s' : Models M}
    (h : Turned load (model_names i) phase s phase' s') (hmodels : ModelsInv load model_names s)
    (hthread : ThreadInv load (model_names i) s phase) : ModelsInv load model_names s' := by
  have huses : ∀ name ∈ PyString.strip (model_names i) :: s.uses,
      ∃ j, PyString.strip (model_names j) = name := by
    intro name hname
    rcases List.mem_cons.mp hname with rfl | hold
    · exact ⟨i, rfl⟩
    · exact hmodels.uses name hold
  cases h with
  | hit hname hfind =>
    -- what was found is a key, so moving it to the front is a use of it
    have hkey : PyString.strip (model_names i) ∈ s.cache.keys := by
      by_contra hno
      rw [LruCache.find_eq_none.mpr hno] at hfind
      cases hfind
    refine ⟨hmodels.follows.touch hkey, huses, ?_⟩
    intro name model hmem
    exact hmodels.entries name model (LruCache.mem_touch.mp hmem)
  | miss hname =>
    refine ⟨hmodels.follows, hmodels.uses, ?_⟩
    intro name model hmem
    exact (hmodels.entries name model hmem).mono (List.prefix_append _ _)
  | stored hload hnew =>
    refine ⟨hmodels.follows.insert hnew _, huses, ?_⟩
    intro name model hmem
    rcases LruCache.mem_insert hmem with heq | hold
    · cases heq
      exact ⟨_, hthread.2, hload⟩
    · exact hmodels.entries name model hold
  | blank | stored_before | failed | waiting => exact hmodels

theorem CacheInv.turn {c : Config (fun _ : ι => Phase M) (Models M)}
    (h : CacheInv load model_names c) (i : ι) :
    CacheInv load model_names (turn (fun i => get_model_turn load (model_names i)) c i) := by
  have hturned := turned load (model_names i) (c.locals i) c.shared
  refine ⟨hturned.models_inv h.models (h.threads i), ?_⟩
  intro j
  by_cases hj : j = i
  · subst hj
    rw [Interleave.turn_self]
    exact hturned.thread_inv h.models (h.threads j)
  · rw [Interleave.turn_other c hj]
    exact (h.threads j).mono hturned.extends

omit [DecidableEq ι] in
theorem models_inv_initial (load : (ticket : Nat) → String → Except String M)
    (model_names : ι → String) : ModelsInv load model_names .initial := by
  refine ⟨LruCache.Follows.empty, ?_, ?_⟩
  · intro name hmem
    cases hmem
  · intro name model hmem
    cases hmem

theorem cache_inv (schedule : List ι) :
    CacheInv load model_names (run_threads load model_names schedule) := by
  refine Interleave.run_config_rule (CacheInv load model_names) ?_ (fun c i h => h.turn i) schedule
  exact ⟨models_inv_initial load model_names, fun i => trivial⟩

/-! ## Section 3: Whole runs -/

/-- A thread that was blank, or got what a load of its name gave. -/
def GotOwn (load : (ticket : Nat) → String → Except String M) (loads : List String)
    (model_name : String) (result : Except Raised M) : Prop :=
  PyString.strip model_name = "" ∧
      result = .error (.http_exception 422 "`model` cannot be empty.") ∨
    PyString.strip model_name ≠ "" ∧ ∃ outcome,
      Loaded load loads (PyString.strip model_name) outcome ∧ result = requested model_name outcome

structure Coherent (load : (ticket : Nat) → String → Except String M) (model_names : ι → String)
    (schedule : List ι) (c : Config (fun _ : ι => Phase M) (Models M)) : Prop where
  keys : c.shared.cache.keys = (recent c.shared.uses).take cache_maxsize
  entries : ∀ name model, c.shared.cache.find name = some model →
    Loaded load c.shared.loads name (.ok model)
  results : ∀ i result, c.locals i = .returned result →
    GotOwn load c.shared.loads (model_names i) result
  /-- No thread waits for another. -/
  returns : ∀ i, 2 ≤ schedule.count i → ∃ result, c.locals i = .returned result

/-- The turns that a thread has left. -/
def Phase.turns_left : Phase M → Nat
  | .start => 2
  | .loading _ => 1
  | .returned _ => 0

theorem Turned.turns_left {model_name : String} {phase phase' : Phase M} {s s' : Models M}
    (h : Turned load model_name phase s phase' s') : phase'.turns_left ≤ phase.turns_left - 1 := by
  cases h with
  | blank | hit | stored | stored_before | failed | waiting => exact Nat.zero_le _
  | miss => exact Nat.le_refl _

theorem ThreadInv.got_own {model_name : String} {s : Models M} {result : Except Raised M}
    (h : ThreadInv load model_name s (.returned result)) :
    GotOwn load s.loads model_name result := by
  rcases h with hblank | ⟨hname, outcome, hloaded, -, hrequested⟩
  · exact Or.inl hblank
  · exact Or.inr ⟨hname, outcome, hloaded, hrequested⟩

/-- A hub that always gives the same gives a thread what it has under its name. -/
theorem GotOwn.of_hub {hub : String → Except String M} {loads : List String} {model_name : String}
    {result : Except Raised M} (h : GotOwn (fun _ => hub) loads model_name result) :
    result = get_requested_model hub "Failed to load model" model_name := by
  rcases h with ⟨hname, rfl⟩ | ⟨hname, _, ⟨_, -, rfl⟩, rfl⟩
  · unfold get_requested_model
    dsimp only
    rw [if_pos hname]
  · rfl

theorem got_own {schedule : List ι} {i : ι} {result : Except Raised M}
    (h : (run_threads load model_names schedule).locals i = .returned result) :
    GotOwn load (run_threads load model_names schedule).shared.loads (model_names i) result := by
  have hinv : CacheInv load model_names _ := cache_inv schedule
  have hthread := hinv.threads i
  rw [h] at hthread
  exact hthread.got_own

/-- A thread returns in its second turn at the latest. -/
theorem returned_of_turns {schedule : List ι} {i : ι} (hcount : 2 ≤ schedule.count i) :
    ∃ result, (run_threads load model_names schedule).locals i = .returned result := by
  have hturns : ((run_threads load model_names schedule).locals i).turns_left ≤
      2 - schedule.count i :=
    Interleave.run_turns (fun _ => Phase.turns_left)
      (fun i phase s => (turned load (model_names i) phase s).turns_left) schedule i
  have hzero : ((run_threads load model_names schedule).locals i).turns_left = 0 := by
    omega
  cases hphase : (run_threads load model_names schedule).locals i with
  | start => rw [hphase] at hzero; cases hzero
  | loading ticket => rw [hphase] at hzero; cases hzero
  | returned result => exact ⟨result, rfl⟩

/-- **Coherence of the model cache** under every schedule. -/
theorem model_cache_coherent (load : (ticket : Nat) → String → Except String M)
    (model_names : ι → String) (schedule : List ι) :
    Coherent load model_names schedule (run_threads load model_names schedule) := by
  have hinv : CacheInv load model_names _ := cache_inv schedule
  constructor
  · exact hinv.models.follows
  · intro name model hfind
    exact hinv.models.entries name model (LruCache.mem_of_find hfind)
  · intro i result hresult
    exact got_own hresult
  · intro i hcount
    exact returned_of_turns hcount

/-- **The cache is transparent**: with a hub that always gives the same, each
    thread gets what it would get without the cache. -/
theorem model_cache_transparent (hub : String → Except String M) (model_names : ι → String)
    (schedule : List ι) (i : ι) (hturns : 2 ≤ schedule.count i) :
    (run_threads (fun _ => hub) model_names schedule).locals i =
      .returned (get_requested_model hub "Failed to load model" (model_names i)) := by
  obtain ⟨result, hresult⟩ := returned_of_turns hturns
  rw [hresult, (got_own hresult).of_hub]

omit [DecidableEq ι] in
/-- A used name is in the cache, so its load does not begin. -/
theorem Turned.no_load {names : Finset String} (hnames : ∀ i, PyString.strip (model_names i) ∈ names)
    (hcard : names.card ≤ cache_maxsize) {j : ι} {phase phase' : Phase M} {s s' : Models M}
    (h : Turned load (model_names j) phase s phase' s') (hmodels : ModelsInv load model_names s)
    {name : String} (huse : name ∈ s.uses) : s'.loads.count name = s.loads.count name := by
  have hkey : name ∈ s.cache.keys := by
    have hused : ∀ k ∈ s.uses, k ∈ names := by
      intro k hk
      obtain ⟨i, rfl⟩ := hmodels.uses k hk
      exact hnames i
    exact hmodels.follows.mem_keys hused hcard huse
  cases h with
  -- a load begins only in a miss, and the name would have been found
  | miss hname hfind =>
    have hne : PyString.strip (model_names j) ≠ name := by
      rintro rfl
      exact LruCache.find_eq_none.mp hfind hkey
    dsimp only
    rw [List.count_append, List.count_singleton, if_neg (by simpa using hne), Nat.add_zero]
  | blank | hit | stored | stored_before | failed | waiting => rfl

/-- **Nothing is loaded again**: while at most 128 names are asked for, no load of
    a name begins after a thread has got its model. -/
theorem model_cache_no_reload (load : (ticket : Nat) → String → Except String M)
    (model_names : ι → String) (names : Finset String)
    (hnames : ∀ i, PyString.strip (model_names i) ∈ names) (hcard : names.card ≤ cache_maxsize)
    (before after : List ι) (i : ι) {model : M}
    (hgot : (run_threads load model_names before).locals i = .returned (.ok model)) :
    (run_threads load model_names (before ++ after)).shared.loads.count
        (PyString.strip (model_names i)) =
      (run_threads load model_names before).shared.loads.count
        (PyString.strip (model_names i)) := by
  have hinv : CacheInv load model_names _ := cache_inv before
  -- from here on the name is among the uses, so it stays in the cache
  have huse : PyString.strip (model_names i) ∈
      (run_threads load model_names before).shared.uses := by
    have hthread := hinv.threads i
    rw [hgot] at hthread
    rcases hthread with ⟨-, hresult⟩ | ⟨hname, outcome, -, huse, hresult⟩
    · cases hresult
    · apply huse
      cases outcome with
      | ok m => rfl
      | error exc =>
        unfold requested get_requested_model at hresult
        dsimp only at hresult
        rw [if_neg hname] at hresult
        cases hresult
  have hrun : run_threads load model_names (before ++ after) =
      run (fun i => get_model_turn load (model_names i))
        (run_threads load model_names before) after := Interleave.run_append before after
  rw [hrun]
  refine (Interleave.run_config_rule
    (fun c => CacheInv load model_names c ∧ PyString.strip (model_names i) ∈ c.shared.uses ∧
      c.shared.loads.count (PyString.strip (model_names i)) =
        (run_threads load model_names before).shared.loads.count (PyString.strip (model_names i)))
    ⟨hinv, huse, rfl⟩ ?_ after).2.2
  rintro c j ⟨hc, hkept, hcount⟩
  have hturned := turned load (model_names j) (c.locals j) c.shared
  refine ⟨hc.turn j, hturned.extends.uses.subset hkept, ?_⟩
  rw [← hcount]
  exact hturned.no_load hnames hcard hc.models hkept

/-! ## Section 4: A small instance -/

/-- Two threads that ask for one model. -/
def two_names : Fin 2 → String := ![" gpt2", "gpt2 "]

/-- Each load makes a model of its own. -/
def load_ticket (ticket : Nat) (_ : String) : Except String Nat := .ok ticket

theorem model_cache_transparent_two :
    (run_threads (fun _ => load_ticket 7) two_names [0, 1, 1, 0]).locals 1 =
      .returned (get_requested_model (load_ticket 7) "Failed to load model" "gpt2 ") :=
  model_cache_transparent (load_ticket 7) two_names [0, 1, 1, 0] 1 (by decide)

theorem model_cache_no_reload_two :
    (run_threads load_ticket two_names ([0, 0] ++ [1, 1])).shared.loads.count
        (PyString.strip " gpt2") =
      (run_threads load_ticket two_names [0, 0]).shared.loads.count (PyString.strip " gpt2") := by
  have hgot : (run_threads load_ticket two_names [0, 0]).locals 0 = .returned (.ok 0) := rfl
  exact model_cache_no_reload load_ticket two_names {"gpt2"} (by decide) (by decide) [0, 0] [1, 1]
    0 hgot

end Server
