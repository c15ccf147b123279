import BuildMyOwnX.Server.Concurrent
import BuildMyOwnX.Server.ModelCache

/-! # The Threads of the Server

    A thread of `/v1/completions` from its request to its reply. It asks
    `app.state.get_model` for its model, through the cache that all threads share,
    and then works on its job, drawing from the random state that all threads
    share. So there are two protocols in one schedule: that of `ModelCache` and
    that of `Concurrent`, and a thread goes over from the first to the second.

    The invariants are those of the two parts. A thread that is still loading is
    a thread of the model cache, and the turns of the others keep what is known of
    it; a thread at work does not touch the cache. What a thread replies is
    therefore a matter of its own request and of the draws only
    (`concurrent_server`). The sequential server is one of the schedules
    (`sessions_are_schedules`).
-/

namespace Server

open Interleave (Config turn run)

variable {α : Type} [Field α] {ρ φ : Type}

/-! ## Section 1: Stages -/

/-- What the threads share. -/
structure Shared (α ρ : Type) where
  models : Models (Checkpoint α ρ)
  rng : ρ

/-- Where a thread is. -/
inductive Stage (α ρ : Type)
  /-- In `get_requested_model`. -/
  | loading (phase : Phase (Checkpoint α ρ))
  | working (job : Job α ρ) (p : job.Progress)
  | refused (e : Raised)

/-- The stage after `get_requested_model`. -/
def Stage.loaded (request : CompletionsCreateRequest φ) (result : Except Raised (Checkpoint α ρ)) :
    Stage α ρ :=
  match result >>= checkpoint_job request with
  | .ok job => .working job job.start
  | .error e => .refused e

/-- A turn of a thread, with a hub that always gives the same. -/
def Stage.turn (use_kv_cache : Bool) (hub : String → Except String (Checkpoint α ρ))
    (request : CompletionsCreateRequest φ) : Stage α ρ → Shared α ρ → Stage α ρ × Shared α ρ
  | .loading (.returned result), s => (.loaded request result, s)
  | .loading phase, s =>
    (.loading (get_model_turn (fun _ => hub) request.model phase s.models).1,
      { s with models := (get_model_turn (fun _ => hub) request.model phase s.models).2 })
  | .working job p, s =>
    (.working job (job.turn use_kv_cache p s.rng).1,
      { s with rng := (job.turn use_kv_cache p s.rng).2 })
  | .refused e, s => (.refused e, s)

/-- A turn of a thread that waits for its model is one of the model cache. -/
theorem Stage.turn_loading (use_kv_cache : Bool) (hub : String → Except String (Checkpoint α ρ))
    (request : CompletionsCreateRequest φ) {phase : Phase (Checkpoint α ρ)}
    (hphase : ∀ result, phase ≠ .returned result) (s : Shared α ρ) :
    Stage.turn use_kv_cache hub request (.loading phase) s =
      (.loading (get_model_turn (fun _ => hub) request.model phase s.models).1,
        { s with models := (get_model_turn (fun _ => hub) request.model phase s.models).2 }) := by
  cases phase with
  | start => rfl
  | loading ticket => rfl
  | returned result => exact absurd rfl (hphase result)

def Stage.reply : Stage α ρ → Option (Except Raised (List CompletionChoice × CompletionUsage))
  | .loading _ => none
  | .working job p => job.reply p
  | .refused e => some (.error e)

variable {ι : Type} [DecidableEq ι]

/-- The threads of some requests, one for each, under a schedule. -/
def run_server (use_kv_cache : Bool) (hub : String → Except String (Checkpoint α ρ))
    (requests : ι → CompletionsCreateRequest φ) (rng : ρ) (turns : List ι) :
    Config (fun _ : ι => Stage α ρ) (Shared α ρ) :=
  run (fun i => Stage.turn use_kv_cache hub (requests i)) ⟨fun _ => .loading .start, .initial, rng⟩
    turns

/-! ## Section 2: The invariant -/

/-- What is known of a thread: from the cache while it loads, from its job while it works. -/
def StageInv (use_kv_cache : Bool) (hub : String → Except String (Checkpoint α ρ))
    (request : CompletionsCreateRequest φ) (models : Models (Checkpoint α ρ)) :
    Stage α ρ → Prop
  | .loading phase => ThreadInv (fun _ => hub) request.model models phase
  | .working job p => request_job hub request = .ok job ∧ job.Inv use_kv_cache p
  | .refused e => request_job hub request = .error e

structure ServerInv (use_kv_cache : Bool) (hub : String → Except String (Checkpoint α ρ))
    (requests : ι → CompletionsCreateRequest φ)
    (c : Config (fun _ : ι => Stage α ρ) (Shared α ρ)) : Prop where
  models : ModelsInv (fun _ => hub) (fun i => (requests i).model) c.shared.models
  stages : ∀ i, StageInv use_kv_cache hub (requests i) c.shared.models (c.locals i)

variable {use_kv_cache : Bool} {hub : String → Except String (Checkpoint α ρ)}

theorem StageInv.mono {request : CompletionsCreateRequest φ}
    {models models' : Models (Checkpoint α ρ)} {stage : Stage α ρ}
    (h : StageInv use_kv_cache hub request models stage) (hs : models.Extends models') :
    StageInv use_kv_cache hub request models' stage := by
  cases stage with
  | loading phase => exact ThreadInv.mono h hs
  | working job p => exact h
  | refused e => exact h

theorem StageInv.loaded {request : CompletionsCreateRequest φ}
    {models : Models (Checkpoint α ρ)} {result : Except Raised (Checkpoint α ρ)}
    (h : ThreadInv (fun _ => hub) request.model models (.returned result)) :
    StageInv use_kv_cache hub request models (.loaded request result) := by
  have hjob : result >>= checkpoint_job request = request_job hub request := by
    rw [(ThreadInv.got_own h).of_hub]
    rfl
  unfold Stage.loaded
  rw [hjob]
  cases hrequest : request_job hub request with
  | ok job => exact ⟨hrequest, job.start_inv use_kv_cache⟩
  | error e => exact hrequest

omit [DecidableEq ι] in
/-- A turn of one thread: what is known of the cache, that its record only grows, and what
    is known of the thread. -/
theorem StageInv.turn {requests : ι → CompletionsCreateRequest φ} {i : ι} {stage : Stage α ρ}
    {s : Shared α ρ}
    (hmodels : ModelsInv (fun _ => hub) (fun i => (requests i).model) s.models)
    (h : StageInv use_kv_cache hub (requests i) s.models stage) :
    let r := stage.turn use_kv_cache hub (requests i) s
    ModelsInv (fun _ => hub) (fun i => (requests i).model) r.2.models ∧
      s.models.Extends r.2.models ∧ StageInv use_kv_cache hub (requests i) r.2.models r.1 := by
  cases stage with
  | refused e => exact ⟨hmodels, .refl _, h⟩
  | working job p => exact ⟨hmodels, .refl _, h.1, Job.turn_inv p s.rng h.2⟩
  | loading phase =>
    have hthread : ThreadInv (fun _ => hub) (requests i).model s.models phase := h
    have hturned := turned (fun _ => hub) (requests i).model phase s.models
    by_cases hphase : ∃ result, phase = .returned result
    · obtain ⟨result, rfl⟩ := hphase
      exact ⟨hmodels, .refl _, .loaded hthread⟩
    · -- a turn of the model cache, whose record grows
      rw [Stage.turn_loading use_kv_cache hub (requests i) (not_exists.mp hphase)]
      exact ⟨hturned.models_inv (i := i) hmodels hthread, hturned.extends,
        hturned.thread_inv hmodels hthread⟩

theorem ServerInv.turn {requests : ι → CompletionsCreateRequest φ}
    {c : Config (fun _ : ι => Stage α ρ) (Shared α ρ)}
    (h : ServerInv use_kv_cache hub requests c) (i : ι) :
    ServerInv use_kv_cache hub requests
      (turn (fun i => Stage.turn use_kv_cache hub (requests i)) c i) := by
  obtain ⟨hmodels, hextends, hstage⟩ := StageInv.turn h.models (h.stages i)
  refine ⟨hmodels, ?_⟩
  intro j
  by_cases hj : j = i
  · subst hj
    rw [Interleave.turn_self]
    exact hstage
  · rw [Interleave.turn_other c hj]
    exact (h.stages j).mono hextends

theorem server_inv (use_kv_cache : Bool) (hub : String → Except String (Checkpoint α ρ))
    (requests : ι → CompletionsCreateRequest φ) (rng : ρ) (turns : List ι) :
    ServerInv use_kv_cache hub requests (run_server use_kv_cache hub requests rng turns) := by
  refine Interleave.run_config_rule (ServerInv use_kv_cache hub requests) ?_ (fun c i h => h.turn i)
    turns
  exact ⟨models_inv_initial _ _, fun i => trivial⟩

/-! ## Section 3: Turns -/

/-- The number of prompts of a request. -/
def prompt_count (prompt : Json φ) : Nat :=
  match normalize_completion_prompts prompt (fun _ => "") with
  | .ok prompts => prompts.length
  | .error _ => 0

/-- It does not depend on the model. -/
theorem length_prompts {prompt : Json φ} {decode : List Int → String} {prompts : List String}
    (h : normalize_completion_prompts prompt decode = .ok prompts) :
    prompts.length = prompt_count prompt := by
  cases prompt with
  | null => cases h
  | bool b => cases h
  | int n => cases h
  | float x => cases h
  | dict entries => cases h
  | str text =>
    cases h
    rfl
  | list items =>
    -- which reading applies, and how many prompts it gives, is a matter of the items
    unfold prompt_count
    rw [normalize_list] at h ⊢
    cases hstrings : items.mapM as_string with
    | some texts =>
      rw [hstrings] at h
      cases h
      rfl
    | none =>
      cases hintegers : items.mapM as_int with
      | some tokens =>
        rw [hstrings, hintegers] at h
        cases h
        rfl
      | none =>
        cases hlists : items.mapM as_int_list with
        | none =>
          rw [hstrings, hintegers, hlists] at h
          cases h
        | some lists =>
          rw [hstrings, hintegers, hlists] at h
          cases h
          show (lists.map decode).length = (lists.map fun _ => "").length
          rw [List.length_map, List.length_map]

/-- The turns of the generations of a request. -/
def generation_turns (request : CompletionsCreateRequest φ) : Nat :=
  prompt_count request.prompt * request.n * (max_output_tokens request + 3) + 1

/-- The turns that a thread may still take. -/
def Stage.turns_left (request : CompletionsCreateRequest φ) : Stage α ρ → Nat
  | .loading phase => phase.turns_left + 1 + generation_turns request
  | .working job p => job.turns_left p
  | .refused _ => 0

theorem Phase.turns_left_pos {M : Type} {phase : Phase M}
    (hphase : ∀ result, phase ≠ .returned result) : 0 < phase.turns_left := by
  cases phase with
  | start => exact Nat.two_pos
  | loading ticket => exact Nat.one_pos
  | returned result => exact absurd rfl (hphase result)

omit [Field α] in
theorem Stage.loaded_turns_left (request : CompletionsCreateRequest φ)
    (result : Except Raised (Checkpoint α ρ)) :
    (Stage.loaded request result).turns_left request ≤ generation_turns request := by
  unfold Stage.loaded
  cases hjob : result >>= checkpoint_job request with
  | error e => exact Nat.zero_le _
  | ok job =>
    obtain ⟨checkpoint, -, hcheckpoint⟩ := Except.of_bind_ok hjob
    obtain ⟨prompts, hprompts, hmk⟩ := Except.of_bind_ok hcheckpoint
    cases hmk
    show Job.turns_left _ (Job.start _) ≤ _
    rw [Job.turns_left_start, length_prompts hprompts]
    exact Nat.le_refl _

theorem Stage.turn_turns_left (request : CompletionsCreateRequest φ) (stage : Stage α ρ)
    (s : Shared α ρ) :
    (stage.turn use_kv_cache hub request s).1.turns_left request ≤
      stage.turns_left request - 1 := by
  cases stage with
  | refused e => exact Nat.zero_le _
  | working job p => exact Job.turn_turns_left p s.rng
  | loading phase =>
    by_cases hphase : ∃ result, phase = .returned result
    · obtain ⟨result, rfl⟩ := hphase
      have hloaded := Stage.loaded_turns_left request result
      show (Stage.loaded request result).turns_left request ≤ 0 + 1 + generation_turns request - 1
      omega
    · have hpos := Phase.turns_left_pos (not_exists.mp hphase)
      have hturn := (turned (fun _ => hub) request.model phase s.models).turns_left
      rw [Stage.turn_loading use_kv_cache hub request (not_exists.mp hphase)]
      show Phase.turns_left _ + 1 + generation_turns request ≤
        phase.turns_left + 1 + generation_turns request - 1
      omega

/-! ## Section 4: Replies -/

/-- A thread under a schedule: it has replied if it had enough turns, and it replies what its
    own request asks for. -/
structure Served (use_kv_cache : Bool) (hub : String → Except String (Checkpoint α ρ))
    (request : CompletionsCreateRequest φ) (turns : Nat) (stage : Stage α ρ) : Prop where
  ends : generation_turns request + 3 ≤ turns → stage.reply.isSome
  returned : ∀ choices usage, stage.reply = some (.ok (choices, usage)) →
    ∃ job results, request_job hub request = .ok job ∧
      List.Forall₂ (job.Meets use_kv_cache) (schedule job.n job.prompts) results ∧
      Booked job.suffix results choices usage
  /-- It is refused as it would be alone, or it raises what a prompt without tokens
      raises and has such a prompt. -/
  raised : ∀ e, stage.reply = some (.error e) → request_job hub request = .error e ∨
    ∃ job, request_job hub request = .ok job ∧
      e = .exception (no_tokens_exception job.checkpoint.cfg) ∧
      ∃ prompt ∈ job.prompts, job.checkpoint.rt.tokenizer.encode prompt = []

theorem Served.of_inv {request : CompletionsCreateRequest φ} {models : Models (Checkpoint α ρ)}
    {stage : Stage α ρ} {turns : Nat} (hinv : StageInv use_kv_cache hub request models stage)
    (hturns : stage.turns_left request ≤ generation_turns request + 3 - turns) :
    Served use_kv_cache hub request turns stage := by
  cases stage with
  | loading phase =>
    refine ⟨fun henough => ?_, fun _ _ hreply => ?_, fun _ hreply => ?_⟩
    · -- after so many turns it would have gone over to its job
      have hleft : phase.turns_left + 1 + generation_turns request ≤
          generation_turns request + 3 - turns := hturns
      omega
    · cases hreply
    · cases hreply
  | refused e =>
    refine ⟨fun _ => rfl, fun _ _ hreply => ?_, fun _ hreply => ?_⟩
    · cases hreply
    · cases hreply
      exact .inl hinv
  | working job p =>
    obtain ⟨hjob, hp⟩ := hinv
    refine ⟨fun henough => ?_, ?_, ?_⟩
    · exact Job.reply_of_turns (Nat.le_zero.mp (hturns.trans (by omega)))
    · intro choices usage hreply
      obtain ⟨results, hresults, hbooked⟩ := hp.reply_ok hreply
      exact ⟨job, results, hjob, hresults, hbooked⟩
    · intro e hreply
      exact .inr ⟨job, hjob, hp.reply_error hreply⟩

/-- Threads with the cache and without, that have got equally far. -/
inductive Stage.Agree : Stage α ρ → Stage α ρ → Prop
  | loading (phase : Phase (Checkpoint α ρ)) : Agree (.loading phase) (.loading phase)
  | working {job : Job α ρ} {p q : job.Progress} : job.Agree p q →
      Agree (.working job p) (.working job q)
  | refused (e : Raised) : Agree (.refused e) (.refused e)

theorem Stage.Agree.loaded (request : CompletionsCreateRequest φ)
    (result : Except Raised (Checkpoint α ρ)) :
    Stage.Agree (.loaded request result) (.loaded request result) := by
  unfold Stage.loaded
  cases result >>= checkpoint_job request with
  | ok job => exact .working (.choosing _ _)
  | error e => exact .refused e

theorem Stage.Agree.turn {request : CompletionsCreateRequest φ} {stage stage' : Stage α ρ}
    (h : stage.Agree stage') (s : Shared α ρ) :
    (stage.turn true hub request s).1.Agree (stage'.turn false hub request s).1 ∧
      (stage.turn true hub request s).2 = (stage'.turn false hub request s).2 := by
  cases h with
  | refused e => exact ⟨.refused e, rfl⟩
  | loading phase =>
    cases phase with
    | returned result => exact ⟨.loaded request result, rfl⟩
    | start => exact ⟨.loading _, rfl⟩
    | loading ticket => exact ⟨.loading _, rfl⟩
  | working hjob =>
    obtain ⟨hagree, hrng⟩ := Job.turn_agree hjob s.rng
    exact ⟨.working hagree, congrArg (fun rng => { s with rng := rng }) hrng⟩

theorem Stage.Agree.reply {stage stage' : Stage α ρ} (h : stage.Agree stage') :
    stage.reply = stage'.reply := by
  cases h with
  | loading phase => rfl
  | working hjob => exact hjob.reply
  | refused e => rfl

/-- **The server under concurrent requests**: whatever is requested, and in whatever order the
    threads take their turns, every thread comes to an end with a reply to its own
    request, and with `kv_cache` on and off all of them reply the same and leave the same
    models in the cache and the same random state. -/
theorem concurrent_server (hub : String → Except String (Checkpoint α ρ))
    (requests : ι → CompletionsCreateRequest φ) (rng : ρ) (turns : List ι) :
    (∀ use_kv_cache i, Served use_kv_cache hub (requests i) (turns.count i)
      ((run_server use_kv_cache hub requests rng turns).locals i)) ∧
    (∀ i, ((run_server true hub requests rng turns).locals i).reply =
      ((run_server false hub requests rng turns).locals i).reply) ∧
    (run_server true hub requests rng turns).shared =
      (run_server false hub requests rng turns).shared := by
  constructor
  · intro use_kv_cache i
    have hinv := (server_inv use_kv_cache hub requests rng turns).stages i
    have hturns : ((run_server use_kv_cache hub requests rng turns).locals i).turns_left
        (requests i) ≤ 2 + 1 + generation_turns (requests i) - turns.count i :=
      Interleave.run_turns (fun i => Stage.turns_left (requests i))
        (fun i stage s => stage.turn_turns_left (requests i) s) turns i
    exact .of_inv hinv (hturns.trans (by omega))
  · have hturn : ∀ i (stage stage' : Stage α ρ) (s : Shared α ρ), stage.Agree stage' →
        (stage.turn true hub (requests i) s).1.Agree (stage'.turn false hub (requests i) s).1 ∧
          (stage.turn true hub (requests i) s).2 = (stage'.turn false hub (requests i) s).2 :=
      fun i stage stage' s h => h.turn s
    have hlockstep : (∀ i, ((run_server true hub requests rng turns).locals i).Agree
          ((run_server false hub requests rng turns).locals i)) ∧
        (run_server true hub requests rng turns).shared =
          (run_server false hub requests rng turns).shared :=
      Interleave.run_lockstep (fun _ => Stage.Agree) (fun _ => .loading _) rfl hturn turns
    exact ⟨fun i => (hlockstep.1 i).reply, hlockstep.2⟩

/-! ## Section 5: One after another -/

section alone

variable {requests : ι → CompletionsCreateRequest φ}

omit [DecidableEq ι] in
/-- A thread alone gets its model. -/
theorem loading_turns (use_kv_cache : Bool) (i : ι) (phase : Phase (Checkpoint α ρ))
    {s : Shared α ρ} (hs : ModelsInv (fun _ => hub) (fun i => (requests i).model) s.models)
    (hthread : ThreadInv (fun _ => hub) (requests i).model s.models phase) :
    ∃ n models, (fun p : Stage α ρ × Shared α ρ => p.1.turn use_kv_cache hub (requests i) p.2)^[n]
        (.loading phase, s) =
      (.loading (.returned (get_requested_model hub "Failed to load model" (requests i).model)),
        { s with models := models }) ∧
      ModelsInv (fun _ => hub) (fun i => (requests i).model) models := by
  -- by induction on the turns that it may still take
  induction hμ : phase.turns_left using Nat.strong_induction_on generalizing phase s with
  | _ μ ih =>
    by_cases hphase : ∃ result, phase = .returned result
    · obtain ⟨result, rfl⟩ := hphase
      rw [(ThreadInv.got_own hthread).of_hub]
      exact ⟨0, s.models, rfl, hs⟩
    · have hturned := turned (fun _ => hub) (requests i).model phase s.models
      have hpos := Phase.turns_left_pos (not_exists.mp hphase)
      have hturn := Stage.turn_loading use_kv_cache hub (requests i) (not_exists.mp hphase) s
      have hless := Nat.lt_of_le_of_lt hturned.turns_left (Nat.sub_one_lt_of_lt hpos)
      have hmodels := hturned.models_inv (i := i) hs hthread
      obtain ⟨n, models, hn, hkept⟩ := ih _ (hμ ▸ hless) _ (s := { s with models := _ }) hmodels
        (hturned.thread_inv hs hthread) rfl
      refine ⟨n + 1, models, ?_, hkept⟩
      rw [Function.iterate_succ_apply, hturn]
      exact hn

theorem working_turns (hub : String → Except String (Checkpoint α ρ))
    (request : CompletionsCreateRequest φ) {job : Job α ρ} {n : Nat} {p q : job.Progress}
    {s : Shared α ρ} {rng : ρ}
    (h : (fun pr : job.Progress × ρ => job.turn use_kv_cache pr.1 pr.2)^[n] (p, s.rng) = (q, rng)) :
    (fun pr : Stage α ρ × Shared α ρ => pr.1.turn use_kv_cache hub request pr.2)^[n]
      (.working job p, s) = (.working job q, { s with rng := rng }) := by
  induction n generalizing p s with
  | zero =>
    cases h
    rfl
  | succ n ih =>
    rw [Function.iterate_succ_apply] at h ⊢
    exact ih h

omit [DecidableEq ι] in
/-- A thread alone replies what its handler returns. -/
theorem Stage.alone (use_kv_cache : Bool) (i : ι) {s : Shared α ρ}
    (hs : ModelsInv (fun _ => hub) (fun i => (requests i).model) s.models) :
    ∃ n stage s', (fun p : Stage α ρ × Shared α ρ => p.1.turn use_kv_cache hub (requests i) p.2)^[n]
        (.loading .start, s) = (stage, s') ∧
      ModelsInv (fun _ => hub) (fun i => (requests i).model) s'.models ∧
      (stage.reply, s'.rng) = outcome (generate_completion_choices
        (fun name => served_model use_kv_cache <$> hub name) (requests i)) s.rng := by
  obtain ⟨m, models, hloading, hmodels⟩ := loading_turns use_kv_cache i .start hs trivial
  -- the turn that goes over from the cache to the job
  have hloaded : ∃ n, (fun p : Stage α ρ × Shared α ρ =>
      p.1.turn use_kv_cache hub (requests i) p.2)^[n] (.loading .start, s) =
        (.loaded (requests i) (get_requested_model hub "Failed to load model" (requests i).model),
          { s with models := models }) :=
    Interleave.iterate_trans ⟨m, hloading⟩ ⟨1, rfl⟩
  have hrequest : get_requested_model hub "Failed to load model" (requests i).model >>=
      checkpoint_job (requests i) = request_job hub (requests i) := rfl
  unfold Stage.loaded at hloaded
  unfold outcome
  rw [generate_completion_choices_job, StateExcept.run_bind, StateExcept.run_lift]
  rw [hrequest] at hloaded
  cases hjob : request_job hub (requests i) with
  | error e =>
    rw [hjob] at hloaded
    obtain ⟨n, hn⟩ := hloaded
    exact ⟨n, _, _, hn, hmodels, rfl⟩
  | ok job =>
    rw [hjob] at hloaded
    obtain ⟨k, p, rng, hwork, hreply⟩ := job.alone use_kv_cache s.rng
    have hworking := working_turns hub (requests i) (s := { s with models := models }) hwork
    obtain ⟨n, hn⟩ := Interleave.iterate_trans hloaded ⟨k, hworking⟩
    exact ⟨n, _, _, hn, hmodels, hreply⟩

omit [DecidableEq ι] [Field α] in
/-- Threads that run one after another, as a session. -/
theorem serial_session {β : Type} (handle : ι → Handler ρ β) (order : List ι) (rng : ρ) :
    Interleave.serial (fun i => outcome (handle i)) order rng =
      ((StateExcept.session handle order rng).1.map some,
        (StateExcept.session handle order rng).2) := by
  induction order generalizing rng with
  | nil => rfl
  | cons i order ih =>
    rw [Interleave.serial_cons, StateExcept.session_cons, ih]
    rfl

end alone

/-- **Sessions are schedules**: the threads of any requests have a schedule under which they
    reply what a session of the handlers, one request after another and each with a load of
    its own, replies, and leave the random state that it leaves. -/
theorem sessions_are_schedules (use_kv_cache : Bool) (hub : String → Except String (Checkpoint α ρ))
    (requests : ι → CompletionsCreateRequest φ) {order : List ι} (hnodup : order.Nodup) (rng : ρ) :
    let session := StateExcept.session (fun i => generate_completion_choices
      (fun name => served_model use_kv_cache <$> hub name) (requests i)) order rng
    ∃ turns, order.map (fun i => ((run_server use_kv_cache hub requests rng turns).locals i).reply) =
        session.1.map some ∧
      (run_server use_kv_cache hub requests rng turns).shared.rng = session.2 := by
  obtain ⟨turns, -, hturns⟩ : ∃ turns, (∀ i ∈ turns, i ∈ order) ∧
      (order.map (fun i => ((run_server use_kv_cache hub requests rng turns).locals i).reply),
        (run_server use_kv_cache hub requests rng turns).shared.rng) = _ :=
    Interleave.run_serial (fun _ => Stage.reply) Shared.rng
      (fun s => ModelsInv (fun _ => hub) (fun i => (requests i).model) s.models)
      (fun i => outcome (generate_completion_choices
        (fun name => served_model use_kv_cache <$> hub name) (requests i)))
      (fun i s hs => Stage.alone use_kv_cache i hs) hnodup (models_inv_initial _ _) (fun _ _ => rfl)
  rw [serial_session, Prod.mk.injEq] at hturns
  exact ⟨turns, hturns⟩

/-- A request for two choices, and one without a model. -/
theorem sessions_are_schedules_two :
    let hub (_ : String) : Except String (Checkpoint Rat Nat) :=
      .ok ⟨KVCache.tiny_config, KVCache.tiny_runtime, KVCache.tiny_model, fun _ => "a"⟩
    let requests (i : Bool) : CompletionsCreateRequest Empty :=
      { model := if i then "gpt2" else " ", prompt := .str "a", n := 2 }
    let session := StateExcept.session (fun i => generate_completion_choices
      (fun name => served_model true <$> hub name) (requests i)) [true, false] 0
    ∃ turns, [true, false].map (fun i =>
        ((run_server true hub requests 0 turns).locals i).reply) = session.1.map some ∧
      (run_server true hub requests 0 turns).shared.rng = session.2 := by
  intro hub requests
  have hnodup : [true, false].Nodup := by decide
  exact sessions_are_schedules true hub requests hnodup 0

end Server
