import BuildMyOwnX.KVCache.Interleaved
import BuildMyOwnX.Server.Sessions

/-! # Requests at the Same Time

    The endpoints hand a request to a thread (`run_in_threadpool`), so requests
    are worked on at the same time. A thread of `/v1/completions` has the totals
    of its choices and the current generation to itself; the random state is the
    only thing that all threads change.

    A turn of a thread is a step of its loop over the prompts or a turn of its
    generation. The invariant of a thread says which part of the schedule is
    done and what the totals have of it (`Job.Inv`), and holds whatever the other
    threads do. So no choice is lost, doubled or mixed up with one of another
    request, and the cache is not observable here either
    (`concurrent_completions`). A thread that no other interrupts does what its
    handler does (`Job.alone`).
-/

namespace Server

open KVCache (Call GenerationContract GenerationResult LoopInv LoopState ProgressInv ProgressPost
  SameResult generation_result generate_body generate_tokens loop_start loop_start_inv
  loop_start_progress max_total_tokens)

variable {α : Type} [Field α] {ρ φ : Type}

/-! ## Section 1: Threads -/

/-- A request that is not refused: what its name is loaded as, its prompts and the fields
    that the loops read. -/
structure Job (α ρ : Type) where
  checkpoint : Checkpoint α ρ
  prompts : List String
  suffix : Option String
  n : Nat
  max_tokens : Nat

/-- The job of a request whose model is loaded. -/
def checkpoint_job (request : CompletionsCreateRequest φ) (checkpoint : Checkpoint α ρ) :
    Except Raised (Job α ρ) := do
  let prompts ← normalize_completion_prompts request.prompt checkpoint.decode
  return ⟨checkpoint, prompts, request.suffix, request.n, max_output_tokens request⟩

/-- What `generate_completion_choices` does before its loops. -/
def request_job (load : String → Except String (Checkpoint α ρ))
    (request : CompletionsCreateRequest φ) : Except Raised (Job α ρ) :=
  get_requested_model load "Failed to load model" request.model >>= checkpoint_job request

/-- The loops of a job. -/
def Job.choices (use_kv_cache : Bool) (job : Job α ρ) :
    Handler ρ (List CompletionChoice × CompletionUsage) :=
  generate_choices (fun prompt => (served_model use_kv_cache job.checkpoint).generate_with_metadata
    prompt job.max_tokens) job.suffix job.n job.prompts

/-- The call of `generate_with_metadata` on a prompt. -/
def Job.call (job : Job α ρ) (prompt : String) : Call α ρ where
  cfg := job.checkpoint.cfg
  rt := job.checkpoint.rt
  model := job.checkpoint.model
  input_tokens := job.checkpoint.rt.tokenizer.encode prompt
  max_new_tokens := job.max_tokens

/-- How far a thread has got: the totals, and the prompts of the generations to come. -/
inductive Job.Progress (job : Job α ρ)
  | choosing (t : Totals) (todo : List String)
  | generating (t : Totals) (prompt : String) (todo : List String) (p : (job.call prompt).Progress)
  | returned (choices : List CompletionChoice) (usage : CompletionUsage)
  | raised (e : Raised)

def Job.start (job : Job α ρ) : job.Progress := .choosing {} (schedule job.n job.prompts)

def Job.turn (use_kv_cache : Bool) (job : Job α ρ) : job.Progress → ρ → job.Progress × ρ
  | .choosing t [], rng =>
    (.returned t.choices {
      prompt_tokens := t.total_input_tokens
      completion_tokens := t.total_output_tokens
      total_tokens := t.total_input_tokens + t.total_output_tokens }, rng)
  | .choosing t (prompt :: todo), rng =>
    (.generating t prompt todo ((job.call prompt).start use_kv_cache rng), rng)
  | .generating t prompt todo (.running s), rng =>
    (.generating t prompt todo ((job.call prompt).turn use_kv_cache (.running s) rng).1,
      ((job.call prompt).turn use_kv_cache (.running s) rng).2)
  | .generating t prompt todo (.returned s), rng =>
    (.choosing (t.add job.suffix
      [generation_result (job.call prompt).rt (job.call prompt).input_tokens s]) todo, rng)
  | .generating _ _ _ (.raised e), rng => (.raised (.exception (exception_name e)), rng)
  | p, rng => (p, rng)

/-- What the thread has answered, if it has come to an end. -/
def Job.reply (job : Job α ρ) :
    job.Progress → Option (Except Raised (List CompletionChoice × CompletionUsage))
  | .returned choices usage => some (.ok (choices, usage))
  | .raised e => some (.error e)
  | _ => none

/-- The reply of a handler that runs alone, and the random state after it. -/
def outcome {β : Type} (handler : Handler ρ β) (rng : ρ) : Option (Except Raised β) × ρ :=
  (some (StateExcept.run handler rng).1, (StateExcept.run handler rng).2)

section threads

variable {ι : Type} [DecidableEq ι] (use_kv_cache : Bool) (jobs : ι → Job α ρ)

end threads

/-- A handler that has got its job runs its loops. -/
theorem generate_completion_choices_job (use_kv_cache : Bool)
    (load : String → Except String (Checkpoint α ρ)) (request : CompletionsCreateRequest φ) :
    generate_completion_choices (fun name => served_model use_kv_cache <$> load name) request =
      liftM (request_job load request) >>= Job.choices use_kv_cache := by
  unfold generate_completion_choices request_job get_requested_model
  dsimp only
  by_cases hname : PyString.strip request.model = ""
  · rw [if_pos hname, if_pos hname]
    rfl
  · rw [if_neg hname, if_neg hname]
    cases load (PyString.strip request.model) with
    | error exc => rfl
    | ok checkpoint =>
      show (liftM (normalize_completion_prompts request.prompt checkpoint.decode) >>=
        generate_choices (fun prompt => (served_model use_kv_cache checkpoint).generate_with_metadata
          prompt (max_output_tokens request)) request.suffix request.n : Handler ρ _) =
        liftM (normalize_completion_prompts request.prompt checkpoint.decode >>= fun prompts =>
          Except.ok (⟨checkpoint, prompts, request.suffix, request.n, max_output_tokens request⟩ :
            Job α ρ)) >>= Job.choices use_kv_cache
      cases normalize_completion_prompts request.prompt checkpoint.decode with
      | error e => rfl
      | ok prompts => rfl

/-! ## Section 2: One generation

    A prompt without tokens raises in its first iteration, in both modes. The
    lemmas below are those of `Interleaved` for any prompt. -/

/-- What a generation on a prompt without tokens is shown to raise: a model with
    blocks views no rows as `(0, -1)`, one without reads the last of no logits. -/
def no_tokens_exception (cfg : KVCache.Config) : String :=
  if cfg.n_layer = 0 then "IndexError" else "RuntimeError"

theorem exception_name_no_tokens (cfg : KVCache.Config) :
    exception_name (KVCache.no_tokens_error cfg) = no_tokens_exception cfg := by
  unfold KVCache.no_tokens_error no_tokens_exception
  split <;> rfl

variable {call : Call α ρ} {use_kv_cache : Bool}

/-- As `Call.Inv`. Nothing is ever added to a prompt without tokens. -/
def CallInv (use_kv_cache : Bool) (call : Call α ρ) : call.Progress → Prop
  | .running s => ProgressInv call.rt call.model use_kv_cache call.input_tokens s ∧
      (call.input_tokens = [] → s.all_tokens = [])
  | .returned s => ProgressPost call.rt use_kv_cache call.input_tokens s
  | .raised e => e = KVCache.no_tokens_error call.cfg ∧ call.input_tokens = []

theorem call_inv_iff (hprompt : call.input_tokens ≠ []) (p : call.Progress) :
    CallInv use_kv_cache call p ↔ call.Inv use_kv_cache p := by
  cases p with
  | running s => exact and_iff_left fun h => absurd h hprompt
  | returned s => exact Iff.rfl
  | raised e => exact iff_false_intro fun h => hprompt h.2

theorem call_start_inv (use_kv_cache : Bool) (call : Call α ρ) (rng : ρ) :
    CallInv use_kv_cache call (call.start use_kv_cache rng) :=
  ⟨loop_start_progress call.rt call.model use_kv_cache call.input_tokens rng, fun h => h⟩

/-- Without tokens the first iteration raises. -/
theorem turn_no_tokens (hprompt : call.input_tokens = [])
    {s : LoopState α call.cfg ρ call.rows} (htokens : s.all_tokens = [])
    (hinv : LoopInv call.rt call.model use_kv_cache call.input_tokens.length s)
    (hlt : s.all_tokens.length < call.rows) (rng : ρ) :
    call.turn use_kv_cache (.running s) rng =
      (.raised (KVCache.no_tokens_error call.cfg), rng) := by
  have hlength : call.input_tokens.length = 0 := by
    rw [hprompt]
    rfl
  have hcache : use_kv_cache → ∃ c, s.kv_cache = some c := by
    intro huse
    obtain ⟨c, hc, -⟩ := hinv.cached huse
    exact ⟨c, hc⟩
  have hbody := KVCache.body_no_tokens call.rt call.model use_kv_cache
    (s := { s with rng := rng }) htokens hcache
  rw [Call.turn_running hlt, hlength, hbody]
  rfl

theorem call_turn_inv (p : call.Progress) (rng : ρ) (hp : CallInv use_kv_cache call p) :
    CallInv use_kv_cache call (call.turn use_kv_cache p rng).1 := by
  by_cases hprompt : call.input_tokens = []
  · match p, hp with
    | .returned s, hp => exact hp
    | .raised e, hp => exact hp
    | .running s, ⟨hinv, hempty⟩ =>
      by_cases hlt : s.all_tokens.length < call.rows
      · rw [turn_no_tokens hprompt (hempty hprompt) hinv.inv hlt]
        exact ⟨rfl, hprompt⟩
      · rw [Call.turn_exit hlt]
        exact (hinv.with_rng rng).exit hlt
  · rw [call_inv_iff hprompt] at hp ⊢
    exact Call.turn_inv hprompt p rng hp

/-- A call with the cache and one without, that have the same tokens so far. -/
inductive CallAgree (call : Call α ρ) : call.Progress → call.Progress → Prop
  | running {s t : LoopState α call.cfg ρ call.rows} :
      s.all_tokens = t.all_tokens →
      LoopInv call.rt call.model true call.input_tokens.length s →
      LoopInv call.rt call.model false call.input_tokens.length t →
      (call.input_tokens = [] → s.all_tokens = []) → CallAgree call (.running s) (.running t)
  | returned {s t : LoopState α call.cfg ρ call.rows} :
      s.all_tokens = t.all_tokens → CallAgree call (.returned s) (.returned t)
  | raised (e : KVCache.Error) : CallAgree call (.raised e) (.raised e)

theorem call_start_agree (call : Call α ρ) (rng : ρ) :
    CallAgree call (call.start true rng) (call.start false rng) :=
  .running rfl (loop_start_inv call.rt call.model true call.input_tokens rng)
    (loop_start_inv call.rt call.model false call.input_tokens rng) fun h => h

theorem CallAgree.of_same_tokens (hprompt : call.input_tokens ≠ []) {p q : call.Progress}
    (h : call.SameTokens p q) : CallAgree call p q := by
  match p, q, h with
  | .running s, .running t, ⟨htokens, hcached, huncached⟩ =>
    exact .running htokens hcached huncached fun h => absurd h hprompt
  | .returned s, .returned t, htokens => exact .returned htokens

theorem call_turn_agree {p q : call.Progress} (h : CallAgree call p q) (rng : ρ) :
    CallAgree call (call.turn true p rng).1 (call.turn false q rng).1 ∧
      (call.turn true p rng).2 = (call.turn false q rng).2 := by
  cases h with
  | raised e => exact ⟨.raised e, rfl⟩
  | returned htokens => exact ⟨.returned htokens, rfl⟩
  | @running s t htokens hcached huncached hempty =>
    by_cases hprompt : call.input_tokens = []
    · -- without tokens both raise in this turn, or both have no room
      have hs := hempty hprompt
      have ht := htokens.symm.trans hs
      by_cases hlt : s.all_tokens.length < call.rows
      · rw [turn_no_tokens hprompt hs hcached hlt,
          turn_no_tokens hprompt ht huncached (htokens ▸ hlt)]
        exact ⟨.raised _, rfl⟩
      · rw [Call.turn_exit hlt, Call.turn_exit (htokens ▸ hlt)]
        exact ⟨.returned htokens, rfl⟩
    · have hsame := Call.turn_same_tokens hprompt (.running s) (.running t) rng
        ⟨htokens, hcached, huncached⟩
      exact ⟨.of_same_tokens hprompt hsame.1, hsame.2⟩

/-- Turns of a call alone are `generate_tokens`, whether it returns or raises. -/
theorem call_alone (use_kv_cache : Bool) (call : Call α ρ) (rng : ρ) :
    ∃ n, (fun pr : call.Progress × ρ => call.turn use_kv_cache pr.1 pr.2)^[n]
        (call.start use_kv_cache rng, rng) =
      match generate_tokens call.rt call.model use_kv_cache call.input_tokens
        call.max_new_tokens rng with
      | .ok s => (.returned s, s.rng)
      | .error e => (.raised e, rng) := by
  cases hrun : generate_tokens call.rt call.model use_kv_cache call.input_tokens
      call.max_new_tokens rng with
  | ok s =>
    exact Call.turns_eq_loop call
      (loop_start call.rt use_kv_cache call.rows call.input_tokens rng) rng hrun
  | error e =>
    -- a loop that starts from tokens does not raise
    by_cases hprompt : call.input_tokens = []
    · obtain ⟨cfg, rt, model, input_tokens, max_new_tokens⟩ := call
      dsimp only at hprompt hrun
      subst hprompt
      rw [KVCache.generate_tokens_no_tokens] at hrun
      split at hrun
      case isTrue hpos =>
        cases hrun
        have hprompt : (⟨cfg, rt, model, [], max_new_tokens⟩ : Call α ρ).input_tokens = [] := rfl
        exact ⟨1, turn_no_tokens (s := loop_start rt use_kv_cache _ [] rng) hprompt rfl
          (loop_start_inv rt model use_kv_cache [] rng) hpos rng⟩
      case isFalse => cases hrun
    · obtain ⟨s, hs, -⟩ := KVCache.generate_tokens_progress call.rt call.model use_kv_cache
        call.input_tokens call.max_new_tokens rng (List.length_pos_of_ne_nil hprompt)
      rw [hs] at hrun
      cases hrun

/-! ## Section 3: One thread -/

variable {job : Job α ρ}

/-- What a generation on the prompt may return. -/
def Job.Meets (use_kv_cache : Bool) (job : Job α ρ) (prompt : String)
    (result : GenerationResult) : Prop :=
  ∃ all_tokens output, GenerationContract job.checkpoint.rt use_kv_cache
    (job.checkpoint.rt.tokenizer.encode prompt) job.max_tokens all_tokens output result

/-- The totals of the generations that are done. -/
def Job.Done (use_kv_cache : Bool) (job : Job α ρ) (done : List String) (t : Totals) : Prop :=
  ∃ results, List.Forall₂ (job.Meets use_kv_cache) done results ∧
    t = ({} : Totals).add job.suffix results

theorem Totals.add_concat (suffix : Option String) (t : Totals) (results : List GenerationResult)
    (generation : GenerationResult) :
    t.add suffix (results ++ [generation]) = (t.add suffix results).add suffix [generation] := by
  induction results generalizing t with
  | nil => rw [List.nil_append, Totals.add_nil]
  | cons result results ih =>
    rw [List.cons_append, Totals.add_cons, ih, Totals.add_cons suffix t result results]

omit [Field α] in
theorem Job.Done.add {done : List String} {t : Totals} (h : job.Done use_kv_cache done t)
    {prompt : String} {generation : GenerationResult}
    (hmeets : job.Meets use_kv_cache prompt generation) :
    job.Done use_kv_cache (done ++ [prompt]) (t.add job.suffix [generation]) := by
  obtain ⟨results, hresults, rfl⟩ := h
  refine ⟨results ++ [generation], ?_, (Totals.add_concat _ _ _ _).symm⟩
  exact List.rel_append hresults (.cons hmeets .nil)

/-- The invariant of a thread. -/
inductive Job.Inv (use_kv_cache : Bool) (job : Job α ρ) : job.Progress → Prop
  | choosing {t : Totals} {done todo : List String} :
      done ++ todo = schedule job.n job.prompts → job.Done use_kv_cache done t →
      Inv use_kv_cache job (.choosing t todo)
  | generating {t : Totals} {done : List String} {prompt : String} {todo : List String}
      {p : (job.call prompt).Progress} :
      done ++ prompt :: todo = schedule job.n job.prompts → job.Done use_kv_cache done t →
      CallInv use_kv_cache (job.call prompt) p →
      Inv use_kv_cache job (.generating t prompt todo p)
  | returned {choices : List CompletionChoice} {usage : CompletionUsage}
      {results : List GenerationResult} :
      List.Forall₂ (job.Meets use_kv_cache) (schedule job.n job.prompts) results →
      Booked job.suffix results choices usage → Inv use_kv_cache job (.returned choices usage)
  | raised {prompt : String} : prompt ∈ job.prompts →
      job.checkpoint.rt.tokenizer.encode prompt = [] →
      Inv use_kv_cache job (.raised (.exception (no_tokens_exception job.checkpoint.cfg)))

theorem of_mem_schedule {n : Nat} {prompts : List String} {prompt : String}
    (h : prompt ∈ schedule n prompts) : prompt ∈ prompts := by
  obtain ⟨p, hp, hmem⟩ := List.mem_flatMap.mp h
  rw [List.eq_of_mem_replicate hmem]
  exact hp

theorem Job.start_inv (use_kv_cache : Bool) (job : Job α ρ) : job.Inv use_kv_cache job.start :=
  .choosing (List.nil_append _) ⟨[], .nil, (Totals.add_nil _ _).symm⟩

theorem Job.turn_inv (p : job.Progress) (rng : ρ) (hp : job.Inv use_kv_cache p) :
    job.Inv use_kv_cache (job.turn use_kv_cache p rng).1 := by
  cases hp with
  | returned hresults hbooked => exact .returned hresults hbooked
  | raised hprompt hempty => exact .raised hprompt hempty
  | @choosing t done todo hdone htotals =>
    cases todo with
    | cons prompt todo => exact .generating hdone htotals (call_start_inv _ _ rng)
    | nil =>
      -- the whole schedule is done
      rw [List.append_nil] at hdone
      obtain ⟨results, hresults, rfl⟩ := htotals
      have hbooked := booked job.suffix results
      refine .returned (hdone ▸ hresults) ?_
      simpa [Totals.add, choices_of, usage_of] using hbooked
  | @generating t done prompt todo p hdone htotals hcall =>
    cases p with
    | running s => exact .generating hdone htotals (call_turn_inv _ rng hcall)
    | returned s =>
      obtain ⟨output, hcontract⟩ := KVCache.contract_of_progress _ hcall
      refine .choosing ?_ (htotals.add ⟨_, output, hcontract⟩)
      rw [← hdone, List.append_assoc, List.singleton_append]
    | raised e =>
      obtain ⟨rfl, hempty⟩ := hcall
      have hmem : prompt ∈ schedule job.n job.prompts := by
        rw [← hdone]
        exact List.mem_append_right done List.mem_cons_self
      show job.Inv use_kv_cache (.raised (.exception
        (exception_name (KVCache.no_tokens_error job.checkpoint.cfg))))
      rw [exception_name_no_tokens]
      exact .raised (of_mem_schedule hmem) hempty

/-- A thread with the cache and one without, that have got equally far. -/
inductive Job.Agree (job : Job α ρ) : job.Progress → job.Progress → Prop
  | choosing (t : Totals) (todo : List String) : Agree job (.choosing t todo) (.choosing t todo)
  | generating (t : Totals) (prompt : String) (todo : List String)
      {p q : (job.call prompt).Progress} : CallAgree (job.call prompt) p q →
      Agree job (.generating t prompt todo p) (.generating t prompt todo q)
  | returned (choices : List CompletionChoice) (usage : CompletionUsage) :
      Agree job (.returned choices usage) (.returned choices usage)
  | raised (e : Raised) : Agree job (.raised e) (.raised e)

/-- The timings are not in the totals. -/
theorem Totals.add_same (suffix : Option String) (t : Totals) {result result' : GenerationResult}
    (h : SameResult result result') : t.add suffix [result] = t.add suffix [result'] := by
  simp [Totals.add, choice_of, h.output_text, h.prompt_tokens, h.output_tokens]

theorem Job.turn_agree {p q : job.Progress} (h : job.Agree p q) (rng : ρ) :
    job.Agree (job.turn true p rng).1 (job.turn false q rng).1 ∧
      (job.turn true p rng).2 = (job.turn false q rng).2 := by
  cases h with
  | returned choices usage => exact ⟨.returned choices usage, rfl⟩
  | raised e => exact ⟨.raised e, rfl⟩
  | choosing t todo =>
    cases todo with
    | nil => exact ⟨.returned _ _, rfl⟩
    | cons prompt todo => exact ⟨.generating t prompt todo (call_start_agree _ rng), rfl⟩
  | generating t prompt todo hcall =>
    cases hcall with
    | raised e => exact ⟨.raised _, rfl⟩
    | @returned s s' htokens =>
      -- the two results differ in their timings only
      have hadd := Totals.add_same job.suffix t
        (KVCache.same_result_of_tokens (job.call prompt).rt (job.call prompt).input_tokens htokens)
      refine ⟨?_, rfl⟩
      show job.Agree (.choosing (t.add job.suffix [generation_result _ _ s]) todo)
        (.choosing (t.add job.suffix [generation_result _ _ s']) todo)
      rw [hadd]
      exact .choosing _ todo
    | running htokens hcached huncached hempty =>
      obtain ⟨hagree, hrng⟩ := call_turn_agree (.running htokens hcached huncached hempty) rng
      exact ⟨.generating t prompt todo hagree, hrng⟩

/-- The turns that a thread may still take. -/
def Job.turns_left (job : Job α ρ) : job.Progress → Nat
  | .choosing _ todo => todo.length * (job.max_tokens + 3) + 1
  | .generating _ prompt todo p =>
    (job.call prompt).turns_left p + 1 + (todo.length * (job.max_tokens + 3) + 1)
  | .returned _ _ => 0
  | .raised _ => 0

omit [Field α] in
theorem call_start_turns_left (call : Call α ρ) (rng : ρ) :
    call.turns_left (call.start use_kv_cache rng) ≤ call.max_new_tokens + 1 := by
  show min call.cfg.n_positions (call.input_tokens.length + call.max_new_tokens) -
    call.input_tokens.length + 1 ≤ _
  omega

theorem Job.turn_turns_left (p : job.Progress) (rng : ρ) :
    job.turns_left (job.turn use_kv_cache p rng).1 ≤ job.turns_left p - 1 := by
  cases p with
  | returned choices usage => exact Nat.zero_le _
  | raised e => exact Nat.zero_le _
  | choosing t todo =>
    cases todo with
    | nil => exact Nat.zero_le _
    | cons prompt todo =>
      -- of the `max_tokens + 3` turns for this prompt one is taken now and one at its end
      have hstart : (job.call prompt).turns_left ((job.call prompt).start use_kv_cache rng) ≤
          job.max_tokens + 1 := call_start_turns_left _ rng
      show (job.call prompt).turns_left ((job.call prompt).start use_kv_cache rng) + 1 +
        (todo.length * (job.max_tokens + 3) + 1) ≤
          (todo.length + 1) * (job.max_tokens + 3) + 1 - 1
      rw [Nat.succ_mul]
      omega
  | generating t prompt todo p =>
    cases p with
    | raised e => exact Nat.zero_le _
    | returned s =>
      show todo.length * (job.max_tokens + 3) + 1 ≤
        0 + 1 + (todo.length * (job.max_tokens + 3) + 1) - 1
      omega
    | running s =>
      have hcall : (job.call prompt).turns_left
          ((job.call prompt).turn use_kv_cache (.running s) rng).1 ≤
            (job.call prompt).turns_left (.running s) - 1 := Call.turn_turns_left _ rng
      have hpos : 0 < (job.call prompt).turns_left (.running s) := Nat.succ_pos _
      show (job.call prompt).turns_left ((job.call prompt).turn use_kv_cache (.running s) rng).1 +
        1 + (todo.length * (job.max_tokens + 3) + 1) ≤
          (job.call prompt).turns_left (.running s) + 1 +
            (todo.length * (job.max_tokens + 3) + 1) - 1
      omega

omit [Field α] in
theorem Job.turns_left_start (job : Job α ρ) : job.turns_left job.start =
    job.prompts.length * job.n * (job.max_tokens + 3) + 1 := by
  show (schedule job.n job.prompts).length * _ + 1 = _
  rw [length_schedule]

omit [Field α] in
theorem Job.reply_of_turns {p : job.Progress} (h : job.turns_left p = 0) :
    (job.reply p).isSome := by
  cases p with
  | returned choices usage => rfl
  | raised e => rfl
  | choosing t todo => cases h
  | generating t prompt todo p => cases h

/-- What the invariant says of a reply. -/
theorem Job.Inv.reply_ok {p : job.Progress} (hinv : job.Inv use_kv_cache p)
    {choices : List CompletionChoice} {usage : CompletionUsage}
    (hreply : job.reply p = some (.ok (choices, usage))) :
    ∃ results, List.Forall₂ (job.Meets use_kv_cache) (schedule job.n job.prompts) results ∧
      Booked job.suffix results choices usage := by
  cases hinv with
  | returned hresults hbooked =>
    cases hreply
    exact ⟨_, hresults, hbooked⟩
  | raised hprompt hempty => cases hreply
  | choosing hdone htotals => cases hreply
  | generating hdone htotals hcall => cases hreply

theorem Job.Inv.reply_error {p : job.Progress} (hinv : job.Inv use_kv_cache p) {e : Raised}
    (hreply : job.reply p = some (.error e)) :
    e = .exception (no_tokens_exception job.checkpoint.cfg) ∧
      ∃ prompt ∈ job.prompts, job.checkpoint.rt.tokenizer.encode prompt = [] := by
  cases hinv with
  | raised hprompt hempty =>
    cases hreply
    exact ⟨rfl, _, hprompt, hempty⟩
  | returned hresults hbooked => cases hreply
  | choosing hdone htotals => cases hreply
  | generating hdone htotals hcall => cases hreply

/-! ## Section 4: A thread alone -/

/-- The turns of a generation are turns of its thread, until it is over. -/
theorem generating_turns (t : Totals) (prompt : String) (todo : List String) {n : Nat}
    {p q : (job.call prompt).Progress} {rng rng' : ρ}
    (h : (fun pr : (job.call prompt).Progress × ρ =>
      (job.call prompt).turn use_kv_cache pr.1 pr.2)^[n] (p, rng) = (q, rng')) :
    ∃ m, (fun pr : job.Progress × ρ => job.turn use_kv_cache pr.1 pr.2)^[m]
      (.generating t prompt todo p, rng) = (.generating t prompt todo q, rng') := by
  induction n generalizing p rng with
  | zero =>
    cases h
    exact ⟨0, rfl⟩
  | succ n ih =>
    rw [Function.iterate_succ_apply] at h
    cases p with
    | running s =>
      obtain ⟨m, hm⟩ := ih h
      exact ⟨m + 1, hm⟩
    -- a generation that is over has turns that do nothing
    | returned s => exact ih h
    | raised e => exact ih h

/-- The generation of `served_model` as the loop of the call. -/
theorem run_served_model (use_kv_cache : Bool) (job : Job α ρ) (prompt : String) (rng : ρ) :
    StateExcept.run ((served_model use_kv_cache job.checkpoint).generate_with_metadata prompt
        job.max_tokens) rng =
      match generate_tokens (job.call prompt).rt (job.call prompt).model use_kv_cache
        (job.call prompt).input_tokens (job.call prompt).max_new_tokens rng with
      | .ok s => (.ok (generation_result (job.call prompt).rt (job.call prompt).input_tokens s),
          s.rng)
      | .error e => (.error (.exception (exception_name e)), rng) := by
  have hget : StateExcept.run (get : Handler ρ ρ) rng = (.ok rng, rng) := rfl
  unfold served_model
  dsimp only
  rw [StateExcept.run_bind_ok hget]
  cases hrun : generate_tokens (job.call prompt).rt (job.call prompt).model use_kv_cache
      (job.call prompt).input_tokens (job.call prompt).max_new_tokens rng with
  | ok s =>
    have hmetadata : KVCache.generate_with_metadata job.checkpoint.rt job.checkpoint.model
        use_kv_cache prompt job.max_tokens rng = _ := KVCache.generate_with_metadata_ok hrun
    rw [hmetadata]
    rfl
  | error e =>
    have hmetadata : KVCache.generate_with_metadata job.checkpoint.rt job.checkpoint.model
        use_kv_cache prompt job.max_tokens rng = .error e := by
      unfold KVCache.generate_with_metadata
      exact congrArg (· >>= _) hrun
    rw [hmetadata]
    rfl

/-- Where the loop over some prompts leaves a thread. -/
def Job.settle (job : Job α ρ) : Except Raised Totals × ρ → job.Progress × ρ
  | (.ok t, rng) => (.choosing t [], rng)
  | (.error e, rng) => (.raised e, rng)

theorem choosing_turns (use_kv_cache : Bool) (job : Job α ρ) (t : Totals) (todo : List String)
    (rng : ρ) :
    ∃ n, (fun pr : job.Progress × ρ => job.turn use_kv_cache pr.1 pr.2)^[n]
      (.choosing t todo, rng) = job.settle (StateExcept.run (todo.foldlM (fun t prompt =>
        add_choice (fun prompt => (served_model use_kv_cache job.checkpoint).generate_with_metadata
          prompt job.max_tokens) job.suffix prompt t) t) rng) := by
  induction todo generalizing t rng with
  | nil => exact ⟨0, rfl⟩
  | cons prompt todo ih =>
    obtain ⟨n, hcall⟩ := call_alone use_kv_cache (job.call prompt) rng
    rw [List.foldlM_cons, StateExcept.run_bind, add_choice_eq, StateExcept.run_bind,
      run_served_model]
    refine Interleave.iterate_trans ⟨1, rfl⟩ ?_
    cases hrun : generate_tokens (job.call prompt).rt (job.call prompt).model use_kv_cache
        (job.call prompt).input_tokens (job.call prompt).max_new_tokens rng with
    | ok s =>
      rw [hrun] at hcall
      -- the generation, its choice, and the prompts after it
      refine Interleave.iterate_trans (generating_turns t prompt todo hcall) ?_
      refine Interleave.iterate_trans ⟨1, rfl⟩ ?_
      exact ih _ s.rng
    | error e =>
      rw [hrun] at hcall
      refine Interleave.iterate_trans (generating_turns t prompt todo hcall) ?_
      exact ⟨1, rfl⟩

/-- Turns of a thread alone are the loops of its handler. -/
theorem Job.alone (use_kv_cache : Bool) (job : Job α ρ) (rng : ρ) :
    ∃ n p rng', (fun pr : job.Progress × ρ => job.turn use_kv_cache pr.1 pr.2)^[n]
        (job.start, rng) = (p, rng') ∧
      (job.reply p, rng') = outcome (job.choices use_kv_cache) rng := by
  have hturns := choosing_turns use_kv_cache job {} (schedule job.n job.prompts) rng
  -- the nested loops of the handler are the one loop of the thread
  unfold outcome Job.choices generate_choices
  rw [foldlM_schedule, StateExcept.run_bind]
  match hloop : StateExcept.run ((schedule job.n job.prompts).foldlM (fun t prompt =>
      add_choice (fun prompt => (served_model use_kv_cache job.checkpoint).generate_with_metadata
        prompt job.max_tokens) job.suffix prompt t) {}) rng with
  | (.ok t, rng') =>
    rw [hloop] at hturns
    obtain ⟨n, hn⟩ := Interleave.iterate_trans hturns ⟨1, rfl⟩
    exact ⟨n, _, rng', hn, rfl⟩
  | (.error e, rng') =>
    rw [hloop] at hturns
    obtain ⟨n, hn⟩ := hturns
    exact ⟨n, _, rng', hn, rfl⟩

/-! ## Section 5: Any schedule -/

section schedules

variable {ι : Type} [DecidableEq ι]

/-- A thread under a schedule: it has come to an end if it had enough turns. If it returns,
    it has one result for each generation that was asked for, made from the right prompt,
    and the choices and the usage are those of the results. It raises only where a prompt
    has no tokens, and then what such a prompt raises. -/
structure JobKept (use_kv_cache : Bool) (job : Job α ρ) (turns : Nat) (p : job.Progress) :
    Prop where
  ends : job.prompts.length * job.n * (job.max_tokens + 3) + 1 ≤ turns → (job.reply p).isSome
  returned : ∀ choices usage, job.reply p = some (.ok (choices, usage)) → ∃ results,
    List.Forall₂ (job.Meets use_kv_cache) (schedule job.n job.prompts) results ∧
      Booked job.suffix results choices usage
  raised : ∀ e, job.reply p = some (.error e) →
    e = .exception (no_tokens_exception job.checkpoint.cfg) ∧
    ∃ prompt ∈ job.prompts, job.checkpoint.rt.tokenizer.encode prompt = []

theorem JobKept.of_inv {p : job.Progress} {turns : Nat} (hinv : job.Inv use_kv_cache p)
    (hturns : job.turns_left p ≤ job.turns_left job.start - turns) :
    JobKept use_kv_cache job turns p := by
  rw [Job.turns_left_start] at hturns
  refine ⟨fun henough => Job.reply_of_turns (by omega), ?_, ?_⟩
  · intro choices usage hreply
    exact hinv.reply_ok hreply
  · intro e hreply
    exact hinv.reply_error hreply

theorem Job.Agree.reply {p q : job.Progress} (h : job.Agree p q) : job.reply p = job.reply q := by
  cases h <;> rfl

end schedules

end Server
