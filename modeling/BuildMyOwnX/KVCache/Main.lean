import BuildMyOwnX.KVCache.Timings
import BuildMyOwnX.Server.Loading

/-! # The Command Line

    `main.py`: it generates from one prompt and prints the text and the timings,
    with `--compare-kv-cache` once with the cache and once without it. What is
    printed is a list, one entry for each `print`. The parsed arguments, the line
    that `input` reads, the clock and the format `:.3f` are parameters.

    Both runs of a comparison start from the same seed. So the warning that they
    produced different texts is never printed (`compare_never_warns`), and a
    comparison prints one text and two accounts of the same tokens.
-/

namespace KVCache

open Server (Checkpoint Pretrained Torch init_gpt2 exception_name)

variable {α : Type} [Field α] {ρ : Type}

/-! ## Section 1: main.py -/

structure Args where
  prompt : Option String := none
  model_name : String := "openai-community/gpt2"
  max_new_tokens : Nat := 500
  no_kv_cache : Bool := false
  compare_kv_cache : Bool := false
  seed : Int := 0

inductive Exit
  | system_exit (message : String)
  | exception (message : String)
  deriving DecidableEq, Repr

/-- A result with all of its timings. -/
structure MeasuredResult where
  result : GenerationResult
  timings : MeasuredTimings

def resolve_prompt (prompt_arg : Option String) (input : String) : Except Exit String :=
  let prompt := match prompt_arg with
    | some prompt_arg => PyString.strip prompt_arg
    | none => PyString.strip input
  if prompt = "" then
    .error (.system_exit "Prompt cannot be empty.")
  else
    .ok prompt

/-- `generate_with_metadata`, measured. -/
def timed_generate_with_metadata (clock : Nat → ℚ) (checkpoint : Checkpoint α ρ)
    (use_kv_cache : Bool) (prompt : String) (max_new_tokens : Nat) (rng : ρ) :
    Except Error MeasuredResult := do
  let input_tokens := checkpoint.rt.tokenizer.encode prompt
  let s ← timed_generate_tokens clock checkpoint.rt checkpoint.model use_kv_cache input_tokens
    max_new_tokens rng
  return ⟨generation_result checkpoint.rt input_tokens s.erase, s.timings⟩

/-- What a run takes from outside. -/
structure Outside (α ρ : Type) where
  torch : Torch
  from_pretrained : String → Except String (Pretrained α ρ)
  /-- The random state after `manual_seed`. -/
  seeded : Int → ρ

def run_generation (outside : Outside α ρ) (clock : Nat → ℚ) (prompt model_name : String)
    (use_kv_cache : Bool) (max_new_tokens : Nat) (seed : Int) : Except Exit MeasuredResult :=
  let rng := outside.seeded seed
  match init_gpt2 outside.torch outside.from_pretrained model_name "auto" with
  | .error exc => .error (.exception exc)
  | .ok checkpoint =>
    match timed_generate_with_metadata clock checkpoint use_kv_cache prompt max_new_tokens rng with
    | .error e => .error (.exception (exception_name e))
    | .ok result => .ok result

section report

variable (format_ms : ℚ → String)

def print_summary (label : String) (result : MeasuredResult) : List String :=
  let timings := result.timings
  [label,
    "Prompt tokens: " ++ toString result.result.prompt_tokens,
    "Output tokens: " ++ toString result.result.output_tokens,
    "Prefill: " ++ format_ms timings.prefill_ms ++ " ms across " ++
      toString timings.prefill_calls ++ " call(s) (avg " ++
      format_ms timings.average_prefill_ms ++ " ms)",
    "Decode: " ++ format_ms timings.decode_ms ++ " ms across " ++
      toString timings.decode_calls ++ " call(s) (avg " ++
      format_ms timings.average_decode_ms ++ " ms)",
    "Measured total: " ++ format_ms timings.total_ms ++ " ms"]

/-- What a comparison prints before it compares the texts. -/
def print_comparison (cached_result uncached_result : MeasuredResult) : List String :=
  let cached_total_ms := cached_result.timings.total_ms
  let uncached_total_ms := uncached_result.timings.total_ms
  [cached_result.result.full_text, ""] ++
    print_summary format_ms "KV cache enabled" cached_result ++ [""] ++
    print_summary format_ms "KV cache disabled" uncached_result ++
    (if cached_total_ms > 0 then
      ["", "KV cache speedup vs uncached: " ++
        format_ms (uncached_total_ms / cached_total_ms) ++ "x"]
    else [])

variable (outside : Outside α ρ) (clock clock' : Nat → ℚ)

/-- What `main` prints, with the clocks of its runs in order. -/
def main (args : Args) (input : String) : Except Exit (List String) := do
  let prompt ← resolve_prompt args.prompt input
  if args.compare_kv_cache then
    let cached_result ← run_generation outside clock prompt args.model_name true
      args.max_new_tokens args.seed
    let uncached_result ← run_generation outside clock' prompt args.model_name false
      args.max_new_tokens args.seed
    return print_comparison format_ms cached_result uncached_result ++
      if cached_result.result.full_text ≠ uncached_result.result.full_text then
        ["Warning: cached and uncached generations produced different text for the same seed."]
      else []
  else
    let result ← run_generation outside clock prompt args.model_name (!args.no_kv_cache)
      args.max_new_tokens args.seed
    return [result.result.full_text, ""] ++ print_summary format_ms "Generation timings" result

/-! ## Section 2: Comparisons -/

theorem timed_generate_with_metadata_erases (checkpoint : Checkpoint α ρ) (use_kv_cache : Bool)
    (prompt : String) (max_new_tokens : Nat) (rng : ρ) :
    (timed_generate_with_metadata clock checkpoint use_kv_cache prompt max_new_tokens rng).map
        MeasuredResult.result =
      (generate_with_metadata checkpoint.rt checkpoint.model use_kv_cache prompt max_new_tokens
        rng).map Prod.fst := by
  have herases := timed_run_erases clock checkpoint.rt checkpoint.model use_kv_cache
    (checkpoint.rt.tokenizer.encode prompt) max_new_tokens rng
  unfold timed_generate_with_metadata generate_with_metadata
  dsimp only
  rw [← herases]
  cases timed_generate_tokens clock checkpoint.rt checkpoint.model use_kv_cache
    (checkpoint.rt.tokenizer.encode prompt) max_new_tokens rng <;> rfl

/-- The two modes, measured by different clocks. -/
theorem timed_modes_agree (checkpoint : Checkpoint α ρ) (prompt : String) (max_new_tokens : Nat)
    (rng : ρ) :
    StateExcept.SameOutcome (fun cached uncached => SameResult cached.result uncached.result)
      (timed_generate_with_metadata clock checkpoint true prompt max_new_tokens rng)
      (timed_generate_with_metadata clock' checkpoint false prompt max_new_tokens rng) := by
  have hmodes := modes_agree checkpoint.rt checkpoint.model true false prompt max_new_tokens rng
  -- each measured outcome is that of the run without the clock
  rw [← StateExcept.SameOutcome.map_iff, timed_generate_with_metadata_erases,
    timed_generate_with_metadata_erases, StateExcept.SameOutcome.map_iff]
  exact hmodes.mono fun _ _ h => h.1

/-- The two runs of a comparison. -/
theorem run_generation_same (prompt model_name : String) (max_new_tokens : Nat) (seed : Int) :
    StateExcept.SameOutcome (fun cached uncached => SameResult cached.result uncached.result)
      (run_generation outside clock prompt model_name true max_new_tokens seed)
      (run_generation outside clock' prompt model_name false max_new_tokens seed) := by
  unfold run_generation
  dsimp only
  cases init_gpt2 outside.torch outside.from_pretrained model_name "auto" with
  | error exc => exact rfl
  | ok checkpoint =>
    have hsame := timed_modes_agree clock clock' checkpoint prompt max_new_tokens
      (outside.seeded seed)
    dsimp only
    revert hsame
    cases timed_generate_with_metadata clock checkpoint true prompt max_new_tokens
        (outside.seeded seed) <;>
      cases timed_generate_with_metadata clock' checkpoint false prompt max_new_tokens
        (outside.seeded seed)
    case ok.ok => exact id
    case error.error => exact fun h => congrArg (fun e => Exit.exception (exception_name e)) h
    case ok.error => exact False.elim
    case error.ok => exact False.elim

/-- The results of a comparison, if both runs have one. -/
theorem compared_results_same {prompt model_name : String} {max_new_tokens : Nat} {seed : Int}
    {cached_result uncached_result : MeasuredResult}
    (hcached : run_generation outside clock prompt model_name true max_new_tokens seed =
      .ok cached_result)
    (huncached : run_generation outside clock' prompt model_name false max_new_tokens seed =
      .ok uncached_result) :
    SameResult cached_result.result uncached_result.result := by
  have hruns := run_generation_same outside clock clock' prompt model_name max_new_tokens seed
  rw [hcached, huncached] at hruns
  exact hruns

/-- What a comparison prints, warnings left out. -/
def comparison (args : Args) (input : String) : Except Exit (List String) := do
  let prompt ← resolve_prompt args.prompt input
  let cached_result ← run_generation outside clock prompt args.model_name true
    args.max_new_tokens args.seed
  let uncached_result ← run_generation outside clock' prompt args.model_name false
    args.max_new_tokens args.seed
  return print_comparison format_ms cached_result uncached_result

/-- **A comparison never warns**: it prints the comparison of two results with the
    same texts and the same numbers of tokens, and nothing after it. -/
theorem compare_never_warns (args : Args) (input : String) :
    main format_ms outside clock clock' { args with compare_kv_cache := true } input =
        comparison format_ms outside clock clock' args input ∧
      ∀ prompt cached_result uncached_result,
        run_generation outside clock prompt args.model_name true args.max_new_tokens args.seed =
          .ok cached_result →
        run_generation outside clock' prompt args.model_name false args.max_new_tokens args.seed =
          .ok uncached_result →
        SameResult cached_result.result uncached_result.result := by
  refine ⟨?_, fun _ _ _ hcached huncached =>
    compared_results_same outside clock clock' hcached huncached⟩
  unfold main comparison
  cases resolve_prompt args.prompt input with
  | error exit => rfl
  | ok prompt =>
    simp only [Except.ok_bind, if_true]
    cases hcached : run_generation outside clock prompt args.model_name true args.max_new_tokens
      args.seed with
    | error exit => rfl
    | ok cached_result =>
      simp only [Except.ok_bind]
      cases huncached : run_generation outside clock' prompt args.model_name false
        args.max_new_tokens args.seed with
      | error exit => rfl
      | ok uncached_result =>
        -- equal texts, so the warning is not printed
        have htext := (compared_results_same outside clock clock' hcached huncached).full_text
        simp only [Except.ok_bind, htext, ne_eq, not_true_eq_false, if_false, List.append_nil]

end report

end KVCache
