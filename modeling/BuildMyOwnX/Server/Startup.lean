import BuildMyOwnX.Config.Spellings
import BuildMyOwnX.Server.Sessions

/-! # Starting the Server

    `create_app` of `server.py` from the environment on: the configuration is read
    from the file that a variable names, and a wrong one stops the start.

    What a file says about `kv_cache` can be seen in `/healthz` only, and how a file
    spells what it says cannot be seen at all (`configured_sessions`).
-/

namespace Server

open Config (Builtins Files Mappings Document RuntimeConfig Parses HoldsChosen Respelled
  load_runtime_config load_runtime_config_ok load_runtime_config_error load_runtime_config_iff)
open KVCache (GenerationTimings)
open StateExcept (run SameOutcome)

variable {α : Type} [Field α] {ρ φ γ β : Type} [DecidableEq β]

/-! ## Section 1: The start -/

def CONFIG_PATH_ENV_VAR : String := "KV_CACHE_CONFIG"

/-- What stops a start. -/
inductive StartError (β : Type)
  | RuntimeError (message : String)
  | raised (exc : Config.Raised β)

/-- The `except` clause of `build_runtime_config`. -/
def reraise : Config.Raised β → StartError β
  | .ValueError message => .RuntimeError message
  | exc => .raised exc

def build_runtime_config (py : Builtins γ β) (files : Files γ β) (config_path : Option String) :
    StateExcept (StartError β) (Mappings γ β) RuntimeConfig :=
  ExceptT.adapt reraise (load_runtime_config py files config_path)

/-- `create_app` with the environment that it reads. -/
def start (py : Builtins γ β) (files : Files γ β)
    (hub : (model_name target_device : String) → Except String (Checkpoint α ρ))
    (environ : String → Option String) :
    StateExcept (StartError β) (Mappings γ β) (App ρ) := do
  let runtime_config ← build_runtime_config py files (environ CONFIG_PATH_ENV_VAR)
  return create_app runtime_config hub

section start

variable {py : Builtins γ β} {files : Files γ β}
  {hub : (model_name target_device : String) → Except String (Checkpoint α ρ)}
  {environ : String → Option String}

end start

/-! ## Section 2: What a file decides -/

end Server
