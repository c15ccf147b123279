import BuildMyOwnX.KVCache.Refinement

/-! # Cached Runs over a Token List

    A prefill of the first `s` tokens of `x` followed by one decode for each
    remaining token, on a cache with arbitrary initial contents, against one
    uncached prefill of all of `x`.

    The invariant of the decodes, when position `p` is next, is that rows
    `0..p-1` hold the causal contents of `x` and that nothing else has changed
    since the start (`Stored` at the rows below `p`). The first prefill
    establishes it although it never sees the later tokens: by causality the
    contents for `x.take s` are those for `x`.
-/

namespace KVCache

variable {α : Type} [Field α] {cfg : Config} {rows : Nat}

namespace GPT2

/-- `decode(x[p:p+1], p, kv_cache)` for `p`, `p + 1`, ..., `len(x) - 1` in order. -/
def decode_from (F : Scalars α) (model : GPT2 α cfg) (x : List (Token cfg)) (p : Nat)
    (kv_cache : Cache α cfg rows) :
    Except Error (List (Tensor α [1, cfg.vocab_size]) × Cache α cfg rows) :=
  if h : p < x.length then do
    let (logits, kv_cache) ← model.decode F (x.get ⟨p, h⟩) p kv_cache
    let (rest, kv_cache) ← decode_from F model x (p + 1) kv_cache
    return (logits :: rest, kv_cache)
  else
    return ([], kv_cache)
termination_by x.length - p

/-- The decodes from position `p` on return the causal logits of their
    positions and store their rows. -/
theorem decode_from_spec (F : Scalars α) (model : GPT2 α cfg) (x : List (Token cfg))
    (hN : x.length ≤ cfg.n_positions) (hrows : x.length ≤ rows) {c₀ : Cache α cfg rows} :
    ∀ (k p : Nat) (c : Cache α cfg rows), p + k = x.length →
      Stored c₀ c (fun r _ => r.val < p) (model.cache_row F x) →
      ∃ steps c', model.decode_from F x p c = .ok (steps, c') ∧ steps.length = k ∧
        (∀ i (h : i < steps.length), steps[i].rows 0 = model.logits_row F x (p + i)) ∧
        Stored c₀ c' (fun r _ => r.val < x.length) (model.cache_row F x) := by
  intro k
  induction k with
  | zero =>
    intro p c hp hc
    have hnot : ¬ p < x.length := by omega
    have hpx : p = x.length := by omega
    subst hpx
    refine ⟨[], c, ?_, rfl, ?_, hc⟩
    · rw [decode_from, dif_neg hnot]
      rfl
    · intro i hi
      exact absurd hi (Nat.not_lt_zero i)
  | succ k ih =>
    intro p c hp hc
    have hlt : p < x.length := by omega
    obtain ⟨y, c₁, hrun, hy, hc₁⟩ :=
      model.decode_spec F x hlt (by omega) (by omega) hc.filled
    -- row `p` joins the rows below it
    have hc' : Stored c₀ c₁ (fun r _ => r.val < p + 1) (model.cache_row F x) :=
      hc.trans hc₁ (fun r _ => by omega)
    obtain ⟨steps, c₂, hrest, hlen, hsteps, hc₂⟩ := ih (p + 1) c₁ (by omega) hc'
    refine ⟨y :: steps, c₂, ?_, by simp [hlen], ?_, hc₂⟩
    · rw [decode_from, dif_pos hlt, hrun, Except.ok_bind]
      simp only [hrest, Except.ok_bind]
      rfl
    · intro i hi
      cases i with
      | zero => exact hy
      | succ i =>
        have hstep := hsteps i (by simpa using hi)
        rw [List.getElem_cons_succ, hstep]
        congr 1
        omega

/-- What a cached run of `x`, split at `s`, is meant to compute: each decode
    returns the row of the uncached logits at its position, the rows of the
    cache below `len(x)` end up as one cached prefill of all of `x` would leave
    them, and the other rows keep what they held. -/
def CachedRunAgrees (F : Scalars α) (model : GPT2 α cfg) (x : List (Token cfg)) (s : Nat)
    (c₀ : Cache α cfg rows) : Prop :=
  ∃ full full' c_full first c₁ steps c₂,
    model.prefill F x (none : Option (Cache α cfg rows)) = .ok (full, none) ∧
    model.prefill F x (some c₀) = .ok (full', some c_full) ∧
    model.prefill F (x.take s) (some c₀) = .ok (first, some c₁) ∧
    model.decode_from F x s c₁ = .ok (steps, c₂) ∧
    steps.length = x.length - s ∧
    (∀ i (h : i < steps.length) (h' : s + i < x.length),
      steps[i].rows 0 = full.rows ⟨s + i, h'⟩) ∧
    (∀ r l col, r.val < x.length → c₂.get₃ r l col = c_full.get₃ r l col) ∧
    (∀ r l col, x.length ≤ r.val → c₂.get₃ r l col = c₀.get₃ r l col)

/-- **KV-cache correctness**: a prefill of a non-empty prefix and the decodes of
    the remaining tokens agree with the uncached forward pass, whatever the
    cache held before. -/
theorem cached_run_agrees (F : Scalars α) (model : GPT2 α cfg) (x : List (Token cfg))
    (hN : x.length ≤ cfg.n_positions) (s : Nat) (hs : 1 ≤ s ∧ s ≤ x.length)
    (hrows : x.length ≤ rows) (c₀ : Cache α cfg rows) : model.CachedRunAgrees F x s c₀ := by
  have hlen : (x.take s).length = s := List.length_take_of_le hs.2
  have hpos : 0 < x.length := by omega
  have hpos' : 0 < (x.take s).length := by omega
  obtain ⟨full, hfull, hfullrows⟩ := model.prefill_none_spec F rows hpos hN
  obtain ⟨full', c_full, hfull', -, hcf⟩ := model.prefill_some_spec F hpos hN hrows c₀
  obtain ⟨first, c₁, hfirst, -, hc₁⟩ :=
    model.prefill_some_spec F hpos' (by omega) (by omega) c₀
  -- causality: the prefix alone has the contents of the whole list
  have hprefix : Stored c₀ c₁ (fun r _ => r.val < s) (model.cache_row F x) := by
    constructor
    · intro r l col hr
      rw [hc₁.written r l col (by omega), ← List.take_append_drop s x,
        cache_row_append F model _ _ l (by omega), List.take_append_drop]
    · intro r l col hr
      exact hc₁.frame r l col (by omega)
  obtain ⟨steps, c₂, hsteps, hcount, hrow, hc₂⟩ :=
    model.decode_from_spec F x hN hrows (x.length - s) s c₁ (by omega) hprefix
  refine ⟨full, full', c_full, first, c₁, steps, c₂, hfull, hfull', hfirst, hsteps,
    hcount, ?_, ?_, ?_⟩
  · intro i h h'
    rw [hrow i h, hfullrows]
  · intro r l col hr
    rw [hc₂.written r l col hr, hcf.written r l col hr]
  · intro r l col hr
    exact hc₂.frame r l col (by omega)

/-- The tokens `0, 1, 1`, split after the first, on a cache of four rows. -/
theorem cached_run_agrees_tiny :
    tiny_model.CachedRunAgrees tiny_scalars [(0 : Fin 2), (1 : Fin 2), (1 : Fin 2)] 1
      (Tensor.ofFn fun _ => none : Cache Rat tiny_config 4) :=
  cached_run_agrees tiny_scalars tiny_model [(0 : Fin 2), (1 : Fin 2), (1 : Fin 2)]
    (by decide) 1 (by decide) (by decide) _

end GPT2

end KVCache
