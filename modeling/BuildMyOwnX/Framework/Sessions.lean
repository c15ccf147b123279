import BuildMyOwnX.Framework.StateExcept

/-! # Sessions

    A server that answers one request after another: `session handle` runs the
    handler of each request on the state that the one before has left, whether
    it has returned or raised.

    Properties of the handlers become properties of sessions by induction over
    the requests, once here: what every reply satisfies when the state is kept
    (`session_kept`), that two servers reply alike (`session_related`), that
    replies do not depend on what came before (`session_steady`), and that
    requests which leave the state alone can be left out (`session_filter`).
-/

namespace StateExcept

variable {ε σ α α' ι κ : Type}

/-- The outcomes of the requests, and the state after them. -/
def session (handle : ι → StateExcept ε σ α) : List ι → σ → List (Except ε α) × σ
  | [], s => ([], s)
  | request :: requests, s =>
    let (reply, s) := run (handle request) s
    let (replies, s) := session handle requests s
    (reply :: replies, s)

section session

variable (handle : ι → StateExcept ε σ α)

theorem session_cons (request : ι) (requests : List ι) (s : σ) :
    session handle (request :: requests) s =
      ((run (handle request) s).1 :: (session handle requests (run (handle request) s).2).1,
        (session handle requests (run (handle request) s).2).2) := rfl

/-- Requests that are computed from others. -/
theorem session_map (f : κ → ι) (requests : List κ) (s : σ) :
    session handle (requests.map f) s = session (fun request => handle (f request)) requests s := by
  induction requests generalizing s with
  | nil => rfl
  | cons request requests ih =>
    rw [List.map_cons, session_cons, session_cons, ih]

variable {handle}

/-- Handlers that are related, on the same requests. -/
theorem session_related {R : α → α' → Prop} {handle' : ι → StateExcept ε σ α'}
    (h : ∀ request, Related R (handle request) (handle' request)) (requests : List ι) (s : σ) :
    List.Forall₂ (SameOutcome R) (session handle requests s).1 (session handle' requests s).1 ∧
      (session handle requests s).2 = (session handle' requests s).2 := by
  induction requests generalizing s with
  | nil => exact ⟨.nil, rfl⟩
  | cons request requests ih =>
    obtain ⟨hreply, hstate⟩ := h request s
    rw [session_cons, session_cons, ← hstate]
    obtain ⟨hreplies, hend⟩ := ih (run (handle request) s).2
    exact ⟨.cons hreply hreplies, hend⟩

/-- Handlers without a state reply as they would on their own. -/
theorem session_steady {requests : List ι} (h : ∀ request ∈ requests, Steady (handle request))
    (s s' : σ) :
    session handle requests s = (requests.map fun request => (run (handle request) s').1, s) := by
  induction requests with
  | nil => rfl
  | cons request requests ih =>
    obtain ⟨r, hr⟩ := h request List.mem_cons_self
    have hrest := ih fun r hr => h r (List.mem_cons_of_mem request hr)
    rw [session_cons, hr s, hrest, List.map_cons, hr s']

/-- Requests can be left out if their replies say that they have left the state alone. -/
theorem session_filter (dropped : Except ε α → Bool)
    (h : ∀ request s, dropped (run (handle request) s).1 → (run (handle request) s).2 = s)
    (requests : List ι) (s : σ) :
    let kept := (requests.zip (session handle requests s).1).filter fun exchange =>
      !dropped exchange.2
    session handle (kept.map Prod.fst) s =
      (kept.map Prod.snd, (session handle requests s).2) := by
  dsimp only
  induction requests generalizing s with
  | nil => rfl
  | cons request requests ih =>
    have hrest := ih (run (handle request) s).2
    rw [session_cons, List.zip_cons_cons]
    by_cases hdropped : dropped (run (handle request) s).1
    · -- the request is dropped, and the rest starts from the same state
      rw [List.filter_cons_of_neg (by simpa using hdropped)]
      rw [h request s hdropped] at hrest ⊢
      exact hrest
    · rw [List.filter_cons_of_pos (by simpa using hdropped), List.map_cons, List.map_cons,
        session_cons, hrest]

end session

end StateExcept
