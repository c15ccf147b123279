import Mathlib

/-! # Directed Multigraphs and Rounds of Message Passing

    A multigraph is a multiset of directed edges, so it has duplicate edges and
    self-loops but no order. In a round every node computes its new value from
    its own value and the multiset of the values of its out-neighbours.

    A round does not see the names of the nodes: renaming them along a
    bijection renames its result (`round_relabel`). Nor does it see far: its
    result within `k` edges of a node depends on the values within `k + 1` edges
    and on the edges out of the nodes within `k` (`round_agree`).

    A round that treats the own value as one of those received (`gather`) cannot
    tell nodes apart that color refinement of closed neighborhoods does not
    (`gather_alike`), be they in one graph or in two.
-/

universe u v

structure Multigraph (V : Type u) where
  edges : Multiset (V × V)

namespace Multigraph

variable {V W : Type u} {X Y : Type v}

/-- The nodes that the edges out of `v` lead to. -/
def out [DecidableEq V] (G : Multigraph V) (v : V) : Multiset V :=
  (G.edges.filter fun e => e.1 = v).map Prod.snd

/-- Rename the nodes. -/
def relabel (π : V ≃ W) (G : Multigraph V) : Multigraph W :=
  ⟨G.edges.map (Prod.map π π)⟩

theorem out_relabel [DecidableEq V] [DecidableEq W] (π : V ≃ W) (G : Multigraph V) (v : V) :
    (G.relabel π).out (π v) = (G.out v).map π := by
  unfold out relabel
  rw [Multiset.filter_map, Multiset.map_map, Multiset.map_map]
  congr 1
  apply Multiset.filter_congr
  intro e _
  show π e.1 = π v ↔ e.1 = v
  exact π.injective.eq_iff

/-- One round with the update function `φ`. -/
def round [DecidableEq V] (φ : X → Multiset X → Y) (G : Multigraph V) (x : V → X) : V → Y :=
  fun v => φ (x v) ((G.out v).map x)

theorem round_relabel [DecidableEq V] [DecidableEq W] (φ : X → Multiset X → Y) (π : V ≃ W)
    (G : Multigraph V) {x : V → X} {x' : W → X} (hx : ∀ v, x' (π v) = x v) (v : V) :
    (G.relabel π).round φ x' (π v) = G.round φ x v := by
  have hout : ((G.relabel π).out (π v)).map x' = (G.out v).map x := by
    rw [out_relabel, Multiset.map_map]
    exact Multiset.map_congr rfl fun u _ => hx u
  unfold round
  rw [hx v, hout]

/-! ### Locality -/

section within

variable [DecidableEq V]

/-- The nodes that at most `k` edges lead to from `v`. -/
inductive Within (G : Multigraph V) (v : V) : Nat → V → Prop
  | here {k : Nat} : Within G v k v
  | edge {k : Nat} {u w : V} : Within G v k u → w ∈ G.out u → Within G v (k + 1) w

theorem Within.succ {G : Multigraph V} {v u : V} {k : Nat} (h : G.Within v k u) :
    G.Within v (k + 1) u := by
  induction h with
  | here => exact .here
  | edge _ hw ih => exact .edge ih hw

/-- `x` and `x'` are equal within `k` edges of `v`. -/
def AgreeWithin (G : Multigraph V) (v : V) (k : Nat) (x x' : V → X) : Prop :=
  ∀ u, G.Within v k u → x u = x' u

/-- The edges out of the nodes within fewer than `k` edges of `v` are the same. -/
def SameOut (G G' : Multigraph V) (v : V) (k : Nat) : Prop :=
  ∀ d < k, ∀ u, G.Within v d u → G.out u = G'.out u

theorem SameOut.pred {G G' : Multigraph V} {v : V} {k : Nat} (h : SameOut G G' v (k + 1)) :
    SameOut G G' v k :=
  fun d hd => h d (Nat.lt_succ_of_lt hd)

/-- A round costs one edge of agreement. -/
theorem round_agree (φ : X → Multiset X → Y) {G G' : Multigraph V} {v : V} {k : Nat}
    {x x' : V → X} (hx : G.AgreeWithin v (k + 1) x x') (hout : SameOut G G' v (k + 1)) :
    G.AgreeWithin v k (G.round φ x) (G'.round φ x') := by
  intro u hu
  have hown : x u = x' u := hx u hu.succ
  have hsame : G.out u = G'.out u := hout k (Nat.lt_succ_self k) u hu
  -- the nodes that `u` receives from are one edge further
  have hreceived : (G.out u).map x = (G.out u).map x' :=
    Multiset.map_congr rfl fun w hw => hx w (.edge hu hw)
  unfold round
  rw [hown, hreceived, hsame]

end within

/-! ### Color refinement -/

section alike

variable [DecidableEq V] [DecidableEq W]

/-- A node and the nodes that its edges lead to. -/
def closed (G : Multigraph V) (v : V) : Multiset V := v ::ₘ G.out v

/-- One round in which the own value is one of those received. -/
def gather (φ : Multiset X → Y) (G : Multigraph V) (x : V → X) : V → Y :=
  fun v => φ ((G.closed v).map x)

theorem round_eq_gather {φ : X → Multiset X → Y} {ψ : Multiset X → Y}
    (h : ∀ own received, φ own received = ψ (own ::ₘ received)) (G : Multigraph V) (x : V → X) :
    G.round φ x = G.gather ψ x := by
  funext v
  unfold round gather closed
  rw [h, Multiset.map_cons]

/-- What refining the colors `k` times does not tell apart: after 0 times nodes with the
    same value, and later those whose closed neighborhoods can be paired off. -/
def Alike (G : Multigraph V) (H : Multigraph W) (x : V → X) (y : W → X) : Nat → V → W → Prop
  | 0 => fun v w => x v = y w
  | k + 1 => fun v w => Multiset.Rel (Alike G H x y k) (G.closed v) (H.closed w)

/-- A round costs one refinement. -/
theorem gather_alike (φ : Multiset X → Y) {G : Multigraph V} {H : Multigraph W} {x : V → X}
    {y : W → X} {k : Nat} {v : V} {w : W} (h : Alike G H x y (k + 1) v w) :
    Alike G H (G.gather φ x) (H.gather φ y) k v w := by
  induction k generalizing v w with
  | zero =>
    have hvalues : (G.closed v).map x = (H.closed w).map y :=
      Multiset.rel_eq.mp (Multiset.rel_map.mpr h)
    exact congrArg φ hvalues
  | succ k ih => exact Multiset.Rel.mono h fun a _ b _ hab => ih hab

/-- A function of the own value costs none. -/
theorem Alike.map (f : X → Y) {G : Multigraph V} {H : Multigraph W} {x : V → X} {y : W → X}
    {k : Nat} {v : V} {w : W} (h : Alike G H x y k v w) :
    Alike G H (f ∘ x) (f ∘ y) k v w := by
  induction k generalizing v w with
  | zero => exact congrArg f h
  | succ k ih => exact Multiset.Rel.mono h fun a _ b _ hab => ih hab

end alike

end Multigraph
