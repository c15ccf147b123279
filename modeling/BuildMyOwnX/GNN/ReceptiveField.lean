import BuildMyOwnX.GNN.Equivariance

/-! # The Receptive Field

    Applications of `message_pass` one after another, with the weights and the
    widths of each its own (`Layers`). `k` of them give node `i` a row in which
    only the features within `k` citations of `i` and the citations by nodes
    within `k - 1` play a part: two graphs that agree there give it the same row
    (`receptive_field`), whatever else they differ in.

    The induction is over the layers, from the first: each is a round on the
    multigraph of the edge columns, and a round costs one edge of agreement
    (`Multigraph.round_agree`).
-/

namespace GNN

variable {α : Type} {num_nodes num_edges num_edges' l m n : Nat}

/-! ## Section 1: Stacked layers -/

/-- The weights of some applications of `message_pass`, the first one first. -/
inductive Layers (α : Type) : Nat → Nat → Type
  | nil {n : Nat} : Layers α n n
  | cons {l m n k : Nat} : Linear α l m → Linear α m n → Layers α n k → Layers α l k

def Layers.depth {l n : Nat} : Layers α l n → Nat
  | .nil => 0
  | .cons _ _ layers => layers.depth + 1

/-- The two graphs have the same features on the nodes within `k` edges of `i`, and
    the same edges out of those within `k - 1`. -/
structure SameNeighborhood (k : Nat) (graph : Data α num_nodes l num_edges)
    (graph' : Data α num_nodes l num_edges') (i : Fin num_nodes) : Prop where
  x : (edges graph.edge_index).AgreeWithin i k graph.x.rows graph'.x.rows
  edge_index : Multigraph.SameOut (edges graph.edge_index) (edges graph'.edge_index) i k

variable [Field α] [LinearOrder α]

/-- The layers applied one after another to the features. -/
def message_passes {l n : Nat} (layers : Layers α l n) (nodes_feat : Tensor α [num_nodes, l])
    (edge_index : Tensor (Fin num_nodes) [2, num_edges]) : Option (Tensor α [num_nodes, n]) :=
  match layers with
  | .nil => some nodes_feat
  | .cons linear_pooling linear_layer layers => do
    let result ← message_pass nodes_feat edge_index linear_pooling linear_layer
    message_passes layers result edge_index

/-- The two applications in `forward`. -/
def MessagePassingGNN.layers (self : MessagePassingGNN α) : Layers α 1433 50 :=
  .cons self.linear1 self.linear2 (.cons self.linear3 self.linear3 .nil)

theorem MessagePassingGNN.forward_eq (exp : α → α) (self : MessagePassingGNN α)
    (graph : Data α num_nodes 1433 num_edges) :
    self.forward exp graph =
      (message_passes self.layers graph.x graph.edge_index).map (map_rows (softmax exp)) := by
  unfold forward layers message_passes
  cases message_pass graph.x graph.edge_index self.linear1 self.linear2 with
  | none => rfl
  | some result =>
    simp only [message_passes, Option.bind_eq_bind, Option.bind_some]
    cases message_pass result graph.edge_index self.linear3 self.linear3 <;> rfl

/-! ## Section 2: Two runs -/

/-- One application of `message_pass` on each of two graphs. -/
theorem message_pass_agree {nodes_feat nodes_feat' : Tensor α [num_nodes, l]}
    {edge_index : Tensor (Fin num_nodes) [2, num_edges]}
    {edge_index' : Tensor (Fin num_nodes) [2, num_edges']} {i : Fin num_nodes} {k : Nat}
    (linear_pooling : Linear α l m) (linear_layer : Linear α m n)
    (hx : (edges edge_index).AgreeWithin i (k + 1) nodes_feat.rows nodes_feat'.rows)
    (hout : Multigraph.SameOut (edges edge_index) (edges edge_index') i (k + 1)) :
    ∃ result result',
      message_pass nodes_feat edge_index linear_pooling linear_layer = some result ∧
      message_pass nodes_feat' edge_index' linear_pooling linear_layer = some result' ∧
      (edges edge_index).AgreeWithin i k result.rows result'.rows := by
  obtain ⟨result, hresult, hrows⟩ :=
    message_pass_spec nodes_feat edge_index linear_pooling linear_layer i
  obtain ⟨result', hresult', hrows'⟩ :=
    message_pass_spec nodes_feat' edge_index' linear_pooling linear_layer i
  refine ⟨result, result', hresult, hresult', ?_⟩
  intro u hu
  rw [hrows, hrows']
  exact Multigraph.round_agree _ hx hout u hu

theorem message_passes_agree {l n : Nat} (layers : Layers α l n)
    {nodes_feat nodes_feat' : Tensor α [num_nodes, l]}
    {edge_index : Tensor (Fin num_nodes) [2, num_edges]}
    {edge_index' : Tensor (Fin num_nodes) [2, num_edges']} {i : Fin num_nodes}
    (hx : (edges edge_index).AgreeWithin i layers.depth nodes_feat.rows nodes_feat'.rows)
    (hout : Multigraph.SameOut (edges edge_index) (edges edge_index') i layers.depth) :
    ∃ out out', message_passes layers nodes_feat edge_index = some out ∧
      message_passes layers nodes_feat' edge_index' = some out' ∧ out.rows i = out'.rows i := by
  induction layers with
  | nil => exact ⟨_, _, rfl, rfl, hx i .here⟩
  | cons linear_pooling linear_layer layers ih =>
    -- after the first layer the rows agree within one edge less
    obtain ⟨result, result', hresult, hresult', hagree⟩ :=
      message_pass_agree linear_pooling linear_layer hx hout
    obtain ⟨out, out', hrun, hrun', hrow⟩ := ih hagree hout.pred
    refine ⟨out, out', ?_, ?_, hrow⟩
    · rw [message_passes, hresult]
      exact hrun
    · rw [message_passes, hresult']
      exact hrun'

theorem MessagePassingGNN.forward_agree (exp : α → α) (model : MessagePassingGNN α)
    {graph : Data α num_nodes 1433 num_edges} {graph' : Data α num_nodes 1433 num_edges'}
    {i : Fin num_nodes} (h : SameNeighborhood 2 graph graph' i) :
    ∃ out out', model.forward exp graph = some out ∧ model.forward exp graph' = some out' ∧
      out.rows i = out'.rows i := by
  obtain ⟨out, out', hrun, hrun', hrow⟩ := message_passes_agree model.layers h.x h.edge_index
  refine ⟨map_rows (softmax exp) out, map_rows (softmax exp) out', ?_, ?_, ?_⟩
  · rw [forward_eq, hrun, Option.map_some]
  · rw [forward_eq, hrun', Option.map_some]
  · rw [rows_map_rows, rows_map_rows, hrow]

/-- **Receptive field**: `k` applications of `message_pass` give node `i` the same
    row on any two graphs with the same neighbourhood of `i` up to `k` edges, and
    the network the same prediction with `k = 2`. -/
theorem receptive_field (layers : Layers α l n) (graph : Data α num_nodes l num_edges)
    (graph' : Data α num_nodes l num_edges') (i : Fin num_nodes) :
    (SameNeighborhood layers.depth graph graph' i →
      ∃ out out', message_passes layers graph.x graph.edge_index = some out ∧
        message_passes layers graph'.x graph'.edge_index = some out' ∧
        out.rows i = out'.rows i) ∧
    (∀ (exp : α → α) (model : MessagePassingGNN α) (cited : Data α num_nodes 1433 num_edges)
      (cited' : Data α num_nodes 1433 num_edges'), SameNeighborhood 2 cited cited' i →
      ∃ out out', model.forward exp cited = some out ∧ model.forward exp cited' = some out' ∧
        out.rows i = out'.rows i) := by
  constructor
  · intro h
    exact message_passes_agree layers h.x h.edge_index
  · intro exp model cited cited' h
    exact model.forward_agree exp h

/-! ## Section 3: A small instance -/

/-- Three nodes with one feature each, and the edges of two lists. -/
def three_nodes {k : Nat} (features : Fin 3 → Rat) (sources destinations : Fin k → Fin 3) :
    Data Rat 3 1 k where
  x := Tensor.ofFn₂ fun i _ => features i
  edge_index := Tensor.ofFn₂ fun r e => ![sources, destinations] r e

theorem out_three_nodes {k : Nat} (features : Fin 3 → Rat) (sources destinations : Fin k → Fin 3)
    (i : Fin 3) :
    (edges (three_nodes features sources destinations).edge_index).out i =
      ↑(((List.finRange k).filter fun e => sources e = i).map destinations) := by
  rw [← neighbors_indexes_coe]
  simp [neighbors_indexes, three_nodes]

/-- Node 2 gets another feature and an edge to node 0, which only cites node 1. -/
theorem same_neighborhood_three_nodes :
    SameNeighborhood 1 (three_nodes ![1, 2, 3] ![0] ![1])
      (three_nodes ![1, 2, 7] ![0, 2] ![1, 0]) 0 := by
  have hout : (edges (three_nodes ![1, 2, 3] ![0] ![1]).edge_index).out 0 = {1} := by
    rw [out_three_nodes]
    rfl
  have hout' : (edges (three_nodes ![1, 2, 7] ![0, 2] ![1, 0]).edge_index).out 0 = {1} := by
    rw [out_three_nodes]
    rfl
  have hx : ∀ u : Fin 3, u ≠ 2 → (![1, 2, 3] : Fin 3 → Rat) u = ![1, 2, 7] u := by decide
  constructor
  · intro u hu
    simp only [three_nodes, Tensor.rows_ofFn₂]
    funext _
    apply hx
    cases hu with
    | here => decide
    | edge hfrom hto =>
      cases hfrom
      rw [hout, Multiset.mem_singleton] at hto
      rw [hto]
      decide
  · intro d hd u hu
    have hd0 : d = 0 := by omega
    subst hd0
    cases hu
    rw [hout, hout']

theorem receptive_field_three_nodes : ∃ out out',
    message_passes (.cons (fun x => x) (fun x => x) .nil) (three_nodes ![1, 2, 3] ![0] ![1]).x
      (three_nodes ![1, 2, 3] ![0] ![1]).edge_index = some out ∧
    message_passes (.cons (fun x => x) (fun x => x) .nil) (three_nodes ![1, 2, 7] ![0, 2] ![1, 0]).x
      (three_nodes ![1, 2, 7] ![0, 2] ![1, 0]).edge_index = some out' ∧
    out.rows 0 = out'.rows 0 :=
  (receptive_field (.cons (fun x => x) (fun x => x) .nil) _ _ 0).1 same_neighborhood_three_nodes

end GNN
