import BuildMyOwnX.GNN.ReceptiveField

/-! # What the Networks Can Tell Apart

    Both networks add the row of a node to those of the nodes it cites, so a
    layer sees a closed neighborhood as a multiset and not which row is the
    node's own. `k` applications of `message_pass` therefore give the same row to
    nodes that `k` color refinements do not tell apart (`Multigraph.Alike`), in
    one graph or in two of different sizes, whatever the weights are
    (`color_refinement`).

    The induction is over the layers, from the first: each is a round that costs
    one refinement (`Multigraph.gather_alike`).
-/

namespace GNN

variable {α : Type} {num_nodes num_nodes' num_edges num_edges' l m n : Nat}

/-! ## Section 1: Alike nodes -/

/-- `k` refinements do not tell node `i` of `graph` and node `i'` of `graph'` apart. -/
def SameColor (k : Nat) (graph : Data α num_nodes l num_edges)
    (graph' : Data α num_nodes' l num_edges') (i : Fin num_nodes) (i' : Fin num_nodes') : Prop :=
  Multigraph.Alike (edges graph.edge_index) (edges graph'.edge_index) graph.x.rows graph'.x.rows
    k i i'

section layers

variable [Field α]

/-- The aggregation is a sum over the closed neighborhood. -/
theorem aggregation_gather {Y : Type} (f : Row α l → Y) (G : Multigraph (Fin num_nodes))
    (x : Fin num_nodes → Row α l) :
    G.round (fun own received => f (received.sum + own)) x = G.gather (fun rows => f rows.sum) x := by
  apply Multigraph.round_eq_gather
  intro own received
  rw [Multiset.sum_cons, add_comm]

variable [LinearOrder α]

/-- One application of `message_pass` on each of two graphs. -/
theorem message_pass_alike {nodes_feat : Tensor α [num_nodes, l]}
    {nodes_feat' : Tensor α [num_nodes', l]} {edge_index : Tensor (Fin num_nodes) [2, num_edges]}
    {edge_index' : Tensor (Fin num_nodes') [2, num_edges']} {i : Fin num_nodes}
    {i' : Fin num_nodes'} {k : Nat} (linear_pooling : Linear α l m) (linear_layer : Linear α m n)
    (h : Multigraph.Alike (edges edge_index) (edges edge_index') nodes_feat.rows nodes_feat'.rows
      (k + 1) i i') :
    ∃ result result',
      message_pass nodes_feat edge_index linear_pooling linear_layer = some result ∧
      message_pass nodes_feat' edge_index' linear_pooling linear_layer = some result' ∧
      Multigraph.Alike (edges edge_index) (edges edge_index') result.rows result'.rows k i i' := by
  obtain ⟨result, hresult, hrows⟩ :=
    message_pass_spec nodes_feat edge_index linear_pooling linear_layer i
  obtain ⟨result', hresult', hrows'⟩ :=
    message_pass_spec nodes_feat' edge_index' linear_pooling linear_layer i'
  refine ⟨result, result', hresult, hresult', ?_⟩
  -- the rows of both results are gathered from closed neighborhoods
  let update := fun sum : Row α l => relu (linear_layer (relu (linear_pooling sum)))
  have hgather : result.rows =
      (edges edge_index).gather (fun rows => update rows.sum) nodes_feat.rows := by
    rw [← aggregation_gather]
    exact funext hrows
  have hgather' : result'.rows =
      (edges edge_index').gather (fun rows => update rows.sum) nodes_feat'.rows := by
    rw [← aggregation_gather]
    exact funext hrows'
  rw [hgather, hgather']
  exact Multigraph.gather_alike _ h

theorem message_passes_alike {l n : Nat} (layers : Layers α l n)
    {nodes_feat : Tensor α [num_nodes, l]} {nodes_feat' : Tensor α [num_nodes', l]}
    {edge_index : Tensor (Fin num_nodes) [2, num_edges]}
    {edge_index' : Tensor (Fin num_nodes') [2, num_edges']} {i : Fin num_nodes}
    {i' : Fin num_nodes'}
    (h : Multigraph.Alike (edges edge_index) (edges edge_index') nodes_feat.rows nodes_feat'.rows
      layers.depth i i') :
    ∃ out out', message_passes layers nodes_feat edge_index = some out ∧
      message_passes layers nodes_feat' edge_index' = some out' ∧ out.rows i = out'.rows i' := by
  induction layers with
  | nil => exact ⟨_, _, rfl, rfl, h⟩
  | cons linear_pooling linear_layer layers ih =>
    -- the first layer takes up one of the refinements
    obtain ⟨result, result', hresult, hresult', halike⟩ :=
      message_pass_alike linear_pooling linear_layer h
    obtain ⟨out, out', hrun, hrun', hrow⟩ := ih halike
    refine ⟨out, out', ?_, ?_, hrow⟩
    · rw [message_passes, hresult]
      exact hrun
    · rw [message_passes, hresult']
      exact hrun'

/-! ## Section 2: The networks -/

theorem MessagePassingGNN.forward_alike (exp : α → α) (model : MessagePassingGNN α)
    {graph : Data α num_nodes 1433 num_edges} {graph' : Data α num_nodes' 1433 num_edges'}
    {i : Fin num_nodes} {i' : Fin num_nodes'} (h : SameColor 2 graph graph' i i') :
    ∃ out out', model.forward exp graph = some out ∧ model.forward exp graph' = some out' ∧
      out.rows i = out'.rows i' := by
  obtain ⟨out, out', hrun, hrun', hrow⟩ := message_passes_alike model.layers h
  refine ⟨map_rows (softmax exp) out, map_rows (softmax exp) out', ?_, ?_, ?_⟩
  · rw [forward_eq, hrun, Option.map_some]
  · rw [forward_eq, hrun', Option.map_some]
  · rw [rows_map_rows, rows_map_rows, hrow]

/-- The prediction of `SimpleGNN` at a node, from the rows of its closed neighborhood. -/
def SimpleGNN.prediction (exp : α → α) {num_node_features : Nat}
    (self : SimpleGNN α num_node_features) (rows : Multiset (Row α num_node_features)) : Row α 7 :=
  softmax exp (relu (self.output_lin (rows.map (relu ∘ self.nodes_lin)).sum))

theorem SimpleGNN.forward_spec (exp : α → α) {num_node_features : Nat}
    (model : SimpleGNN α num_node_features) (data : Data α num_nodes num_node_features num_edges)
    (i₀ : Fin num_nodes) :
    ∃ out, model.forward exp data = some out ∧
      ∀ i, out.rows i = (edges data.edge_index).gather (model.prediction exp) data.x.rows i := by
  let nodes := map_rows relu (map_rows model.nodes_lin data.x)
  obtain ⟨pooled, hpooled, hrows⟩ := stack_spec (fun i =>
    sum_rows nodes (neighbors_indexes data.edge_index i ++ [i])) i₀
  refine ⟨map_rows (softmax exp) (map_rows relu (map_rows model.output_lin pooled)), ?_, ?_⟩
  · simp only [forward]
    show (stack (fun i => sum_rows nodes (neighbors_indexes data.edge_index i ++ [i])) >>= _) = _
    rw [hpooled]
    rfl
  · intro i
    -- the sum of the mapped rows is gathered from the rows themselves
    have hnodes : nodes.rows = relu ∘ model.nodes_lin ∘ data.x.rows := by
      funext u
      simp only [nodes, rows_map_rows, Function.comp_apply]
    rw [rows_map_rows, rows_map_rows, rows_map_rows, hrows, sum_rows_spec,
      aggregation_gather (fun row => row), hnodes]
    unfold Multigraph.gather prediction
    rw [Multiset.map_map]
    rfl

theorem SimpleGNN.forward_alike (exp : α → α) {num_node_features : Nat}
    (model : SimpleGNN α num_node_features)
    {data : Data α num_nodes num_node_features num_edges}
    {data' : Data α num_nodes' num_node_features num_edges'} {i : Fin num_nodes}
    {i' : Fin num_nodes'} (h : SameColor 1 data data' i i') :
    ∃ out out', model.forward exp data = some out ∧ model.forward exp data' = some out' ∧
      out.rows i = out'.rows i' := by
  obtain ⟨out, hout, hrows⟩ := model.forward_spec exp data i
  obtain ⟨out', hout', hrows'⟩ := model.forward_spec exp data' i'
  refine ⟨out, out', hout, hout', ?_⟩
  rw [hrows, hrows']
  exact Multigraph.gather_alike _ h

/-- **Color refinement** bounds what the networks tell apart: with any weights, `k`
    applications of `message_pass` give the same row to nodes that `k` refinements of the
    closed neighborhoods leave together, `MessagePassingGNN` gives the same prediction
    for `k = 2` and `SimpleGNN` for `k = 1`. -/
theorem color_refinement (exp : α → α) {num_node_features : Nat} (layers : Layers α l n)
    (message_passing : MessagePassingGNN α) (simple : SimpleGNN α num_node_features)
    (graph : Data α num_nodes l num_edges) (graph' : Data α num_nodes' l num_edges')
    (cited : Data α num_nodes 1433 num_edges) (cited' : Data α num_nodes' 1433 num_edges')
    (data : Data α num_nodes num_node_features num_edges)
    (data' : Data α num_nodes' num_node_features num_edges')
    (i : Fin num_nodes) (i' : Fin num_nodes') :
    (SameColor layers.depth graph graph' i i' →
      ∃ out out', message_passes layers graph.x graph.edge_index = some out ∧
        message_passes layers graph'.x graph'.edge_index = some out' ∧
        out.rows i = out'.rows i') ∧
    (SameColor 2 cited cited' i i' →
      ∃ out out', message_passing.forward exp cited = some out ∧
        message_passing.forward exp cited' = some out' ∧ out.rows i = out'.rows i') ∧
    (SameColor 1 data data' i i' →
      ∃ out out', simple.forward exp data = some out ∧
        simple.forward exp data' = some out' ∧ out.rows i = out'.rows i') :=
  ⟨fun h => message_passes_alike layers h, fun h => message_passing.forward_alike exp h,
    fun h => simple.forward_alike exp h⟩

end layers

/-! ## Section 3: Rings -/

/-- `n + 1` nodes with equal features, each citing the next and the last the first. -/
def ring (n l : Nat) : Data Rat (n + 1) l (n + 1) where
  x := Tensor.ofFn₂ fun _ _ => 1
  edge_index := Tensor.ofFn₂ fun r e => if r = 0 then e else e + 1

theorem closed_ring (n l : Nat) (i : Fin (n + 1)) :
    (edges (ring n l).edge_index).closed i = i ::ₘ {i + 1} := by
  have hout : neighbors_indexes (ring n l).edge_index i = [i + 1] := by
    unfold neighbors_indexes ring
    simp [List.filter_eq]
  unfold Multigraph.closed
  rw [← neighbors_indexes_coe, hout]
  rfl

/-- No number of refinements tells rings apart, of whatever sizes. -/
theorem same_color_ring (k n m l : Nat) (i : Fin (n + 1)) (i' : Fin (m + 1)) :
    SameColor k (ring n l) (ring m l) i i' := by
  induction k generalizing i i' with
  | zero =>
    show (ring n l).x.rows i = (ring m l).x.rows i'
    simp [ring]
  | succ k ih =>
    show Multiset.Rel _ (Multigraph.closed _ i) (Multigraph.closed _ i')
    rw [closed_ring, closed_ring]
    exact .cons (ih i i') (.cons (ih (i + 1) (i' + 1)) .zero)

/-- A ring of three nodes and one of six, for one choice of weights. -/
theorem color_refinement_rings :
    let message_passing : MessagePassingGNN Rat := ⟨fun row _ => row 0, fun row _ => row 0,
      fun row _ => row 0⟩
    let simple : SimpleGNN Rat 1433 := ⟨fun row _ => row 0, fun row _ => row 0⟩
    (∃ out out', message_passing.forward id (ring 2 1433) = some out ∧
      message_passing.forward id (ring 5 1433) = some out' ∧ out.rows 0 = out'.rows 4) ∧
    (∃ out out', simple.forward id (ring 2 1433) = some out ∧
      simple.forward id (ring 5 1433) = some out' ∧ out.rows 0 = out'.rows 4) := by
  intro message_passing simple
  have h := color_refinement id message_passing.layers message_passing simple (ring 2 1433)
    (ring 5 1433) (ring 2 1433) (ring 5 1433) (ring 2 1433) (ring 5 1433) 0 4
  exact ⟨h.2.1 (same_color_ring 2 2 5 1433 0 4), h.2.2 (same_color_ring 1 2 5 1433 0 4)⟩

end GNN
