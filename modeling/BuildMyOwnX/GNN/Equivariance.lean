import BuildMyOwnX.GNN.Model

/-! # Permutation Equivariance

    The forward passes are rounds on the multigraph of the edge columns
    (`message_pass_spec`, `sum_rows_spec`), and rounds do not see the names of
    the nodes or the order of the edges. Relabelling the nodes of a graph and
    reordering its edge columns therefore relabels the predictions.
-/

namespace GNN

variable {α : Type} {num_nodes num_edges l m n : Nat}

/-! ## Section 1: The multigraph of the edge columns -/

/-- The multigraph of the edge columns. -/
def edges (edge_index : Tensor (Fin num_nodes) [2, num_edges]) : Multigraph (Fin num_nodes) :=
  ⟨(Finset.univ : Finset (Fin num_edges)).val.map
    fun e => (edge_index.get₂ 0 e, edge_index.get₂ 1 e)⟩

theorem neighbors_indexes_coe (edge_index : Tensor (Fin num_nodes) [2, num_edges])
    (i : Fin num_nodes) :
    (neighbors_indexes edge_index i : Multiset (Fin num_nodes)) = (edges edge_index).out i := by
  unfold edges Multigraph.out neighbors_indexes
  rw [Multiset.filter_map, Multiset.map_map]
  rfl

/-- Stacking the rows of at least one node succeeds. -/
theorem stack_spec (output : Fin num_nodes → Row α m) (i₀ : Fin num_nodes) :
    ∃ t, stack output = some t ∧ ∀ i, t.rows i = output i := by
  have hpos : num_nodes ≠ 0 := Nat.ne_of_gt (Nat.lt_of_le_of_lt (Nat.zero_le i₀) i₀.isLt)
  exact ⟨_, if_neg hpos, Tensor.rows_ofFn₂ output⟩

/-! ## Section 2: Relabelled graphs -/

/-- The graph with node `u` renamed `π u` and edge column `e` moved to `ρ e`. -/
def Data.relabel (π : Equiv.Perm (Fin num_nodes)) (ρ : Equiv.Perm (Fin num_edges))
    (graph : Data α num_nodes m num_edges) : Data α num_nodes m num_edges where
  x := Tensor.ofFn₂ fun i j => graph.x.get₂ (π.symm i) j
  edge_index := Tensor.ofFn₂ fun k e => π (graph.edge_index.get₂ k (ρ.symm e))

theorem rows_relabel (π : Equiv.Perm (Fin num_nodes)) (ρ : Equiv.Perm (Fin num_edges))
    (graph : Data α num_nodes m num_edges) (i : Fin num_nodes) :
    (graph.relabel π ρ).x.rows (π i) = graph.x.rows i := by
  funext j
  simp [Tensor.rows, Data.relabel]

theorem edges_relabel (π : Equiv.Perm (Fin num_nodes)) (ρ : Equiv.Perm (Fin num_edges))
    (graph : Data α num_nodes m num_edges) :
    edges (graph.relabel π ρ).edge_index = (edges graph.edge_index).relabel π := by
  unfold edges Multigraph.relabel
  rw [Multiset.map_map]
  congr 1
  -- reordering the columns does not change the multiset of columns
  have hcols : (Finset.univ : Finset (Fin num_edges)).val.map ρ.symm = Finset.univ.val := by
    exact congrArg Finset.val (Finset.map_univ_equiv ρ.symm)
  conv_rhs => rw [← hcols, Multiset.map_map]
  apply Multiset.map_congr rfl
  intro e _
  simp [Data.relabel]

/-- A round on the relabelled graph, from relabelled rows. -/
theorem round_relabelled {X Y : Type} (φ : X → Multiset X → Y)
    (π : Equiv.Perm (Fin num_nodes)) (ρ : Equiv.Perm (Fin num_edges))
    (graph : Data α num_nodes m num_edges) {x x' : Fin num_nodes → X}
    (hx : ∀ i, x' (π i) = x i) (i : Fin num_nodes) :
    (edges (graph.relabel π ρ).edge_index).round φ x' (π i) =
      (edges graph.edge_index).round φ x i := by
  rw [edges_relabel]
  exact Multigraph.round_relabel φ π _ hx i

/-! ## Section 3: Forward passes as rounds -/

variable [Field α]

/-- The aggregation at a node is the sum of its row and its neighbours' rows. -/
theorem sum_rows_spec (nodes_feat : Tensor α [num_nodes, m])
    (edge_index : Tensor (Fin num_nodes) [2, num_edges]) (i : Fin num_nodes) :
    sum_rows nodes_feat (neighbors_indexes edge_index i ++ [i]) =
      (edges edge_index).round (fun own received => received.sum + own) nodes_feat.rows i := by
  unfold sum_rows Multigraph.round
  rw [← neighbors_indexes_coe, List.map_append, List.sum_append, List.map_singleton,
    List.sum_singleton]
  rfl

variable [LinearOrder α]

/-- The update of a node in a round of `message_pass`. -/
def message_row (linear_pooling : Linear α l m) (linear_layer : Linear α m n)
    (own : Row α l) (received : Multiset (Row α l)) : Row α n :=
  relu (linear_layer (relu (linear_pooling (received.sum + own))))

theorem message_pass_spec (nodes_feat : Tensor α [num_nodes, l])
    (edge_index : Tensor (Fin num_nodes) [2, num_edges])
    (linear_pooling : Linear α l m) (linear_layer : Linear α m n) (i₀ : Fin num_nodes) :
    ∃ result, message_pass nodes_feat edge_index linear_pooling linear_layer = some result ∧
      ∀ i, result.rows i =
        (edges edge_index).round (message_row linear_pooling linear_layer) nodes_feat.rows i := by
  obtain ⟨layer_result, hstack, hrows⟩ := stack_spec (fun i =>
    relu (linear_pooling (sum_rows nodes_feat (neighbors_indexes edge_index i ++ [i])))) i₀
  refine ⟨map_rows (relu ∘ linear_layer) layer_result, ?_, ?_⟩
  · simp only [message_pass, hstack]
    rfl
  · intro i
    rw [rows_map_rows, hrows, sum_rows_spec]
    rfl

/-! ## Section 4: Equivariance -/

theorem MessagePassingGNN.forward_relabel (exp : α → α) (model : MessagePassingGNN α)
    (graph : Data α num_nodes 1433 num_edges) (π : Equiv.Perm (Fin num_nodes))
    (ρ : Equiv.Perm (Fin num_edges)) (i : Fin num_nodes) :
    ∃ out out', model.forward exp graph = some out ∧
      model.forward exp (graph.relabel π ρ) = some out' ∧ out'.rows (π i) = out.rows i := by
  obtain ⟨r₁, hr₁, hrow₁⟩ :=
    message_pass_spec graph.x graph.edge_index model.linear1 model.linear2 i
  obtain ⟨r₂, hr₂, hrow₂⟩ :=
    message_pass_spec r₁ graph.edge_index model.linear3 model.linear3 i
  obtain ⟨r₁', hr₁', hrow₁'⟩ := message_pass_spec (graph.relabel π ρ).x
    (graph.relabel π ρ).edge_index model.linear1 model.linear2 i
  obtain ⟨r₂', hr₂', hrow₂'⟩ := message_pass_spec r₁' (graph.relabel π ρ).edge_index
    model.linear3 model.linear3 i
  -- the first round relabels its rows, and the second starts from those
  have h₁ : ∀ u, r₁'.rows (π u) = r₁.rows u := by
    intro u
    rw [hrow₁', hrow₁]
    exact round_relabelled _ π ρ graph (rows_relabel π ρ graph) u
  have h₂ : r₂'.rows (π i) = r₂.rows i := by
    rw [hrow₂', hrow₂]
    exact round_relabelled _ π ρ graph h₁ i
  refine ⟨map_rows (softmax exp) r₂, map_rows (softmax exp) r₂', ?_, ?_, ?_⟩
  · simp only [MessagePassingGNN.forward, hr₁, Option.bind_eq_bind, Option.bind_some, hr₂]
    rfl
  · simp only [MessagePassingGNN.forward, hr₁', Option.bind_eq_bind, Option.bind_some, hr₂']
    rfl
  · rw [rows_map_rows, rows_map_rows, h₂]

theorem SimpleGNN.forward_relabel (exp : α → α) {num_node_features : Nat}
    (model : SimpleGNN α num_node_features) (data : Data α num_nodes num_node_features num_edges)
    (π : Equiv.Perm (Fin num_nodes)) (ρ : Equiv.Perm (Fin num_edges)) (i : Fin num_nodes) :
    ∃ out out', model.forward exp data = some out ∧
      model.forward exp (data.relabel π ρ) = some out' ∧ out'.rows (π i) = out.rows i := by
  -- the node embeddings before pooling
  let nodes (x : Tensor α [num_nodes, num_node_features]) :=
    map_rows relu (map_rows model.nodes_lin x)
  obtain ⟨t, ht, hrows⟩ := stack_spec (fun i =>
    sum_rows (nodes data.x) (neighbors_indexes data.edge_index i ++ [i])) i
  obtain ⟨t', ht', hrows'⟩ := stack_spec (fun i =>
    sum_rows (nodes (data.relabel π ρ).x)
      (neighbors_indexes (data.relabel π ρ).edge_index i ++ [i])) i
  have hnodes : ∀ u, (nodes (data.relabel π ρ).x).rows (π u) = (nodes data.x).rows u := by
    intro u
    show (map_rows relu (map_rows model.nodes_lin _)).rows (π u) = (map_rows relu _).rows u
    rw [rows_map_rows, rows_map_rows, rows_map_rows, rows_map_rows, rows_relabel]
  have hpooled : t'.rows (π i) = t.rows i := by
    rw [hrows', hrows, sum_rows_spec, sum_rows_spec]
    exact round_relabelled _ π ρ data hnodes i
  let output := fun pooled : Tensor α [num_nodes, 100] =>
    map_rows (softmax exp) (map_rows relu (map_rows model.output_lin pooled))
  refine ⟨output t, output t', ?_, ?_, ?_⟩
  · simp only [SimpleGNN.forward]
    show (stack (fun i => sum_rows (nodes data.x) (neighbors_indexes data.edge_index i ++ [i]))
      >>= _) = _
    rw [ht]
    rfl
  · simp only [SimpleGNN.forward]
    show (stack (fun i => sum_rows (nodes (data.relabel π ρ).x)
      (neighbors_indexes (data.relabel π ρ).edge_index i ++ [i])) >>= _) = _
    rw [ht']
    rfl
  · show (map_rows _ (map_rows relu (map_rows model.output_lin t'))).rows (π i) =
      (map_rows _ (map_rows relu (map_rows model.output_lin t))).rows i
    rw [rows_map_rows, rows_map_rows, rows_map_rows, rows_map_rows, rows_map_rows, rows_map_rows,
      hpooled]

/-- **Permutation equivariance** of both networks: the relabelled and reordered
    graph gets at node `π i` the prediction of the original at node `i`. -/
theorem forward_equivariant (exp : α → α) {num_node_features : Nat}
    (message_passing : MessagePassingGNN α) (simple : SimpleGNN α num_node_features)
    (graph : Data α num_nodes 1433 num_edges)
    (data : Data α num_nodes num_node_features num_edges)
    (π : Equiv.Perm (Fin num_nodes)) (ρ : Equiv.Perm (Fin num_edges)) (i : Fin num_nodes) :
    (∃ out out', message_passing.forward exp graph = some out ∧
      message_passing.forward exp (graph.relabel π ρ) = some out' ∧
      out'.rows (π i) = out.rows i) ∧
    (∃ out out', simple.forward exp data = some out ∧
      simple.forward exp (data.relabel π ρ) = some out' ∧
      out'.rows (π i) = out.rows i) :=
  ⟨message_passing.forward_relabel exp graph π ρ i, simple.forward_relabel exp data π ρ i⟩

end GNN
