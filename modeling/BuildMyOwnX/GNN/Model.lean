import BuildMyOwnX.Framework.Multigraph
import BuildMyOwnX.Framework.Tensor

/-! # Graph Neural Networks on Citation Graphs

    `MessagePassingGNN` and `SimpleGNN` over exact arithmetic. A graph is the
    `Data` of PyTorch Geometric: a feature row for each node and an
    `edge_index` with a source and a destination row. Linear layers are
    arbitrary functions of one row; `softmax` is that of the last axis, which
    is what `F.softmax` takes for a matrix.

    `torch.stack` refuses an empty list, so the forward passes have no result
    on a graph without nodes.
-/

namespace GNN

/-! ## Section 1: Graphs and layers -/

abbrev Row (α : Type) (n : Nat) : Type := Fin n → α

/-- `nn.Linear(m, n)`. -/
abbrev Linear (α : Type) (m n : Nat) : Type := Row α m → Row α n

structure Data (α : Type) (num_nodes num_features num_edges : Nat) where
  x : Tensor α [num_nodes, num_features]
  edge_index : Tensor (Fin num_nodes) [2, num_edges]

variable {α : Type} {num_nodes num_edges l m n : Nat}

/-- A function of one row on every row. -/
def map_rows (f : Row α m → Row α n) (t : Tensor α [num_nodes, m]) : Tensor α [num_nodes, n] :=
  Tensor.ofFn₂ fun i => f (t.rows i)

@[simp] theorem rows_map_rows (f : Row α m → Row α n) (t : Tensor α [num_nodes, m])
    (i : Fin num_nodes) : (map_rows f t).rows i = f (t.rows i) :=
  Tensor.rows_ofFn₂ _ i

/-- `edge_index[1][edge_index[0] == i]`. -/
def neighbors_indexes (edge_index : Tensor (Fin num_nodes) [2, num_edges]) (i : Fin num_nodes) :
    List (Fin num_nodes) :=
  ((List.finRange num_edges).filter fun e => edge_index.get₂ 0 e = i).map
    fun e => edge_index.get₂ 1 e

/-- `torch.stack` of the list that a loop over the nodes has appended to. -/
def stack (output : Fin num_nodes → Row α m) : Option (Tensor α [num_nodes, m]) :=
  if num_nodes = 0 then none else some (Tensor.ofFn₂ output)

variable [Field α] [LinearOrder α]

/-- `F.relu` of one row. -/
def relu (x : Row α n) : Row α n := fun j => max (x j) 0

/-- `F.softmax` of one row. -/
def softmax (exp : α → α) (x : Row α n) : Row α n := fun j => exp (x j) / ∑ k, exp (x k)

/-- `torch.sum(nodes_feat[indexes], dim=0)`. -/
def sum_rows (nodes_feat : Tensor α [num_nodes, m]) (indexes : List (Fin num_nodes)) : Row α m :=
  (indexes.map nodes_feat.rows).sum

/-! ## Section 2: The networks -/

def message_pass (nodes_feat : Tensor α [num_nodes, l])
    (edge_index : Tensor (Fin num_nodes) [2, num_edges])
    (linear_pooling : Linear α l m) (linear_layer : Linear α m n) :
    Option (Tensor α [num_nodes, n]) := do
  let layer_result ← stack fun i =>
    let neighbor_and_node_indexes := neighbors_indexes edge_index i ++ [i]
    let aggregation := sum_rows nodes_feat neighbor_and_node_indexes
    relu (linear_pooling aggregation)
  let layer2_result := map_rows (relu ∘ linear_layer) layer_result
  return layer2_result

/-- The layers of `MessagePassingGNN` that its forward pass uses. -/
structure MessagePassingGNN (α : Type) where
  linear1 : Linear α 1433 100
  linear2 : Linear α 100 50
  linear3 : Linear α 50 50

def MessagePassingGNN.forward (exp : α → α) (self : MessagePassingGNN α)
    (graph : Data α num_nodes 1433 num_edges) : Option (Tensor α [num_nodes, 50]) := do
  let result ← message_pass graph.x graph.edge_index self.linear1 self.linear2
  let result ← message_pass result graph.edge_index self.linear3 self.linear3
  let prediction := map_rows (softmax exp) result
  return prediction

structure SimpleGNN (α : Type) (num_node_features : Nat) where
  nodes_lin : Linear α num_node_features 100
  output_lin : Linear α 100 7

def SimpleGNN.forward (exp : α → α) {num_node_features : Nat}
    (self : SimpleGNN α num_node_features) (data : Data α num_nodes num_node_features num_edges) :
    Option (Tensor α [num_nodes, 7]) := do
  let nodes := map_rows self.nodes_lin data.x
  let nodes := map_rows relu nodes
  let pooled_nodes ← stack fun i =>
    sum_rows nodes (neighbors_indexes data.edge_index i ++ [i])
  let output := map_rows self.output_lin pooled_nodes
  let output := map_rows relu output
  let output := map_rows (softmax exp) output
  return output

end GNN
