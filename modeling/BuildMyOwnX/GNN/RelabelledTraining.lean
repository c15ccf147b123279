import BuildMyOwnX.GNN.Training

/-! # Training on a Relabelled Graph

    The networks do not see the names of the nodes or the order of the edges, and
    neither does the loss, which is a mean over the nodes to train on. So the loss of
    a relabelled graph is the same function of the weights. An optimizer sees of the
    graph what the gradients of the loss show it, so it takes the same steps, and the
    loops print the same losses from the same weights (`training_relabelled`).
-/

namespace GNN

variable {α : Type} {num_nodes num_edges n : Nat}

/-! ## Section 1: The loss of relabelled nodes -/

/-- The labels of the graph with node `u` renamed `π u`. -/
def Labels.relabel (π : Equiv.Perm (Fin num_nodes)) (labels : Labels num_nodes) :
    Labels num_nodes where
  y i := labels.y (π.symm i)
  train_mask i := labels.train_mask (π.symm i)

/-- The masked rows are the same in some order. -/
theorem masked_relabel {β : Type} (π : Equiv.Perm (Fin num_nodes)) (labels : Labels num_nodes)
    {rows rows' : Fin num_nodes → β} (hrows : ∀ i, rows' (π i) = rows i) :
    (masked (labels.relabel π).train_mask rows').Perm (masked labels.train_mask rows) := by
  have hmask : (labels.relabel π).train_mask ∘ π = labels.train_mask := by
    funext i
    exact congrArg labels.train_mask (π.symm_apply_apply i)
  have hcomp : rows' ∘ π = rows := funext hrows
  have hperm := ((π.map_finRange_perm.filter (labels.relabel π).train_mask).map rows').symm
  rw [List.filter_map, List.map_map, hmask, hcomp] at hperm
  exact hperm

section loss

variable [Field α] (exp log : α → α)

/-- The loss of a batch does not depend on its order. -/
theorem CrossEntropyLoss_perm {rows rows' : List (Row α n × Nat)} (h : rows.Perm rows') :
    CrossEntropyLoss exp log (rows.map Prod.fst) (rows.map Prod.snd) =
      CrossEntropyLoss exp log (rows'.map Prod.fst) (rows'.map Prod.snd) := by
  rw [CrossEntropyLoss_batch, CrossEntropyLoss_batch]
  have hlosses := List.mapM_perm (f := fun row => row_loss exp log row.1 row.2) h
  revert hlosses
  generalize rows.mapM (fun row => row_loss exp log row.1 row.2) = losses
  generalize rows'.mapM (fun row => row_loss exp log row.1 row.2) = losses'
  intro hlosses
  cases hlosses with
  | none => rfl
  | some hperm =>
    -- the mean sees the losses only through their sum and their number
    simp only [Option.bind_eq_bind, Option.bind_some, List.isEmpty_iff_length_eq_zero,
      hperm.length_eq, hperm.sum_eq]

theorem criterion_relabel (π : Equiv.Perm (Fin num_nodes)) (labels : Labels num_nodes)
    {predictions predictions' : Tensor α [num_nodes, n]}
    (hrows : ∀ i, predictions'.rows (π i) = predictions.rows i) :
    criterion exp log (labels.relabel π) predictions' = criterion exp log labels predictions := by
  have hy : ∀ i, (labels.relabel π).y (π i) = labels.y i := by
    intro i
    exact congrArg labels.y (π.symm_apply_apply i)
  have hperm : (masked (labels.relabel π).train_mask
        fun i => (predictions'.rows i, (labels.relabel π).y i)).Perm
      (masked labels.train_mask fun i => (predictions.rows i, labels.y i)) :=
    masked_relabel π labels fun i => congrArg₂ Prod.mk (hrows i) (hy i)
  have hloss := CrossEntropyLoss_perm exp log hperm
  simpa [masked, criterion, Function.comp_def] using hloss

/-- Without nodes there is no loss. -/
theorem criterion_no_nodes (hempty : IsEmpty (Fin num_nodes)) (labels : Labels num_nodes)
    (predictions : Tensor α [num_nodes, n]) : criterion exp log labels predictions = none := by
  have hnil : List.finRange num_nodes = [] := by
    rw [List.eq_nil_iff_forall_not_mem]
    exact fun i _ => hempty.false i
  simp [criterion, masked, hnil, CrossEntropyLoss]

/-- Relabelled predictions have the same loss, and none where there are no nodes. -/
theorem loss_relabel (π : Equiv.Perm (Fin num_nodes)) (labels : Labels num_nodes)
    {forward forward' : Option (Tensor α [num_nodes, n])}
    (h : ∀ i, ∃ out out', forward = some out ∧ forward' = some out' ∧
      out'.rows (π i) = out.rows i) :
    (forward'.bind fun out => criterion exp log (labels.relabel π) out) =
      forward.bind fun out => criterion exp log labels out := by
  rcases isEmpty_or_nonempty (Fin num_nodes) with hempty | ⟨⟨i₀⟩⟩
  · have hnone : ∀ (labels : Labels num_nodes) (f : Option (Tensor α [num_nodes, n])),
        (f.bind fun out => criterion exp log labels out) = none := by
      intro labels f
      cases f with
      | none => rfl
      | some out => exact criterion_no_nodes exp log hempty labels out
    rw [hnone, hnone]
  · obtain ⟨out, out', hout, hout', -⟩ := h i₀
    rw [hout, hout']
    apply criterion_relabel
    intro i
    -- the predictions of all nodes are those of one forward pass
    obtain ⟨out₁, out₁', hout₁, hout₁', hrow⟩ := h i
    rw [hout] at hout₁
    rw [hout'] at hout₁'
    cases hout₁
    cases hout₁'
    exact hrow

end loss

/-! ## Section 2: The loops -/

section notebooks

variable [Field α] [LinearOrder α] (exp log : α → α) {num_node_features : Nat} {Optimizer : Type}

/-- What an epoch of the notebook computes from the weights. -/
def MessagePassingGNN.loss (graph : Data α num_nodes 1433 num_edges) (labels : Labels num_nodes)
    (model : MessagePassingGNN α) : Option α := do
  criterion exp log labels (← model.forward exp graph)

def SimpleGNN.loss (data : Data α num_nodes num_node_features num_edges)
    (labels : Labels num_nodes) (model : SimpleGNN α num_node_features) : Option α := do
  criterion exp log labels (← model.forward exp data)

theorem MessagePassingGNN.loss_relabel (graph : Data α num_nodes 1433 num_edges)
    (labels : Labels num_nodes) (π : Equiv.Perm (Fin num_nodes)) (ρ : Equiv.Perm (Fin num_edges)) :
    MessagePassingGNN.loss exp log (graph.relabel π ρ) (labels.relabel π) =
      MessagePassingGNN.loss exp log graph labels :=
  funext fun model => GNN.loss_relabel exp log π labels (model.forward_relabel exp graph π ρ)

theorem SimpleGNN.loss_relabel (data : Data α num_nodes num_node_features num_edges)
    (labels : Labels num_nodes) (π : Equiv.Perm (Fin num_nodes)) (ρ : Equiv.Perm (Fin num_edges)) :
    SimpleGNN.loss exp log (data.relabel π ρ) (labels.relabel π) =
      SimpleGNN.loss exp log data labels :=
  funext fun model => GNN.loss_relabel exp log π labels (model.forward_relabel exp data π ρ)

/-- **Training does not see the names**: with any optimizers that see the graph through the
    loss of the weights, both loops print the same losses on the relabelled and
    reordered graph as on the original. -/
theorem training_relabelled (graph : Data α num_nodes 1433 num_edges)
    (data : Data α num_nodes num_node_features num_edges) (labels : Labels num_nodes)
    (π : Equiv.Perm (Fin num_nodes)) (ρ : Equiv.Perm (Fin num_edges))
    (optimizer_step : (MessagePassingGNN α → Option α) →
      MessagePassingGNN α × Optimizer → MessagePassingGNN α × Optimizer)
    (simple_step : (SimpleGNN α num_node_features → Option α) →
      SimpleGNN α num_node_features × Optimizer → SimpleGNN α num_node_features × Optimizer)
    (s : MessagePassingGNN α × Optimizer) (s' : SimpleGNN α num_node_features × Optimizer) :
    MessagePassingGNN.train exp log (graph.relabel π ρ) (labels.relabel π)
        (optimizer_step (MessagePassingGNN.loss exp log (graph.relabel π ρ) (labels.relabel π))) s =
      MessagePassingGNN.train exp log graph labels
        (optimizer_step (MessagePassingGNN.loss exp log graph labels)) s ∧
    SimpleGNN.train exp log (data.relabel π ρ) (labels.relabel π)
        (simple_step (SimpleGNN.loss exp log (data.relabel π ρ) (labels.relabel π))) s' =
      SimpleGNN.train exp log data labels
        (simple_step (SimpleGNN.loss exp log data labels)) s' := by
  -- equal losses, so equal steps and equal prints
  constructor
  · show train (MessagePassingGNN.loss exp log (graph.relabel π ρ) (labels.relabel π)) _ _ s =
      train (MessagePassingGNN.loss exp log graph labels) _ _ s
    rw [MessagePassingGNN.loss_relabel]
  · show train (SimpleGNN.loss exp log (data.relabel π ρ) (labels.relabel π)) _ _ s' =
      train (SimpleGNN.loss exp log data labels) _ _ s'
    rw [SimpleGNN.loss_relabel]

end notebooks

end GNN
