import BuildMyOwnX.Framework.Loop
import BuildMyOwnX.Framework.Simplex
import BuildMyOwnX.GNN.Colors

/-! # Training

    The training loops of both notebooks. The loss is `CrossEntropyLoss` of the
    predictions, and the predictions are already the softmax of the last layer,
    while `CrossEntropyLoss` takes a softmax itself. So it sees numbers between 0
    and 1 that sum to 1, and its value stays in an interval of length one
    (`Simplex.window`), whatever the optimizer does to the weights: no epoch
    prints a loss below `log (1 + 49 / e)` for the 50 columns of
    `MessagePassingGNN` or below `log (1 + 6 / e)` for the 7 of `SimpleGNN`
    (`training_losses`).
-/

namespace GNN

variable {α : Type} {num_nodes num_edges n : Nat}

/-! ## Section 1: The loss -/

/-- The labels of the nodes, and the nodes to train on. -/
structure Labels (num_nodes : Nat) where
  y : Fin num_nodes → Nat
  train_mask : Fin num_nodes → Bool

/-- `rows[train_mask]`. -/
def masked {β : Type} (train_mask : Fin num_nodes → Bool) (rows : Fin num_nodes → β) : List β :=
  ((List.finRange num_nodes).filter train_mask).map rows

section loss

variable [Field α] [LinearOrder α]

/-- The loss of one row; a target that is no column is an error. -/
def row_loss (exp log : α → α) (input : Row α n) (target : Nat) : Option α :=
  if h : target < n then some (-log (softmax exp input ⟨target, h⟩)) else none

/-- The mean of the losses. That of no rows is `none` here: torch gives a `nan` for
    it, which the loops print like any loss. -/
def CrossEntropyLoss (exp log : α → α) (input : List (Row α n)) (target : List Nat) :
    Option α := do
  let losses ← (input.zip target).mapM fun row => row_loss exp log row.1 row.2
  if losses.isEmpty then none else some (losses.sum / losses.length)

omit [LinearOrder α] in
/-- The loss of a batch of rows with their targets. -/
theorem CrossEntropyLoss_batch (exp log : α → α) (rows : List (Row α n × Nat)) :
    CrossEntropyLoss exp log (rows.map Prod.fst) (rows.map Prod.snd) =
      (rows.mapM fun row => row_loss exp log row.1 row.2) >>= fun losses =>
        if losses.isEmpty then none else some (losses.sum / losses.length) := by
  have hzip : (rows.map Prod.fst).zip (rows.map Prod.snd) = rows := (List.zip_of_prod rfl rfl).symm
  rw [CrossEntropyLoss, hzip]

/-- `criterion(predictions[graph.train_mask], graph.y[graph.train_mask])`. -/
def criterion (exp log : α → α) (labels : Labels num_nodes) (predictions : Tensor α [num_nodes, n]) :
    Option α :=
  CrossEntropyLoss exp log (masked labels.train_mask predictions.rows)
    (masked labels.train_mask labels.y)

end loss

/-! ## Section 2: The loop -/

/-- The losses that the epochs print. `optimizer_step` is `backward` and the step of the
    optimizer, on the weights and the optimizer's own state. -/
def train {Model Optimizer : Type} (loss : Model → Option α)
    (optimizer_step : Model × Optimizer → Model × Optimizer) :
    Nat → Model × Optimizer → Option (List α)
  | 0, _ => some []
  | epochs + 1, s => do
    let result ← loss s.1
    let printed ← train loss optimizer_step epochs (optimizer_step s)
    return result :: printed

def EPOCHS : Nat := 100

def NUM_EPOCHS : Nat := 100

section notebooks

variable [Field α] [LinearOrder α] {Optimizer : Type}

def MessagePassingGNN.train (exp log : α → α) (graph : Data α num_nodes 1433 num_edges)
    (labels : Labels num_nodes)
    (optimizer_step : MessagePassingGNN α × Optimizer → MessagePassingGNN α × Optimizer)
    (s : MessagePassingGNN α × Optimizer) : Option (List α) :=
  GNN.train (fun model => do criterion exp log labels (← model.forward exp graph))
    optimizer_step EPOCHS s

def SimpleGNN.train (exp log : α → α) {num_node_features : Nat}
    (data : Data α num_nodes num_node_features num_edges) (labels : Labels num_nodes)
    (optimizer_step :
      SimpleGNN α num_node_features × Optimizer → SimpleGNN α num_node_features × Optimizer)
    (s : SimpleGNN α num_node_features × Optimizer) : Option (List α) :=
  GNN.train (fun model => do criterion exp log labels (← model.forward exp data))
    optimizer_step NUM_EPOCHS s

end notebooks

/-- What every model's loss satisfies, every printed loss does. -/
theorem train_rule {Model Optimizer : Type} {loss : Model → Option α}
    (optimizer_step : Model × Optimizer → Model × Optimizer) (P : α → Prop)
    (h : ∀ model, ∃ result, loss model = some result ∧ P result) (epochs : Nat)
    (s : Model × Optimizer) :
    ∃ printed, train loss optimizer_step epochs s = some printed ∧ printed.length = epochs ∧
      ∀ result ∈ printed, P result := by
  induction epochs generalizing s with
  | zero => exact ⟨[], rfl, rfl, fun _ hmem => absurd hmem List.not_mem_nil⟩
  | succ epochs ih =>
    obtain ⟨result, hresult, hP⟩ := h s.1
    obtain ⟨printed, hprinted, hlength, hall⟩ := ih (optimizer_step s)
    refine ⟨result :: printed, ?_, by rw [List.length_cons, hlength], ?_⟩
    · rw [train, hresult]
      show (train loss optimizer_step epochs (optimizer_step s) >>= _) = _
      rw [hprinted]
      rfl
    · intro x hx
      rcases List.mem_cons.mp hx with rfl | hx
      · exact hP
      · exact hall x hx

/-! ## Section 3: The loss of a softmax -/

/-- The loss of one row of probabilities. -/
theorem row_loss_window [NeZero n] (hn : 1 < n) {p : Row ℝ n} (hp : Simplex.Positive p)
    {target : Nat} (htarget : target < n) :
    ∃ loss, row_loss Real.exp Real.log p target = some loss ∧
      loss ∈ Set.Ioo (Simplex.ceiling n - 1) (Simplex.ceiling n) := by
  have : Nontrivial (Fin n) := Fin.nontrivial_iff_two_le.mpr hn
  have hsum : 0 < ∑ k, Real.exp (p k) :=
    Finset.sum_pos (fun k _ => Real.exp_pos (p k)) Finset.univ_nonempty
  refine ⟨_, dif_pos htarget, ?_⟩
  have hwindow := Simplex.window hp ⟨target, htarget⟩
  rw [Fintype.card_fin] at hwindow
  have hlog : -Real.log (softmax Real.exp p ⟨target, htarget⟩) =
      Real.log (∑ k, Real.exp (p k)) - p ⟨target, htarget⟩ := by
    rw [softmax, Real.log_div (Real.exp_pos _).ne' hsum.ne', Real.log_exp]
    ring
  rw [hlog]
  exact hwindow

/-- A batch of rows, each with a loss in an interval. -/
theorem CrossEntropyLoss_mem {a b : ℝ} {rows : List (Row ℝ n × Nat)} (hne : rows ≠ [])
    (h : ∀ row ∈ rows, ∃ loss, row_loss Real.exp Real.log row.1 row.2 = some loss ∧
      loss ∈ Set.Ioo a b) :
    ∃ loss, CrossEntropyLoss Real.exp Real.log (rows.map Prod.fst) (rows.map Prod.snd) = some loss ∧
      loss ∈ Set.Ioo a b := by
  obtain ⟨losses, hlosses, hlength, hmems⟩ :=
    List.mapM_some_rule (fun loss => loss ∈ Set.Ioo a b) h
  have hlosses_ne : losses ≠ [] := by
    intro hnil
    rw [hnil] at hlength
    exact hne (List.length_eq_zero_iff.mp hlength.symm)
  refine ⟨losses.sum / losses.length, ?_, Simplex.mean_mem_Ioo hlosses_ne hmems⟩
  rw [CrossEntropyLoss_batch, hlosses]
  show (if losses.isEmpty then none else _) = _
  rw [if_neg (by simpa using hlosses_ne)]

/-- Predictions whose rows are probabilities, with at least one node to train on. -/
theorem criterion_window [NeZero n] (hn : 1 < n) {labels : Labels num_nodes}
    {predictions : Tensor ℝ [num_nodes, n]} (hrows : ∀ i, Simplex.Positive (predictions.rows i))
    (hmask : ∃ i, labels.train_mask i) (hy : ∀ i, labels.train_mask i → labels.y i < n) :
    ∃ loss, criterion Real.exp Real.log labels predictions = some loss ∧
      loss ∈ Set.Ioo (Simplex.ceiling n - 1) (Simplex.ceiling n) := by
  -- the batch is a list of rows with their labels
  let rows := masked labels.train_mask fun i => (predictions.rows i, labels.y i)
  have hne : rows ≠ [] := by
    obtain ⟨i, hi⟩ := hmask
    have hmem : (predictions.rows i, labels.y i) ∈ rows :=
      List.mem_map.mpr ⟨i, List.mem_filter.mpr ⟨List.mem_finRange i, hi⟩, rfl⟩
    exact List.ne_nil_of_mem hmem
  have hbatch := CrossEntropyLoss_mem hne (a := Simplex.ceiling n - 1) (b := Simplex.ceiling n)
    (by
      intro row hrow
      obtain ⟨i, hi, rfl⟩ := List.mem_map.mp hrow
      exact row_loss_window hn (hrows i) (hy i (List.mem_filter.mp hi).2))
  simpa [rows, masked, criterion, Function.comp_def] using hbatch

/-! ## Section 4: The notebooks -/

/-- Every row of a softmax is a vector of probabilities. -/
theorem positive_rows_softmax [NeZero n] (t : Tensor ℝ [num_nodes, n]) (i : Fin num_nodes) :
    Simplex.Positive ((map_rows (softmax Real.exp) t).rows i) := by
  rw [rows_map_rows]
  exact Simplex.positive_normalized (t.rows i)

theorem MessagePassingGNN.forward_positive (model : MessagePassingGNN ℝ)
    (graph : Data ℝ num_nodes 1433 num_edges) (i₀ : Fin num_nodes) :
    ∃ out, model.forward Real.exp graph = some out ∧ ∀ i, Simplex.Positive (out.rows i) := by
  obtain ⟨r₁, hr₁, -⟩ := message_pass_spec graph.x graph.edge_index model.linear1 model.linear2 i₀
  obtain ⟨r₂, hr₂, -⟩ := message_pass_spec r₁ graph.edge_index model.linear3 model.linear3 i₀
  refine ⟨map_rows (softmax Real.exp) r₂, ?_, positive_rows_softmax r₂⟩
  simp only [forward, hr₁, Option.bind_eq_bind, Option.bind_some, hr₂]
  rfl

theorem SimpleGNN.forward_positive {num_node_features : Nat} (model : SimpleGNN ℝ num_node_features)
    (data : Data ℝ num_nodes num_node_features num_edges) (i₀ : Fin num_nodes) :
    ∃ out, model.forward Real.exp data = some out ∧ ∀ i, Simplex.Positive (out.rows i) := by
  obtain ⟨out, hout, hrows⟩ := model.forward_spec Real.exp data i₀
  refine ⟨out, hout, fun i => ?_⟩
  rw [hrows]
  exact Simplex.positive_normalized _

/-- **The losses of the training**: with a node to train on and labels below 7, both loops
    print one loss for each epoch, whatever the optimizer does, and every one of them is
    between `log (e + 49) - 1` and `log (e + 49)`, or between `log (e + 6) - 1` and
    `log (e + 6)`. -/
theorem training_losses {Optimizer : Type} {num_node_features : Nat}
    (optimizer_step : MessagePassingGNN ℝ × Optimizer → MessagePassingGNN ℝ × Optimizer)
    (simple_step :
      SimpleGNN ℝ num_node_features × Optimizer → SimpleGNN ℝ num_node_features × Optimizer)
    (graph : Data ℝ num_nodes 1433 num_edges)
    (data : Data ℝ num_nodes num_node_features num_edges) (labels : Labels num_nodes)
    (hmask : ∃ i, labels.train_mask i) (hy : ∀ i, labels.train_mask i → labels.y i < 7)
    (s : MessagePassingGNN ℝ × Optimizer) (s' : SimpleGNN ℝ num_node_features × Optimizer) :
    (∃ printed, MessagePassingGNN.train Real.exp Real.log graph labels optimizer_step s =
        some printed ∧ printed.length = 100 ∧
      ∀ loss ∈ printed, loss ∈
        Set.Ioo (Real.log (Real.exp 1 + 49) - 1) (Real.log (Real.exp 1 + 49))) ∧
    (∃ printed, SimpleGNN.train Real.exp Real.log data labels simple_step s' = some printed ∧
      printed.length = 100 ∧
      ∀ loss ∈ printed, loss ∈
        Set.Ioo (Real.log (Real.exp 1 + 6) - 1) (Real.log (Real.exp 1 + 6))) := by
  obtain ⟨i₀, hi₀⟩ := hmask
  have hceiling : Simplex.ceiling 50 = Real.log (Real.exp 1 + 49) := by
    unfold Simplex.ceiling
    norm_num
  have hceiling' : Simplex.ceiling 7 = Real.log (Real.exp 1 + 6) := by
    unfold Simplex.ceiling
    norm_num
  constructor
  · -- the window does not depend on the weights, so the optimizer does not matter
    apply train_rule
    intro model
    obtain ⟨out, hout, hrows⟩ := model.forward_positive graph i₀
    rw [hout, ← hceiling]
    exact criterion_window (by decide) hrows ⟨i₀, hi₀⟩
      fun i hi => Nat.lt_of_lt_of_le (hy i hi) (by decide)
  · apply train_rule
    intro model
    obtain ⟨out, hout, hrows⟩ := model.forward_positive data i₀
    rw [hout, ← hceiling']
    exact criterion_window (by decide) hrows ⟨i₀, hi₀⟩ hy

/-- Two edges `0 → 1 → 2`, with labels for the ends, and an optimizer that adds one to
    the outputs of the last layer and counts its steps. -/
theorem training_losses_path :
    let labels : Labels 3 := ⟨fun i => i.val + 3, fun i => i.val ≠ 1⟩
    let graph : Data ℝ 3 1433 2 :=
      ⟨Tensor.ofFn₂ fun i j => i.val * j.val, Tensor.ofFn₂ fun k e => ![![0, 1], ![1, 2]] k e⟩
    let optimizer_step : MessagePassingGNN ℝ × Nat → MessagePassingGNN ℝ × Nat := fun s =>
      ({ s.1 with linear3 := fun row j => s.1.linear3 row j + 1 }, s.2 + 1)
    let simple_step : SimpleGNN ℝ 1433 × Nat → SimpleGNN ℝ 1433 × Nat := fun s =>
      ({ s.1 with output_lin := fun row j => s.1.output_lin row j + 1 }, s.2 + 1)
    (∃ printed, MessagePassingGNN.train Real.exp Real.log graph labels optimizer_step
        (⟨fun row j => row 1 + j.val, fun row j => row 2 - j.val, fun row j => row 3 * j.val⟩, 0) =
          some printed ∧ printed.length = 100 ∧
      ∀ loss ∈ printed, loss ∈
        Set.Ioo (Real.log (Real.exp 1 + 49) - 1) (Real.log (Real.exp 1 + 49))) ∧
    (∃ printed, SimpleGNN.train Real.exp Real.log graph labels simple_step
        (⟨fun row j => row 1 + j.val, fun row j => row 2 - j.val⟩, 0) = some printed ∧
          printed.length = 100 ∧
      ∀ loss ∈ printed, loss ∈
        Set.Ioo (Real.log (Real.exp 1 + 6) - 1) (Real.log (Real.exp 1 + 6))) := by
  intro labels graph optimizer_step simple_step
  have hy : ∀ i, labels.train_mask i → labels.y i < 7 := by
    intro i _
    show i.val + 3 < 7
    omega
  exact training_losses optimizer_step simple_step graph graph labels ⟨0, rfl⟩ hy _ _

end GNN
