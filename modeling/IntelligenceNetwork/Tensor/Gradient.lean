import IntelligenceNetwork.Tensor.ExactlyOnce
import Mathlib.Data.List.GetD

/-
  The gradients of a tensor step.

  The gradient of a weight is the product of the row's upstream
  value and the column's input.  The handler multiplies the
  weights by the upstream values instead, and sums each column
  of the input's gradient in a word.

  Main declarations:
    * `IsGradient`
    * `GradientCondition`
    * `tensor_gradient_iff`
-/

----
-- Entries
----

namespace IntelligenceNetwork.Tensor

open Validation

section

variable {row col : Nat}

theorem rowMajor_lt {rows cols : Nat} (hRow : row < rows) (hCol : col < cols) :
    row * cols + col < rows * cols :=
  calc row * cols + col
    _ < (row + 1) * cols := by rw [Nat.succ_mul]; omega
    _ ≤ rows * cols := Nat.mul_le_mul_right cols hRow

theorem length_repeated {cols : Nat} (value : Nat → Int) (rows : Nat) :
    ((List.range rows).flatMap (fun row => List.replicate cols (value row))).length =
      rows * cols := by
  simp [List.length_flatMap]

/- The entry of a row and a column is the row's value. -/
theorem getD_repeated {rows cols : Nat} (value : Nat → Int) (hRow : row < rows)
    (hCol : col < cols) :
    ((List.range rows).flatMap (fun row => List.replicate cols (value row))).getD
      (row * cols + col) 0 = value row := by
  induction rows with
  | zero => cases hRow
  | succ rows hRows =>
    rw [List.range_succ, List.flatMap_append]
    rcases Nat.lt_succ_iff_lt_or_eq.mp hRow with hBefore | rfl
    · rw [List.getD_append _ _ _ _ (by rw [length_repeated]; exact rowMajor_lt hBefore hCol)]
      exact hRows hBefore
    · simp [List.getD_eq_getElem?_getD, hCol]

end

----
-- Gradients
----

section

variable (shard : V4LocalTensorShard) (backward : V4TensorBackward)

/- The weight in a row and a column, which are stored by rows. -/
def weightAt (weights : List Int) (row col : Nat) : Int :=
  weights.getD (row * shard.cols.toNat + col) 0

/- The product of one column of the shard and the upstream. -/
def columnProduct (col : Nat) : Int :=
  ((List.range shard.rows.toNat).map (fun row =>
    weightAt shard shard.weights row col * backward.upstream.getD row 0)).sum

/- The product of a row's upstream value and a column's input. -/
def outerProduct (row col : Nat) : Int :=
  clampValue (backward.upstream.getD row 0 * backward.input.getD col 0)

/- The lists hold the entries of a matrix and of a row. -/
structure Holds (gradients inputGradient : List Int) (weight : Nat → Nat → Int)
    (input : Nat → Int) : Prop where
  length : gradients.length = shard.rows.toNat * shard.cols.toNat ∧
    inputGradient.length = shard.cols.toNat
  weight : ∀ row < shard.rows.toNat, ∀ col < shard.cols.toNat,
    weightAt shard gradients row col = weight row col
  input : ∀ col < shard.cols.toNat, inputGradient.getD col 0 = input col

/- The gradients are those of the product of shard and input. -/
abbrev IsGradient (gradients inputGradient : List Int) : Prop :=
  Holds shard gradients inputGradient (outerProduct backward)
    (fun col => clampValue (columnProduct shard backward col))

/-
  The weight is the input, unless nothing comes from upstream.
  Where the product of upstream and input is beyond the bound on
  values, the weight takes the upstream value to the bound.
-/
def WeightIsInput (weight upstream input : Int) : Prop :=
  upstream = 0 ∨ (weight = input ∧ (upstream * input).natAbs ≤ maxMagnitude) ∨
    (maxMagnitude < upstream * input ∧ weight * upstream = maxMagnitude) ∨
    (upstream * input < -maxMagnitude ∧ weight * upstream = -maxMagnitude)

/-
  Each row of the shard is the input, and each column's sum is
  within the bound or wraps to the side that it is beyond.
-/
def GradientCondition : Prop :=
  (∀ row < shard.rows.toNat, ∀ col < shard.cols.toNat,
    WeightIsInput (weightAt shard shard.weights row col) (backward.upstream.getD row 0)
      (backward.input.getD col 0)) ∧ ∀ col < shard.cols.toNat,
    (columnProduct shard backward col).natAbs ≤ maxMagnitude ∨
    (maxMagnitude < columnProduct shard backward col ∧
      columnProduct shard backward col % 18446744073709551616 = 1000000000) ∨
    (columnProduct shard backward col < -maxMagnitude ∧
      columnProduct shard backward col % 18446744073709551616 = 18446744072709551616)

end

section

variable {env : TensorEnv} {shard : V4LocalTensorShard} {backward : V4TensorBackward}
variable {gradients inputGradient : List Int}

/- The product that is taken is the one of upstream and input. -/
theorem mul_eq_clampValue_iff (weight upstream input : Int) :
    weight * upstream = clampValue (upstream * input) ↔ WeightIsInput weight upstream input := by
  unfold WeightIsInput
  by_cases hZero : upstream = 0
  · simp [hZero, clampValue]
  · have hSame : weight = input ↔ weight * upstream = upstream * input := by
      rw [mul_comm upstream, mul_left_inj' hZero]
    rw [hSame, or_iff_right hZero]
    unfold clampValue maxMagnitude
    omega

/- A sum is wrapped to the nearest value within the bound. -/
theorem wrapI64_eq_clampValue_iff (sum : Int) :
    Saturating.wrapI64 sum = clampValue sum ↔ sum.natAbs ≤ maxMagnitude ∨
      (maxMagnitude < sum ∧ sum % 18446744073709551616 = 1000000000) ∨
      (sum < -maxMagnitude ∧ sum % 18446744073709551616 = 18446744072709551616) := by
  unfold Saturating.wrapI64 clampValue maxMagnitude
  rw [Int.bmod_def]
  split <;> omega

theorem clampI64_mul {left right : Int} (hLeft : left.natAbs ≤ maxMagnitude)
    (hRight : right.natAbs ≤ maxMagnitude) : Saturating.clampI64 (left * right) = left * right := by
  have hProduct : (left * right).natAbs ≤ maxMagnitude * maxMagnitude := by
    rw [Int.natAbs_mul]
    exact Nat.mul_le_mul hLeft hRight
  unfold maxMagnitude at hProduct
  unfold Saturating.clampI64 Saturating.minI64 Saturating.maxI64
  omega

theorem natAbs_getD_le {values : List Int} (hValues : ∀ value ∈ values, value.natAbs ≤ maxMagnitude)
    (index : Nat) : (values.getD index 0).natAbs ≤ maxMagnitude := by
  rcases lt_or_ge index values.length with hIndex | hIndex
  · rw [List.getD_eq_getElem _ _ hIndex]
    exact hValues _ (List.getElem_mem hIndex)
  · rw [List.getD_eq_default _ _ hIndex]
    exact Nat.zero_le _

/- A task that ran gives the values of its operation. -/
theorem executeBackendTask_eq_ok {values : Option (List Int)} {computed : List Int}
    (hTask : executeBackendTask env values = .ok computed) : values = some computed := by
  unfold executeBackendTask at hTask
  grind

/- What the two tasks of a step compute for values in bounds. -/
theorem holds_of_shardGradients
    (hTasks : shardGradients env shard backward.upstream = .ok (gradients, inputGradient))
    (hWeights : ∀ weight ∈ shard.weights, weight.natAbs ≤ maxMagnitude)
    (hUpstream : ∀ value ∈ backward.upstream, value.natAbs ≤ maxMagnitude) :
    Holds shard gradients inputGradient
      (fun row col => weightAt shard shard.weights row col * backward.upstream.getD row 0)
      (fun col => Saturating.wrapI64 (columnProduct shard backward col)) := by
  have hProduct (row col : Nat) :
    Saturating.clampI64 (weightAt shard shard.weights row col * backward.upstream.getD row 0) =
      weightAt shard shard.weights row col * backward.upstream.getD row 0 :=
    clampI64_mul (natAbs_getD_le hWeights _) (natAbs_getD_le hUpstream _)
  simp only [shardGradients, bind_eq_ok_iff, Except.ok.injEq, Prod.mk.injEq] at hTasks
  rcases hTasks with ⟨_, hFirst, _, hSecond, rfl, rfl⟩
  have hFirst := executeBackendTask_eq_ok hFirst
  have hSecond := executeBackendTask_eq_ok hSecond
  unfold elementwiseMultiply at hFirst
  unfold matrixTransposeVector at hSecond
  split_ifs at hFirst hSecond with hLength hShape
  cases hFirst
  cases hSecond
  have hEntries : shard.weights.length = shard.rows.toNat * shard.cols.toNat :=
    hLength.trans (length_repeated _ _)
  refine ⟨⟨by simp [← hLength, hEntries], by simp⟩, fun row hRow col hCol => ?_, fun col hCol => ?_⟩
  · have hIndex := rowMajor_lt hRow hCol
    rw [← hProduct, weightAt, weightAt,
      List.getD_eq_getElem _ _ (by rw [List.length_zipWith, ← hLength, hEntries]; simpa),
      List.getElem_zipWith, List.getD_eq_getElem _ _ (hEntries ▸ hIndex),
      ← getD_repeated (fun row => backward.upstream.getD row 0) hRow hCol,
      List.getD_eq_getElem _ _ (by rwa [length_repeated])]
    rfl
  · have hSum : (List.range shard.rows.toNat).map (fun row => Saturating.clampI64
      (shard.weights.getD (row * shard.cols.toNat + col) 0 * backward.upstream.getD row 0)) =
      (List.range shard.rows.toNat).map (fun row =>
        weightAt shard shard.weights row col * backward.upstream.getD row 0) :=
      List.map_congr_left (fun row _ => hProduct row col)
    rw [List.getD_eq_getElem _ _ (by simpa using hCol), List.getElem_map, List.getElem_range,
      hSum, columnProduct]

end

----
-- The Step
----

section

variable {digests : StateDigests} {self : NodeId} {env : TensorEnv} {node : TensorNode}
variable {peer : NodeId} {backward : V4TensorBackward} {plan : V4TrainingPlan}
variable {shard : V4LocalTensorShard} {gradients inputGradient : List Int}

/- The weights that an accepted new step leaves. -/
theorem receiveTensorBackward_weights
    (hAccepted : backwardGradients digests self env node peer backward =
      .ok (plan, shard, gradients, inputGradient))
    (hNew : backward.sequence ≠ shard.lastSequence) (hWritten : env.shardWritten = true) :
    (receiveTensorBackward digests self env node peer backward).node.shards[shard.key]?.map
      (·.weights) =
      some (List.zipWith (descend backward.learningRateMicros) shard.weights gradients) := by
  rw [receiveTensorBackward_node, hAccepted]
  dsimp only
  rw [stepShard_node, if_neg hNew, if_pos hWritten, (updateOptimizer_shards digests self).shards]
  simp [putShard, steppedShard]

theorem upstream_of_valid (hValid : v4TensorBackward backward = .ok ()) :
    ∀ value ∈ backward.upstream, value.natAbs ≤ maxMagnitude := by
  simp only [v4TensorBackward, bind_eq_ok_iff] at hValid
  rcases hValid with ⟨-, -, -, -, -, -, -, -, hUpstream⟩
  exact ((v4Vector_eq_ok_iff _ _).mp hUpstream).2.2

/-
  An accepted step uses and returns the gradients of the product,
  and moves each weight against its entry of the outer product,
  exactly where the condition holds.
-/
theorem tensor_gradient_iff (hAccepted : backwardGradients digests self env node peer backward =
    .ok (plan, shard, gradients, inputGradient))
    (hValid : v4TensorBackward backward = .ok ())
    (hWeights : ∀ weight ∈ shard.weights, weight.natAbs ≤ maxMagnitude) :
    (IsGradient shard backward gradients inputGradient ∧
      (backward.sequence ≠ shard.lastSequence → env.shardWritten = true → ∃ weights,
        (receiveTensorBackward digests self env node peer backward).node.shards[shard.key]?.map
          (·.weights) = some weights ∧ ∀ row < shard.rows.toNat, ∀ col < shard.cols.toNat,
          weightAt shard weights row col =
            clampValue (weightAt shard shard.weights row col -
              (outerProduct backward row col * backward.learningRateMicros).tdiv 1000000))) ↔
      GradientCondition shard backward := by
  obtain ⟨-, hTasks, -⟩ := backwardGradients_shard digests self hAccepted
  obtain ⟨hLengths, hEntries, hSums⟩ :=
    holds_of_shardGradients hTasks hWeights (upstream_of_valid hValid)
  constructor
  · rintro ⟨hGradient, -⟩
    refine ⟨fun row hRow col hCol => ?_, fun col hCol => ?_⟩
    · rw [← mul_eq_clampValue_iff, ← hEntries row hRow col hCol,
        hGradient.weight row hRow col hCol, outerProduct]
    · rw [← wrapI64_eq_clampValue_iff, ← hSums col hCol, hGradient.input col hCol]
  · rintro ⟨hProducts, hColumns⟩
    have hGradient : IsGradient shard backward gradients inputGradient := by
      refine ⟨hLengths, fun row hRow col hCol => ?_, fun col hCol => ?_⟩
      · rw [hEntries row hRow col hCol, outerProduct, mul_eq_clampValue_iff]
        exact hProducts row hRow col hCol
      · rw [hSums col hCol, wrapI64_eq_clampValue_iff]
        exact hColumns col hCol
    refine ⟨hGradient, fun hNew hWritten =>
      ⟨_, receiveTensorBackward_weights hAccepted hNew hWritten, fun row hRow col hCol => ?_⟩⟩
    have hIndex := rowMajor_lt hRow hCol
    have hLength := length_of_shardGradients hTasks
    rw [← hGradient.weight row hRow col hCol]
    simp only [weightAt]
    rw [List.getD_eq_getElem _ _ (by rw [List.length_zipWith, hLengths.1]; omega),
      List.getElem_zipWith, List.getD_eq_getElem _ _ (by omega),
      List.getD_eq_getElem _ _ (by omega)]
    rfl

end

----
-- Two Steps
----

/- A shard whose rows are the input of the first step. -/
def inputShard : V4LocalTensorShard :=
  { secondShard with weights := [2, 4, 6, 8, 2, 4, 6, 8] }

def inputOwner : TensorNode :=
  { secondOwner with
    shards := (∅ : Std.TreeMap ShardKey V4LocalTensorShard).insert ⟨⟨7⟩, 1⟩ inputShard }

theorem tensor_gradient_input : GradientCondition inputShard (firstStep true).request ∧
    IsGradient inputShard (firstStep true).request
      [-1800, -3600, -5400, -7200, 1600, 3200, 4800, 6400] [-200, -400, -600, -800] := by
  have hCondition : GradientCondition inputShard (firstStep true).request := by
    unfold GradientCondition WeightIsInput
    decide +kernel
  have hAccepted :
      (backwardGradients modelDigests ⟨2⟩ usualEnv inputOwner ⟨1⟩ (firstStep true).request).map
        (·.2) = .ok (inputShard, [-1800, -3600, -5400, -7200, 1600, 3200, 4800, 6400],
          [-200, -400, -600, -800]) := by
    decide +kernel
  cases hRun :
      backwardGradients modelDigests ⟨2⟩ usualEnv inputOwner ⟨1⟩ (firstStep true).request with
  | error error =>
    rw [hRun] at hAccepted
    cases hAccepted
  | ok found =>
    rw [hRun] at hAccepted
    obtain ⟨plan, shard, gradients, inputGradient⟩ := found
    cases hAccepted
    exact ⟨hCondition, ((tensor_gradient_iff hRun (by decide +kernel) (by decide)).mpr
      hCondition).1⟩

/-
  The input of the first step is [2, 4, 6, 8] and its upstream
  [-900, 800].  The first weight is 0, and so is its gradient,
  which should be -1800.
-/
theorem tensor_gradient_fails :
    (backwardGradients modelDigests ⟨2⟩ usualEnv secondOwner ⟨1⟩ (firstStep true).request).map
      (·.2) = .ok (secondShard, [0, -1800, -900, -900, 800, 0, 800, 1600],
        [800, -1800, -100, 700]) ∧ v4TensorBackward (firstStep true).request = .ok () ∧
    (∀ weight ∈ secondShard.weights, weight.natAbs ≤ maxMagnitude) ∧
    outerProduct (firstStep true).request 0 0 = -1800 ∧
    ¬ IsGradient secondShard (firstStep true).request [0, -1800, -900, -900, 800, 0, 800, 1600]
      [800, -1800, -100, 700] := by
  refine ⟨by decide +kernel, by decide +kernel, by decide, by decide, fun hGradient => ?_⟩
  have hFirst := hGradient.weight 0 (by decide) 0 (by decide)
  revert hFirst
  decide

end IntelligenceNetwork.Tensor
