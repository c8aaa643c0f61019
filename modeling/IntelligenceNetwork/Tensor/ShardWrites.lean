import IntelligenceNetwork.Tensor.Handlers

/-
  What the handlers write to the tensor shards: nothing, or one
  valid shard to the map and to its file.

  Main declarations:
    * `Keyed`
    * `ShardWrite`
    * `ShardWrite.stepShard`
-/

----
-- What a Step Leaves
----

namespace IntelligenceNetwork.Tensor

open Validation

variable {env : TensorEnv} {gradients inputGradient upstream : List Int} {install : V4TensorInstall}
variable {jobId : JobId} {node : TensorNode} {peer : NodeId} {plan : V4TrainingPlan}
variable {planGeneration sequence : UInt64} {shard : V4LocalTensorShard} {shardId : UInt16}

variable (digests : StateDigests) (self : NodeId)

section

variable (env : TensorEnv) (node : TensorNode)

theorem updateOptimizer_node (jobId : JobId)
    (planGeneration : UInt64) (shardId : UInt16) (gradients : List Int) (sequence : UInt64) :
    (updateOptimizerStateAndReplicate digests self env node
      jobId planGeneration shardId gradients sequence).node =
      match optimizerStep digests self node jobId planGeneration shardId gradients sequence with
      | .ok (some (_, install)) =>
        if env.optimizerWritten then
          putOptimizer node ⟨jobId, shardId⟩ (incomingOptimizer install)
        else
          node
      | _ => node := by
  unfold updateOptimizerStateAndReplicate
  cases optimizerStep digests self node jobId planGeneration shardId gradients sequence with
  | error error => rfl
  | ok step =>
    cases step with
    | none => rfl
    | some step =>
      unfold storeOptimizer
      cases env.optimizerWritten <;> rfl

theorem stepShard_node (key : ShardKey) (rateMicros : Int)
    (jobId : JobId) (planGeneration : UInt64) (shardId : UInt16) (shard : V4LocalTensorShard)
    (gradients : List Int) (sequence : UInt64) :
    (stepShard digests self env node key rateMicros jobId
      planGeneration shardId shard gradients sequence).node =
      if sequence = shard.lastSequence then
        node
      else if env.shardWritten then
        (updateOptimizerStateAndReplicate digests self env
          (putShard node key (steppedShard digests rateMicros shard gradients sequence))
          jobId planGeneration shardId gradients sequence).node
      else
        node := by
  unfold stepShard
  by_cases hTaken : sequence = shard.lastSequence
  · simp [hTaken]
  · rw [if_neg (by simpa using hTaken), if_neg hTaken]
    unfold storeShard
    cases env.shardWritten with
    | false => rfl
    | true =>
      unfold Outcome.andThen
      dsimp only
      rw [if_pos rfl]
      dsimp only
      split <;> rfl

theorem receiveTensorBackward_node (peer : NodeId) (backward : V4TensorBackward) :
    (receiveTensorBackward digests self env node peer backward).node =
      match backwardGradients digests self env node peer backward with
      | .error _ => node
      | .ok (_, shard, gradients, _) =>
        (stepShard digests self env node shard.key backward.learningRateMicros backward.jobId
          backward.planGeneration backward.shardId shard gradients backward.sequence).node := by
  unfold receiveTensorBackward
  cases backwardGradients digests self env node peer backward with
  | error error => rfl
  | ok found =>
    dsimp only
    generalize stepShard digests self env node found.2.1.key
      backward.learningRateMicros backward.jobId
      backward.planGeneration backward.shardId found.2.1 found.2.2.1 backward.sequence = stepped
    unfold Outcome.andThen
    cases stepped.result with
    | error error => rfl
    | ok step => exact answer_node

theorem localTensorBackward_node (jobId : JobId)
    (planGeneration : UInt64) (spec : V4ShardOwnership) (sequence : UInt64)
    (input upstream : List Int) :
    (localTensorBackward digests self env node jobId
      planGeneration spec sequence input upstream).node =
      match localBackwardGradients env node jobId planGeneration spec sequence input upstream with
      | .error _ => node
      | .ok (shard, gradients, _) =>
        (stepShard digests self env node ⟨jobId, spec.shardId⟩ localRateMicros jobId
          planGeneration spec.shardId shard gradients sequence).node := by
  unfold localTensorBackward
  cases localBackwardGradients env node jobId planGeneration spec sequence input upstream with
  | error error => rfl
  | ok found =>
    dsimp only
    unfold Outcome.andThen
    split <;> rfl

end

----
-- Writes
----

/- The same surroundings with a disk that can be written. -/
def TensorEnv.written (env : TensorEnv) : TensorEnv :=
  { env with shardWritten := true, optimizerWritten := true, stageWritten := true }

/- A change that leaves the shards and their files alone. -/
structure SameShards (node next : TensorNode) : Prop where
  shards : next.shards = node.shards
  files : next.shardFiles = node.shardFiles

/- Every shard is in the map under its own key. -/
def Keyed (node : TensorNode) : Prop :=
  ∀ (key : ShardKey) (shard : V4LocalTensorShard), node.shards[key]? = some shard → shard.key = key

/- A shard that is there already, or for which there is room. -/
def HasRoom (node : TensorNode) (key : ShardKey) : Prop :=
  key ∈ node.shards ∨ node.shards.size < v4MaxTensorShards

theorem hasRoom_of_getElem? {key : ShardKey} (hShard : node.shards[key]? = some shard) :
    HasRoom node key := by
  left
  rw [Std.TreeMap.mem_iff_isSome_getElem?, hShard]
  rfl

/-
  What a call does to the shards: nothing, or one valid shard
  is written to the map and to its file.
-/
inductive ShardWrite (node next : TensorNode) : Prop where
  | none (hSame : SameShards node next)
  | one (shard : V4LocalTensorShard) (hValid : validLocalTensorShard digests shard = true)
    (hRoom : HasRoom node shard.key) (hShards : next.shards = node.shards.insert shard.key shard)
    (hFiles : next.shardFiles = node.shardFiles.insert shard.key shard)

theorem ShardWrite.refl (node : TensorNode) : ShardWrite digests node node :=
  .none ⟨rfl, rfl⟩

theorem ShardWrite.put (node : TensorNode) (key : ShardKey) (shard : V4LocalTensorShard)
    (hKey : shard.key = key) (hValid : validLocalTensorShard digests shard = true)
    (hRoom : HasRoom node key) : ShardWrite digests node (putShard node key shard) := by
  subst hKey
  exact .one shard hValid hRoom rfl rfl

/- A write, and then a change that leaves the shards alone. -/
theorem ShardWrite.andThen {middle next : TensorNode} (hWrite : ShardWrite digests node middle)
    (hSame : SameShards middle next) : ShardWrite digests node next := by
  cases hWrite with
  | none hBefore => exact .none ⟨hSame.shards.trans hBefore.shards, hSame.files.trans hBefore.files⟩
  | one shard hValid hRoom hShards hFiles =>
    exact .one shard hValid hRoom (hSame.shards.trans hShards) (hSame.files.trans hFiles)

/- A promoted shard stays valid. -/
theorem valid_promoteShard (hValid : validLocalTensorShard digests shard = true)
    (hLater : shard.planGeneration ≤ planGeneration) :
    validLocalTensorShard digests (promoteShard shard planGeneration) = true := by
  rw [validLocalTensorShard_iff] at hValid ⊢
  have hPlan : 0 < planGeneration := UInt64.lt_of_lt_of_le hValid.plan hLater
  exact ⟨hPlan, hValid.model, hValid.rows, hValid.cols,
    hValid.shape, hValid.size, hValid.placed, hValid.bounded, hValid.intact⟩

/- A stepped shard stays valid. -/
theorem valid_steppedShard {rateMicros : Int} (hValid : validLocalTensorShard digests shard = true)
    (hLength : gradients.length = shard.weights.length) :
    validLocalTensorShard digests
      (steppedShard digests rateMicros shard gradients sequence) = true := by
  rw [validLocalTensorShard_iff] at hValid ⊢
  have hSame : (List.zipWith (descend rateMicros) shard.weights
    gradients).length = shard.weights.length := by
    rw [List.length_zipWith, hLength, Nat.min_self]
  refine ⟨hValid.plan, hValid.model, hValid.rows, hValid.cols,
    hValid.shape.trans hSame.symm, ?_, hValid.placed, ?_, rfl⟩
  · exact Nat.le_trans (Nat.le_of_eq hSame) hValid.size
  · intro weight hWeight
    rw [steppedShard, ← List.map_uncurry_zip_eq_zipWith, List.mem_map] at hWeight
    rcases hWeight with ⟨⟨old, gradient⟩, -, rfl⟩
    exact natAbs_clampValue_le

/- What an install that passes its checks describes is valid. -/
theorem valid_firstShard (hInstall : v4TensorInstall install = .ok ())
    (hHash : tensorHash digests install.weights install.rows
      install.cols install.rowOffset = install.stateHash) :
    validLocalTensorShard digests (firstShard install) = true := by
  simp only [v4TensorInstall, bind_eq_ok_iff, rejectIf_eq_ok_iff,
    badShape, Bool.or_eq_false_iff, beq_eq_false_iff_ne, bne_eq_false_iff_eq,
    decide_eq_false_iff_not, List.any_eq_false, decide_eq_true_eq] at hInstall
  rcases hInstall with
    ⟨-, -, -, -, -, ⟨⟨hPlan, hModel⟩, ⟨⟨⟨hRows, hCols⟩, hShape⟩, hSize⟩, hPlaced⟩, hBounded⟩
  rw [validLocalTensorShard_iff]
  exact ⟨UInt64.pos_iff_ne_zero.mpr hPlan, UInt64.pos_iff_ne_zero.mpr hModel,
    UInt16.pos_iff_ne_zero.mpr hRows, UInt16.pos_iff_ne_zero.mpr hCols, hShape,
    Nat.le_of_not_lt hSize, Nat.le_of_not_lt hPlaced, fun weight hWeight =>
      Nat.le_of_not_lt (hBounded weight hWeight), hHash⟩

----
-- What Each Call Writes
----

theorem valid_of_tensorInstallCheck
    (hCheck : tensorInstallCheck digests self node peer install = .ok ()) :
    validLocalTensorShard digests (firstShard install) = true := by
  simp only [tensorInstallCheck, bind_eq_ok_iff, failIf_eq_ok_iff, bne_eq_false_iff_eq] at hCheck
  rcases hCheck with ⟨⟨⟩, hInstall, ⟨⟩, hHash, -⟩
  rw [Frontier.checked_eq_ok_iff] at hInstall
  exact valid_firstShard digests hInstall hHash

theorem valid_of_tensorReplicaCheck {replica : V4TensorReplica}
    (hCheck : tensorReplicaCheck digests self node peer replica = .ok ()) :
    validLocalTensorShard digests (incomingShard replica) = true := by
  simp only [tensorReplicaCheck, bind_eq_ok_iff, failIf_eq_ok_iff] at hCheck
  rcases hCheck with ⟨-, -, -, -, -, -, hValid⟩
  simpa using hValid

/- An optimizer step leaves the shards alone. -/
theorem updateOptimizer_shards :
    SameShards node (updateOptimizerStateAndReplicate digests self env node
      jobId planGeneration shardId gradients sequence).node := by
  rw [updateOptimizer_node]
  split
  · split_ifs <;> exact ⟨rfl, rfl⟩
  · exact ⟨rfl, rfl⟩

/- The gradients of a shard have one entry for each weight. -/
theorem length_of_shardGradients
    (hGradients : shardGradients env shard upstream = .ok (gradients, inputGradient)) :
    gradients.length = shard.weights.length := by
  simp only [shardGradients, bind_eq_ok_iff] at hGradients
  rcases hGradients with ⟨values, hTask, other, -, hResult⟩
  cases hResult
  unfold executeBackendTask at hTask
  split at hTask
  · cases hTask
  · next values hValues =>
      split_ifs at hTask
      cases hTask
      exact length_of_elementwiseMultiply hValues

/- An owned shard is the one in the map. -/
theorem getElem?_of_ownedShard {modelGeneration : UInt64} {unauthorized : String}
    (hOwned : ownedShard digests self node peer jobId planGeneration
      modelGeneration shardId unauthorized = .ok (plan, shard)) :
    node.shards[(⟨jobId, shardId⟩ : ShardKey)]? = some shard := by
  simp only [ownedShard, bind_eq_ok_iff] at hOwned
  rcases hOwned with ⟨active, -, -, -, hFound⟩
  cases hEntry : node.shards[(⟨jobId, shardId⟩ : ShardKey)]? with
  | none =>
    rw [hEntry] at hFound
    cases hFound
  | some found =>
    rw [hEntry] at hFound
    cases hFound
    rfl

/- The shard of a step, and its gradients. -/
theorem backwardGradients_shard {backward : V4TensorBackward}
    (hGradients : backwardGradients digests self env node peer backward = .ok (plan, shard,
      gradients, inputGradient)) :
    node.shards[(⟨backward.jobId, backward.shardId⟩ : ShardKey)]? = some shard ∧
      shardGradients env shard backward.upstream = .ok (gradients, inputGradient) ∧
      ¬ backward.sequence < shard.lastSequence := by
  simp only [backwardGradients, bind_eq_ok_iff,
    failIf_eq_ok_iff, decide_eq_false_iff_not, Except.ok.injEq, Prod.mk.injEq] at hGradients
  rcases hGradients with ⟨⟨plan', shard'⟩, hOwned, -, -, -, hOrder,
    ⟨gradients', inputGradient'⟩, hTask, rfl, rfl, rfl, rfl⟩
  exact ⟨getElem?_of_ownedShard digests self hOwned, hTask, hOrder⟩

theorem localBackwardGradients_shard {spec : V4ShardOwnership} {input : List Int}
    (hGradients : localBackwardGradients env node jobId planGeneration spec sequence input upstream
      = .ok (shard, gradients, inputGradient)) :
    node.shards[(⟨jobId, spec.shardId⟩ : ShardKey)]? = some shard ∧
      shardGradients env shard upstream = .ok (gradients, inputGradient) ∧
      ¬ sequence < shard.lastSequence := by
  unfold localBackwardGradients at hGradients
  cases hShard : node.shards[(⟨jobId, spec.shardId⟩ : ShardKey)]? with
  | none =>
    rw [hShard] at hGradients
    cases hGradients
  | some found =>
    simp only [hShard, bind_eq_ok_iff, failIf_eq_ok_iff, decide_eq_false_iff_not,
      Except.ok.injEq, Prod.mk.injEq] at hGradients
    rcases hGradients with ⟨-, -, -, hOrder, ⟨gradients', inputGradient'⟩, hTask, rfl, rfl, rfl⟩
    exact ⟨rfl, hTask, hOrder⟩

/- A step writes the shard that it steps, if any. -/
theorem ShardWrite.stepShard (env : TensorEnv) (node : TensorNode) (key : ShardKey)
    (rateMicros : Int) (jobId : JobId) (planGeneration : UInt64) (shardId : UInt16)
    (shard : V4LocalTensorShard) (gradients : List Int) (sequence : UInt64) (hKey : shard.key = key)
    (hValid : validLocalTensorShard digests shard = true) (hRoom : HasRoom node key)
    (hLength : gradients.length = shard.weights.length) :
    ShardWrite digests node (Tensor.stepShard digests self env.written node key
      rateMicros jobId planGeneration shardId shard gradients sequence).node := by
  rw [stepShard_node]
  split_ifs with hTaken hWritten
  · exact .refl digests node
  · have hWrite : ShardWrite digests node
      (putShard node key (steppedShard digests rateMicros shard gradients sequence)) :=
      .put digests node key _ hKey (valid_steppedShard digests hValid hLength) hRoom
    exact hWrite.andThen digests (updateOptimizer_shards digests self)
  · exact absurd rfl hWritten

end IntelligenceNetwork.Tensor
