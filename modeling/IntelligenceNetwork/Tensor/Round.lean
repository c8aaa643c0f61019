import IntelligenceNetwork.Tensor.ExactlyOnce
import IntelligenceNetwork.Tensor.Frame

/-
  A training round of the tensor shards.

  The coordinator sends an input through every shard and has
  every shard step against the gradient of the loss.  It works
  on its own shards itself and asks the owners of the others.

  Main declarations:
    * `RoundStage`
    * `roundMailbox`
    * `roundStep`
-/

----
-- Rounds
----

namespace IntelligenceNetwork.Tensor

variable {node : TensorNode}

open Frontier (NodeError TensorRound)

structure Round where
  lead : NodeId
  graph : V4ExecutionGraph
  plan : V4TrainingPlan
  requestId : JobId
  window : UInt64

/-
  A repeated window of one graph has the same number, and each
  graph has a range of numbers of its own.
-/
def Round.sequence (round : Round) : UInt64 :=
  Saturating.add (Saturating.add (Saturating.mul round.graph.graphGeneration
    (Saturating.add Frontier.v4IntegratedMaxWindows 1))
    round.window)
    1

def roundInput : List Int := [2, 4, 6, 8]

/- The distances of the outputs from the target. -/
def outputErrors (values : List Int) : List Int :=
  values.map (fun value => Saturating.clampI64 (value - 32))

def sumSquares (errors : List Int) : Int :=
  (errors.map (fun error => error * error)).sum

abbrev Outputs := Std.TreeMap UInt16 (List Int)

abbrev Hashes := Std.TreeMap UInt16 ArtifactId

/- Where the coordinator waits, and how a round ends. -/
inductive RoundStage where
  | forward (pending : List UInt16) (outputs : Outputs)
  | backward (pending : List UInt16) (loss : Int) (tensorHashes optimizerHashes : Hashes)
  | returned (result : TensorRound)
  | failed (error : NodeError)

section

variable (round : Round) (shard : V4ShardOwnership)

def Round.forwardRequest : V4TensorForward where
  requestId := round.requestId
  jobId := round.graph.jobId
  planGeneration := round.plan.planGeneration
  modelGeneration := shard.modelGeneration
  shardId := shard.shardId
  sequence := round.sequence
  input := roundInput

def remoteRateMicros : Int := 10000

def Round.backwardRequest (upstream : List Int) : V4TensorBackward where
  requestId := round.requestId
  jobId := round.graph.jobId
  planGeneration := round.plan.planGeneration
  modelGeneration := shard.modelGeneration
  shardId := shard.shardId
  sequence := round.sequence
  input := roundInput
  upstream := upstream
  learningRateMicros := remoteRateMicros

/- The request for the step of a shard with a known output. -/
def Round.requestParcel (values : List Int) : TensorParcel :=
  ⟨round.lead, ownerOf shard, .tensorBackward (round.backwardRequest shard (outputErrors values))⟩

end

----
-- The Coordinator's Program
----

variable (digests : StateDigests) (round : Round)

/- The loss of all shards; each must have an output. -/
def roundLoss (outputs : Outputs) : List V4ShardOwnership → Except NodeError Int
| [] => .ok 0
| shard :: shards =>
  match outputs[shard.shardId]? with
  | none => .error (.invalidConfig "tensor result missing shard")
  | some values =>
    match roundLoss outputs shards with
    | .error error => .error error
    | .ok loss => .ok (sumSquares (outputErrors values) + loss)

/- The result, once no answer is awaited. -/
def awaitBackward (node : TensorNode) (pending : List UInt16) (loss : Int)
    (tensorHashes optimizerHashes : Hashes) : TensorReaction RoundStage :=
  if pending.isEmpty then
    ⟨node, [], .returned
      { loss := max 0 (min loss Saturating.maxI64)
        tensorHashes := tensorHashes
        optimizerHashes := optimizerHashes
        steps := UInt64.ofNat round.graph.shards.length }⟩
  else
    ⟨node, [], .backward pending loss tensorHashes optimizerHashes⟩

/- The hash of an optimizer state, if the answer names one. -/
def noteOptimizer (hashes : Hashes) (shardId : UInt16) : Option ArtifactId → Hashes
| none => hashes
| some hash => hashes.insert shardId hash

/-
  Step the shards of the coordinator and ask for steps of the
  others.  The loss has been taken, so every shard has an
  output.
-/
def backwardFrom (outputs : Outputs) (loss : Int) :
    TensorNode → List V4ShardOwnership → List UInt16 → Hashes → Hashes → TensorReaction RoundStage
| node, [], pending, tensorHashes, optimizerHashes =>
  awaitBackward round node pending loss tensorHashes optimizerHashes
| node, shard :: shards, pending, tensorHashes, optimizerHashes =>
  let upstream := outputErrors (outputs.getD shard.shardId [])
  let waiting : RoundStage := .backward pending loss tensorHashes optimizerHashes
  if ownerOf shard = round.lead then
    let step := localTensorBackward digests round.lead usualEnv node
        round.graph.jobId round.plan.planGeneration shard round.sequence roundInput upstream
    match step.result with
    | .error error => ⟨step.node, step.sends, .failed error⟩
    | .ok result =>
      let first : TensorReaction RoundStage := ⟨step.node, step.sends, waiting⟩
      first.andThen (backwardFrom outputs loss step.node shards pending
          (tensorHashes.insert shard.shardId result.stateHash)
          (noteOptimizer optimizerHashes shard.shardId result.optimizerStateHash))
  else
    let first : TensorReaction RoundStage :=
      ⟨node, [(ownerOf shard, .tensorBackward (round.backwardRequest shard upstream))], waiting⟩
    first.andThen (backwardFrom outputs loss node shards (shard.shardId :: pending) tensorHashes
        optimizerHashes)

def openBackward (node : TensorNode) (outputs : Outputs) : TensorReaction RoundStage :=
  match roundLoss outputs round.graph.shards with
  | .error error => ⟨node, [], .failed error⟩
  | .ok loss => backwardFrom digests round outputs loss node round.graph.shards [] ∅ ∅

def awaitForward (node : TensorNode) (pending : List UInt16)
    (outputs : Outputs) : TensorReaction RoundStage :=
  if pending.isEmpty then
    openBackward digests round node outputs
  else
    ⟨node, [], .forward pending outputs⟩

/-
  Send the input through the shards of the coordinator and ask
  for the outputs of the others.
-/
def openForward (node : TensorNode) : List V4ShardOwnership → List UInt16 → Outputs →
      TensorReaction RoundStage
| [], pending, outputs => awaitForward digests round node pending outputs
| shard :: shards, pending, outputs =>
  if ownerOf shard = round.lead then
    match localTensorForward digests usualEnv node round.graph.jobId shard.shardId roundInput with
    | .error error => ⟨node, [], .failed error⟩
    | .ok output => openForward node shards pending (outputs.insert shard.shardId output)
  else
    let first : TensorReaction RoundStage :=
      ⟨node, [(ownerOf shard, .tensorForward (round.forwardRequest shard))],
        .forward pending outputs⟩
    first.andThen (openForward node shards (shard.shardId :: pending) outputs)

/- The answer belongs to the round and is awaited. -/
def awaited (pending : List UInt16) (requestId : JobId) (planGeneration : UInt64)
    (shardId : UInt16) : Bool :=
  requestId == round.requestId && planGeneration == round.plan.planGeneration &&
    pending.contains shardId

/- Who sent an answer is not looked at. -/
def roundMailbox : Mailbox RoundStage
| node, .forward pending outputs, .tensorForwardResult result =>
  if awaited round pending result.requestId result.planGeneration result.shardId then
    awaitForward digests round node (pending.filter (· != result.shardId))
      (outputs.insert result.shardId result.output)
  else
    ⟨node, [], .forward pending outputs⟩
| node, .backward pending loss tensorHashes optimizerHashes, .tensorBackwardResult result =>
  if awaited round pending result.requestId result.planGeneration result.shardId then
    awaitBackward round node (pending.filter (· != result.shardId)) loss
      (tensorHashes.insert result.shardId result.stateHash)
      (noteOptimizer optimizerHashes result.shardId result.optimizerStateHash)
  else
    ⟨node, [], .backward pending loss tensorHashes optimizerHashes⟩
| node, stage, _ => ⟨node, [], stage⟩

/- The net after the first move of a round. -/
def beginRound (nodes : NodeId → TensorNode) : TensorNet RoundStage :=
  Courier.Net.move ⟨nodes, [], .forward [] ∅⟩ round.lead
    (openForward digests round (nodes round.lead) round.graph.shards [] ∅)

/- One message of the round is delivered. -/
def roundStep (net : TensorNet RoundStage) (index : Nat) : Option (TensorNet RoundStage) :=
  net.deliver (reactWith digests round.lead (roundMailbox digests round)) index

----
-- What a Step Sends
----

variable (self : NodeId)

/- The copies of an optimizer state that its owner sends. -/
def optimizerCopies (placement : V4OptimizerPlacement) (install : V4OptimizerStateInstall) :
    List (NodeId × TrainingV4Message) :=
  (placement.replicas.filter (· != self)).map (fun replica =>
    (replica, .optimizerStateInstall install))

/- How a step of a shard ends where nothing fails outside. -/
inductive StepOutcome (node : TensorNode) (rateMicros : Int) (jobId : JobId)
    (planGeneration : UInt64) (shardId : UInt16) (shard : V4LocalTensorShard) (gradients : List Int)
    (sequence : UInt64) (outcome : Outcome (V4LocalTensorShard × Option (ArtifactId × UInt64))) :
    Prop where
  | again (optimizer : Option (ArtifactId × UInt64)) (hSequence : sequence = shard.lastSequence)
    (hOutcome : outcome = ⟨node, [], .ok (shard, optimizer)⟩)
  | half (error : Frontier.NodeError) (hSequence : sequence ≠ shard.lastSequence)
    (hSends : outcome.sends = []) (hResult : outcome.result = .error error)
  | alone (hSequence : sequence ≠ shard.lastSequence)
    (hStep : optimizerStep digests self node jobId planGeneration
      shardId gradients sequence = .ok none)
    (hOutcome : outcome =
      ⟨putShard node ⟨jobId, shardId⟩ (steppedShard digests rateMicros shard gradients sequence),
        [], .ok (steppedShard digests rateMicros shard gradients sequence, none)⟩)
  | both (placement : V4OptimizerPlacement) (install : V4OptimizerStateInstall)
    (hSequence : sequence ≠ shard.lastSequence)
    (hStep : optimizerStep digests self node jobId planGeneration shardId gradients sequence =
      .ok (some (placement, install)))
    (hOutcome : outcome = ⟨putOptimizer (putShard node ⟨jobId, shardId⟩
      (steppedShard digests rateMicros shard gradients sequence))
      ⟨jobId, shardId⟩ (incomingOptimizer install), optimizerCopies self placement install,
      .ok (steppedShard digests rateMicros shard gradients sequence,
        some (install.stateHash, install.stateGeneration))⟩)

theorem stepShard_outcome (node : TensorNode) (rateMicros : Int) (jobId : JobId)
    (planGeneration : UInt64) (shardId : UInt16) (shard : V4LocalTensorShard) (gradients : List Int)
    (sequence : UInt64) :
    StepOutcome digests self node rateMicros jobId planGeneration shardId shard gradients sequence
      (stepShard digests self usualEnv node ⟨jobId, shardId⟩
        rateMicros jobId planGeneration shardId shard gradients sequence) := by
  unfold stepShard
  by_cases hSequence : sequence = shard.lastSequence
  · rw [if_pos (by simpa using hSequence)]
    exact .again _ hSequence rfl
  · rw [if_neg (by simpa using hSequence)]
    -- the shard is not read by the step of the optimizer
    have hSame : optimizerStep digests self (putShard node ⟨jobId, shardId⟩
      (steppedShard digests rateMicros shard gradients sequence))
      jobId planGeneration shardId gradients sequence =
      optimizerStep digests self node jobId planGeneration shardId gradients sequence := rfl
    simp only [storeShard, usualEnv, if_true, Outcome.andThen,
      updateOptimizerStateAndReplicate, hSame]
    cases hStep : optimizerStep digests self node jobId planGeneration
      shardId gradients sequence with
    | error error => exact .half error hSequence rfl rfl
    | ok step =>
      cases step with
      | none => exact .alone hSequence hStep rfl
      | some step =>
        rcases step with ⟨placement, install⟩
        simp only [storeOptimizer, if_true, replicateOptimizer, Bool.and_true]
        by_cases hReached :
          (!placement.replicas.isEmpty && (placement.replicas.filter (· != self)).isEmpty) = true
        · have hNone : placement.replicas.filter (· != self) = [] := by
            rw [Bool.and_eq_true] at hReached
            exact List.isEmpty_iff.mp hReached.2
          rw [if_pos hReached]
          refine .half _ hSequence ?_ rfl
          simp [hNone]
        · rw [if_neg hReached]
          refine .both placement install hSequence hStep ?_
          simp [optimizerCopies]

/-
  A request that is answered steps the shard, or finds it
  stepped, and has the copies sent before the answer.
-/
inductive BackwardOutcome (node : TensorNode) (peer : NodeId) (backward : V4TensorBackward)
    (outcome : Outcome Unit) : Prop where
  | refused (hSends : outcome.sends = []) (hNode : outcome.node = node ∨ ∃ record,
    node.shards[(⟨backward.jobId, backward.shardId⟩ : ShardKey)]? = some record ∧
      backward.sequence ≠ record.lastSequence)
  | answered (plan : V4TrainingPlan) (record stepped : V4LocalTensorShard)
    (gradients inputGradient : List Int) (optimizer : Option (ArtifactId × UInt64))
    (step : Outcome (V4LocalTensorShard × Option (ArtifactId × UInt64)))
    (hGradients : backwardGradients digests self usualEnv node peer backward =
      .ok (plan, record, gradients, inputGradient))
    (hStep : StepOutcome digests self node backward.learningRateMicros backward.jobId
      backward.planGeneration backward.shardId record gradients backward.sequence step)
    (hResult : step.result = .ok (stepped, optimizer)) (hNode : outcome.node = step.node)
    (hSends : outcome.sends = step.sends ++ (shardCopies self usualEnv plan stepped ++
      [(peer, .tensorBackwardResult
        (backwardResult backward.requestId backward.jobId backward.planGeneration
          backward.sequence stepped backward.shardId gradients inputGradient optimizer))]))

theorem receiveTensorBackward_outcome {peer : NodeId} {backward : V4TensorBackward}
    (hKeyed : Keyed node) :
    BackwardOutcome digests self node peer backward
      (receiveTensorBackward digests self usualEnv node peer backward) := by
  unfold receiveTensorBackward
  cases hGradients : backwardGradients digests self usualEnv node peer backward with
  | error error => exact .refused rfl (Or.inl rfl)
  | ok found =>
    rcases found with ⟨plan, shard, gradients, inputGradient⟩
    rcases backwardGradients_shard digests self hGradients with ⟨hShard, -, -⟩
    have hStep := stepShard_outcome digests self node backward.learningRateMicros backward.jobId
      backward.planGeneration backward.shardId shard gradients backward.sequence
    dsimp only
    rw [hKeyed _ shard hShard]
    generalize stepShard digests self usualEnv node ⟨backward.jobId, backward.shardId⟩
      backward.learningRateMicros backward.jobId backward.planGeneration backward.shardId shard
      gradients backward.sequence = step at hStep ⊢
    cases hResult : step.result with
    | error error =>
      cases hStep with
      | half error hSequence hSends _ =>
        refine .refused ?_ (Or.inr ⟨shard, hShard, hSequence⟩)
        simp only [Outcome.andThen, hResult, hSends]
      | again optimizer hSequence hOutcome =>
        rw [hOutcome] at hResult
        cases hResult
      | alone hSequence _ hOutcome | both placement install hSequence hSome hOutcome =>
        rw [hOutcome] at hResult
        cases hResult
    | ok value =>
      rcases value with ⟨stepped, optimizer⟩
      refine .answered plan shard stepped gradients
        inputGradient optimizer step hGradients hStep hResult ?_ ?_
      · simp only [Outcome.andThen, hResult, answer_node]
      · simp only [Outcome.andThen, hResult]
        rfl

theorem localTensorBackward_cases {jobId : JobId} {planGeneration : UInt64}
    {spec : V4ShardOwnership} {sequence : UInt64} {input upstream : List Int} :
    (∃ error, (localTensorBackward digests self usualEnv node jobId
      planGeneration spec sequence input upstream).result = .error error) ∨
      ∃ shard gradients inputGradient step stepped optimizer,
        localBackwardGradients usualEnv node jobId planGeneration spec sequence input upstream =
          .ok (shard, gradients, inputGradient) ∧
        StepOutcome digests self node localRateMicros jobId
          planGeneration spec.shardId shard gradients sequence step ∧
        step.result = .ok (stepped, optimizer) ∧
        (localTensorBackward digests self usualEnv node jobId
          planGeneration spec sequence input upstream).node = step.node ∧
        (localTensorBackward digests self usualEnv node jobId
          planGeneration spec sequence input upstream).sends =
          step.sends := by
  unfold localTensorBackward
  cases hGradients : localBackwardGradients usualEnv node jobId planGeneration
    spec sequence input upstream with
  | error error => exact Or.inl ⟨error, rfl⟩
  | ok found =>
    rcases found with ⟨shard, gradients, inputGradient⟩
    have hStep := stepShard_outcome digests self node localRateMicros
      jobId planGeneration spec.shardId shard gradients sequence
    dsimp only
    generalize stepShard digests self usualEnv node ⟨jobId, spec.shardId⟩ localRateMicros jobId
      planGeneration spec.shardId shard gradients sequence = step at hStep ⊢
    cases hResult : step.result with
    | error error =>
      left
      exact ⟨error, by simp only [Outcome.andThen, hResult]⟩
    | ok value =>
      rcases value with ⟨stepped, optimizer⟩
      right
      refine ⟨shard, gradients, inputGradient, step, stepped,
        optimizer, rfl, hStep, hResult, ?_, ?_⟩
      · simp only [Outcome.andThen, hResult]
      · simp only [Outcome.andThen, hResult, List.append_nil]

end IntelligenceNetwork.Tensor
