import IntelligenceNetwork.Tensor.Net

/-
  What the handlers leave alone.

  A handler changes neither plans nor graphs, and no shard or
  optimizer state of another key.  Only a backward request makes
  a handler write to others than the sender.

  Main declarations:
    * `Touches`
    * `Answered`
    * `handleMessage_answered`
-/

----
-- One Key
----

namespace IntelligenceNetwork.Tensor

variable {key : Option ShardKey} {next node : TensorNode} {shard : V4LocalTensorShard}
variable {peer : NodeId} {env : TensorEnv} {gradients : List Int} {jobId : JobId}
variable {planGeneration sequence : UInt64} {replica : V4TensorReplica} {shardId : UInt16}
variable {message : TrainingV4Message}

/-
  A change of the shard or the optimizer state of one key, or
  of neither.
-/
structure Touches (key : Option ShardKey) (node next : TensorNode) : Prop where
  plans : next.plans = node.plans
  graphs : next.graphs = node.graphs
  shards : ∀ other : ShardKey, some other ≠ key → next.shards[other]? = node.shards[other]?
  optimizers : ∀ other : ShardKey, some other ≠ key →
    next.optimizers[other]? = node.optimizers[other]?
  keyed : Keyed node → Keyed next

namespace Touches

variable {middle : TensorNode}

theorem refl (key : Option ShardKey) (node : TensorNode) : Touches key node node :=
  ⟨rfl, rfl, fun _ _ => rfl, fun _ _ => rfl, id⟩

theorem trans (hFirst : Touches key node middle) (hSecond : Touches key middle next) :
    Touches key node next where
  plans := hSecond.plans.trans hFirst.plans
  graphs := hSecond.graphs.trans hFirst.graphs
  shards := fun other hOther =>
    (hSecond.shards other hOther).trans (hFirst.shards other hOther)
  optimizers := fun other hOther =>
    (hSecond.optimizers other hOther).trans (hFirst.optimizers other hOther)
  keyed := fun hKeyed => hSecond.keyed (hFirst.keyed hKeyed)

/- A change of the map of shards at one key. -/
theorem of_shards {key : ShardKey} (hKey : shard.key = key) (hPlans : next.plans = node.plans)
    (hGraphs : next.graphs = node.graphs) (hShards : next.shards = node.shards.insert key shard)
    (hOptimizers : next.optimizers = node.optimizers) : Touches (some key) node next where
  plans := hPlans
  graphs := hGraphs
  shards := by
    intro other hOther
    have hNe : key ≠ other := by
      rintro rfl
      exact hOther rfl
    rw [hShards, OrderedMap.getElem?_insert, if_neg hNe]
  optimizers := by
    intro other _
    rw [hOptimizers]
  keyed := by
    intro hKeyed other found hFound
    rw [hShards] at hFound
    rcases OrderedMap.getElem?_of_insert hFound with ⟨hSame, rfl⟩ | hFound
    · exact hKey.trans hSame
    · exact hKeyed other found hFound

theorem putShard {key : ShardKey} (node : TensorNode) (shard : V4LocalTensorShard)
    (hKey : shard.key = key) : Touches (some key) node (Tensor.putShard node key shard) :=
  of_shards hKey rfl rfl rfl rfl

theorem putOptimizer (key : ShardKey) (node : TensorNode) (state : V4LocalOptimizerState) :
    Touches (some key) node (Tensor.putOptimizer node key state) where
  plans := rfl
  graphs := rfl
  shards := fun _ _ => rfl
  optimizers := by
    intro other hOther
    have hNe : key ≠ other := by
      rintro rfl
      exact hOther rfl
    rw [Tensor.putOptimizer, OrderedMap.getElem?_insert, if_neg hNe]
  keyed := id

/- A change of the pipeline stages, or of files. -/
theorem of_same (hPlans : next.plans = node.plans) (hGraphs : next.graphs = node.graphs)
    (hShards : next.shards = node.shards) (hOptimizers : next.optimizers = node.optimizers) :
    Touches key node next where
  plans := hPlans
  graphs := hGraphs
  shards := fun _ _ => by rw [hShards]
  optimizers := fun _ _ => by rw [hOptimizers]
  keyed := by
    intro hKeyed other found hFound
    rw [hShards] at hFound
    exact hKeyed other found hFound

end Touches

----
-- Answers
----

/- An answer that no program of a round waits for. -/
def isReply : TrainingV4Message → Bool
| .tensorInstallAck _
| .tensorReplicaAck _
| .tensorForwardResult _
| .optimizerStateAck _
| .pipelineInstallAck _ => true
| _ => false

/- All that a call sends is an answer to the peer. -/
def Replies (peer : NodeId) (outcome : Outcome Unit) : Prop :=
  ∀ send ∈ outcome.sends, send.1 = peer ∧ isReply send.2 = true

/- A call that writes records of one key and sends nothing. -/
structure Stored (key : Option ShardKey) (node : TensorNode) (outcome : Outcome Unit) : Prop where
  touches : Touches key node outcome.node
  silent : outcome.sends = []

/- A call that writes records of one key and answers the peer. -/
structure Answered (key : Option ShardKey) (peer : NodeId) (node : TensorNode)
    (outcome : Outcome Unit) : Prop where
  touches : Touches key node outcome.node
  replies : Replies peer outcome

section

variable {outcome : Outcome Unit}

theorem Stored.answered (hStored : Stored key node outcome) : Answered key peer node outcome := by
  refine ⟨hStored.touches, ?_⟩
  intro send hSend
  rw [hStored.silent] at hSend
  cases hSend

theorem Answered.refuse (node : TensorNode) (error : Frontier.NodeError) :
    Answered key peer node (Tensor.refuse node error) :=
  Stored.answered ⟨.refl _ node, rfl⟩

theorem Answered.answer (hTouches : Touches key node next) (env : TensorEnv)
    (message : TrainingV4Message) (hReply : isReply message = true) :
    Answered key peer node (Tensor.answer env next peer message) := by
  refine ⟨answer_node.symm ▸ hTouches, ?_⟩
  unfold Tensor.answer
  split_ifs
  · intro send hSend
    cases List.mem_singleton.mp hSend
    exact ⟨rfl, hReply⟩
  · intro send hSend
    cases hSend

/- A store and an answer. -/
theorem Stored.andAnswer (hStored : Stored key node outcome) {env : TensorEnv}
    {message : TensorNode → TrainingV4Message} (hReply : ∀ node, isReply (message node) = true) :
    Answered key peer node (outcome.andThen (fun node _ =>
      Tensor.answer env node peer (message node))) := by
  have hAnswer : Answered key peer node (Tensor.answer env outcome.node peer _) :=
    .answer hStored.touches env _ (hReply outcome.node)
  unfold Outcome.andThen
  cases outcome.result with
  | error error => exact Stored.answered ⟨hStored.touches, hStored.silent⟩
  | ok value =>
    rw [hStored.silent]
    exact hAnswer

end

----
-- The Handlers
----

section

variable {digests : StateDigests} {self : NodeId}

section

variable (env : TensorEnv) (node : TensorNode) (key : ShardKey)

theorem storeShard_stored (shard : V4LocalTensorShard) (hKey : shard.key = key) :
    Stored (some key) node (storeShard env node key shard) := by
  unfold storeShard
  cases env.shardWritten with
  | false => exact ⟨.refl _ node, rfl⟩
  | true => exact ⟨.putShard node shard hKey, rfl⟩

theorem storeOptimizer_stored {state : V4LocalOptimizerState} :
    Stored (some key) node (storeOptimizer env node key state) := by
  unfold storeOptimizer
  cases env.optimizerWritten with
  | false => exact ⟨.refl _ node, rfl⟩
  | true => exact ⟨.putOptimizer key node state, rfl⟩

theorem storeStage_stored {key : Option ShardKey} {stageKey : ShardKey}
    {stage : V4LocalPipelineStage} : Stored key node (storeStage env node stageKey stage) := by
  unfold storeStage
  cases env.stageWritten with
  | false => exact ⟨.refl _ node, rfl⟩
  | true => exact ⟨.of_same rfl rfl rfl rfl, rfl⟩

end

theorem receiveTensorInstall_answered {install : V4TensorInstall} (hKeyed : Keyed node) :
    Answered (some ⟨install.jobId, install.shardId⟩) peer node
      (receiveTensorInstall digests self env node peer install) := by
  unfold receiveTensorInstall
  cases tensorInstallCheck digests self node peer install with
  | error error => exact .refuse node error
  | ok checked =>
    dsimp only
    cases hShard : node.shards[(⟨install.jobId, install.shardId⟩ : ShardKey)]? with
    | none =>
      split_ifs
      · exact .refuse node _
      · exact (storeShard_stored env node _ (firstShard install) rfl).andAnswer (fun _ => rfl)
    | some existing =>
      dsimp only
      split_ifs
      · exact .answer (.refl _ node) env _ rfl
      · exact (storeShard_stored env node _ (promoteShard existing install.planGeneration)
          (hKeyed _ existing hShard)).andAnswer (fun _ => rfl)
      · exact .refuse node _

theorem acceptReplica_answered (hNext : Touches (some (incomingShard replica).key) node next) :
    Answered (some (incomingShard replica).key) peer node
      (acceptReplica env next peer replica) := by
  unfold acceptReplica
  split_ifs
  · refine .answer (hNext.trans ?_) env _ rfl
    exact .of_same rfl rfl rfl rfl
  · exact Stored.answered ⟨hNext, rfl⟩

theorem receiveTensorReplica_answered :
    Answered (some ⟨replica.jobId, replica.shardId⟩) peer node
      (receiveTensorReplica digests self env node peer replica) := by
  have hTake : Touches (some (incomingShard replica).key) node (takeReplica node replica) :=
    .of_shards rfl rfl rfl rfl rfl
  unfold receiveTensorReplica
  cases tensorReplicaCheck digests self node peer replica with
  | error error => exact .refuse node error
  | ok checked =>
    dsimp only
    cases node.shards[(incomingShard replica).key]? with
    | none => exact acceptReplica_answered hTake
    | some existing =>
      dsimp only
      split_ifs
      · exact acceptReplica_answered (.refl _ node)
      · exact .answer (.refl _ node) env _ rfl
      · exact acceptReplica_answered hTake

theorem receiveTensorForward_answered {forward : V4TensorForward} :
    Answered key peer node (receiveTensorForward digests self env node peer forward) := by
  unfold receiveTensorForward
  cases forwardOutput digests self env node peer forward with
  | error error => exact .refuse node error
  | ok found => exact .answer (.refl _ node) env _ rfl

theorem receiveTensorForward_node (forward : V4TensorForward) :
    (receiveTensorForward digests self env node peer forward).node = node := by
  unfold receiveTensorForward
  cases forwardOutput digests self env node peer forward with
  | error error => rfl
  | ok found => exact answer_node

theorem receiveOptimizerStateInstall_answered {install : V4OptimizerStateInstall} :
    Answered (some ⟨install.jobId, install.shardId⟩) peer node
      (receiveOptimizerStateInstall digests self env node peer install) := by
  unfold receiveOptimizerStateInstall
  cases optimizerInstallCheck digests self node peer install with
  | error error => exact .refuse node error
  | ok checked =>
    dsimp only
    cases optimizerVerdict digests
      node.optimizers[(⟨install.jobId, install.shardId⟩ : ShardKey)]? install with
    | none => exact .refuse node _
    | some verdict =>
      rcases verdict with ⟨accepted, replacement⟩
      refine Stored.andAnswer ?_ (fun _ => rfl)
      cases replacement with
      | none => exact ⟨.refl _ node, rfl⟩
      | some state => exact storeOptimizer_stored env node _

theorem receivePipelineInstall_answered {install : V4PipelineInstall} :
    Answered key peer node (receivePipelineInstall digests self env node peer install) := by
  unfold receivePipelineInstall
  cases pipelineInstallCheck digests self node peer install with
  | error error => exact .refuse node error
  | ok checked =>
    dsimp only
    cases node.stages[(incomingStage install).key]? with
    | none =>
      split_ifs
      · exact .refuse node _
      · exact (storeStage_stored env node).andAnswer (fun _ => rfl)
    | some existing =>
      dsimp only
      split_ifs
      · exact .answer (.refl _ node) env _ rfl
      · exact (storeStage_stored env node).andAnswer (fun _ => rfl)
      · exact .refuse node _

theorem updateOptimizer_touches :
    Touches (some ⟨jobId, shardId⟩) node (updateOptimizerStateAndReplicate digests self env node
      jobId planGeneration shardId gradients sequence).node := by
  rw [updateOptimizer_node]
  split
  · split_ifs
    · exact .putOptimizer _ node _
    · exact .refl _ node
  · exact .refl _ node

theorem stepShard_touches {rateMicros : Int} (hKey : shard.key = ⟨jobId, shardId⟩) :
    Touches (some ⟨jobId, shardId⟩) node (stepShard digests self env node ⟨jobId, shardId⟩
      rateMicros jobId planGeneration shardId shard gradients sequence).node := by
  rw [stepShard_node]
  split_ifs
  · exact .refl _ node
  · exact (Touches.putShard node (steppedShard digests rateMicros shard gradients sequence)
      hKey).trans updateOptimizer_touches
  · exact .refl _ node

theorem receiveTensorBackward_touches {backward : V4TensorBackward} (hKeyed : Keyed node) :
    Touches (some ⟨backward.jobId, backward.shardId⟩) node
      (receiveTensorBackward digests self env node peer backward).node := by
  rw [receiveTensorBackward_node]
  cases hGradients : backwardGradients digests self env node peer backward with
  | error error => exact .refl _ node
  | ok found =>
    rcases found with ⟨plan, shard, gradients, inputGradient⟩
    rcases backwardGradients_shard digests self hGradients with ⟨hShard, -, -⟩
    have hKey := hKeyed _ shard hShard
    dsimp only
    rw [hKey]
    exact stepShard_touches hKey

theorem localTensorBackward_touches {spec : V4ShardOwnership} {input upstream : List Int}
    (hKeyed : Keyed node) :
    Touches (some ⟨jobId, spec.shardId⟩) node (localTensorBackward digests self env node jobId
      planGeneration spec sequence input upstream).node := by
  rw [localTensorBackward_node]
  cases hGradients : localBackwardGradients env node jobId planGeneration spec
    sequence input upstream with
  | error error => exact .refl _ node
  | ok found =>
    rcases found with ⟨shard, gradients, inputGradient⟩
    rcases localBackwardGradients_shard hGradients with ⟨hShard, -, -⟩
    exact stepShard_touches (hKeyed _ shard hShard)

end

----
-- Any Message
----

variable (digests : StateDigests) (self : NodeId) (peer : NodeId)

/- The shard whose records a message may change. -/
def messageKey : TrainingV4Message → Option ShardKey
| .tensorInstall install => some ⟨install.jobId, install.shardId⟩
| .tensorReplica replica => some ⟨replica.jobId, replica.shardId⟩
| .tensorBackward backward => some ⟨backward.jobId, backward.shardId⟩
| .optimizerStateInstall install => some ⟨install.jobId, install.shardId⟩
| _ => none

theorem handleMessage_answered (hKeyed : Keyed node)
    (hMessage : ∀ backward, message ≠ .tensorBackward backward) :
    Answered (messageKey message) peer node (handleMessage digests self node peer message) := by
  cases message with
  | tensorInstall install =>
    exact receiveTensorInstall_answered hKeyed
  | tensorReplica replica => exact receiveTensorReplica_answered
  | tensorForward forward => exact receiveTensorForward_answered
  | tensorBackward backward => exact absurd rfl (hMessage backward)
  | optimizerStateInstall install =>
    exact receiveOptimizerStateInstall_answered
  | pipelineInstall install =>
    exact receivePipelineInstall_answered
  | _ => exact Stored.answered ⟨.refl _ node, rfl⟩

theorem handleMessage_touches (hKeyed : Keyed node) :
    Touches (messageKey message) node (handleMessage digests self node peer message).node := by
  by_cases hBackward : ∃ backward, message = .tensorBackward backward
  · rcases hBackward with ⟨backward, rfl⟩
    exact receiveTensorBackward_touches hKeyed
  · exact (handleMessage_answered digests self peer hKeyed (not_exists.mp hBackward)).touches

end IntelligenceNetwork.Tensor
