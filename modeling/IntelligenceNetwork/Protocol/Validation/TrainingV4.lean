import IntelligenceNetwork.Protocol.Validation.Plan

/-
  Checks on version 4 training messages.

  Main declarations:
    * `v4IntegratedStart`
    * `v4Checkpoint`
    * `trainingV4Message`
-/

----
-- Integrated Jobs
----

namespace IntelligenceNetwork.Validation

def v4IntegratedState (value : V4IntegratedStateRecord) : Check := do
  trainingJobId value.jobId "v4.integrated_state.job_id"
  v4Hash value.planHash "v4.integrated_state.plan_hash"
  v4Hash value.branch "v4.integrated_state.branch"
  v4Hash value.stateHash "v4.integrated_state.hash"
  nodeId value.coordinator "v4.integrated_state.coordinator"
  rejectIf (value.graphGeneration == 0 || value.targetWindows == 0 || value.targetWindows > 4096 ||
    value.window > value.targetWindows || value.checkpointGeneration == 0 ||
    value.modelGeneration == 0 || value.optimizerGeneration == 0 || value.membershipEpoch == 0 ||
    value.collectiveGeneration == 0) (.invalid "v4.integrated_state.generation")

/- A plan or graph that fails its own check fails the start. -/
def v4IntegratedStart (value : V4IntegratedStart) : Check := do
  trainingJobId value.requestId "v4.integrated_start.request_id"
  nodeId value.replyTo "v4.integrated_start.reply_to"
  rejectIf (value.windows == 0 || value.windows > 4096 || value.checkpointEvery == 0)
    (.invalid "v4.integrated_start.bounds")
  rejectIf (value.graph.jobId != value.plan.jobId || value.graph.planHash != value.plan.planHash ||
    value.graph.strategy != value.plan.strategy || value.graph.graphGeneration == 0 ||
    !(v4Plan value.plan).isOk || !(v4ExecutionGraph value.graph).isOk)
    (.invalid "v4.integrated_start.graph")

def v4IntegratedAck (value : V4IntegratedAck) : Check := do
  trainingJobId value.jobId "v4.integrated_ack.job_id"
  nodeId value.worker "v4.integrated_ack.worker"
  rejectIf (value.graphGeneration == 0) (.invalid "v4.integrated_ack.generation")
  string value.reason "v4.integrated_ack.reason"

def v4IntegratedStateAck (value : V4IntegratedStateAck) : Check := do
  trainingJobId value.jobId "v4.integrated_state_ack.job_id"
  nodeId value.worker "v4.integrated_state_ack.worker"
  v4Hash value.stateHash "v4.integrated_state_ack.hash"
  rejectIf (value.graphGeneration == 0) (.invalid "v4.integrated_state_ack.generation")

def v4IntegratedProbe (value : V4IntegratedProbe) : Check := do
  trainingJobId value.requestId "v4.integrated_probe.request_id"
  trainingJobId value.jobId "v4.integrated_probe.job_id"
  nodeId value.requester "v4.integrated_probe.requester"
  v4Hash value.graphHash "v4.integrated_probe.graph_hash"
  v4Hash value.stateHash "v4.integrated_probe.state_hash"
  rejectIf (value.graphGeneration == 0) (.invalid "v4.integrated_probe.generation")

def v4IntegratedProbeAck (value : V4IntegratedProbeAck) : Check := do
  trainingJobId value.requestId "v4.integrated_probe_ack.request_id"
  trainingJobId value.jobId "v4.integrated_probe_ack.job_id"
  nodeId value.responder "v4.integrated_probe_ack.responder"
  rejectIf (value.graphGeneration == 0) (.invalid "v4.integrated_probe_ack.generation")

def v4IntegratedElectionRequest (value : V4IntegratedElectionRequest) : Check := do
  trainingJobId value.requestId "v4.integrated_election.request_id"
  trainingJobId value.jobId "v4.integrated_election.job_id"
  nodeId value.candidate "v4.integrated_election.candidate"
  v4Hash value.graphHash "v4.integrated_election.graph_hash"
  v4Hash value.branch "v4.integrated_election.branch"
  v4Hash value.stateHash "v4.integrated_election.state_hash"
  rejectIf (value.graphGeneration == 0 || value.term == 0)
    (.invalid "v4.integrated_election.generation")

def v4IntegratedElectionVote (value : V4IntegratedElectionVote) : Check := do
  trainingJobId value.jobId "v4.integrated_election_vote.job_id"
  nodeId value.candidate "v4.integrated_election_vote.candidate"
  nodeId value.voter "v4.integrated_election_vote.voter"
  v4Hash value.graphHash "v4.integrated_election_vote.graph_hash"
  rejectIf (value.graphGeneration == 0 || value.term == 0)
    (.invalid "v4.integrated_election_vote.generation")
  string value.reason "v4.integrated_election_vote.reason"

def v4IntegratedResult (value : V4IntegratedResult) : Check := do
  trainingJobId value.requestId "v4.integrated_result.request_id"
  trainingJobId value.jobId "v4.integrated_result.job_id"
  rejectIf (value.graphGeneration == 0 || value.windowsCompleted > 4096)
    (.invalid "v4.integrated_result.generation")

----
-- State Records
----

def v4StateShard (workers : List NodeId) (seen : List UInt16)
    (shard : V4ShardOwnership) : Check := do
  rejectIf
    (seen.contains shard.shardId || (shard.owners ++ shard.replicas).any (!workers.contains ·))
    (.invalid "v4.state.shard.worker")
  rejectIf (shard.owners.length != 1) (.invalid "v4.state.shard.owners")
  v4NodeList shard.owners "v4.state.shard.owners" maxV4PlanWorkers
  rejectIf (shard.replicas.length > maxTrainingReplicas)
    (.tooMany "v4.state.shard.replicas" maxTrainingReplicas)
  rejectIf (shard.replicas.any shard.owners.contains)
    (.invalid "v4.state.shard.replica_owner_overlap")
  v4Hash shard.contentHash "v4.state.shard.hash"

def v4TrainingState (value : V4TrainingStateRecord) : Check := do
  trainingJobId value.jobId "v4.state.job_id"
  nodeId value.coordinator "v4.state.coordinator"
  v4Hash value.planHash "v4.state.plan_hash"
  v4Hash value.branch "v4.state.branch"
  v4Hash value.stateHash "v4.state.hash"
  rejectIf (value.planGeneration == 0 || value.trainingEpoch == 0 || value.membershipEpoch == 0 ||
    value.coordinationTerm == 0 || value.optimizerGeneration == 0 ||
    value.checkpointGeneration == 0) (.invalid "v4.state.generation")
  rejectIf (!workerCountOk value.workers) (.invalid "v4.state.workers")
  v4NodeList value.workers "v4.state.workers" maxV4PlanWorkers
  rejectIf (value.shards.isEmpty || value.shards.length > maxTrainingShards)
    (.tooMany "v4.state.shards" maxTrainingShards)
  rejectIf (value.dataProgress.length > maxV4PlanWorkers ||
    (!value.dataProgress.isEmpty && value.dataProgress.length != value.workers.length))
    (.tooMany "v4.state.data_progress" maxV4PlanWorkers)
  forEachSeen V4ShardOwnership.shardId (v4StateShard value.workers) [] value.shards
  ifPresent (v4Hash · "v4.state.checkpoint") value.checkpoint

def v4OptimizerShard (value : V4OptimizerShardRecord) : Check := do
  trainingJobId value.jobId "v4.optimizer.job_id"
  nodeId value.owner "v4.optimizer.owner"
  v4Hash value.contentHash "v4.optimizer.content_hash"
  v4Hash value.stateHash "v4.optimizer.state_hash"
  rejectIf
    (value.planGeneration == 0 || value.modelGeneration == 0 || value.optimizerGeneration == 0 ||
      value.stateBytes == 0 || value.stateBytes > maxTrainingStateBytes ||
      value.replicas.length > maxTrainingReplicas || value.replicas.contains value.owner)
    (.invalid "v4.optimizer.bounds")
  if value.replicas.isEmpty then
    .ok ()
  else
    v4NodeList value.replicas "v4.optimizer.replicas" maxTrainingReplicas

def v4Checkpoint (value : V4CheckpointRecord) : Check := do
  trainingJobId value.jobId "v4.checkpoint.job_id"
  v4Hash value.branch "v4.checkpoint.branch"
  v4Hash value.manifestHash "v4.checkpoint.manifest_hash"
  rejectIf
    (value.planGeneration == 0 || value.modelGeneration == 0 || value.optimizerGeneration == 0 ||
      value.membershipEpoch == 0 || value.checkpointGeneration == 0 || value.shardHashes.isEmpty ||
      value.shardHashes.length > maxTrainingShards)
    (.invalid "v4.checkpoint.generation")
  forEach (v4Hash · "v4.checkpoint.shard_hash") value.shardHashes
  v4NodeList value.providers "v4.checkpoint.providers" maxV4PlanWorkers
  rejectIf (value.complete && value.providers.isEmpty) (.invalid "v4.checkpoint.providers")
  ifPresent (v4Hash · "v4.checkpoint.parent") value.parent

def v4StateAck (value : V4StateAck) : Check := do
  trainingJobId value.jobId "v4.state_ack.job_id"
  v4Hash value.stateHash "v4.state_ack.hash"
  rejectIf (value.planGeneration == 0 || value.generation == 0) (.invalid "v4.state_ack.generation")

----
-- Shard Migration and Plans
----

def v4ShardMigration (value : V4ShardMigration) : Check := do
  trainingJobId value.jobId "v4.migration.job_id"
  nodeId value.fromNode "v4.migration.from"
  nodeId value.toNode "v4.migration.to"
  v4Hash value.contentHash "v4.migration.hash"
  rejectIf (value.planGeneration == 0 || value.ownershipGeneration == 0 ||
    value.fromNode == value.toNode || value.state.length > maxV4Bytes)
    (.invalid "v4.migration.bounds")
  rejectIf (value.phase == .prepare && value.state.isEmpty) (.empty "v4.migration.prepare_state")
  rejectIf (value.phase != .prepare && !value.state.isEmpty) (.invalid "v4.migration.commit_state")

def v4ShardMigrationAck (value : V4ShardMigrationAck) : Check := do
  trainingJobId value.jobId "v4.migration_ack.job_id"
  nodeId value.owner "v4.migration_ack.owner"
  v4Hash value.contentHash "v4.migration_ack.hash"
  rejectIf (value.planGeneration == 0 || value.ownershipGeneration == 0)
    (.invalid "v4.migration_ack.generation")

def v4ShardMigrationRequest (value : V4ShardMigrationRequest) : Check := do
  trainingJobId value.requestId "v4.migration_request.request_id"
  trainingJobId value.jobId "v4.migration_request.job_id"
  nodeId value.proposer "v4.migration_request.proposer"
  nodeId value.fromNode "v4.migration_request.from"
  nodeId value.toNode "v4.migration_request.to"
  nodeId value.replyTo "v4.migration_request.reply_to"
  v4Hash value.proposalHash "v4.migration_request.proposal_hash"
  v4Hash value.contentHash "v4.migration_request.content_hash"
  rejectIf (value.planGeneration == 0 || value.ownershipGeneration == 0 ||
    value.fromNode == value.toNode || value.replyTo != value.proposer)
    (.invalid "v4.migration_request.authorization")

def v4ShardMigrationResult (value : V4ShardMigrationResult) : Check := do
  trainingJobId value.requestId "v4.migration_result.request_id"
  trainingJobId value.jobId "v4.migration_result.job_id"
  nodeId value.fromNode "v4.migration_result.from"
  nodeId value.toNode "v4.migration_result.to"
  v4Hash value.contentHash "v4.migration_result.hash"
  rejectIf (value.planGeneration == 0 || value.ownershipGeneration == 0)
    (.invalid "v4.migration_result.generation")
  string value.reason "v4.migration_result.reason"

def v4PlanProposalAck (value : V4PlanProposalAck) : Check := do
  trainingJobId value.jobId "v4.plan_proposal_ack.job_id"
  v4Hash value.proposalHash "v4.plan_proposal_ack.hash"
  rejectIf (value.planGeneration == 0) (.invalid "v4.plan_proposal_ack.generation")
  string value.reason "v4.plan_proposal_ack.reason"

def v4PlanAck (value : V4PlanAck) : Check := do
  trainingJobId value.jobId "v4.plan_ack.job_id"
  v4Hash value.planHash "v4.plan_ack.hash"
  rejectIf (value.planGeneration == 0) (.invalid "v4.plan_ack.generation")
  string value.reason "v4.plan_ack.reason"

----
-- Tensor Parallelism
----

/- The shape of a weight block disagrees with its weights. -/
def badShape (rows cols rowOffset : UInt16) (weights : List Int) : Bool :=
  rows == 0 || cols == 0 || rows.toNat * cols.toNat != weights.length ||
    weights.length > maxV4Vector * maxV4Vector || rowOffset.toNat + rows.toNat > maxV4Vector

def v4TensorReplica (value : V4TensorReplica) : Check := do
  trainingJobId value.jobId "v4.tensor_replica.job_id"
  nodeId value.source "v4.tensor_replica.source"
  v4Hash value.stateHash "v4.tensor_replica.hash"
  rejectIf (value.planGeneration == 0 || value.modelGeneration == 0 || value.stateGeneration == 0 ||
    value.ownershipGeneration == 0 ||
    badShape value.rows value.cols value.rowOffset value.weights ||
    value.weights.any (fun weight => weight.natAbs > maxMagnitude))
    (.invalid "v4.tensor_replica.shape")

def v4TensorReplicaAck (value : V4TensorReplicaAck) : Check := do
  trainingJobId value.jobId "v4.tensor_replica_ack.job_id"
  v4Hash value.stateHash "v4.tensor_replica_ack.hash"
  rejectIf (value.planGeneration == 0 || value.stateGeneration == 0)
    (.invalid "v4.tensor_replica_ack.generation")

def v4OptimizerStateInstall (value : V4OptimizerStateInstall) : Check := do
  trainingJobId value.jobId "v4.optimizer_state.job_id"
  nodeId value.source "v4.optimizer_state.source"
  v4Hash value.stateHash "v4.optimizer_state.hash"
  rejectIf
    (value.planGeneration == 0 || value.modelGeneration == 0 || value.optimizerGeneration == 0 ||
      value.stateGeneration == 0 || value.sequence == 0 || value.values.isEmpty)
    (.invalid "v4.optimizer_state.generation")
  v4Vector value.values "v4.optimizer_state.values"

def v4OptimizerStateAck (value : V4OptimizerStateAck) : Check := do
  trainingJobId value.jobId "v4.optimizer_state_ack.job_id"
  v4Hash value.stateHash "v4.optimizer_state_ack.hash"
  rejectIf
    (value.planGeneration == 0 || value.optimizerGeneration == 0 || value.stateGeneration == 0)
    (.invalid "v4.optimizer_state_ack.generation")

def v4TensorInstall (value : V4TensorInstall) : Check := do
  trainingJobId value.jobId "v4.tensor_install.job_id"
  v4Hash value.stateHash "v4.tensor_install.hash"
  rejectIf (value.planGeneration == 0 || value.modelGeneration == 0 ||
    badShape value.rows value.cols value.rowOffset value.weights)
    (.invalid "v4.tensor_install.shape")
  rejectIf (value.weights.any (fun weight => weight.natAbs > maxMagnitude))
    (.invalid "v4.tensor_install.weights")

def v4TensorInstallAck (value : V4TensorInstallAck) : Check := do
  trainingJobId value.jobId "v4.tensor_install_ack.job_id"
  v4Hash value.stateHash "v4.tensor_install_ack.hash"
  rejectIf (value.planGeneration == 0) (.invalid "v4.tensor_install_ack.generation")

def v4TensorForward (value : V4TensorForward) : Check := do
  trainingJobId value.jobId "v4.tensor_forward.job_id"
  trainingJobId value.requestId "v4.tensor_forward.request_id"
  rejectIf (value.planGeneration == 0 || value.modelGeneration == 0 || value.sequence == 0)
    (.invalid "v4.tensor_forward.generation")
  v4Vector value.input "v4.tensor_forward.input"

def v4TensorForwardResult (value : V4TensorForwardResult) : Check := do
  trainingJobId value.jobId "v4.tensor_forward_result.job_id"
  trainingJobId value.requestId "v4.tensor_forward_result.request_id"
  v4Hash value.stateHash "v4.tensor_forward_result.hash"
  rejectIf (value.planGeneration == 0 || value.sequence == 0)
    (.invalid "v4.tensor_forward_result.generation")
  v4Vector value.output "v4.tensor_forward_result.output"

def v4TensorBackward (value : V4TensorBackward) : Check := do
  trainingJobId value.jobId "v4.tensor_backward.job_id"
  trainingJobId value.requestId "v4.tensor_backward.request_id"
  rejectIf (value.planGeneration == 0 || value.modelGeneration == 0 || value.sequence == 0 ||
    value.learningRateMicros ≤ 0 || value.learningRateMicros > 1000000)
    (.invalid "v4.tensor_backward.generation")
  v4Vector value.input "v4.tensor_backward.input"
  v4Vector value.upstream "v4.tensor_backward.upstream"

def v4TensorBackwardResult (value : V4TensorBackwardResult) : Check := do
  trainingJobId value.jobId "v4.tensor_backward_result.job_id"
  trainingJobId value.requestId "v4.tensor_backward_result.request_id"
  v4Hash value.stateHash "v4.tensor_backward_result.hash"
  rejectIf (value.planGeneration == 0 || value.sequence == 0 || value.stateGeneration == 0)
    (.invalid "v4.tensor_backward_result.generation")
  v4Vector value.weightGradient "v4.tensor_backward_result.weight_gradient"
  v4Vector value.inputGradient "v4.tensor_backward_result.input_gradient"
  match value.optimizerStateHash with
  | some hash => do
    v4Hash hash "v4.tensor_backward_result.optimizer_hash"
    rejectIf (value.optimizerStateGeneration == 0)
      (.invalid "v4.tensor_backward_result.optimizer_generation")
  | none =>
    rejectIf (value.optimizerStateGeneration != 0)
      (.invalid "v4.tensor_backward_result.optimizer_hash")

----
-- Pipeline Parallelism
----

/- A pipeline stage outside the pipeline it names. -/
def badStage (stageId stageCount : UInt16) : Bool :=
  stageCount < 2 || stageCount.toNat > maxV4Stages || stageId ≥ stageCount

def v4PipelineInstall (value : V4PipelineInstall) : Check := do
  trainingJobId value.jobId "v4.pipeline_install.job_id"
  v4Hash value.stateHash "v4.pipeline_install.hash"
  rejectIf (value.planGeneration == 0 || badStage value.stageId value.stageCount ||
    value.coefficient.natAbs > maxMagnitude || value.bias.natAbs > maxMagnitude)
    (.invalid "v4.pipeline_install.stage")

def v4PipelineInstallAck (value : V4PipelineInstallAck) : Check := do
  trainingJobId value.jobId "v4.pipeline_install_ack.job_id"
  v4Hash value.stateHash "v4.pipeline_install_ack.hash"
  rejectIf (value.planGeneration == 0 || value.stageId.toNat ≥ maxV4Stages)
    (.invalid "v4.pipeline_install_ack.stage")

def v4PipelineForward (value : V4PipelineForward) : Check := do
  trainingJobId value.jobId "v4.pipeline_forward.job_id"
  trainingJobId value.requestId "v4.pipeline_forward.request_id"
  rejectIf (value.planGeneration == 0 || badStage value.stageId value.stageCount ||
    value.deadlineMs == 0 || value.deadlineMs > 300000) (.invalid "v4.pipeline_forward.stage")
  v4Vector value.activation "v4.pipeline_forward.activation"

def v4PipelineForwardResult (value : V4PipelineForwardResult) : Check := do
  trainingJobId value.jobId "v4.pipeline_forward_result.job_id"
  trainingJobId value.requestId "v4.pipeline_forward_result.request_id"
  rejectIf (value.planGeneration == 0 || value.stageId.toNat ≥ maxV4Stages)
    (.invalid "v4.pipeline_forward_result.stage")
  v4Vector value.activation "v4.pipeline_forward_result.activation"
  v4Hash value.stateHash "v4.pipeline_forward_result.hash"

def v4PipelineBackward (value : V4PipelineBackward) : Check := do
  trainingJobId value.jobId "v4.pipeline_backward.job_id"
  trainingJobId value.requestId "v4.pipeline_backward.request_id"
  rejectIf (value.planGeneration == 0 || badStage value.stageId value.stageCount ||
    value.deadlineMs == 0 || value.deadlineMs > 300000) (.invalid "v4.pipeline_backward.stage")
  v4Vector value.gradient "v4.pipeline_backward.gradient"

def v4PipelineBackwardResult (value : V4PipelineBackwardResult) : Check := do
  trainingJobId value.jobId "v4.pipeline_backward_result.job_id"
  trainingJobId value.requestId "v4.pipeline_backward_result.request_id"
  rejectIf (value.planGeneration == 0 || value.stageId.toNat ≥ maxV4Stages)
    (.invalid "v4.pipeline_backward_result.stage")
  v4Vector value.gradient "v4.pipeline_backward_result.gradient"
  v4Hash value.stateHash "v4.pipeline_backward_result.hash"

----
-- Collectives, Branches and Robust Aggregation
----

def v4CollectiveContribute (value : V4CollectiveContribute) : Check := do
  trainingJobId value.jobId "v4.collective.job_id"
  trainingJobId value.requestId "v4.collective.request_id"
  nodeId value.contributor "v4.collective.contributor"
  nodeId value.aggregator "v4.collective.aggregator"
  ifPresent (nodeId · "v4.collective.parent") value.parent
  nodeId value.replyTo "v4.collective.reply_to"
  rejectIf
    (value.planGeneration == 0 || value.generation == 0 || value.groupId ≥ value.expectedGroups ||
      value.expectedContributors == 0 || value.expectedContributors.toNat > maxV4PlanWorkers ||
      value.expectedGroups == 0 || value.expectedGroups.toNat > maxV4Groups)
    (.invalid "v4.collective.generation")
  v4Vector value.values "v4.collective.values"

def v4CollectiveAggregate (value : V4CollectiveAggregate) : Check := do
  trainingJobId value.jobId "v4.collective_aggregate.job_id"
  trainingJobId value.requestId "v4.collective_aggregate.request_id"
  nodeId value.aggregator "v4.collective_aggregate.aggregator"
  nodeId value.replyTo "v4.collective_aggregate.reply_to"
  rejectIf
    (value.planGeneration == 0 || value.generation == 0 || value.groupId ≥ value.expectedGroups ||
      value.contributors == 0 || value.expectedGroups == 0 ||
      value.expectedGroups.toNat > maxV4Groups)
    (.invalid "v4.collective_aggregate.generation")
  v4Vector value.values "v4.collective_aggregate.values"

def v4CollectiveResult (value : V4CollectiveResult) : Check := do
  trainingJobId value.jobId "v4.collective_result.job_id"
  trainingJobId value.requestId "v4.collective_result.request_id"
  rejectIf (value.planGeneration == 0 || value.generation == 0 || value.groupCount == 0 ||
    value.maxFanIn == 0 || value.rootReceivedBytes > value.contributorBytes)
    (.invalid "v4.collective_result.generation")
  v4Vector value.values "v4.collective_result.values"

def v4Branch (value : V4TrainingBranch) : Check := do
  trainingJobId value.jobId "v4.branch.job_id"
  nodeId value.createdBy "v4.branch.created_by"
  artifactId value.branch "v4.branch.id"
  rejectIf
    (value.parentGeneration == 0 || value.modelGeneration == 0 || value.optimizerGeneration == 0 ||
      value.planGeneration == 0)
    (.invalid "v4.branch.generation")

def v4Reconcile (value : V4ReconcileRequest) : Check := do
  trainingJobId value.jobId "v4.reconcile.job_id"
  trainingJobId value.requestId "v4.reconcile.request_id"
  rejectIf (value.planGeneration == 0) (.invalid "v4.reconcile.plan_generation")
  v4Branch value.left
  v4Branch value.right
  rejectIf (value.left.jobId != value.right.jobId || value.left.parentGeneration !=
    value.right.parentGeneration || value.left.modelGeneration != value.right.modelGeneration ||
    value.left.planGeneration != value.right.planGeneration ||
    value.left.branch == value.right.branch) (.invalid "v4.reconcile.branch_lineage")
  rejectIf (value.leftValue.natAbs > maxMagnitude || value.rightValue.natAbs > maxMagnitude)
    (.invalid "v4.reconcile.values")

def v4ReconcileResult (value : V4ReconcileResult) : Check := do
  trainingJobId value.jobId "v4.reconcile_result.job_id"
  trainingJobId value.requestId "v4.reconcile_result.request_id"
  rejectIf (value.planGeneration == 0) (.invalid "v4.reconcile_result.plan_generation")
  ifPresent (artifactId · "v4.reconcile_result.branch") value.branch
  string value.reason "v4.reconcile_result.reason"

def v4ByzantineUpdate (value : V4ByzantineUpdate) : Check := do
  trainingJobId value.jobId "v4.byzantine.job_id"
  trainingJobId value.requestId "v4.byzantine.request_id"
  nodeId value.worker "v4.byzantine.worker"
  nodeId value.aggregator "v4.byzantine.aggregator"
  nodeId value.replyTo "v4.byzantine.reply_to"
  rejectIf (value.planGeneration == 0 || value.generation == 0 || value.sequence == 0 ||
    value.expectedUpdates == 0 || value.expectedUpdates.toNat > maxV4PlanWorkers)
    (.invalid "v4.byzantine.generation")
  v4Vector value.values "v4.byzantine.values"

/- Both worker lists must be nonempty, even the rejected one. -/
def v4ByzantineResult (value : V4ByzantineResult) : Check := do
  trainingJobId value.jobId "v4.byzantine_result.job_id"
  trainingJobId value.requestId "v4.byzantine_result.request_id"
  rejectIf (value.planGeneration == 0 || value.generation == 0)
    (.invalid "v4.byzantine_result.generation")
  v4Vector value.aggregate "v4.byzantine_result.aggregate"
  v4NodeList value.acceptedWorkers "v4.byzantine_result.accepted_workers" maxV4PlanWorkers
  v4NodeList value.rejectedWorkers "v4.byzantine_result.rejected_workers" maxV4PlanWorkers
  rejectIf
    (value.acceptedWorkers.any value.rejectedWorkers.contains || value.acceptedWorkers.length +
      value.rejectedWorkers.length > maxV4PlanWorkers || value.robust == (value.policy == .mean))
    (.invalid "v4.byzantine_result.workers")

----
-- Messages
----

def trainingV4Message : TrainingV4Message → Check
| .plan value => v4Plan value
| .planAck value => v4PlanAck value
| .planProposal value => v4Plan value
| .planProposalAck value => v4PlanProposalAck value
| .stateRecord value => v4TrainingState value
| .optimizerShard value => v4OptimizerShard value
| .checkpointRecord value => v4Checkpoint value
| .stateAck value => v4StateAck value
| .shardMigration value => v4ShardMigration value
| .shardMigrationAck value => v4ShardMigrationAck value
| .shardMigrationRequest value => v4ShardMigrationRequest value
| .shardMigrationResult value => v4ShardMigrationResult value
| .tensorInstall value => v4TensorInstall value
| .tensorInstallAck value => v4TensorInstallAck value
| .tensorForward value => v4TensorForward value
| .tensorForwardResult value => v4TensorForwardResult value
| .tensorBackward value => v4TensorBackward value
| .tensorBackwardResult value => v4TensorBackwardResult value
| .pipelineInstall value => v4PipelineInstall value
| .pipelineInstallAck value => v4PipelineInstallAck value
| .pipelineForward value => v4PipelineForward value
| .pipelineForwardResult value => v4PipelineForwardResult value
| .pipelineBackward value => v4PipelineBackward value
| .pipelineBackwardResult value => v4PipelineBackwardResult value
| .collectiveContribute value => v4CollectiveContribute value
| .collectiveAggregate value => v4CollectiveAggregate value
| .collectiveResult value => v4CollectiveResult value
| .branch value => v4Branch value
| .reconcile value => v4Reconcile value
| .reconcileResult value => v4ReconcileResult value
| .byzantineUpdate value => v4ByzantineUpdate value
| .byzantineResult value => v4ByzantineResult value
| .integratedStart value => v4IntegratedStart value
| .integratedAck value => v4IntegratedAck value
| .integratedState value => v4IntegratedState value
| .integratedStateAck value => v4IntegratedStateAck value
| .integratedProbe value => v4IntegratedProbe value
| .integratedProbeAck value => v4IntegratedProbeAck value
| .integratedElectionRequest value => v4IntegratedElectionRequest value
| .integratedElectionVote value => v4IntegratedElectionVote value
| .integratedResult value => v4IntegratedResult value
| .tensorReplica value => v4TensorReplica value
| .tensorReplicaAck value => v4TensorReplicaAck value
| .optimizerStateInstall value => v4OptimizerStateInstall value
| .optimizerStateAck value => v4OptimizerStateAck value

end IntelligenceNetwork.Validation
