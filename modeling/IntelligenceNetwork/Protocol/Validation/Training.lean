import IntelligenceNetwork.Protocol.Training
import IntelligenceNetwork.Protocol.Validation.Basic

/-
  Checks on messages of the windowed training protocol.

  Main declarations:
    * `trainingStart`
    * `trainingMessage`
-/

----
-- Jobs and Windows
----

namespace IntelligenceNetwork.Validation

def trainingAssignment (value : TrainingShardAssignment) : Check := do
  trainingNodes value.owners "training.shard.owners" maxTrainingWorkers
  trainingNodes value.replicas "training.shard.replicas" maxTrainingReplicas
  artifactId value.stateHash "training.shard.state_hash"

/-
  Group members, the other shards' owners and replicas, and
  the samples' values are not bounded here.
-/
def trainingStart (value : TrainingStart) : Check := do
  trainingJobId value.jobId "training.start.job_id"
  nodeId value.coordinator "training.start.coordinator"
  artifactId value.branch "training.start.branch"
  artifactId value.planHash "training.start.plan_hash"
  rejectIf (value.term == 0 || value.membershipEpoch == 0 || value.maxWindows == 0 ||
    value.localSteps == 0 || value.localSteps > 1024 || value.maxStaleness > 1024 ||
    value.checkpointEvery == 0) (.invalid "training.start.generation")
  rejectIf (value.modelStateBytes > maxTrainingStateBytes ||
    value.shardStateBytes > maxTrainingStateBytes || (value.modelStateBytes > 0 &&
      (value.shardStateBytes == 0 || value.shardStateBytes > value.modelStateBytes)))
    (.invalid "training.start.state_bytes")
  trainingNodes value.participants "training.start.participants" maxTrainingWorkers
  rejectIf (value.groups.isEmpty || value.groups.length > maxTrainingGroups)
    (.tooMany "training.start.groups" maxTrainingGroups)
  rejectIf (value.shards.isEmpty || value.shards.length > maxTrainingShards)
    (.tooMany "training.start.shards" maxTrainingShards)
  rejectIf (value.samples.isEmpty || value.samples.length > maxTrainingSamples)
    (.tooMany "training.start.samples" maxTrainingSamples)
  trainingAssignment value.assignment

def trainingWindow (value : TrainingWindow) : Check := do
  trainingJobId value.jobId "training.window.job_id"
  nodeId value.coordinator "training.window.coordinator"
  nodeId value.aggregator "training.window.aggregator"
  artifactId value.branch "training.window.branch"
  rejectIf (value.term == 0 || value.membershipEpoch == 0 || value.localSteps == 0)
    (.invalid "training.window.generation")
  trainingNodes value.members "training.window.members" maxTrainingWorkers

def trainingUpdate (value : TrainingUpdate) : Check := do
  trainingJobId value.jobId "training.update.job_id"
  nodeId value.worker "training.update.worker"
  artifactId value.branch "training.update.branch"
  rejectIf (value.term == 0 || value.membershipEpoch == 0 || value.updateSequence == 0 ||
    value.samples == 0 || value.value.natAbs > maxMagnitude ||
    value.optimizer.natAbs > maxMagnitude || value.loss.natAbs > maxMagnitude)
    (.invalid "training.update.bounds")

def trainingAggregate (value : TrainingAggregate) : Check := do
  trainingJobId value.jobId "training.aggregate.job_id"
  nodeId value.aggregator "training.aggregate.aggregator"
  artifactId value.branch "training.aggregate.branch"
  artifactId value.stateArtifact "training.aggregate.state_artifact"
  rejectIf (value.term == 0 || value.membershipEpoch == 0 || value.generation == 0)
    (.invalid "training.aggregate.generation")
  rejectIf (value.value.natAbs > maxMagnitude || value.optimizer.natAbs > maxMagnitude ||
    value.loss.natAbs > maxMagnitude) (.invalid "training.aggregate.bounds")
  trainingNodes value.contributors "training.aggregate.contributors" maxTrainingContributors
  trainingNodes value.replicas "training.aggregate.replicas" maxTrainingReplicas

def trainingShardState (value : TrainingShardState) : Check := do
  trainingJobId value.jobId "training.shard_state.job_id"
  nodeId value.owner "training.shard_state.owner"
  artifactId value.branch "training.shard_state.branch"
  rejectIf (value.term == 0 || value.membershipEpoch == 0 || value.generation == 0 ||
    value.value.natAbs > maxMagnitude || value.optimizer.natAbs > maxMagnitude)
    (.invalid "training.shard_state.bounds")
  artifactId value.stateHash "training.shard_state.hash"

----
-- Coordination
----

def trainingState (value : TrainingState) : Check := do
  trainingJobId value.jobId "training.state.job_id"
  nodeId value.coordinator "training.state.coordinator"
  artifactId value.branch "training.state.branch"
  rejectIf (value.term == 0 || value.membershipEpoch == 0) (.invalid "training.state.generation")
  rejectIf (value.shards.isEmpty || value.shards.length > maxTrainingShards)
    (.tooMany "training.state.shards" maxTrainingShards)
  forEachDistinct TrainingShardSummary.shardId (.invalid "training.state.shard_id") (fun shard => do
    artifactId shard.stateHash "training.state.shard_hash"
    trainingNodes shard.providers "training.state.providers" maxTrainingReplicas)
    value.shards
  ifPresent (artifactId · "training.state.checkpoint") value.checkpoint

def trainingElection (value : TrainingElection) : Check := do
  trainingJobId value.jobId "training.election.job_id"
  nodeId value.candidate "training.election.candidate"
  artifactId value.branch "training.election.branch"
  rejectIf (value.term == 0 || value.membershipEpoch == 0) (.invalid "training.election.generation")

def trainingAck (value : TrainingAck) : Check := do
  trainingJobId value.jobId "training.ack.job_id"
  nodeId value.peer "training.ack.peer"
  rejectIf (value.term == 0) (.invalid "training.ack.term")

def trainingCheckpointOffer (value : TrainingCheckpointOffer) : Check := do
  trainingJobId value.jobId "training.checkpoint.job_id"
  nodeId value.creator "training.checkpoint.creator"
  artifactId value.artifact "training.checkpoint.artifact"
  rejectIf (value.term == 0 || value.checkpointGeneration == 0)
    (.invalid "training.checkpoint.generation")

def trainingCheckpointCommit (value : TrainingCheckpointCommit) : Check := do
  trainingJobId value.jobId "training.commit.job_id"
  nodeId value.coordinator "training.commit.coordinator"
  artifactId value.branch "training.commit.branch"
  rejectIf (value.term == 0 || value.membershipEpoch == 0 || value.quorum.isEmpty)
    (.invalid "training.commit.generation")
  rejectIf (value.manifest.jobId != value.jobId || value.manifest.membershipEpoch !=
    value.membershipEpoch || value.manifest.term > value.term ||
    value.manifest.checkpointGeneration == 0) (.invalid "training.commit.manifest_lineage")
  trainingNodes value.quorum "training.commit.quorum" maxTrainingWorkers
  rejectIf (value.manifest.shards.isEmpty || value.manifest.shards.length > maxTrainingShards)
    (.tooMany "training.commit.shards" maxTrainingShards)
  forEach (fun shard => do
    artifactId shard.artifact "training.commit.shard_artifact"
    rejectIf (shard.generation == 0) (.invalid "training.commit.shard_generation")
    trainingNodes shard.providers "training.commit.shard_providers" maxTrainingReplicas)
    value.manifest.shards
  artifactId value.manifest.hash "training.commit.manifest_hash"

def trainingMessage : TrainingMessage → Check
| .start value => trainingStart value
| .window value => trainingWindow value
| .update value => trainingUpdate value
| .aggregate value => trainingAggregate value
| .shardState value => trainingShardState value
| .state value => trainingState value
| .ack value => trainingAck value
| .election value => trainingElection value
| .checkpointOffer value => trainingCheckpointOffer value
| .checkpointCommit value => trainingCheckpointCommit value

end IntelligenceNetwork.Validation
