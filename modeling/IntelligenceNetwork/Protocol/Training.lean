import IntelligenceNetwork.Protocol.Ids

/-
  Messages of the windowed training protocol.

  Signed 64-bit words of the reference model are integers;
  the runtime that computes with them clamps or wraps them.

  Main declarations:
    * `TrainingStart`
    * `TrainingCheckpointManifest`
    * `TrainingMessage`
-/

----
-- Jobs, Groups and Shards
----

namespace IntelligenceNetwork

/- How the windows of a job are driven. -/
inductive TrainingExecution where
  | windowed
  | autonomousLocalSgd
  deriving DecidableEq

/- One sample of the reference model. -/
structure TrainingSample where
  (feature target : Int)
  deriving DecidableEq

structure TrainingShardAssignment where
  (shardId groupId : UInt16)
  (owners replicas : List NodeId)
  generation : UInt64
  stateHash : ArtifactId
  deriving DecidableEq

/- A group of workers and the member that aggregates. -/
structure TrainingGroup where
  (groupId shardId : UInt16)
  members : List NodeId
  aggregator : NodeId
  deriving DecidableEq

/- The order that opens a training job on a participant. -/
structure TrainingStart where
  jobId : JobId
  coordinator : NodeId
  (term membershipEpoch : UInt64)
  (branch planHash : ArtifactId)
  maxWindows : UInt64
  (localSteps maxStaleness : UInt16)
  checkpointEvery : UInt64
  execution : TrainingExecution
  (modelStateBytes shardStateBytes : UInt64)
  participants : List NodeId
  groups : List TrainingGroup
  shards : List TrainingShardAssignment
  assignment : TrainingShardAssignment
  (initialValue initialOptimizer : Int)
  samples : List TrainingSample
  deriving DecidableEq

----
-- Windows
----

/- The order to compute one window of one group. -/
structure TrainingWindow where
  jobId : JobId
  coordinator : NodeId
  (term membershipEpoch : UInt64)
  branch : ArtifactId
  window : UInt64
  (groupId shardId : UInt16)
  aggregator : NodeId
  members : List NodeId
  baseGeneration : UInt64
  (localSteps maxStaleness : UInt16)
  deriving DecidableEq

/- A worker's contribution to a window. -/
structure TrainingUpdate where
  jobId : JobId
  worker : NodeId
  (term membershipEpoch : UInt64)
  branch : ArtifactId
  window : UInt64
  shardId : UInt16
  (baseGeneration updateSequence : UInt64)
  (value optimizer loss : Int)
  samples : UInt32
  deriving DecidableEq

/- What an aggregator reports for a window. -/
structure TrainingAggregate where
  jobId : JobId
  aggregator : NodeId
  (term membershipEpoch : UInt64)
  branch : ArtifactId
  window : UInt64
  (groupId shardId : UInt16)
  generation : UInt64
  (value optimizer loss : Int)
  contributors : List NodeId
  stateArtifact : ArtifactId
  replicas : List NodeId
  deriving DecidableEq

/- The state of one shard, as its owner replicates it. -/
structure TrainingShardState where
  jobId : JobId
  owner : NodeId
  (term membershipEpoch : UInt64)
  branch : ArtifactId
  shardId : UInt16
  generation : UInt64
  (value optimizer : Int)
  stateHash : ArtifactId
  deriving DecidableEq

----
-- Coordination State
----

/- The newest known generation of a shard. -/
structure TrainingShardSummary where
  shardId : UInt16
  generation : UInt64
  stateHash : ArtifactId
  providers : List NodeId
  deriving DecidableEq

/- The coordination state that participants adopt. -/
structure TrainingState where
  jobId : JobId
  coordinator : NodeId
  (term membershipEpoch : UInt64)
  branch : ArtifactId
  (window checkpointGeneration : UInt64)
  checkpoint : Option ArtifactId
  shards : List TrainingShardSummary
  deriving DecidableEq

/- What an acknowledgement is for. -/
inductive TrainingAckKind where
  | start
  | state (window : UInt64) (stateHash : ArtifactId)
  | checkpoint (artifact : ArtifactId)
  | vote (candidate : NodeId) (term : UInt64) (lastWindow : UInt64) (granted : Bool)
  deriving DecidableEq

structure TrainingAck where
  jobId : JobId
  peer : NodeId
  term : UInt64
  kind : TrainingAckKind
  deriving DecidableEq

/- A candidate asks for a vote. -/
structure TrainingElection where
  jobId : JobId
  candidate : NodeId
  (term membershipEpoch : UInt64)
  branch : ArtifactId
  lastWindow : UInt64
  lastStateHash : ArtifactId
  deriving DecidableEq

----
-- Checkpoints
----

structure TrainingCheckpointShard where
  shardId : UInt16
  artifact : ArtifactId
  generation : UInt64
  providers : List NodeId
  deriving DecidableEq

/- A checkpoint: one artifact per shard. -/
structure TrainingCheckpointManifest where
  jobId : JobId
  (modelGeneration optimizerGeneration membershipEpoch term checkpointGeneration : UInt64)
  parent : Option ArtifactId
  shards : List TrainingCheckpointShard
  datasetProgress : List (UInt16 × UInt64)
  hash : ArtifactId
  deriving DecidableEq

structure TrainingCheckpointOffer where
  jobId : JobId
  creator : NodeId
  (term checkpointGeneration : UInt64)
  shardId : UInt16
  artifact : ArtifactId
  deriving DecidableEq

/- The coordinator commits a checkpoint. -/
structure TrainingCheckpointCommit where
  jobId : JobId
  coordinator : NodeId
  (term membershipEpoch : UInt64)
  branch : ArtifactId
  manifest : TrainingCheckpointManifest
  quorum : List NodeId
  deriving DecidableEq

----
-- Training Messages
----

inductive TrainingMessage where
  | start (content : TrainingStart)
  | window (content : TrainingWindow)
  | update (content : TrainingUpdate)
  | aggregate (content : TrainingAggregate)
  | shardState (content : TrainingShardState)
  | state (content : TrainingState)
  | ack (content : TrainingAck)
  | election (content : TrainingElection)
  | checkpointOffer (content : TrainingCheckpointOffer)
  | checkpointCommit (content : TrainingCheckpointCommit)
  deriving DecidableEq

end IntelligenceNetwork
