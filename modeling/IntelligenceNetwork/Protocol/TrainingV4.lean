import IntelligenceNetwork.Protocol.Compute

/-
  Messages of the planned (version 4) training protocol.

  Main declarations:
    * `V4TrainingPlan`
    * `V4ExecutionGraph`
    * `TrainingV4Message`
-/

----
-- Capabilities and Plans
----

namespace IntelligenceNetwork

/- Large tensors and checkpoints are artifacts that these records refer to. -/
inductive V4SupportLevel where
  | supported
  | experimental
  | unsupported
  deriving DecidableEq

inductive V4AcceleratorFamily where
  | cpu
  | cuda
  | rocm
  | metal

inductive V4NumericalFormat where
  | f32
  | f64
  | f16
  | bf16
  | i8

structure V4AcceleratorCapability where
  family : V4AcceleratorFamily
  deviceModel : String
  deviceCount : UInt16
  memoryBytes : UInt64
  formats : List V4NumericalFormat
  (runtime runtimeVersion : String)
  physicalVerified : Bool

structure V4WorkerCapability where
  node : NodeId
  accelerator : V4AcceleratorCapability
  memoryBytes : UInt64
  (computeUnits rttMs bandwidthMbps : UInt32)
  reliabilityPermille : UInt16
  backends : List BackendCapabilities

inductive V4ParallelismStrategy where
  | localSgd
  | tensorParallel
  | pipelineParallel
  | hybrid
  deriving DecidableEq

inductive V4ShardLifecycle where
  | assigned
  | transferring
  | verified
  | active
  | replicating
  | draining
  | retired
  | failed
  deriving DecidableEq

structure V4AggregationGroup where
  groupId : UInt16
  members : List NodeId
  aggregator : NodeId
  parent : Option NodeId
  deriving DecidableEq

/- Who owns one shard, and in which stage of its life. -/
structure V4ShardOwnership where
  shardId : UInt16
  modelGeneration : UInt64
  (owners replicas : List NodeId)
  ownershipGeneration : UInt64
  contentHash : ArtifactId
  (stateBytes memoryBytes : UInt64)
  runtimeRequirement : String
  lifecycle : V4ShardLifecycle
  deriving DecidableEq

inductive DataLocality where
  | localOnly
  | selective
  | streamable

/- A versioned plan for a distributed job. -/
structure V4TrainingPlan where
  jobId : JobId
  proposer : NodeId
  (planGeneration modelGeneration trainingEpoch membershipEpoch coordinationTerm : UInt64)
  branch : ArtifactId
  strategy : V4ParallelismStrategy
  support : V4SupportLevel
  workers : List NodeId
  groups : List V4AggregationGroup
  shards : List V4ShardOwnership
  (tensorDegree pipelineStages localSteps maxStaleness checkpointReplication : UInt16)
  dataLocality : DataLocality
  accelerator : Option V4AcceleratorCapability
  workerCapabilities : List V4WorkerCapability
  rationale : String
  planHash : ArtifactId
  parentPlanHash : Option ArtifactId
  computeRequirements : List ComputeRequirements
  backendAssignments : List BackendAssignment

----
-- State Records
----

inductive V4TrainingPhase where
  | planned
  | running
  | reconfiguring
  | paused
  | committed
  | failed

structure V4TrainingStateRecord where
  jobId : JobId
  coordinator : NodeId
  planHash : ArtifactId
  (planGeneration trainingEpoch membershipEpoch coordinationTerm optimizerGeneration : UInt64)
  checkpointGeneration : UInt64
  branch : ArtifactId
  phase : V4TrainingPhase
  workers : List NodeId
  shards : List V4ShardOwnership
  dataProgress : List UInt64
  checkpoint : Option ArtifactId
  stateHash : ArtifactId

inductive V4StateAckKind where
  | trainingState
  | optimizerShard
  | checkpoint
  deriving DecidableEq

structure V4OptimizerShardRecord where
  jobId : JobId
  (planGeneration modelGeneration optimizerGeneration : UInt64)
  shardId : UInt16
  owner : NodeId
  replicas : List NodeId
  contentHash : ArtifactId
  stateBytes : UInt64
  stateHash : ArtifactId

structure V4CheckpointRecord where
  jobId : JobId
  (planGeneration modelGeneration optimizerGeneration membershipEpoch : UInt64)
  checkpointGeneration : UInt64
  branch : ArtifactId
  parent : Option ArtifactId
  shardHashes : List ArtifactId
  providers : List NodeId
  complete : Bool
  manifestHash : ArtifactId
  deriving DecidableEq

structure V4StateAck where
  jobId : JobId
  (planGeneration generation : UInt64)
  kind : V4StateAckKind
  stateHash : ArtifactId
  accepted : Bool

----
-- Shard Migration
----

inductive V4ShardMigrationPhase where
  | prepare
  | commit
  | abort
  deriving DecidableEq

structure V4ShardMigration where
  jobId : JobId
  planGeneration : UInt64
  shardId : UInt16
  (fromNode toNode : NodeId)
  ownershipGeneration : UInt64
  contentHash : ArtifactId
  state : List UInt8
  phase : V4ShardMigrationPhase

structure V4ShardMigrationAck where
  jobId : JobId
  planGeneration : UInt64
  shardId : UInt16
  owner : NodeId
  ownershipGeneration : UInt64
  contentHash : ArtifactId
  verified : Bool
  phase : V4ShardMigrationPhase

/- A proposer asks the owner to start the transfer of the bytes to the target. -/
structure V4ShardMigrationRequest where
  (requestId jobId : JobId)
  proposer : NodeId
  proposalHash : ArtifactId
  planGeneration : UInt64
  shardId : UInt16
  (fromNode toNode : NodeId)
  ownershipGeneration : UInt64
  contentHash : ArtifactId
  replyTo : NodeId

structure V4ShardMigrationResult where
  (requestId jobId : JobId)
  planGeneration : UInt64
  shardId : UInt16
  (fromNode toNode : NodeId)
  ownershipGeneration : UInt64
  contentHash : ArtifactId
  accepted : Bool
  reason : String

structure V4PlanProposalAck where
  jobId : JobId
  planGeneration : UInt64
  proposalHash : ArtifactId
  accepted : Bool
  reason : String

structure V4PlanAck where
  jobId : JobId
  planGeneration : UInt64
  planHash : ArtifactId
  accepted : Bool
  reason : String

----
-- Tensor Parallelism
----

structure V4TensorInstall where
  jobId : JobId
  (planGeneration modelGeneration : UInt64)
  (shardId rows cols rowOffset : UInt16)
  weights : List Int
  stateHash : ArtifactId

structure V4TensorInstallAck where
  jobId : JobId
  planGeneration : UInt64
  shardId : UInt16
  stateHash : ArtifactId
  accepted : Bool

structure V4TensorForward where
  (requestId jobId : JobId)
  (planGeneration modelGeneration : UInt64)
  shardId : UInt16
  sequence : UInt64
  input : List Int

structure V4TensorForwardResult where
  (requestId jobId : JobId)
  planGeneration : UInt64
  shardId : UInt16
  sequence : UInt64
  output : List Int
  stateHash : ArtifactId

structure V4TensorBackward where
  (requestId jobId : JobId)
  (planGeneration modelGeneration : UInt64)
  shardId : UInt16
  sequence : UInt64
  (input upstream : List Int)
  learningRateMicros : Int

structure V4TensorBackwardResult where
  (requestId jobId : JobId)
  planGeneration : UInt64
  shardId : UInt16
  sequence : UInt64
  (weightGradient inputGradient : List Int)
  stateHash : ArtifactId
  stateGeneration : UInt64
  optimizerStateHash : Option ArtifactId
  optimizerStateGeneration : UInt64

----
-- Pipeline Parallelism
----

structure V4PipelineInstall where
  jobId : JobId
  planGeneration : UInt64
  (stageId stageCount : UInt16)
  (coefficient bias : Int)
  stateHash : ArtifactId

structure V4PipelineInstallAck where
  jobId : JobId
  planGeneration : UInt64
  stageId : UInt16
  stateHash : ArtifactId
  accepted : Bool

structure V4PipelineForward where
  (requestId jobId : JobId)
  planGeneration : UInt64
  (stageId stageCount : UInt16)
  microbatch : UInt32
  activation : List Int
  nextStage : Option NodeId
  replyTo : NodeId
  deadlineMs : UInt64

structure V4PipelineForwardResult where
  (requestId jobId : JobId)
  planGeneration : UInt64
  microbatch : UInt32
  stageId : UInt16
  activation : List Int
  stateHash : ArtifactId

structure V4PipelineBackward where
  (requestId jobId : JobId)
  planGeneration : UInt64
  (stageId stageCount : UInt16)
  microbatch : UInt32
  gradient : List Int
  previousStage : Option NodeId
  replyTo : NodeId
  deadlineMs : UInt64

structure V4PipelineBackwardResult where
  (requestId jobId : JobId)
  planGeneration : UInt64
  microbatch : UInt32
  stageId : UInt16
  gradient : List Int
  stateHash : ArtifactId

----
-- Collectives, Branches and Robust Aggregation
----

structure V4CollectiveContribute where
  (requestId jobId : JobId)
  (planGeneration generation : UInt64)
  groupId : UInt16
  (contributor aggregator : NodeId)
  parent : Option NodeId
  (expectedContributors expectedGroups : UInt16)
  values : List Int
  replyTo : NodeId

structure V4CollectiveAggregate where
  (requestId jobId : JobId)
  (planGeneration generation : UInt64)
  groupId : UInt16
  aggregator : NodeId
  values : List Int
  (contributors expectedGroups : UInt16)
  replyTo : NodeId

structure V4CollectiveResult where
  (requestId jobId : JobId)
  (planGeneration generation : UInt64)
  values : List Int
  (groupCount maxFanIn : UInt16)
  (contributorBytes rootReceivedBytes : UInt64)

structure V4TrainingBranch where
  jobId : JobId
  branch : ArtifactId
  (parentGeneration modelGeneration optimizerGeneration datasetProgress planGeneration : UInt64)
  createdBy : NodeId

inductive V4ReconciliationPolicy where
  | abortBranch
  | selectBranch
  | averageCompatibleState
  | mergeLocalSgdState
  | manualOperatorRequired

structure V4ReconcileRequest where
  (requestId jobId : JobId)
  planGeneration : UInt64
  (left right : V4TrainingBranch)
  policy : V4ReconciliationPolicy
  (leftValue rightValue : Int)

structure V4ReconcileResult where
  (requestId jobId : JobId)
  planGeneration : UInt64
  accepted : Bool
  branch : Option ArtifactId
  mergedValue : Option Int
  reason : String

inductive V4ByzantinePolicy where
  | mean
  | clippedMean
  | trimmedMean
  | coordinateMedian
  deriving DecidableEq

structure V4ByzantineUpdate where
  (requestId jobId : JobId)
  (planGeneration generation : UInt64)
  (worker aggregator : NodeId)
  sequence : UInt64
  values : List Int
  policy : V4ByzantinePolicy
  expectedUpdates : UInt16
  replyTo : NodeId

structure V4ByzantineResult where
  (requestId jobId : JobId)
  (planGeneration generation : UInt64)
  policy : V4ByzantinePolicy
  aggregate : List Int
  (acceptedWorkers rejectedWorkers : List NodeId)
  robust : Bool

----
-- Execution Graphs
----

/- The graph binds all roles of a job to one version and holds no tensors. -/
structure V4TensorGroup where
  groupId : UInt16
  members : List NodeId
  shardIds : List UInt16
  generation : UInt64
  deriving DecidableEq

structure V4PipelineStageAssignment where
  stageId : UInt16
  worker : NodeId
  replicas : List NodeId
  generation : UInt64
  deriving DecidableEq

structure V4OptimizerPlacement where
  shardId : UInt16
  owner : NodeId
  replicas : List NodeId
  generation : UInt64
  deriving DecidableEq

/- The durable execution graph of an integrated job. -/
structure V4ExecutionGraph where
  jobId : JobId
  graphGeneration : UInt64
  parentGraphGeneration : Option UInt64
  (proposer coordinator replyTo : NodeId)
  (planHash branch : ArtifactId)
  (trainingEpoch membershipEpoch coordinationTerm optimizerGeneration : UInt64)
  checkpointGeneration : UInt64
  (workers retiredWorkers : List NodeId)
  tensorGroups : List V4TensorGroup
  pipelineStages : List V4PipelineStageAssignment
  aggregationGroups : List V4AggregationGroup
  shards : List V4ShardOwnership
  optimizerShards : List V4OptimizerPlacement
  collectiveGeneration : UInt64
  (localSteps maxStaleness checkpointReplication : UInt16)
  strategy : V4ParallelismStrategy
  electionCertificate : List NodeId
  backendAssignments : List BackendAssignment
  graphHash : ArtifactId
  deriving DecidableEq

----
-- Integrated Jobs
----

inductive V4IntegratedPhase where
  | preparing
  | running
  | reconfiguring
  | partitioned
  | committed
  | failed
  deriving DecidableEq

structure V4IntegratedStateRecord where
  jobId : JobId
  graphGeneration : UInt64
  (planHash branch : ArtifactId)
  coordinator : NodeId
  phase : V4IntegratedPhase
  (window targetWindows : UInt64)
  (initialLossMicros currentLossMicros : Int)
  (checkpointGeneration modelGeneration optimizerGeneration membershipEpoch : UInt64)
  collectiveGeneration : UInt64
  recoveryCount : UInt32
  stateHash : ArtifactId

structure V4IntegratedStart where
  requestId : JobId
  graph : V4ExecutionGraph
  plan : V4TrainingPlan
  (windows checkpointEvery : UInt64)
  replyTo : NodeId

structure V4IntegratedAck where
  jobId : JobId
  graphGeneration : UInt64
  worker : NodeId
  accepted : Bool
  reason : String

structure V4IntegratedStateAck where
  jobId : JobId
  graphGeneration : UInt64
  stateHash : ArtifactId
  worker : NodeId
  accepted : Bool

/- A probe has a request id of its own, which no old acknowledgement answers. -/
structure V4IntegratedProbe where
  (requestId jobId : JobId)
  graphGeneration : UInt64
  (graphHash stateHash : ArtifactId)
  requester : NodeId

structure V4IntegratedProbeAck where
  (requestId jobId : JobId)
  graphGeneration : UInt64
  responder : NodeId
  accepted : Bool

structure V4IntegratedElectionRequest where
  (requestId jobId : JobId)
  graphGeneration : UInt64
  (graphHash branch stateHash : ArtifactId)
  term : UInt64
  candidate : NodeId

structure V4IntegratedElectionVote where
  jobId : JobId
  graphGeneration : UInt64
  graphHash : ArtifactId
  term : UInt64
  (candidate voter : NodeId)
  granted : Bool
  reason : String

structure V4IntegratedResult where
  (requestId jobId : JobId)
  (graphGeneration windowsCompleted : UInt64)
  (initialLossMicros finalLossMicros : Int)
  (tensorSteps pipelineSteps collectiveRounds checkpointGenerations : UInt64)
  (graphReconfigurations coordinatorReplacements shardRecoveries tensorRecoveries : UInt64)
  (pipelineRecoveries optimizerRecoveries checkpointRecoveries : UInt64)
  maxUpdateFanin : UInt16
  (allUpdatesToOneCoordinator singleOptimizerAuthority singleCheckpointAuthority : Bool)
  (globalStepBarrier modelMustFitOneWorker targetReached branchReconciled : Bool)
  phase : V4IntegratedPhase
  (backendTasks backendReplans backendFallbacks : UInt64)
  backendPortableCheckpoint : Bool

/- One bounded shard, sent over the authenticated transport. -/
structure V4TensorReplica where
  jobId : JobId
  (planGeneration modelGeneration : UInt64)
  (shardId rows cols rowOffset : UInt16)
  weights : List Int
  stateHash : ArtifactId
  (stateGeneration lastSequence ownershipGeneration : UInt64)
  source : NodeId

structure V4TensorReplicaAck where
  jobId : JobId
  planGeneration : UInt64
  shardId : UInt16
  stateHash : ArtifactId
  stateGeneration : UInt64
  accepted : Bool

/- The optimizer state of a shard, apart from the record of its placement. -/
structure V4OptimizerStateInstall where
  jobId : JobId
  (planGeneration modelGeneration optimizerGeneration : UInt64)
  shardId : UInt16
  values : List Int
  stateHash : ArtifactId
  (stateGeneration sequence lastSequence : UInt64)
  source : NodeId

structure V4OptimizerStateAck where
  jobId : JobId
  (planGeneration optimizerGeneration : UInt64)
  shardId : UInt16
  stateHash : ArtifactId
  stateGeneration : UInt64
  accepted : Bool

----
-- Version 4 Messages
----

inductive TrainingV4Message where
  | plan (content : V4TrainingPlan)
  | stateRecord (content : V4TrainingStateRecord)
  | optimizerShard (content : V4OptimizerShardRecord)
  | checkpointRecord (content : V4CheckpointRecord)
  | stateAck (content : V4StateAck)
  | shardMigration (content : V4ShardMigration)
  | shardMigrationAck (content : V4ShardMigrationAck)
  | tensorInstall (content : V4TensorInstall)
  | tensorInstallAck (content : V4TensorInstallAck)
  | tensorForward (content : V4TensorForward)
  | tensorForwardResult (content : V4TensorForwardResult)
  | tensorBackward (content : V4TensorBackward)
  | tensorBackwardResult (content : V4TensorBackwardResult)
  | pipelineInstall (content : V4PipelineInstall)
  | pipelineInstallAck (content : V4PipelineInstallAck)
  | pipelineForward (content : V4PipelineForward)
  | pipelineForwardResult (content : V4PipelineForwardResult)
  | pipelineBackward (content : V4PipelineBackward)
  | pipelineBackwardResult (content : V4PipelineBackwardResult)
  | collectiveContribute (content : V4CollectiveContribute)
  | collectiveAggregate (content : V4CollectiveAggregate)
  | collectiveResult (content : V4CollectiveResult)
  | branch (content : V4TrainingBranch)
  | reconcile (content : V4ReconcileRequest)
  | reconcileResult (content : V4ReconcileResult)
  | byzantineUpdate (content : V4ByzantineUpdate)
  | byzantineResult (content : V4ByzantineResult)
  | planAck (content : V4PlanAck)
  | planProposal (content : V4TrainingPlan)
  | planProposalAck (content : V4PlanProposalAck)
  | shardMigrationRequest (content : V4ShardMigrationRequest)
  | shardMigrationResult (content : V4ShardMigrationResult)
  | integratedStart (content : V4IntegratedStart)
  | integratedAck (content : V4IntegratedAck)
  | integratedState (content : V4IntegratedStateRecord)
  | integratedStateAck (content : V4IntegratedStateAck)
  | integratedElectionRequest (content : V4IntegratedElectionRequest)
  | integratedElectionVote (content : V4IntegratedElectionVote)
  | integratedResult (content : V4IntegratedResult)
  | tensorReplica (content : V4TensorReplica)
  | tensorReplicaAck (content : V4TensorReplicaAck)
  | optimizerStateInstall (content : V4OptimizerStateInstall)
  | optimizerStateAck (content : V4OptimizerStateAck)
  | integratedProbe (content : V4IntegratedProbe)
  | integratedProbeAck (content : V4IntegratedProbeAck)

end IntelligenceNetwork
