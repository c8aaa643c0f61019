import IntelligenceNetwork.Lib.Ballots
import IntelligenceNetwork.Protocol.Validation.Message
import IntelligenceNetwork.Security.LocalState

/-
  What a node keeps for one integrated training job.

  The entries of one job are one record, which a node has
  twice: in memory and in its state directory.  Beside them
  stands what the node is doing for the job.

  Main declarations:
    * `Digests`
    * `JobRecords`
    * `Member`
-/

----
-- Limits and Errors
----

namespace IntelligenceNetwork.Frontier

def v4MaxWorkers : Nat := 16
def v4MaxStateBytes : Nat := 64 * 1024
def v4CheckpointHistory : Nat := 2
def v4TakeoverMissesRequired : UInt8 := 3
def v4StragglerFailuresRequired : UInt8 := 2
def v4JoinCooldownWindows : UInt64 := 1

inductive NodeError where
  | invalidConfig (detail : String)
  | storage
  | network
  deriving DecidableEq

def NodeError.ofValidation (error : ValidationError) : NodeError :=
  .invalidConfig error.text

def NodeError.ofSecurity (error : Security.SecurityError) : NodeError :=
  .invalidConfig error.text

----
-- Hashes
----

section

/- One durable vote per job and term. -/
structure V4IntegratedElectionRecord where
  jobId : JobId
  graphGeneration : UInt64
  graphHash : ArtifactId
  term : UInt64
  candidate : NodeId
  voteHash : ArtifactId

structure V4LocalDataShard where
  jobId : JobId
  shardId : UInt16
  (planGeneration ownershipGeneration : UInt64)
  hash : ArtifactId
  bytes : List UInt8
  deriving DecidableEq

/-
  The content hashes of the records: BLAKE3 over an encoding
  of the record.  Nothing here depends on more than that they
  are functions.
-/
structure Digests where
  bytes : List UInt8 → ArtifactId
  plan : V4TrainingPlan → ArtifactId
  graph : V4ExecutionGraph → ArtifactId
  state : V4IntegratedStateRecord → ArtifactId
  election : V4IntegratedElectionRecord → ArtifactId
  checkpoint : V4CheckpointRecord → ArtifactId
  trainingState : V4TrainingStateRecord → ArtifactId
  optimizerShard : V4OptimizerShardRecord → ArtifactId
  tensor : UInt16 → UInt16 → UInt16 → List Int → ArtifactId
  branch : JobId → ArtifactId → UInt64 → NodeId → Option NodeId → ArtifactId

variable (digests : Digests)

/- A record is hashed with its own hash field cleared. -/
def hashPlan (plan : V4TrainingPlan) : ArtifactId :=
  digests.plan { plan with planHash := default }

def executionGraphHash (graph : V4ExecutionGraph) : ArtifactId :=
  digests.graph { graph with graphHash := default }

def integratedStateHash (state : V4IntegratedStateRecord) : ArtifactId :=
  digests.state { state with stateHash := default }

def integratedElectionHash (record : V4IntegratedElectionRecord) : ArtifactId :=
  digests.election { record with voteHash := default }

def checkpointHash (checkpoint : V4CheckpointRecord) : ArtifactId :=
  digests.checkpoint { checkpoint with manifestHash := default }

def trainingStateHash (state : V4TrainingStateRecord) : ArtifactId :=
  digests.trainingState { state with stateHash := default }

def optimizerShardHash (shard : V4OptimizerShardRecord) : ArtifactId :=
  digests.optimizerShard { shard with stateHash := default }

def nextIntegratedBranch (oldGraph : V4ExecutionGraph) (proposer : NodeId)
    (failed : Option NodeId) : ArtifactId :=
  digests.branch oldGraph.jobId oldGraph.branch oldGraph.graphGeneration proposer failed

def V4IntegratedStateRecord.hashed (state : V4IntegratedStateRecord) : V4IntegratedStateRecord :=
  { state with stateHash := integratedStateHash digests state }

end

----
-- The Records of One Job
----

structure JobRecords where
  plan : Option V4TrainingPlan
  graph : Option V4ExecutionGraph
  state : Option V4IntegratedStateRecord
  election : Option V4IntegratedElectionRecord
  trainingState : Option V4TrainingStateRecord
  checkpoints : Std.TreeMap UInt64 V4CheckpointRecord
  optimizerShards : Std.TreeMap UInt16 V4OptimizerShardRecord
  dataShards : Std.TreeMap UInt16 V4LocalDataShard

def JobRecords.empty : JobRecords where
  plan := none
  graph := none
  state := none
  election := none
  trainingState := none
  checkpoints := ∅
  optimizerShards := ∅
  dataShards := ∅

----
-- What a Node Does for a Job
----

/- The graph, plan and state a task works with. -/
structure Snapshot where
  graph : V4ExecutionGraph
  plan : V4TrainingPlan
  state : V4IntegratedStateRecord

structure Participant where
  (windows checkpointEvery : UInt64)
  coordinatorMisses : UInt8

/- A candidate that waits for votes; no vote counts twice. -/
structure Candidacy where
  snapshot : Snapshot
  term : UInt64
  votes : List NodeId
  pending : Finset NodeId

inductive ParticipantStage where
  | waiting
  | probing (snapshot : Snapshot)
  | electing (candidacy : Candidacy)

structure DriverCounts where
  tensorSteps : UInt64 := 0
  pipelineSteps : UInt64 := 0
  collectiveRounds : UInt64 := 0
  checkpointGenerations : UInt64 := 0
  graphReconfigurations : UInt64 := 0
  coordinatorReplacements : UInt64 := 0
  shardRecoveries : UInt64 := 0
  tensorRecoveries : UInt64 := 0
  pipelineRecoveries : UInt64 := 0
  optimizerRecoveries : UInt64 := 0
  checkpointRecoveries : UInt64 := 0
  maxUpdateFanin : UInt16 := 0
  branchReconciled : Bool := false

/- The local variables of a driver. -/
structure Driver where
  snapshot : Snapshot
  (windows checkpointEvery window joinAllowedAfterWindow : UInt64)
  roundTimeoutStreak : UInt8
  (initialLoss currentLoss : Int)
  counts : DriverCounts

/- What a tensor round leaves: loss, hashes and steps. -/
structure TensorRound where
  loss : Int
  (tensorHashes optimizerHashes : Std.TreeMap UInt16 ArtifactId)
  steps : UInt64

inductive RoundKind where
  | tensor
  | pipeline
  | collective

/-
  Where a driver waits.  A number in an activation is the
  attempts that are left to it, this one included; the first
  activation of a driver has a single attempt and no number.
-/
inductive Stage where
  | activating (attempts : Option Nat) (pending : Finset NodeId)
  | acknowledging (attempts : Option Nat)
  | installing (attempts : Option Nat)
  | activationFailed (attempts : Nat) (error : NodeError)
  | windowHead
  | probing
  | tensorRound
  | pipelineRound (tensor : TensorRound)
  | collectiveRound (tensor : TensorRound)
  | roundFailed (round : RoundKind)
  | checkpointing (checkpoint : V4CheckpointRecord) (pending : Finset NodeId)
  | checkpointFailed

/-
  The job's mailbox belongs to one task.  A driver that a
  participant became hands the mailbox back when it fails.
-/
inductive Task where
  | none
  | controller
  | participant (participant : Participant) (stage : ParticipantStage)
  | driving (driver : Driver) (stage : Stage) (within : Option Participant)

def Task.running : Task → Bool
| .none => false
| _ => true

/- A node, as far as one job is concerned. -/
structure Member where
  (security storedSecurity : Security.LocalSecurityState)
  (held stored : JobRecords)
  task : Task
  resuming : Bool

def Member.new (policy : Security.SecurityPolicy) : Member where
  security := .new policy
  storedSecurity := .new policy
  held := .empty
  stored := .empty
  task := .none
  resuming := false

----
-- Effects
----

/-
  What a node does to the outside, and marks of what it has
  done that no message shows.  A graph that is `drafted` is on
  disk only.  A manifest is `offered` by the driver that made
  it and `kept` by a provider.
-/
inductive Effect where
  | send (target : NodeId) (message : TrainingV4Message)
  | voted (record : V4IntegratedElectionRecord)
  | elected (graph : V4ExecutionGraph) (term : UInt64) (certificate : List NodeId)
  | adopted (graph : V4ExecutionGraph)
  | drafted (graph : V4ExecutionGraph)
  | reconfigured (parent child : V4ExecutionGraph)
  | recorded (state : V4IntegratedStateRecord)
  | activated (graph : V4ExecutionGraph)
  | started (graph : V4ExecutionGraph)
  | offered (checkpoint : V4CheckpointRecord)
  | kept (checkpoint : V4CheckpointRecord)
  | committed (window : UInt64) (checkpoint : V4CheckpointRecord)
  | finished (result : V4IntegratedResult)

/- A handler's or a task's outcome. -/
structure Handled (α : Type) where
  member : Member
  effects : List Effect
  result : Except NodeError α

end IntelligenceNetwork.Frontier
