import IntelligenceNetwork.Lib.OrderedMap
import IntelligenceNetwork.Lib.Saturating
import IntelligenceNetwork.Protocol.Training
import Mathlib.Data.List.Sort

/-
  The state of one training job on one node.

  The mailbox, the result channel and the start time are not
  part of it: what arrives, and when, is given from outside.

  Main declarations:
    * `Context`
    * `Digest`
    * `restoreTrainingPeer`
-/

----
-- Contexts
----

namespace IntelligenceNetwork.Training

inductive Role where
  | worker
  | coordinator
  deriving DecidableEq

structure Context where
  start : TrainingStart
  role : Role
  coordinator : NodeId
  (term window checkpointGeneration : UInt64)
  checkpoint : Option ArtifactId
  finalCheckpointCommitted : Bool
  assignment : TrainingShardAssignment
  (value optimizer : Int)
  generation : UInt64
  samples : List TrainingSample
  branch : ArtifactId
  failed : Finset NodeId
  votedTerm : UInt64
  votedCandidate : Option NodeId
  shardSummaries : Std.TreeMap UInt16 TrainingShardSummary
  checkpoints : List ArtifactId
  checkpointProviders : Std.TreeMap ArtifactId (List NodeId)
  (acceptedUpdates rejectedUpdates stragglers : UInt64)
  groupProgress : Std.TreeMap UInt16 UInt64
  groupCompletionOrder : List UInt16
  nonBarrierProgressObserved : Bool
  shardValues : Std.TreeMap UInt16 (Int × Int)
  initialLoss : Int

/- What a job's mailbox delivers. -/
inductive V3Inbound where
  | message (peer : NodeId) (message : TrainingMessage)
  | peerDisconnected (peer : NodeId)
  deriving DecidableEq

inductive NodeError where
  | invalidConfig (reason : String)
  | network
  | storage
  deriving DecidableEq

----
-- Digests
----

/-
  Content hashes of serialized records.  Both the hash and the
  serializer are libraries of their own.
-/
structure Digest where
  branchHash : JobId → ArtifactId
  planHash : List NodeId → List TrainingGroup → List TrainingShardAssignment →
    UInt64 → UInt16 → UInt64 → ArtifactId
  stateHash : JobId → UInt16 → UInt64 → Int → Int → ArtifactId
  manifestHash : TrainingCheckpointManifest → ArtifactId
  shardStateHash : TrainingShardState → ArtifactId

/- The hash of a manifest leaves its own hash field out. -/
def checkpointHash (digest : Digest) (manifest : TrainingCheckpointManifest) : ArtifactId :=
  digest.manifestHash { manifest with hash := default }

/- The state carries the hash of its own contents. -/
def shardStateIntact (digest : Digest) (state : TrainingShardState) : Bool :=
  digest.stateHash state.jobId state.shardId state.generation state.value state.optimizer ==
    state.stateHash

----
-- The Reference Model
----

section

open Saturating

def trainingScale : Int := 1000000

/- The largest aggregate a group may report. -/
def v3MaxDelta : Int := 10 * trainingScale

def samplesForShard (shardId : UInt16) : List TrainingSample :=
  let target : Int := if shardId == 0 then 2 else 3
  [1, 2, 3, 4, 5, 6, 7, 8].map (fun feature => ⟨feature, target * feature⟩)

/- How far the model misses one sample. -/
def sampleError (value : Int) (sample : TrainingSample) : Int :=
  clampI64 (clampI64 (value * sample.feature) - sample.target)

/- The sum is not checked, so it wraps; its terms saturate. -/
def samplesLoss (value : Int) (samples : List TrainingSample) : Int :=
  if samples.isEmpty then
    0
  else
    (wrapI64 ((samples.map
      (fun sample => clampI64 (sampleError value sample * sampleError value sample))).sum)).tdiv
      samples.length

def gradientSum (value : Int) (samples : List TrainingSample) : Int :=
  samples.foldl
    (fun sum sample => clampI64 (sum + clampI64 (sampleError value sample * sample.feature))) 0

/- One step moves the value and remembers the gradient. -/
def localStep (samples : List TrainingSample) (state : Int × Int) : Int × Int :=
  let gradient := (gradientSum state.1 samples).tdiv (max samples.length 1)
  let delta := (gradient * 50000).tdiv trainingScale
  (clampI64 (state.1 - delta), gradient)

/- The middle of the sorted values. -/
def median (values : List Int) : Int :=
  (values.insertionSort (· ≤ ·)).getD (values.length / 2) 0

end

----
-- A New Context
----

def initialSummary (shard : TrainingShardAssignment) : TrainingShardSummary where
  shardId := shard.shardId
  generation := shard.generation
  stateHash := shard.stateHash
  providers := shard.replicas

section

variable (start : TrainingStart)

/-
  A worker materializes only its own shard; the coordinator
  keeps one small value for each.
-/
def initialShardValues (role : Role) : Std.TreeMap UInt16 (Int × Int) :=
  match role with
  | .coordinator =>
    OrderedMap.insertAll TrainingShardAssignment.shardId
      (fun _ => (start.initialValue, start.initialOptimizer)) ∅ start.shards
  | .worker =>
    (∅ : Std.TreeMap UInt16 (Int × Int)).insert start.assignment.shardId
      (start.initialValue, start.initialOptimizer)

def Context.new (role : Role) : Context where
  start := start
  role := role
  coordinator := start.coordinator
  term := start.term
  window := 0
  checkpointGeneration := 0
  checkpoint := none
  finalCheckpointCommitted := false
  assignment := start.assignment
  value := start.initialValue
  optimizer := start.initialOptimizer
  generation := start.assignment.generation
  samples := start.samples
  branch := start.branch
  failed := ∅
  votedTerm := start.term
  votedCandidate := none
  shardSummaries := OrderedMap.insertAll TrainingShardAssignment.shardId
    initialSummary ∅ start.shards
  checkpoints := []
  checkpointProviders := ∅
  acceptedUpdates := 0
  rejectedUpdates := 0
  stragglers := 0
  groupProgress := OrderedMap.insertAll TrainingGroup.groupId (fun _ => 0) ∅ start.groups
  groupCompletionOrder := []
  nonBarrierProgressObserved := false
  shardValues := initialShardValues start role
  initialLoss := Saturating.wrapI64 ((start.shards.map (fun shard =>
    samplesLoss 0 (samplesForShard shard.shardId))).sum)

/- The coordination state that a context announces. -/
def Context.state (context : Context) : TrainingState where
  jobId := context.start.jobId
  coordinator := context.coordinator
  term := context.term
  membershipEpoch := context.start.membershipEpoch
  branch := context.branch
  window := context.window
  checkpointGeneration := context.checkpointGeneration
  checkpoint := context.checkpoint
  shards := context.shardSummaries.values

----
-- Questions About a Job
----

def quorum (size : Nat) : Nat := size / 2 + 1

/- How many commits a whole run makes, rounding up. -/
def finalCheckpointGeneration : UInt64 :=
  Saturating.add start.maxWindows (Saturating.sub start.checkpointEvery 1) / start.checkpointEvery

def stateCoversFinalModel (state : TrainingState) : Bool :=
  state.window ≥ start.maxWindows && state.checkpointGeneration ≥ finalCheckpointGeneration start &&
    start.shards.all (fun expected =>
      (state.shards.find? (fun actual => actual.shardId == expected.shardId)).any
        (fun actual => actual.generation ≥ start.maxWindows))

def contextCoversFinalModel (context : Context) : Bool :=
  context.finalCheckpointCommitted && context.window ≥ context.start.maxWindows &&
    context.checkpointGeneration ≥ finalCheckpointGeneration context.start &&
    context.start.shards.all (fun expected =>
      context.shardSummaries[expected.shardId]?.any (fun actual =>
        actual.generation ≥ context.start.maxWindows))

def groupFor (groupId : UInt16) : Option TrainingGroup :=
  start.groups.find? (fun group => group.groupId == groupId)

end

/- Who holds an aggregate's shard, its aggregator first. -/
def providers (aggregate : TrainingAggregate) : List NodeId :=
  aggregate.replicas.foldl (fun providers provider =>
    if providers.contains provider then providers else providers ++ [provider])
    [aggregate.aggregator]

/-
  A training peer whose session closed counts as restored when
  another session serves it or a new one can be made.  Only a
  new one counts for the coordinator.
-/
def restoreTrainingPeer (connected reconnected : Bool) (context : Context)
    (peer : NodeId) : Context × Bool :=
  if peer ≠ context.start.coordinator ∧ peer ∉ context.start.participants then
    (context, false)
  else if (peer ≠ context.coordinator ∧ connected) ∨ reconnected then
    ({ context with failed := context.failed.erase peer }, true)
  else
    (context, false)

end IntelligenceNetwork.Training
