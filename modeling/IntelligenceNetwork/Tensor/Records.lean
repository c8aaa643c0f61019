import IntelligenceNetwork.Frontier.Job
import IntelligenceNetwork.Tensor.Compute

/-
  The model state that a worker of an integrated job holds.

  Tensor shards, optimizer states and pipeline stages are kept
  in maps, and each record of a map in a file of its own.

  Main declarations:
    * `V4LocalTensorShard`
    * `V4LocalOptimizerState`
    * `TensorNode`
-/

----
-- Keys
----

namespace IntelligenceNetwork.Tensor

open Frontier

/- A shard, or a pipeline stage, of a job. -/
structure ShardKey where
  jobId : JobId
  shardId : UInt16
  deriving DecidableEq

def ShardKey.order : ShardKey → ShardKey → Ordering :=
  compareLex (compareOn ShardKey.jobId) (compareOn ShardKey.shardId)

instance : Ord ShardKey := ⟨ShardKey.order⟩

instance : Std.TransOrd ShardKey :=
  inferInstanceAs (Std.TransCmp (compareLex _ _))

instance : Std.LawfulEqOrd ShardKey where
  eq_of_compare := by
    intro a b hEq
    have hOrder : ShardKey.order a b = .eq := hEq
    simp only [ShardKey.order, compareLex_eq_eq, compareOn] at hOrder
    cases a
    cases b
    simp_all

----
-- Records
----

structure V4LocalTensorShard where
  jobId : JobId
  (planGeneration modelGeneration : UInt64)
  (shardId rows cols rowOffset : UInt16)
  weights : List Int
  stateHash : ArtifactId
  (stateGeneration lastSequence : UInt64)
  deriving DecidableEq

structure V4LocalOptimizerState where
  jobId : JobId
  (planGeneration modelGeneration optimizerGeneration : UInt64)
  shardId : UInt16
  values : List Int
  stateHash : ArtifactId
  (stateGeneration lastSequence : UInt64)
  deriving DecidableEq

structure V4LocalPipelineStage where
  jobId : JobId
  planGeneration : UInt64
  (stageId stageCount : UInt16)
  (coefficient bias : Int)
  stateHash : ArtifactId

/- The files of a record are named after its key. -/
def V4LocalTensorShard.key (shard : V4LocalTensorShard) : ShardKey :=
  ⟨shard.jobId, shard.shardId⟩

def V4LocalOptimizerState.key (state : V4LocalOptimizerState) : ShardKey :=
  ⟨state.jobId, state.shardId⟩

def V4LocalPipelineStage.key (stage : V4LocalPipelineStage) : ShardKey :=
  ⟨stage.jobId, stage.stageId⟩

----
-- Integrity
----

section

/- The hashes of a job's records and of its model state. -/
structure StateDigests extends Frontier.Digests where
  optimizerState : V4LocalOptimizerState → ArtifactId
  pipeline : Int → Int → ArtifactId

variable (digests : StateDigests)

def tensorHash (weights : List Int) (rows cols rowOffset : UInt16) : ArtifactId :=
  digests.tensor rows cols rowOffset weights

/-
  The hash binds the content and the lineage of a state, but
  neither its source nor the number of the message.
-/
def optimizerStateHash (install : V4OptimizerStateInstall) : ArtifactId :=
  digests.optimizerState
    { jobId := install.jobId
      planGeneration := install.planGeneration
      modelGeneration := install.modelGeneration
      optimizerGeneration := install.optimizerGeneration
      shardId := install.shardId
      values := install.values
      stateHash := default
      stateGeneration := install.stateGeneration
      lastSequence := install.lastSequence }

def pipelineHash (coefficient bias : Int) : ArtifactId :=
  digests.pipeline coefficient bias

def validLocalTensorShard (shard : V4LocalTensorShard) : Bool :=
  shard.planGeneration > 0 && shard.modelGeneration > 0 && shard.rows > 0 && shard.cols > 0 &&
    shard.rows.toNat * shard.cols.toNat == shard.weights.length &&
    shard.weights.length ≤ maxV4Vector * maxV4Vector &&
    shard.rowOffset.toNat + shard.rows.toNat ≤ maxV4Vector && shard.weights.all (fun weight =>
      weight.natAbs ≤ maxMagnitude) &&
    tensorHash digests shard.weights shard.rows shard.cols shard.rowOffset == shard.stateHash

def validLocalOptimizerState (state : V4LocalOptimizerState) : Bool :=
  if state.planGeneration == 0 || state.modelGeneration == 0 || state.optimizerGeneration == 0 ||
    state.stateGeneration == 0 || state.values.isEmpty || state.values.length > maxV4Vector ||
    state.values.any (fun value =>
      value.natAbs > maxMagnitude) then
    false
  else
    digests.optimizerState { state with stateHash := default } == state.stateHash

/- What a valid tensor shard satisfies, as propositions. -/
structure ShardFacts (shard : V4LocalTensorShard) : Prop where
  plan : 0 < shard.planGeneration
  model : 0 < shard.modelGeneration
  rows : 0 < shard.rows
  cols : 0 < shard.cols
  shape : shard.rows.toNat * shard.cols.toNat = shard.weights.length
  size : shard.weights.length ≤ maxV4Vector * maxV4Vector
  placed : shard.rowOffset.toNat + shard.rows.toNat ≤ maxV4Vector
  bounded : ∀ weight ∈ shard.weights, weight.natAbs ≤ maxMagnitude
  intact : tensorHash digests shard.weights shard.rows shard.cols shard.rowOffset = shard.stateHash

theorem validLocalTensorShard_iff (shard : V4LocalTensorShard) :
    validLocalTensorShard digests shard = true ↔ ShardFacts digests shard := by
  simp only [validLocalTensorShard, Bool.and_eq_true,
    decide_eq_true_eq, beq_iff_eq, List.all_eq_true]
  constructor
  · rintro ⟨⟨⟨⟨⟨⟨⟨⟨hPlan, hModel⟩, hRows⟩, hCols⟩, hShape⟩, hSize⟩, hPlaced⟩, hBounded⟩, hIntact⟩
    exact ⟨hPlan, hModel, hRows, hCols, hShape, hSize, hPlaced, hBounded, hIntact⟩
  · intro hFacts
    exact ⟨⟨⟨⟨⟨⟨⟨⟨hFacts.plan, hFacts.model⟩, hFacts.rows⟩,
      hFacts.cols⟩, hFacts.shape⟩, hFacts.size⟩, hFacts.placed⟩, hFacts.bounded⟩, hFacts.intact⟩

end

----
-- Nodes
----

open Frontier (NodeError)

/- The part of a node that serves the model state. -/
structure TensorNode where
  plans : Std.TreeMap JobId V4TrainingPlan := ∅
  graphs : Std.TreeMap JobId V4ExecutionGraph := ∅
  shards : Std.TreeMap ShardKey V4LocalTensorShard := ∅
  shardFiles : Std.TreeMap ShardKey V4LocalTensorShard := ∅
  optimizers : Std.TreeMap ShardKey V4LocalOptimizerState := ∅
  optimizerFiles : Std.TreeMap ShardKey V4LocalOptimizerState := ∅
  stages : Std.TreeMap ShardKey V4LocalPipelineStage := ∅
  stageFiles : Std.TreeMap ShardKey V4LocalPipelineStage := ∅

/- What a call meets outside: the backend, the disk, the net. -/
structure TensorEnv where
  computed : Bool := true
  shardWritten : Bool := true
  optimizerWritten : Bool := true
  stageWritten : Bool := true
  reached : NodeId → Bool := fun _ => true

/- Nothing fails outside. -/
def usualEnv : TensorEnv := {}

/- What a call leaves, sends and returns. -/
structure Outcome (α : Type) where
  node : TensorNode
  sends : List (NodeId × TrainingV4Message)
  result : Except NodeError α

def refuse {α : Type} (node : TensorNode) (error : NodeError) : Outcome α :=
  ⟨node, [], .error error⟩

def refuseWith {α : Type} (node : TensorNode) (detail : String) : Outcome α :=
  refuse node (.invalidConfig detail)

/- Answer the peer, which may be out of reach. -/
def answer (env : TensorEnv) (node : TensorNode) (peer : NodeId)
    (message : TrainingV4Message) : Outcome Unit :=
  if env.reached peer then
    ⟨node, [(peer, message)], .ok ()⟩
  else
    refuseWith node "V4 control response could not reach peer"

section

variable (node : TensorNode) (key : ShardKey)

/- The map and the file of a shard, written together. -/
def putShard (shard : V4LocalTensorShard) : TensorNode :=
  { node with
    shards := node.shards.insert key shard
    shardFiles := node.shardFiles.insert shard.key shard }

def putOptimizer (state : V4LocalOptimizerState) : TensorNode :=
  { node with
    optimizers := node.optimizers.insert key state
    optimizerFiles := node.optimizerFiles.insert state.key state }

def putStage (stage : V4LocalPipelineStage) : TensorNode :=
  { node with
    stages := node.stages.insert key stage
    stageFiles := node.stageFiles.insert stage.key stage }

end

----
-- Authorization
----

variable (digests : StateDigests) (self : NodeId)

section

variable (node : TensorNode) (peer : NodeId) (jobId : JobId) (planGeneration : UInt64)

/- The plan under which its proposer may ask for an operation. -/
def authorizedReferencePlan : Except NodeError V4TrainingPlan :=
  match node.plans[jobId]? with
  | none => .error (.invalidConfig "V4 operation has no active plan")
  | some plan =>
    if plan.proposer != peer || plan.planGeneration != planGeneration ||
      !plan.workers.contains self || plan.planHash != hashPlan digests.toDigests plan ||
      !(Validation.v4Plan plan).isOk then
      .error (.invalidConfig "V4 operation is not authorized by the active plan")
    else
      .ok plan

/- The active graph and its plan, for a node of a graph. -/
def authorizedIntegratedPipelineContext :
    Except NodeError (Option (V4TrainingPlan × V4ExecutionGraph)) :=
  match node.graphs[jobId]? with
  | none => .ok none
  | some graph =>
    match node.plans[jobId]? with
    | none => .error (.invalidConfig "integrated V4 operation has no active graph plan")
    | some plan =>
      if graph.graphGeneration > 0 && graph.graphHash ==
        executionGraphHash digests.toDigests graph &&
        graph.planHash == plan.planHash && plan.planGeneration == planGeneration &&
        plan.planHash == hashPlan digests.toDigests plan &&
        (Validation.v4Plan plan).isOk && (Validation.v4ExecutionGraph graph).isOk &&
        graph.proposer == graph.coordinator && plan.proposer == graph.coordinator &&
        graph.workers.contains self && graph.workers.contains peer &&
        plan.workers == graph.workers then
        .ok (some (plan, graph))
      else
        .error (.invalidConfig "integrated V4 operation is not authorized by graph generation")

end

----
-- A Small Model
----

/- Hashes that tell different contents of small runs apart. -/
def contentDigest (values : List Int) (salt : Nat) : ArtifactId :=
  ⟨BitVec.ofNat 256 (values.foldl (fun sum value => 1000 * sum + value.natAbs) (salt + 1))⟩

def modelDigests : StateDigests where
  toDigests :=
    { smallDigests with
      tensor := fun rows cols offset weights =>
        contentDigest weights (rows.toNat + 10 * cols.toNat + 100 * offset.toNat) }
  optimizerState := fun state =>
    contentDigest state.values (state.planGeneration.toNat + 10 * state.stateGeneration.toNat +
      100 * state.lastSequence.toNat)
  pipeline := fun coefficient bias =>
    contentDigest [coefficient, bias] 0

/- The job that node 9 orders from the workers 1 to 4. -/
theorem modelStart_built : (buildIntegratedStart modelDigests.toDigests ⟨9⟩
    smallPlan 2 1).toOption.isSome := by
  decide +kernel

def modelStart : V4IntegratedStart :=
  (buildIntegratedStart modelDigests.toDigests ⟨9⟩
    smallPlan 2 1).toOption.get modelStart_built

/- A worker that has stored the graph and the plan. -/
def modelWorker : TensorNode where
  plans := (∅ : Std.TreeMap JobId V4TrainingPlan).insert ⟨7⟩ modelStart.plan
  graphs := (∅ : Std.TreeMap JobId V4ExecutionGraph).insert ⟨7⟩ modelStart.graph

/- A shard of the model and its optimizer, before any step. -/
def modelShard (shardId : UInt16) (weights : List Int) : V4LocalTensorShard where
  jobId := ⟨7⟩
  planGeneration := 1
  modelGeneration := 1
  shardId := shardId
  rows := 2
  cols := 4
  rowOffset := 2 * shardId
  weights := weights
  stateHash := tensorHash modelDigests weights 2 4 (2 * shardId)
  stateGeneration := 1
  lastSequence := 0

def modelOptimizer (shardId : UInt16) : V4LocalOptimizerState where
  jobId := ⟨7⟩
  planGeneration := 1
  modelGeneration := 1
  optimizerGeneration := 1
  shardId := shardId
  values := [0, 0, 0, 0, 0, 0, 0, 0]
  stateHash := contentDigest [0, 0, 0, 0, 0, 0, 0, 0] 11
  stateGeneration := 1
  lastSequence := 0

end IntelligenceNetwork.Tensor
