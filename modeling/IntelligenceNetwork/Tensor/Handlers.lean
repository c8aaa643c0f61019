import IntelligenceNetwork.Tensor.Records

/-
  The handlers of the model state of an integrated job.

  A shard is installed with its first weights, promoted into a
  later plan generation, replaced by a newer replica, or stepped
  against a gradient by its owner.  Optimizer states follow
  their shards, and pipeline stages are constant.

  Main declarations:
    * `receiveTensorInstall`
    * `receiveTensorReplica`
    * `receiveTensorBackward`
-/

----
-- Calls
----

namespace IntelligenceNetwork.Tensor

open OrderedMap
open Frontier (NodeError checked)

variable {node : TensorNode} (digests : StateDigests) (self : NodeId)

def v4MaxTensorShards : Nat := 256
def v4MaxPipelineStages : Nat := 256

/- Go on with what a call has returned, unless it failed. -/
def Outcome.andThen {α β : Type} (outcome : Outcome α)
    (next : TensorNode → α → Outcome β) : Outcome β :=
  match outcome.result with
  | .error error => ⟨outcome.node, outcome.sends, .error error⟩
  | .ok value =>
    let later := next outcome.node value
    ⟨later.node, outcome.sends ++ later.sends, later.result⟩

/- What holds where a call stops holds where all of it stops. -/
theorem Outcome.andThen_node {α β : Type} {P : TensorNode → Prop} {outcome : Outcome α}
    {next : TensorNode → α → Outcome β} (hFirst : P outcome.node)
    (hNext : ∀ value, P (next outcome.node value).node) : P (outcome.andThen next).node := by
  unfold Outcome.andThen
  cases outcome.result with
  | error error => exact hFirst
  | ok value => exact hNext value

@[simp] theorem answer_node {env : TensorEnv} {peer : NodeId} {message : TrainingV4Message} :
    (answer env node peer message).node = node := by
  unfold answer
  cases env.reached peer <;> rfl

def failIf (condition : Bool) (detail : String) : Except NodeError Unit :=
  if condition then .error (.invalidConfig detail) else .ok ()

theorem failIf_eq_ok_iff (condition : Bool) (detail : String) (value : Unit) :
    failIf condition detail = .ok value ↔ condition = false := by
  cases condition with
  | true | false => simp [failIf]

section

variable (env : TensorEnv) (node : TensorNode) (key : ShardKey)

/- Write the file of a shard, and then its entry in the map. -/
def storeShard (shard : V4LocalTensorShard) : Outcome Unit :=
  if env.shardWritten then ⟨putShard node key shard, [], .ok ()⟩ else refuse node .storage

def storeOptimizer (state : V4LocalOptimizerState) : Outcome Unit :=
  if env.optimizerWritten then ⟨putOptimizer node key state, [], .ok ()⟩ else refuse node .storage

def storeStage (stage : V4LocalPipelineStage) : Outcome Unit :=
  if env.stageWritten then ⟨putStage node key stage, [], .ok ()⟩ else refuse node .storage

end

----
-- Installing Shards
----

/- The record that an install describes. -/
def firstShard (install : V4TensorInstall) : V4LocalTensorShard where
  jobId := install.jobId
  planGeneration := install.planGeneration
  modelGeneration := install.modelGeneration
  shardId := install.shardId
  rows := install.rows
  cols := install.cols
  rowOffset := install.rowOffset
  weights := install.weights
  stateHash := install.stateHash
  stateGeneration := 1
  lastSequence := 0

/- Two records of the same part of the same model. -/
def sameLayout (existing other : V4LocalTensorShard) : Bool :=
  existing.modelGeneration == other.modelGeneration && existing.rows == other.rows &&
    existing.cols == other.cols && existing.rowOffset == other.rowOffset

/- A record moved into a later plan generation. -/
def promoteShard (existing : V4LocalTensorShard) (planGeneration : UInt64) : V4LocalTensorShard :=
  { existing with planGeneration := planGeneration }

section

variable (env : TensorEnv) (node : TensorNode) (install : V4TensorInstall)

def installFirstShard : Outcome Unit :=
  let shard := firstShard install
  if validLocalTensorShard digests shard then
    storeShard env node shard.key shard
  else
    refuseWith node "integrated V4 local tensor shard is invalid"

def installLocalTensorShard : Outcome Unit :=
  let key : ShardKey := ⟨install.jobId, install.shardId⟩
  match node.shards[key]? with
  | none => installFirstShard digests env node install
  | some existing =>
    if existing.planGeneration > install.planGeneration then
      refuseWith node "stale tensor shard install would regress the active plan generation"
    else if sameLayout existing (firstShard install) &&
      existing.planGeneration ≤ install.planGeneration &&
      (existing.stateGeneration > 1 || existing.stateHash != install.stateHash) &&
      validLocalTensorShard digests existing then
      storeShard env node key (promoteShard existing install.planGeneration)
    else
      installFirstShard digests env node install

end

def isTensorStrategy (strategy : V4ParallelismStrategy) : Bool :=
  strategy == .tensorParallel || strategy == .hybrid

def isPipelineStrategy (strategy : V4ParallelismStrategy) : Bool :=
  strategy == .pipelineParallel || strategy == .hybrid

/- The shard is one that the plan gives to this node. -/
def ownsShard (plan : V4TrainingPlan) (shardId : UInt16) (modelGeneration : UInt64) : Bool :=
  plan.shards.any (fun shard =>
    shard.shardId == shardId && shard.modelGeneration == modelGeneration &&
      shard.owners.contains self)

def tensorInstallCheck (node : TensorNode) (peer : NodeId)
    (install : V4TensorInstall) : Except NodeError Unit := do
  checked (Validation.v4TensorInstall install)
  failIf (tensorHash digests install.weights install.rows install.cols
    install.rowOffset != install.stateHash)
    "V4 tensor shard integrity check failed"
  let plan ← authorizedReferencePlan digests self node peer install.jobId install.planGeneration
  failIf (!isTensorStrategy plan.strategy || plan.tensorDegree != 2 ||
    plan.modelGeneration != install.modelGeneration ||
    !ownsShard self plan install.shardId install.modelGeneration)
    "V4 tensor install is not authorized for this plan shard"

def tensorInstallAck (install : V4TensorInstall) (stateHash : ArtifactId) : TrainingV4Message :=
  .tensorInstallAck
    { jobId := install.jobId
      planGeneration := install.planGeneration
      shardId := install.shardId
      stateHash := stateHash
      accepted := true }

def receiveTensorInstall (env : TensorEnv) (node : TensorNode) (peer : NodeId)
    (install : V4TensorInstall) : Outcome Unit :=
  match tensorInstallCheck digests self node peer install with
  | .error error => refuse node error
  | .ok () =>
    let key : ShardKey := ⟨install.jobId, install.shardId⟩
    match node.shards[key]? with
    | some existing =>
      if existing.planGeneration == install.planGeneration &&
        sameLayout existing (firstShard install) && existing.weights == install.weights &&
        existing.stateHash == install.stateHash then
        answer env node peer (tensorInstallAck install install.stateHash)
      else if existing.planGeneration < install.planGeneration &&
        sameLayout existing (firstShard install) && validLocalTensorShard digests existing then
        -- a verified replica keeps the weights it has learned
        (storeShard env node key (promoteShard existing install.planGeneration)).andThen
          (fun node _ => answer env node peer (tensorInstallAck install existing.stateHash))
      else
        refuseWith node "V4 tensor shard conflicts with existing state"
    | none =>
      if node.shards.size ≥ v4MaxTensorShards then
        refuseWith node "V4 tensor shard entry limit reached"
      else
        (storeShard env node (firstShard install).key (firstShard install)).andThen
          (fun node _ => answer env node peer (tensorInstallAck install install.stateHash))

----
-- Replicas of Shards
----

/- The record that a replica message describes. -/
def incomingShard (replica : V4TensorReplica) : V4LocalTensorShard where
  jobId := replica.jobId
  planGeneration := replica.planGeneration
  modelGeneration := replica.modelGeneration
  shardId := replica.shardId
  rows := replica.rows
  cols := replica.cols
  rowOffset := replica.rowOffset
  weights := replica.weights
  stateHash := replica.stateHash
  stateGeneration := replica.stateGeneration
  lastSequence := replica.lastSequence

/- The plan has this node keep a copy that the source has. -/
def replicaPlaced (plan : V4TrainingPlan) (replica : V4TensorReplica) : Bool :=
  plan.shards.any (fun shard =>
    shard.shardId == replica.shardId && shard.modelGeneration == replica.modelGeneration &&
      shard.ownershipGeneration ≤ replica.ownershipGeneration && shard.replicas.contains self &&
      (shard.owners.contains replica.source || shard.replicas.contains replica.source))

section

variable (node : TensorNode) (peer : NodeId) (replica : V4TensorReplica)

/- The active plan lets the peer send this copy. -/
def replicaPlanCheck : Except NodeError Unit :=
  match node.plans[replica.jobId]? with
  | none => .error (.invalidConfig "V4 replica plan is unavailable")
  | some plan =>
    failIf (!isTensorStrategy plan.strategy || plan.planGeneration != replica.planGeneration ||
      plan.tensorDegree != 2 || !plan.workers.contains self || !plan.workers.contains peer ||
      !plan.workers.contains replica.source || !replicaPlaced self plan replica)
      "V4 tensor replica is not authorized by the active plan"

def tensorReplicaCheck : Except NodeError Unit := do
  checked (Validation.v4TensorReplica replica)
  failIf (tensorHash digests replica.weights replica.rows replica.cols
    replica.rowOffset != replica.stateHash)
    "V4 tensor replica integrity check failed"
  replicaPlanCheck self node peer replica
  failIf (!validLocalTensorShard digests (incomingShard replica))
    "V4 tensor replica shape or bounds are invalid"

end

/-
  A verified state that is newer than the incoming one, such as
  when a reconfiguration sends the first weights again.
-/
def keepsNewer (existing incoming : V4LocalTensorShard) : Bool :=
  existing.stateGeneration > incoming.stateGeneration && sameLayout existing incoming &&
    validLocalTensorShard digests existing

/- Another state of the same generation. -/
def conflicts (existing incoming : V4LocalTensorShard) : Bool :=
  existing.stateGeneration == incoming.stateGeneration && existing.stateHash != incoming.stateHash

def tensorReplicaAck (replica : V4TensorReplica) (accepted : Bool) : TrainingV4Message :=
  .tensorReplicaAck
    { jobId := replica.jobId
      planGeneration := replica.planGeneration
      shardId := replica.shardId
      stateHash := replica.stateHash
      stateGeneration := replica.stateGeneration
      accepted := accepted }

section

variable (env : TensorEnv) (node : TensorNode) (peer : NodeId) (replica : V4TensorReplica)

/- The file of an accepted replica is written after the map. -/
def acceptReplica : Outcome Unit :=
  let incoming := incomingShard replica
  if env.shardWritten then
    answer env { node with shardFiles := node.shardFiles.insert incoming.key incoming }
      peer (tensorReplicaAck replica true)
  else
    refuse node .storage

def takeReplica (node : TensorNode) (replica : V4TensorReplica) : TensorNode :=
  let incoming := incomingShard replica
  { node with shards := node.shards.insert incoming.key incoming }

def receiveTensorReplica : Outcome Unit :=
  match tensorReplicaCheck digests self node peer replica with
  | .error error => refuse node error
  | .ok () =>
    let incoming := incomingShard replica
    match node.shards[incoming.key]? with
    | none => acceptReplica env (takeReplica node replica) peer replica
    | some existing =>
      if keepsNewer digests existing incoming then
        acceptReplica env node peer replica
      else if conflicts existing incoming then
        answer env node peer (tensorReplicaAck replica false)
      else
        acceptReplica env (takeReplica node replica) peer replica

end

----
-- Optimizer States
----

/- The record that an optimizer install describes. -/
def incomingOptimizer (install : V4OptimizerStateInstall) : V4LocalOptimizerState where
  jobId := install.jobId
  planGeneration := install.planGeneration
  modelGeneration := install.modelGeneration
  optimizerGeneration := install.optimizerGeneration
  shardId := install.shardId
  values := install.values
  stateHash := install.stateHash
  stateGeneration := install.stateGeneration
  lastSequence := install.lastSequence

/-
  A local value moved into a newer graph or optimizer
  generation.  The lineage is part of the hash.
-/
def promoteOptimizerState (existing : V4LocalOptimizerState) (install : V4OptimizerStateInstall) :
    V4LocalOptimizerState :=
  let promoted : V4OptimizerStateInstall :=
    { jobId := existing.jobId
      planGeneration := max existing.planGeneration install.planGeneration
      modelGeneration := existing.modelGeneration
      optimizerGeneration := max existing.optimizerGeneration install.optimizerGeneration
      shardId := existing.shardId
      values := existing.values
      stateHash := default
      stateGeneration := max existing.stateGeneration install.stateGeneration
      sequence := max (max existing.lastSequence install.lastSequence) 1
      lastSequence := max existing.lastSequence install.lastSequence
      source := default }
  incomingOptimizer { promoted with stateHash := optimizerStateHash digests promoted }

def installLocalOptimizerState (env : TensorEnv) (node : TensorNode)
    (install : V4OptimizerStateInstall) : Outcome Unit :=
  let key : ShardKey := ⟨install.jobId, install.shardId⟩
  let first :=
    if validLocalOptimizerState digests (incomingOptimizer install) then
      storeOptimizer env node key (incomingOptimizer install)
    else
      refuseWith node "V4 local optimizer state is invalid"
  match node.optimizers[key]? with
  | none => first
  | some existing =>
    if existing.modelGeneration != install.modelGeneration ||
      existing.values.length != install.values.length then
      refuseWith node "V4 local optimizer state conflicts with model shard"
    else if existing.stateGeneration ≥ install.stateGeneration then
      storeOptimizer env node key (promoteOptimizerState digests existing install)
    else
      first

/- The roles that the graph gives to the nodes of an install. -/
def optimizerInstallPlaced (plan : V4TrainingPlan) (placement : V4OptimizerPlacement)
    (peer : NodeId) (install : V4OptimizerStateInstall) : Bool :=
  (placement.owner == install.source || placement.replicas.contains install.source) &&
    (placement.owner == self || placement.replicas.contains self) &&
    (peer == plan.proposer || peer == install.source || placement.owner == peer ||
      placement.replicas.contains peer)

section

variable (node : TensorNode) (peer : NodeId) (install : V4OptimizerStateInstall)

/- The active graph lets the peer send this state. -/
def optimizerPlanCheck : Except NodeError Unit :=
  match node.plans[install.jobId]? with
  | none => .error (.invalidConfig "V4 optimizer plan is unavailable")
  | some plan =>
    match node.graphs[install.jobId]? with
    | none => .error (.invalidConfig "V4 optimizer graph is unavailable")
    | some graph =>
      match graph.optimizerShards.find? (·.shardId == install.shardId) with
      | none => .error (.invalidConfig "V4 optimizer placement is unavailable")
      | some placement =>
        failIf (plan.strategy != .hybrid || graph.graphGeneration == 0 || plan.planGeneration !=
          install.planGeneration || plan.planHash != graph.planHash ||
          !(Validation.v4Plan plan).isOk || placement.generation != install.optimizerGeneration ||
          !optimizerInstallPlaced self plan placement peer install ||
          !plan.workers.contains self || !plan.workers.contains peer ||
          !plan.workers.contains install.source)
          "V4 optimizer state is not authorized by the active graph"

def optimizerInstallCheck : Except NodeError Unit := do
  checked (Validation.v4OptimizerStateInstall install)
  failIf (optimizerStateHash digests install != install.stateHash)
    "V4 optimizer state integrity check failed"
  optimizerPlanCheck self node peer install
  failIf (node.shards[(⟨install.jobId, install.shardId⟩ : ShardKey)]?.any (fun model =>
    model.weights.length != install.values.length))
    "V4 optimizer state does not match model shard"

end

def optimizerStateAck (install : V4OptimizerStateInstall) (stateHash : ArtifactId)
    (accepted : Bool) : TrainingV4Message :=
  .optimizerStateAck
    { jobId := install.jobId
      planGeneration := install.planGeneration
      optimizerGeneration := install.optimizerGeneration
      shardId := install.shardId
      stateHash := stateHash
      stateGeneration := install.stateGeneration
      accepted := accepted }

/-
  Whether a state is accepted, and what replaces the one there
  is; `none` if the two have different lineages.
-/
def optimizerVerdict (current : Option V4LocalOptimizerState) (install : V4OptimizerStateInstall) :
    Option (Bool × Option V4LocalOptimizerState) :=
  let incoming := incomingOptimizer install
  match current with
  | none => some (true, some incoming)
  | some current =>
    if current.modelGeneration != incoming.modelGeneration ||
      current.values.length != incoming.values.length then
      none
    else if current.stateGeneration > incoming.stateGeneration then
      some (true, none)
    else if current.stateGeneration == incoming.stateGeneration then
      if current.stateHash == incoming.stateHash then
        some (true, none)
      else if (incoming.planGeneration > current.planGeneration || incoming.optimizerGeneration >
        current.optimizerGeneration) && validLocalOptimizerState digests current then
        some (true, some (promoteOptimizerState digests current install))
      else
        some (false, none)
    else
      some (true, some incoming)

def receiveOptimizerStateInstall (env : TensorEnv) (node : TensorNode) (peer : NodeId)
    (install : V4OptimizerStateInstall) : Outcome Unit :=
  match optimizerInstallCheck digests self node peer install with
  | .error error => refuse node error
  | .ok () =>
    let key : ShardKey := ⟨install.jobId, install.shardId⟩
    match optimizerVerdict digests node.optimizers[key]? install with
    | none => refuseWith node "V4 optimizer state conflicts with model lineage"
    | some (accepted, replacement) =>
      let stored : Outcome Unit :=
        match replacement with
        | none => ⟨node, [], .ok ()⟩
        | some state => storeOptimizer env node key state
      stored.andThen (fun node _ =>
        answer env node peer (optimizerStateAck install
          ((node.optimizers[key]?.map (·.stateHash)).getD install.stateHash) accepted))

----
-- Optimizer Steps
----

/- The placement of a shard's optimizer on this node. -/
def optimizerPlacement (node : TensorNode) (graph : V4ExecutionGraph) (jobId : JobId)
    (shardId : UInt16) : Except NodeError (V4OptimizerPlacement × UInt64) :=
  if graph.planHash != (node.plans[jobId]?.map (·.planHash)).getD default then
    .error (.invalidConfig "integrated optimizer graph is not bound to the active plan")
  else
    match graph.optimizerShards.find? (·.shardId == shardId) with
    | none => .error (.invalidConfig "integrated optimizer placement is missing")
    | some placement =>
      if placement.owner != self then
        .error (.invalidConfig "only the current optimizer owner may apply a shard update")
      else
        match graph.shards.find? (·.shardId == shardId) with
        | none => .error (.invalidConfig "integrated optimizer model shard is missing")
        | some shard => .ok (placement, shard.modelGeneration)

/- The state that a step leaves, as the replicas receive it. -/
def nextOptimizer (placement : V4OptimizerPlacement) (modelGeneration : UInt64)
    (existing : Option V4LocalOptimizerState) (jobId : JobId) (planGeneration : UInt64)
    (shardId : UInt16) (gradients : List Int) (sequence : UInt64) : V4OptimizerStateInstall :=
  let values := (existing.map (·.values)).getD (List.replicate gradients.length 0)
  let install : V4OptimizerStateInstall :=
    { jobId := jobId
      planGeneration := planGeneration
      modelGeneration := modelGeneration
      optimizerGeneration := placement.generation
      shardId := shardId
      values := List.zipWith accumulate values gradients
      stateHash := default
      stateGeneration := Saturating.add ((existing.map (·.stateGeneration)).getD 1) 1
      sequence := sequence
      lastSequence := sequence
      source := self }
  { install with stateHash := optimizerStateHash digests install }

/-
  The step of an optimizer state, before anything is written.
  Outside of an integrated job there is none.
-/
def optimizerStep (node : TensorNode) (jobId : JobId) (planGeneration : UInt64) (shardId : UInt16)
    (gradients : List Int) (sequence : UInt64) :
    Except NodeError (Option (V4OptimizerPlacement × V4OptimizerStateInstall)) :=
  match node.graphs[jobId]? with
  | none => .ok none
  | some graph =>
    match optimizerPlacement self node graph jobId shardId with
    | .error error => .error error
    | .ok (placement, modelGeneration) =>
      let existing := node.optimizers[(⟨jobId, shardId⟩ : ShardKey)]?
      let install := nextOptimizer digests self placement modelGeneration
        existing jobId planGeneration shardId gradients sequence
      if existing.any (·.values.length != gradients.length) then
        .error (.invalidConfig "optimizer update does not match model shard state")
      else if existing.any (sequence ≤ ·.lastSequence) then
        .error (.invalidConfig "optimizer update sequence is stale or replayed")
      else if !validLocalOptimizerState digests (incomingOptimizer install) then
        .error (.invalidConfig "computed optimizer state failed local validation")
      else
        .ok (some (placement, install))

/- A step that is taken is in sequence, and leaves a valid state. -/
theorem optimizerStep_some {digests : StateDigests} {home : NodeId} {jobId : JobId}
    {planGeneration sequence : UInt64} {shardId : UInt16} {gradients : List Int}
    {placement : V4OptimizerPlacement} {install : V4OptimizerStateInstall}
    (hStep : optimizerStep digests home node jobId planGeneration shardId gradients sequence =
      .ok (some (placement, install))) :
    (∃ modelGeneration, install = nextOptimizer digests home placement modelGeneration
      node.optimizers[(⟨jobId, shardId⟩ : ShardKey)]? jobId planGeneration shardId gradients
      sequence) ∧ validLocalOptimizerState digests (incomingOptimizer install) = true ∧
    ∀ state, node.optimizers[(⟨jobId, shardId⟩ : ShardKey)]? = some state →
      state.lastSequence < sequence := by
  unfold optimizerStep at hStep
  cases hGraph : node.graphs[jobId]? with
  | none =>
    rw [hGraph] at hStep
    cases hStep
  | some graph =>
    rw [hGraph] at hStep
    dsimp only at hStep
    cases hPlacement : optimizerPlacement home node graph jobId shardId with
    | error error =>
      rw [hPlacement] at hStep
      cases hStep
    | ok found =>
      rw [hPlacement] at hStep
      dsimp only at hStep
      split_ifs at hStep with hLength hStale hValid
      cases hStep
      refine ⟨⟨found.2, rfl⟩, by simpa using hValid, fun state hState => ?_⟩
      rw [hState] at hStale
      simpa using hStale

section

variable (env : TensorEnv) (node : TensorNode)

/- Send a state to the replicas; one of them must be reached. -/
def replicateOptimizer (placement : V4OptimizerPlacement) (install : V4OptimizerStateInstall) :
    Outcome (Option (ArtifactId × UInt64)) :=
  let reached := placement.replicas.filter (fun replica => replica != self && env.reached replica)
  { node := node
    sends := reached.map (fun replica =>
      (replica, .optimizerStateInstall install))
    result :=
      if !placement.replicas.isEmpty && reached.isEmpty then
        .error (.invalidConfig "optimizer state has no reachable replica")
      else
        .ok (some (install.stateHash, install.stateGeneration)) }

def updateOptimizerStateAndReplicate (jobId : JobId)
    (planGeneration : UInt64) (shardId : UInt16) (gradients : List Int) (sequence : UInt64) :
    Outcome (Option (ArtifactId × UInt64)) :=
  match optimizerStep digests self node jobId planGeneration shardId gradients sequence with
  | .error error => refuse node error
  | .ok none => ⟨node, [], .ok none⟩
  | .ok (some (placement, install)) =>
    (storeOptimizer env node ⟨jobId, shardId⟩ (incomingOptimizer install)).andThen (fun node _ =>
      replicateOptimizer self env node placement install)

----
-- Forward and Backward
----

/- The backend may be out of memory, or its queue full. -/
def executeBackendTask (env : TensorEnv) (values : Option (List Int)) :
    Except NodeError (List Int) :=
  match values with
  | none => .error (.invalidConfig "backend task failed")
  | some values =>
    if env.computed then .ok values else .error (.invalidConfig "backend task failed")

def localTensorForward (jobId : JobId) (shardId : UInt16)
    (input : List Int) : Except NodeError (List Int) :=
  match node.shards[(⟨jobId, shardId⟩ : ShardKey)]? with
  | none => .error (.invalidConfig "local V4 tensor shard is unavailable")
  | some shard =>
    if !validLocalTensorShard digests shard || shard.cols.toNat != input.length then
      .error (.invalidConfig "local V4 tensor forward shape or integrity mismatch")
    else
      executeBackendTask env (matrixVector shard.rows shard.cols shard.weights input)

end

/- The shard that its coordinator asks this node to work on. -/
def ownedShard (node : TensorNode) (peer : NodeId) (jobId : JobId)
    (planGeneration modelGeneration : UInt64) (shardId : UInt16) (unauthorized : String) :
    Except NodeError (V4TrainingPlan × V4LocalTensorShard) := do
  let plan ← authorizedReferencePlan digests self node peer jobId planGeneration
  failIf (!isTensorStrategy plan.strategy || plan.tensorDegree != 2 ||
    plan.modelGeneration != modelGeneration || !ownsShard self plan shardId modelGeneration)
    unauthorized
  match node.shards[(⟨jobId, shardId⟩ : ShardKey)]? with
  | none => .error (.invalidConfig "V4 tensor shard is unavailable")
  | some shard => .ok (plan, shard)

section

variable (env : TensorEnv) (node : TensorNode) (peer : NodeId) (forward : V4TensorForward)

/- The output of a shard for the coordinator's input. -/
def forwardOutput : Except NodeError (V4LocalTensorShard × List Int) := do
  let (_, shard) ← ownedShard digests self node peer forward.jobId
    forward.planGeneration forward.modelGeneration forward.shardId
    "V4 tensor forward is not authorized for this plan shard"
  failIf (shard.planGeneration != forward.planGeneration ||
    shard.modelGeneration != forward.modelGeneration || shard.cols.toNat != forward.input.length)
    "V4 tensor forward generation or shape mismatch"
  let output ← executeBackendTask env
    (matrixVector shard.rows shard.cols shard.weights forward.input)
  .ok (shard, output)

def receiveTensorForward : Outcome Unit :=
  match forwardOutput digests self env node peer forward with
  | .error error => refuse node error
  | .ok (shard, output) =>
    answer env node peer (.tensorForwardResult
      { requestId := forward.requestId
        jobId := forward.jobId
        planGeneration := forward.planGeneration
        shardId := forward.shardId
        sequence := forward.sequence
        output := output
        stateHash := shard.stateHash })

end

section

variable (env : TensorEnv)

/- The gradients of a shard's weights and of its input. -/
def shardGradients (shard : V4LocalTensorShard) (upstream : List Int) :
    Except NodeError (List Int × List Int) := do
  let gradients ← executeBackendTask env
    (elementwiseMultiply shard.weights (repeatedUpstream shard.rows shard.cols upstream))
  let inputGradient ← executeBackendTask env
    (matrixTransposeVector shard.rows shard.cols shard.weights upstream)
  .ok (gradients, inputGradient)

/- A shard after one step with the given rate. -/
def steppedShard (rateMicros : Int) (shard : V4LocalTensorShard) (gradients : List Int)
    (sequence : UInt64) : V4LocalTensorShard :=
  let weights := List.zipWith (descend rateMicros) shard.weights gradients
  { shard with
    weights := weights
    stateGeneration := Saturating.add shard.stateGeneration 1
    lastSequence := sequence
    stateHash := tensorHash digests weights shard.rows shard.cols shard.rowOffset }

variable (node : TensorNode)

/-
  Step a shard and then its optimizer.  A step that has been
  taken before leaves both as they are.
-/
def stepShard (key : ShardKey) (rateMicros : Int)
    (jobId : JobId) (planGeneration : UInt64) (shardId : UInt16) (shard : V4LocalTensorShard)
    (gradients : List Int) (sequence : UInt64) :
    Outcome (V4LocalTensorShard × Option (ArtifactId × UInt64)) :=
  if sequence == shard.lastSequence then
    { node := node
      sends := []
      result := .ok (shard, node.optimizers[(⟨jobId, shardId⟩ : ShardKey)]?.map (fun state =>
        (state.stateHash, state.stateGeneration))) }
  else
    let stepped := steppedShard digests rateMicros shard gradients sequence
    (storeShard env node key stepped).andThen (fun node _ =>
      (updateOptimizerStateAndReplicate digests self env node jobId planGeneration shardId gradients
        sequence).andThen (fun node optimizer =>
          ⟨node, [], .ok (stepped, optimizer)⟩))

/- The answer to a backward request. -/
def backwardResult (requestId jobId : JobId) (planGeneration sequence : UInt64)
    (shard : V4LocalTensorShard) (shardId : UInt16) (gradients inputGradient : List Int)
    (optimizer : Option (ArtifactId × UInt64)) : V4TensorBackwardResult where
  requestId := requestId
  jobId := jobId
  planGeneration := planGeneration
  shardId := shardId
  sequence := sequence
  weightGradient := gradients
  inputGradient := inputGradient
  stateHash := shard.stateHash
  stateGeneration := shard.stateGeneration
  optimizerStateHash := optimizer.map (·.1)
  optimizerStateGeneration := (optimizer.map (·.2)).getD 0

section

variable (jobId : JobId) (planGeneration : UInt64) (spec : V4ShardOwnership) (sequence : UInt64)
variable (input upstream : List Int)

/- The shard of a local step, and its gradients. -/
def localBackwardGradients : Except NodeError (V4LocalTensorShard × List Int × List Int) := do
  match node.shards[(⟨jobId, spec.shardId⟩ : ShardKey)]? with
  | none => .error (.invalidConfig "local V4 tensor shard is unavailable")
  | some shard =>
    failIf
      (shard.planGeneration != planGeneration || shard.modelGeneration != spec.modelGeneration ||
        shard.cols.toNat != input.length || shard.rows.toNat != upstream.length)
      "local V4 tensor backward generation, shape, or sequence mismatch"
    failIf (sequence < shard.lastSequence) "local V4 tensor backward sequence is stale or replayed"
    let (gradients, inputGradient) ← shardGradients env shard upstream
    .ok (shard, gradients, inputGradient)

/-
  Integer weights round a small step away, so the local path
  takes a tenth of the gradient.
-/
def localRateMicros : Int := 100000

def localTensorBackward : Outcome V4TensorBackwardResult :=
  match localBackwardGradients env node jobId planGeneration spec sequence input upstream with
  | .error error => refuse node error
  | .ok (shard, gradients, inputGradient) =>
    (stepShard digests self env node ⟨jobId, spec.shardId⟩
      localRateMicros jobId planGeneration spec.shardId shard gradients sequence).andThen
      (fun node step =>
        ⟨node, [],
          .ok (backwardResult default jobId planGeneration sequence step.1 step.1.shardId gradients
            inputGradient step.2)⟩)

end

/- The shard of a requested step, its plan and its gradients. -/
def backwardGradients (peer : NodeId) (backward : V4TensorBackward) :
    Except NodeError (V4TrainingPlan × V4LocalTensorShard × List Int × List Int) := do
  let (plan, shard) ← ownedShard digests self node peer backward.jobId
    backward.planGeneration backward.modelGeneration backward.shardId
    "V4 tensor backward is not authorized for this plan shard"
  failIf (shard.planGeneration != backward.planGeneration ||
    shard.modelGeneration != backward.modelGeneration ||
    shard.cols.toNat != backward.input.length || shard.rows.toNat != backward.upstream.length)
    "V4 tensor backward generation or shape mismatch"
  failIf (backward.sequence < shard.lastSequence) "V4 tensor backward sequence is stale or replayed"
  let (gradients, inputGradient) ← shardGradients env shard backward.upstream
  .ok (plan, shard, gradients, inputGradient)

/- A shard as its owner sends it to a replica. -/
def replicaOf (shard : V4LocalTensorShard) (ownership : V4ShardOwnership) : V4TensorReplica where
  jobId := shard.jobId
  planGeneration := shard.planGeneration
  modelGeneration := shard.modelGeneration
  shardId := shard.shardId
  rows := shard.rows
  cols := shard.cols
  rowOffset := shard.rowOffset
  weights := shard.weights
  stateHash := shard.stateHash
  stateGeneration := shard.stateGeneration
  lastSequence := shard.lastSequence
  ownershipGeneration := ownership.ownershipGeneration
  source := self

/- The copies of a shard that its owner sends after a step. -/
def shardCopies (plan : V4TrainingPlan) (shard : V4LocalTensorShard) :
    List (NodeId × TrainingV4Message) :=
  match plan.shards.find? (·.shardId == shard.shardId) with
  | none => []
  | some ownership =>
    (ownership.replicas.filter (fun replica => replica != self && env.reached replica)).map
      (fun replica =>
        (replica, .tensorReplica (replicaOf self shard ownership)))

def receiveTensorBackward (peer : NodeId) (backward : V4TensorBackward) : Outcome Unit :=
  match backwardGradients digests self env node peer backward with
  | .error error => refuse node error
  | .ok (plan, shard, gradients, inputGradient) =>
    (stepShard digests self env node shard.key backward.learningRateMicros backward.jobId
      backward.planGeneration backward.shardId shard gradients backward.sequence).andThen
      (fun node step =>
        let copied : Outcome Unit := ⟨node, shardCopies self env plan step.1, .ok ()⟩
        copied.andThen (fun node _ =>
          answer env node peer (.tensorBackwardResult
            (backwardResult backward.requestId backward.jobId backward.planGeneration
              backward.sequence step.1 backward.shardId gradients inputGradient step.2))))

end

----
-- Pipeline Stages
----

/- The record that a pipeline install describes. -/
def incomingStage (install : V4PipelineInstall) : V4LocalPipelineStage where
  jobId := install.jobId
  planGeneration := install.planGeneration
  stageId := install.stageId
  stageCount := install.stageCount
  coefficient := install.coefficient
  bias := install.bias
  stateHash := install.stateHash

section

variable (node : TensorNode) (peer : NodeId) (install : V4PipelineInstall)

def pipelineInstallPlan : Except NodeError V4TrainingPlan := do
  let integrated ← authorizedIntegratedPipelineContext digests self node peer
    install.jobId install.planGeneration
  match integrated with
  | none => authorizedReferencePlan digests self node peer install.jobId install.planGeneration
  | some (plan, graph) =>
    failIf (!((graph.pipelineStages.find? (·.stageId == install.stageId)).any (fun stage =>
      (stage.worker == self || stage.replicas.contains self) && peer == graph.coordinator)))
      "integrated V4 pipeline install sender or stage target is unauthorized"
    .ok plan

def pipelineInstallCheck : Except NodeError Unit := do
  checked (Validation.v4PipelineInstall install)
  failIf (pipelineHash digests install.coefficient install.bias != install.stateHash)
    "V4 pipeline stage integrity check failed"
  let plan ← pipelineInstallPlan digests self node peer install
  failIf (!isPipelineStrategy plan.strategy || plan.pipelineStages != install.stageCount ||
    install.stageCount != 2 || install.stageId ≥ install.stageCount ||
    !plan.workers.contains self)
    "V4 pipeline install is not authorized for this plan stage"

end

def pipelineInstallAck (install : V4PipelineInstall) : TrainingV4Message :=
  .pipelineInstallAck
    { jobId := install.jobId
      planGeneration := install.planGeneration
      stageId := install.stageId
      stateHash := install.stateHash
      accepted := true }

/- Two records of the same stage. -/
def sameStage (existing other : V4LocalPipelineStage) : Bool :=
  existing.stageCount == other.stageCount && existing.coefficient == other.coefficient &&
    existing.bias == other.bias && existing.stateHash == other.stateHash

def receivePipelineInstall (env : TensorEnv) (node : TensorNode) (peer : NodeId)
    (install : V4PipelineInstall) : Outcome Unit :=
  match pipelineInstallCheck digests self node peer install with
  | .error error => refuse node error
  | .ok () =>
    let incoming := incomingStage install
    match node.stages[incoming.key]? with
    | some existing =>
      if existing.planGeneration == install.planGeneration && sameStage existing incoming then
        answer env node peer (pipelineInstallAck install)
      else if existing.planGeneration < install.planGeneration && sameStage existing incoming then
        (storeStage env node incoming.key
          { existing with planGeneration := install.planGeneration }).andThen (fun node _ =>
            answer env node peer (pipelineInstallAck install))
      else
        refuseWith node "V4 pipeline stage conflicts with existing state"
    | none =>
      if node.stages.size ≥ v4MaxPipelineStages then
        refuseWith node "V4 pipeline stage entry limit reached"
      else
        (storeStage env node incoming.key incoming).andThen (fun node _ =>
          answer env node peer (pipelineInstallAck install))

end IntelligenceNetwork.Tensor
