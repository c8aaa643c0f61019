import IntelligenceNetwork.Protocol.TrainingV4
import IntelligenceNetwork.Protocol.Validation.Basic

/-
  Checks on version 4 plans and execution graphs.

  Main declarations:
    * `v4Plan`
    * `planFacts_of_ok`
    * `v4ExecutionGraph`
    * `graphFacts_of_ok`
-/

----
-- Shared Checks
----

namespace IntelligenceNetwork.Validation

def v4NodeList (nodes : List NodeId) (field : String) (max : Nat) : Check := do
  rejectIf nodes.isEmpty (.empty field)
  rejectIf (nodes.length > max) (.tooMany field max)
  distinctNodes nodes field

def v4Vector (values : List Int) (field : String) : Check := do
  rejectIf values.isEmpty (.empty field)
  rejectIf (values.length > maxV4Vector) (.tooMany field maxV4Vector)
  rejectIf (values.any (fun value => value.natAbs > maxMagnitude)) (.invalid field)

theorem v4NodeList_eq_ok_iff {nodes : List NodeId} {field : String} {max : Nat} :
    v4NodeList nodes field max = .ok () ↔ nodes ≠ [] ∧ nodes.length ≤ max ∧ nodes.Nodup ∧
      ∀ node ∈ nodes, node ≠ default := by
  simp [v4NodeList, bind_eq_ok_iff, distinctNodes_eq_ok_iff]

theorem v4Vector_eq_ok_iff (values : List Int) (field : String) :
    v4Vector values field = .ok () ↔ values ≠ [] ∧ values.length ≤ maxV4Vector ∧
      ∀ value ∈ values, value.natAbs ≤ maxMagnitude := by
  simp [v4Vector, bind_eq_ok_iff]

def v4Hash (value : ArtifactId) (field : String) : Check :=
  artifactId value field

/- Every item is new to the set, and they are distinct. -/
def allInserted {α : Type} [DecidableEq α] (set items : List α) : Bool :=
  !repeats items && !items.any set.contains

/- Between two and the largest number of plan workers. -/
def workerCountOk (workers : List NodeId) : Bool :=
  2 ≤ workers.length && workers.length ≤ maxV4PlanWorkers

----
-- Backend Assignments
----

/- Whether a backend can run what a task requires. -/
def backendRuns (deviceIndex : UInt16) (requirements : ComputeRequirements)
    (backend : BackendCapabilities) : Bool :=
  !(!backend.runtimeAvailable || backend.health == .unavailable ||
    (backend.observedFailures > 0 && backend.observedSuccesses == 0) ||
    deviceIndex ≥ backend.deviceCount ||
    requirements.requiredFormats.any (fun format => !backend.formats.contains format) ||
    requirements.requiredMemoryBytes > Saturating.mul backend.availableMemoryBytes
      (UInt64.ofNat (1000 - backend.safetyMarginPermille.toNat)) / 1000 ||
    requirements.maxTensorElements > backend.maxTensorElements ||
    requirements.requiredFeatures.any (fun feature => !backend.features.contains feature))

def backendAssignment (value : BackendAssignment) (workers : List NodeId)
    (capabilities : List V4WorkerCapability) (field : String) : Check := do
  nodeId value.worker field
  rejectIf (!workers.contains value.worker || value.deviceIndex > 1024) (.invalid field)
  computeRequirements value.requirements field
  rejectIf (value.requirements.requiredBackend != some value.backend &&
    !value.requirements.allowedBackends.contains value.backend) (.invalid field)
  match capabilities.find? (fun worker => worker.node == value.worker) with
  | none => .error (.invalid field)
  | some worker =>
    match worker.backends.find? (fun backend => backend.kind == value.backend) with
    | none => .error (.invalid field)
    | some backend =>
      rejectIf (!backendRuns value.deviceIndex value.requirements backend) (.invalid field)

----
-- Plans
----

def strategyShapeValid (value : V4TrainingPlan) : Bool :=
  match value.strategy with
  | .localSgd => value.tensorDegree == 0 && value.pipelineStages == 0
  | .tensorParallel => value.tensorDegree ≥ 2 && value.pipelineStages == 0
  | .pipelineParallel => value.tensorDegree == 0 && value.pipelineStages == 2
  | .hybrid => value.tensorDegree == 2 && value.pipelineStages == 2

def supportMatchesStrategy (value : V4TrainingPlan) : Bool :=
  match value.strategy with
  | .localSgd => value.support == .supported
  | .tensorParallel => value.support == .supported && value.tensorDegree == 2
  | .pipelineParallel => value.support == .supported && value.pipelineStages == 2
  | .hybrid =>
    value.support == .experimental && value.tensorDegree == 2 && value.pipelineStages == 2

def v4PlanWorkerCapability (workers : List NodeId) (seen : List NodeId)
    (value : V4WorkerCapability) : Check := do
  nodeId value.node "v4.plan.worker_capability.node"
  rejectIf (!workers.contains value.node || seen.contains value.node || value.memoryBytes == 0 ||
    value.computeUnits == 0 || value.reliabilityPermille > 1000)
    (.invalid "v4.plan.worker_capability")
  rejectIf (value.accelerator.deviceCount == 0 || value.accelerator.memoryBytes == 0 ||
    value.accelerator.formats.isEmpty) (.invalid "v4.plan.worker_accelerator")
  rejectIf (value.backends.length > maxV5Backends)
    (.tooMany "v5.plan.worker_backends" maxV5Backends)
  forEach (backendCapabilities · "v5.plan.backend_capabilities") value.backends

/-
  The group loop of a plan.  The accumulators are the group
  identifiers and the grouped workers; the latter are
  returned for the coverage check.
-/
def v4PlanGroups (workers : List NodeId) : List UInt16 → List NodeId → List V4AggregationGroup →
      Except ValidationError (List NodeId)
| _, grouped, [] => .ok grouped
| groupIds, grouped, group :: groups => do
    rejectIf (group.members.isEmpty || group.members.length > maxV4PlanWorkers)
      (.tooMany "v4.plan.group.members" maxV4PlanWorkers)
    v4NodeList group.members "v4.plan.group.members" maxV4PlanWorkers
    rejectIf (groupIds.contains group.groupId || group.members.any (!workers.contains ·) ||
        !allInserted grouped group.members || !group.members.contains group.aggregator ||
        group.parent.any (!workers.contains ·) || group.parent.any group.members.contains)
      (.invalid "v4.plan.group.topology")
    v4PlanGroups workers (group.groupId :: groupIds) (group.members ++ grouped) groups

def v4PlanShard (workers : List NodeId) (shard : V4ShardOwnership) : Check := do
  rejectIf (shard.modelGeneration == 0 || shard.ownershipGeneration == 0 || shard.stateBytes == 0 ||
    shard.memoryBytes == 0 || shard.stateBytes > maxTrainingStateBytes ||
    shard.memoryBytes > maxTrainingStateBytes) (.invalid "v4.plan.shard.generation")
  rejectIf (shard.owners.length != 1) (.invalid "v4.plan.shard.owners")
  v4NodeList shard.owners "v4.plan.shard.owners" maxV4PlanWorkers
  rejectIf ((shard.owners ++ shard.replicas).any (!workers.contains ·))
    (.invalid "v4.plan.shard.worker")
  rejectIf (shard.replicas.length > maxTrainingReplicas)
    (.tooMany "v4.plan.shard.replicas" maxTrainingReplicas)
  rejectIf (shard.replicas.any shard.owners.contains)
    (.invalid "v4.plan.shard.replica_owner_overlap")
  if shard.replicas.isEmpty then
    .ok ()
  else
    v4NodeList shard.replicas "v4.plan.shard.replicas" maxTrainingReplicas
  v4Hash shard.contentHash "v4.plan.shard.hash"
  string shard.runtimeRequirement "v4.plan.shard.runtime"

def v4PlanAccelerator (value : V4AcceleratorCapability) : Check := do
  string value.deviceModel "v4.plan.accelerator.model"
  string value.runtime "v4.plan.accelerator.runtime"
  string value.runtimeVersion "v4.plan.accelerator.runtime_version"
  rejectIf (value.deviceCount == 0 || value.memoryBytes == 0 || value.formats.isEmpty ||
    value.formats.length > 8) (.invalid "v4.plan.accelerator")

def v4Plan (value : V4TrainingPlan) : Check := do
  trainingJobId value.jobId "v4.plan.job_id"
  nodeId value.proposer "v4.plan.proposer"
  artifactId value.branch "v4.plan.branch"
  artifactId value.planHash "v4.plan.hash"
  rejectIf (!strategyShapeValid value || !supportMatchesStrategy value)
    (.invalid "v4.plan.strategy")
  rejectIf (value.planGeneration == 0 || value.modelGeneration == 0 || value.trainingEpoch == 0 ||
    value.membershipEpoch == 0 || value.coordinationTerm == 0 || value.localSteps == 0 ||
    value.localSteps > 1024 || value.maxStaleness > 1024 || value.checkpointReplication == 0 ||
    value.checkpointReplication > 16 || value.tensorDegree.toNat > maxV4Stages ||
    value.pipelineStages.toNat > maxV4Stages) (.invalid "v4.plan.generation")
  rejectIf (!workerCountOk value.workers) (.invalid "v4.plan.workers")
  v4NodeList value.workers "v4.plan.workers" maxV4PlanWorkers
  rejectIf (value.workerCapabilities.length != value.workers.length)
    (.invalid "v4.plan.worker_capabilities")
  forEachSeen V4WorkerCapability.node (v4PlanWorkerCapability value.workers)
    [] value.workerCapabilities
  rejectIf (value.groups.isEmpty || value.groups.length > maxV4Groups)
    (.tooMany "v4.plan.groups" maxV4Groups)
  let grouped ← v4PlanGroups value.workers [] [] value.groups
  rejectIf (grouped.toFinset != value.workers.toFinset) (.invalid "v4.plan.group.coverage")
  rejectIf (value.shards.isEmpty || value.shards.length > maxTrainingShards)
    (.tooMany "v4.plan.shards" maxTrainingShards)
  forEachDistinct V4ShardOwnership.shardId (.invalid "v4.plan.shard.id") (v4PlanShard value.workers)
    value.shards
  ifPresent v4PlanAccelerator value.accelerator
  ifPresent (fun parent => do
    v4Hash parent "v4.plan.parent_hash"
    rejectIf (parent == value.planHash) (.invalid "v4.plan.parent_hash"))
    value.parentPlanHash
  rejectIf (value.computeRequirements.length > maxV5Requirements)
    (.tooMany "v5.plan.compute_requirements" maxV5Requirements)
  forEach (computeRequirements · "v5.plan.compute_requirement") value.computeRequirements
  rejectIf (value.backendAssignments.length > maxV5Assignments)
    (.tooMany "v5.plan.backend_assignments" maxV5Assignments)
  forEach (backendAssignment · value.workers value.workerCapabilities "v5.plan.backend_assignment")
    value.backendAssignments
  string value.rationale "v4.plan.rationale"

/- A shard that passes has one owner, and replicas beside it. -/
structure ShardFacts (workers : List NodeId) (shard : V4ShardOwnership) : Prop where
  owner : shard.owners.length = 1
  placed : ∀ node ∈ shard.owners ++ shard.replicas, node ∈ workers
  beside : ∀ node ∈ shard.replicas, node ∉ shard.owners

theorem shardFacts_of_ok {workers : List NodeId} {shard : V4ShardOwnership}
    (hOk : v4PlanShard workers shard = .ok ()) : ShardFacts workers shard := by
  unfold v4PlanShard at hOk
  simp only [bind_eq_ok_iff, rejectIf_eq_ok_iff] at hOk
  rcases hOk with ⟨_, -, _, hOwner, _, -, _, hPlaced, _, -, _, hBeside, -⟩
  exact
    { owner := by simpa using hOwner
      placed := by
        intro node hNode
        have hKnown := List.any_eq_false.mp hPlaced node hNode
        simpa using hKnown
      beside := by
        intro node hNode
        have hOther := List.any_eq_false.mp hBeside node hNode
        simpa using hOther }

/- What the later proofs need of a plan that passes. -/
structure PlanFacts (plan : V4TrainingPlan) : Prop where
  job : plan.jobId ≠ default
  branch : plan.branch ≠ default
  generation : plan.planGeneration ≠ 0
  distinct : plan.workers.Nodup
  bounded : plan.workers.length ≤ maxV4PlanWorkers
  named : ∀ worker ∈ plan.workers, worker ≠ default
  shardIds : (plan.shards.map V4ShardOwnership.shardId).Nodup
  shards : ∀ shard ∈ plan.shards, ShardFacts plan.workers shard

theorem planFacts_of_ok {plan : V4TrainingPlan} (hOk : v4Plan plan = .ok ()) : PlanFacts plan := by
  unfold v4Plan at hOk
  simp only [bind_eq_ok_iff, rejectIf_eq_ok_iff, trainingJobId, artifactId] at hOk
  rcases hOk with ⟨_, hJob, _, -, _, hBranch, _, -, _, -, _, hGenerations,
    _, -, _, hNodes, _, -, _, -, _, -, _, -, _, -, _, -, _, hShards, -⟩
  simp only [Bool.or_eq_false_iff, beq_eq_false_iff_ne] at hJob hBranch hGenerations
  rcases v4NodeList_eq_ok_iff.mp hNodes with ⟨-, hBounded, hDistinct, hNamed⟩
  rcases nodup_of_forEachSeen V4ShardOwnership.shardId _ (by
    intro seen shard hShard
    rw [bind_eq_ok_iff] at hShard
    rcases hShard with ⟨_, hNew, -⟩
    simpa using hNew) [] hShards with
    ⟨hShardIds, -⟩
  exact
    { job := hJob
      branch := hBranch
      generation := hGenerations.1.1.1.1.1.1.1.1.1.1.1
      distinct := hDistinct
      bounded := hBounded
      named := hNamed
      shardIds := hShardIds
      shards := by
        intro shard hShard
        rcases check_of_forEachSeen V4ShardOwnership.shardId _ [] hShards shard hShard with
          ⟨seen, hChecked⟩
        rw [bind_eq_ok_iff] at hChecked
        rcases hChecked with ⟨_, -, hPassed⟩
        exact shardFacts_of_ok hPassed }

----
-- Execution Graphs
----

/-
  The group loop of a graph.  Unlike the loop of a plan it
  checks the topology before the member list, bounds the
  members only through that list, and lets a group be its
  own parent's group.
-/
def v4GraphGroups (workers : List NodeId) : List UInt16 → List NodeId → List V4AggregationGroup →
      Except ValidationError (List NodeId)
| _, grouped, [] => .ok grouped
| groupIds, grouped, group :: groups => do
    rejectIf (groupIds.contains group.groupId || group.members.isEmpty ||
        !group.members.all workers.contains || !allInserted grouped group.members ||
        !group.members.contains group.aggregator || group.parent.any (!workers.contains ·))
      (.invalid "v4.graph.aggregation_group")
    v4NodeList group.members "v4.graph.aggregation_group.members" maxV4PlanWorkers
    v4GraphGroups workers (group.groupId :: groupIds) (group.members ++ grouped) groups

/- The tensor-group loop, with the shards placed so far. -/
def v4GraphTensorGroups (workers : List NodeId) :
    List UInt16 → List UInt16 → List V4TensorGroup → Check
| _, _, [] => .ok ()
| groupIds, shardIds, group :: groups => do
    rejectIf (groupIds.contains group.groupId || group.members.length < 2 ||
        group.members.length > maxV4PlanWorkers || group.shardIds.isEmpty ||
        group.generation == 0 || !group.members.all workers.contains ||
        !allInserted shardIds group.shardIds)
      (.invalid "v4.graph.tensor_group")
    v4NodeList group.members "v4.graph.tensor_group.members" maxV4PlanWorkers
    v4GraphTensorGroups workers (group.groupId :: groupIds) (group.shardIds ++ shardIds) groups

section

variable (workers : List NodeId)

def v4GraphStage (seen : List UInt16) (stage : V4PipelineStageAssignment) : Check := do
  rejectIf
    (seen.contains stage.stageId || stage.generation == 0 || !workers.contains stage.worker ||
      stage.replicas.length > maxTrainingReplicas || stage.replicas.contains stage.worker ||
      stage.replicas.any (!workers.contains ·))
    (.invalid "v4.graph.pipeline_stage")
  if stage.replicas.isEmpty then
    .ok ()
  else
    v4NodeList stage.replicas "v4.graph.pipeline_stage.replicas" maxTrainingReplicas

def v4GraphShard (seen : List UInt16) (shard : V4ShardOwnership) : Check := do
  rejectIf (seen.contains shard.shardId || shard.owners.length != 1 || shard.modelGeneration == 0 ||
    shard.ownershipGeneration == 0 || shard.stateBytes == 0 || shard.memoryBytes == 0 ||
    !shard.owners.all workers.contains || shard.replicas.length > maxTrainingReplicas ||
    shard.replicas.any (fun replica => !workers.contains replica || shard.owners.contains replica))
    (.invalid "v4.graph.shard")
  v4Hash shard.contentHash "v4.graph.shard.hash"

def v4GraphOptimizer (shardIds : List UInt16) (seen : List UInt16)
    (placement : V4OptimizerPlacement) : Check :=
  rejectIf (seen.contains placement.shardId || placement.generation == 0 ||
    !shardIds.contains placement.shardId || !workers.contains placement.owner ||
    placement.replicas.length > maxTrainingReplicas ||
    placement.replicas.contains placement.owner || placement.replicas.any (!workers.contains ·))
    (.invalid "v4.graph.optimizer_shard")

/- Graphs do not repeat the workers' capabilities. -/
def v4GraphAssignment (assignment : BackendAssignment) : Check := do
  computeRequirements assignment.requirements "v5.graph.backend_requirement"
  nodeId assignment.worker "v5.graph.backend_worker"
  rejectIf (!workers.contains assignment.worker || assignment.deviceIndex > 1024)
    (.invalid "v5.graph.backend_assignment")

end

def v4ExecutionGraph (value : V4ExecutionGraph) : Check := do
  trainingJobId value.jobId "v4.graph.job_id"
  nodeId value.proposer "v4.graph.proposer"
  nodeId value.coordinator "v4.graph.coordinator"
  nodeId value.replyTo "v4.graph.reply_to"
  v4Hash value.planHash "v4.graph.plan_hash"
  v4Hash value.branch "v4.graph.branch"
  v4Hash value.graphHash "v4.graph.hash"
  rejectIf (value.graphGeneration == 0 || value.parentGraphGeneration.any
    (fun parent => parent == 0 || parent ≥ value.graphGeneration) || value.trainingEpoch == 0 ||
    value.membershipEpoch == 0 || value.coordinationTerm == 0 || value.optimizerGeneration == 0 ||
    value.checkpointGeneration == 0 || value.collectiveGeneration == 0 || value.localSteps == 0 ||
    value.localSteps > 1024 || value.maxStaleness > 1024 || value.checkpointReplication == 0 ||
    value.checkpointReplication > 16) (.invalid "v4.graph.generation")
  rejectIf (!workerCountOk value.workers) (.invalid "v4.graph.workers")
  v4NodeList value.workers "v4.graph.workers" maxV4PlanWorkers
  rejectIf (!value.workers.contains value.proposer || !value.workers.contains value.coordinator)
    (.invalid "v4.graph.role_worker")
  rejectIf (value.retiredWorkers.length > maxV4PlanWorkers || repeats value.retiredWorkers ||
    value.retiredWorkers.any value.workers.contains) (.invalid "v4.graph.retired_workers")
  rejectIf
    (value.electionCertificate.length > maxV4PlanWorkers || repeats value.electionCertificate)
    (.invalid "v4.graph.election_certificate")
  rejectIf (value.aggregationGroups.isEmpty || value.aggregationGroups.length > maxV4Groups)
    (.tooMany "v4.graph.aggregation_groups" maxV4Groups)
  let grouped ← v4GraphGroups value.workers [] [] value.aggregationGroups
  rejectIf (grouped.toFinset != value.workers.toFinset)
    (.invalid "v4.graph.aggregation_group.coverage")
  rejectIf (value.tensorGroups.length > maxV4Groups) (.tooMany "v4.graph.tensor_groups" maxV4Groups)
  v4GraphTensorGroups value.workers [] [] value.tensorGroups
  rejectIf (value.pipelineStages.length > maxV4Stages)
    (.tooMany "v4.graph.pipeline_stages" maxV4Stages)
  forEachSeen V4PipelineStageAssignment.stageId (v4GraphStage value.workers) [] value.pipelineStages
  rejectIf (value.shards.isEmpty || value.shards.length > maxTrainingShards)
    (.tooMany "v4.graph.shards" maxTrainingShards)
  forEachSeen V4ShardOwnership.shardId (v4GraphShard value.workers) [] value.shards
  rejectIf (value.optimizerShards.isEmpty || value.optimizerShards.length > maxTrainingShards)
    (.tooMany "v4.graph.optimizer_shards" maxTrainingShards)
  forEachSeen V4OptimizerPlacement.shardId
    (v4GraphOptimizer value.workers (value.shards.map V4ShardOwnership.shardId))
    [] value.optimizerShards
  rejectIf (value.backendAssignments.length > maxV5Assignments)
    (.tooMany "v5.graph.backend_assignments" maxV5Assignments)
  forEach (v4GraphAssignment value.workers) value.backendAssignments

/- What the later proofs need of a graph that passes. -/
structure GraphFacts (graph : V4ExecutionGraph) : Prop where
  generation : graph.graphGeneration ≠ 0
  parent : ∀ parent ∈ graph.parentGraphGeneration, parent < graph.graphGeneration
  term : graph.coordinationTerm ≠ 0
  distinct : graph.workers.Nodup
  coordinator : graph.coordinator ∈ graph.workers
  named : graph.coordinator ≠ default

theorem graphFacts_of_ok {graph : V4ExecutionGraph} (hOk : v4ExecutionGraph graph = .ok ()) :
    GraphFacts graph := by
  unfold v4ExecutionGraph at hOk
  simp only [bind_eq_ok_iff, rejectIf_eq_ok_iff, nodeId] at hOk
  rcases hOk with
    ⟨_, -, _, -, _, hNamed, _, -, _, -, _, -, _, -, _, hGenerations, _, -, _, hNodes, _, hRoles, -⟩
  simp only [Bool.or_eq_false_iff, beq_eq_false_iff_ne] at hGenerations hRoles
  rw [v4NodeList, bind_eq_ok_iff] at hNodes
  rcases hNodes with ⟨_, -, hNodes⟩
  rw [bind_eq_ok_iff] at hNodes
  rcases hNodes with ⟨_, -, hNodes⟩
  rcases hGenerations with
    ⟨⟨⟨⟨⟨⟨⟨⟨⟨⟨⟨⟨hGeneration, hParent⟩, -⟩, -⟩, hTerm⟩, -⟩, -⟩, -⟩, -⟩, -⟩, -⟩, -⟩, -⟩
  exact
    { generation := hGeneration
      parent := by
        intro parent hMem
        rw [Option.mem_def.mp hMem] at hParent
        simp only [Option.any_some, Bool.or_eq_false_iff, decide_eq_false_iff_not] at hParent
        exact UInt64.not_le.mp hParent.2
      term := hTerm
      distinct := nodup_of_distinctNodes _ _ hNodes
      coordinator := by simpa using hRoles.2
      named := by simpa using hNamed }

end IntelligenceNetwork.Validation
