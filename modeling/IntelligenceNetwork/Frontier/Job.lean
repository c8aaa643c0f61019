import IntelligenceNetwork.Frontier.Takeover

/-
  The start of an integrated job.

  The controller turns a plan into the first graph of the job
  and sends it to the coordinator.  A `JobStart` is any start
  with the properties that the runs of a job rest on.

  Main declarations:
    * `buildIntegratedStart`
    * `JobStart`
    * `smallStart_built`
-/

----
-- The First Graph
----

namespace IntelligenceNetwork.Frontier

section

def v4IntegratedMinWorkers : Nat := 4
def v4IntegratedMaxWindows : UInt64 := 4096

variable (digests : Digests)

/- One of the two row shards, with one replica. -/
def referenceShard (workers : List NodeId) (shardId : UInt16) : V4ShardOwnership :=
  let weights := initialTensorWeights shardId
  { shardId := shardId
    modelGeneration := 1
    owners := [workers.getD shardId.toNat default]
    replicas := [workers.getD (shardId.toNat + 2) default]
    ownershipGeneration := 1
    contentHash := digests.tensor 2 4 (shardId * 2) weights
    stateBytes := UInt64.ofNat (weights.length * 8)
    memoryBytes := UInt64.ofNat (weights.length * 8 * 2)
    runtimeRequirement := "reference.cpu.i64.tensor-row"
    lifecycle := .active }

def referenceStages (workers : List NodeId) : List V4PipelineStageAssignment :=
  [⟨0, workers.getD 2 default, [workers.getD 0 default], 1⟩,
    ⟨1, workers.getD 3 default, [workers.getD 1 default], 1⟩]

/- The planner's plan with the roles of the reference model. -/
def referencePlan (planned : V4TrainingPlan) : V4TrainingPlan :=
  let workers := planned.workers
  let coordinator := workers.headI
  { planned with
    proposer := coordinator
    groups := integratedGroups workers coordinator
    shards := [referenceShard digests workers 0, referenceShard digests workers 1] }

def firstGraph (controller : NodeId) (plan : V4TrainingPlan) : V4ExecutionGraph :=
  let graph : V4ExecutionGraph :=
    { jobId := plan.jobId
      graphGeneration := 1
      parentGraphGeneration := none
      proposer := plan.proposer
      coordinator := plan.proposer
      replyTo := controller
      planHash := plan.planHash
      branch := plan.branch
      trainingEpoch := plan.trainingEpoch
      membershipEpoch := plan.membershipEpoch
      coordinationTerm := plan.coordinationTerm
      optimizerGeneration := 1
      checkpointGeneration := 1
      workers := plan.workers
      retiredWorkers := []
      tensorGroups := [⟨0, plan.workers.take 2, [0, 1], 1⟩]
      pipelineStages := referenceStages plan.workers
      aggregationGroups := plan.groups
      shards := plan.shards
      optimizerShards := plan.shards.map (fun shard =>
        ⟨shard.shardId, shard.owners.headI, shard.replicas, 1⟩)
      collectiveGeneration := 1
      localSteps := 1
      maxStaleness := 2
      checkpointReplication := 2
      strategy := .hybrid
      electionCertificate := []
      backendAssignments := plan.backendAssignments
      graphHash := default }
  { graph with graphHash := executionGraphHash digests graph }

/- The part of the controller's work that follows the planner. -/
def buildIntegratedStart (controller : NodeId) (planned : V4TrainingPlan)
    (windows checkpointEvery : UInt64) : Except NodeError V4IntegratedStart :=
  if windows = 0 ∨ windows > v4IntegratedMaxWindows ∨ checkpointEvery = 0 then
    .error (.invalidConfig "integrated V4 windows/checkpoint interval are outside bounded limits")
  else if planned.workers.length < v4IntegratedMinWorkers then
    .error (.invalidConfig
      (s!"integrated V4 planner selected {planned.workers.length} workers; " ++
        s!"at least {v4IntegratedMinWorkers} live, capable workers are required"))
  else do
    let plan ← bindBackendAssignments (referencePlan digests planned)
        (referenceStages planned.workers)
    let plan := { plan with planHash := hashPlan digests plan }
    checked (Validation.v4Plan plan)
    let graph := firstGraph digests controller plan
    checked (Validation.v4ExecutionGraph graph)
    .ok
      { requestId := plan.jobId
        graph := graph
        plan := plan
        windows := windows
        checkpointEvery := checkpointEvery
        replyTo := controller }

end

----
-- Job Starts
----

/- A start that a controller can send. -/
structure JobStart (digests : Digests) where
  controller : NodeId
  start : V4IntegratedStart
  graphOk : graphIntact digests start.graph = true
  planOk : planIntact digests start.plan = true
  proposed : start.graph.proposer = start.graph.coordinator
  first : start.graph.parentGraphGeneration = none
  unelected : start.graph.electionCertificate = []
  answered : start.graph.replyTo = controller

/- The controller's state record before anything has run. -/
def JobStart.state {digests : Digests} (job : JobStart digests) : V4IntegratedStateRecord :=
  integratedState digests job.start.graph .preparing 0 job.start.windows 0 0 0

----
-- A Small Job
----

/- Hashes that tell apart what the small runs tell apart. -/
def smallDigests : Digests where
  bytes := fun bytes => ⟨BitVec.ofNat 256 (1 + bytes.length)⟩
  plan := fun plan =>
    ⟨BitVec.ofNat 256 (1 + plan.planGeneration.toNat * 16 + plan.proposer.bytes.toNat)⟩
  graph := fun graph =>
    ⟨BitVec.ofNat 256 (1 + graph.graphGeneration.toNat * 16 + graph.coordinator.bytes.toNat)⟩
  state := fun state =>
    ⟨BitVec.ofNat 256
      (1 + state.graphGeneration.toNat * 256 + state.checkpointGeneration.toNat * 16 +
        state.window.toNat)⟩
  election := fun record =>
    ⟨BitVec.ofNat 256 (1 + record.term.toNat * 16 + record.candidate.bytes.toNat)⟩
  checkpoint := fun checkpoint =>
    ⟨BitVec.ofNat 256 (1 + checkpoint.checkpointGeneration.toNat * 256 +
        (checkpoint.shardHashes.map (·.bytes.toNat)).sum)⟩
  trainingState := fun state =>
    ⟨BitVec.ofNat 256 (1 + state.checkpointGeneration.toNat)⟩
  optimizerShard := fun shard =>
    ⟨BitVec.ofNat 256 (1 + shard.optimizerGeneration.toNat)⟩
  tensor := fun rows cols offset _ =>
    ⟨BitVec.ofNat 256 (1 + rows.toNat + cols.toNat + offset.toNat)⟩
  branch := fun _ branch generation proposer _ =>
    ⟨BitVec.ofNat 256 (1 + branch.bytes.toNat * 256 + generation.toNat * 16 + proposer.bytes.toNat)⟩

/- A worker with one CPU. -/
def smallCapability (node : NodeId) : V4WorkerCapability where
  node := node
  accelerator :=
    { family := .cpu
      deviceModel := "cpu"
      deviceCount := 1
      memoryBytes := 4096
      formats := [.f32]
      runtime := "reference"
      runtimeVersion := "1"
      physicalVerified := false }
  memoryBytes := 4096
  computeUnits := 1
  rttMs := 1
  bandwidthMbps := 1
  reliabilityPermille := 1000
  backends :=
    [{ kind := .cpu
       runtimeVersion := "1"
       deviceCount := 1
       deviceMemoryBytes := 4096
       availableMemoryBytes := 4096
       formats := [.f32]
       maxTensorElements := 64
       features := [.deterministicKernel]
       deviceArchitecture := none
       driverAvailable := true
       runtimeAvailable := true
       peerToPeer := false
       unifiedMemory := false
       maxConcurrentTasks := 1
       safetyMarginPermille := 0
       health := .ready
       physicalVerified := false
       observedSuccesses := 1
       observedFailures := 0 }]

def smallWorkers : List NodeId := [⟨1⟩, ⟨2⟩, ⟨3⟩, ⟨4⟩]

/- The planner's choice of four workers. -/
def smallPlan : V4TrainingPlan where
  jobId := ⟨7⟩
  proposer := ⟨1⟩
  planGeneration := 1
  modelGeneration := 1
  trainingEpoch := 1
  membershipEpoch := 1
  coordinationTerm := 1
  branch := ⟨5⟩
  strategy := .hybrid
  support := .experimental
  workers := smallWorkers
  groups := []
  shards := []
  tensorDegree := 2
  pipelineStages := 2
  localSteps := 1
  maxStaleness := 2
  checkpointReplication := 2
  dataLocality := .selective
  accelerator := none
  workerCapabilities := smallWorkers.map smallCapability
  rationale := "reference"
  planHash := default
  parentPlanHash := none
  computeRequirements := []
  backendAssignments := []

/- The job that node 9 orders from the four workers. -/
theorem smallStart_built :
    (buildIntegratedStart smallDigests ⟨9⟩ smallPlan 2 1).toOption.isSome := by
  decide +kernel

def smallStart : V4IntegratedStart :=
  (buildIntegratedStart smallDigests ⟨9⟩ smallPlan 2 1).toOption.get smallStart_built

def smallJob : JobStart smallDigests where
  controller := ⟨9⟩
  start := smallStart
  graphOk := by decide +kernel
  planOk := by decide +kernel
  proposed := by decide +kernel
  first := by decide +kernel
  unelected := by decide +kernel
  answered := by decide +kernel

/- The job before its first window, and a node that holds it. -/
def smallSnapshot : Snapshot :=
  ⟨smallStart.graph, smallStart.plan, smallJob.state⟩

def smallHolder : Member :=
  adoptGraph (Member.new {}) smallStart.graph smallStart.plan

/- A tensor round with a hash for each of the two shards. -/
def smallHashes (first second : Nat) : Std.TreeMap UInt16 ArtifactId :=
  ((∅ : Std.TreeMap UInt16 ArtifactId).insert 0 ⟨BitVec.ofNat 256 first⟩).insert 1
      ⟨BitVec.ofNat 256 second⟩

def smallTensor (loss : Nat) : TensorRound where
  loss := loss
  tensorHashes := smallHashes (loss + 1) 2
  optimizerHashes := smallHashes 3 4
  steps := 2

/- Every worker answers every probe. -/
def allAnswer : Probes :=
  let all := smallWorkers.toFinset
  ⟨all, all, all, all, all⟩

end IntelligenceNetwork.Frontier
