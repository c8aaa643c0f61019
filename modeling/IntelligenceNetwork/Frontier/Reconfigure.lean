import Mathlib.Data.List.Sort
import IntelligenceNetwork.Frontier.Handlers

/-
  The next execution graph of an integrated job: one generation
  later, with its builder as coordinator, and with every role
  of a lost worker given to a worker that is left.

  Main declarations:
    * `nextPlan`
    * `nextGraph`
    * `reconfigureIntegratedGraphMembership`
    * `Succeeds`
-/

----
-- Backends
----

namespace IntelligenceNetwork.Frontier

open Validation

variable {failed joined : Option NodeId} {old : Snapshot} {plan : V4TrainingPlan}
variable {profiles : List V4WorkerCapability}

def defaultRequirements (taskKind : ComputeTaskKind) (backend : BackendKind) (elements : UInt64)
    (kernelId : String) : ComputeRequirements where
  taskKind := taskKind
  requiredBackend := some backend
  allowedBackends := [backend]
  requiredFormats := [.f32]
  requiredMemoryBytes := max (Saturating.mul elements 8) 8
  maxTensorElements := max elements 1
  requiredFeatures := [.deterministicKernel]
  kernelId := kernelId
  kernelVersion := 1
  fallbackBackends := []
  fallbackAllowed := false

def backendSatisfiesRequirements (capabilities : BackendCapabilities)
    (requirements : ComputeRequirements) : Bool :=
  let safeMemory := Saturating.mul capabilities.availableMemoryBytes
    (if capabilities.safetyMarginPermille ≤ 1000 then
      (1000 - capabilities.safetyMarginPermille).toUInt64
    else
      0) / 1000
  capabilities.runtimeAvailable && capabilities.health != .unavailable &&
    !(capabilities.observedFailures > 0 && capabilities.observedSuccesses == 0) &&
    (requirements.requiredBackend == some capabilities.kind || requirements.allowedBackends.contains
      capabilities.kind) && requirements.requiredMemoryBytes ≤ safeMemory &&
    requirements.maxTensorElements ≤ capabilities.maxTensorElements &&
    requirements.requiredFormats.all capabilities.formats.contains &&
    requirements.requiredFeatures.all capabilities.features.contains

/- The CPU, where there is one, backs up any other backend. -/
def bindRequirements (capability : V4WorkerCapability) (backend : BackendKind)
    (taskKind : ComputeTaskKind) (elements : UInt64) (kernelId : String) : ComputeRequirements :=
  let requirements := defaultRequirements taskKind backend elements kernelId
  if backend ≠ .cpu ∧ capability.backends.any (·.kind == .cpu) then
    { requirements with fallbackBackends := [.cpu], fallbackAllowed := true }
  else
    requirements

/- The first backend, in order of preference, that will do. -/
def selectBackend (capability : V4WorkerCapability) (taskKind : ComputeTaskKind) (elements : UInt64)
    (kernelId : String) : Option (BackendKind × ComputeRequirements) :=
  [BackendKind.cuda, .rocm, .metal, .cpu].findSome? (fun backend => do
    let advertised ← capability.backends.find? (·.kind == backend)
    let requirements := bindRequirements capability backend taskKind elements kernelId
    if backendSatisfiesRequirements advertised requirements then
      some (backend, requirements)
    else
      none)

def taskKindName : ComputeTaskKind → String
| .tensorForward => "TensorForward"
| .tensorBackward => "TensorBackward"
| .pipelineForward => "PipelineForward"
| .pipelineBackward => "PipelineBackward"
| .trainingStep => "TrainingStep"
| .capabilityChallenge => "CapabilityChallenge"

section

variable (capabilities : List V4WorkerCapability)

/- Give a worker's task a backend, unless it has one. -/
def bindTask (taskKind : ComputeTaskKind) (elements : UInt64) (kernelId : String) (worker : NodeId)
    (assignments : List BackendAssignment) : Except NodeError (List BackendAssignment) :=
  if assignments.any (fun assignment =>
    assignment.worker == worker && assignment.taskKind == taskKind) then
    .ok assignments
  else
    -- a later capability of the same node replaces an earlier one
    match capabilities.reverse.find? (·.node == worker) with
    | none => .error (.invalidConfig
      s!"backend assignment worker {worker.bytes.toHex} has no signed capability")
    | some capability =>
      match selectBackend capability taskKind elements kernelId with
      | none => .error (.invalidConfig
        (s!"worker {worker.bytes.toHex} cannot satisfy backend requirements for " ++
          taskKindName taskKind))
      | some (backend, requirements) =>
        .ok (assignments ++ [⟨taskKind, worker, backend, 0, requirements⟩])

def bindShard (assignments : List BackendAssignment) (shard : V4ShardOwnership) :
    Except NodeError (List BackendAssignment) :=
  match shard.owners.head? with
  | none => .error (.invalidConfig "backend-bound shard has no owner")
  | some owner => do
    let assignments ← bindTask capabilities .tensorForward 16
      "v5.tensor.forward.v1" owner assignments
    bindTask capabilities .tensorBackward 16 "v5.tensor.backward.v1" owner assignments

def bindStage (assignments : List BackendAssignment) (stage : V4PipelineStageAssignment) :
    Except NodeError (List BackendAssignment) := do
  let assignments ← bindTask capabilities .pipelineForward 8
    "v5.pipeline.forward.v1" stage.worker assignments
  bindTask capabilities .pipelineBackward 8 "v5.pipeline.backward.v1" stage.worker assignments

end

/- Bind the execution roles of a plan to its workers' backends. -/
def bindBackendAssignments (plan : V4TrainingPlan) (stages : List V4PipelineStageAssignment) :
    Except NodeError V4TrainingPlan := do
  let assignments ←
    if plan.strategy = .tensorParallel ∨ plan.strategy = .hybrid then
      plan.shards.foldlM (bindShard plan.workerCapabilities) []
    else
      .ok []
  let assignments ←
    if plan.strategy = .pipelineParallel ∨ plan.strategy = .hybrid then
      stages.foldlM (bindStage plan.workerCapabilities) assignments
    else
      .ok assignments
  .ok { plan with
    computeRequirements := assignments.map (·.requirements)
    backendAssignments := assignments }

----
-- Groups and Shards
----

section

variable (digests : Digests) (self : NodeId)

/- Drop each element that repeats the one before it. -/
def dedupAdjacent : List NodeId → List NodeId
| [] => []
| node :: nodes =>
  match dedupAdjacent nodes with
  | [] => [node]
  | next :: rest => if node = next then next :: rest else node :: next :: rest

/- A worker other than the one to be spared, if there is one. -/
def pickAggregator (members : List NodeId) (avoid : NodeId) : NodeId :=
  (members.find? (· ≠ avoid)).getD members.headI

def integratedGroups (workers : List NodeId) (avoid : NodeId) : List V4AggregationGroup :=
  if workers.length < 4 then
    [⟨0, workers, pickAggregator workers avoid, none⟩]
  else
    let split := min (max (workers.length / 2) 2) (workers.length - 2)
    let left := workers.take split
    let right := workers.drop split
    let leftRoot := pickAggregator left avoid
    let rightRoot := pickAggregator right avoid
    [⟨0, left, leftRoot, some rightRoot⟩, ⟨1, right, rightRoot, some leftRoot⟩]

def initialTensorWeights (shardId : UInt16) : List Int :=
  if shardId = 0 then [1, 0, 0, 1, 1, 1, 2, 0] else [0, 2, 1, 1, 1, 0, 1, 2]

/- The four one-row shards that replace the two reference ones. -/
def splitShard (workers : List NodeId) (source : V4ShardOwnership)
    (part : UInt16) : V4ShardOwnership :=
  let splitId := source.shardId * 2 + part
  let owner := workers.getD (splitId.toNat % workers.length) default
  let others := workers.filter (· ≠ owner)
  let weights := ((initialTensorWeights source.shardId).drop (4 * part.toNat)).take 4
  { shardId := 2 + splitId
    modelGeneration := source.modelGeneration
    owners := [owner]
    replicas := (others ++ others).take 2
    ownershipGeneration := Saturating.add source.ownershipGeneration 1
    contentHash := digests.tensor 1 4 splitId weights
    stateBytes := UInt64.ofNat (weights.length * 8)
    memoryBytes := UInt64.ofNat (weights.length * 8 * 2)
    runtimeRequirement := "reference.cpu.i64.tensor-row.split"
    lifecycle := .active }

def splitIntegratedReferenceShards (oldPlan : V4TrainingPlan) (workers : List NodeId) :
    Except NodeError (List V4ShardOwnership) :=
  if oldPlan.shards.length ≠ 2 ∨ workers.length < 4 then
    .error (.invalidConfig "reference shard split requires two source shards and four workers")
  else if oldPlan.shards.any (·.shardId > 1) then
    .error (.invalidConfig "reference shard split received a non-reference source identity")
  else
    .ok (oldPlan.shards.flatMap (fun source =>
      [splitShard digests workers source 0, splitShard digests workers source 1]))

/- A shard stays with its owner or goes to a replica. -/
def nextShard (workers : List NodeId) (failed : Option NodeId) (shard : V4ShardOwnership) :
    Except NodeError V4ShardOwnership :=
  let previousOwner := shard.owners.headI
  let newOwner :=
    if failed ≠ some previousOwner ∧ workers.contains previousOwner then
      some previousOwner
    else
      (shard.replicas.find? workers.contains).or (workers.find? (fun candidate =>
        failed ≠ some candidate))
  match newOwner with
  | none => .error (.invalidConfig "no verified V4 shard replacement exists")
  | some newOwner =>
    let replicas := (shard.replicas ++ [previousOwner] ++ workers).filter (fun candidate =>
      candidate ≠ newOwner ∧ failed ≠ some candidate ∧ workers.contains candidate)
    .ok { shard with
      owners := [newOwner]
      replicas := (dedupAdjacent replicas).take 2
      ownershipGeneration := Saturating.add shard.ownershipGeneration 1
      lifecycle := .active }

/- Stage owners are chosen as one matching. -/
def nextStages (workers : List NodeId) (failed : Option NodeId) (generation : UInt64) :
    List NodeId → List V4PipelineStageAssignment → Except NodeError (List V4PipelineStageAssignment)
| _, [] => .ok []
| assigned, stage :: stages =>
  match ((stage.worker :: stage.replicas) ++ workers).find? (fun candidate =>
        workers.contains candidate && failed != some candidate && !assigned.contains candidate) with
  | none => .error (.invalidConfig
      "integrated V4 cannot assign distinct live pipeline stage workers")
  | some replacement => do
      let rest ← nextStages workers failed generation (replacement :: assigned) stages
      .ok ({ stage with
        worker := replacement
        replicas := (workers.filter (fun candidate =>
            candidate ≠ replacement ∧ failed ≠ some candidate)).take 2
        generation := generation } :: rest)

----
-- The Next Graph
----

section

variable (graph : V4ExecutionGraph) (failed joined : Option NodeId)

/- The workers without the lost one and with the new one. -/
def nextWorkers : List NodeId :=
  let kept := graph.workers.filter (fun worker => failed ≠ some worker)
  let added := joined.toList.filter (fun node => !kept.contains node)
  dedupAdjacent ((kept ++ added).insertionSort (· ≤ ·))

def checkWorkers (graph : V4ExecutionGraph) (failed : Option NodeId)
    (workers : List NodeId) : Except NodeError Unit :=
  if workers.length < 2 then
    .error (.invalidConfig "integrated V4 cannot reconfigure below two live workers")
  else if failed.isSome ∧ workers.length * 2 ≤ graph.workers.length then
    .error (.invalidConfig
      (s!"integrated V4 failure reconfiguration requires quorum: " ++
        s!"{workers.length}/{graph.workers.length} live workers"))
  else
    .ok ()

/- A worker that joins brings its signed capability. -/
def nextCapabilities (profiles : List V4WorkerCapability) (plan : V4TrainingPlan)
    (workers : List NodeId) (joined : Option NodeId) : Except NodeError (List V4WorkerCapability) :=
  let kept := plan.workerCapabilities.filter (fun capability => workers.contains capability.node)
  match joined with
  | none => .ok kept
  | some joined =>
    if kept.any (·.node == joined) then
      .ok kept
    else
      match profiles.find? (·.node == joined) with
      | none => .error (.invalidConfig "joined worker has no current signed training capability")
      | some profile => .ok (kept ++ [profile])

/-
  Only before the first window, and when nobody is lost, can
  the two reference shards be split.
-/
def splitsReferenceShards (old : Snapshot) (failed joined : Option NodeId)
    (workers : List NodeId) : Bool :=
  joined.isSome && failed.isNone && old.state.window == 0 && old.graph.checkpointGeneration ≤ 1 &&
    old.graph.shards.length == 2 && workers.length ≥ 4

/- The plan before its roles are bound to backends. -/
def nextPlan (profiles : List V4WorkerCapability) (old : Snapshot) (failed joined : Option NodeId)
    (workers : List NodeId) :
    Except NodeError V4TrainingPlan := do
  let capabilities ← nextCapabilities profiles old.plan workers joined
  let shards ←
    if splitsReferenceShards old failed joined workers then
      splitIntegratedReferenceShards digests old.plan workers
    else
      old.plan.shards.mapM (nextShard workers failed)
  .ok { old.plan with
    proposer := self
    planGeneration := Saturating.add old.plan.planGeneration 1
    trainingEpoch := Saturating.add old.plan.trainingEpoch 1
    membershipEpoch := Saturating.add old.plan.membershipEpoch 1
    coordinationTerm := Saturating.add old.plan.coordinationTerm 1
    parentPlanHash := some old.plan.planHash
    workers := workers
    workerCapabilities := capabilities
    groups := integratedGroups workers self
    branch :=
      if failed.isSome then nextIntegratedBranch digests old.graph self failed else old.plan.branch
    shards := shards }

def nextRetired : List NodeId :=
  let retired :=
    match failed with
    | none => graph.retiredWorkers
    | some failed =>
      if graph.retiredWorkers.contains failed then
        graph.retiredWorkers
      else
        graph.retiredWorkers ++ [failed]
  match joined with
  | none => retired
  | some joined => retired.filter (· ≠ joined)

end

/- The graph that a bound and hashed plan belongs to. -/
def nextGraph (old : Snapshot) (plan : V4TrainingPlan) (stages : List V4PipelineStageAssignment)
    (failed joined : Option NodeId) (certificate : List NodeId) : V4ExecutionGraph :=
  let generation := Saturating.add old.graph.graphGeneration 1
  let optimizerGeneration := Saturating.add old.graph.optimizerGeneration 1
  let graph : V4ExecutionGraph :=
    { old.graph with
      retiredWorkers := nextRetired old.graph failed joined
      graphGeneration := generation
      parentGraphGeneration := some old.graph.graphGeneration
      proposer := self
      coordinator := self
      planHash := plan.planHash
      branch := plan.branch
      trainingEpoch := plan.trainingEpoch
      membershipEpoch := plan.membershipEpoch
      coordinationTerm := plan.coordinationTerm
      optimizerGeneration := optimizerGeneration
      checkpointGeneration := max old.graph.checkpointGeneration old.state.checkpointGeneration
      workers := plan.workers
      aggregationGroups := plan.groups
      shards := plan.shards
      tensorGroups := [⟨0, plan.workers.take 2, plan.shards.map (·.shardId), generation⟩]
      pipelineStages := stages
      backendAssignments := plan.backendAssignments
      optimizerShards := plan.shards.map (fun shard =>
        ⟨shard.shardId, shard.owners.headI, shard.replicas, optimizerGeneration⟩)
      collectiveGeneration := Saturating.add old.graph.collectiveGeneration 1
      electionCertificate := certificate
      graphHash := default }
  { graph with graphHash := executionGraphHash digests graph }

def checked (check : Validation.Check) : Except NodeError Unit :=
  match check with
  | .error error => .error (.ofValidation error)
  | .ok () => .ok ()

/- The graph, plan and state of the next generation. -/
def nextSnapshot (profiles : List V4WorkerCapability) (old : Snapshot)
    (failed joined : Option NodeId) (certificate : Option (List NodeId)) :
    Except NodeError Snapshot := do
  let workers := nextWorkers old.graph failed joined
  checkWorkers old.graph failed workers
  let plan ← nextPlan digests self profiles old failed joined workers
  let stages ← nextStages workers failed (Saturating.add old.graph.graphGeneration 1) []
    old.graph.pipelineStages
  let plan ← bindBackendAssignments plan stages
  let plan := { plan with planHash := hashPlan digests plan }
  checked (v4Plan plan)
  let graph := nextGraph digests self old plan stages failed joined (certificate.getD [])
  checked (v4ExecutionGraph graph)
  .ok ⟨graph, plan, integratedState digests graph .reconfiguring
    old.state.window old.state.targetWindows
    old.state.initialLossMicros old.state.currentLossMicros
    (Saturating.succ32 old.state.recoveryCount)⟩

/-
  Build the next generation and take it over, whatever graph
  the node holds by now.  The files come first; a graph whose
  state record cannot be written stays on disk only.
-/
def reconfigureIntegratedGraphMembership (env : HandlerEnv) (profiles : List V4WorkerCapability)
    (member : Member) (old : Snapshot) (failed joined : Option NodeId)
    (certificate : Option (List NodeId)) : Handled Snapshot :=
  match nextSnapshot digests self profiles old failed joined certificate with
  | .error error => ⟨member, [], .error error⟩
  | .ok next =>
    if !env.planWritten then
      ⟨member, [], .error .storage⟩
    else if !env.graphWritten then
      ⟨storePlan member next.plan, [], .error .storage⟩
    else if !env.stateWritten then
      ⟨{ member with
        stored := { member.stored with plan := some next.plan, graph := some next.graph } },
        [.drafted next.graph], .error .storage⟩
    else
      let changed := recordState (adoptGraph member next.graph next.plan) next.state
      let effects : List Effect :=
        [.adopted next.graph, .reconfigured old.graph next.graph, .recorded next.state]
      if failed.isSome && !env.recordWritten then
        ⟨changed, effects, .error .storage⟩
      else
        ⟨changed, effects, .ok next⟩

end

----
-- What the Next Graph Is
----

theorem mem_dedupAdjacent {nodes : List NodeId} {node : NodeId} :
    node ∈ dedupAdjacent nodes ↔ node ∈ nodes := by
  induction nodes with
  | nil => simp [dedupAdjacent]
  | cons first nodes ih =>
    rw [dedupAdjacent, List.mem_cons, ← ih]
    split
    · rename_i hNone
      simp [hNone]
    · rename_i next rest hSome
      rw [hSome]
      split_ifs with hSame
      · simp [hSame]
      · simp

variable (digests : Digests) {self : NodeId}

theorem checked_eq_ok_iff (check : Validation.Check) : checked check = .ok () ↔ check = .ok () := by
  unfold checked
  cases check with
  | error error | ok value => simp

theorem checkWorkers_eq_ok_iff (graph : V4ExecutionGraph) (failed : Option NodeId)
    (workers : List NodeId) : checkWorkers graph failed workers = .ok () ↔ 2 ≤ workers.length ∧
      (failed.isSome → graph.workers.length < workers.length * 2) := by
  unfold checkWorkers
  by_cases hFew : workers.length < 2
  · rw [if_pos hFew]
    constructor
    · intro hError
      cases hError
    · rintro ⟨_, -⟩
      omega
  · rw [if_neg hFew]
    by_cases hLost : failed.isSome ∧ workers.length * 2 ≤ graph.workers.length
    · rw [if_pos hLost]
      constructor
      · intro hError
        cases hError
      · rintro ⟨-, hMajority⟩
        exact absurd (hMajority hLost.1) (not_lt.mpr hLost.2)
    · rw [if_neg hLost]
      refine iff_of_true rfl ⟨not_lt.mp hFew, ?_⟩
      intro hSome
      by_contra hFewer
      exact hLost ⟨hSome, not_lt.mp hFewer⟩

/- Binding roles to backends leaves the plan's workers alone. -/
theorem bindBackendAssignments_workers {bound : V4TrainingPlan}
    {stages : List V4PipelineStageAssignment}
    (hBound : bindBackendAssignments plan stages = .ok bound) : bound.workers = plan.workers := by
  unfold bindBackendAssignments at hBound
  split_ifs at hBound
  all_goals
    simp only [bind_eq_ok_iff] at hBound
    rcases hBound with ⟨_, -, _, -, hResult⟩
    cases hResult
    rfl

theorem nextPlan_workers {workers : List NodeId}
    (hPlan : nextPlan digests self profiles old failed joined workers = .ok plan) :
    plan.workers = workers := by
  unfold nextPlan at hPlan
  split_ifs at hPlan
  all_goals
    simp only [bind_eq_ok_iff] at hPlan
    rcases hPlan with ⟨_, -, _, -, hResult⟩
    cases hResult
    rfl

/- How a graph of the next generation follows from the old one. -/
structure Succeeds (node : NodeId) (old : Snapshot) (failed joined : Option NodeId)
    (certificate : Option (List NodeId)) (next : Snapshot) : Prop where
  coordinator : next.graph.coordinator = node
  proposer : next.graph.proposer = node
  job : next.graph.jobId = old.graph.jobId
  generation : next.graph.graphGeneration = Saturating.add old.graph.graphGeneration 1
  later : old.graph.graphGeneration < next.graph.graphGeneration
  workers : next.graph.workers = nextWorkers old.graph failed joined
  enough : 2 ≤ next.graph.workers.length
  checkpoint : next.graph.checkpointGeneration = max old.graph.checkpointGeneration
    old.state.checkpointGeneration
  certified : next.graph.electionCertificate = certificate.getD []
  graphOk : graphIntact digests next.graph = true
  facts : Validation.GraphFacts next.graph
  planOk : planIntact digests next.plan = true
  state : next.state = integratedState digests next.graph .reconfiguring
    old.state.window old.state.targetWindows
    old.state.initialLossMicros old.state.currentLossMicros
    (Saturating.succ32 old.state.recoveryCount)

theorem nextSnapshot_spec {next : Snapshot} {certificate : Option (List NodeId)}
    (hNext : nextSnapshot digests self profiles old failed joined certificate = .ok next) :
    Succeeds digests self old failed joined certificate next := by
  unfold nextSnapshot at hNext
  simp only [bind_eq_ok_iff] at hNext
  rcases hNext with
    ⟨⟨⟩, hWorkers, planned, hPlanned, stages, -, bound, hBound, ⟨⟩, hPlan, ⟨⟩, hGraph, hResult⟩
  cases hResult
  rw [checkWorkers_eq_ok_iff] at hWorkers
  rw [checked_eq_ok_iff] at hPlan hGraph
  have hSame : bound.workers = nextWorkers old.graph failed joined := by
    rw [bindBackendAssignments_workers hBound, nextPlan_workers digests hPlanned]
  have hFacts := graphFacts_of_ok hGraph
  exact
    { coordinator := rfl
      proposer := rfl
      job := rfl
      generation := rfl
      later := hFacts.parent _ rfl
      workers := hSame
      enough := by
        rw [hSame]
        exact hWorkers.1
      checkpoint := rfl
      certified := rfl
      graphOk := by
        unfold graphIntact
        rw [hGraph]
        simp [nextGraph, executionGraphHash, Except.isOk, Except.toBool]
      facts := hFacts
      planOk := by
        unfold planIntact
        rw [hPlan]
        simp [hashPlan, Except.isOk, Except.toBool]
      state := rfl }

end IntelligenceNetwork.Frontier
