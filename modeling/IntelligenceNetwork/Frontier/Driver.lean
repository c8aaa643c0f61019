import IntelligenceNetwork.Frontier.Reconfigure

/-
  The driver of an integrated job.

  A driver activates its graph and repeats one window after the
  other.  Whatever fails is answered by the next graph, or by
  trying again.  The driver is cut where it waits, and a step is
  given what the wait brought: a message, the answers to a
  probe, the result of a round.

  Main declarations:
    * `TaskEvent`
    * `commitIntegratedCheckpoint`
    * `driveStep`
-/

----
-- Events
----

namespace IntelligenceNetwork.Frontier

/-
  The members that answered each probe: the two rounds that
  look for a lost worker, the one for a quorum without it, and
  the same two for a slow worker.
-/
structure Probes where
  (first second quorum slow slowQuorum : Finset NodeId)

/- What ends a wait of a task. -/
inductive TaskEvent where
  | inbound (peer : NodeId) (message : TrainingV4Message)
  | deadline
  | closed
  | acknowledged (result : Except NodeError Unit)
  | installed (result : Except NodeError Unit)
  | headed (profiles : List V4WorkerCapability)
  | probed (probes : Probes)
  | tensorDone (result : Option TensorRound)
  | pipelineDone (done : Bool)
  | collectiveDone (done : Bool) (unreachable : Finset NodeId)
  | takeover
  | confirmed (members unreachable : Finset NodeId)

/- A task's step: the node after it and what it did. -/
structure Stepped where
  member : Member
  effects : List Effect

----
-- Lost and New Workers
----

variable (digests : Digests) (self : NodeId)

def missingWorkers (graph : V4ExecutionGraph) (confirmed : Finset NodeId) : List NodeId :=
  graph.workers.filter (fun worker =>
    worker ≠ self ∧ worker ∉ confirmed)

def least (nodes : List NodeId) : Option NodeId :=
  (nodes.insertionSort (· ≤ ·)).head?

section

variable (graph : V4ExecutionGraph)

/- The least worker that two probes in a row have missed. -/
def firstUnavailableWorker (probes : Probes) : Option NodeId :=
  let missing := missingWorkers self graph probes.first
  if missing.isEmpty then
    none
  else
    least ((missingWorkers self graph probes.second).filter missing.contains)

def hasIntegratedReconfigurationQuorum (failed : NodeId) (confirmed : Finset NodeId) : Bool :=
  (graph.workers.filter (fun candidate =>
    candidate ≠ failed ∧ (candidate = self ∨ candidate ∈ confirmed))).length ≥
    graph.workers.length / 2 + 1

def slowestResponsiveWorker (confirmed : Finset NodeId) : Option NodeId :=
  least (missingWorkers self graph confirmed)

/- The slow worker to replace, if a quorum is left without it. -/
def straggler (probes : Probes) : Option NodeId :=
  (slowestResponsiveWorker self graph probes.slow).filter
    (hasIntegratedReconfigurationQuorum self graph · probes.slowQuorum)

def findJoinedWorker (profiles : List V4WorkerCapability) : Option NodeId :=
  if graph.workers.length ≥ v4MaxWorkers then
    none
  else
    least ((profiles.map (·.node)).filter (fun candidate =>
      candidate ∉ graph.workers ∧ candidate ∉ graph.retiredWorkers))

end

----
-- States and Checkpoints
----

section

variable (graph : V4ExecutionGraph) (state : V4IntegratedStateRecord)

/- A state is published to the other workers, best effort. -/
def broadcastIntegratedState : List Effect :=
  (graph.workers.filter (· ≠ self)).map (fun worker => .send worker (.integratedState state))

/- The state record of a graph that becomes runnable. -/
def runningState (windows : UInt64) : V4IntegratedStateRecord :=
  V4IntegratedStateRecord.hashed digests { state with
    graphGeneration := graph.graphGeneration
    planHash := graph.planHash
    membershipEpoch := graph.membershipEpoch
    coordinator := graph.coordinator
    optimizerGeneration := graph.optimizerGeneration
    checkpointGeneration := max state.checkpointGeneration graph.checkpointGeneration
    branch := graph.branch
    phase := .running
    targetWindows := windows }

end

def commitIntegratedGraphActivation (env : HandlerEnv) (member : Member) (snapshot : Snapshot)
    (windows : UInt64) : Handled Snapshot :=
  let state := runningState digests snapshot.graph snapshot.state windows
  if !env.stateWritten then
    ⟨member, [], .error .storage⟩
  else
    ⟨recordState member state, [.recorded state, .started snapshot.graph] ++
      broadcastIntegratedState self snapshot.graph state, .ok { snapshot with state := state }⟩

/- The hashes of all shards, in the order of the shards. -/
def shardHashes (missing : String) (hashes : Std.TreeMap UInt16 ArtifactId)
    (shards : List V4ShardOwnership) : Except NodeError (List ArtifactId) :=
  shards.mapM (fun shard =>
    match hashes[shard.shardId]? with
    | none => .error (.invalidConfig missing)
    | some hash => .ok hash)

def checkpointProviders (graph : V4ExecutionGraph) : List NodeId :=
  dedupAdjacent ((graph.shards.flatMap (fun shard =>
    shard.owners ++ shard.replicas)).insertionSort (· ≤ ·))

def V4CheckpointRecord.hashed (checkpoint : V4CheckpointRecord) : V4CheckpointRecord :=
  { checkpoint with manifestHash := checkpointHash digests checkpoint }

/- A manifest of the next checkpoint generation, without its hash. -/
def manifestContent (member : Member) (snapshot : Snapshot)
    (shardHashes : List ArtifactId) : V4CheckpointRecord :=
  let graph := snapshot.graph
  let state := snapshot.state
  { jobId := graph.jobId
    planGeneration := snapshot.plan.planGeneration
    modelGeneration := (graph.shards.head?.map (·.modelGeneration)).getD 0
    optimizerGeneration := graph.optimizerGeneration
    membershipEpoch := graph.membershipEpoch
    checkpointGeneration := Saturating.add state.checkpointGeneration 1
    branch := graph.branch
    parent := member.held.checkpoints[state.checkpointGeneration]?.map (·.manifestHash)
    shardHashes := shardHashes
    providers := checkpointProviders graph
    complete := true
    manifestHash := default }

def checkpointManifest (member : Member) (snapshot : Snapshot) (tensor : TensorRound) :
    Except NodeError V4CheckpointRecord := do
  let graph := snapshot.graph
  let tensorHashes ← shardHashes "checkpoint is missing a tensor shard"
    tensor.tensorHashes graph.shards
  let optimizerHashes ← shardHashes "checkpoint is missing an optimizer shard"
    tensor.optimizerHashes graph.shards
  .ok (V4CheckpointRecord.hashed digests
    (manifestContent member snapshot (tensorHashes ++ optimizerHashes)))

/- The remote providers, in the order in which they are sent to. -/
def remoteProviders (checkpoint : V4CheckpointRecord) : List NodeId :=
  checkpoint.providers.filter (· ≠ self)

/-
  The first part of a commit: the manifest is kept and sent.
  It ends at the first provider that cannot be reached, and
  otherwise leaves the providers to wait for.
-/
def commitIntegratedCheckpoint (env : HandlerEnv) (unreachable : Finset NodeId) (member : Member)
    (snapshot : Snapshot) (tensor : TensorRound) : Handled (V4CheckpointRecord × Finset NodeId) :=
  match checkpointManifest digests member snapshot tensor with
  | .error error => ⟨member, [], .error error⟩
  | .ok checkpoint =>
    if !env.recordWritten then
      ⟨makeRoomForCheckpoint member, [], .error .storage⟩
    else
      let stored := storeCheckpoint member checkpoint
      let remote := remoteProviders self checkpoint
      match remote.find? (· ∈ unreachable) with
      | none =>
        ⟨stored, .offered checkpoint :: remote.map (fun provider =>
          .send provider (.checkpointRecord checkpoint)), .ok (checkpoint, remote.toFinset)⟩
      | some provider =>
        ⟨stored, .offered checkpoint :: (remote.takeWhile (· ∉ unreachable)).map
          (fun provider => .send provider (.checkpointRecord checkpoint)),
          .error (.invalidConfig s!"checkpoint provider {provider.bytes.toHex} is unavailable")⟩

/- A message that acknowledges the manifest. -/
def acknowledgesCheckpoint (checkpoint : V4CheckpointRecord)
    (peer : NodeId) : TrainingV4Message → Bool
| .stateAck ack =>
  peer != self && ack.accepted && ack.kind == .checkpoint &&
    ack.stateHash == checkpoint.manifestHash
| _ => false

----
-- Leaving and Changing the Graph
----

section

variable (member : Member) (effects : List Effect)

/- A failed driver is gone, or is a participant again. -/
def failDriver (within : Option Participant) : Stepped :=
  ⟨{ member with
    task :=
      match within with
      | none => .none
      | some participant => .participant participant .waiting }, effects⟩

def goOn (driver : Driver) (stage : Stage) (within : Option Participant) : Stepped :=
  ⟨{ member with task := .driving driver stage within }, effects⟩

/- Send the driver's graph, as one of the attempts left. -/
def activateAgain (driver : Driver) (attempts : Nat) (within : Option Participant) : Stepped :=
  if attempts = 0 then
    failDriver member effects within
  else
    let begun := beginActivation self driver.snapshot driver.windows
      driver.checkpointEvery (some attempts)
    goOn member (effects ++ begun.2) driver begun.1 within

end

/-
  Build the next graph and activate it, or fail.  What is
  counted for the change may depend on the next graph.
-/
def changeGraph (env : HandlerEnv) (profiles : List V4WorkerCapability) (member : Member)
    (driver : Driver) (failed joined : Option NodeId) (counted : V4ExecutionGraph → DriverCounts)
    (attempts : Nat) (within : Option Participant) : Stepped :=
  let handled := reconfigureIntegratedGraphMembership digests self env
    profiles member driver.snapshot failed joined none
  match handled.result with
  | .error _ => failDriver handled.member handled.effects within
  | .ok next =>
    activateAgain self handled.member handled.effects
      { driver with snapshot := next, counts := counted next.graph } attempts within

section

variable (counts : DriverCounts)

def DriverCounts.reconfigured : DriverCounts :=
  { counts with graphReconfigurations := Saturating.add counts.graphReconfigurations 1 }

def DriverCounts.shardRecovered : DriverCounts :=
  { counts with shardRecoveries := Saturating.add counts.shardRecoveries 1 }

def DriverCounts.tensorRecovered : DriverCounts :=
  { counts with
    tensorRecoveries := Saturating.add counts.tensorRecoveries 1
    optimizerRecoveries := Saturating.add counts.optimizerRecoveries 1 }

def DriverCounts.pipelineRecovered : DriverCounts :=
  { counts with pipelineRecoveries := Saturating.add counts.pipelineRecoveries 1 }

/-
  What the next graph after a lost worker is counted as: the
  recoveries of the roles that the node has in it.
-/
def DriverCounts.afterLoss (replaced : Bool) (next : V4ExecutionGraph) : DriverCounts :=
  let counts := counts.reconfigured.shardRecovered
  let counts :=
    if replaced then
      { counts with coordinatorReplacements := Saturating.add counts.coordinatorReplacements 1 }
    else
      counts
  let counts :=
    if next.shards.any (·.owners.contains self) then counts.tensorRecovered else counts
  let counts :=
    if next.pipelineStages.any (·.worker == self) then counts.pipelineRecovered else counts
  { counts with branchReconciled := true }

/- What the next graph after a failed round is counted as. -/
def DriverCounts.afterRound : RoundKind → DriverCounts
| .tensor => counts.reconfigured.shardRecovered.tensorRecovered
| .pipeline => counts.reconfigured.shardRecovered.pipelineRecovered
| .collective => counts.reconfigured

end

----
-- Activation
----

/- A member's acknowledgement of the driver's graph. -/
def acknowledgesGraph (graph : V4ExecutionGraph) (pending : Finset NodeId)
    (peer : NodeId) : TrainingV4Message → Bool
| .integratedAck ack =>
  peer ∈ pending && ack.accepted && ack.jobId == graph.jobId &&
    ack.graphGeneration == graph.graphGeneration && ack.worker == peer
| _ => false

/- The plan is sent to the members that have the graph. -/
def planNotices (snapshot : Snapshot) : List Effect :=
  (snapshot.graph.workers.filter (· ≠ self)).map (fun worker => .send worker (.plan snapshot.plan))

/- An activation that fails is the end of the first one only. -/
def activationFails (member : Member) (driver : Driver) (attempts : Option Nat)
    (within : Option Participant) (error : NodeError) : Stepped :=
  match attempts with
  | none => failDriver member [] within
  | some attempts => goOn member [] driver (.activationFailed attempts error) within

section

variable (env : HandlerEnv) (member : Member) (driver : Driver)

/- The graph is installed everywhere and becomes runnable. -/
def finishActivation (attempts : Option Nat) (within : Option Participant) : Stepped :=
  let handled := commitIntegratedGraphActivation digests self env member
    driver.snapshot driver.windows
  match handled.result with
  | .error _ => failDriver handled.member handled.effects within
  | .ok snapshot =>
    let driver :=
      match attempts with
      | none => Driver.start snapshot driver.windows driver.checkpointEvery
      | some _ => { driver with snapshot := snapshot }
    goOn handled.member handled.effects driver .windowHead within

/- A lost member costs one attempt and leads to the next graph. -/
def retryActivation (attempts : Nat) (within : Option Participant) (probes : Probes) : Stepped :=
  let graph := driver.snapshot.graph
  match firstUnavailableWorker self graph probes with
  | none => activateAgain self member [] driver (attempts - 1) within
  | some failed =>
    if hasIntegratedReconfigurationQuorum self graph failed probes.quorum then
      changeGraph digests self env [] member driver (some failed) none (fun _ => driver.counts)
        (attempts - 1) within
    else
      failDriver member [] within

end

----
-- One Window
----

/- A newer graph has taken the job away from the driver. -/
def fenced (held : Option V4ExecutionGraph) (graph : V4ExecutionGraph) : Bool :=
  !held.any (fun current =>
    current.graphGeneration == graph.graphGeneration && current.graphHash == graph.graphHash &&
      current.planHash == graph.planHash && current.coordinator == self)

/- The first graph with four shards is left to settle. -/
def splitSettling (driver : Driver) : Bool :=
  driver.window == 0 && driver.snapshot.graph.shards.length == 4 &&
    driver.snapshot.graph.checkpointGeneration ≤ 1

def joiningWorker (driver : Driver) (profiles : List V4WorkerCapability) : Option NodeId :=
  if !splitSettling driver && driver.joinAllowedAfterWindow ≤ driver.window then
    findJoinedWorker driver.snapshot.graph profiles
  else
    none

/- What a driver reports when all windows are done. -/
def driverResult (driver : Driver) : V4IntegratedResult :=
  let counts := driver.counts
  let graph := driver.snapshot.graph
  { requestId := graph.jobId
    jobId := graph.jobId
    graphGeneration := graph.graphGeneration
    windowsCompleted := driver.window
    initialLossMicros := driver.initialLoss
    finalLossMicros := driver.currentLoss
    tensorSteps := counts.tensorSteps
    pipelineSteps := counts.pipelineSteps
    collectiveRounds := counts.collectiveRounds
    checkpointGenerations := counts.checkpointGenerations
    graphReconfigurations := counts.graphReconfigurations
    coordinatorReplacements := counts.coordinatorReplacements
    shardRecoveries := counts.shardRecoveries
    tensorRecoveries := counts.tensorRecoveries
    pipelineRecoveries := counts.pipelineRecoveries
    optimizerRecoveries := counts.optimizerRecoveries
    checkpointRecoveries := counts.checkpointRecoveries
    maxUpdateFanin := counts.maxUpdateFanin
    allUpdatesToOneCoordinator := false
    singleOptimizerAuthority := false
    singleCheckpointAuthority := false
    globalStepBarrier := false
    modelMustFitOneWorker := false
    targetReached := driver.initialLoss > 0 && driver.currentLoss < driver.initialLoss
    branchReconciled := counts.branchReconciled
    phase := .committed
    backendTasks := Saturating.add (Saturating.add counts.tensorSteps counts.pipelineSteps)
      counts.collectiveRounds
    backendReplans := counts.graphReconfigurations
    backendFallbacks := 0
    backendPortableCheckpoint := counts.checkpointGenerations > 0 }

section

variable (env : HandlerEnv) (member : Member) (driver : Driver) (within : Option Participant)

/- The end of the loop: the job is recorded as committed. -/
def finishDriver : Stepped :=
  let graph := driver.snapshot.graph
  let state := V4IntegratedStateRecord.hashed digests
    { driver.snapshot.state with phase := .committed }
  if !env.stateWritten then
    failDriver member [] within
  else
    let recorded := recordState member state
    let effects : List Effect := .recorded state :: broadcastIntegratedState self graph state
    let result := driverResult driver
    if !env.recordWritten then
      failDriver recorded effects within
    else
      let reply : List Effect :=
        if graph.replyTo = self then [] else [.send graph.replyTo (.integratedResult result)]
      ⟨{ recorded with task := .none }, effects ++ reply ++ [.finished result]⟩

/- The top of the loop, up to the first wait of the window. -/
def headWindow (profiles : List V4WorkerCapability) : Stepped :=
  if driver.windows ≤ driver.window then
    finishDriver digests self env member driver within
  else if fenced self member.held.graph driver.snapshot.graph then
    failDriver member [] within
  else
    match joiningWorker driver profiles with
    | some joined =>
      changeGraph digests self env profiles member
        { driver with joinAllowedAfterWindow := Saturating.add driver.window v4JoinCooldownWindows }
        none (some joined) (fun _ => driver.counts.reconfigured) v4MaxWorkers within
    | none => goOn member [] driver .probing within

/- A worker that is lost before the rounds is replaced. -/
def probeWindow (probes : Probes) : Stepped :=
  let graph := driver.snapshot.graph
  match firstUnavailableWorker self graph probes with
  | none => goOn member [] driver .tensorRound within
  | some failed =>
    if hasIntegratedReconfigurationQuorum self graph failed probes.quorum then
      changeGraph digests self env [] member driver (some failed) none
        (driver.counts.afterLoss self (failed == graph.coordinator)) v4MaxWorkers within
    else
      goOn member [] driver .windowHead within

end

/-
  A failed round: a lost worker is replaced at once, a slow one
  after the second failure in a row.
-/
def failRound (env : HandlerEnv) (member : Member) (driver : Driver) (round : RoundKind)
    (within : Option Participant) (probes : Probes) : Stepped :=
  let graph := driver.snapshot.graph
  match firstUnavailableWorker self graph probes with
  | some failed =>
    if hasIntegratedReconfigurationQuorum self graph failed probes.quorum then
      changeGraph digests self env [] member { driver with roundTimeoutStreak := 0 }
        (some failed) none (fun _ => driver.counts.afterRound round) v4MaxWorkers within
    else
      goOn member [] driver .windowHead within
  | none =>
    let streak := Saturating.succ8 driver.roundTimeoutStreak
    let slow :=
      if v4StragglerFailuresRequired ≤ streak then straggler self graph probes else none
    match slow with
    | some slow =>
      changeGraph digests self env [] member { driver with roundTimeoutStreak := 0 }
        (some slow) none (fun _ =>
          { driver.counts.afterRound round with branchReconciled := true })
        v4MaxWorkers within
    | none => goOn member [] { driver with roundTimeoutStreak := streak } .windowHead within

def finishTensor (driver : Driver) (tensor : TensorRound) : Driver :=
  { driver with
    currentLoss := tensor.loss
    initialLoss :=
      if driver.initialLoss = 0 then tensor.loss else driver.initialLoss
    counts :=
      { driver.counts with
        tensorSteps := Saturating.add driver.counts.tensorSteps tensor.steps
        maxUpdateFanin := max driver.counts.maxUpdateFanin 2 } }

/- The window counter moves before the checkpoint is tried. -/
def completeWindow (driver : Driver) : Driver :=
  let window := Saturating.add driver.window 1
  let graph := driver.snapshot.graph
  let state := driver.snapshot.state
  { driver with
    window := window
    roundTimeoutStreak := 0
    counts :=
      { driver.counts with collectiveRounds := Saturating.add driver.counts.collectiveRounds 1 }
    snapshot :=
      { driver.snapshot with
        state :=
          { state with
            window := window
            graphGeneration := graph.graphGeneration
            planHash := graph.planHash
            branch := graph.branch
            coordinator := graph.coordinator
            currentLossMicros := driver.currentLoss
            initialLossMicros :=
              if driver.initialLoss = 0 then state.initialLossMicros else driver.initialLoss } } }

def checkpointDue (driver : Driver) : Bool :=
  driver.window % driver.checkpointEvery == 0 || driver.window == driver.windows

section

variable (env : HandlerEnv) (member : Member)

/- The end of a window: its state is recorded and published. -/
def publishWindow (effects : List Effect) (driver : Driver)
    (within : Option Participant) : Stepped :=
  let state := V4IntegratedStateRecord.hashed digests driver.snapshot.state
  if !env.stateWritten then
    failDriver member effects within
  else
    goOn (recordState member state)
      (effects ++ .recorded state :: broadcastIntegratedState self driver.snapshot.graph state)
      { driver with snapshot := { driver.snapshot with state := state } } .windowHead within

/- The manifest is acknowledged by all its providers. -/
def settleCheckpoint (effects : List Effect) (driver : Driver) (checkpoint : V4CheckpointRecord)
    (within : Option Participant) : Stepped :=
  let state := driver.snapshot.state
  publishWindow digests self env member (effects ++ [.committed driver.window checkpoint])
    { driver with
      snapshot :=
        { driver.snapshot with
          state := { state with checkpointGeneration := checkpoint.checkpointGeneration } }
      counts :=
        { driver.counts with
          checkpointGenerations := Saturating.add driver.counts.checkpointGenerations 1 } }
    within

/- The rest of a window after its last round. -/
def endWindow (driver : Driver) (tensor : TensorRound) (within : Option Participant)
    (unreachable : Finset NodeId) : Stepped :=
  let driver := completeWindow driver
  if checkpointDue driver then
    let handled := commitIntegratedCheckpoint digests self env unreachable
      member driver.snapshot tensor
    match handled.result with
    | .error _ => goOn handled.member handled.effects driver .checkpointFailed within
    | .ok (checkpoint, pending) =>
      if pending = ∅ then
        settleCheckpoint digests self env handled.member handled.effects driver checkpoint within
      else
        goOn handled.member handled.effects driver (.checkpointing checkpoint pending) within
  else
    publishWindow digests self env member [] driver within

/- After a failed commit the loop goes on with the next window. -/
def failCheckpoint (driver : Driver) (within : Option Participant) (probes : Probes) : Stepped :=
  let graph := driver.snapshot.graph
  match firstUnavailableWorker self graph probes with
  | none => goOn member [] driver .windowHead within
  | some failed =>
    if hasIntegratedReconfigurationQuorum self graph failed probes.quorum then
      let counts := driver.counts.reconfigured
      changeGraph digests self env [] member driver (some failed) none (fun _ =>
        { counts with checkpointRecoveries := Saturating.add counts.checkpointRecoveries 1 })
        v4MaxWorkers within
    else
      goOn member [] driver .windowHead within

end

----
-- The Driver
----

def activationTimedOut (pending : Finset NodeId) : NodeError :=
  .invalidConfig s!"integrated graph activation missing {pending.card} participant acknowledgements"

/- One step of a driver, from one wait to the next. -/
def driveStep (env : HandlerEnv) (member : Member) (driver : Driver) (within : Option Participant) :
    Stage → TaskEvent → Option Stepped
| .activating attempts pending, .inbound peer message =>
  if acknowledgesGraph driver.snapshot.graph pending peer message then
    let rest := pending.erase peer
    if rest = ∅ then
      some (goOn member (planNotices self driver.snapshot) driver (.acknowledging attempts) within)
    else
      some (goOn member [] driver (.activating attempts rest) within)
  else
    some (goOn member [] driver (.activating attempts pending) within)
| .activating attempts pending, .deadline =>
  some (activationFails member driver attempts within (activationTimedOut pending))
| .activating attempts _, .closed =>
  some (activationFails member driver attempts within
    (.invalidConfig "integrated graph activation mailbox closed"))
| .acknowledging attempts, .acknowledged result =>
  match result with
  | .error error => some (activationFails member driver attempts within error)
  | .ok () =>
    some (goOn (syncLocalDataShardsToPlan self env.shardsWritten member driver.snapshot.plan)
      [.activated driver.snapshot.graph] driver (.installing attempts) within)
| .installing attempts, .installed result =>
  match result with
  | .error error => some (activationFails member driver attempts within error)
  | .ok () => some (finishActivation digests self env member driver attempts within)
| .activationFailed attempts _, .probed probes =>
  some (retryActivation digests self env member driver attempts within probes)
| .windowHead, .headed profiles => some (headWindow digests self env member driver within profiles)
| .probing, .probed probes => some (probeWindow digests self env member driver within probes)
| .tensorRound, .tensorDone none => some (goOn member [] driver (.roundFailed .tensor) within)
| .tensorRound, .tensorDone (some tensor) =>
  some (goOn member [] (finishTensor driver tensor) (.pipelineRound tensor) within)
| .pipelineRound _, .pipelineDone false =>
  some (goOn member [] driver (.roundFailed .pipeline) within)
| .pipelineRound tensor, .pipelineDone true =>
  some (goOn member [] { driver with
      counts :=
        { driver.counts with pipelineSteps := Saturating.add driver.counts.pipelineSteps 1 } }
    (.collectiveRound tensor) within)
| .collectiveRound _, .collectiveDone false _ =>
  some (goOn member [] driver (.roundFailed .collective) within)
| .collectiveRound tensor, .collectiveDone true unreachable =>
  some (endWindow digests self env member driver tensor within unreachable)
| .roundFailed round, .probed probes =>
  some (failRound digests self env member driver round within probes)
| .checkpointing checkpoint pending, .inbound peer message =>
  if acknowledgesCheckpoint self checkpoint peer message then
    let rest := pending.erase peer
    if rest = ∅ then
      some (settleCheckpoint digests self env member [] driver checkpoint within)
    else
      some (goOn member [] driver (.checkpointing checkpoint rest) within)
  else
    some (goOn member [] driver (.checkpointing checkpoint pending) within)
| .checkpointing _ _, .deadline | .checkpointing _ _, .closed =>
  some (goOn member [] driver .checkpointFailed within)
| .checkpointFailed, .probed probes =>
  some (failCheckpoint digests self env member driver within probes)
| _, _ => none

end IntelligenceNetwork.Frontier
