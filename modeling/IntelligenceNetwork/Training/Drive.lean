import IntelligenceNetwork.Training.Broadcast

/-
  The coordinator of an autonomous job.

  The groups advance on their own.  What the coordinator meets
  while it handles one event out of its mailbox is a turn.  The
  report on a finished job is not modelled.

  Main declarations:
    * `Drive`
    * `commitContextCheckpoint`
    * `handleAggregate`
    * `driveStep`
-/

----
-- Committing a Checkpoint
----

namespace IntelligenceNetwork.Training

/- What happens while a checkpoint is committed. -/
structure CommitEnv where
  (checkpointWritten stateWritten : Bool)
  acks : List Arrival

def summaryShard (summary : TrainingShardSummary) : TrainingCheckpointShard where
  shardId := summary.shardId
  artifact := summary.stateHash
  generation := summary.generation
  providers := summary.providers

def makeCheckpointFromContext (digest : Digest) (context : Context) :
    Except NodeError TrainingCheckpointManifest :=
  let shards := context.shardSummaries.values.map summaryShard
  if shards.isEmpty then
    .error (.invalidConfig "cannot commit an autonomous checkpoint without shard state")
  else
    let generation := (shards.map TrainingCheckpointShard.generation).max?.getD 0
    let manifest : TrainingCheckpointManifest :=
      { jobId := context.start.jobId
        modelGeneration := generation
        optimizerGeneration := generation
        membershipEpoch := context.start.membershipEpoch
        term := context.term
        checkpointGeneration := Saturating.add context.checkpointGeneration 1
        parent := context.checkpoint
        shards := shards
        datasetProgress := shards.map (fun shard =>
          (shard.shardId, shard.generation))
        hash := default }
    .ok { manifest with hash := checkpointHash digest manifest }

section

variable (context : Context) (manifest : TrainingCheckpointManifest)

def contextCommit : TrainingCheckpointCommit where
  jobId := context.start.jobId
  coordinator := context.coordinator
  term := context.term
  membershipEpoch := context.start.membershipEpoch
  branch := context.branch
  manifest := manifest
  quorum := context.start.participants

def recordCheckpoint : Context :=
  { context with
    checkpointGeneration := manifest.checkpointGeneration
    checkpoint := some manifest.hash
    checkpoints := context.checkpoints ++ [manifest.hash]
    checkpointProviders := OrderedMap.insertAll TrainingCheckpointShard.artifact
      TrainingCheckpointShard.providers context.checkpointProviders manifest.shards }

end

/- The last step of a commit writes the new state. -/
def persistCommitted (env : CommitEnv) (context : Context) (effects : List Effect)
    (manifest : TrainingCheckpointManifest) : Outcome TrainingCheckpointManifest :=
  if env.stateWritten then
    ⟨context, effects ++ [.persistedState context.state], .ok manifest⟩
  else
    ⟨context, effects, .error .storage⟩

/-
  Only a final checkpoint waits for acknowledgements.  A
  checkpoint is final by its own generation, which counts the
  commits before it, and by the generations of its shards.
-/
def commitContextCheckpoint (digest : Digest) (node : NodeId) (env : CommitEnv)
    (context : Context) : Outcome TrainingCheckpointManifest :=
  match makeCheckpointFromContext digest context with
  | .error error => ⟨context, [], .error error⟩
  | .ok manifest =>
    let commit := contextCommit context manifest
    let recorded := recordCheckpoint context manifest
    let persisted := Effect.persistedCheckpoint commit
    if !env.checkpointWritten then
      ⟨context, [], .error .storage⟩
    else if manifestIsFinal context.start manifest then
      let sent := broadcastCheckpointAndWait node recorded commit env.acks
      match sent.result with
      | .ok true =>
        persistCommitted env { sent.context with finalCheckpointCommitted := true }
          (persisted :: sent.effects) manifest
      | _ =>
        ⟨sent.context, persisted :: sent.effects,
          .error (.invalidConfig "V3 final checkpoint did not reach the live membership")⟩
    else
      persistCommitted env recorded
        (persisted :: broadcast node recorded (.checkpointCommit commit)) manifest

----
-- Dispatching Windows
----

/- What happens while a window is dispatched. -/
structure DispatchEnv where
  round : Round
  updateSent : Bool

/- The newest generation known of a group's shard. -/
def shardGeneration (context : Context) (group : TrainingGroup) : UInt64 :=
  (context.shardSummaries[group.shardId]?.map TrainingShardSummary.generation).getD 0

def autonomousWindow (context : Context) (group : TrainingGroup)
    (window : UInt64) : TrainingWindow where
  jobId := context.start.jobId
  coordinator := context.coordinator
  term := context.term
  membershipEpoch := context.start.membershipEpoch
  branch := context.branch
  window := window
  groupId := group.groupId
  shardId := group.shardId
  aggregator := group.aggregator
  members := group.members
  baseGeneration := shardGeneration context group
  localSteps := context.start.localSteps
  maxStaleness := context.start.maxStaleness

/- A coordinator that belongs to the group plays its part. -/
def dispatchToMember (digest : Digest) (node : NodeId) (env : DispatchEnv) (group : TrainingGroup)
    (message : TrainingWindow) (context : Context) (member : NodeId) : Context × List Effect :=
  if member ∈ context.failed then
    (context, [])
  else if member ≠ node then
    (context, [.sent member (.window message)])
  else if member = group.aggregator then
    let collected := collectGroupUpdates digest node env.round context group message
    (collected.context, collected.effects)
  else if context.assignment.shardId = group.shardId then
    let computed := computeAndSendUpdate node env.updateSent context message group.aggregator
    (computed.context, computed.effects)
  else
    (context, [])

def dispatchToMembers (digest : Digest) (node : NodeId) (env : DispatchEnv) (group : TrainingGroup)
    (message : TrainingWindow) : Context → List NodeId → Context × List Effect
| context, [] => (context, [])
| context, member :: members =>
  let here := dispatchToMember digest node env group message context member
  let rest := dispatchToMembers digest node env group message here.1 members
  (rest.1, here.2 ++ rest.2)

section

variable (digest : Digest) (node : NodeId) (env : DispatchEnv) (context : Context)
variable (group : TrainingGroup)

def dispatchAutonomousWindow (window : UInt64) : Context × List Effect :=
  dispatchToMembers digest node env group (autonomousWindow context group window) context
    group.members

/- The window after a shard's generation, if there is one. -/
def dispatchNext : Context × List Effect :=
  let nextWindow := (context.shardSummaries[group.shardId]?.map (fun summary =>
    Saturating.add summary.generation 1)).getD 1
  if nextWindow ≤ context.start.maxWindows then
    dispatchAutonomousWindow digest node env context group nextWindow
  else
    (context, [])

end

def dispatchGroups (digest : Digest) (node : NodeId) (envs : UInt16 → DispatchEnv) :
    Context → List TrainingGroup → Context × List Effect
| context, [] => (context, [])
| context, group :: groups =>
  let here := dispatchNext digest node (envs group.groupId) context group
  let rest := dispatchGroups digest node envs here.1 groups
  (rest.1, here.2 ++ rest.2)

----
-- Turns
----

/-
  The state of the loop.  The last manifest that was committed
  is remembered for the statements about it.
-/
structure Drive where
  context : Context
  completed : Finset UInt16
  committed : Option TrainingCheckpointManifest
  log : List Effect

/- One event, and what the coordinator meets handling it. -/
structure Turn where
  event : V3Inbound
  connected : NodeId → Bool
  reconnected : NodeId → Bool
  stateWritten : Bool
  commit : CommitEnv
  dispatch : UInt16 → DispatchEnv

inductive TurnResult where
  | running (drive : Drive)
  | handedOver (drive : Drive)
  | failed (error : NodeError) (drive : Drive)

def aggregateRejected (context : Context) (group : TrainingGroup) (peer : NodeId)
    (aggregate : TrainingAggregate) : Bool :=
  peer != aggregate.aggregator || !group.members.contains peer ||
    aggregate.jobId != context.start.jobId || aggregate.term != context.term ||
    aggregate.branch != context.branch || aggregate.shardId != group.shardId ||
    aggregate.window == 0 || aggregate.window > context.start.maxWindows ||
    context.shardSummaries[aggregate.shardId]?.any (fun summary =>
      aggregate.generation ≤ summary.generation)

def acceptAggregate (context : Context) (aggregate : TrainingAggregate) : Context :=
  { context with
    window := max context.window aggregate.window
    groupProgress := context.groupProgress.insert aggregate.groupId aggregate.window
    acceptedUpdates := Saturating.add context.acceptedUpdates
      (UInt64.ofNat aggregate.contributors.length)
    shardValues := context.shardValues.insert aggregate.shardId
      (aggregate.value, aggregate.optimizer)
    shardSummaries := context.shardSummaries.insert aggregate.shardId
      { shardId := aggregate.shardId
        generation := aggregate.generation
        stateHash := aggregate.stateArtifact
        providers := providers aggregate } }

/- A checkpoint is due at an interval once no shard is new. -/
def checkpointDue (context : Context) (aggregate : TrainingAggregate) : Bool :=
  context.shardSummaries.values.all (fun summary => summary.generation > 0) &&
    aggregate.window % context.start.checkpointEvery == 0

/- A group is complete with the aggregate of its last window. -/
def completeGroup (drive : Drive) (group : TrainingGroup) (aggregate : TrainingAggregate) : Drive :=
  let context := drive.context
  if aggregate.window ≥ context.start.maxWindows then
    { drive with
      context :=
        { context with
          nonBarrierProgressObserved := context.nonBarrierProgressObserved ||
            context.groupProgress.toList.any (fun entry =>
              entry.1 != aggregate.groupId && entry.2 < context.start.maxWindows)
          groupCompletionOrder :=
            if group.groupId ∈ drive.completed then
              context.groupCompletionOrder
            else
              context.groupCompletionOrder ++ [group.groupId] }
      completed := insert group.groupId drive.completed }
  else
    drive

variable (digest : Digest) (node : NodeId)

section

variable (drive : Drive) (turn : Turn)

def handleAggregate (peer : NodeId) (aggregate : TrainingAggregate) : TurnResult :=
  match groupFor drive.context.start aggregate.groupId with
  | none => .running drive
  | some group =>
    if aggregateRejected drive.context group peer aggregate then
      .running { drive with context := drive.context.countRejected }
    else
      let accepted := acceptAggregate drive.context aggregate
      if !turn.stateWritten then
        .failed .storage { drive with context := accepted }
      else
        let announced :=
          { drive with
            context := accepted
            log := drive.log ++ .persistedState accepted.state :: broadcast node accepted
              (.state accepted.state) }
        if checkpointDue accepted aggregate then
          let committed := commitContextCheckpoint digest node turn.commit accepted
          let after :=
            { announced with
              context := committed.context
              log := announced.log ++ committed.effects }
          match committed.result with
          | .error error => .failed error after
          | .ok manifest =>
            .running (completeGroup { after with committed := some manifest } group aggregate)
        else
          .running (completeGroup announced group aggregate)

/- The groups that a peer aggregates. -/
def groupsOf (context : Context) (peer : NodeId) : List TrainingGroup :=
  context.start.groups.filter (fun group => group.aggregator == peer)

/- Other failed members get one attempt to come back. -/
def restoreMembers (turn : Turn) (peer : NodeId) : Context → List NodeId → Context
| context, [] => context
| context, member :: members =>
  if member ≠ peer ∧ member ∈ context.failed then
    restoreMembers turn peer
      (restoreTrainingPeer (turn.connected member) (turn.reconnected member) context member).1
      members
  else
    restoreMembers turn peer context members

def replaceGroup (retry : TrainingGroup) : List TrainingGroup → List TrainingGroup
| [] => []
| active :: groups =>
  if active.groupId = retry.groupId then retry :: groups else active :: replaceGroup retry groups

/- The group without its failed members. -/
def retryGroup (context : Context) (group : TrainingGroup) (replacement : NodeId) : TrainingGroup :=
  { group with aggregator := replacement, members := group.members.filter (· ∉ context.failed) }

def reassign (context : Context) (retry : TrainingGroup) : Context :=
  { context with start := { context.start with groups := replaceGroup retry context.start.groups } }

/- Give the groups of a lost aggregator to other members. -/
def takeOverGroups (digest : Digest) (node : NodeId) (turn : Turn) (peer : NodeId) :
    Context → List TrainingGroup → Outcome Unit
| context, [] => .unchanged context
| context, group :: groups =>
  let restored := restoreMembers turn peer context group.members
  match group.members.find? (fun member => decide (member ∉ restored.failed)) with
  | none =>
    ⟨restored, [], .error (.invalidConfig
        s!"no live autonomous aggregator remains for V3 group {group.groupId}")⟩
  | some replacement =>
    let retry := retryGroup restored group replacement
    let dispatched := dispatchNext digest node (turn.dispatch group.groupId)
        (reassign restored retry) retry
    let rest := takeOverGroups digest node turn peer dispatched.1 groups
    ⟨rest.context, dispatched.2 ++ rest.effects, rest.result⟩

def handleDisconnected (peer : NodeId) : TurnResult :=
  let restored := restoreTrainingPeer (turn.connected peer)
    (turn.reconnected peer) drive.context peer
  if restored.2 then
    let dispatched := dispatchGroups digest node turn.dispatch restored.1 (groupsOf restored.1 peer)
    .running { drive with context := dispatched.1, log := drive.log ++ dispatched.2 }
  else
    let failed := restored.1.fail peer
    let taken := takeOverGroups digest node turn peer failed (groupsOf failed peer)
    let after :=
      { drive with context := taken.context, log := drive.log ++ taken.effects }
    match taken.result with
    | .error error => .failed error after
    | .ok () => .running after

/- A state that names another coordinator ends the loop. -/
def handleNewerState (node : NodeId) (drive : Drive) (turn : Turn) (peer : NodeId)
    (state : TrainingState) : TurnResult :=
  let adopted := handleState node turn.stateWritten drive.context peer state
  let after :=
    { drive with context := adopted.context, log := drive.log ++ adopted.effects }
  match adopted.result with
  | .error error => .failed error after
  | .ok () =>
    if adopted.context.coordinator ≠ drive.context.coordinator then
      .handedOver { after with context := { adopted.context with role := .worker } }
    else
      .running after

def handleTurn : TurnResult :=
  match turn.event with
  | .message peer (.aggregate aggregate) => handleAggregate digest node drive turn peer aggregate
  | .peerDisconnected peer => handleDisconnected digest node drive turn peer
  | .message peer (.election election) =>
    if election.term > drive.context.term then
      let voted := handleElection node drive.context peer election
      .running { drive with context := voted.context, log := drive.log ++ voted.effects }
    else
      .running drive
  | .message peer (.state state) =>
    if state.term > drive.context.term then
      handleNewerState node drive turn peer state
    else
      .running drive
  | _ => .running drive

end

----
-- The Whole Drive
----

/- What the coordinator meets before and after the loop. -/
structure DriveEnv where
  stateWritten : Bool
  dispatch : UInt16 → DispatchEnv
  commit : CommitEnv

inductive DriveResult where
  | finished
  | handedOver

structure DriveOutcome where
  drive : Drive
  result : Except NodeError DriveResult

/-
  Completion is reconstructed from the shards, since a group
  that has finished sends nothing more.
-/
def reconstruct (context : Context) (committed : Option TrainingCheckpointManifest)
    (log : List Effect) : Drive where
  context :=
    { context with
      groupProgress := OrderedMap.insertAll TrainingGroup.groupId
        (shardGeneration context) context.groupProgress context.start.groups }
  completed := ((context.start.groups.filter (fun group =>
    shardGeneration context group ≥ context.start.maxWindows)).map
    TrainingGroup.groupId).toFinset
  committed := committed
  log := log

/- The loop's first state, with all groups dispatched. -/
def driveStart (env : DriveEnv) (context : Context)
    (committed : Option TrainingCheckpointManifest) : Drive :=
  let dispatched := dispatchGroups digest node env.dispatch context context.start.groups
  reconstruct dispatched.1 committed (.persistedState context.state ::
    (broadcast node context (.state context.state) ++ dispatched.2))

def driveDone (drive : Drive) : Bool :=
  drive.context.start.groups.length ≤ drive.completed.card

def allShardsReachedFinalGeneration (context : Context) : Bool :=
  context.start.shards.all (fun expected =>
    context.shardSummaries[expected.shardId]?.any (fun actual =>
      actual.generation ≥ context.start.maxWindows))

/- A complete model is committed once more before success. -/
def driveFinish (env : CommitEnv) (drive : Drive) : DriveOutcome :=
  if allShardsReachedFinalGeneration drive.context && !drive.context.finalCheckpointCommitted then
    let committed := commitContextCheckpoint digest node env drive.context
    let after :=
      { drive with context := committed.context, log := drive.log ++ committed.effects }
    match committed.result with
    | .error error => ⟨after, .error error⟩
    | .ok manifest => ⟨{ after with committed := some manifest }, .ok .finished⟩
  else
    ⟨drive, .ok .finished⟩

/- Handle turns until every group is complete. -/
def driveLoop (digest : Digest) (node : NodeId) (env : CommitEnv) : Drive → List Turn → DriveOutcome
| drive, [] =>
  if driveDone drive then
    driveFinish digest node env drive
  else
    ⟨drive, .error (.invalidConfig "autonomous V3 training mailbox closed")⟩
| drive, turn :: turns =>
  if driveDone drive then
    driveFinish digest node env drive
  else
    match handleTurn digest node drive turn with
    | .failed error stopped => ⟨stopped, .error error⟩
    | .handedOver stopped => ⟨stopped, .ok .handedOver⟩
    | .running next => driveLoop digest node env next turns

def driveAutonomousCoordinator (env : DriveEnv)
    (context : Context) (committed : Option TrainingCheckpointManifest)
    (turns : List Turn) : DriveOutcome :=
  if !env.stateWritten then
    ⟨⟨context, ∅, committed, []⟩, .error .storage⟩
  else
    driveLoop digest node env.commit (driveStart digest node env context committed) turns

/- One turn of the loop, while the loop goes on. -/
def driveStep (drive : Drive) (turn : Turn) : Option Drive :=
  if driveDone drive then
    none
  else
    match handleTurn digest node drive turn with
    | .running next => some next
    | _ => none

----
-- Finished Drives Are Runs
----

theorem driveStep_eq_some_iff (drive next : Drive) (turn : Turn) :
    driveStep digest node drive turn = some next ↔ driveDone drive = false ∧
      handleTurn digest node drive turn = .running next := by
  unfold driveStep
  split_ifs with hDone
  · simp [hDone]
  · cases hTurn : handleTurn digest node drive turn with
    | running drive => simp [hDone]
    | handedOver drive | failed error drive => simp

/- A finished loop went through turns to its last state. -/
theorem driveLoop_finished (env : CommitEnv) (drive : Drive) (turns : List Turn)
    (hFinished : (driveLoop digest node env drive turns).result = .ok .finished) :
    ∃ taken rest last, turns = taken ++ rest ∧ Transition.run (driveStep digest node) drive taken =
      some last ∧ driveDone last = true ∧
      driveLoop digest node env drive turns = driveFinish digest node env last := by
  induction turns generalizing drive with
  | nil =>
    unfold driveLoop at hFinished ⊢
    split_ifs at hFinished ⊢ with hDone
    exact ⟨[], [], drive, rfl, rfl, hDone, rfl⟩
  | cons turn turns ih =>
    unfold driveLoop at hFinished ⊢
    split_ifs at hFinished ⊢ with hDone
    · exact ⟨[], turn :: turns, drive, rfl, rfl, hDone, rfl⟩
    · cases hTurn : handleTurn digest node drive turn with
      | failed error stopped | handedOver stopped =>
        rw [hTurn] at hFinished
        cases hFinished
      | running next =>
        rw [hTurn] at hFinished
        rcases ih next hFinished with ⟨taken, rest, last, rfl, hRun, hLast, hSame⟩
        refine ⟨turn :: taken, rest, last, rfl, ?_, hLast, hSame⟩
        rw [Transition.run_cons_eq_some_iff]
        refine ⟨next, ?_, hRun⟩
        rw [driveStep_eq_some_iff]
        exact ⟨by simpa using hDone, hTurn⟩

end IntelligenceNetwork.Training
