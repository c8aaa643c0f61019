import IntelligenceNetwork.Frontier.Records

/-
  The handlers of an integrated job's messages.

  Each handler checks a message against what the node holds and
  writes to the state directory before it changes memory.  A
  failed write ends the handler where it stands.

  Main declarations:
    * `Handled.andThen`
    * `receiveIntegratedStart`
    * `receiveCheckpointRecord`
-/

----
-- Environment
----

namespace IntelligenceNetwork.Frontier

open Validation

/- What a handler meets outside: the clock, the disk, the net. -/
structure HandlerEnv where
  now : UInt64 := 0
  planWritten : Bool := true
  graphWritten : Bool := true
  stateWritten : Bool := true
  recordWritten : Bool := true
  securityWritten : Bool := true
  shardsWritten : UInt16 → Bool := fun _ => true
  sent : Bool := true

def reject (member : Member) (detail : String) : Handled Unit :=
  ⟨member, [], .error (.invalidConfig detail)⟩

def rejectWith (member : Member) (error : NodeError) : Handled Unit :=
  ⟨member, [], .error error⟩

/- The claim that a peer makes by sending a record. -/
def claimOf (peer : NodeId) (object : String) (jobId : JobId) (branch : Option ArtifactId)
    (generation sequence : UInt64) (digest : ArtifactId) : Security.AuthenticatedClaim :=
  ⟨⟨peer, object, some jobId, branch, generation, sequence⟩, digest⟩

/- A claim that is admitted is also written with the ledger. -/
def observeClaim (env : HandlerEnv) (member : Member)
    (claim : Security.AuthenticatedClaim) : Handled Unit :=
  let checked := Security.observeAuthenticatedClaim member.security claim env.now
  match checked.result with
  | .error error => rejectWith { member with security := checked.security } (.ofSecurity error)
  | .ok _ =>
    ⟨{ member with
      security := checked.security
      storedSecurity :=
        if env.securityWritten then checked.security else member.storedSecurity }, [], .ok ()⟩

/- Go on with the handler unless it has failed. -/
def Handled.andThen {α β : Type} (handled : Handled α)
    (next : Member → α → Handled β) : Handled β :=
  match handled.result with
  | .error error => ⟨handled.member, handled.effects, .error error⟩
  | .ok value =>
    let later := next handled.member value
    ⟨later.member, handled.effects ++ later.effects, later.result⟩

/- The last send of a handler, and whether it went out. -/
def answer (sent : Bool) (member : Member) (effects : List Effect) (target : NodeId)
    (message : TrainingV4Message) (error : NodeError) : Handled Unit :=
  ⟨member, effects ++ [.send target message],
    if sent then .ok () else .error error⟩

----
-- Starting Tasks
----

variable (digests : Digests) (self : NodeId)

/- The state record that belongs to a graph. -/
def integratedState (graph : V4ExecutionGraph) (phase : V4IntegratedPhase)
    (window targetWindows : UInt64) (initialLossMicros currentLossMicros : Int)
    (recoveryCount : UInt32) : V4IntegratedStateRecord :=
  V4IntegratedStateRecord.hashed digests
    { jobId := graph.jobId
      graphGeneration := graph.graphGeneration
      planHash := graph.planHash
      branch := graph.branch
      coordinator := graph.coordinator
      phase := phase
      window := window
      targetWindows := targetWindows
      initialLossMicros := initialLossMicros
      currentLossMicros := currentLossMicros
      checkpointGeneration := graph.checkpointGeneration
      modelGeneration := (graph.shards.head?.map (·.modelGeneration)).getD 0
      optimizerGeneration := graph.optimizerGeneration
      membershipEpoch := graph.membershipEpoch
      collectiveGeneration := graph.collectiveGeneration
      recoveryCount := recoveryCount
      stateHash := default }

/- The members an activation waits for. -/
def otherWorkers (graph : V4ExecutionGraph) : Finset NodeId :=
  graph.workers.toFinset.erase self

section

variable (snapshot : Snapshot) (windows checkpointEvery : UInt64)

def startMessage : V4IntegratedStart where
  requestId := snapshot.graph.jobId
  graph := snapshot.graph
  plan := snapshot.plan
  windows := windows
  checkpointEvery := checkpointEvery
  replyTo := snapshot.graph.replyTo

/- Send the graph to every other worker and wait for them. -/
def beginActivation (attempts : Option Nat) : Stage × List Effect :=
  let pending := otherWorkers self snapshot.graph
  (if pending = ∅ then
    .acknowledging attempts
    else
      .activating attempts pending,
    (snapshot.graph.workers.filter (· ≠ self)).map (fun worker => .send worker
      (.integratedStart (startMessage snapshot windows checkpointEvery))))

/- The local variables of a driver that starts. -/
def Driver.start : Driver where
  snapshot := snapshot
  windows := windows
  checkpointEvery := checkpointEvery
  window := snapshot.state.window
  joinAllowedAfterWindow := snapshot.state.window
  roundTimeoutStreak := 0
  initialLoss := snapshot.state.initialLossMicros
  currentLoss := snapshot.state.currentLossMicros
  counts := {}

/- A driver that starts with the activation of its graph. -/
def enterDriver (within : Option Participant) : Task × List Effect :=
  let begun := beginActivation self snapshot windows checkpointEvery none
  (.driving (Driver.start snapshot windows checkpointEvery) begun.1 within, begun.2)

end

----
-- Starts
----

/- A certificate for replacing the parent's coordinator. -/
def validIntegratedElectionCertificate (parent candidate : V4ExecutionGraph) : Bool :=
  let voters := candidate.electionCertificate.toFinset
  candidate.parentGraphGeneration == some parent.graphGeneration && candidate.graphGeneration ==
    Saturating.add parent.graphGeneration 1 &&
    candidate.coordinationTerm > parent.coordinationTerm &&
    voters.card == candidate.electionCertificate.length &&
    candidate.electionCertificate.length > parent.workers.length / 2 &&
    candidate.electionCertificate.contains candidate.coordinator &&
    candidate.electionCertificate.all parent.workers.contains

def isInitialController (peer : NodeId) (start : V4IntegratedStart) : Bool :=
  self == start.graph.coordinator && peer == start.replyTo

def isPropagated (peer : NodeId) (start : V4IntegratedStart) : Bool :=
  start.graph.workers.contains self && peer == start.graph.coordinator

/- Why a graph cannot follow the one the node holds. -/
def startConflict (current graph : V4ExecutionGraph) : Option String :=
  if current.graphGeneration > graph.graphGeneration then
    some "integrated V4 start is stale"
  else if current.graphGeneration = graph.graphGeneration ∧
    (current.graphHash ≠ graph.graphHash ∨ current.planHash ≠ graph.planHash ∨
      current.branch ≠ graph.branch ∨ current.coordinator ≠ graph.coordinator) then
    some "integrated V4 graph generation has a conflicting hash or coordinator"
  else if current.graphGeneration < graph.graphGeneration ∧
    current.coordinator ≠ graph.coordinator ∧
    !validIntegratedElectionCertificate current graph then
    some "integrated V4 coordinator replacement lacks a parent-graph majority certificate"
  else
    none

/- The state record of a node that takes over a graph. -/
def startState (start : V4IntegratedStart) (existing : Option V4IntegratedStateRecord) :
    V4IntegratedStateRecord :=
  let graph := start.graph
  let state := existing.getD (integratedState digests graph .preparing 0 start.windows 0 0 0)
  if state.graphGeneration < graph.graphGeneration then
    V4IntegratedStateRecord.hashed digests { state with
      graphGeneration := graph.graphGeneration
      planHash := graph.planHash
      membershipEpoch := graph.membershipEpoch
      coordinator := graph.coordinator
      optimizerGeneration := graph.optimizerGeneration
      checkpointGeneration := graph.checkpointGeneration
      branch := graph.branch
      phase := .reconfiguring }
  else
    state

section

variable (member : Member)

/- The plan and the graph, on disk and then in memory. -/
def storePlan (plan : V4TrainingPlan) : Member :=
  { member with stored := { member.stored with plan := some plan } }

def adoptGraph (graph : V4ExecutionGraph) (plan : V4TrainingPlan) : Member :=
  { member with
    stored := { member.stored with plan := some plan, graph := some graph }
    held := { member.held with plan := some plan, graph := some graph } }

def recordState (state : V4IntegratedStateRecord) : Member :=
  { member with
    stored := { member.stored with state := some state }
    held := { member.held with state := some state } }

/- What the node does for the job after a start. -/
def startTask (peer : NodeId) (start : V4IntegratedStart)
    (state : V4IntegratedStateRecord) : Task × List Effect :=
  if member.task.running then
    (member.task, [])
  else if isInitialController self peer start then
    enterDriver self ⟨start.graph, start.plan, state⟩ start.windows start.checkpointEvery none
  else
    (.participant ⟨start.windows, start.checkpointEvery, 0⟩ .waiting, [])

end

section

variable (env : HandlerEnv) (member : Member) (peer : NodeId) (start : V4IntegratedStart)

def acceptStart : Handled Unit :=
  if !env.planWritten then
    rejectWith member .storage
  else if !env.graphWritten then
    rejectWith (storePlan member start.plan) .storage
  else
    let adopted := adoptGraph member start.graph start.plan
    let marks : List Effect := [.adopted start.graph]
    if !env.stateWritten then
      ⟨adopted, marks, .error .storage⟩
    else
      let state := startState digests start member.held.state
      let recorded := recordState adopted state
      let target :=
        if isInitialController self peer start then peer else start.graph.coordinator
      let sends : List Effect := marks ++ [.recorded state, .send target (.integratedAck
        ⟨start.graph.jobId, start.graph.graphGeneration, self, true, "durable graph persisted"⟩)]
      if !env.sent then
        ⟨recorded, sends, .error (.invalidConfig
          "integrated V4 graph acknowledgement could not reach the proposer")⟩
      else
        let next := startTask self member peer start state
        ⟨{ recorded with task := next.1 }, sends ++ next.2, .ok ()⟩

def graphClaim (peer : NodeId) (graph : V4ExecutionGraph) : Security.AuthenticatedClaim :=
  claimOf peer "v4.execution_graph" graph.jobId (some graph.branch) graph.graphGeneration
    (max graph.coordinationTerm 1) graph.graphHash

def receiveIntegratedStart : Handled Unit :=
  match v4IntegratedStart start with
  | .error error => rejectWith member (.ofValidation error)
  | .ok () =>
    (observeClaim env member (graphClaim peer start.graph)).andThen (fun member _ =>
      if (!isInitialController self peer start && !isPropagated self peer start) ||
        start.graph.proposer != start.graph.coordinator
      then
        reject member "integrated V4 start sender is not an authorized job member"
      else
        match member.held.graph.bind (startConflict · start.graph) with
        | some detail => reject member detail
        | none => acceptStart digests self env member peer start)

end

----
-- States
----

/- States are compared by generation, checkpoint and window. -/
def stateNotOlder (incoming current : V4IntegratedStateRecord) : Bool :=
  current.graphGeneration < incoming.graphGeneration ||
    (current.graphGeneration == incoming.graphGeneration &&
      (current.checkpointGeneration < incoming.checkpointGeneration ||
        (current.checkpointGeneration == incoming.checkpointGeneration &&
          current.window ≤ incoming.window)))

def stateAck (state : V4IntegratedStateRecord) (accepted : Bool) : TrainingV4Message :=
  .integratedStateAck ⟨state.jobId, state.graphGeneration, state.stateHash, self, accepted⟩

def receiveIntegratedState (env : HandlerEnv) (member : Member) (peer : NodeId)
    (state : V4IntegratedStateRecord) : Handled Unit :=
  match v4IntegratedState state with
  | .error error => rejectWith member (.ofValidation error)
  | .ok () =>
    if state.stateHash ≠ integratedStateHash digests state then
      reject member "integrated V4 state hash mismatch"
    else
      match member.held.graph with
      | none => reject member "integrated V4 graph is unknown"
      | some graph =>
        if !graph.workers.contains peer || graph.graphGeneration != state.graphGeneration ||
          graph.planHash != state.planHash || graph.branch != state.branch then
          reject member "integrated V4 state sender or graph generation is unauthorized"
        else if peer ≠ state.coordinator then
          ⟨member, [.send peer (stateAck self state false)], .ok ()⟩
        else
          let accepted := member.held.state.all (stateNotOlder state)
          if !accepted then
            ⟨member, [.send peer (stateAck self state false)], .ok ()⟩
          else if !env.stateWritten then
            rejectWith member .storage
          else
            ⟨recordState member state, [.recorded state, .send peer (stateAck self state true)],
              .ok ()⟩

----
-- Votes
----

def votePhase : V4IntegratedPhase → Bool
| .running | .partitioned => true
| _ => false

/- The vote on record leaves room for this request. -/
def canReplace (existing : Option V4IntegratedElectionRecord)
    (request : V4IntegratedElectionRequest) : Bool :=
  existing.all (fun record =>
    record.graphGeneration != request.graphGeneration || record.graphHash != request.graphHash ||
      request.term > record.term ||
      (request.term == record.term && record.candidate == request.candidate))

def electionRecord (jobId : JobId) (graphGeneration : UInt64) (graphHash : ArtifactId)
    (term : UInt64) (candidate : NodeId) : V4IntegratedElectionRecord :=
  let record : V4IntegratedElectionRecord :=
    ⟨jobId, graphGeneration, graphHash, term, candidate, default⟩
  { record with voteHash := integratedElectionHash digests record }

def castVote (member : Member) (record : V4IntegratedElectionRecord) : Member :=
  { member with
    stored := { member.stored with election := some record }
    held := { member.held with election := some record } }

/- Why a node does not vote, whatever its vote on record. -/
def voteRefusal (graph : V4ExecutionGraph) (state : V4IntegratedStateRecord) (peer : NodeId)
    (request : V4IntegratedElectionRequest) : Option String :=
  if peer ≠ request.candidate then
    some "election sender is not the candidate"
  else if !graph.workers.contains peer then
    some "election candidate is not a graph member"
  else if graph.graphGeneration ≠ request.graphGeneration ∨ graph.graphHash ≠ request.graphHash ∨
    graph.branch ≠ request.branch then
    some "election graph generation or branch is stale"
  else if graph.coordinator = self then
    some "current coordinator will not vote for a replacement"
  else if !votePhase state.phase then
    some "graph transition is not in a voteable stable phase"
  else if request.term ≤ graph.coordinationTerm then
    some "election term is not newer than the active graph"
  else
    none

def voteMessage (request : V4IntegratedElectionRequest) (granted : Bool)
    (reason : String) : TrainingV4Message :=
  .integratedElectionVote ⟨request.jobId, request.graphGeneration, request.graphHash,
    request.term, request.candidate, self, granted, reason⟩

def voteUnreachable : NodeError :=
  .invalidConfig "integrated election vote could not reach candidate"

def receiveIntegratedElectionRequest (env : HandlerEnv) (member : Member) (peer : NodeId)
    (request : V4IntegratedElectionRequest) : Handled Unit :=
  match v4IntegratedElectionRequest request with
  | .error error => rejectWith member (.ofValidation error)
  | .ok () =>
    match member.held.graph, member.held.state with
    | none, _ => reject member "integrated election graph is unknown"
    | some _, none => reject member "integrated election state is unknown"
    | some graph, some state =>
      match voteRefusal self graph state peer request with
      | some reason =>
        answer env.sent member [] peer (voteMessage self request false reason) voteUnreachable
      | none =>
        if !canReplace member.held.election request then
          answer env.sent member [] peer
            (voteMessage self request false "a different candidate already owns this election term")
            voteUnreachable
        else if !env.recordWritten then
          rejectWith member .storage
        else
          let record := electionRecord digests request.jobId
            request.graphGeneration request.graphHash request.term request.candidate
          answer env.sent (castVote member record) [.voted record] peer
            (voteMessage self request true "majority-election vote persisted") voteUnreachable

----
-- Training States, Optimizer Shards and Checkpoints
----

/- The five generations by which training states are ordered. -/
def trainingGenerations (state : V4TrainingStateRecord) : List Nat :=
  [state.planGeneration.toNat, state.membershipEpoch.toNat, state.coordinationTerm.toNat,
    state.optimizerGeneration.toNat, state.checkpointGeneration.toNat]

section

variable (peer : NodeId) (record : V4TrainingStateRecord)

def trainingStateClaim : Security.AuthenticatedClaim :=
  claimOf peer "v4.training_state" record.jobId
    (some record.branch) (max record.checkpointGeneration 1)
    (max record.optimizerGeneration 1) record.stateHash

/- The sender is checked against the record it sends. -/
def trainingStateAuthorized : Bool :=
  (peer == record.coordinator || record.workers.contains peer) &&
    record.stateHash == trainingStateHash digests record && (v4TrainingState record).isOk

end

def acceptsTrainingState (current : Option V4TrainingStateRecord)
    (record : V4TrainingStateRecord) : Bool :=
  current.all (fun current =>
    trainingGenerations current < trainingGenerations record ||
      (trainingGenerations current == trainingGenerations record &&
        current.stateHash == record.stateHash))

section

variable (env : HandlerEnv) (member : Member) (peer : NodeId)

def receiveStateRecord (record : V4TrainingStateRecord) : Handled Unit :=
  (observeClaim env member (trainingStateClaim peer record)).andThen (fun member _ =>
    if !trainingStateAuthorized digests peer record then
      reject member "V4 training state failed authorization or integrity validation"
    else
      let accepted := acceptsTrainingState member.held.trainingState record
      let reply := TrainingV4Message.stateAck
        ⟨record.jobId, record.planGeneration, record.checkpointGeneration, .trainingState,
          record.stateHash, accepted⟩
      if !accepted then
        answer env.sent member [] peer reply .network
      else if !env.recordWritten then
        rejectWith member .storage
      else
        answer env.sent { member with
          stored := { member.stored with trainingState := some record }
          held := { member.held with trainingState := some record } }
          [] peer reply .network)

def optimizerObject (shardId : UInt16) : String :=
  s!"v4.optimizer_state/{shardId}"

def optimizerClaim (peer : NodeId) (record : V4OptimizerShardRecord) :
    Security.AuthenticatedClaim :=
  claimOf peer (optimizerObject record.shardId) record.jobId none
    record.optimizerGeneration (max record.planGeneration 1) record.stateHash

/- Only the receiver has to be named by the record. -/
def optimizerAuthorized (record : V4OptimizerShardRecord) : Bool :=
  (record.owner == self || record.replicas.contains self) &&
    record.stateHash == optimizerShardHash digests record &&
    (v4OptimizerShard record).isOk

def acceptsOptimizerShard (current : Option V4OptimizerShardRecord)
    (record : V4OptimizerShardRecord) : Bool :=
  current.all (fun current =>
    current.optimizerGeneration < record.optimizerGeneration ||
      (record.optimizerGeneration == current.optimizerGeneration &&
        record.stateHash == current.stateHash))

def receiveOptimizerShard (record : V4OptimizerShardRecord) : Handled Unit :=
  (observeClaim env member (optimizerClaim peer record)).andThen (fun member _ =>
    if !optimizerAuthorized digests self record then
      reject member "V4 optimizer shard failed authorization or integrity validation"
    else
      let accepted := acceptsOptimizerShard member.held.optimizerShards[record.shardId]? record
      let reply := TrainingV4Message.stateAck
        ⟨record.jobId, record.planGeneration, record.optimizerGeneration, .optimizerShard,
          record.stateHash, accepted⟩
      if !accepted then
        answer env.sent member [] peer reply .network
      else if !env.recordWritten then
        rejectWith member .storage
      else
        answer env.sent { member with
          stored :=
            { member.stored with
              optimizerShards := member.stored.optimizerShards.insert record.shardId record }
          held :=
            { member.held with
              optimizerShards := member.held.optimizerShards.insert record.shardId record } }
          [] peer reply .network)

/- Keep the manifests of the newest generations only. -/
def pruneCheckpointHistory (checkpoints : Std.TreeMap UInt64 V4CheckpointRecord)
    (retain : Nat) : Std.TreeMap UInt64 V4CheckpointRecord :=
  OrderedMap.bound checkpoints (retain + 1)

/- Make room, write, and cut the history to its bound. -/
def persistCheckpoint (stored : Std.TreeMap UInt64 V4CheckpointRecord)
    (checkpoint : V4CheckpointRecord) : Std.TreeMap UInt64 V4CheckpointRecord :=
  pruneCheckpointHistory ((pruneCheckpointHistory stored (v4CheckpointHistory - 1)).insert
    checkpoint.checkpointGeneration checkpoint)
    v4CheckpointHistory

/- A write that fails has made room before. -/
def makeRoomForCheckpoint (member : Member) : Member :=
  { member with
    stored :=
      { member.stored with checkpoints :=
        pruneCheckpointHistory member.stored.checkpoints (v4CheckpointHistory - 1) } }

def storeCheckpoint (member : Member) (checkpoint : V4CheckpointRecord) : Member :=
  { member with
    stored :=
      { member.stored with checkpoints := persistCheckpoint member.stored.checkpoints checkpoint }
    held :=
      { member.held with
        checkpoints := member.held.checkpoints.insert checkpoint.checkpointGeneration checkpoint } }

def checkpointClaim (peer : NodeId) (record : V4CheckpointRecord) : Security.AuthenticatedClaim :=
  claimOf peer "v4.checkpoint" record.jobId (some record.branch)
    record.checkpointGeneration (max record.planGeneration 1) record.manifestHash

variable (record : V4CheckpointRecord)

/- Only the receiver has to be named by the manifest. -/
def checkpointAuthorized : Bool :=
  record.providers.contains self && record.manifestHash == checkpointHash digests record &&
    (v4Checkpoint record).isOk

/-
  The entry under a generation is never older than that
  generation, so the second test never holds.
-/
def acceptsCheckpoint (current : Option V4CheckpointRecord) (record : V4CheckpointRecord) : Bool :=
  current.all (fun current =>
    record.manifestHash == current.manifestHash ||
      current.checkpointGeneration < record.checkpointGeneration)

def checkpointAck (accepted : Bool) : TrainingV4Message :=
  .stateAck ⟨record.jobId, record.planGeneration, record.checkpointGeneration, .checkpoint,
    record.manifestHash, accepted⟩

/- Only an entry of the same generation can be in its way. -/
def receiveCheckpointRecord : Handled Unit :=
  (observeClaim env member (checkpointClaim peer record)).andThen (fun member _ =>
    if !checkpointAuthorized digests self record then
      reject member "V4 checkpoint failed provider authorization or integrity validation"
    else
      let accepted := acceptsCheckpoint member.held.checkpoints[record.checkpointGeneration]? record
      if !accepted then
        answer env.sent member [] peer (checkpointAck record false) .network
      else if !env.recordWritten then
        rejectWith (makeRoomForCheckpoint member) .storage
      else
        answer env.sent (storeCheckpoint member record)
          [.kept record] peer (checkpointAck record true) .network)

end

----
-- Shard Migration
----

def migrationAck (migration : V4ShardMigration) : TrainingV4Message :=
  .shardMigrationAck ⟨migration.jobId, migration.planGeneration,
    migration.shardId, self, migration.ownershipGeneration,
    migration.contentHash, true, migration.phase⟩

def migratedShard (migration : V4ShardMigration) : V4LocalDataShard where
  jobId := migration.jobId
  shardId := migration.shardId
  planGeneration := migration.planGeneration
  ownershipGeneration := migration.ownershipGeneration
  hash := migration.contentHash
  bytes := migration.state

/- The peer only has to be the source it names. -/
def migrationBound (peer : NodeId) (migration : V4ShardMigration) : Bool :=
  migration.toNode == self && migration.fromNode == peer

section

variable (env : HandlerEnv) (member : Member) (peer : NodeId) (migration : V4ShardMigration)

def prepareMigration : Handled Unit :=
  if migration.state.isEmpty || migration.state.length > v4MaxStateBytes then
    reject member "V4 migration payload is empty or oversized"
  else if digests.bytes migration.state ≠ migration.contentHash then
    reject member "V4 migration hash does not match state"
  else
    match member.held.dataShards[migration.shardId]? with
    | some existing =>
      if existing.ownershipGeneration == migration.ownershipGeneration &&
        existing.hash == migration.contentHash && existing.bytes == migration.state then
        answer env.sent member [] peer (migrationAck self migration) .network
      else
        reject member "V4 migration would overwrite a different prepared shard"
    | none =>
      if !env.recordWritten then
        rejectWith member .storage
      else
        let shard := migratedShard migration
        answer env.sent { member with
          stored :=
            { member.stored with
              dataShards := member.stored.dataShards.insert migration.shardId shard }
          held :=
            { member.held with
              dataShards := member.held.dataShards.insert migration.shardId shard } }
          [] peer (migrationAck self migration) .network

def preparedFor (member : Member) (migration : V4ShardMigration) : Bool :=
  member.held.dataShards[migration.shardId]?.any (fun shard =>
    shard.hash == migration.contentHash && shard.ownershipGeneration ==
      migration.ownershipGeneration)

def abortMigration (env : HandlerEnv) (member : Member)
    (migration : V4ShardMigration) : Handled Unit :=
  if preparedFor member migration then
    let held :=
      { member.held with dataShards := member.held.dataShards.erase migration.shardId }
    if !env.recordWritten then
      rejectWith { member with held := held } .storage
    else
      ⟨{ member with
        held := held
        stored :=
          { member.stored with dataShards := member.stored.dataShards.erase migration.shardId } },
        [], .ok ()⟩
  else
    ⟨member, [], .ok ()⟩

def receiveShardMigration : Handled Unit :=
  if !migrationBound self peer migration then
    reject member "V4 migration peer binding failed"
  else
    match migration.phase with
    | .prepare => prepareMigration digests self env member peer migration
    | .commit =>
      if preparedFor member migration then
        answer env.sent member [] peer (migrationAck self migration) .network
      else
        reject member "V4 migration commit has no verified prepared state"
    | .abort => abortMigration env member migration

end

----
-- Restarts
----

/- A stored record is read back only if it is intact. -/
def graphIntact (graph : V4ExecutionGraph) : Bool :=
  graph.graphHash == executionGraphHash digests graph && (v4ExecutionGraph graph).isOk

def planIntact (plan : V4TrainingPlan) : Bool :=
  plan.planHash == hashPlan digests plan && (v4Plan plan).isOk

def stateIntact (state : V4IntegratedStateRecord) : Bool :=
  state.stateHash == integratedStateHash digests state && (v4IntegratedState state).isOk

def electionIntact (record : V4IntegratedElectionRecord) : Bool :=
  record.voteHash == integratedElectionHash digests record && record.graphGeneration > 0 &&
    record.term > 0

def restored (stored : JobRecords) : JobRecords where
  plan := stored.plan.filter (planIntact digests)
  graph := stored.graph.filter (graphIntact digests)
  state := stored.state.filter (stateIntact digests)
  election := stored.election.filter (electionIntact digests)
  trainingState := stored.trainingState.filter (fun state =>
    state.stateHash == trainingStateHash digests state && (v4TrainingState state).isOk)
  checkpoints := stored.checkpoints.filter (fun _ checkpoint =>
    checkpoint.manifestHash == checkpointHash digests checkpoint &&
      (v4Checkpoint checkpoint).isOk)
  optimizerShards := stored.optimizerShards.filter (fun _ shard =>
    shard.stateHash == optimizerShardHash digests shard && (v4OptimizerShard shard).isOk)
  dataShards := stored.dataShards.filter (fun _ shard =>
    shard.bytes.length ≤ v4MaxStateBytes && digests.bytes shard.bytes == shard.hash)

def activePhase : V4IntegratedPhase → Bool
| .preparing | .running | .reconfiguring | .partitioned => true
| _ => false

/- A job that the node's own records let it go on with. -/
def resumable (records : JobRecords) : Option Snapshot :=
  match records.graph, records.plan, records.state with
  | some graph, some plan, some state =>
    if graph.workers.contains self && !graph.retiredWorkers.contains self &&
      activePhase state.phase && state.graphGeneration == graph.graphGeneration &&
      state.planHash == graph.planHash && state.branch == graph.branch then
      some ⟨graph, plan, state⟩
    else
      none
  | _, _, _ => none

/- A process that starts again has its files and no tasks. -/
def restart (member : Member) : Member :=
  let held := restored digests member.stored
  { member with
    security := member.storedSecurity
    held := held
    task := .none
    resuming := (resumable self held).isSome }

----
-- Plans
----

def planClaim (peer : NodeId) (object : String)
    (plan : V4TrainingPlan) : Security.AuthenticatedClaim :=
  claimOf peer object plan.jobId (some plan.branch)
    plan.planGeneration plan.planGeneration plan.planHash

/- A shard that the plan leaves with the node as it is. -/
def carriedShard (plan : V4TrainingPlan) (shardId : UInt16)
    (shard : V4LocalDataShard) : Option V4LocalDataShard :=
  (plan.shards.find? (·.shardId == shardId)).bind (fun ownership =>
    if (ownership.owners.contains self || ownership.replicas.contains self) &&
      ownership.contentHash == shard.hash &&
      shard.ownershipGeneration ≤ ownership.ownershipGeneration then
      some { shard with
        planGeneration := plan.planGeneration
        ownershipGeneration := ownership.ownershipGeneration }
    else
      none)

/-
  What the node holds of the job moves on to the plan.  Shards
  that cannot be written move on in memory only.
-/
def syncLocalDataShardsToPlan (written : UInt16 → Bool) (member : Member)
    (plan : V4TrainingPlan) : Member :=
  { member with
    held :=
      { member.held with
        dataShards := member.held.dataShards.map (fun shardId shard =>
          (carriedShard self plan shardId shard).getD shard) }
    stored :=
      { member.stored with
        dataShards := member.held.dataShards.foldl (fun stored shardId shard =>
          match carriedShard self plan shardId shard with
          | none => stored
          | some carried => if written shardId then stored.insert shardId carried else stored)
          member.stored.dataShards } }

section

variable (current : Option V4TrainingPlan)

/-
  A plan comes from its proposer, or from a worker of the plan
  that it follows, or it is known already.
-/
def planDelivered (peer : NodeId) (plan : V4TrainingPlan) : Bool :=
  (peer == plan.proposer && (plan.workers.contains self || plan.proposer == self)) ||
    current.any (fun current =>
      current.workers.contains peer && plan.parentPlanHash == some current.planHash &&
        current.planGeneration < plan.planGeneration &&
        (plan.workers.contains self || current.proposer == self)) || current.any (fun current =>
      current.planGeneration == plan.planGeneration && current.planHash == plan.planHash &&
        (peer == plan.proposer || current.workers.contains peer) &&
        (plan.workers.contains self || plan.proposer == self))

def planNotOlder (plan : V4TrainingPlan) : Bool :=
  current.all (fun current =>
    current.planGeneration < plan.planGeneration ||
      (plan.planGeneration == current.planGeneration && plan.planHash == current.planHash))

def planRefusal (plan : V4TrainingPlan) : String :=
  if !planIntact digests plan then
    "active plan hash or validation failed"
  else
    match current with
    | none => "active plan authorization, validation, or generation check failed"
    | some current =>
      if plan.planGeneration == current.planGeneration && plan.planHash != current.planHash then
        s!"same plan generation has a conflicting hash (local={current.planHash.bytes.toHex})"
      else
        s!"active plan generation/hash mismatch (local_generation={current.planGeneration}, " ++
          s!"local_hash={current.planHash.bytes.toHex})"

end

def planAck (plan : V4TrainingPlan) (accepted : Bool) (reason : String) : TrainingV4Message :=
  .planAck ⟨plan.jobId, plan.planGeneration, plan.planHash, accepted, reason⟩

/-
  The ledger is written only where the plan conflicts with it.
  An answer that does not go out is not an error.
-/
def receivePlan (env : HandlerEnv) (member : Member) (peer : NodeId)
    (plan : V4TrainingPlan) : Handled Unit :=
  let checked := Security.observeAuthenticatedClaim member.security
    (planClaim peer "v4.plan" plan) env.now
  let conflict := !checked.result.isOk
  let current := member.held.plan
  let observed :=
    { member with
      security := checked.security
      storedSecurity :=
        if conflict && env.securityWritten then checked.security else member.storedSecurity }
  if conflict || !planIntact digests plan || !planDelivered self current peer plan ||
    !planNotOlder current plan then
    ⟨observed, [.send peer (planAck plan false (planRefusal digests current plan))], .ok ()⟩
  else if !env.planWritten then
    ⟨observed, [.send peer (planAck plan false "active plan persistence failed")], .ok ()⟩
  else
    ⟨syncLocalDataShardsToPlan self env.shardsWritten { observed with
      held := { observed.held with plan := some plan }
      stored := { observed.stored with plan := some plan } }
      plan, [.send peer (planAck plan true "active plan persisted")], .ok ()⟩

----
-- Dispatch
----

/-
  The messages that a handler answers.  The answers among them
  go to the mailbox of the job's task instead.
-/
def handleMessage (env : HandlerEnv) (member : Member) (peer : NodeId) :
    TrainingV4Message → Option (Handled Unit)
| .integratedStart start => some (receiveIntegratedStart digests self env member peer start)
| .integratedState state => some (receiveIntegratedState digests self env member peer state)
| .integratedElectionRequest request =>
  some (receiveIntegratedElectionRequest digests self env member peer request)
| .stateRecord record => some (receiveStateRecord digests env member peer record)
| .optimizerShard record => some (receiveOptimizerShard digests self env member peer record)
| .checkpointRecord record => some (receiveCheckpointRecord digests self env member peer record)
| .shardMigration migration => some (receiveShardMigration digests self env member peer migration)
| .plan plan => some (receivePlan digests self env member peer plan)
| _ => none

end IntelligenceNetwork.Frontier
