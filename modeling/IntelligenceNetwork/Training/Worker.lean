import IntelligenceNetwork.Training.Handlers

/-
  The message loop of a worker, aggregation included.

  While it collects, an aggregator reads its own mailbox: the
  arrivals of each wait are given as a list, which ends where
  the wait times out.

  Main declarations:
    * `collectGroupUpdates`
    * `runWindow`
    * `handleWorkerMessage`
-/

----
-- What the Outside Decides
----

namespace IntelligenceNetwork.Training

/-
  One event out of the mailbox, with the answers the node gets
  from its network and its admission check while handling it.
-/
structure Arrival where
  event : V3Inbound
  (connected reconnected admitted : Bool)

/- What happens while one window is collected. -/
structure Round where
  updates : List Arrival
  (artifactStored shardStateWritten : Bool)
  offerSent : NodeId → Bool
  replies : NodeId → List Arrival
  aggregateSent : Bool

/- What happens while one message is handled. -/
structure Env where
  (stateWritten checkpointWritten shardStateWritten updateSent : Bool)
  offered : Offered
  rounds : Nat → Round

/- Everything is written and sent, and nobody else speaks. -/
def Round.quiet : Round where
  updates := []
  artifactStored := true
  shardStateWritten := true
  offerSent := fun _ => true
  replies := fun _ => []
  aggregateSent := true

def Env.quiet : Env where
  stateWritten := true
  checkpointWritten := true
  shardStateWritten := true
  updateSent := true
  offered := ⟨true, none⟩
  rounds := fun _ => Round.quiet

----
-- Counters
----

namespace Context

def countStraggler (context : Context) : Context :=
  { context with stragglers := Saturating.add context.stragglers 1 }

def countRejected (context : Context) : Context :=
  { context with rejectedUpdates := Saturating.add context.rejectedUpdates 1 }

def fail (context : Context) (peer : NodeId) : Context :=
  { context with failed := insert peer context.failed }

end Context

----
-- Waiting for Updates
----

def updateRejected (context : Context) (window : TrainingWindow) (expected : Finset NodeId)
    (updates : List TrainingUpdate) (peer : NodeId) (update : TrainingUpdate) : Bool :=
  peer != update.worker || update.jobId != context.start.jobId || update.term != context.term ||
    update.membershipEpoch != context.start.membershipEpoch || update.branch != context.branch ||
    update.window != window.window || update.shardId != window.shardId ||
    update.baseGeneration != window.baseGeneration ||
    decide (update.worker ∉ expected) || updates.any (fun item => item.worker == update.worker)

/- A member that cannot be restored is late for the window. -/
def memberDisconnected (expected : Finset NodeId) (arrival : Arrival) (context : Context)
    (peer : NodeId) : Context :=
  if peer ∈ expected then
    let restored := restoreTrainingPeer arrival.connected arrival.reconnected context peer
    if restored.2 then
      { restored.1 with failed := restored.1.failed.erase peer }
    else
      (restored.1.fail peer).countStraggler
  else
    context.fail peer

def supersededWindow : NodeError :=
  .invalidConfig "V3 group window superseded by a newer coordination term"

/-
  The wait for the group's updates.  A vote cast during the
  wait would end it if it advanced the active term.
-/
def gatherUpdates (node : NodeId) (window : TrainingWindow) (expected : Finset NodeId) :
    Context → List TrainingUpdate → List Arrival → Outcome (List TrainingUpdate)
| context, updates, [] =>
  if updates.length < expected.card then
    ⟨context.countStraggler, [], .ok updates⟩
  else
    ⟨context, [], .ok updates⟩
| context, updates, arrival :: arrivals =>
  if updates.length < expected.card then
    match arrival.event with
    | .message peer (.update update) =>
      if updateRejected context window expected updates peer update || !arrival.admitted then
        gatherUpdates node window expected context.countRejected updates arrivals
      else
        gatherUpdates node window expected context (updates ++ [update]) arrivals
    | .peerDisconnected peer =>
      gatherUpdates node window expected (memberDisconnected expected arrival context peer)
        updates arrivals
    | .message peer (.election election) =>
      let voted := handleElection node context peer election
      if voted.context.term > context.term then
        ⟨voted.context, voted.effects, .error supersededWindow⟩
      else
        let rest := gatherUpdates node window expected voted.context updates arrivals
        ⟨rest.context, voted.effects ++ rest.effects, rest.result⟩
    | _ => gatherUpdates node window expected context updates arrivals
  else
    ⟨context, [], .ok updates⟩

----
-- Replicating the New State
----

def supersededReplication : NodeError :=
  .invalidConfig "V3 replication superseded by a newer coordination term"

/- The wait for one member to acknowledge the artifact. -/
def awaitReplica (node member : NodeId) (artifact : ArtifactId) :
    Context → List Arrival → Outcome Bool
| context, [] => ⟨context, [], .ok false⟩
| context, arrival :: arrivals =>
  match arrival.event with
  | .message peer (.ack ack) =>
    if peer = member ∧ ack.peer = member ∧ ack.jobId = context.start.jobId ∧
        ack.kind = .checkpoint artifact then
      ⟨context, [], .ok true⟩
    else
      awaitReplica node member artifact context arrivals
  | .message _ (.update _) => awaitReplica node member artifact context.countRejected arrivals
  | .message peer (.election election) =>
    let voted := handleElection node context peer election
    if voted.context.term > context.term then
      ⟨voted.context, voted.effects, .error supersededReplication⟩
    else
      let rest := awaitReplica node member artifact voted.context arrivals
      ⟨rest.context, voted.effects ++ rest.effects, rest.result⟩
  | .peerDisconnected disconnected =>
    if disconnected = member then
      ⟨(context.fail member).countStraggler, [], .ok false⟩
    else
      awaitReplica node member artifact context arrivals
  | _ => awaitReplica node member artifact context arrivals

/- A member that did not acknowledge in time has failed. -/
def failUnreplicated (replicas : List NodeId) (context : Context) (member : NodeId) : Context :=
  if replicas.contains member then context else (context.fail member).countStraggler

/-
  Offer the artifact to each live member in turn, and collect
  those that acknowledge it.
-/
def replicateShard (node : NodeId) (round : Round) (offer : TrainingCheckpointOffer) :
    Context → List NodeId → List NodeId → Outcome (List NodeId)
| context, replicas, [] => ⟨context, [], .ok replicas⟩
| context, replicas, member :: members =>
  if member = node ∨ member ∈ context.failed then
    replicateShard node round offer context replicas members
  else if !round.offerSent member then
    replicateShard node round offer (context.fail member).countStraggler replicas members
  else
    let waited := awaitReplica node member offer.artifact context (round.replies member)
    let offered := .sent member (.checkpointOffer offer)
    match waited.result with
    | .error error => ⟨waited.context, offered :: waited.effects, .error error⟩
    | .ok acknowledged =>
      let replicas' :=
        if acknowledged then replicas ++ [member] else replicas
      let rest := replicateShard node round offer (failUnreplicated replicas' waited.context member)
          replicas' members
      ⟨rest.context, offered :: (waited.effects ++ rest.effects), rest.result⟩

----
-- One Window of an Aggregator
----

def newShardState (digest : Digest) (node : NodeId) (context : Context) (window : TrainingWindow)
    (value optimizer : Int) : TrainingShardState :=
  let generation := Saturating.add window.baseGeneration 1
  { jobId := context.start.jobId
    owner := node
    term := context.term
    membershipEpoch := context.start.membershipEpoch
    branch := context.branch
    shardId := window.shardId
    generation := generation
    value := value
    optimizer := optimizer
    stateHash := digest.stateHash context.start.jobId window.shardId generation value optimizer }

section

variable (node : NodeId) (context : Context) (group : TrainingGroup)

/- The live members other than the node itself. -/
def liveMembers : List NodeId :=
  group.members.filter (fun member => member ≠ node ∧ member ∉ context.failed)

def requiredReplicas (context : Context) (group : TrainingGroup) : Nat :=
  max 1 (min 3 (group.members.filter (· ∉ context.failed)).length)

def tooFewProviders (shardId : UInt16) (reached required : Nat) : NodeError :=
  .invalidConfig s!"V3 shard {shardId} reached only {reached} of {required} required providers"

def makeAggregate
    (window : TrainingWindow) (updates : List TrainingUpdate) (state : TrainingShardState)
    (stateArtifact : ArtifactId) (replicas : List NodeId) : TrainingAggregate where
  jobId := context.start.jobId
  aggregator := node
  term := context.term
  membershipEpoch := context.start.membershipEpoch
  branch := context.branch
  window := window.window
  groupId := group.groupId
  shardId := window.shardId
  generation := state.generation
  value := state.value
  optimizer := state.optimizer
  loss := (Saturating.wrapI64 ((updates.map TrainingUpdate.loss).sum)).tdiv updates.length
  contributors := updates.map TrainingUpdate.worker
  stateArtifact := stateArtifact
  replicas := replicas

/- Adopt the new state, then report it to the coordinator. -/
def reportAggregate (round : Round) (window : TrainingWindow) (own : TrainingUpdate)
    (state : TrainingShardState) (aggregate : TrainingAggregate)
    (context : Context) : Outcome TrainingAggregate :=
  let adopted := adoptShardState context state
  let produced := Effect.produced window own aggregate
  if round.aggregateSent then
    ⟨adopted, [produced, .sent adopted.coordinator (.aggregate aggregate)], .ok aggregate⟩
  else if adopted.start.execution = .autonomousLocalSgd then
    ⟨adopted, [produced], .ok aggregate⟩
  else
    ⟨adopted, [produced], .error .network⟩

/-
  The aggregator's own update always takes part, so there is
  at least one.  The new generation follows the window's base
  generation, not the generation of the context.
-/
def collectGroupUpdates (digest : Digest) (node : NodeId) (round : Round) (context : Context)
    (group : TrainingGroup) (window : TrainingWindow) : Outcome TrainingAggregate :=
  let own := computeUpdate context window node
  let computed := Effect.computed context window
  let expected := (group.members.filter (· ∉ context.failed)).toFinset
  let gathered := gatherUpdates node window expected context [own] round.updates
  match gathered.result with
  | .error error => ⟨gathered.context, computed :: gathered.effects, .error error⟩
  | .ok updates =>
    let value := median (updates.map TrainingUpdate.value)
    let optimizer := median (updates.map TrainingUpdate.optimizer)
    let soFar := computed :: gathered.effects
    if value.natAbs > v3MaxDelta.natAbs then
      ⟨gathered.context, soFar, .error (.invalidConfig "V3 aggregate exceeded the update bound")⟩
    else
      let state := newShardState digest node gathered.context window value optimizer
      let stateArtifact := digest.shardStateHash state
      if !round.artifactStored || !round.shardStateWritten then
        ⟨gathered.context, soFar, .error .storage⟩
      else
        let announced := (liveMembers node gathered.context group).map (fun member =>
          Effect.sent member (.shardState state))
        let offer : TrainingCheckpointOffer :=
          ⟨gathered.context.start.jobId, node, gathered.context.term, state.generation,
            window.shardId, stateArtifact⟩
        let replicated := replicateShard node round offer gathered.context [node] group.members
        let soFar' := soFar ++ .persistedShardState state :: (announced ++ replicated.effects)
        match replicated.result with
        | .error error => ⟨replicated.context, soFar', .error error⟩
        | .ok replicas =>
          let required := requiredReplicas replicated.context group
          if replicas.length < required then
            ⟨replicated.context, soFar',
              .error (tooFewProviders window.shardId replicas.length required)⟩
          else
            let reported := reportAggregate round window own state
              (makeAggregate node replicated.context group window updates state
                stateArtifact replicas)
              replicated.context
            ⟨reported.context, soFar' ++ reported.effects, reported.result⟩

----
-- All Windows of an Aggregator
----

def installAggregate (context : Context) (window : TrainingWindow)
    (aggregate : TrainingAggregate) : Context :=
  { context with
    window := max context.window window.window
    generation := aggregate.generation
    value := aggregate.value
    optimizer := aggregate.optimizer
    shardSummaries := context.shardSummaries.insert aggregate.shardId
      { shardId := aggregate.shardId
        generation := aggregate.generation
        stateHash := aggregate.stateArtifact
        providers := providers aggregate } }

def nextWindow (window : TrainingWindow) (aggregate : TrainingAggregate) : TrainingWindow where
  jobId := context.start.jobId
  coordinator := context.coordinator
  term := context.term
  membershipEpoch := context.start.membershipEpoch
  branch := context.branch
  window := Saturating.add window.window 1
  groupId := group.groupId
  shardId := group.shardId
  aggregator := node
  members := group.members
  baseGeneration := aggregate.generation
  localSteps := context.start.localSteps
  maxStaleness := context.start.maxStaleness

end

/-
  Collect window after window until the job's last one.  The
  first argument bounds the number of windows; a job has no
  more than `windowsLeft` of them.
-/
def aggregateWindows (digest : Digest) (node : NodeId) (rounds : Nat → Round)
    (group : TrainingGroup) : Nat → Nat → Context → TrainingWindow → Outcome Unit
| 0, _, context, _ => .unchanged context
| fuel + 1, index, context, window =>
  let collected := collectGroupUpdates digest node (rounds index) context group window
  match collected.result with
  | .error error => ⟨collected.context, collected.effects, .error error⟩
  | .ok aggregate =>
    let installed := installAggregate collected.context window aggregate
    if installed.start.execution ≠ .autonomousLocalSgd ∨
        window.window ≥ installed.start.maxWindows then
      ⟨installed, collected.effects, .ok ()⟩
    else
      let next := nextWindow node installed group window aggregate
      let opened := (liveMembers node installed group).map (fun member =>
            Effect.sent member (.window next))
      let rest := aggregateWindows digest node rounds group fuel (index + 1) installed next
      ⟨rest.context, collected.effects ++ opened ++ rest.effects, rest.result⟩

/- How many windows an aggregator can still open. -/
def windowsLeft (start : TrainingStart) (window : TrainingWindow) : Nat :=
  start.maxWindows.toNat - window.window.toNat + 1

----
-- Windows
----

def windowRejected (node : NodeId) (context : Context) (peer : NodeId)
    (window : TrainingWindow) : Bool :=
  context.role != .worker ||
    (peer != window.coordinator && !(peer == window.aggregator && window.members.contains peer)) ||
    (window.coordinator != context.start.coordinator && !context.start.participants.contains
      window.coordinator) || !window.members.all context.start.participants.contains ||
    window.term < context.term || window.membershipEpoch != context.start.membershipEpoch ||
    window.branch != context.branch || window.members.isEmpty || !window.members.contains node ||
    context.assignment.shardId != window.shardId

/- A window of a newer term announces that term. -/
def adoptWindowTerm (context : Context) (window : TrainingWindow) : Context :=
  { context with term := window.term, coordinator := window.coordinator, failed := ∅ }

def enterWindow (context : Context) (window : TrainingWindow) : Context :=
  { context with
    window := max context.window window.window
    groupProgress := context.groupProgress.insert window.groupId window.window }

section

variable (digest : Digest) (node : NodeId) (env : Env) (context : Context)

/- Compute the window, as its aggregator or for it. -/
def runWindow (window : TrainingWindow) : Outcome Unit :=
  if node = window.aggregator then
    match groupFor context.start window.groupId with
    | none => .unchanged context
    | some base =>
      aggregateWindows digest node env.rounds
        ⟨base.groupId, base.shardId, window.members, window.aggregator⟩
        (windowsLeft context.start window) 0 context window
  else
    computeAndSendUpdate node env.updateSent context window window.aggregator

def handleWindow (peer : NodeId) (window : TrainingWindow) : Outcome Unit :=
  if windowRejected node context peer window then
    ⟨context.countRejected, [], .ok ()⟩
  else if window.term > context.term then
    let adopted := adoptWindowTerm context window
    if !env.stateWritten then
      ⟨adopted, [], .error .storage⟩
    else
      let ran := runWindow digest node env (enterWindow adopted window) window
      ⟨ran.context, .persistedState adopted.state :: ran.effects, ran.result⟩
  else
    runWindow digest node env (enterWindow context window) window

end

----
-- Messages
----

def handleWorkerMessage (digest : Digest) (node : NodeId) (env : Env) (context : Context)
    (peer : NodeId) : TrainingMessage → Outcome Unit
| .window window => handleWindow digest node env context peer window
| .shardState state => handleShardState digest env.shardStateWritten context peer state
| .state state => handleState node env.stateWritten context peer state
| .election election => handleElection node context peer election
| .checkpointOffer offer =>
  handleCheckpointOffer digest node env.offered env.shardStateWritten context peer offer
| .checkpointCommit commit =>
  handleCheckpointCommit digest node env.checkpointWritten env.stateWritten context peer commit
| .ack ack => ⟨observeAck context ack, [], .ok ()⟩
| .start _ | .update _ | .aggregate _ => .unchanged context

end IntelligenceNetwork.Training
