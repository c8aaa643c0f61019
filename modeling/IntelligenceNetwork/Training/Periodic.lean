import IntelligenceNetwork.Training.Drive
import Mathlib.Data.UInt

/-
  The coordinator of a periodic job, which is driven window by
  window.  The report on a finished job is not modelled.

  Main declarations:
    * `runGroupWindow`
    * `installAggregates`
    * `driveWindow`
-/

----
-- The Window of a Group
----

namespace IntelligenceNetwork.Training

/- What happens while the window of one group is run. -/
structure GroupEnv where
  updateSent : Bool
  round : Round
  arrivals : List Arrival

def aggregateAwaited (context : Context) (groupId : UInt16) (window : UInt64) (peer : NodeId)
    (aggregate : TrainingAggregate) : Bool :=
  peer == aggregate.aggregator && aggregate.groupId == groupId && aggregate.window == window &&
    aggregate.term == context.term && aggregate.jobId == context.start.jobId &&
    !aggregate.contributors.isEmpty

def supersededAggregate : NodeError :=
  .invalidConfig "coordinator term changed while waiting for aggregate"

/- The wait for an aggregate; its end is that time is up. -/
def waitForAggregate (node : NodeId) (groupId : UInt16) (window : UInt64) :
    Context → List Arrival → Outcome (Option TrainingAggregate)
| context, [] => ⟨context, [], .ok none⟩
| context, arrival :: arrivals =>
  match arrival.event with
  | .message peer (.aggregate aggregate) =>
    if aggregateAwaited context groupId window peer aggregate then
      ⟨context, [], .ok (some aggregate)⟩
    else
      waitForAggregate node groupId window context arrivals
  | .message peer (.election election) =>
    if election.term > context.term then
      let voted := handleElection node context peer election
      ⟨voted.context, voted.effects, .error supersededAggregate⟩
    else
      waitForAggregate node groupId window context arrivals
  | .peerDisconnected peer =>
    if peer = context.coordinator then
      ⟨context.fail peer, [], .ok none⟩
    else
      let restored := restoreTrainingPeer arrival.connected arrival.reconnected context peer
      if restored.2 then
        waitForAggregate node groupId window restored.1 arrivals
      else
        waitForAggregate node groupId window (restored.1.fail peer) arrivals
  | _ => waitForAggregate node groupId window context arrivals

/- A coordinator that does not aggregate sends its update. -/
def sendWindow (node : NodeId) (updateSent : Bool) (context : Context) (message : TrainingWindow)
    (aggregator member : NodeId) : List Effect :=
  if member ∈ context.failed then
    []
  else if member ≠ node then
    [.sent member (.window message)]
  else if member ≠ aggregator then
    (computeAndSendUpdate node updateSent context message aggregator).effects
  else
    []

section

variable (digest : Digest) (node : NodeId) (env : GroupEnv) (context : Context)

def runGroupWindow (group : TrainingGroup) (window : UInt64) : Outcome (Option TrainingAggregate) :=
  let message := autonomousWindow context group window
  let opened := group.members.flatMap
    (sendWindow node env.updateSent context message group.aggregator)
  if group.aggregator = node then
    let collected := collectGroupUpdates digest node env.round context group message
    ⟨collected.context, opened ++ collected.effects, collected.result.map some⟩
  else
    let waited := waitForAggregate node group.groupId window context env.arrivals
    ⟨waited.context, opened ++ waited.effects, waited.result⟩

----
-- The Windows of All Groups
----

def noAggregator (groupId : UInt16) : NodeError :=
  .invalidConfig s!"no live aggregator remains for V3 group {groupId}"

def noAggregate (groupId : UInt16) : NodeError :=
  .invalidConfig s!"V3 group {groupId} did not produce an aggregate"

/- A group that does not answer is tried a second time. -/
def retryGroupWindow (group : TrainingGroup) (window : UInt64) : Outcome TrainingAggregate :=
  let marked := context.countStraggler.fail group.aggregator
  match group.members.find? (fun member => decide (member ∉ marked.failed)) with
  | none => ⟨marked, [], .error (noAggregator group.groupId)⟩
  | some replacement =>
    let retry := retryGroup marked group replacement
    let ran := runGroupWindow digest node env marked retry window
    match ran.result with
    | .error error => ⟨ran.context, ran.effects, .error error⟩
    | .ok none => ⟨ran.context, ran.effects, .error (noAggregate group.groupId)⟩
    | .ok (some aggregate) => ⟨reassign ran.context retry, ran.effects, .ok aggregate⟩

end

/- What happens while the windows of all groups are run. -/
structure GroupsEnv where
  first : UInt16 → GroupEnv
  second : UInt16 → GroupEnv

def runGroup (digest : Digest) (node : NodeId) (env : GroupsEnv) (context : Context)
    (group : TrainingGroup) (window : UInt64) : Outcome TrainingAggregate :=
  let ran := runGroupWindow digest node (env.first group.groupId) context group window
  match ran.result with
  | .error error => ⟨ran.context, ran.effects, .error error⟩
  | .ok (some aggregate) => ⟨ran.context, ran.effects, .ok aggregate⟩
  | .ok none =>
    let retried := retryGroupWindow digest node (env.second group.groupId) ran.context group window
    ⟨retried.context, ran.effects ++ retried.effects, retried.result⟩

def runGroups (digest : Digest) (node : NodeId) (env : GroupsEnv) (window : UInt64) :
    Context → List TrainingGroup → Outcome (List TrainingAggregate)
| context, [] => ⟨context, [], .ok []⟩
| context, group :: groups =>
  let ran := runGroup digest node env context group window
  match ran.result with
  | .error error => ⟨ran.context, ran.effects, .error error⟩
  | .ok aggregate =>
    let rest := runGroups digest node env window ran.context groups
    ⟨rest.context, ran.effects ++ rest.effects, rest.result.map (aggregate :: ·)⟩

----
-- Committing a Window
----

def installAggregates (context : Context) (window : UInt64)
    (aggregates : List TrainingAggregate) : Context :=
  { context with
    window := window
    acceptedUpdates := Saturating.add context.acceptedUpdates (aggregates.map (fun aggregate =>
      UInt64.ofNat aggregate.contributors.length)).sum
    shardValues := OrderedMap.insertAll TrainingAggregate.shardId
      (fun aggregate => (aggregate.value, aggregate.optimizer)) context.shardValues aggregates
    shardSummaries := OrderedMap.insertAll TrainingAggregate.shardId (fun aggregate =>
      { shardId := aggregate.shardId
        generation := aggregate.generation
        stateHash := aggregate.stateArtifact
        providers := providers aggregate })
      context.shardSummaries aggregates }

def makeCheckpoint (digest : Digest) (context : Context) (aggregates : List TrainingAggregate) :
    TrainingCheckpointManifest :=
  let generation := (aggregates.map TrainingAggregate.generation).max?.getD 0
  let manifest : TrainingCheckpointManifest :=
    { jobId := context.start.jobId
      modelGeneration := generation
      optimizerGeneration := generation
      membershipEpoch := context.start.membershipEpoch
      term := context.term
      checkpointGeneration := Saturating.add context.checkpointGeneration 1
      parent := context.checkpoint
      shards := aggregates.map (fun aggregate =>
        ⟨aggregate.shardId, aggregate.stateArtifact, aggregate.generation, providers aggregate⟩)
      datasetProgress := aggregates.map (fun aggregate =>
        (aggregate.shardId, aggregate.window))
      hash := default }
  { manifest with hash := checkpointHash digest manifest }

/- What happens while one window is driven. -/
structure WindowEnv where
  groups : GroupsEnv
  stateWritten : Bool
  stateAcks : List Arrival
  commit : CommitEnv

variable (digest : Digest) (node : NodeId)

/- Every checkpoint of a periodic job waits for its quorum. -/
def commitWindowCheckpoint (env : CommitEnv) (context : Context)
    (aggregates : List TrainingAggregate) : Outcome Unit :=
  let manifest := makeCheckpoint digest context aggregates
  let commit := contextCommit context manifest
  if !env.checkpointWritten then
    ⟨context, [], .error .storage⟩
  else
    let sent := broadcastCheckpointAndWait node (recordCheckpoint context manifest) commit env.acks
    let effects := .persistedCheckpoint commit :: sent.effects
    match sent.result with
    | .ok true =>
      if env.stateWritten then
        ⟨sent.context, effects ++ [.persistedState sent.context.state], .ok ()⟩
      else
        ⟨sent.context, effects, .error .storage⟩
    | _ =>
      ⟨sent.context, effects, .error (.invalidConfig "V3 checkpoint commit did not reach a quorum")⟩

/- Announce the state of a window, then its checkpoint. -/
def commitWindow (env : WindowEnv) (context : Context) (window : UInt64)
    (aggregates : List TrainingAggregate) : Outcome Unit :=
  let installed := installAggregates context window aggregates
  let state := installed.state
  if !env.stateWritten then
    ⟨installed, [], .error .storage⟩
  else
    let announced := broadcastStateAndWait node installed state env.stateAcks
    let effects := .persistedState state :: announced.effects
    match announced.result with
    | .ok true =>
      if window % announced.context.start.checkpointEvery = 0 ∨
        window = announced.context.start.maxWindows then
        let committed := commitWindowCheckpoint digest node env.commit announced.context aggregates
        ⟨committed.context, effects ++ committed.effects, committed.result⟩
      else
        ⟨announced.context, effects, .ok ()⟩
    | _ =>
      ⟨announced.context, effects,
        .error (.invalidConfig "V3 state did not reach a quorum; no canonical window committed")⟩

def driveWindow (env : WindowEnv) (context : Context) : Outcome Unit :=
  let window := context.window + 1
  let ran := runGroups digest node env.groups window context context.start.groups
  match ran.result with
  | .error error => ⟨ran.context, ran.effects, .error error⟩
  | .ok aggregates =>
    let committed := commitWindow digest node env ran.context window aggregates
    ⟨committed.context, ran.effects ++ committed.effects, committed.result⟩

end IntelligenceNetwork.Training
