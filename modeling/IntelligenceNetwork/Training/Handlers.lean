import IntelligenceNetwork.Training.Context

/-
  How a training node answers single messages.

  A handler gives the context after the call, what the node did
  to the outside, and whether the call failed.  A failed call
  keeps the changes it made before it failed.

  Main declarations:
    * `handleState`
    * `handleElection`
    * `handleCheckpointCommit`
-/

----
-- Outcomes
----

namespace IntelligenceNetwork.Training

/-
  What a node does to the outside.  The last two record calls
  rather than messages: from which context an update was
  computed, and from which window an aggregate was produced.
-/
inductive Effect where
  | sent (target : NodeId) (message : TrainingMessage)
  | persistedState (state : TrainingState)
  | persistedCheckpoint (commit : TrainingCheckpointCommit)
  | persistedShardState (state : TrainingShardState)
  | computed (held : Context) (window : TrainingWindow)
  | produced (window : TrainingWindow) (own : TrainingUpdate) (aggregate : TrainingAggregate)

structure Outcome (α : Type) where
  context : Context
  effects : List Effect
  result : Except NodeError α

section

variable (context : Context)

/- A call that changes nothing and succeeds. -/
def Outcome.unchanged : Outcome Unit :=
  ⟨context, [], .ok ()⟩

/- The acknowledgement that `node` sends to `peer`. -/
def sendAck (node peer : NodeId) (jobId : JobId) (term : UInt64)
    (kind : TrainingAckKind) : Effect :=
  .sent peer (.ack ⟨jobId, node, term, kind⟩)

----
-- Updates
----

/-
  The update is computed from the context's value and labelled
  with the base generation of the window.
-/
def computeUpdate (window : TrainingWindow) (worker : NodeId) : TrainingUpdate :=
  let trained := (localStep context.samples)^[window.localSteps.toNat]
    (context.value, context.optimizer)
  { jobId := context.start.jobId
    worker := worker
    term := context.term
    membershipEpoch := context.start.membershipEpoch
    branch := context.branch
    window := window.window
    shardId := window.shardId
    baseGeneration := window.baseGeneration
    updateSequence := Saturating.add window.window 1
    value := trained.1
    optimizer := trained.2
    loss := samplesLoss trained.1 context.samples
    samples := UInt32.ofNat context.samples.length }

def computeAndSendUpdate (node : NodeId) (sent : Bool) (context : Context) (window : TrainingWindow)
    (aggregator : NodeId) : Outcome Unit :=
  let update := computeUpdate context window node
  if sent then
    ⟨context, [.computed context window, .sent aggregator (.update update)], .ok ()⟩
  else
    ⟨context, [.computed context window], .error .network⟩

----
-- Shard States
----

section

variable (digest : Digest)

def shardStateRejected (context : Context) (peer : NodeId) (state : TrainingShardState) : Bool :=
  peer != state.owner || state.jobId != context.start.jobId || state.term < context.term ||
    state.branch != context.branch || state.shardId != context.assignment.shardId ||
    state.generation < context.generation || !shardStateIntact digest state

def adoptShardState (state : TrainingShardState) : Context :=
  { context with
    value := state.value
    optimizer := state.optimizer
    generation := state.generation }

def handleShardState (written : Bool) (context : Context) (peer : NodeId)
    (state : TrainingShardState) : Outcome Unit :=
  if shardStateRejected digest context peer state then
    .unchanged context
  else if written then
    ⟨adoptShardState context state, [.persistedShardState state], .ok ()⟩
  else
    ⟨adoptShardState context state, [], .error .storage⟩

----
-- Coordination States
----

/-
  At one term a state may neither go back to an older window
  nor replace a known checkpoint of the same generation.  A
  newer term is only asked for its checkpoint's generation.
-/
def stateRejected (peer : NodeId) (state : TrainingState) : Bool :=
  peer != state.coordinator || state.jobId != context.start.jobId ||
    state.branch != context.branch || state.term < context.term ||
    (state.term == context.term && state.window < context.window) ||
    (state.term == context.term && state.checkpointGeneration == context.checkpointGeneration &&
      state.checkpoint.isSome && context.checkpoint.isSome &&
      state.checkpoint != context.checkpoint)

/- Keep the newer of a known summary and an announced one. -/
def advanceSummary (summaries : Std.TreeMap UInt16 TrainingShardSummary)
    (shard : TrainingShardSummary) : Std.TreeMap UInt16 TrainingShardSummary :=
  if summaries[shard.shardId]?.all (fun current => shard.generation > current.generation)
  then
    summaries.insert shard.shardId shard
  else
    summaries

/- The checkpoint a context has after adopting a state. -/
def adoptedCheckpoint (state : TrainingState) : UInt64 × Option ArtifactId :=
  if state.checkpointGeneration > context.checkpointGeneration then
    (state.checkpointGeneration, state.checkpoint)
  else if context.checkpoint.isNone ∧ state.checkpointGeneration = context.checkpointGeneration then
    (context.checkpointGeneration, state.checkpoint)
  else
    (context.checkpointGeneration, context.checkpoint)

def adoptState (state : TrainingState) : Context :=
  { context with
    coordinator := state.coordinator
    term := state.term
    window := state.window
    checkpointGeneration := (adoptedCheckpoint context state).1
    checkpoint := (adoptedCheckpoint context state).2
    shardSummaries := state.shards.foldl advanceSummary context.shardSummaries }

/- The hash that acknowledges a state: its first shard's. -/
def acknowledgedHash (state : TrainingState) : ArtifactId :=
  (state.shards.head?.map TrainingShardSummary.stateHash).getD default

def handleState (node : NodeId) (written : Bool) (context : Context) (peer : NodeId)
    (state : TrainingState) : Outcome Unit :=
  if stateRejected context peer state then
    .unchanged context
  else
    let adopted := adoptState context state
    let merged := adopted.state
    if written then
      ⟨adopted, [.persistedState merged, sendAck node peer merged.jobId merged.term
        (.state merged.window (acknowledgedHash merged))], .ok ()⟩
    else
      ⟨adopted, [], .error .storage⟩

----
-- Votes
----

def electionRejected (peer : NodeId) (election : TrainingElection) : Bool :=
  peer != election.candidate || election.jobId != context.start.jobId ||
    election.membershipEpoch != context.start.membershipEpoch ||
    election.branch != context.branch || !context.start.participants.contains election.candidate

/-
  A term above the active one is always granted, whatever was
  granted before; another term only to the candidate on record.
-/
def voteGranted (election : TrainingElection) : Bool :=
  election.term > context.term ||
    (election.term == context.votedTerm && context.votedCandidate == some election.candidate)

def recordVote (election : TrainingElection) : Context :=
  if election.term > context.term then
    { context with votedTerm := election.term, votedCandidate := some election.candidate }
  else
    context

/- A vote does not advance the active term. -/
def handleElection (node : NodeId) (context : Context) (peer : NodeId)
    (election : TrainingElection) : Outcome Unit :=
  if electionRejected context peer election then
    .unchanged context
  else
    let granted := voteGranted context election
    let vote := sendAck node peer election.jobId election.term
      (.vote election.candidate election.term context.window granted)
    ⟨recordVote context election,
      if granted then [vote, .sent peer (.state context.state)] else [vote], .ok ()⟩

/- A vote that arrives outside of an election. -/
def observeAck (ack : TrainingAck) : Context :=
  match ack.kind with
  | .vote _ _ _ _ => { context with votedTerm := max context.votedTerm ack.term }
  | _ => context

----
-- Checkpoints
----

/-
  What the store holds of an offered artifact: whether it
  could be verified, and the shard state it decodes to.
-/
structure Offered where
  verified : Bool
  decoded : Option TrainingShardState

def offeredStateUsable (context : Context) (state : TrainingShardState) : Bool :=
  state.jobId == context.start.jobId && state.branch == context.branch &&
    state.shardId == context.assignment.shardId && state.generation ≥ context.generation &&
    shardStateIntact digest state

/- An offer is stored and acknowledged, but not adopted. -/
def handleCheckpointOffer (node : NodeId) (offered : Offered) (written : Bool)
    (context : Context) (peer : NodeId) (offer : TrainingCheckpointOffer) : Outcome Unit :=
  if peer ≠ offer.creator ∨ offer.jobId ≠ context.start.jobId ∨ offer.term < context.term then
    .unchanged context
  else if !offered.verified then
    .unchanged context
  else
    let ack := sendAck node peer offer.jobId offer.term (.checkpoint offer.artifact)
    match offered.decoded.filter (offeredStateUsable digest context) with
    | none => ⟨context, [ack], .ok ()⟩
    | some state =>
      if written then
        ⟨context, [.persistedShardState state, ack], .ok ()⟩
      else
        ⟨context, [], .error .storage⟩

/-
  A commit may repeat the current generation, with the same
  manifest or with another one.
-/
def commitRejected (context : Context) (peer : NodeId) (commit : TrainingCheckpointCommit) : Bool :=
  peer != commit.coordinator || commit.jobId != context.start.jobId ||
    commit.branch != context.branch || commit.term < context.term ||
    commit.manifest.checkpointGeneration < context.checkpointGeneration ||
    checkpointHash digest commit.manifest != commit.manifest.hash

end

def committedSummary (shard : TrainingCheckpointShard) : TrainingShardSummary where
  shardId := shard.shardId
  generation := shard.generation
  stateHash := shard.artifact
  providers := shard.providers

/- Whether a manifest is the last one of its job. -/
def manifestIsFinal (start : TrainingStart) (manifest : TrainingCheckpointManifest) : Bool :=
  manifest.checkpointGeneration ≥ finalCheckpointGeneration start && manifest.shards.all
    (fun shard => shard.generation ≥ start.maxWindows)

def adoptCommit (commit : TrainingCheckpointCommit) : Context :=
  { context with
    term := commit.term
    coordinator := commit.coordinator
    window := max context.window commit.manifest.modelGeneration
    checkpointGeneration := commit.manifest.checkpointGeneration
    checkpoint := some commit.manifest.hash
    shardSummaries := OrderedMap.insertAll TrainingCheckpointShard.shardId
      committedSummary context.shardSummaries commit.manifest.shards
    finalCheckpointCommitted := manifestIsFinal context.start commit.manifest }

end

def handleCheckpointCommit (digest : Digest) (node : NodeId) (checkpointWritten stateWritten : Bool)
    (context : Context) (peer : NodeId) (commit : TrainingCheckpointCommit) : Outcome Unit :=
  if commitRejected digest context peer commit then
    .unchanged context
  else if !checkpointWritten then
    ⟨context, [], .error .storage⟩
  else
    let adopted := adoptCommit context commit
    if stateWritten then
      ⟨adopted, [.persistedCheckpoint commit, .persistedState adopted.state,
        sendAck node peer commit.jobId commit.term (.checkpoint commit.manifest.hash)], .ok ()⟩
    else
      ⟨adopted, [.persistedCheckpoint commit], .error .storage⟩

end IntelligenceNetwork.Training
