import IntelligenceNetwork.Lib.Ballots
import IntelligenceNetwork.Training.Broadcast
import IntelligenceNetwork.Training.WorkerRun

/-
  Elections.

  Every worker picks the candidate by itself, and only the
  candidate asks for votes.  Its call is a state, and each event
  out of the mailbox is a step.  A message may be delivered to
  its receiver at any later time, any number of times or never.

  Main declarations:
    * `electionCandidate`
    * `electStep`
    * `electionStep`
-/

----
-- Candidates
----

namespace IntelligenceNetwork.Training

def v3ElectionAttempts : Nat := 3

/- Aggregators are spared while another participant is live. -/
def electionCandidates (context : Context) : List NodeId :=
  let aggregators := context.start.groups.map TrainingGroup.aggregator
  let candidates := context.start.participants.filter
    (fun peer => peer ∉ context.failed ∧ peer ∉ aggregators)
  if candidates.isEmpty then context.start.participants.filter (· ∉ context.failed) else candidates

def electionCandidate (context : Context) : Option NodeId :=
  ((electionCandidates context).insertionSort (· ≤ ·)).head?

theorem mem_participants_of_electionCandidate {context : Context} {candidate : NodeId}
    (hCandidate : electionCandidate context = some candidate) :
    candidate ∈ context.start.participants := by
  have hSorted := List.mem_of_head? hCandidate
  rw [List.mem_insertionSort, electionCandidates] at hSorted
  split_ifs at hSorted
  · exact (List.mem_filter.mp hSorted).1
  · exact (List.mem_filter.mp hSorted).1

/- The request a candidate sends for the next term. -/
def electionRequest (context : Context) (candidate : NodeId) : TrainingElection where
  jobId := context.start.jobId
  candidate := candidate
  term := Saturating.add context.term 1
  membershipEpoch := context.start.membershipEpoch
  branch := context.branch
  lastWindow := context.window
  lastStateHash :=
    (context.shardSummaries.values.head?.map TrainingShardSummary.stateHash).getD default

----
-- The Call of a Candidate
----

/- What a candidate keeps while it waits for votes. -/
structure Candidacy where
  failedCoordinator : NodeId
  previousTerm : UInt64
  previousCoordinator : NodeId
  election : TrainingElection
  votes : Finset NodeId
  attempt : Nat

/- A call waits for votes or has returned. -/
inductive ElectPhase where
  | electing (candidacy : Candidacy)
  | returned (result : Except NodeError Unit)

structure ElectCall where
  context : Context
  effects : List Effect
  phase : ElectPhase

section

variable (node : NodeId) (context : Context) (candidacy : Candidacy)

/- The request goes to all but the node and the lost peer. -/
def requestVotes : List Effect :=
  (context.start.participants.filter (fun peer =>
    peer ≠ node ∧ peer ≠ candidacy.failedCoordinator)).map
    (fun peer => .sent peer (.election candidacy.election))

def becomeCoordinator : Context :=
  { context with
    role := .coordinator
    term := candidacy.election.term
    coordinator := node
    votedTerm := candidacy.election.term
    votedCandidate := some node
    failed := {candidacy.failedCoordinator} }

end

section

variable (node : NodeId) (written : Bool) (context : Context)

/-
  A candidate with a quorum becomes coordinator at once, also
  when its new state cannot be written.
-/
def settleElection (candidacy : Candidacy) (effects : List Effect) : ElectCall :=
  if candidacy.votes.card < quorum context.start.participants.length then
    ⟨context, effects, .electing candidacy⟩
  else
    let elected := becomeCoordinator node context candidacy
    if written then
      ⟨elected, effects ++ .persistedState elected.state ::
        broadcast node elected (.state elected.state), .returned (.ok ())⟩
    else
      ⟨elected, effects, .returned (.error .storage)⟩

def maybeElect (failedCoordinator : NodeId) : ElectCall :=
  let marked := context.fail failedCoordinator
  match electionCandidate marked with
  | none => ⟨marked, [], .returned (.error (.invalidConfig "no V3 election candidate remains"))⟩
  | some candidate =>
    if candidate ≠ node then
      ⟨marked, [], .returned (.ok ())⟩
    else
      let candidacy : Candidacy :=
        { failedCoordinator := failedCoordinator
          previousTerm := context.term
          previousCoordinator := context.coordinator
          election := electionRequest marked candidate
          votes := {node}
          attempt := 0 }
      settleElection node written marked candidacy (requestVotes node marked candidacy)

end

----
-- Waiting for Votes
----

/- What the wait reads: an event, or that its time is up. -/
inductive ElectEvent where
  | inbound (written : Bool) (event : V3Inbound)
  | timedOut

section

variable (node : NodeId) (context : Context) (candidacy : Candidacy) (peer : NodeId)

/- A vote for this candidacy that its sender vouches for. -/
def voteCounts (ack : TrainingAck) : Bool :=
  match ack.kind with
  | .vote candidate term _ granted =>
    peer != node && peer == ack.peer && context.start.participants.contains peer &&
      ack.jobId == context.start.jobId && ack.term == candidacy.election.term &&
      term == candidacy.election.term && candidate == candidacy.election.candidate && granted
  | _ => false

/- News from the term that just ended. -/
def recoveryUseful (state : TrainingState) : Bool :=
  peer != node && context.start.participants.contains peer && state.jobId == context.start.jobId &&
    state.branch == context.branch && state.term == candidacy.previousTerm &&
    state.coordinator == candidacy.previousCoordinator &&
    (state.window > context.window || state.checkpointGeneration > context.checkpointGeneration ||
      state.shards.any (fun shard =>
        context.shardSummaries[shard.shardId]?.all (fun current =>
          shard.generation > current.generation)))

end

/- The checkpoint is replaced even by an older one. -/
def adoptRecovery (context : Context) (state : TrainingState) : Context :=
  { context with
    window := max context.window state.window
    checkpointGeneration := max context.checkpointGeneration state.checkpointGeneration
    checkpoint := state.checkpoint
    shardSummaries := state.shards.foldl advanceSummary context.shardSummaries }

def quorumFailed (context : Context) (candidacy : Candidacy) : NodeError :=
  let received := candidacy.votes.card
  let needed := quorum context.start.participants.length
  .invalidConfig
    (s!"V3 election could not obtain a quorum: " ++ s!"received {received} of {needed} votes")

/- A request for a later term ends the candidacy. -/
def electStep (node : NodeId) (context : Context) (candidacy : Candidacy) : ElectEvent → ElectCall
| .inbound written (.message peer (.ack ack)) =>
  if voteCounts node context candidacy peer ack then
    settleElection node written context { candidacy with votes := insert peer candidacy.votes } []
  else
    ⟨context, [], .electing candidacy⟩
| .inbound _ (.message peer (.election other)) =>
  if other.term > candidacy.election.term then
    let outcome := handleElection node context peer other
    ⟨outcome.context, outcome.effects, .returned outcome.result⟩
  else
    ⟨context, [], .electing candidacy⟩
| .inbound _ (.message peer (.state state)) =>
  if recoveryUseful node context candidacy peer state then
    ⟨adoptRecovery context state, [], .electing candidacy⟩
  else
    ⟨context, [], .electing candidacy⟩
| .inbound _ _ => ⟨context, [], .electing candidacy⟩
| .timedOut =>
  if candidacy.attempt + 1 < v3ElectionAttempts then
    ⟨context, requestVotes node context candidacy, .electing
        { candidacy with attempt := candidacy.attempt + 1 }⟩
  else
    ⟨context, [], .returned (.error (quorumFailed context candidacy))⟩

----
-- The Nodes of a Job
----

structure Packet where
  (sender receiver : NodeId)
  message : TrainingMessage
  deriving DecidableEq

/- A node and the election it is waiting in, if any. -/
structure Member where
  context : Context
  candidacy : Option Candidacy

/- How a node left a call of `maybeElect`. -/
structure ElectExit where
  node : NodeId
  role : Role
  term : UInt64
  deriving DecidableEq

structure ElectionSystem where
  members : NodeId → Member
  sent : List Packet
  exits : List ElectExit

/- What the rest of a node's code does to its context. -/
def KeepsVote (before after : Context) : Prop :=
  after.start.participants = before.start.participants ∧
    (after.role = .coordinator → before.role = .coordinator) ∧ before.term ≤ after.term ∧
    before.votedTerm ≤ after.votedTerm ∧ after.votedCandidate = before.votedCandidate

instance (before after : Context) : Decidable (KeepsVote before after) := by
  unfold KeepsVote
  infer_instance

theorem KeepsVote.refl (context : Context) : KeepsVote context context :=
  ⟨rfl, id, UInt64.le_refl _, UInt64.le_refl _, rfl⟩

/-
  A node that waits in an election does nothing else; any
  other node handles requests wherever it reads its mailbox,
  and loses peers while it is a worker.
-/
inductive ElectionAction where
  | requested (node peer : NodeId) (election : TrainingElection)
  | disconnected (node peer : NodeId) (connected reconnected written : Bool)
  | waited (node : NodeId) (event : ElectEvent)
  | worked (node : NodeId) (after : Context)

----
-- Steps of the System
----

/- The messages among a node's effects. -/
def packets (node : NodeId) (effects : List Effect) : List Packet :=
  effects.filterMap (fun effect =>
    match effect with
    | .sent target message => some ⟨node, target, message⟩
    | _ => none)

/- Requests and votes come from nobody but their senders. -/
def isElectionTraffic : TrainingMessage → Bool
| .election _ | .ack ⟨_, _, _, .vote _ _ _ _⟩ => true
| _ => false

namespace ElectionSystem

/- Every node starts from the job's order and its own share. -/
def initial (start : TrainingStart) (share : NodeId → TrainingShardAssignment × List TrainingSample)
    (role : NodeId → Role) : ElectionSystem where
  members := fun node =>
    ⟨Context.new
      { start with assignment := (share node).1, samples := (share node).2 } (role node), none⟩
  sent := []
  exits := []

variable (system : ElectionSystem) (node : NodeId)

def act (member : Member) (effects : List Effect) (exits : List ElectExit) : ElectionSystem where
  members := Function.update system.members node member
  sent := system.sent ++ packets node effects
  exits := system.exits ++ exits

/- A call that has returned leaves a record of how. -/
def commit (call : ElectCall) : ElectionSystem :=
  match call.phase with
  | .electing candidacy => system.act node ⟨call.context, some candidacy⟩ call.effects []
  | .returned _ =>
    system.act node ⟨call.context, none⟩ call.effects [⟨node, call.context.role, call.context.term⟩]

/- Anything may arrive that is not forged election traffic. -/
def authentic : ElectEvent → Bool
| .inbound _ (.message peer message) =>
  !isElectionTraffic message || system.sent.contains ⟨peer, node, message⟩
| _ => true

end ElectionSystem

/- The loss of a peer, as a worker's loop handles it. -/
def peerLost (node : NodeId) (connected reconnected written : Bool) (system : ElectionSystem)
    (peer : NodeId) : ElectionSystem :=
  let context := (system.members node).context
  let restored := restoreTrainingPeer connected reconnected context peer
  if restored.2 then
    system.act node ⟨restored.1, none⟩ [] []
  else if peer = context.coordinator then
    system.commit node (maybeElect node written restored.1 peer)
  else
    system.act node ⟨restored.1.fail peer, none⟩ [] []

def electionStep (system : ElectionSystem) : ElectionAction → Option ElectionSystem
| .requested node peer election =>
  let outcome := handleElection node (system.members node).context peer election
  if (system.members node).candidacy.isNone ∧ ⟨peer, node, .election election⟩ ∈ system.sent then
    some (system.act node ⟨outcome.context, none⟩ outcome.effects [])
  else
    none
| .disconnected node peer connected reconnected written =>
  if (system.members node).candidacy.isNone ∧ (system.members node).context.role = .worker ∧
      ¬ jobRetired (system.members node).context then
    some (peerLost node connected reconnected written system peer)
  else
    none
| .waited node event =>
  match (system.members node).candidacy with
  | none => none
  | some candidacy =>
    if system.authentic node event then
      some (system.commit node (electStep node (system.members node).context candidacy event))
    else
      none
| .worked node after =>
  if (system.members node).candidacy.isNone ∧ KeepsVote (system.members node).context after then
    some (system.act node ⟨after, none⟩ [] [])
  else
    none

end IntelligenceNetwork.Training
