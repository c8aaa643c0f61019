import IntelligenceNetwork.Frontier.Driver

/-
  The participants of an integrated job.

  When the coordinator has been silent long enough, the first
  of the members that are left asks the others for their votes,
  and with a majority it drives the job itself.

  Main declarations:
    * `requestIntegratedElection`
    * `participantStep`
    * `taskStep`
-/

----
-- Candidates
----

namespace IntelligenceNetwork.Frontier

section

variable (self : NodeId)

variable (graph : V4ExecutionGraph)

variable (confirmed : Finset NodeId)

def liveWorkers : List NodeId :=
  graph.workers.filter (fun worker =>
    worker = self ∨ worker ∈ confirmed)

def electionQuorum : Nat :=
  graph.workers.length / 2 + 1

/- The live members that could replace the coordinator. -/
def eligibleWorkers : List NodeId :=
  (liveWorkers self graph confirmed).filter (· ≠ graph.coordinator)

/- A node that holds a part of the model or of the pipeline. -/
def isProvider (candidate : NodeId) : Bool :=
  graph.shards.any (fun shard =>
    shard.replicas.contains candidate || shard.owners.contains candidate) ||
    graph.pipelineStages.any (fun stage =>
      stage.replicas.contains candidate || stage.worker == candidate)

/- Providers come first; the others only where there are none. -/
def takeoverCandidate : Option NodeId :=
  let eligible := eligibleWorkers self graph confirmed
  let providers := eligible.filter (isProvider graph)
  least (if providers.isEmpty then eligible else providers)

end

----
-- Elections
----

variable (digests : Digests) (self : NodeId)

/- The node holds the graph it wants to be elected for. -/
def electionOpen (records : JobRecords) (graph : V4ExecutionGraph) : Bool :=
  match records.graph, records.state with
  | some current, some state =>
    current.graphHash == graph.graphHash && current.graphGeneration == graph.graphGeneration &&
      votePhase state.phase && current.coordinator == graph.coordinator
  | _, _ => false

/-
  A candidate goes on from the term of its own last candidacy
  for the graph.  A vote that it has given to another candidate
  does not count here.
-/
def candidateTerm (existing : Option V4IntegratedElectionRecord)
    (graph : V4ExecutionGraph) : UInt64 :=
  let previous := (existing.filter (fun record =>
    record.graphGeneration == graph.graphGeneration && record.graphHash == graph.graphHash &&
      record.candidate == self)).map (·.term)
  max (Saturating.add (previous.getD graph.coordinationTerm) 1)
    (Saturating.add graph.coordinationTerm 1)

def electionRequest (snapshot : Snapshot) (term : UInt64) : V4IntegratedElectionRequest where
  requestId := snapshot.graph.jobId
  jobId := snapshot.graph.jobId
  graphGeneration := snapshot.graph.graphGeneration
  graphHash := snapshot.graph.graphHash
  branch := snapshot.graph.branch
  stateHash := snapshot.state.stateHash
  term := term
  candidate := self

/- The vote a candidate waits for. -/
def grants (candidacy : Candidacy) (peer : NodeId) (vote : V4IntegratedElectionVote) : Bool :=
  let graph := candidacy.snapshot.graph
  vote.jobId == graph.jobId && vote.graphGeneration == graph.graphGeneration &&
    vote.graphHash == graph.graphHash && vote.term == candidacy.term && vote.candidate == self &&
    vote.voter == peer &&
    decide (peer ∈ candidacy.pending)

def Candidacy.count (candidacy : Candidacy) (peer : NodeId) (granted : Bool) : Candidacy :=
  { candidacy with
    pending := candidacy.pending.erase peer
    votes :=
      if granted then candidacy.votes.insert peer else candidacy.votes }

----
-- Takeovers
----

/- Back to waiting, with a number of misses. -/
def waitOn (member : Member) (effects : List Effect) (participant : Participant)
    (misses : UInt8) : Stepped :=
  ⟨{ member with task := .participant { participant with coordinatorMisses := misses } .waiting },
    effects⟩

/- The job goes on without this node's task. -/
def leaveTask (member : Member) : Stepped :=
  ⟨{ member with task := .none }, []⟩

/- The certificate of a candidate that has won. -/
def certificateOf (candidacy : Candidacy) : List NodeId :=
  candidacy.votes.insertionSort (· ≤ ·)

section

variable (env : HandlerEnv) (member : Member) (participant : Participant)

/- A candidate with a majority drives the job from now on. -/
def takeOver (candidacy : Candidacy) : Stepped :=
  let snapshot := candidacy.snapshot
  let certificate := certificateOf candidacy
  let won : Effect := .elected snapshot.graph candidacy.term certificate
  let handled := reconfigureIntegratedGraphMembership digests self env []
    member snapshot (some snapshot.graph.coordinator) none (some certificate)
  match handled.result with
  | .error _ =>
    waitOn handled.member (won :: handled.effects) participant participant.coordinatorMisses
  | .ok next =>
    let entered := enterDriver self next participant.windows
      participant.checkpointEvery (some participant)
    ⟨{ handled.member with task := entered.1 }, won :: handled.effects ++ entered.2⟩

/- Go on collecting votes while a majority is possible. -/
def countVotes (candidacy : Candidacy) : Stepped :=
  if electionQuorum candidacy.snapshot.graph ≤ candidacy.votes.length then
    takeOver digests self env member participant candidacy
  else if candidacy.pending = ∅ then
    waitOn member [] participant participant.coordinatorMisses
  else
    ⟨{ member with task := .participant participant (.electing candidacy) }, []⟩

/- The candidate's own vote, and its requests to the others. -/
def requestIntegratedElection (snapshot : Snapshot)
    (confirmed unreachable : Finset NodeId) : Stepped :=
  let graph := snapshot.graph
  if electionOpen member.held graph = false ∨
    least (eligibleWorkers self graph confirmed) ≠ some self ∨ env.recordWritten = false then
    waitOn member [] participant participant.coordinatorMisses
  else
    let term := candidateTerm self member.held.election graph
    let record := electionRecord digests graph.jobId graph.graphGeneration graph.graphHash term self
    let reached := graph.workers.filter (fun voter =>
      voter ≠ self ∧ voter ∉ unreachable)
    let next := countVotes digests self env (castVote member record)
      participant ⟨snapshot, term, [self], reached.toFinset⟩
    ⟨next.member, .voted record :: reached.map (fun voter => .send voter
      (.integratedElectionRequest (electionRequest self snapshot term))) ++
      next.effects⟩

end

/- What a participant sees before it probes the members. -/
def maybeTakeOverIntegratedJob (member : Member) (participant : Participant) : Stepped :=
  match member.held.graph, member.held.plan, member.held.state with
  | some graph, some plan, some state =>
    match state.phase with
    | .committed | .failed => leaveTask member
    | .preparing | .reconfiguring => waitOn member [] participant 0
    | .running | .partitioned =>
      ⟨{ member with task := .participant participant (.probing ⟨graph, plan, state⟩) }, []⟩
  | _, _, _ => waitOn member [] participant participant.coordinatorMisses

variable (env : HandlerEnv) (member : Member)

/- What a participant does with the answers to its probe. -/
def decideTakeover (participant : Participant) (snapshot : Snapshot)
    (confirmed unreachable : Finset NodeId) : Stepped :=
  let graph := snapshot.graph
  let misses := Saturating.succ8 participant.coordinatorMisses
  if graph.coordinator ≠ self ∧ graph.coordinator ∈ confirmed then
    waitOn member [] participant 0
  else if (liveWorkers self graph confirmed).length < electionQuorum graph then
    waitOn member [] participant misses
  else if misses < v4TakeoverMissesRequired then
    waitOn member [] participant misses
  else if takeoverCandidate self graph confirmed ≠ some self then
    waitOn member [] participant 0
  else
    requestIntegratedElection digests self env member participant snapshot confirmed unreachable

def terminal (records : JobRecords) : Bool :=
  records.state.any (fun state =>
    state.phase == .committed || state.phase == .failed)

/- One step of a participant, from one wait to the next. -/
def participantStep (participant : Participant) : ParticipantStage → TaskEvent → Option Stepped
| .waiting, .takeover => some (maybeTakeOverIntegratedJob member participant)
| .waiting, .deadline => if terminal member.held then some (leaveTask member) else some ⟨member, []⟩
| .waiting, .closed => some (leaveTask member)
| .waiting, .inbound _ _ => some ⟨member, []⟩
| .probing snapshot, .confirmed members unreachable =>
  some (decideTakeover digests self env member participant snapshot members unreachable)
| .electing candidacy, .inbound peer message =>
  match message with
  | .integratedElectionVote vote =>
    if grants self candidacy peer vote then
      some (countVotes digests self env member participant (candidacy.count peer vote.granted))
    else
      some ⟨member, []⟩
  | _ => some ⟨member, []⟩
| .electing _, .deadline | .electing _, .closed =>
  some (waitOn member [] participant participant.coordinatorMisses)
| _, _ => none

/- The node that ordered the job waits for its result. -/
def controllerStep (member : Member) : TaskEvent → Option Stepped
| .inbound _ (.integratedResult _) => some (leaveTask member)
| .inbound _ _ => some ⟨member, []⟩
| .deadline | .closed => some (leaveTask member)
| _ => none

/- One step of whatever the node does for the job. -/
def taskStep (event : TaskEvent) : Option Stepped :=
  match member.task with
  | .none => none
  | .controller => controllerStep member event
  | .participant participant stage =>
    participantStep digests self env member participant stage event
  | .driving driver stage within => driveStep digests self env member driver within stage event

/-
  After a restart the job is taken up again, unless a newer
  graph has come in between: by its coordinator with the graph
  it has, by the others as participants.
-/
def resume : Option Stepped :=
  if !member.resuming then
    none
  else
    let member := { member with resuming := false }
    match resumable self member.held with
    | none => some ⟨member, []⟩
    | some snapshot =>
      let windows := snapshot.state.targetWindows
      if member.task.running then
        some ⟨member, []⟩
      else if snapshot.graph.coordinator = self then
        some (finishActivation digests self env member (Driver.start snapshot windows 1) none none)
      else
        some ⟨{ member with task := .participant ⟨windows, 1, 0⟩ .waiting }, []⟩

end IntelligenceNetwork.Frontier
