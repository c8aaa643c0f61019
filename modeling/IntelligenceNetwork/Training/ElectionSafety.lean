import IntelligenceNetwork.Training.Election

/-
  How many coordinators a term can have.

  A request for a term above the active one is granted whatever
  the node has granted before, and a candidate does not put its
  own vote on record before it has won.

  Main declarations:
    * `SingleVote`
    * `ElectionInv`
    * `coordinator_unique`
-/

----
-- Ballots
----

namespace IntelligenceNetwork.Training

open Transition

variable {candidacy : Candidacy} {context after : Context} {effects : List Effect}
variable {node peer : NodeId} {system : ElectionSystem} {election : TrainingElection}
variable {exits : List ElectExit} {member : Member} {start : TrainingStart} {ack : TrainingAck}

open Ballots

abbrev NodeBallot := Ballot NodeId UInt64

/- A granted vote is a ballot of its sender. -/
def Packet.ballot : Packet → Option NodeBallot
| ⟨sender, _, .ack ⟨_, _, _, .vote candidate term _ true⟩⟩ => some ⟨sender, term, candidate⟩
| _ => none

def ElectionSystem.ballots (system : ElectionSystem) : List NodeBallot :=
  system.sent.filterMap Packet.ballot

/- The ballots among what a node does to the outside. -/
def cast (node : NodeId) (effects : List Effect) : List NodeBallot :=
  (packets node effects).filterMap Packet.ballot

section

variable (system : ElectionSystem) (node : NodeId) (member : Member) (effects : List Effect)
variable (exits : List ElectExit)

theorem ElectionSystem.ballots_act :
    (system.act node member effects exits).ballots = system.ballots ++ cast node effects :=
  List.filterMap_append

theorem ElectionSystem.members_act_self : (system.act node member effects exits).members node =
    member := by
  simp [ElectionSystem.act]

end

theorem ElectionSystem.members_act_of_ne {other : NodeId} (hNe : other ≠ node) (member : Member)
    (effects : List Effect) (exits : List ElectExit) :
    (system.act node member effects exits).members other = system.members other := by
  simp [ElectionSystem.act, hNe]

theorem voter_of_mem_cast {ballot : NodeBallot} (hCast : ballot ∈ cast node effects) :
    ballot.voter = node := by
  rcases List.mem_filterMap.mp hCast with ⟨packet, hPacket, hBallot⟩
  have hVoter : ballot.voter = packet.sender := by
    unfold Packet.ballot at hBallot
    split at hBallot
    · cases hBallot
      rfl
    · cases hBallot
  have hSender : packet.sender = node := by
    rcases List.mem_filterMap.mp hPacket with ⟨effect, -, hEffect⟩
    cases effect with
    | sent target message =>
      cases hEffect
      rfl
    | _ => cases hEffect
  exact hVoter.trans hSender

section

variable (node : NodeId)

/- Messages without a vote cast nothing. -/
theorem cast_map_sent {message : TrainingMessage}
    (hMessage : ∀ receiver, Packet.ballot ⟨node, receiver, message⟩ = none) {peers : List NodeId} :
    cast node (peers.map (Effect.sent · message)) = [] := by
  rw [cast, packets, List.filterMap_map, List.filterMap_filterMap, List.filterMap_eq_nil_iff]
  intro receiver _
  exact hMessage receiver

theorem cast_requestVotes : cast node (requestVotes node context candidacy) = [] :=
  cast_map_sent node (fun _ => rfl)

theorem cast_announced (hEffects : cast node effects = []) :
    cast node (effects ++ .persistedState context.state ::
      broadcast node context (.state context.state)) = [] := by
  have hBroadcast : cast node (broadcast node context (.state context.state)) = [] :=
    cast_map_sent node (fun _ => rfl)
  rw [cast, packets] at *
  rw [List.filterMap_append, List.filterMap_append, hEffects]
  exact hBroadcast

/- A request that is granted costs one ballot. -/
theorem cast_handleElection (context : Context) (peer : NodeId) (election : TrainingElection) :
    cast node (handleElection node context peer election).effects =
      if electionRejected context peer election = false ∧ voteGranted context election then
        [⟨node, election.term, election.candidate⟩]
      else
        [] := by
  unfold handleElection
  cases electionRejected context peer election <;>
    cases voteGranted context election <;>
    rfl

end

----
-- Voting Once
----

/- A request that a node hands to `handleElection`. -/
structure Request where
  (node peer : NodeId)
  election : TrainingElection

/- The request that an action has handled, if any. -/
def handledRequest (system : ElectionSystem) : ElectionAction → Option Request
| .requested node peer election => some ⟨node, peer, election⟩
| .waited node (.inbound _ (.message peer (.election election))) =>
  if (system.members node).candidacy.any (fun candidacy =>
      election.term > candidacy.election.term) then
    some ⟨node, peer, election⟩
  else
    none
| _ => none

/- The node that an action makes a candidate, if any. -/
def newCandidate (system : ElectionSystem) : ElectionAction → Option NodeId
| .disconnected node peer connected reconnected _ =>
  let context := (system.members node).context
  if (restoreTrainingPeer connected reconnected context peer).2 = false ∧
      peer = context.coordinator ∧ electionCandidate (context.fail peer) = some node then
    some node
  else
    none
| _ => none

/-
  The request is for this job and branch, and either for a
  term above the active one or from the candidate on record.
-/
def MayGrant (context : Context) (request : Request) : Prop :=
  electionRejected context request.peer request.election = false ∧
    (context.term < request.election.term ∨
      (request.election.term = context.votedTerm ∧ context.votedCandidate =
        some request.election.candidate))

instance (context : Context) (request : Request) : Decidable (MayGrant context request) := by
  unfold MayGrant
  infer_instance

/-
  Nobody grants a request, or becomes a candidate, in a term
  in which it has granted another candidate.
-/
def SingleVote (system : ElectionSystem) (action : ElectionAction) : Prop :=
  (∀ request ∈ handledRequest system action,
    MayGrant (system.members request.node).context request → VotesOnce system.ballots request.node
      request.election.term request.election.candidate) ∧
    ∀ node ∈ newCandidate system action, VotesOnce system.ballots node
      (Saturating.add (system.members node).context.term 1) node

instance (system : ElectionSystem) (action : ElectionAction) :
    Decidable (SingleVote system action) := by
  unfold SingleVote
  infer_instance

----
-- Terms That Are Held
----

/-
  A node that was elected in a term has reached it, and has
  its own vote for it on record until it votes in a later one.
-/
structure HoldsTerm (node : NodeId) (term : UInt64) (context : Context) : Prop where
  active : term ≤ context.term
  voted : term ≤ context.votedTerm
  own : context.votedTerm = term → context.votedCandidate = some node

namespace HoldsTerm

variable {term : UInt64}

theorem keepsVote {before : Context} (hHolds : HoldsTerm node term before)
    (hKeeps : KeepsVote before after) : HoldsTerm node term after := by
  rcases hKeeps with ⟨-, -, hTerm, hVoted, hCandidate⟩
  refine ⟨UInt64.le_trans hHolds.active hTerm, UInt64.le_trans hHolds.voted hVoted, ?_⟩
  intro hSame
  have hBefore : before.votedTerm = term := UInt64.le_antisymm (hSame ▸ hVoted) hHolds.voted
  rw [hCandidate]
  exact hHolds.own hBefore

theorem recordVote (hHolds : HoldsTerm node term context) (election : TrainingElection) :
    HoldsTerm node term (recordVote context election) := by
  unfold Training.recordVote
  split_ifs with hAbove
  · have hLater : term < election.term := UInt64.lt_of_le_of_lt hHolds.active hAbove
    refine ⟨hHolds.active, UInt64.le_of_lt hLater, ?_⟩
    intro hSame
    exact absurd hSame.symm (UInt64.ne_of_lt hLater)
  · exact hHolds

/- In such a term the node grants itself only. -/
theorem candidate_eq (hHolds : HoldsTerm node term context)
    (hGranted : voteGranted context election = true) (hTerm : election.term = term) :
    election.candidate = node := by
  subst hTerm
  have hNotAbove : ¬ context.term < election.term := UInt64.not_lt.mpr hHolds.active
  simp [voteGranted, hNotAbove] at hGranted
  have hOwn := hHolds.own hGranted.1.symm
  rw [hGranted.2] at hOwn
  exact Option.some.inj hOwn

end HoldsTerm

----
-- The Invariant
----

/- A candidate has counted what was cast for it. -/
structure Running (start : TrainingStart) (ballots : List NodeBallot) (node : NodeId)
    (context : Context) (candidacy : Candidacy) : Prop where
  worker : context.role = .worker
  candidate : candidacy.election.candidate = node
  above : context.term ≤ candidacy.election.term
  votes : candidacy.votes ⊆ start.participants.toFinset
  supported : Supported ballots node candidacy.election.term candidacy.votes

/- A coordinator was elected by a majority. -/
structure Won (start : TrainingStart) (ballots : List NodeBallot) (node : NodeId) (term : UInt64)
    (context : Context) : Prop where
  majority : ∃ votes, Quorum.StrictMajority votes start.participants.toFinset ∧
    Supported ballots node term votes
  holds : HoldsTerm node term context

structure ElectionInv (start : TrainingStart) (system : ElectionSystem) : Prop where
  participants : ∀ node, (system.members node).context.start.participants = start.participants
  single : Single system.ballots
  running : ∀ node candidacy, (system.members node).candidacy = some candidacy →
    Running start system.ballots node (system.members node).context candidacy
  won : ∀ exit ∈ system.exits, exit.role = .coordinator →
    Won start system.ballots exit.node exit.term (system.members exit.node).context

/-
  What a node may do in one step: it casts at most ballots
  that it has not cast otherwise, and holds the terms that it
  was elected in.
-/
structure MemberTurn (start : TrainingStart) (system : ElectionSystem) (node : NodeId)
    (member : Member) (effects : List Effect) (exits : List ElectExit) : Prop where
  participants : member.context.start.participants = start.participants
  single : Single (cast node effects)
  fresh : ∀ ballot ∈ cast node effects, VotesOnce system.ballots node ballot.term ballot.candidate
  holds : ∀ term, HoldsTerm node term (system.members node).context →
    HoldsTerm node term member.context ∧ VotesOnce (cast node effects) node term node
  running : ∀ candidacy, member.candidacy = some candidacy →
    Running start (system.ballots ++ cast node effects) node member.context candidacy
  won : ∀ exit ∈ exits, exit.role = .coordinator → exit.node = node ∧
    Won start (system.ballots ++ cast node effects) node exit.term member.context

namespace ElectionInv

theorem initial (start : TrainingStart)
    (share : NodeId → TrainingShardAssignment × List TrainingSample) (role : NodeId → Role) :
    ElectionInv start (ElectionSystem.initial start share role) where
  participants := fun _ => rfl
  single := single_nil
  running := by
    intro node candidacy hCandidacy
    cases hCandidacy
  won := by
    intro exit hExit
    cases hExit

/- A turn of one node keeps what holds of all of them. -/
theorem act (hInv : ElectionInv start system)
    (hTurn : MemberTurn start system node member effects exits) :
    ElectionInv start (system.act node member effects exits) := by
  -- another node's own vote is not touched
  have hOther : ∀ other, other ≠ node → ∀ term, VotesOnce (cast node effects) other term other := by
    intro other hNe term ballot hBallot hVoter _
    rw [voter_of_mem_cast hBallot] at hVoter
    exact absurd hVoter.symm hNe
  constructor
  · intro other
    by_cases hNode : other = node
    · subst hNode
      rw [ElectionSystem.members_act_self]
      exact hTurn.participants
    · rw [ElectionSystem.members_act_of_ne hNode]
      exact hInv.participants other
  · rw [ElectionSystem.ballots_act]
    refine hInv.single.append hTurn.single ?_
    intro ballot hBallot
    rw [voter_of_mem_cast hBallot]
    exact hTurn.fresh ballot hBallot
  · intro other candidacy hCandidacy
    rw [ElectionSystem.ballots_act]
    by_cases hNode : other = node
    · subst hNode
      rw [ElectionSystem.members_act_self] at hCandidacy ⊢
      exact hTurn.running candidacy hCandidacy
    · rw [ElectionSystem.members_act_of_ne hNode] at hCandidacy ⊢
      have hRunning := hInv.running other candidacy hCandidacy
      exact { hRunning with supported := hRunning.supported.append (hOther other hNode _) }
  · intro exit hExit hRole
    rw [ElectionSystem.ballots_act]
    rcases List.mem_append.mp hExit with hOld | hNew
    · rcases hInv.won exit hOld hRole with ⟨⟨votes, hMajority, hSupported⟩, hHolds⟩
      by_cases hNode : exit.node = node
      · rw [hNode, ElectionSystem.members_act_self]
        rw [hNode] at hSupported hHolds
        rcases hTurn.holds exit.term hHolds with ⟨hStill, hLoyal⟩
        exact ⟨⟨votes, hMajority, hSupported.append hLoyal⟩, hStill⟩
      · rw [ElectionSystem.members_act_of_ne hNode]
        exact ⟨⟨votes, hMajority, hSupported.append (hOther _ hNode _)⟩, hHolds⟩
    · rcases hTurn.won exit hNew hRole with ⟨hNode, hWon⟩
      rw [hNode, ElectionSystem.members_act_self]
      exact hWon

end ElectionInv

----
-- Turns
----

theorem KeepsVote.restoreTrainingPeer (connected reconnected : Bool) (context : Context)
    (peer : NodeId) :
    KeepsVote context (restoreTrainingPeer connected reconnected context peer).1 := by
  unfold Training.restoreTrainingPeer
  split_ifs
  all_goals exact .refl context

theorem KeepsVote.adoptRecovery (context : Context) (state : TrainingState) :
    KeepsVote context (adoptRecovery context state) :=
  .refl context

theorem handleElection_context (node : NodeId) (context : Context) (peer : NodeId)
    (election : TrainingElection) : (handleElection node context peer election).context =
      if electionRejected context peer election then context else recordVote context election := by
  unfold handleElection
  split_ifs
  · rfl
  · rfl

theorem handleElection_role_ne (hWorker : context.role = .worker) :
    (handleElection node context peer election).context.role ≠
      .coordinator := by
  rcases handleElection_bookkeeping node context peer election with ⟨_, _, _, _, _, hContext⟩
  rw [hContext]
  simp [hWorker]

/- A vote that counts is a ballot of a participant. -/
theorem voteCounts_ballot (hCounts : voteCounts node context candidacy peer ack = true) :
    isElectionTraffic (.ack ack) = true ∧ peer ∈ context.start.participants ∧ ∀ receiver,
      Packet.ballot ⟨peer, receiver, .ack ack⟩ =
        some ⟨peer, candidacy.election.term, candidacy.election.candidate⟩ := by
  rcases ack with ⟨jobId, sender, ackTerm, kind⟩
  unfold voteCounts at hCounts
  cases kind with
  | vote candidate term lastWindow granted =>
    simp only [Bool.and_eq_true, beq_iff_eq, List.contains_iff_mem] at hCounts
    rcases hCounts with ⟨⟨⟨⟨⟨⟨⟨-, -⟩, hMember⟩, -⟩, -⟩, hTerm⟩, hCandidate⟩, hGranted⟩
    subst hTerm hCandidate hGranted
    exact ⟨rfl, hMember, fun _ => rfl⟩
  | _ => cases hCounts

/- A quorum of the participants is a majority of them. -/
theorem strictMajority_of_quorum {participants : List NodeId} {votes : Finset NodeId}
    (hVotes : votes ⊆ participants.toFinset) (hQuorum : quorum participants.length ≤ votes.card) :
    Quorum.StrictMajority votes participants.toFinset := by
  have hCard := participants.toFinset_card_le
  have hInter : participants.toFinset ∩ votes = votes := Finset.inter_eq_right.mpr hVotes
  rw [quorum] at hQuorum
  rw [Quorum.StrictMajority, hInter]
  omega

namespace MemberTurn

/- A turn that casts nothing. -/
theorem silent (hParticipants : member.context.start.participants = start.participants)
    (hCast : cast node effects = [])
    (hHolds : ∀ term, HoldsTerm node term (system.members node).context →
      HoldsTerm node term member.context)
    (hRunning : ∀ candidacy, member.candidacy = some candidacy →
      Running start system.ballots node member.context candidacy)
    (hWon : ∀ exit ∈ exits, exit.role = .coordinator → exit.node = node ∧
      Won start system.ballots node exit.term member.context) :
    MemberTurn start system node member effects exits where
  participants := hParticipants
  single := by
    rw [hCast]
    exact single_nil
  fresh := by
    rw [hCast]
    intro ballot hBallot
    cases hBallot
  holds := by
    intro term hHeld
    rw [hCast]
    exact ⟨hHolds term hHeld, votesOnce_nil⟩
  running := by
    rw [hCast, List.append_nil]
    exact hRunning
  won := by
    rw [hCast, List.append_nil]
    exact hWon

/- A turn that casts nothing and keeps the node's vote. -/
theorem quiet (hInv : ElectionInv start system)
    (hKeeps : KeepsVote (system.members node).context member.context)
    (hCast : cast node effects = []) (hRunning : ∀ candidacy, member.candidacy = some candidacy →
      Running start system.ballots node member.context candidacy)
    (hExits : ∀ exit ∈ exits, exit.role ≠ .coordinator) :
    MemberTurn start system node member effects exits := by
  apply silent
  · exact hKeeps.1.trans (hInv.participants node)
  · exact hCast
  · intro term hHolds
    exact hHolds.keepsVote hKeeps
  · exact hRunning
  · intro exit hExit hRole
    exact absurd hRole (hExits exit hExit)

/- A turn that handles a request casts one ballot at most. -/
theorem handleElection (hInv : ElectionInv start system)
    (hOnce : MayGrant (system.members node).context ⟨node, peer, election⟩ →
      VotesOnce system.ballots node election.term election.candidate)
    (hExits : ∀ exit ∈ exits, exit.role ≠ .coordinator) :
    MemberTurn start system node
      ⟨(handleElection node (system.members node).context peer election).context, none⟩
      (handleElection node (system.members node).context peer election).effects exits := by
  have hCast := cast_handleElection node (system.members node).context peer election
  have hParticipants : (Training.handleElection node (system.members node).context peer
    election).context.start.participants =
    start.participants := by
    rcases handleElection_bookkeeping node (system.members node).context peer election with
      ⟨_, _, _, _, _, hContext⟩
    rw [hContext]
    exact hInv.participants node
  have hHolds : ∀ term, HoldsTerm node term (system.members node).context → HoldsTerm node term
    (Training.handleElection node (system.members node).context peer election).context := by
    intro term hHolds
    rw [handleElection_context]
    split_ifs
    · exact hHolds
    · exact hHolds.recordVote election
  constructor
  · exact hParticipants
  · rw [hCast]
    split_ifs with hGranted
    · intro ballot hBallot other hOther _ _
      rw [List.mem_singleton.mp hBallot, List.mem_singleton.mp hOther]
    · exact single_nil
  · rw [hCast]
    split_ifs with hGranted
    · intro ballot hBallot
      rw [List.mem_singleton.mp hBallot]
      exact hOnce ⟨hGranted.1, by simpa [voteGranted] using hGranted.2⟩
    · intro ballot hBallot
      cases hBallot
  · intro term hHeld
    refine ⟨hHolds term hHeld, ?_⟩
    rw [hCast]
    split_ifs with hGranted
    · intro ballot hBallot _ hTerm
      rw [List.mem_singleton.mp hBallot] at hTerm ⊢
      exact hHeld.candidate_eq hGranted.2 hTerm
    · exact votesOnce_nil
  · intro candidacy hCandidacy
    cases hCandidacy
  · intro exit hExit hRole
    exact absurd hRole (hExits exit hExit)

/- A candidate with a quorum wins its term. -/
theorem elected (hInv : ElectionInv start system)
    (hKeeps : KeepsVote (system.members node).context context) (hCast : cast node effects = [])
    (hRunning : Running start system.ballots node context candidacy)
    (hQuorum : quorum context.start.participants.length ≤ candidacy.votes.card) :
    MemberTurn start system node ⟨becomeCoordinator node context candidacy, none⟩ effects
      [⟨node, .coordinator, candidacy.election.term⟩] := by
  have hParticipants : context.start.participants = start.participants :=
    hKeeps.1.trans (hInv.participants node)
  apply silent
  · exact hParticipants
  · exact hCast
  · intro term hHolds
    have hBelow : term ≤ candidacy.election.term := UInt64.le_trans (hHolds.keepsVote hKeeps).active
      hRunning.above
    exact ⟨hBelow, hBelow, fun _ => rfl⟩
  · intro other hOther
    cases hOther
  · intro exit hExit _
    rw [List.mem_singleton.mp hExit]
    rw [hParticipants] at hQuorum
    exact ⟨rfl,
      ⟨candidacy.votes, strictMajority_of_quorum hRunning.votes hQuorum, hRunning.supported⟩,
      ⟨UInt64.le_refl _, UInt64.le_refl _, fun _ => rfl⟩⟩

end MemberTurn

----
-- Steps
----

namespace ElectionInv

/- The rest of a node's code leaves elections alone. -/
theorem worked (hInv : ElectionInv start system)
    (hKeeps : KeepsVote (system.members node).context after) :
    ElectionInv start (system.act node ⟨after, none⟩ [] []) :=
  hInv.act (.quiet hInv hKeeps rfl (by
    intro candidacy hCandidacy
    cases hCandidacy)
    (by
      intro exit hExit
      cases hExit))

section

variable (hInv : ElectionInv start system)
variable (hKeeps : KeepsVote (system.members node).context context) (hCast : cast node effects = [])
include hInv hKeeps hCast

/- A call that goes on waiting. -/
theorem waiting (hRunning : Running start system.ballots node context candidacy) :
    ElectionInv start (system.commit node ⟨context, effects, .electing candidacy⟩) := by
  refine hInv.act (.quiet hInv hKeeps hCast ?_ ?_)
  · intro other hOther
    cases hOther
    exact hRunning
  · intro exit hExit
    cases hExit

/- A call that returns without having elected anybody. -/
theorem givenUp {result : Except NodeError Unit} (hWorker : context.role = .worker) :
    ElectionInv start (system.commit node ⟨context, effects, .returned result⟩) := by
  refine hInv.act (.quiet hInv hKeeps hCast ?_ ?_)
  · intro other hOther
    cases hOther
  · intro exit hExit
    rw [List.mem_singleton.mp hExit, hWorker]
    intro hRole
    cases hRole

end

variable (hInv : ElectionInv start system)

include hInv

theorem settleElection (hKeeps : KeepsVote (system.members node).context context)
    (hCast : cast node effects = [])
    (hRunning : Running start system.ballots node context candidacy) (written : Bool) :
    ElectionInv start
      (system.commit node (settleElection node written context candidacy effects)) := by
  unfold Training.settleElection
  split_ifs with hFew hWritten
  · exact hInv.waiting hKeeps hCast hRunning
  · exact hInv.act (.elected hInv hKeeps (cast_announced node hCast) hRunning
      (Nat.le_of_not_lt hFew))
  · exact hInv.act (.elected hInv hKeeps hCast hRunning (Nat.le_of_not_lt hFew))

theorem maybeElect (hWorker : (system.members node).context.role = .worker)
    (hOnce : electionCandidate ((system.members node).context.fail peer) = some node →
      VotesOnce system.ballots node (Saturating.add (system.members node).context.term 1) node)
    (written : Bool) :
    ElectionInv start
      (system.commit node (maybeElect node written (system.members node).context peer)) := by
  have hKeeps : KeepsVote (system.members node).context ((system.members node).context.fail peer) :=
    ⟨rfl, id, UInt64.le_refl _, UInt64.le_refl _, rfl⟩
  unfold Training.maybeElect
  dsimp only
  split
  · exact hInv.givenUp hKeeps rfl hWorker
  · rename_i candidate hCandidate
    split_ifs with hOther
    · exact hInv.givenUp hKeeps rfl hWorker
    · have hSelf : candidate = node := not_not.mp hOther
      subst hSelf
      have hMember := mem_participants_of_electionCandidate hCandidate
      have hParticipants := hInv.participants candidate
      refine hInv.settleElection hKeeps (cast_requestVotes candidate) ?_ written
      exact {
        worker := hWorker
        candidate := rfl
        above := Saturating.le_add_left _ _
        votes := by
          intro voter hVoter
          rw [Finset.mem_singleton.mp hVoter, List.mem_toFinset, ← hParticipants]
          exact hMember
        supported := .alone (hOnce hCandidate) }

theorem peerLost {connected reconnected written : Bool}
    (hWorker : (system.members node).context.role = .worker)
    (hOnce : ∀ candidate ∈ newCandidate system
      (.disconnected node peer connected reconnected written),
      VotesOnce system.ballots candidate (Saturating.add (system.members candidate).context.term 1)
        candidate) :
    ElectionInv start (peerLost node connected reconnected written system peer) := by
  have hRestored := KeepsVote.restoreTrainingPeer connected reconnected
    (system.members node).context peer
  unfold Training.peerLost
  dsimp only
  split_ifs with hBack hCoordinator
  · exact hInv.worked hRestored
  · have hLost : (restoreTrainingPeer connected reconnected
      (system.members node).context peer).2 = false := by
      simpa using hBack
    rw [restoreTrainingPeer_lost hLost]
    apply hInv.maybeElect hWorker
    intro hCandidate
    apply hOnce node
    simp [newCandidate, hLost, hCandidate, ← hCoordinator]
  · exact hInv.worked ⟨hRestored.1, hRestored.2.1, hRestored.2.2⟩

/- A vote that arrives was cast by its sender. -/
theorem counted
    (hRunning : Running start system.ballots node (system.members node).context candidacy)
    (hCounts : voteCounts node (system.members node).context candidacy peer ack = true)
    (written : Bool)
    (hAuthentic : system.authentic node (.inbound written (.message peer (.ack ack))) = true) :
    ElectionInv start (system.commit node
      (Training.settleElection node written (system.members node).context
        { candidacy with votes := insert peer candidacy.votes } [])) := by
  rcases voteCounts_ballot hCounts with ⟨hTraffic, hMember, hBallot⟩
  have hSent : ⟨peer, node, .ack ack⟩ ∈ system.sent := by
    simpa [ElectionSystem.authentic, hTraffic] using hAuthentic
  have hCast : ⟨peer, candidacy.election.term, node⟩ ∈ system.ballots :=
    List.mem_filterMap.mpr ⟨_, hSent, hRunning.candidate ▸ hBallot node⟩
  rw [hInv.participants node] at hMember
  apply hInv.settleElection (.refl _) rfl
  exact {
    hRunning with
    votes := Finset.insert_subset (List.mem_toFinset.mpr hMember) hRunning.votes
    supported := hRunning.supported.insert hCast }

/- A request for a later term is handled like any other. -/
theorem overtaken {other : TrainingElection} (hWorker :
    (system.members node).context.role = .worker)
    (hOnce : MayGrant (system.members node).context ⟨node, peer, other⟩ →
      VotesOnce system.ballots node other.term other.candidate) :
    ElectionInv start (system.commit node
      ⟨(handleElection node (system.members node).context peer other).context,
        (handleElection node (system.members node).context peer other).effects,
        .returned (handleElection node (system.members node).context peer other).result⟩) := by
  apply hInv.act
  apply MemberTurn.handleElection hInv hOnce
  intro exit hExit
  rw [List.mem_singleton.mp hExit]
  exact handleElection_role_ne hWorker

theorem electStep {event : ElectEvent} (hCandidacy :
    (system.members node).candidacy = some candidacy)
    (hAuthentic : system.authentic node event = true)
    (hOnce : ∀ request ∈ handledRequest system (.waited node event),
      MayGrant (system.members request.node).context request → VotesOnce system.ballots request.node
        request.election.term request.election.candidate) :
    ElectionInv start
      (system.commit node (electStep node (system.members node).context candidacy event)) := by
  have hRunning := hInv.running node candidacy hCandidacy
  have hRefl := KeepsVote.refl (system.members node).context
  have hWait : ElectionInv start
    (system.commit node ⟨(system.members node).context, [], .electing candidacy⟩) :=
    hInv.waiting hRefl rfl hRunning
  cases event with
  | timedOut =>
    rw [Training.electStep]
    split_ifs
    · exact hInv.waiting hRefl (cast_requestVotes node) { hRunning with }
    · exact hInv.givenUp hRefl rfl hRunning.worker
  | inbound written inbound =>
    cases inbound with
    | peerDisconnected peer => exact hWait
    | message peer message =>
      cases message with
      | ack ack =>
        rw [Training.electStep]
        split_ifs with hCounts
        · exact hInv.counted hRunning hCounts written hAuthentic
        · exact hWait
      | election other =>
        rw [Training.electStep]
        split_ifs with hLater
        · have hHandled : ⟨node, peer, other⟩ ∈ handledRequest system
            (.waited node (.inbound written (.message peer (.election other)))) := by
            simp [handledRequest, hCandidacy, hLater]
          exact hInv.overtaken hRunning.worker (hOnce _ hHandled)
        · exact hWait
      | state state =>
        rw [Training.electStep]
        split_ifs
        · exact hInv.waiting (.adoptRecovery _ state) rfl { hRunning with }
        · exact hWait
      | _ => exact hWait

theorem step {action : ElectionAction} {next : ElectionSystem} (hSingle : SingleVote system action)
    (hStep : electionStep system action = some next) : ElectionInv start next := by
  cases action with
  | requested node peer election =>
    simp only [electionStep] at hStep
    split_ifs at hStep
    cases hStep
    refine hInv.act (.handleElection hInv (hSingle.1 _ rfl) ?_)
    intro exit hExit
    cases hExit
  | disconnected node peer connected reconnected written =>
    simp only [electionStep] at hStep
    split_ifs at hStep with hEnabled
    cases hStep
    exact hInv.peerLost hEnabled.2.1 hSingle.2
  | waited node event =>
    simp only [electionStep] at hStep
    split at hStep
    · cases hStep
    · rename_i candidacy hCandidacy
      split_ifs at hStep with hAuthentic
      cases hStep
      exact hInv.electStep hCandidacy hAuthentic hSingle.1
  | worked node after =>
    simp only [electionStep] at hStep
    split_ifs at hStep with hEnabled
    cases hStep
    exact hInv.worked hEnabled.2

end ElectionInv

----
-- One Coordinator for Each Term
----

/- No two nodes were elected in the same term. -/
def OneCoordinator (system : ElectionSystem) : Prop :=
  ∀ first ∈ system.exits, ∀ second ∈ system.exits,
    first.role = .coordinator → second.role = .coordinator → first.term = second.term →
      first.node = second.node

instance (system : ElectionSystem) : Decidable (OneCoordinator system) := by
  unfold OneCoordinator
  infer_instance

theorem ElectionInv.oneCoordinator (hInv : ElectionInv start system) : OneCoordinator system := by
  intro first hFirst second hSecond hRole hRole' hTerm
  rcases (hInv.won first hFirst hRole).majority with ⟨votes, hMajority, hSupported⟩
  rcases (hInv.won second hSecond hRole').majority with ⟨votes', hMajority', hSupported'⟩
  rw [← hTerm] at hSupported'
  exact winner_unique hInv.single hSupported hMajority hSupported' hMajority'

/-
  In every run in which nobody votes twice, each term has at
  most one coordinator.
-/
theorem coordinator_unique (start : TrainingStart)
    (share : NodeId → TrainingShardAssignment × List TrainingSample) (role : NodeId → Role)
    (actions : List ElectionAction) (final : ElectionSystem)
    (hSingle : Meets electionStep SingleVote (ElectionSystem.initial start share role) actions)
    (hRun : run electionStep (ElectionSystem.initial start share role) actions = some final) :
    OneCoordinator final := by
  have hInv : ElectionInv start final := by
    exact invariant_of_run (ElectionInv start) (fun _ _ _ hInv hCond hStep => hInv.step hCond hStep)
      (.initial start share role) hSingle hRun
  exact hInv.oneCoordinator

/- The small job, whose coordinator is not a participant. -/
def smallShare (node : NodeId) : TrainingShardAssignment × List TrainingSample :=
  let parity :=
    if node ∈ groupMembers smallWorkers 0 then 0 else 1
  ((smallStart parity).assignment, (smallStart parity).samples)

def smallElections : ElectionSystem :=
  ElectionSystem.initial (smallStart 0) smallShare (fun _ => .worker)

def smallCandidacy (candidate : NodeId) : TrainingElection :=
  electionRequest (Context.new (smallStart 0) .worker) candidate

def smallVote (voter candidate : NodeId) : ElectionAction :=
  .waited candidate
    (.inbound true (.message voter (.ack ⟨⟨7⟩, voter, 2, .vote candidate 2 0 true⟩)))

/- The third worker is elected by the first two. -/
def oneElection : List ElectionAction :=
  [.disconnected ⟨3⟩ ⟨9⟩ false false true, .requested ⟨1⟩ ⟨3⟩ (smallCandidacy ⟨3⟩),
    .requested ⟨2⟩ ⟨3⟩ (smallCandidacy ⟨3⟩), smallVote ⟨1⟩ ⟨3⟩, smallVote ⟨2⟩ ⟨3⟩]

/-
  The fourth worker has lost the third one as well, and both
  become candidates.  The first two grant both.
-/
def twoElections : List ElectionAction :=
  [.disconnected ⟨4⟩ ⟨3⟩ false false true, .disconnected ⟨4⟩ ⟨9⟩ false false true,
    .disconnected ⟨3⟩ ⟨9⟩ false false true, .requested ⟨1⟩ ⟨3⟩ (smallCandidacy ⟨3⟩),
    .requested ⟨2⟩ ⟨3⟩ (smallCandidacy ⟨3⟩), .requested ⟨1⟩ ⟨4⟩ (smallCandidacy ⟨4⟩),
    .requested ⟨2⟩ ⟨4⟩ (smallCandidacy ⟨4⟩), smallVote ⟨1⟩ ⟨3⟩, smallVote ⟨2⟩ ⟨3⟩,
    smallVote ⟨1⟩ ⟨4⟩, smallVote ⟨2⟩ ⟨4⟩]

theorem oneElection_isSome : (run electionStep smallElections oneElection).isSome := by
  decide +kernel

theorem twoElections_isSome : (run electionStep smallElections twoElections).isSome := by
  decide +kernel

theorem coordinator_unique_small : ∃ final, run electionStep smallElections oneElection =
    some final ∧ Meets electionStep SingleVote smallElections oneElection ∧
    ⟨⟨3⟩, .coordinator, 2⟩ ∈ final.exits ∧
    OneCoordinator final := by
  have hRun := (Option.some_get oneElection_isSome).symm
  have hSingle : Meets electionStep SingleVote smallElections
    oneElection := by
    decide +kernel
  refine ⟨_, hRun, hSingle, ?_, ?_⟩
  · decide +kernel
  · exact coordinator_unique (smallStart 0) smallShare (fun _ => .worker) oneElection _ hSingle hRun

theorem two_coordinators : ∃ final, run electionStep smallElections twoElections = some final ∧
    final.exits = [⟨⟨3⟩, .coordinator, 2⟩, ⟨⟨4⟩, .coordinator, 2⟩] ∧
    ¬ OneCoordinator final := by
  have hRun := (Option.some_get twoElections_isSome).symm
  refine ⟨_, hRun, ?_, ?_⟩
  · decide +kernel
  · decide +kernel

end IntelligenceNetwork.Training
