import IntelligenceNetwork.Lib.Transition
import IntelligenceNetwork.Training.Worker

/-
  Broadcasts that wait for acknowledgements.

  A wait is a state, and each event out of the mailbox is a
  step.

  Main declarations:
    * `Wait`
    * `broadcastCheckpointAndWait`
    * `broadcastStateAndWait`
-/

----
-- Waits
----

namespace IntelligenceNetwork.Training

open Transition

structure Wait where
  context : Context
  (expected acks : Finset NodeId)
  effects : List Effect

def liveParticipants (context : Context) : Finset NodeId :=
  (context.start.participants.filter (· ∉ context.failed)).toFinset

/- The message goes to every live participant but the node. -/
def broadcast (node : NodeId) (context : Context) (message : TrainingMessage) : List Effect :=
  (context.start.participants.filter (fun peer =>
    peer ≠ node ∧ peer ∉ context.failed)).map
    (fun peer => Effect.sent peer message)

/- A peer that is restored receives the message again. -/
def Wait.restored (wait : Wait) (context : Context) (peer : NodeId)
    (message : TrainingMessage) : Wait :=
  { wait with context := context, effects := wait.effects ++ [.sent peer message] }

----
-- Checkpoints
----

/-
  The coordinator's own copy is one of the quorum, so one
  acknowledgement less is required.
-/
def requiredAcks (participants : Nat) : Nat :=
  quorum (participants + 1) - 1

/-
  A coordinator that is a participant itself is also among
  the acknowledgements from the start.
-/
def checkpointWait (node : NodeId) (context : Context)
    (commit : TrainingCheckpointCommit) : Wait where
  context := context
  expected := liveParticipants context
  acks :=
    if node ∈ liveParticipants context then {node} else ∅
  effects := broadcast node context (.checkpointCommit commit)

def checkpointDone (wait : Wait) : Bool :=
  requiredAcks wait.expected.card ≤ wait.acks.card

section

variable (commit : TrainingCheckpointCommit)

def checkpointAck (peer : NodeId) (ack : TrainingAck) : Bool :=
  peer == ack.peer && ack.jobId == commit.jobId && ack.term == commit.term &&
    ack.kind == .checkpoint commit.manifest.hash

def checkpointEvent (wait : Wait) (arrival : Arrival) : Wait :=
  match arrival.event with
  | .message peer (.ack ack) =>
    if checkpointAck commit peer ack ∧ peer ∈ wait.expected then
      { wait with acks := insert peer wait.acks }
    else
      wait
  | .peerDisconnected peer =>
    if peer ∈ wait.expected then
      let restored := restoreTrainingPeer arrival.connected arrival.reconnected wait.context peer
      if restored.2 then
        wait.restored restored.1 peer (.checkpointCommit commit)
      else
        { wait with context := restored.1.fail peer, expected := wait.expected.erase peer }
    else
      wait
  | _ => wait

def checkpointStep (wait : Wait) (arrival : Arrival) : Option Wait :=
  if checkpointDone wait then none else some (checkpointEvent commit wait arrival)

end

/- The wait reads until it is done; then it has succeeded. -/
def broadcastCheckpointAndWait (node : NodeId) (context : Context)
    (commit : TrainingCheckpointCommit) (arrivals : List Arrival) : Outcome Bool :=
  let waited :=
    (drain (checkpointStep commit) (checkpointWait node context commit) arrivals).1
  ⟨waited.context, waited.effects, .ok (checkpointDone waited)⟩

----
-- States
----

def stateWait (node : NodeId) (context : Context) (state : TrainingState) : Wait where
  context := context
  expected := liveParticipants context
  acks := {node}
  effects := broadcast node context (.state state)

/- The number expected is not lowered when a peer is lost. -/
def stateDone (wait : Wait) : Bool :=
  wait.expected.card ≤ wait.acks.card

/- An acknowledgement names a state by term and window. -/
def stateAck (state : TrainingState) (_peer : NodeId) (ack : TrainingAck) : Bool :=
  ack.jobId == state.jobId && ack.term == state.term &&
    match ack.kind with
    | .state window _ => window == state.window
    | _ => false

section

variable (state : TrainingState) (wait : Wait) (arrival : Arrival)

/- Any sender counts, whether it was expected or not. -/
def stateEvent : Wait :=
  match arrival.event with
  | .message peer (.ack ack) =>
    if stateAck state peer ack then { wait with acks := insert peer wait.acks } else wait
  | .peerDisconnected peer =>
    if peer ∈ wait.expected then
      let restored := restoreTrainingPeer arrival.connected arrival.reconnected wait.context peer
      if restored.2 then
        wait.restored restored.1 peer (.state state)
      else
        { wait with context := restored.1.fail peer }
    else
      wait
  | _ => wait

/- A candidate of a newer term ends the wait. -/
def newerElection (context : Context) (arrival : Arrival) : Option (NodeId × TrainingElection) :=
  match arrival.event with
  | .message peer (.election election) =>
    if election.term > context.term then some (peer, election) else none
  | _ => none

def stateStep : Option Wait :=
  if stateDone wait ∨ (newerElection wait.context arrival).isSome then
    none
  else
    some (stateEvent state wait arrival)

end

variable (node : NodeId) (context : Context) (state : TrainingState) (arrivals : List Arrival)

/-
  When the wait stops before it is done, either the time is up
  or the next event is the candidacy, which gets its answer.
-/
def broadcastStateAndWait : Outcome Bool :=
  let drained := drain (stateStep state) (stateWait node context state) arrivals
  let wait := drained.1
  if stateDone wait then
    ⟨wait.context, wait.effects, .ok true⟩
  else
    match drained.2.head?.bind (newerElection wait.context) with
    | some (peer, election) =>
      let voted := handleElection node wait.context peer election
      ⟨voted.context, wait.effects ++ voted.effects, .ok false⟩
    | none => ⟨wait.context, wait.effects, .ok false⟩

----
-- Successful Calls
----

/- A call for a state succeeds only when its wait is done. -/
theorem broadcastStateAndWait_done
    (hTrue : (broadcastStateAndWait node context state arrivals).result = .ok true) :
    stateDone (drain (stateStep state) (stateWait node context state) arrivals).1 = true ∧
      (broadcastStateAndWait node context state arrivals).context =
        (drain (stateStep state) (stateWait node context state) arrivals).1.context := by
  unfold broadcastStateAndWait at hTrue ⊢
  dsimp only at hTrue ⊢
  split_ifs at hTrue ⊢ with hDone
  · exact ⟨hDone, rfl⟩
  · split at hTrue
    · cases hTrue
    · cases hTrue

end IntelligenceNetwork.Training
