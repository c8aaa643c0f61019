import IntelligenceNetwork.Training.Election

/-
  Who can steer a worker.

  The node forwards every message of a job to its mailbox.
  Windows are checked against the job's order; a coordination
  state and a checkpoint commit are only asked to come from the
  coordinator they name themselves.

  Main declarations:
    * `loopStep`
    * `SentByMember`
    * `members_steer_iff_sent_by_member`
-/

----
-- The Loop of a Worker
----

namespace IntelligenceNetwork.Training

open Transition

variable {after before context : Context} {digest : Digest} {effects : List Effect} {env : Env}
variable {message : TrainingMessage} {node peer : NodeId} {candidacy : Candidacy}
variable {start : TrainingStart}

/-
  The job whose mailbox a message is put in.  An order to start
  a job is not put in a mailbox.
-/
def mailboxOf : TrainingMessage → Option JobId
| .start _ => none
| .window window => some window.jobId
| .update update => some update.jobId
| .aggregate aggregate => some aggregate.jobId
| .shardState state | .state state => some state.jobId
| .ack ack => some ack.jobId
| .election election => some election.jobId
| .checkpointOffer offer => some offer.jobId
| .checkpointCommit commit => some commit.jobId

/- A worker, the election it waits in, and if it has retired. -/
structure WorkerLoop where
  context : Context
  candidacy : Option Candidacy
  retired : Bool

namespace WorkerLoop

def new (start : TrainingStart) : WorkerLoop :=
  ⟨Context.new start .worker, none, false⟩

/- Whether the loop reads its mailbox as a worker. -/
def reads (loop : WorkerLoop) : Bool :=
  loop.candidacy.isNone && loop.context.role == .worker && !loop.retired

/- The loop during and after a call of `maybeElect`. -/
def ofCall (call : ElectCall) : WorkerLoop :=
  match call.phase with
  | .electing candidacy => ⟨call.context, some candidacy, false⟩
  | .returned _ => ⟨call.context, none, false⟩

theorem ofCall_context (call : ElectCall) : (ofCall call).context = call.context := by
  unfold ofCall
  split
  · rfl
  · rfl

end WorkerLoop

inductive LoopEvent where
  | message (env : Env) (peer : NodeId) (message : TrainingMessage)
  | disconnected (peer : NodeId) (connected reconnected written : Bool)
  | waited (event : ElectEvent)

/- What an election reads comes out of the job's mailbox. -/
def inMailbox (context : Context) : ElectEvent → Bool
| .inbound _ (.message _ message) => mailboxOf message == some context.start.jobId
| _ => true

/- The loop after the loss of a peer. -/
def loopLost (node : NodeId) (connected reconnected written : Bool) (context : Context)
    (peer : NodeId) : WorkerLoop :=
  let restored := restoreTrainingPeer connected reconnected context peer
  if restored.2 then
    ⟨restored.1, none, false⟩
  else if peer = context.coordinator then
    .ofCall (maybeElect node written restored.1 peer)
  else
    ⟨restored.1.fail peer, none, false⟩

section

variable (digest : Digest)

/-
  The loop is over once the job has retired, and it is not a
  worker's any more once an election has been won.
-/
def loopStep (node : NodeId) (loop : WorkerLoop) : LoopEvent → Option WorkerLoop
| .message env peer message =>
  let handled := (handleWorkerMessage digest node env loop.context peer message).context
  if loop.reads ∧ mailboxOf message = some loop.context.start.jobId then
    some ⟨handled, none, jobRetired handled⟩
  else
    none
| .disconnected peer connected reconnected written =>
  if loop.reads then some (loopLost node connected reconnected written loop.context peer) else none
| .waited event =>
  match loop.candidacy with
  | none => none
  | some candidacy =>
    if inMailbox loop.context event then
      some (.ofCall (electStep node loop.context candidacy event))
    else
      none

----
-- Steering
----

/- The first coordinator and the participants of a job. -/
def IsJobMember (start : TrainingStart) (peer : NodeId) : Prop :=
  peer = start.coordinator ∨ peer ∈ start.participants

instance (start : TrainingStart) (peer : NodeId) : Decidable (IsJobMember start peer) := by
  unfold IsJobMember
  infer_instance

/- Two contexts agree on what steers a worker. -/
structure SameSteering (before after : Context) : Prop where
  coordinator : after.coordinator = before.coordinator
  term : after.term = before.term
  checkpoint : after.checkpoint = before.checkpoint
  shardSummaries : after.shardSummaries = before.shardSummaries

/- The sender of a message of one of the steering kinds. -/
def steeringSender (peer : NodeId) : TrainingMessage → Option NodeId
| .state _ | .window _ | .checkpointCommit _ => some peer
| _ => none

def steeredBy : LoopEvent → Option NodeId
| .message _ peer message | .waited (.inbound _ (.message peer message)) =>
  steeringSender peer message
| _ => none

/-
  After the step a member coordinates, and a steering message
  that changed something came from a member.
-/
def MembersSteer (node : NodeId) (loop : WorkerLoop) (event : LoopEvent) : Prop :=
  ∀ next, loopStep digest node loop event = some next →
    IsJobMember next.context.start next.context.coordinator ∧ ∀ peer ∈ steeredBy event,
      ¬ SameSteering loop.context next.context → IsJobMember loop.context.start peer

/- What the worker takes over comes from a member. -/
def SentByMember (loop : WorkerLoop) : LoopEvent → Prop
| .message env peer message =>
  takesOver digest env loop.context peer message = true → IsJobMember loop.context.start peer
| _ => True

end

instance (digest : Digest) (loop : WorkerLoop) (event : LoopEvent) :
    Decidable (SentByMember digest loop event) := by
  unfold SentByMember
  split
  · infer_instance
  · infer_instance

namespace SameSteering

theorem refl (context : Context) : SameSteering context context :=
  ⟨rfl, rfl, rfl, rfl⟩

theorem of_bookkeeping (hBookkeeping : OnlyBookkeeping before after) :
    SameSteering before after := by
  rcases hBookkeeping with ⟨_, _, _, _, _, rfl⟩
  exact ⟨rfl, rfl, rfl, rfl⟩

end SameSteering

----
-- What Steers a Worker
----

/- Two contexts are of one job and have one coordinator. -/
def SameCoordinator (before after : Context) : Prop :=
  after.start = before.start ∧ after.coordinator = before.coordinator

theorem OnlyBookkeeping.sameCoordinator (hOnly : OnlyBookkeeping before after) :
    SameCoordinator before after := by
  rcases hOnly with ⟨_, _, _, _, _, rfl⟩
  exact ⟨rfl, rfl⟩

theorem sameCoordinator_workTrace (node : NodeId) :
    WorkTrace node (fun before _ after => SameCoordinator before after) :=
  (WaitRelation.of_bookkeeping node SameCoordinator (fun _ => ⟨rfl, rfl⟩)
    (fun hFirst hSecond => ⟨hSecond.1.trans hFirst.1, hSecond.2.trans hFirst.2⟩)
    OnlyBookkeeping.sameCoordinator).workTrace (fun _ _ => ⟨rfl, rfl⟩)

/-
  What a message can do to a worker: its sender takes charge,
  it is a window that was accepted, or nothing is steered.
-/
theorem Handles.steering (hHandles : Handles digest node env context peer message after effects) :
    after.start = context.start ∧
      ((takesOver digest env context peer message = true ∧ after.coordinator = peer) ∨
        (takesOver digest env context peer message = false ∧
          (SameSteering context after ∨ ∃ window, message = .window window ∧
            windowRejected node context peer window = false ∧
            (after.coordinator = context.coordinator ∨
              after.coordinator = window.coordinator)))) := by
  cases hHandles with
  | keeps hTaken hOnly _ =>
    exact ⟨hOnly.sameCoordinator.1, Or.inr ⟨hTaken, Or.inl (.of_bookkeeping hOnly)⟩⟩
  | votes election =>
    have hVoted := handleElection_bookkeeping node context peer election
    exact ⟨hVoted.sameCoordinator.1, Or.inr ⟨rfl, Or.inl (.of_bookkeeping hVoted)⟩⟩
  | adoptsShard _ _ => exact ⟨rfl, Or.inr ⟨rfl, Or.inl ⟨rfl, rfl, rfl, rfl⟩⟩⟩
  | adoptsState hAccepted _ =>
    refine ⟨rfl, Or.inl ⟨by simp [takesOver, hAccepted], ?_⟩⟩
    simp [stateRejected] at hAccepted
    exact hAccepted.1.1.1.1.1.symm
  | commits hAccepted hWritten _ =>
    refine ⟨rfl, Or.inl ⟨by simp [takesOver, hAccepted, hWritten], ?_⟩⟩
    simp [commitRejected] at hAccepted
    exact hAccepted.1.1.1.1.1.symm
  | entersTerm hAccepted _ => exact ⟨rfl, Or.inr ⟨rfl, Or.inr ⟨_, rfl, hAccepted, Or.inr rfl⟩⟩⟩
  | @runs window opened _ hAccepted hOpens =>
    have hRan := runWindow_trace (sameCoordinator_workTrace node) (enterWindow opened window) window
      (fun _ _ _ => ⟨rfl, rfl⟩) digest env
    rcases hOpens with ⟨rfl, -⟩ | ⟨-, rfl, -⟩
    · exact ⟨hRan.1, Or.inr ⟨rfl, Or.inr ⟨window, rfl, hAccepted, Or.inl hRan.2⟩⟩⟩
    · exact ⟨hRan.1, Or.inr ⟨rfl, Or.inr ⟨window, rfl, hAccepted, Or.inr hRan.2⟩⟩⟩

/- The sender of an accepted window and its coordinator. -/
theorem isJobMember_of_window {window : TrainingWindow}
    (hAccepted : windowRejected node context peer window = false) :
    IsJobMember context.start peer ∧ IsJobMember context.start window.coordinator := by
  simp only [windowRejected, Bool.or_eq_false_iff] at hAccepted
  rcases hAccepted with ⟨⟨⟨⟨⟨⟨⟨⟨⟨-, hPeer⟩, hCoordinator⟩, hMembers⟩, -⟩, -⟩, -⟩, -⟩, -⟩, -⟩
  have hWindow : IsJobMember context.start window.coordinator := by
    by_cases hFirst : window.coordinator = context.start.coordinator
    · exact Or.inl hFirst
    · right
      simpa [hFirst] using hCoordinator
  refine ⟨?_, hWindow⟩
  by_cases hSame : peer = window.coordinator
  · rw [hSame]
    exact hWindow
  · -- an aggregator is one of the members, all checked
    right
    have hAggregator : peer = window.aggregator ∧ peer ∈ window.members := by
      simpa [hSame] using hPeer
    have hAll : ∀ member ∈ window.members, member ∈ context.start.participants := by
      simpa using hMembers
    exact hAll peer hAggregator.2

----
-- Elections
----

/-
  A member coordinates, and only a participant waits in an
  election.
-/
structure MemberLed (node : NodeId) (start : TrainingStart) (loop : WorkerLoop) : Prop where
  order : loop.context.start = start
  coordinator : IsJobMember start loop.context.coordinator
  candidate : loop.candidacy ≠ none → node ∈ start.participants

namespace MemberLed

variable {written : Bool}

theorem new (node : NodeId) (start : TrainingStart) :
    MemberLed node start (WorkerLoop.new start) where
  order := rfl
  coordinator := Or.inl rfl
  candidate := fun hWaits => absurd rfl hWaits

variable (hOrder : context.start = start) (hCoordinator : IsJobMember start context.coordinator)

include hOrder hCoordinator

/- The winner of an election is a participant. -/
theorem settle (hNode : node ∈ start.participants) :
    MemberLed node start (.ofCall (settleElection node written context candidacy effects)) := by
  unfold settleElection
  by_cases hFew : candidacy.votes.card < quorum context.start.participants.length
  · rw [if_pos hFew]
    exact ⟨hOrder, hCoordinator, fun _ => hNode⟩
  · rw [if_neg hFew]
    cases written with
    | true => exact ⟨hOrder, Or.inr hNode, fun _ => hNode⟩
    | false => exact ⟨hOrder, Or.inr hNode, fun _ => hNode⟩

theorem elect {failedCoordinator : NodeId} :
    MemberLed node start (.ofCall (maybeElect node written context failedCoordinator)) := by
  have hIdle : ∀ result, MemberLed node start
    (.ofCall ⟨context.fail failedCoordinator, [], .returned result⟩) :=
    fun _ => ⟨hOrder, hCoordinator, fun hWaits => absurd rfl hWaits⟩
  unfold maybeElect
  dsimp only
  cases hCandidate : electionCandidate (context.fail failedCoordinator) with
  | none => exact hIdle _
  | some candidate =>
    dsimp only
    by_cases hOther : candidate = node
    · rw [if_neg (not_not.mpr hOther)]
      have hNode : node ∈ start.participants := by
        have hMember := mem_participants_of_electionCandidate hCandidate
        rw [← hOrder, ← hOther]
        exact hMember
      exact settle hOrder hCoordinator hNode
    · rw [if_pos hOther]
      exact hIdle _

/- Reading the mailbox of an election. -/
theorem wait (candidacy : Candidacy) (event : ElectEvent) (hNode : node ∈ start.participants) :
    MemberLed node start (.ofCall (electStep node context candidacy event)) := by
  have hWaits : ∀ effects candidacy, MemberLed node start
    (.ofCall ⟨context, effects, .electing candidacy⟩) :=
    fun _ _ => ⟨hOrder, hCoordinator, fun _ => hNode⟩
  unfold electStep
  split
  · split_ifs
    · exact settle hOrder hCoordinator hNode
    · exact hWaits _ _
  · rename_i peer other
    split_ifs
    · rcases handleElection_bookkeeping node context peer other with ⟨_, _, _, _, _, hVoted⟩
      dsimp only
      rw [hVoted]
      exact ⟨hOrder, hCoordinator, fun _ => hNode⟩
    · exact hWaits _ _
  · split_ifs
    · exact ⟨hOrder, hCoordinator, fun _ => hNode⟩
    · exact hWaits _ _
  · exact hWaits _ _
  · split_ifs
    · exact hWaits _ _
    · exact ⟨hOrder, hCoordinator, fun _ => hNode⟩

end MemberLed

/- News that a candidate takes over come from a participant. -/
theorem electStep_sender {event : ElectEvent} (hPeer : peer ∈ steeredBy (.waited event))
    (hChanged : ¬ SameSteering context (electStep node context candidacy event).context) :
    IsJobMember context.start peer := by
  rcases event with ⟨written, event⟩ | _
  · rcases event with ⟨sender, message⟩ | disconnected
    · cases message with
      | state state =>
        cases hPeer
        rw [electStep] at hChanged
        split_ifs at hChanged with hUseful
        · right
          simp only [recoveryUseful, Bool.and_eq_true] at hUseful
          simpa using hUseful.1.1.1.1.1.2
        · exact absurd (.refl context) hChanged
      | window window | checkpointCommit commit => exact absurd (.refl context) hChanged
      | _ => cases hPeer
    · cases hPeer
  · cases hPeer

----
-- Members Steer a Worker
----

section

variable {loop next : WorkerLoop}

/- The loss of a peer, an election it starts included. -/
theorem MemberLed.lost (hLed : MemberLed node start loop) (peer : NodeId)
    (connected reconnected written : Bool) :
    MemberLed node start (loopLost node connected reconnected written loop.context peer) := by
  have hRestored := restoreTrainingPeer_bookkeeping connected reconnected loop.context peer
  unfold loopLost
  dsimp only
  generalize restoreTrainingPeer connected reconnected loop.context peer = restored at hRestored ⊢
  rcases hRestored with ⟨_, _, _, _, _, hContext⟩
  have hOrder : restored.1.start = start := by
    rw [hContext]
    exact hLed.order
  have hCoordinator : IsJobMember start restored.1.coordinator := by
    rw [hContext]
    exact hLed.coordinator
  split_ifs
  · exact ⟨hOrder, hCoordinator, fun hWaits => absurd rfl hWaits⟩
  · exact .elect hOrder hCoordinator
  · exact ⟨hOrder, hCoordinator, fun hWaits => absurd rfl hWaits⟩

/-
  A message leaves a member in charge exactly if it came from
  a member or was refused.
-/
theorem membersSteer_message_iff (hLed : MemberLed node start loop)
    (hNext : loopStep digest node loop (.message env peer message) = some next) :
    next.context.start = start ∧
      (MembersSteer digest node loop (.message env peer message) ↔ SentByMember digest loop
        (.message env peer message)) := by
  have hStep := hNext
  simp only [loopStep] at hStep
  split_ifs at hStep
  cases hStep
  have hSteering := (handleWorkerMessage_handles digest node env loop.context peer message).steering
  generalize handled : (handleWorkerMessage digest node env loop.context peer
    message).context = after at hSteering hNext ⊢
  rcases hSteering with ⟨hOrder, hCases⟩
  have hStart : after.start = start := hOrder.trans hLed.order
  refine ⟨hStart, ?_⟩
  -- one result, so the claim is about that result
  have hSteer : MembersSteer digest node loop (.message env peer message) ↔
    IsJobMember start after.coordinator ∧ ∀ sender ∈ steeringSender peer message,
      ¬ SameSteering loop.context after → IsJobMember start sender := by
    unfold MembersSteer
    rw [hNext]
    simp [steeredBy, hStart, hLed.order]
  rw [hSteer]
  rcases hCases with ⟨hTaken, hPeer⟩ | ⟨hTaken, hSame | hWindow⟩
  · -- the sender has taken charge
    have hSender : steeringSender peer message = some peer := by
      cases message with
      | state state | checkpointCommit commit => rfl
      | _ => cases hTaken
    rw [hPeer, SentByMember, hTaken, hLed.order, hSender]
    constructor
    · intro hMember _
      exact hMember.1
    · intro hMember
      have hSent := hMember rfl
      refine ⟨hSent, ?_⟩
      intro sender hSender _
      cases hSender
      exact hSent
  · rw [SentByMember, hTaken, hSame.coordinator]
    constructor
    · intro _ hFalse
      cases hFalse
    · intro _
      exact ⟨hLed.coordinator, fun _ _ hChanged => absurd hSame hChanged⟩
  · rcases hWindow with ⟨window, rfl, hAccepted, hNamed⟩
    have hMembers := isJobMember_of_window hAccepted
    rw [hLed.order] at hMembers
    constructor
    · intro _ hFalse
      cases hFalse
    · intro _
      constructor
      · rcases hNamed with hKept | hNamed
        · rw [hKept]
          exact hLed.coordinator
        · rw [hNamed]
          exact hMembers.2
      · intro sender hSender _
        cases hSender
        exact hMembers.1

/- The same for every event of the loop. -/
theorem membersSteer_iff {event : LoopEvent} (hLed : MemberLed node start loop)
    (hNext : loopStep digest node loop event = some next) :
    (MembersSteer digest node loop event ↔ SentByMember digest loop event) ∧
      (MembersSteer digest node loop event → MemberLed node start next) := by
  cases event with
  | message env peer message =>
    have hMessage := membersSteer_message_iff hLed hNext
    refine ⟨hMessage.2, ?_⟩
    intro hSteer
    have hMember := (hSteer next hNext).1
    rw [hMessage.1] at hMember
    simp only [loopStep] at hNext
    split_ifs at hNext
    cases hNext
    exact ⟨hMessage.1, hMember, fun hWaits => absurd rfl hWaits⟩
  | disconnected peer connected reconnected written =>
    have hLost := hLed.lost peer connected reconnected written
    have hStep := hNext
    simp only [loopStep] at hStep
    split_ifs at hStep
    cases hStep
    refine ⟨iff_of_true ?_ trivial, fun _ => hLost⟩
    intro after hAfter
    rw [hNext] at hAfter
    cases hAfter
    rw [hLost.order]
    exact ⟨hLost.coordinator, fun _ hSender => nomatch hSender⟩
  | waited event =>
    have hStep := hNext
    simp only [loopStep] at hStep
    cases hCandidacy : loop.candidacy with
    | none =>
      rw [hCandidacy] at hStep
      cases hStep
    | some candidacy =>
      rw [hCandidacy] at hStep
      split_ifs at hStep
      cases hStep
      have hNode := hLed.candidate (by rw [hCandidacy]; simp)
      have hWait := MemberLed.wait hLed.order hLed.coordinator candidacy event hNode
      refine ⟨iff_of_true ?_ trivial, fun _ => hWait⟩
      intro after hAfter
      rw [hNext] at hAfter
      cases hAfter
      rw [hWait.order]
      refine ⟨hWait.coordinator, ?_⟩
      intro peer hPeer hChanged
      rw [WorkerLoop.ofCall_context] at hChanged
      exact electStep_sender hPeer hChanged

end

/-
  Along every run of a worker, members steer it in every step
  exactly if every step takes over members' messages only.
-/
theorem members_steer_iff_sent_by_member (digest : Digest) (node : NodeId) (start : TrainingStart)
    (events : List LoopEvent) (final : WorkerLoop)
    (hRun : run (loopStep digest node) (WorkerLoop.new start) events = some final) :
    Meets (loopStep digest node) (MembersSteer digest node) (WorkerLoop.new start) events ↔
      Meets (loopStep digest node) (SentByMember digest) (WorkerLoop.new start)
        events :=
  meets_iff_of_invariant (MemberLed node start) (fun _ _ _ hLed hNext =>
    membersSteer_iff hLed hNext)
    (.new node start) hRun

/- A node announces itself as coordinator of the small job. -/
def claimsCharge (peer : NodeId) (term : UInt64) : LoopEvent :=
  .message Env.quiet peer (.state
    { (Context.new (smallStart 0) .worker).state with coordinator := peer, term := term })

theorem members_steer_small : ∃ final, run (loopStep smallDigest ⟨1⟩)
    (WorkerLoop.new (smallStart 0)) [claimsCharge ⟨9⟩ 1, claimsCharge ⟨3⟩ 2] = some final ∧
    final.context.coordinator = ⟨3⟩ ∧
    Meets (loopStep smallDigest ⟨1⟩) (MembersSteer smallDigest ⟨1⟩)
      (WorkerLoop.new (smallStart 0)) [claimsCharge ⟨9⟩ 1, claimsCharge ⟨3⟩ 2] := by
  refine ⟨_, rfl, rfl, ?_⟩
  refine (members_steer_iff_sent_by_member smallDigest ⟨1⟩ (smallStart 0) _ _ rfl).mpr ?_
  decide +kernel

/-
  Node 8 has no part in the job.  It names itself coordinator
  of a later term, and the worker follows.
-/
theorem outsider_steers : ¬ IsJobMember (smallStart 0) ⟨8⟩ ∧
    (∃ final, run (loopStep smallDigest ⟨1⟩) (WorkerLoop.new (smallStart 0))
      [claimsCharge ⟨8⟩ 2] = some final ∧ final.context.coordinator = ⟨8⟩ ∧
      final.context.term = 2) ∧
    ¬ Meets (loopStep smallDigest ⟨1⟩) (MembersSteer smallDigest ⟨1⟩)
      (WorkerLoop.new (smallStart 0)) [claimsCharge ⟨8⟩ 2] := by
  have hOutside : ¬ IsJobMember (smallStart 0) ⟨8⟩ := by
    decide
  refine ⟨hOutside, ⟨_, rfl, rfl, rfl⟩, ?_⟩
  intro hMeets
  exact hOutside (hMeets.1 _ rfl).1

end IntelligenceNetwork.Training
