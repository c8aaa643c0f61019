import IntelligenceNetwork.Training.Pairing

/-
  The nodes of a job and their checkpoints.

  All nodes follow the code, as workers, as candidates and as
  coordinators.  States and commits reach a node only if another
  node sent them to it, at any later time and any number of
  times; what else reaches a node is left open.

  Main declarations:
    * `partyStep`
    * `NoOlderCheckpoint`
    * `checkpoint_paired`
-/

----
-- One Node
----

namespace IntelligenceNetwork.Training

open Transition

/-
  What a node is doing for its job: reading its mailbox or
  electing, driving an autonomous job, driving the windows of a
  periodic job, or nothing any more.
-/
inductive Party where
  | looping (loop : WorkerLoop)
  | driving (drive : Drive)
  | periodic (context : Context)
  | ended (context : Context)

def Party.context : Party → Context
| .looping loop => loop.context
| .driving drive => drive.context
| .periodic context | .ended context => context

inductive PartyEvent where
  | looped (event : LoopEvent)
  | entered (env : DriveEnv)
  | turned (turn : Turn)
  | finished (env : CommitEnv)
  | windowed (env : WindowEnv)

/- What the loop does to the outside in one step. -/
def loopEffects (digest : Digest) (node : NodeId) (loop : WorkerLoop) : LoopEvent → List Effect
| .message env peer message =>
  (handleWorkerMessage digest node env loop.context peer message).effects
| .disconnected peer connected reconnected written =>
  let restored := restoreTrainingPeer connected reconnected loop.context peer
  if restored.2 then
    []
  else if peer = loop.context.coordinator then
    (maybeElect node written restored.1 peer).effects
  else
    []
| .waited event =>
  match loop.candidacy with
  | none => []
  | some candidacy => (electStep node loop.context candidacy event).effects

/- A coordinator that is not in a driver's call enters one. -/
def startsDriving (loop : WorkerLoop) : Bool :=
  loop.candidacy.isNone && loop.context.role == .coordinator && !loop.retired

/- A turn is taken with an empty log, to see what it adds. -/
def Drive.unlogged (drive : Drive) : Drive :=
  { drive with log := [] }

section

variable (digest : Digest) (node : NodeId)

/- Both drivers begin by announcing the state they start from. -/
def enterDrive (env : DriveEnv) (context : Context) : Party × List Effect :=
  if !env.stateWritten then
    (.ended context, [])
  else if context.start.execution = .autonomousLocalSgd then
    let drive := driveStart digest node env context none
    (.driving drive, drive.log)
  else
    (.periodic context, .persistedState context.state ::
      broadcast node context (.state context.state))

def takeTurn (drive : Drive) (turn : Turn) : Party × List Effect :=
  match handleTurn digest node drive.unlogged turn with
  | .running next => (.driving next, next.log)
  | .handedOver next => (.looping ⟨next.context, none, false⟩, next.log)
  | .failed _ next => (.ended next.context, next.log)

def partyStep : Party → PartyEvent → Option (Party × List Effect)
| .looping loop, .looped event =>
  (loopStep digest node loop event).map (fun next =>
    (.looping next, loopEffects digest node loop event))
| .looping loop, .entered env =>
  if startsDriving loop then some (enterDrive digest node env loop.context) else none
| .driving drive, .turned turn =>
  if driveDone drive then none else some (takeTurn digest node drive turn)
| .driving drive, .finished env =>
  if driveDone drive then
    let last := driveFinish digest node env drive.unlogged
    some (.ended last.drive.context, last.drive.log)
  else
    none
| .periodic context, .windowed env =>
  let driven := driveWindow digest node env context
  if context.window < context.start.maxWindows then
    match driven.result with
    | .ok () => some (.periodic driven.context, driven.effects)
    | .error _ => some (.ended driven.context, driven.effects)
  else
    none
| _, _ => none

end

----
-- What One Node Does to Its Pair
----

/- The message an event delivers, with its sender. -/
def PartyEvent.delivered : PartyEvent → Option (NodeId × TrainingMessage)
| .looped (.message _ peer message) | .looped (.waited (.inbound _ (.message peer message))) =>
  some (peer, message)
| .turned turn =>
  match turn.event with
  | .message peer message => some (peer, message)
  | _ => none
| _ => none

/-
  A candidate is not told of a checkpoint older than the one
  it has.
-/
def NotToldOlder (node : NodeId) : Party → PartyEvent → Prop
| .looping loop, .looped (.waited event) =>
  ∀ candidacy ∈ loop.candidacy, RecoveryNotOlder node loop.context candidacy event
| _, _ => True

instance (node : NodeId) (context : Context) (candidacy : Candidacy) (event : ElectEvent) :
    Decidable (RecoveryNotOlder node context candidacy event) := by
  unfold RecoveryNotOlder
  split
  · infer_instance
  · infer_instance

instance (node : NodeId) (party : Party) (event : PartyEvent) :
    Decidable (NotToldOlder node party event) := by
  unfold NotToldOlder
  split
  · infer_instance
  · infer_instance

section

variable (digest : Digest) (known : List TrainingCheckpointManifest) (node : NodeId)

theorem loopStep_pairing {loop next : WorkerLoop} {event : LoopEvent}
    (hDelivered : ∀ entry ∈ (PartyEvent.looped event).delivered, MessagePaired digest known entry.2)
    (hNotOlder : NotToldOlder node (.looping loop) (.looped event))
    (hNext : loopStep digest node loop event = some next) :
    Pairing digest known loop.context (loopEffects digest node loop event) next.context := by
  cases event with
  | message env peer message =>
    simp only [loopStep] at hNext
    split_ifs at hNext
    cases hNext
    exact (handleWorkerMessage_handles digest node env loop.context peer message).pairing
      (hDelivered (peer, message) rfl)
  | disconnected peer connected reconnected written =>
    have hRestored : Pairing digest known loop.context []
      (restoreTrainingPeer connected reconnected loop.context peer).1 :=
      .silent (restoreTrainingPeer_bookkeeping _ _ _ _).sameCheckpoint
    simp only [loopStep] at hNext
    split_ifs at hNext
    cases hNext
    unfold loopLost loopEffects
    dsimp only
    split_ifs
    · exact hRestored
    · rw [WorkerLoop.ofCall_context]
      exact hRestored.trans (maybeElect_pairing digest known node)
    · exact hRestored.trans (.silent ⟨rfl, rfl⟩)
  | waited event =>
    simp only [loopStep] at hNext
    cases hCandidacy : loop.candidacy with
    | none =>
      rw [hCandidacy] at hNext
      cases hNext
    | some candidacy =>
      rw [hCandidacy] at hNext
      split_ifs at hNext
      cases hNext
      have hEvent : EventPaired digest known event := by
        rcases event with ⟨written, event⟩ | _
        · rcases event with ⟨peer, message⟩ | peer
          · exact hDelivered (peer, message) rfl
          · trivial
        · trivial
      rw [WorkerLoop.ofCall_context, loopEffects, hCandidacy]
      exact electStep_pairing digest known node loop.context hEvent (hNotOlder candidacy hCandidacy)

theorem enterDrive_pairing (env : DriveEnv) (context : Context) :
    Pairing digest known context (enterDrive digest node env context).2
      (enterDrive digest node env context).1.context := by
  unfold enterDrive
  split_ifs
  · exact .refl context
  · exact driveStart_pairing digest known
  · exact broadcast_state_pairing digest known node context

theorem takeTurn_pairing (drive : Drive) {turn : Turn}
    (hDelivered : ∀ entry ∈ (PartyEvent.turned turn).delivered,
      MessagePaired digest known entry.2) :
    Pairing digest known drive.context (takeTurn digest node drive turn).2
      (takeTurn digest node drive turn).1.context := by
  have hTurn : TurnPaired digest known turn := by
    unfold TurnPaired
    cases hEvent : turn.event with
    | message peer message =>
      have hSome : (PartyEvent.turned turn).delivered = some (peer, message) := by
        simp only [PartyEvent.delivered, hEvent]
      exact hDelivered (peer, message) hSome
    | peerDisconnected peer => trivial
  rcases handleTurn_pairing digest known hTurn with ⟨effects, hLog, hPairing⟩
  have hAdded : (handleTurn digest node drive.unlogged turn).drive.log = effects :=
    hLog.trans (List.nil_append effects)
  rw [← hAdded] at hPairing
  unfold takeTurn
  generalize handleTurn digest node drive.unlogged turn = result at hPairing
  cases result with
  | running next | handedOver next | failed error next => exact hPairing

/- Whatever a node does, it pairs hashes and generations. -/
theorem partyStep_pairing {party next : Party} {event : PartyEvent} {effects : List Effect}
    (hDelivered : ∀ entry ∈ event.delivered, MessagePaired digest known entry.2)
    (hNotOlder : NotToldOlder node party event)
    (hNext : partyStep digest node party event = some (next, effects)) :
    Pairing digest known party.context effects
      next.context := by
  unfold partyStep at hNext
  split at hNext
  · rename_i loop event
    rw [Option.map_eq_some_iff] at hNext
    rcases hNext with ⟨after, hAfter, hPair⟩
    cases hPair
    exact loopStep_pairing digest known node hDelivered hNotOlder hAfter
  · rename_i loop env
    split_ifs at hNext
    have hPair := Option.some.inj hNext
    have hEntered := enterDrive_pairing digest known node env loop.context
    rw [hPair] at hEntered
    exact hEntered
  · rename_i drive turn
    split_ifs at hNext
    have hPair := Option.some.inj hNext
    have hTaken := takeTurn_pairing digest known node drive hDelivered
    rw [hPair] at hTaken
    exact hTaken
  · rename_i drive env
    split_ifs at hNext
    cases hNext
    rcases driveFinish_pairing digest known with ⟨added, hLog, hPairing⟩
    rw [hLog]
    exact hPairing
  · rename_i context env
    have hDriven := driveWindow_pairing digest known node env context
    dsimp only at hNext
    split_ifs at hNext
    split at hNext
    · cases hNext
      exact hDriven
    · cases hNext
      exact hDriven
  · cases hNext

end

----
-- All Nodes of a Job
----

def writtenManifests (effects : List Effect) : List TrainingCheckpointManifest :=
  effects.filterMap (fun effect =>
    match effect with
    | .persistedCheckpoint commit => some commit.manifest
    | _ => none)

/- The nodes, and everything they ever did to the outside. -/
structure JobSystem where
  parties : NodeId → Party
  log : List (NodeId × Effect)

namespace JobSystem

/- Every node starts from the job's order and its own share. -/
def initial (start : TrainingStart) (share : NodeId → TrainingShardAssignment × List TrainingSample)
    (role : NodeId → Role) : JobSystem where
  parties := fun node =>
    .looping ⟨Context.new { start with
      assignment := (share node).1
      samples := (share node).2 } (role node), none, false⟩
  log := []

/- The manifests that were written by some node. -/
def manifests (system : JobSystem) : List TrainingCheckpointManifest :=
  writtenManifests (system.log.map Prod.snd)

/- Whether a node has sent a message to another. -/
def wasSent (system : JobSystem) (sender receiver : NodeId) (message : TrainingMessage) : Bool :=
  system.log.any (fun entry =>
    match entry.2 with
    | .sent target sent => entry.1 == sender && target == receiver && sent == message
    | _ => false)

/- States and commits are not forged. -/
def authentic (system : JobSystem) (node : NodeId) (event : PartyEvent) : Bool :=
  match event.delivered with
  | some (peer, .state state) => system.wasSent peer node (.state state)
  | some (peer, .checkpointCommit commit) => system.wasSent peer node (.checkpointCommit commit)
  | _ => true

end JobSystem

def jobStep (digest : Digest) (system : JobSystem)
    (action : NodeId × PartyEvent) : Option JobSystem :=
  if system.authentic action.1 action.2 then
    (partyStep digest action.1 (system.parties action.1) action.2).map (fun result =>
      { parties :=
        Function.update system.parties action.1 result.1
        log := system.log ++ result.2.map (fun effect => (action.1, effect)) })
  else
    none

/- In no step a candidate is told of an older checkpoint. -/
def NoOlderCheckpoint (system : JobSystem) (action : NodeId × PartyEvent) : Prop :=
  NotToldOlder action.1 (system.parties action.1) action.2

instance (system : JobSystem) (action : NodeId × PartyEvent) :
    Decidable (NoOlderCheckpoint system action) := by
  unfold NoOlderCheckpoint
  infer_instance

/-
  Every node names a manifest of the generation it holds, and
  so does what was written and sent.
-/
structure PairInv (digest : Digest) (system : JobSystem) : Prop where
  parties : ∀ node, (system.parties node).context.Paired digest system.manifests
  log : ∀ entry ∈ system.log, EffectPaired digest system.manifests entry.2

namespace PairInv

variable {digest : Digest} {system : JobSystem}

theorem initial (start : TrainingStart)
    (share : NodeId → TrainingShardAssignment × List TrainingSample) (role : NodeId → Role) :
    PairInv digest (JobSystem.initial start share role) where
  parties := by
    intro node hash hHash
    cases hHash
  log := by
    intro entry hMem
    cases hMem

/- The manifests after a step are those before and its own. -/
theorem manifests_append (system : JobSystem) (parties : NodeId → Party) (node : NodeId)
    (effects : List Effect) : (JobSystem.mk parties (system.log ++ effects.map (fun effect =>
      (node, effect)))).manifests = system.manifests ++ writtenManifests effects := by
  simp [JobSystem.manifests, writtenManifests, Function.comp_def]

/- What an authentic event delivers is paired. -/
theorem delivered (hInv : PairInv digest system) (node : NodeId) (event : PartyEvent)
    (hAuthentic : system.authentic node event = true) :
    ∀ entry ∈ event.delivered, MessagePaired digest system.manifests entry.2 := by
  have hSent : ∀ peer message, system.wasSent peer node message = true → ∃ target,
    EffectPaired digest system.manifests (.sent target message) := by
    intro peer message hWasSent
    rw [JobSystem.wasSent, List.any_eq_true] at hWasSent
    rcases hWasSent with ⟨⟨sender, effect⟩, hMem, hSame⟩
    cases effect with
    | sent target sent =>
      have hMessage : sent = message := by
        simp only [Bool.and_eq_true, beq_iff_eq] at hSame
        exact hSame.2
      rw [← hMessage]
      exact ⟨target, hInv.log _ hMem⟩
    | _ => cases hSame
  rintro ⟨peer, message⟩ hDelivered
  rw [JobSystem.authentic, hDelivered] at hAuthentic
  cases message with
  | state state | checkpointCommit commit =>
    rcases hSent peer _ hAuthentic with ⟨target, hPaired⟩
    exact hPaired
  | _ => trivial

/- Every step keeps the pairs. -/
theorem step (action : NodeId × PartyEvent) (next : JobSystem) (hInv : PairInv digest system)
    (hNotOlder : NoOlderCheckpoint system action)
    (hNext : jobStep digest system action = some next) : PairInv digest next := by
  rcases action with ⟨node, event⟩
  rw [jobStep] at hNext
  split_ifs at hNext with hAuthentic
  rw [Option.map_eq_some_iff] at hNext
  rcases hNext with ⟨⟨party, effects⟩, hStep, rfl⟩
  have hManifests := manifests_append system
    (Function.update system.parties node party) node effects
  have hKnown : ∀ manifest ∈ system.manifests,
    manifest ∈ system.manifests ++ writtenManifests effects :=
    fun manifest hMem => List.mem_append_left _ hMem
  have hDelivered : ∀ entry ∈ event.delivered, MessagePaired digest
    (system.manifests ++ writtenManifests effects)
    entry.2 := by
    intro entry hMem
    exact (hInv.delivered node event hAuthentic entry hMem).mono hKnown
  have hWritten : KnowsWritten (system.manifests ++ writtenManifests effects)
    effects := by
    intro commit hMem
    apply List.mem_append_right
    exact List.mem_filterMap.mpr ⟨_, hMem, rfl⟩
  have hPaired := partyStep_pairing digest _ node hDelivered hNotOlder hStep
    ((hInv.parties node).mono hKnown) hWritten
  constructor
  · intro other
    rw [hManifests]
    dsimp only
    by_cases hOther : other = node
    · subst hOther
      rw [Function.update_self]
      exact hPaired.1
    · rw [Function.update_of_ne hOther]
      exact (hInv.parties other).mono hKnown
  · intro entry hMem
    rw [hManifests]
    rcases List.mem_append.mp hMem with hMem | hMem
    · exact (hInv.log entry hMem).mono hKnown
    · rcases List.mem_map.mp hMem with ⟨effect, hEffect, rfl⟩
      exact hPaired.2 effect hEffect

end PairInv

/-
  In every run in which no candidate is told of a checkpoint
  older than its own, every node names a manifest of its own
  generation, and so do the states that are written and sent.
-/
theorem checkpoint_paired (digest : Digest) (start : TrainingStart)
    (share : NodeId → TrainingShardAssignment × List TrainingSample) (role : NodeId → Role)
    (actions : List (NodeId × PartyEvent)) (final : JobSystem)
    (hNotOlder : Meets (jobStep digest) NoOlderCheckpoint
      (JobSystem.initial start share role) actions)
    (hRun : run (jobStep digest) (JobSystem.initial start share role) actions = some final) :
    PairInv digest final :=
  invariant_of_run (PairInv digest) (fun _ action next hInv hCond hNext =>
    hInv.step action next hCond hNext)
    (.initial start share role) hNotOlder hRun

----
-- A Candidate Told of an Older Checkpoint
----

/- The nodes of the small job before anything happens. -/
def smallParties : JobSystem :=
  JobSystem.initial (smallStart 0) (fun node =>
    let start := smallStart ((node.bytes.toNat + 1) % 2)
    (start.assignment, start.samples))
    (fun node =>
      if node = ⟨9⟩ then .coordinator else .worker)

def idleCommit : CommitEnv := ⟨true, true, []⟩

def idleDispatch : DispatchEnv := ⟨Round.quiet, true⟩

def quietTurn (event : V3Inbound) : Turn where
  event := event
  connected := fun _ => true
  reconnected := fun _ => true
  stateWritten := true
  commit := idleCommit
  dispatch := fun _ => idleDispatch

section

variable (aggregator : NodeId) (group : UInt16) (window : UInt64)

/- A group's aggregate of a window, as its aggregator sends it. -/
def idleAggregate : TrainingAggregate :=
  { smallAggregate group aggregator window with stateArtifact := ⟨20⟩, replicas := [] }

def reports : NodeId × PartyEvent :=
  (⟨9⟩, .turned (quietTurn (.message aggregator
    (.aggregate (idleAggregate aggregator group window)))))

end

/-
  The checkpoints of the coordinator.  In the first of them the
  second shard is one generation behind.
-/
def madeManifest (generation : UInt64) (parent : Option ArtifactId) : TrainingCheckpointManifest :=
  let manifest : TrainingCheckpointManifest :=
    { smallManifest 1 2 with
      checkpointGeneration := generation
      parent := parent
      shards := [⟨0, ⟨20⟩, 2, [⟨1⟩]⟩, ⟨1, ⟨20⟩, generation, [⟨2⟩]⟩]
      datasetProgress := [(0, 2), (1, generation)]
      hash := default }
  { manifest with hash := checkpointHash smallDigest manifest }

def firstMade : TrainingCheckpointManifest :=
  madeManifest 1 none

def secondMade : TrainingCheckpointManifest :=
  madeManifest 2 (some firstMade.hash)

def madeCommit (manifest : TrainingCheckpointManifest) : TrainingCheckpointCommit :=
  { smallCommit ⟨9⟩ 1 2 with manifest := manifest, quorum := smallWorkers }

/- A node handles one message. -/
def handles (node peer : NodeId) (message : TrainingMessage) : NodeId × PartyEvent :=
  (node, .looped (.message Env.quiet peer message))

/- Node 3 reads one message while it waits for votes. -/
def hears (peer : NodeId) (message : TrainingMessage) : NodeId × PartyEvent :=
  (⟨3⟩, .looped (.waited (.inbound true (.message peer message))))

def thirdWindow : TrainingWindow :=
  { smallWindow 3 2 with groupId := 1, shardId := 1, aggregator := ⟨2⟩, members := [⟨2⟩, ⟨4⟩] }

def thirdRequest : TrainingElection where
  jobId := ⟨7⟩
  candidate := ⟨3⟩
  term := 2
  membershipEpoch := 1
  branch := smallDigest.branchHash ⟨7⟩
  lastWindow := 2
  lastStateHash := ⟨20⟩

/- What node 4 knows after a commit and the third window. -/
def fourthState (told : TrainingCheckpointManifest) : TrainingState :=
  { (Context.new (smallStart 0) .worker).state with
    window := 3
    checkpointGeneration := told.checkpointGeneration
    checkpoint := some told.hash
    shards := told.shards.map committedSummary }

def votesForThird (peer : NodeId) : NodeId × PartyEvent :=
  hears peer (.ack ⟨⟨7⟩, peer, 2, .vote ⟨3⟩ 2 3 true⟩)

/-
  Node 9 commits both checkpoints and is lost.  Node 3 has the
  second one and is elected; node 4 has one of the two and has
  seen a later window.
-/
def electedAfter (told : TrainingCheckpointManifest) : List (NodeId × PartyEvent) :=
  [(⟨9⟩, .entered ⟨true, fun _ => idleDispatch, idleCommit⟩), reports ⟨2⟩ 1 1, reports ⟨1⟩ 0 2,
    reports ⟨2⟩ 1 2, handles ⟨3⟩ ⟨9⟩ (.checkpointCommit (madeCommit secondMade)),
    handles ⟨4⟩ ⟨9⟩ (.checkpointCommit (madeCommit told)), handles ⟨4⟩ ⟨9⟩ (.window thirdWindow),
    (⟨3⟩, .looped (.disconnected ⟨9⟩ false false true)), handles ⟨4⟩ ⟨3⟩ (.election thirdRequest),
    hears ⟨4⟩ (.state (fourthState told)), votesForThird ⟨4⟩,
    handles ⟨1⟩ ⟨3⟩ (.election thirdRequest), votesForThird ⟨1⟩]

theorem electedAfter_second_isSome :
    (run (jobStep smallDigest) smallParties (electedAfter secondMade)).isSome := by
  decide +kernel

theorem electedAfter_first_isSome :
    (run (jobStep smallDigest) smallParties (electedAfter firstMade)).isSome := by
  decide +kernel

/- Told of the checkpoint it has, node 3 keeps the pair. -/
theorem checkpoint_paired_small : ∃ final, run (jobStep smallDigest) smallParties
    (electedAfter secondMade) = some final ∧ (final.parties ⟨3⟩).context.role = .coordinator ∧
    (final.parties ⟨3⟩).context.checkpointGeneration = 2 ∧
    (final.parties ⟨3⟩).context.checkpoint = some secondMade.hash ∧
    PairInv smallDigest final := by
  have hRun := (Option.some_get electedAfter_second_isSome).symm
  have hNotOlder : Meets (jobStep smallDigest) NoOlderCheckpoint
    smallParties (electedAfter secondMade) := by
    decide +kernel
  refine ⟨_, hRun, ?_, ?_, ?_, ?_⟩
  · decide +kernel
  · decide +kernel
  · decide +kernel
  · exact checkpoint_paired smallDigest (smallStart 0) _ _
      (electedAfter secondMade) _ hNotOlder hRun

/-
  Told of the first checkpoint, node 3 takes its hash and keeps
  the second generation.  No manifest of that generation has
  that hash, and node 3 announces the two as coordinator.
-/
theorem checkpoint_unpaired : ∃ final, run (jobStep smallDigest) smallParties
    (electedAfter firstMade) = some final ∧ (final.parties ⟨3⟩).context.role = .coordinator ∧
    (final.parties ⟨3⟩).context.checkpointGeneration = 2 ∧
    (final.parties ⟨3⟩).context.checkpoint = some firstMade.hash ∧
    ¬ PairInv smallDigest final := by
  have hRun := (Option.some_get electedAfter_first_isSome).symm
  refine ⟨_, hRun, ?_, ?_, ?_, ?_⟩
  · decide +kernel
  · decide +kernel
  · decide +kernel
  · intro hInv
    have hPaired := hInv.parties ⟨3⟩
    revert hPaired
    decide +kernel

end IntelligenceNetwork.Training
