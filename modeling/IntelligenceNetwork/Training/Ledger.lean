import IntelligenceNetwork.Training.Drive
import IntelligenceNetwork.Training.Majority

/-
  What a turn of the coordinator does to the job's ledger.

  Dispatching and voting leave it alone; an aggregate that is
  accepted installs one summary, and commits a checkpoint where
  one is due.

  Main declarations:
    * `SameLedger`
    * `Commits`
    * `AfterAggregate`
-/

----
-- What Dispatching Leaves Alone
----

namespace IntelligenceNetwork.Training

variable {group : TrainingGroup} {aggregate : TrainingAggregate} {context : Context}
variable {drive next : Drive} {env : CommitEnv} {manifest : TrainingCheckpointManifest}
variable {peer : NodeId} {state : TrainingState} {turn : Turn}

def groupKey (group : TrainingGroup) : UInt16 × UInt16 :=
  (group.groupId, group.shardId)

/- A job keeps its groups, though their members may change. -/
structure SameJob (before after : TrainingStart) : Prop where
  maxWindows : after.maxWindows = before.maxWindows
  checkpointEvery : after.checkpointEvery = before.checkpointEvery
  shards : after.shards = before.shards
  groups : after.groups.map groupKey = before.groups.map groupKey

namespace SameJob

theorem refl (start : TrainingStart) : SameJob start start :=
  ⟨rfl, rfl, rfl, rfl⟩

theorem trans {first second third : TrainingStart} (hFirst : SameJob first second)
    (hSecond : SameJob second third) : SameJob first third :=
  ⟨hSecond.maxWindows.trans hFirst.maxWindows, hSecond.checkpointEvery.trans hFirst.checkpointEvery,
    hSecond.shards.trans hFirst.shards, hSecond.groups.trans hFirst.groups⟩

variable {before after : TrainingStart} (hSame : SameJob before after)
include hSame

/- A group of the one is a group of the other. -/
theorem exists_group (hGroup : group ∈ before.groups) :
    ∃ group' ∈ after.groups, groupKey group' = groupKey group := by
  have hKey : groupKey group ∈ after.groups.map groupKey := by
    rw [hSame.groups]
    exact List.mem_map_of_mem hGroup
  exact List.mem_map.mp hKey

theorem symm : SameJob after before :=
  ⟨hSame.maxWindows.symm, hSame.checkpointEvery.symm, hSame.shards.symm, hSame.groups.symm⟩

theorem groupIds :
    after.groups.map TrainingGroup.groupId = before.groups.map TrainingGroup.groupId := by
  have hFst := congrArg (List.map Prod.fst) hSame.groups
  simpa [List.map_map, Function.comp_def, groupKey] using hFst

end SameJob

/- The parts of a context that tell how far the job is. -/
structure SameLedger (before after : Context) : Prop where
  coordinator : after.coordinator = before.coordinator
  job : SameJob before.start after.start
  summaries : after.shardSummaries = before.shardSummaries
  checkpoints : after.checkpointGeneration = before.checkpointGeneration
  final : after.finalCheckpointCommitted = before.finalCheckpointCommitted

namespace SameLedger

theorem refl (context : Context) : SameLedger context context :=
  ⟨rfl, .refl _, rfl, rfl, rfl⟩

theorem trans {first second third : Context} (hFirst : SameLedger first second)
    (hSecond : SameLedger second third) : SameLedger first third :=
  ⟨hSecond.coordinator.trans hFirst.coordinator, hFirst.job.trans hSecond.job,
    hSecond.summaries.trans hFirst.summaries, hSecond.checkpoints.trans hFirst.checkpoints,
    hSecond.final.trans hFirst.final⟩

end SameLedger

theorem OnlyBookkeeping.sameLedger {before after : Context} (hOnly : OnlyBookkeeping before after) :
    SameLedger before after := by
  rcases hOnly with ⟨_, _, _, _, _, rfl⟩
  exact ⟨rfl, .refl _, rfl, rfl, rfl⟩

theorem sameLedger_workTrace (node : NodeId) :
    WorkTrace node (fun before _ after => SameLedger before after) :=
  (WaitRelation.of_bookkeeping node SameLedger SameLedger.refl SameLedger.trans
    OnlyBookkeeping.sameLedger).workTrace (fun _ _ => ⟨rfl, SameJob.refl _, rfl, rfl, rfl⟩)

/- Dispatching is work on windows. -/
section

variable {node : NodeId} {S : Context → List Effect → Context → Prop} (hS : WorkTrace node S)
variable (digest : Digest)
include hS

theorem dispatchToMember_trace {env : DispatchEnv} {group : TrainingGroup}
    {message : TrainingWindow} {context : Context} {member : NodeId} :
    S context (dispatchToMember digest node env group message context member).2
      (dispatchToMember digest node env group message context member).1 := by
  unfold dispatchToMember
  split_ifs
  · exact hS.refl context
  · exact sentWindows_trace hS context message [member]
  · exact collectGroupUpdates_trace hS context message digest env.round group
  · exact computeAndSendUpdate_trace hS context message
  · exact hS.refl context

theorem dispatchToMembers_trace (env : DispatchEnv) (group : TrainingGroup)
    (message : TrainingWindow) (context : Context) {members : List NodeId} :
    S context (dispatchToMembers digest node env group message context members).2
      (dispatchToMembers digest node env group message context members).1 := by
  induction members generalizing context with
  | nil => exact hS.refl context
  | cons member members ih =>
    exact hS.trans (dispatchToMember_trace hS digest) (ih _)

theorem dispatchNext_trace (env : DispatchEnv) {context : Context} (group : TrainingGroup) :
    S context (dispatchNext digest node env context group).2
      (dispatchNext digest node env context group).1 := by
  unfold dispatchNext
  dsimp only
  split_ifs
  · exact dispatchToMembers_trace hS digest env group _ context
  · exact hS.refl context

theorem dispatchGroups_trace (envs : UInt16 → DispatchEnv) (context : Context)
    (groups : List TrainingGroup) :
    S context (dispatchGroups digest node envs context groups).2
      (dispatchGroups digest node envs context groups).1 := by
  induction groups generalizing context with
  | nil => exact hS.refl context
  | cons group groups ih =>
    exact hS.trans (dispatchNext_trace hS digest (envs group.groupId) group) (ih _)

end

theorem restoreMembers_sameLedger (turn : Turn) (peer : NodeId) (context : Context)
    (members : List NodeId) : SameLedger context (restoreMembers turn peer context members) := by
  induction members generalizing context with
  | nil => exact .refl context
  | cons member members ih =>
    unfold restoreMembers
    split_ifs
    · exact (restoreTrainingPeer_bookkeeping _ _ context member).sameLedger.trans (ih _)
    · exact ih context

/- Where ids are distinct, an id determines the shard. -/
theorem groupKey_eq_of_groupId_eq {groups : List TrainingGroup}
    (hDistinct : (groups.map TrainingGroup.groupId).Nodup) {group' : TrainingGroup}
    (hGroup : groupKey group ∈ groups.map groupKey) (hGroup' : group' ∈ groups)
    (hIds : group'.groupId = group.groupId) : groupKey group' = groupKey group := by
  rcases List.mem_map.mp hGroup with ⟨other, hOther, hKey⟩
  rcases Prod.mk.inj hKey with ⟨hId, -⟩
  have hSame : group' = other := List.inj_on_of_nodup_map hDistinct hGroup' hOther
    (hIds.trans hId.symm)
  rw [hSame]
  exact hKey

theorem map_groupKey_replaceGroup (retry : TrainingGroup) (groups : List TrainingGroup)
    (hKeys : ∀ active ∈ groups, active.groupId = retry.groupId → groupKey active = groupKey retry) :
    (replaceGroup retry groups).map groupKey = groups.map groupKey := by
  induction groups with
  | nil => rfl
  | cons active groups ih =>
    unfold replaceGroup
    split_ifs with hId
    · rw [List.map_cons, List.map_cons, hKeys active List.mem_cons_self hId]
    · rw [List.map_cons, List.map_cons, ih]
      intro other hOther
      exact hKeys other (List.mem_cons_of_mem active hOther)

/- A retried group stands where the group stood. -/
theorem reassign_sameLedger {context : Context} (retry : TrainingGroup)
    (hDistinct : (context.start.groups.map TrainingGroup.groupId).Nodup)
    (hRetry : groupKey retry ∈ context.start.groups.map groupKey) :
    SameLedger context (reassign context retry) := by
  refine ⟨rfl, ⟨rfl, rfl, rfl, ?_⟩, rfl, rfl, rfl⟩
  apply map_groupKey_replaceGroup
  intro active hActive hId
  exact groupKey_eq_of_groupId_eq hDistinct hRetry hActive hId

variable (digest : Digest) (node : NodeId)

theorem takeOverGroups_sameLedger (turn : Turn) (peer : NodeId)
    (context : Context) (groups : List TrainingGroup)
    (hDistinct : (context.start.groups.map TrainingGroup.groupId).Nodup)
    (hGroups : ∀ group ∈ groups, groupKey group ∈ context.start.groups.map groupKey) :
    SameLedger context (takeOverGroups digest node turn peer context groups).context := by
  induction groups generalizing context with
  | nil => exact .refl context
  | cons group groups ih =>
    have hRestored := restoreMembers_sameLedger turn peer context group.members
    unfold takeOverGroups
    dsimp only
    split
    · exact hRestored
    · rename_i replacement hReplacement
      have hReassigned := reassign_sameLedger
        (retryGroup (restoreMembers turn peer context group.members) group replacement)
        (by rw [hRestored.job.groupIds]; exact hDistinct) (by
          rw [hRestored.job.groups]
          exact hGroups group List.mem_cons_self)
      have hNext := hRestored.trans (hReassigned.trans
        (dispatchNext_trace (sameLedger_workTrace node) digest (turn.dispatch group.groupId)
          (retryGroup (restoreMembers turn peer context group.members) group replacement)))
      refine hNext.trans (ih _ ?_ ?_)
      · rw [hNext.job.groupIds]
        exact hDistinct
      · intro other hOther
        rw [hNext.job.groups]
        exact hGroups other (List.mem_cons_of_mem group hOther)

theorem handleDisconnected_sameLedger
    (hDistinct : (drive.context.start.groups.map TrainingGroup.groupId).Nodup)
    (hNext : handleDisconnected digest node drive turn peer = .running next) :
    SameLedger drive.context next.context ∧ next.completed = drive.completed ∧
      next.committed = drive.committed := by
  have hRestored := (restoreTrainingPeer_bookkeeping (turn.connected peer)
    (turn.reconnected peer) drive.context peer)
  unfold handleDisconnected at hNext
  dsimp only at hNext
  split_ifs at hNext
  · cases hNext
    exact ⟨hRestored.sameLedger.trans
      (dispatchGroups_trace (sameLedger_workTrace node) digest turn.dispatch _ _), rfl, rfl⟩
  · have hFailed := (hRestored.trans (.fail _ peer)).sameLedger
    split at hNext
    · cases hNext
    · cases hNext
      refine ⟨hFailed.trans (takeOverGroups_sameLedger digest node turn peer _ _ ?_ ?_), rfl, rfl⟩
      · rw [hFailed.job.groupIds]
        exact hDistinct
      · intro group hGroup
        exact List.mem_map_of_mem (List.mem_of_mem_filter hGroup)

----
-- What a Commit Does
----

theorem broadcastCheckpointAndWait_bookkeeping (node : NodeId) (context : Context)
    (commit : TrainingCheckpointCommit) (arrivals : List Arrival) :
    OnlyBookkeeping context (broadcastCheckpointAndWait node context commit arrivals).context := by
  rcases (Transition.drain_eq_iff (checkpointWait node context commit)).mp rfl
    with ⟨consumed, -, hRun, -⟩
  refine Transition.always_of_run (fun wait : Wait => OnlyBookkeeping context wait.context)
    ?_ (.refl context) hRun
  intro wait arrival next hOnly hStep
  rcases (checkpointStep_eq_some_iff commit).mp hStep with ⟨-, rfl⟩
  exact hOnly.trans (checkpointEvent_move commit wait arrival).bookkeeping

/- The manifest lists what the context knows of each shard. -/
theorem makeCheckpointFromContext_ok {digest : Digest}
    (hOk : makeCheckpointFromContext digest context = .ok manifest) :
    manifest.shards = context.shardSummaries.values.map summaryShard ∧
      manifest.checkpointGeneration = Saturating.add context.checkpointGeneration 1 := by
  unfold makeCheckpointFromContext at hOk
  dsimp only at hOk
  split_ifs at hOk
  cases hOk
  exact ⟨rfl, rfl⟩

/-
  A commit advances the checkpoint generation by one, sets the
  final flag for a final manifest, and otherwise leaves the
  progress of the job alone.
-/
structure Commits (before : Context) (manifest : TrainingCheckpointManifest)
    (after : Context) : Prop where
  start : after.start = before.start
  coordinator : after.coordinator = before.coordinator
  summaries : after.shardSummaries = before.shardSummaries
  generation : after.checkpointGeneration = Saturating.add before.checkpointGeneration 1
  final : after.finalCheckpointCommitted =
    (before.finalCheckpointCommitted || manifestIsFinal before.start manifest)
  shards : manifest.shards = before.shardSummaries.values.map summaryShard
  manifestGeneration : manifest.checkpointGeneration = Saturating.add before.checkpointGeneration 1

theorem persistCommitted_ok {effects : List Effect} {manifest' : TrainingCheckpointManifest}
    (hOk : (persistCommitted env context effects manifest).result = .ok manifest') :
    manifest' = manifest ∧ (persistCommitted env context effects manifest).context = context := by
  unfold persistCommitted at hOk ⊢
  split_ifs at hOk ⊢
  exact ⟨(Except.ok.inj hOk).symm, rfl⟩

theorem commitContextCheckpoint_ok
    (hOk : (commitContextCheckpoint digest node env context).result = .ok manifest) :
    Commits context manifest (commitContextCheckpoint digest node env context).context := by
  unfold commitContextCheckpoint at hOk ⊢
  split at hOk
  · cases hOk
  · rename_i made hMade
    rcases makeCheckpointFromContext_ok hMade with ⟨hShards, hGeneration⟩
    dsimp only at hOk ⊢
    split_ifs at hOk ⊢ with hWritten hFinal
    · split at hOk
      · rcases persistCommitted_ok hOk with ⟨rfl, hContext⟩
        have hOnly := broadcastCheckpointAndWait_bookkeeping node
          (recordCheckpoint context manifest) (contextCommit context manifest) env.acks
        rw [hContext]
        rcases hOnly with ⟨_, _, _, _, _, hSame⟩
        rw [hSame]
        refine ⟨rfl, rfl, rfl, hGeneration, ?_, hShards, hGeneration⟩
        simp [hFinal]
      · cases hOk
    · rcases persistCommitted_ok hOk with ⟨rfl, hContext⟩
      rw [hContext]
      refine ⟨rfl, rfl, rfl, hGeneration, ?_, hShards, hGeneration⟩
      simp [recordCheckpoint, hFinal]

----
-- What a Turn Does
----

/- The aggregate of a turn, if the coordinator accepts it. -/
def acceptedAggregate (drive : Drive) (turn : Turn) : Option (TrainingGroup × TrainingAggregate) :=
  match turn.event with
  | .message peer (.aggregate aggregate) =>
    match groupFor drive.context.start aggregate.groupId with
    | none => none
    | some group =>
      if aggregateRejected drive.context group peer aggregate then none else some (group, aggregate)
  | _ => none

/- The turn commits the checkpoint of an interval. -/
def commitsCheckpoint (drive : Drive) (turn : Turn) : Bool :=
  (acceptedAggregate drive turn).any (fun accepted =>
    checkpointDue (acceptAggregate drive.context accepted.2) accepted.2)

/-
  An accepted aggregate comes from an honest aggregator, whose
  windows and generations go together, and a node does not
  receive states of its own.
-/
def HonestTurn (node : NodeId) (drive : Drive) (turn : Turn) : Prop :=
  (∀ group aggregate, acceptedAggregate drive turn = some (group, aggregate) →
    aggregate.window = aggregate.generation) ∧
    ∀ peer state, turn.event = .message peer (.state state) → peer ≠ node

/-
  The loop's state after an accepted aggregate, with a new
  checkpoint where one is due.
-/
def AfterAggregate (drive : Drive) (aggregate : TrainingAggregate) (next : Drive) : Prop :=
  if checkpointDue (acceptAggregate drive.context aggregate) aggregate then
    ∃ manifest, Commits (acceptAggregate drive.context aggregate) manifest next.context ∧
      next.committed = some manifest
  else
    SameLedger (acceptAggregate drive.context aggregate)
      next.context ∧
      next.committed = drive.committed

/- Completing a group only moves the report on it. -/
theorem AfterAggregate.completeGroup (hAfter : AfterAggregate drive aggregate next)
    (group : TrainingGroup) :
    AfterAggregate drive aggregate (Training.completeGroup next group aggregate) := by
  have hSame : ∃ observed order, (Training.completeGroup next group aggregate).context =
    { next.context with
      nonBarrierProgressObserved := observed
      groupCompletionOrder := order } ∧
    (Training.completeGroup next group aggregate).committed = next.committed := by
    unfold Training.completeGroup
    dsimp only
    split_ifs
    all_goals exact ⟨_, _, rfl, rfl⟩
  rcases hSame with ⟨_, _, hContext, hCommitted⟩
  unfold AfterAggregate at hAfter ⊢
  rw [hContext, hCommitted]
  split_ifs at hAfter ⊢
  · rcases hAfter with ⟨manifest, hCommits, hSome⟩
    exact ⟨manifest, ⟨hCommits.start, hCommits.coordinator, hCommits.summaries, hCommits.generation,
      hCommits.final, hCommits.shards, hCommits.manifestGeneration⟩, hSome⟩
  · rcases hAfter with ⟨hLedger, hSame⟩
    exact ⟨⟨hLedger.coordinator, hLedger.job, hLedger.summaries, hLedger.checkpoints,
      hLedger.final⟩, hSame⟩

theorem completeGroup_completed (drive : Drive) (group : TrainingGroup)
    (aggregate : TrainingAggregate) : (completeGroup drive group aggregate).completed =
      if aggregate.window ≥ drive.context.start.maxWindows then
        insert group.groupId drive.completed
      else
        drive.completed := by
  unfold completeGroup
  dsimp only
  split_ifs
  · rfl
  · rfl
  · rfl

theorem handleAggregate_running
    (hGroup : groupFor drive.context.start aggregate.groupId = some group)
    (hAccepted : aggregateRejected drive.context group peer aggregate = false)
    (hNext : handleAggregate digest node drive turn peer aggregate = .running next) :
    AfterAggregate drive aggregate next ∧
      next.completed =
        if aggregate.window ≥ drive.context.start.maxWindows then
          insert group.groupId drive.completed
        else
          drive.completed := by
  unfold handleAggregate at hNext
  rw [hGroup] at hNext
  dsimp only at hNext
  rw [hAccepted, if_neg Bool.false_ne_true] at hNext
  split_ifs at hNext with hWritten hDue
  · split at hNext
    · cases hNext
    · rename_i manifest hManifest
      have hCommits := commitContextCheckpoint_ok digest node hManifest
      cases hNext
      constructor
      · apply AfterAggregate.completeGroup
        unfold AfterAggregate
        rw [if_pos hDue]
        exact ⟨manifest, hCommits, rfl⟩
      · rw [completeGroup_completed, hCommits.start]
        rfl
  · cases hNext
    constructor
    · apply AfterAggregate.completeGroup
      unfold AfterAggregate
      rw [if_neg hDue]
      exact ⟨.refl _, rfl⟩
    · rw [completeGroup_completed]
      rfl

theorem handleState_context {node : NodeId} {written : Bool} :
    (handleState node written context peer state).context = context ∨
      (handleState node written context peer state).context = adoptState context state ∧
        peer = state.coordinator := by
  unfold handleState
  split_ifs with hRejected
  · exact Or.inl rfl
  all_goals
    right
    refine ⟨rfl, ?_⟩
    by_contra hOther
    simp [stateRejected, hOther] at hRejected

/- A state from another node is rejected, or it takes over. -/
theorem handleNewerState_running {node : NodeId} (hCoordinator : drive.context.coordinator = node)
    (hPeer : peer ≠ node) (hNext : handleNewerState node drive turn peer state = .running next) :
    next.context = drive.context ∧ next.completed = drive.completed ∧
      next.committed = drive.committed := by
  unfold handleNewerState at hNext
  dsimp only at hNext
  split at hNext
  · cases hNext
  · split_ifs at hNext with hSame
    cases hNext
    refine ⟨?_, rfl, rfl⟩
    rcases handleState_context with hKept | ⟨hAdopted, hState⟩
    · exact hKept
    · exfalso
      rw [hAdopted, not_not] at hSame
      apply hPeer
      rw [hState, ← hCoordinator]
      exact hSame

/-
  A turn that goes on either accepts an aggregate or leaves
  the ledger, the completed groups and the checkpoint alone.
-/
theorem handleTurn_running (hCoordinator : drive.context.coordinator = node)
    (hDistinct : (drive.context.start.groups.map TrainingGroup.groupId).Nodup)
    (hHonest : HonestTurn node drive turn)
    (hNext : handleTurn digest node drive turn = .running next) :
    (∃ group aggregate, acceptedAggregate drive turn = some (group, aggregate) ∧
      AfterAggregate drive aggregate next ∧
      next.completed =
        if aggregate.window ≥ drive.context.start.maxWindows then
          insert group.groupId drive.completed
        else
          drive.completed) ∨
      (acceptedAggregate drive turn = none ∧ SameLedger drive.context next.context ∧
        next.completed = drive.completed ∧
        next.committed = drive.committed) := by
  unfold handleTurn at hNext
  unfold acceptedAggregate
  split at hNext
  · rename_i peer aggregate hEvent
    rw [hEvent]
    dsimp only
    cases hGroup : groupFor drive.context.start aggregate.groupId with
    | none =>
      right
      rw [handleAggregate, hGroup] at hNext
      cases hNext
      exact ⟨rfl, .refl _, rfl, rfl⟩
    | some group =>
      cases hRejected : aggregateRejected drive.context group peer aggregate with
      | true =>
        right
        rw [handleAggregate, hGroup] at hNext
        dsimp only at hNext
        rw [if_pos hRejected] at hNext
        cases hNext
        exact ⟨by simp [hRejected], (OnlyBookkeeping.countRejected _).sameLedger, rfl, rfl⟩
      | false =>
        left
        exact ⟨group, aggregate, by simp [hRejected],
          handleAggregate_running digest node hGroup hRejected hNext⟩
  · rename_i peer hEvent
    right
    rw [hEvent]
    exact ⟨rfl, handleDisconnected_sameLedger digest node hDistinct hNext⟩
  · rename_i peer election hEvent
    right
    rw [hEvent]
    split_ifs at hNext
    · cases hNext
      exact ⟨rfl, (handleElection_bookkeeping node _ peer election).sameLedger, rfl, rfl⟩
    · cases hNext
      exact ⟨rfl, .refl _, rfl, rfl⟩
  · rename_i peer state hEvent
    right
    rw [hEvent]
    split_ifs at hNext
    · rcases handleNewerState_running hCoordinator (hHonest.2 peer state hEvent) hNext with
        ⟨hContext, hRest⟩
      refine ⟨rfl, ?_, hRest⟩
      rw [hContext]
      exact .refl _
    · cases hNext
      exact ⟨rfl, .refl _, rfl, rfl⟩
  · rename_i hAggregate hLost hElection hState
    right
    cases hNext
    refine ⟨?_, .refl _, rfl, rfl⟩
    split
    · rename_i peer aggregate hEvent
      exact absurd hEvent (hAggregate peer aggregate)
    · rfl

end IntelligenceNetwork.Training
