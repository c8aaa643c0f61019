import IntelligenceNetwork.Training.Ledger

/-
  Whether a finished job has a committed final model.

  A checkpoint is final by the number of commits that led to
  it, but a job is finished by the windows of its groups.  An
  aggregate that is lost, or that comes too late, takes an
  interval's commit with it.

  Main declarations:
    * `DriveInv`
    * `FinalModelCommitted`
    * `finished_final_iff`
-/

----
-- The Loop's Invariant
----

namespace IntelligenceNetwork.Training

open Transition OrderedMap

variable {manifest : TrainingCheckpointManifest} {after before initial context : Context}
variable {committed : Option TrainingCheckpointManifest} {node : NodeId} {group : TrainingGroup}
variable {drive next : Drive} {aggregate : TrainingAggregate} {digest : Digest}

/- Groups are told apart by their ids, and hold the shards. -/
structure JobShape (start : TrainingStart) : Prop where
  distinct : (start.groups.map TrainingGroup.groupId).Nodup
  grouped : ∀ shard ∈ start.shards, ∃ group ∈ start.groups, group.shardId = shard.shardId

/- What is known of the shards is known by their ids. -/
structure KnowsShards (context : Context) : Prop where
  keyed : ∀ (shardId : UInt16) (summary : TrainingShardSummary),
    context.shardSummaries[shardId]? = some summary → summary.shardId = shardId ∧
      ∃ group ∈ context.start.groups, group.shardId = shardId
  known : ∀ group ∈ context.start.groups, ∃ summary : TrainingShardSummary,
    context.shardSummaries[group.shardId]? = some summary

/- Every shard of the job, at the last window or after it. -/
def ListsFinalModel (start : TrainingStart) (manifest : TrainingCheckpointManifest) : Prop :=
  (∀ shard ∈ manifest.shards, start.maxWindows ≤ shard.generation) ∧ ∀ expected ∈ start.shards,
    ∃ shard ∈ manifest.shards, shard.shardId = expected.shardId

/- Every shard that is known has reached the last window. -/
def ShardsFinal (context : Context) : Prop :=
  ∀ (shardId : UInt16) (summary : TrainingShardSummary),
    context.shardSummaries[shardId]? = some summary → context.start.maxWindows ≤ summary.generation

/-
  A context that its node may coordinate from, fresh or after
  an election; the flag for a final checkpoint is backed.
-/
structure Entry (node : NodeId) (context : Context)
    (committed : Option TrainingCheckpointManifest) : Prop where
  coordinator : context.coordinator = node
  shape : JobShape context.start
  shards : KnowsShards context
  final : context.finalCheckpointCommitted = true → ShardsFinal context ∧
    ∃ manifest, committed = some manifest ∧ ListsFinalModel context.start manifest

structure DriveInv (node : NodeId) (initial : Context) (drive : Drive) : Prop where
  entry : Entry node drive.context drive.committed
  job : SameJob initial.start drive.context.start
  completed : ∀ groupId ∈ drive.completed, ∃ group ∈ drive.context.start.groups,
    group.groupId = groupId ∧ drive.context.start.maxWindows ≤ shardGeneration drive.context group
  flagged : initial.finalCheckpointCommitted = true → drive.context.finalCheckpointCommitted = true
  counted : drive.context.finalCheckpointCommitted = true →
    initial.finalCheckpointCommitted = true ∨ finalCheckpointGeneration initial.start ≤
      drive.context.checkpointGeneration

section

variable {before after : TrainingStart}

theorem SameJob.jobShape (hSame : SameJob before after) (hShape : JobShape before) :
    JobShape after := by
  constructor
  · rw [hSame.groupIds]
    exact hShape.distinct
  · intro shard hShard
    rw [hSame.shards] at hShard
    rcases hShape.grouped shard hShard with ⟨group, hGroup, hId⟩
    rcases hSame.exists_group hGroup with ⟨group', hGroup', hKey⟩
    exact ⟨group', hGroup', (congrArg Prod.snd hKey).trans hId⟩

theorem SameJob.finalCheckpointGeneration_eq (hSame : SameJob before after) :
    finalCheckpointGeneration after = finalCheckpointGeneration before := by
  rw [finalCheckpointGeneration, finalCheckpointGeneration, hSame.maxWindows, hSame.checkpointEvery]

theorem SameJob.listsFinalModel (hSame : SameJob before after)
    (hLists : ListsFinalModel before manifest) : ListsFinalModel after manifest := by
  rw [ListsFinalModel, hSame.maxWindows, hSame.shards]
  exact hLists

end

theorem SameLedger.knowsShards (hSame : SameLedger before after) (hShards : KnowsShards before) :
    KnowsShards after := by
  constructor
  · intro shardId summary hSummary
    rw [hSame.summaries] at hSummary
    rcases hShards.keyed shardId summary hSummary with ⟨hKey, group, hGroup, hId⟩
    rcases hSame.job.exists_group hGroup with ⟨group', hGroup', hGroupKey⟩
    exact ⟨hKey, group', hGroup', (congrArg Prod.snd hGroupKey).trans hId⟩
  · intro group hGroup
    rcases hSame.job.symm.exists_group hGroup with ⟨group', hGroup', hGroupKey⟩
    have hId : group'.shardId = group.shardId := congrArg Prod.snd hGroupKey
    rw [hSame.summaries, ← hId]
    exact hShards.known group' hGroup'

theorem SameLedger.entry (hSame : SameLedger before after) (hEntry : Entry node before committed) :
    Entry node after committed := by
  refine ⟨hSame.coordinator.trans hEntry.coordinator, hSame.job.jobShape hEntry.shape,
    hSame.knowsShards hEntry.shards, ?_⟩
  intro hFlag
  rw [hSame.final] at hFlag
  rcases hEntry.final hFlag with ⟨hFinal, manifest, hSome, hLists⟩
  refine ⟨?_, manifest, hSome, hSame.job.listsFinalModel hLists⟩
  intro shardId summary hSummary
  rw [hSame.summaries] at hSummary
  rw [hSame.job.maxWindows]
  exact hFinal shardId summary hSummary

/- A turn that leaves the ledger alone keeps the invariant. -/
theorem DriveInv.of_sameLedger (hInv : DriveInv node initial drive)
    (hSame : SameLedger drive.context next.context) (hCompleted : next.completed = drive.completed)
    (hCommitted : next.committed = drive.committed) : DriveInv node initial next := by
  refine ⟨?_, hInv.job.trans hSame.job, ?_, ?_, ?_⟩
  · rw [hCommitted]
    exact hSame.entry hInv.entry
  · intro groupId hMem
    rw [hCompleted] at hMem
    rcases hInv.completed groupId hMem with ⟨group, hGroup, hId, hReached⟩
    rcases hSame.job.exists_group hGroup with ⟨group', hGroup', hKey⟩
    refine ⟨group', hGroup', (congrArg Prod.fst hKey).trans hId, ?_⟩
    have hShardId : group'.shardId = group.shardId := congrArg Prod.snd hKey
    rw [shardGeneration, hSame.summaries, hShardId, hSame.job.maxWindows]
    exact hReached
  · intro hFlag
    rw [hSame.final]
    exact hInv.flagged hFlag
  · intro hFlag
    rw [hSame.final] at hFlag
    rw [hSame.checkpoints]
    exact hInv.counted hFlag

----
-- What a Commit Adds
----

/- A manifest made of final shards lists the final model. -/
theorem listsFinalModel_of_shardsFinal
    (hShape : JobShape context.start) (hShards : KnowsShards context)
    (hManifest : manifest.shards = context.shardSummaries.values.map summaryShard)
    (hFinal : ShardsFinal context) : ListsFinalModel context.start manifest := by
  rw [ListsFinalModel, hManifest]
  constructor
  · intro shard hShard
    rcases List.mem_map.mp hShard with ⟨summary, hSummary, rfl⟩
    rw [mem_values_iff] at hSummary
    rcases hSummary with ⟨shardId, hSummary⟩
    exact hFinal shardId summary hSummary
  · intro expected hExpected
    rcases hShape.grouped expected hExpected with ⟨group, hGroup, hId⟩
    rcases hShards.known group hGroup with ⟨summary, hSummary⟩
    rcases hShards.keyed group.shardId summary hSummary with ⟨hKey, -⟩
    refine ⟨summaryShard summary, ?_, hKey.trans hId⟩
    apply List.mem_map_of_mem
    rw [mem_values_iff]
    exact ⟨group.shardId, hSummary⟩

theorem manifestIsFinal_iff
    (hManifest : manifest.shards = context.shardSummaries.values.map summaryShard) :
    manifestIsFinal context.start manifest = true ↔ finalCheckpointGeneration context.start ≤
      manifest.checkpointGeneration ∧
      ShardsFinal context := by
  simp only [manifestIsFinal, Bool.and_eq_true,
    decide_eq_true_eq, ge_iff_le, List.all_eq_true, hManifest, List.mem_map]
  refine and_congr_right fun _ => ⟨?_, ?_⟩
  · intro hAll shardId summary hSummary
    refine hAll (summaryShard summary) ⟨summary, ?_, rfl⟩
    rw [mem_values_iff]
    exact ⟨shardId, hSummary⟩
  · rintro hFinal - ⟨summary, hSummary, rfl⟩
    rw [mem_values_iff] at hSummary
    rcases hSummary with ⟨shardId, hSummary⟩
    exact hFinal shardId summary hSummary

namespace Commits

section

variable (hCommits : Commits before manifest after)
include hCommits

theorem shardsFinal_iff : ShardsFinal after ↔ ShardsFinal before := by
  rw [ShardsFinal, ShardsFinal, hCommits.summaries, hCommits.start]

theorem knowsShards (hShards : KnowsShards before) : KnowsShards after := by
  constructor
  · rw [hCommits.summaries, hCommits.start]
    exact hShards.keyed
  · rw [hCommits.summaries, hCommits.start]
    exact hShards.known

/- The flag is set by a final manifest, and stays set. -/
theorem final_iff : after.finalCheckpointCommitted = true ↔ before.finalCheckpointCommitted = true ∨
    finalCheckpointGeneration before.start ≤ after.checkpointGeneration ∧ ShardsFinal before := by
  rw [hCommits.final, Bool.or_eq_true, manifestIsFinal_iff hCommits.shards,
    hCommits.manifestGeneration, hCommits.generation]

end

theorem entry (hCommits : Commits before manifest after) (hEntry : Entry node before committed) :
    Entry node after (some manifest) := by
  refine ⟨hCommits.coordinator.trans hEntry.coordinator, ?_, hCommits.knowsShards hEntry.shards, ?_⟩
  · rw [hCommits.start]
    exact hEntry.shape
  · intro hFlag
    have hFinal : ShardsFinal before := by
      rcases hCommits.final_iff.mp hFlag with hBefore | ⟨-, hFinal⟩
      · exact (hEntry.final hBefore).1
      · exact hFinal
    refine ⟨hCommits.shardsFinal_iff.mpr hFinal, manifest, rfl, ?_⟩
    rw [hCommits.start]
    exact listsFinalModel_of_shardsFinal hEntry.shape hEntry.shards hCommits.shards hFinal

end Commits

theorem DriveInv.of_commits (hInv : DriveInv node initial drive)
    (hCommits : Commits drive.context manifest next.context)
    (hCompleted : next.completed = drive.completed) (hCommitted : next.committed = some manifest) :
    DriveInv node initial next := by
  refine ⟨?_, ?_, ?_, ?_, ?_⟩
  · rw [hCommitted]
    exact hCommits.entry hInv.entry
  · rw [hCommits.start]
    exact hInv.job
  · rw [hCompleted, hCommits.start]
    unfold shardGeneration
    rw [hCommits.summaries]
    exact hInv.completed
  · intro hFlag
    exact hCommits.final_iff.mpr (Or.inl (hInv.flagged hFlag))
  · intro hFlag
    rcases hCommits.final_iff.mp hFlag with hBefore | ⟨hEnough, -⟩
    · rcases hInv.counted hBefore with hInitial | hEnough
      · exact Or.inl hInitial
      · right
        rw [hCommits.generation]
        exact UInt64.le_trans hEnough (Saturating.le_add_left _ 1)
    · right
      rw [← hInv.job.finalCheckpointGeneration_eq]
      exact hEnough

----
-- What an Aggregate Adds
----

/- What an honest aggregate that was accepted is known for. -/
structure Accepted (context : Context) (group : TrainingGroup)
    (aggregate : TrainingAggregate) : Prop where
  mem : group ∈ context.start.groups
  shard : aggregate.shardId = group.shardId
  window : aggregate.window = aggregate.generation
  bounded : aggregate.window ≤ context.start.maxWindows
  newer : ∀ summary : TrainingShardSummary, context.shardSummaries[aggregate.shardId]? =
    some summary → summary.generation < aggregate.generation

theorem accepted_of_honest {turn : Turn} (hHonest : HonestTurn node drive turn)
    (hSome : acceptedAggregate drive turn = some (group, aggregate)) :
    Accepted drive.context group aggregate := by
  have hWindow := hHonest.1 group aggregate hSome
  unfold acceptedAggregate at hSome
  split at hSome
  · rename_i peer received hEvent
    split at hSome
    · cases hSome
    · rename_i found hFound
      split_ifs at hSome with hAccepted
      cases hSome
      simp only [aggregateRejected, Bool.or_eq_true, bne_iff_ne, decide_eq_true_eq, not_or, not_not,
        gt_iff_lt, UInt64.not_lt] at hAccepted
      rcases hAccepted with ⟨⟨⟨⟨-, hShard⟩, -⟩, hBounded⟩, hNewer⟩
      refine ⟨List.mem_of_find?_eq_some hFound, hShard, hWindow, hBounded, ?_⟩
      intro summary hSummary
      rw [hSummary] at hNewer
      simpa using hNewer
  · cases hSome

namespace Accepted

/- An accepted aggregate was still missing. -/
theorem not_shardsFinal (hAccepted : Accepted context group aggregate)
    (hShards : KnowsShards context) : ¬ ShardsFinal context := by
  intro hFinal
  rcases hShards.known group hAccepted.mem with ⟨summary, hSummary⟩
  have hReached := hFinal group.shardId summary hSummary
  rw [← hAccepted.shard] at hSummary
  have hNewer := hAccepted.newer summary hSummary
  have hBounded := hAccepted.bounded
  rw [hAccepted.window] at hBounded
  exact UInt64.not_lt.mpr (UInt64.le_trans hBounded hReached) hNewer

theorem summaries (context : Context) (aggregate : TrainingAggregate) (shardId : UInt16) :
    (acceptAggregate context aggregate).shardSummaries[shardId]? =
      if aggregate.shardId = shardId then
        some
          { shardId := aggregate.shardId
            generation := aggregate.generation
            stateHash := aggregate.stateArtifact
            providers := providers aggregate }
      else
        context.shardSummaries[shardId]? :=
  getElem?_insert

variable (hAccepted : Accepted context group aggregate)
include hAccepted

theorem knowsShards (hShards : KnowsShards context) :
    KnowsShards (acceptAggregate context aggregate) := by
  constructor
  · intro shardId summary hSummary
    rw [summaries] at hSummary
    split_ifs at hSummary with hId
    · cases hSummary
      exact ⟨hId, group, hAccepted.mem, hAccepted.shard.symm.trans hId⟩
    · exact hShards.keyed shardId summary hSummary
  · intro other hOther
    rw [summaries]
    split_ifs with hId
    · exact ⟨_, rfl⟩
    · exact hShards.known other hOther

/- No shard goes back, and the group's own gets there. -/
theorem shardGeneration_le {other : TrainingGroup} :
    shardGeneration context other ≤ shardGeneration (acceptAggregate context aggregate)
      other := by
  unfold shardGeneration
  rw [summaries]
  split_ifs with hId
  · cases hSummary : context.shardSummaries[other.shardId]? with
    | none => exact UInt64.zero_le
    | some summary =>
      rw [← hId] at hSummary
      exact UInt64.le_of_lt (hAccepted.newer summary hSummary)
  · exact UInt64.le_refl _

theorem shardGeneration_group : shardGeneration (acceptAggregate context aggregate) group =
    aggregate.generation := by
  unfold shardGeneration
  rw [summaries, if_pos hAccepted.shard]
  rfl

end Accepted

/-
  The context after an accepted aggregate.  The group is
  complete by its window and by its shard at the same time,
  since the two go together.
-/
theorem DriveInv.of_accepted (hInv : DriveInv node initial drive)
    (hAccepted : Accepted drive.context group aggregate) : DriveInv node initial { drive with
      context := acceptAggregate drive.context aggregate
      completed :=
  if aggregate.window ≥ drive.context.start.maxWindows then
    insert group.groupId drive.completed
  else
    drive.completed } := by
  have hUnset : drive.context.finalCheckpointCommitted ≠ true := by
    intro hFlag
    exact hAccepted.not_shardsFinal hInv.entry.shards (hInv.entry.final hFlag).1
  refine ⟨⟨hInv.entry.coordinator, hInv.entry.shape, hAccepted.knowsShards hInv.entry.shards, ?_⟩,
    hInv.job, ?_, hInv.flagged, ?_⟩
  · intro hFlag
    exact absurd hFlag hUnset
  · intro groupId hMem
    have hOld : groupId ∈ drive.completed → ∃ group ∈ drive.context.start.groups,
      group.groupId = groupId ∧ drive.context.start.maxWindows ≤ shardGeneration
        (acceptAggregate drive.context aggregate)
        group := by
      intro hMem
      rcases hInv.completed groupId hMem with ⟨other, hOther, hId, hReached⟩
      exact ⟨other, hOther, hId, UInt64.le_trans hReached (hAccepted.shardGeneration_le)⟩
    split_ifs at hMem with hLast
    · rcases Finset.mem_insert.mp hMem with rfl | hMem
      · refine ⟨group, hAccepted.mem, rfl, ?_⟩
        rw [hAccepted.shardGeneration_group, ← hAccepted.window]
        exact hLast
      · exact hOld hMem
    · exact hOld hMem
  · intro hFlag
    exact absurd hFlag hUnset

theorem DriveInv.of_afterAggregate (hInv : DriveInv node initial drive)
    (hAccepted : Accepted drive.context group aggregate)
    (hAfter : AfterAggregate drive aggregate next)
    (hCompleted : next.completed = if aggregate.window ≥ drive.context.start.maxWindows then insert
      group.groupId drive.completed else drive.completed) : DriveInv node initial next := by
  have hInstalled := hInv.of_accepted hAccepted
  unfold AfterAggregate at hAfter
  split_ifs at hAfter
  · rcases hAfter with ⟨manifest, hCommits, hSome⟩
    exact hInstalled.of_commits hCommits hCompleted hSome
  · rcases hAfter with ⟨hLedger, hSame⟩
    exact hInstalled.of_sameLedger hLedger hCompleted hSame

/- What a turn does to the number of commits. -/
theorem AfterAggregate.checkpointGeneration (hAfter : AfterAggregate drive aggregate next) :
    next.context.checkpointGeneration =
      if checkpointDue (acceptAggregate drive.context aggregate) aggregate then
        Saturating.add drive.context.checkpointGeneration 1
      else
        drive.context.checkpointGeneration := by
  unfold AfterAggregate at hAfter
  split_ifs at hAfter ⊢
  · rcases hAfter with ⟨manifest, hCommits, -⟩
    exact hCommits.generation
  · exact hAfter.1.checkpoints

theorem DriveInv.step (digest : Digest) (node : NodeId) (initial : Context) (drive next : Drive)
    (turn : Turn) (hInv : DriveInv node initial drive) (hHonest : HonestTurn node drive turn)
    (hStep : driveStep digest node drive turn = some next) : DriveInv node initial next ∧
      next.context.checkpointGeneration =
        if commitsCheckpoint drive turn then
          Saturating.add drive.context.checkpointGeneration 1
        else
          drive.context.checkpointGeneration := by
  rw [driveStep_eq_some_iff] at hStep
  rcases handleTurn_running digest node hInv.entry.coordinator hInv.entry.shape.distinct hHonest
    hStep.2 with
    ⟨group, aggregate, hSome, hAfter, hCompleted⟩ | ⟨hNone, hLedger, hCompleted, hCommitted⟩
  · have hAccepted := accepted_of_honest hHonest hSome
    refine ⟨hInv.of_afterAggregate hAccepted hAfter hCompleted, ?_⟩
    rw [commitsCheckpoint, hSome]
    exact hAfter.checkpointGeneration
  · refine ⟨hInv.of_sameLedger hLedger hCompleted hCommitted, ?_⟩
    rw [commitsCheckpoint, hNone]
    exact hLedger.checkpoints

----
-- Whole Drives
----

/- The commits of a run are the turns that make one due. -/
theorem drive_run (digest : Digest) (node : NodeId) (initial : Context) (drive last : Drive)
    (turns : List Turn) (hInv : DriveInv node initial drive)
    (hHonest : Meets (driveStep digest node) (HonestTurn node) drive turns)
    (hRun : run (driveStep digest node) drive turns = some last) :
    DriveInv node initial last ∧ last.context.checkpointGeneration.toNat = min 18446744073709551615
      (drive.context.checkpointGeneration.toNat + count (driveStep digest node)
        commitsCheckpoint drive turns) := by
  induction turns generalizing drive with
  | nil =>
    cases hRun
    refine ⟨hInv, ?_⟩
    have hBound := last.context.checkpointGeneration.toNat_lt
    rw [count]
    omega
  | cons turn turns ih =>
    rcases run_cons_eq_some_iff.mp hRun with ⟨next, hNext, hRest⟩
    rcases DriveInv.step digest node initial drive next turn
      hInv hHonest.1 hNext with ⟨hInv', hGeneration⟩
    rcases ih next hInv' (hHonest.2 next hNext) hRest with ⟨hLast, hCount⟩
    refine ⟨hLast, ?_⟩
    rw [count, hNext, hCount, hGeneration]
    split_ifs
    · rw [Saturating.toNat_add]
      change min _ (min _ (_ + 1) + _) = min _ (_ + (1 + _))
      omega
    · dsimp only
      omega

theorem DriveInv.start (digest : Digest) (node : NodeId) (env : DriveEnv) (context : Context)
    (committed : Option TrainingCheckpointManifest) (hEntry : Entry node context committed) :
    DriveInv node context (driveStart digest node env context committed) ∧
      (driveStart digest node env context committed).context.checkpointGeneration =
        context.checkpointGeneration := by
  have hDispatched := dispatchGroups_trace (sameLedger_workTrace node) digest env.dispatch context
    context.start.groups
  have hSame : SameLedger context (driveStart digest node env context committed).context :=
    .trans hDispatched ⟨rfl, .refl _, rfl, rfl, rfl⟩
  refine ⟨⟨hSame.entry hEntry, hSame.job, ?_, ?_, ?_⟩, hSame.checkpoints⟩
  · intro groupId hMem
    rcases List.mem_map.mp (List.mem_toFinset.mp hMem) with ⟨group, hGroup, hId⟩
    rcases List.mem_filter.mp hGroup with ⟨hGroup, hReached⟩
    exact ⟨group, hGroup, hId, of_decide_eq_true hReached⟩
  · intro hFlag
    rw [hSame.final]
    exact hFlag
  · intro hFlag
    rw [hSame.final] at hFlag
    exact Or.inl hFlag

/- As many completed groups as there are groups: all of them. -/
theorem DriveInv.shardsFinal (hInv : DriveInv node initial drive) (hDone : driveDone drive = true) :
    ShardsFinal drive.context := by
  let groupIds := (drive.context.start.groups.map TrainingGroup.groupId).toFinset
  have hSubset : drive.completed ⊆ groupIds := by
    intro groupId hMem
    rcases hInv.completed groupId hMem with ⟨group, hGroup, hId, -⟩
    rw [List.mem_toFinset, ← hId]
    exact List.mem_map_of_mem hGroup
  have hCard : groupIds.card ≤ drive.completed.card := by
    rw [List.toFinset_card_of_nodup hInv.entry.shape.distinct, List.length_map]
    exact of_decide_eq_true hDone
  have hAll : drive.completed = groupIds := Finset.eq_of_subset_of_card_le hSubset hCard
  intro shardId summary hSummary
  rcases hInv.entry.shards.keyed shardId summary hSummary with ⟨-, group, hGroup, hShard⟩
  have hMem : group.groupId ∈ drive.completed := by
    rw [hAll, List.mem_toFinset]
    exact List.mem_map_of_mem hGroup
  rcases hInv.completed group.groupId hMem with ⟨group', hGroup', hId, hReached⟩
  have hSame : group' = group := List.inj_on_of_nodup_map hInv.entry.shape.distinct hGroup'
    hGroup hId
  rw [hSame, shardGeneration, hShard, hSummary] at hReached
  exact hReached

theorem allShardsReachedFinalGeneration_of_shardsFinal (hShape : JobShape context.start)
    (hShards : KnowsShards context) (hFinal : ShardsFinal context) :
    allShardsReachedFinalGeneration context = true := by
  rw [allShardsReachedFinalGeneration, List.all_eq_true]
  intro expected hExpected
  rcases hShape.grouped expected hExpected with ⟨group, hGroup, hId⟩
  rcases hShards.known group hGroup with ⟨summary, hSummary⟩
  rw [hId] at hSummary
  rw [hSummary]
  exact decide_eq_true (hFinal expected.shardId summary hSummary)

/- The flag is set, and the last manifest bears it out. -/
def FinalModelCommitted (start : TrainingStart) (drive : Drive) : Prop :=
  drive.context.finalCheckpointCommitted = true ∧ ∃ manifest, drive.committed = some manifest ∧
    ListsFinalModel start manifest

theorem DriveInv.finalModelCommitted_iff (hInv : DriveInv node initial drive) :
    FinalModelCommitted initial.start drive ↔ drive.context.finalCheckpointCommitted = true := by
  refine ⟨And.left, ?_⟩
  intro hFlag
  rcases hInv.entry.final hFlag with ⟨-, manifest, hSome, hLists⟩
  exact ⟨hFlag, manifest, hSome, hInv.job.symm.listsFinalModel hLists⟩

/- The commit that ends the job counts as one more. -/
theorem driveFinish_final_iff {env : CommitEnv} {last : Drive} (hInv : DriveInv node initial last)
    (hDone : driveDone last = true)
    (hFinished : (driveFinish digest node env last).result = .ok .finished) :
    FinalModelCommitted initial.start (driveFinish digest node env last).drive ↔
      initial.finalCheckpointCommitted = true ∨ (finalCheckpointGeneration initial.start).toNat ≤
        last.context.checkpointGeneration.toNat + 1 := by
  have hFinal := hInv.shardsFinal hDone
  have hReached := allShardsReachedFinalGeneration_of_shardsFinal hInv.entry.shape
    hInv.entry.shards hFinal
  unfold driveFinish at hFinished ⊢
  rw [hReached, Bool.true_and] at hFinished ⊢
  cases hFlag : last.context.finalCheckpointCommitted with
  | true =>
    simp only [Bool.not_true, Bool.false_eq_true, if_false]
    rw [hInv.finalModelCommitted_iff]
    refine iff_of_true hFlag ?_
    rcases hInv.counted hFlag with hInitial | hEnough
    · exact Or.inl hInitial
    · right
      rw [UInt64.le_iff_toNat_le] at hEnough
      omega
  | false =>
    simp only [hFlag, Bool.not_false, if_true] at hFinished ⊢
    have hUnset : initial.finalCheckpointCommitted ≠ true := by
      intro hInitial
      rw [hInv.flagged hInitial] at hFlag
      cases hFlag
    split at hFinished
    · cases hFinished
    · rename_i manifest hManifest
      have hCommits := commitContextCheckpoint_ok digest node hManifest
      have hAfter : DriveInv node initial { last with
        context := (commitContextCheckpoint digest node env last.context).context
        committed := some manifest
        log := last.log ++ (commitContextCheckpoint digest node env last.context).effects } :=
        hInv.of_commits hCommits rfl rfl
      rw [hAfter.finalModelCommitted_iff, hCommits.final_iff, hCommits.generation,
        UInt64.le_iff_toNat_le, Saturating.toNat_add, hInv.job.finalCheckpointGeneration_eq]
      have hBound := (finalCheckpointGeneration initial.start).toNat_lt
      constructor
      · rintro (hBefore | ⟨hEnough, -⟩)
        · rw [hFlag] at hBefore
          cases hBefore
        · right
          change _ ≤ min _ (_ + 1) at hEnough
          omega
      · rintro (hInitial | _)
        · exact absurd hInitial hUnset
        · refine Or.inr ⟨?_, hFinal⟩
          change _ ≤ min _ (_ + 1)
          omega

----
-- Finished Jobs
----

section

variable {jobId : JobId} {request : JobRequest}
variable {workers : List NodeId} {assignment : TrainingShardAssignment}

theorem jobShape_workerStart :
    JobShape (workerStart digest node jobId request workers assignment) := by
  constructor
  · change ((makeGroups workers).map TrainingGroup.groupId).Nodup
    match workers with
    | [] => decide
    | [only] => simp [makeGroups, groupMembers]
    | first :: second :: others => simp [makeGroups_cons_cons]
  · intro shard hShard
    rcases List.mem_map.mp hShard with ⟨group, hGroup, rfl⟩
    exact ⟨group, hGroup, rfl⟩

/- The coordinator of a new job may start driving it. -/
theorem entry_new :
    Entry node (Context.new (workerStart digest node jobId request workers assignment) .coordinator)
      none := by
  refine ⟨rfl, jobShape_workerStart, ⟨?_, ?_⟩, fun hFlag => by cases hFlag⟩
  · intro shardId summary hSummary
    rcases getElem?_insertAll _ _ _ _ hSummary with ⟨shard, hShard, hId, rfl⟩ | hEmpty
    · rcases List.mem_map.mp hShard with ⟨group, hGroup, rfl⟩
      exact ⟨hId, group, hGroup, hId⟩
    · simp at hEmpty
  · intro group hGroup
    exact exists_getElem?_insertAll_of_mem
      TrainingShardAssignment.shardId initialSummary ∅ _ (List.mem_map_of_mem hGroup)

end

/-
  A job that finishes has a committed final model exactly if
  it had one before, or if the commits of its turns and the
  one after them are enough for a final generation.
-/
theorem finished_final_iff (digest : Digest) (node : NodeId) (env : DriveEnv) (context : Context)
    (committed : Option TrainingCheckpointManifest) (turns : List Turn)
    (hEntry : Entry node context committed)
    (hHonest : Meets (driveStep digest node) (HonestTurn node)
      (driveStart digest node env context committed) turns)
    (hFinished :
      (driveAutonomousCoordinator digest node env context committed turns).result = .ok .finished) :
    FinalModelCommitted context.start
      (driveAutonomousCoordinator digest node env context committed turns).drive ↔
      context.finalCheckpointCommitted = true ∨ (finalCheckpointGeneration context.start).toNat ≤
        context.checkpointGeneration.toNat + count (driveStep digest node)
          commitsCheckpoint (driveStart digest node env context committed) turns + 1 := by
  unfold driveAutonomousCoordinator at hFinished ⊢
  split_ifs at hFinished ⊢
  rcases DriveInv.start digest node env context committed hEntry with ⟨hStart, hGeneration⟩
  rcases driveLoop_finished digest node env.commit _ turns hFinished with
    ⟨taken, rest, last, rfl, hRun, hDone, hSame⟩
  rcases drive_run digest node context _ last taken hStart (meets_of_append hHonest) hRun with
    ⟨hInv, hCount⟩
  have hStopped : ∀ turn, driveStep digest node last turn = none := by
    intro turn
    rw [driveStep, if_pos hDone]
  rw [count_of_stopped hRun hStopped]
  rw [hSame] at hFinished ⊢
  rw [driveFinish_final_iff hInv hDone hFinished, hCount, hGeneration]
  have hBound := (finalCheckpointGeneration context.start).toNat_lt
  refine or_congr_right ?_
  omega

/- Nothing fails, and all workers acknowledge a manifest. -/
def quietCommit (manifestHash : ArtifactId) : CommitEnv where
  checkpointWritten := true
  stateWritten := true
  acks := smallWorkers.map (acknowledgement 1 (.checkpoint manifestHash))

def quietDispatch (_groupId : UInt16) : DispatchEnv where
  round := ⟨[], true, true, fun _ => true, fun _ => [], true⟩
  updateSent := true

def quietDrive : DriveEnv := ⟨true, quietDispatch, quietCommit ⟨0⟩⟩

def aggregateTurn (manifestHash : ArtifactId) (aggregate : TrainingAggregate) : Turn where
  event := .message aggregate.aggregator (.aggregate aggregate)
  connected := fun _ => true
  reconnected := fun _ => true
  stateWritten := true
  commit := quietCommit manifestHash
  dispatch := quietDispatch

theorem honest_aggregateTurns {manifestHash : ArtifactId} {aggregates : List TrainingAggregate}
    (hWindows : ∀ aggregate ∈ aggregates, aggregate.window = aggregate.generation) :
    Meets (driveStep digest node) (HonestTurn node)
      drive (aggregates.map (aggregateTurn manifestHash)) := by
  apply meets_of_forall_moment
  intro earlier turn later middle hSplit _
  have hTurn : turn ∈ aggregates.map (aggregateTurn manifestHash) := by
    simp [hSplit]
  rcases List.mem_map.mp hTurn with ⟨aggregate, hMem, rfl⟩
  refine ⟨?_, fun peer state hEvent => by cases hEvent⟩
  intro group accepted hAccepted
  have hSame : aggregate = accepted := by
    unfold acceptedAggregate at hAccepted
    dsimp only [aggregateTurn] at hAccepted
    split at hAccepted
    · cases hAccepted
    · split_ifs at hAccepted
      cases hAccepted
      rfl
  rw [← hSame]
  exact hWindows aggregate hMem

/-
  All aggregates of even windows reach the coordinator.  The
  fifth commit, when both groups have finished, is final.
-/
def evenAggregates : List TrainingAggregate :=
  [smallAggregate 0 ⟨1⟩ 2, smallAggregate 1 ⟨2⟩ 2, smallAggregate 0 ⟨1⟩ 4, smallAggregate 1 ⟨2⟩ 4,
    smallAggregate 0 ⟨1⟩ 6, smallAggregate 1 ⟨2⟩ 6]

theorem finished_final_small : (driveAutonomousCoordinator smallDigest ⟨9⟩ quietDrive
    (Context.new (smallStart 0) .coordinator) none
    (evenAggregates.map (aggregateTurn ⟨5007⟩))).result = .ok .finished ∧
    FinalModelCommitted (smallStart 0) (driveAutonomousCoordinator smallDigest ⟨9⟩ quietDrive
      (Context.new (smallStart 0) .coordinator) none
      (evenAggregates.map (aggregateTurn ⟨5007⟩))).drive := by
  refine ⟨by rfl, ?_⟩
  refine (finished_final_iff smallDigest ⟨9⟩ quietDrive
    (.new (smallStart 0) .coordinator) none _ entry_new (honest_aggregateTurns (by decide))
    (by rfl)).mpr (Or.inr ?_)
  decide

/-
  Only the last aggregate of each group arrives.  The job has
  two commits where a final one is the third, and is reported
  as finished without a final checkpoint.
-/
theorem finished_without_final : ∃ turns, Entry ⟨9⟩ (Context.new (smallStart 0) .coordinator) none ∧
    Meets (driveStep smallDigest ⟨9⟩) (HonestTurn ⟨9⟩)
      (driveStart smallDigest ⟨9⟩ quietDrive (Context.new (smallStart 0) .coordinator) none)
      turns ∧
    (driveAutonomousCoordinator smallDigest ⟨9⟩ quietDrive
      (Context.new (smallStart 0) .coordinator) none turns).result = .ok .finished ∧
    ¬ FinalModelCommitted (smallStart 0) (driveAutonomousCoordinator smallDigest ⟨9⟩ quietDrive
      (Context.new (smallStart 0) .coordinator) none turns).drive := by
  refine ⟨[smallAggregate 0 ⟨1⟩ 6, smallAggregate 1 ⟨2⟩ 6].map (aggregateTurn ⟨1007⟩), entry_new,
    honest_aggregateTurns (by decide), by rfl, ?_⟩
  rintro ⟨hFlag, -⟩
  cases hFlag

end IntelligenceNetwork.Training
