import IntelligenceNetwork.Training.WorkerRun

/-
  Whether a worker's progress can move backwards.

  Most handlers compare before they assign.  Three do not: a
  state of a newer term brings its window along, a commit brings
  its shards along, and a window makes its aggregator continue
  from the window's base.

  Main declarations:
    * `Progress`
    * `NoOlder`
    * `worker_progress`
-/

----
-- Progress
----

namespace IntelligenceNetwork.Training

open Transition OrderedMap

variable {after before context : Context} {state : TrainingState} {peer : NodeId} {digest : Digest}
variable {window : TrainingWindow} {env : Env}

/- No shard is forgotten, and none is known less well. -/
def SummariesAdvance (before after : Std.TreeMap UInt16 TrainingShardSummary) : Prop :=
  ∀ (shardId : UInt16) (known : TrainingShardSummary), before[shardId]? = some known →
    ∃ newer : TrainingShardSummary, after[shardId]? = some newer ∧
      known.generation ≤ newer.generation

structure Progress (before after : Context) : Prop where
  term : before.term ≤ after.term
  window : before.window ≤ after.window
  checkpointGeneration : before.checkpointGeneration ≤ after.checkpointGeneration
  generation : before.generation ≤ after.generation
  summaries : SummariesAdvance before.shardSummaries after.shardSummaries

namespace SummariesAdvance

theorem refl (summaries : Std.TreeMap UInt16 TrainingShardSummary) :
    SummariesAdvance summaries summaries := by
  intro shardId known hKnown
  exact ⟨known, hKnown, by grind⟩

theorem trans {first second third : Std.TreeMap UInt16 TrainingShardSummary}
    (hFirst : SummariesAdvance first second) (hSecond : SummariesAdvance second third) :
    SummariesAdvance first third := by
  intro shardId known hKnown
  rcases hFirst shardId known hKnown with ⟨middle, hMiddle, _⟩
  rcases hSecond shardId middle hMiddle with ⟨newer, hNewer, _⟩
  exact ⟨newer, hNewer, by grind⟩

/- Inserting a summary that is no older is an advance. -/
theorem insert (summaries : Std.TreeMap UInt16 TrainingShardSummary) (shardId : UInt16)
    (summary : TrainingShardSummary)
    (hNoOlder : ∀ known : TrainingShardSummary, summaries[shardId]? = some known →
      known.generation ≤ summary.generation) :
    SummariesAdvance summaries (summaries.insert shardId summary) := by
  intro other known hKnown
  by_cases hSame : shardId = other
  · subst hSame
    refine ⟨summary, ?_, hNoOlder known hKnown⟩
    simp
  · refine ⟨known, ?_, by grind⟩
    rw [getElem?_insert, if_neg hSame]
    exact hKnown

end SummariesAdvance

namespace Progress

theorem refl (context : Context) : Progress context context :=
  ⟨by grind, by grind, by grind, by grind, .refl _⟩

theorem trans {first second third : Context} (hFirst : Progress first second)
    (hSecond : Progress second third) : Progress first third := by
  refine ⟨?_, ?_, ?_, ?_, hFirst.summaries.trans hSecond.summaries⟩
  · have := hFirst.term
    have := hSecond.term
    grind
  · have := hFirst.window
    have := hSecond.window
    grind
  · have := hFirst.checkpointGeneration
    have := hSecond.checkpointGeneration
    grind
  · have := hFirst.generation
    have := hSecond.generation
    grind

end Progress

/- Bookkeeping leaves progress as it is. -/
theorem OnlyBookkeeping.progress (hOnly : OnlyBookkeeping before after) :
    Progress before after := by
  rcases hOnly with ⟨_, _, _, _, _, rfl⟩
  have hRefl := Progress.refl before
  exact ⟨hRefl.term, hRefl.window, hRefl.checkpointGeneration, hRefl.generation, hRefl.summaries⟩

----
-- States and Commits
----

theorem advanceSummary_advances (summaries : Std.TreeMap UInt16 TrainingShardSummary)
    (shard : TrainingShardSummary) :
    SummariesAdvance summaries (advanceSummary summaries shard) := by
  unfold advanceSummary
  split_ifs with hNewer
  · apply SummariesAdvance.insert
    intro known hKnown
    rw [hKnown] at hNewer
    grind
  · exact .refl summaries

theorem foldl_advanceSummary_advances {shards : List TrainingShardSummary}
    (summaries : Std.TreeMap UInt16 TrainingShardSummary) :
    SummariesAdvance summaries (shards.foldl advanceSummary summaries) := by
  induction shards generalizing summaries with
  | nil => exact .refl summaries
  | cons shard shards ih =>
    exact (advanceSummary_advances summaries shard).trans (ih (advanceSummary summaries shard))

theorem adoptedCheckpoint_advances :
    context.checkpointGeneration ≤ (adoptedCheckpoint context state).1 := by
  unfold adoptedCheckpoint
  split_ifs
  · grind
  · grind
  · grind

/- A state is no step back if its window is none. -/
theorem adoptState_progress (hAccepted : stateRejected context peer state = false)
    (hWindow : context.window ≤ state.window) : Progress context (adoptState context state) where
  term := by
    simp [stateRejected] at hAccepted
    change context.term ≤ state.term
    grind
  window := hWindow
  checkpointGeneration := adoptedCheckpoint_advances
  generation := by
    change context.generation ≤ context.generation
    grind
  summaries := foldl_advanceSummary_advances context.shardSummaries

/- The shards of a manifest are no older than those known. -/
def ShardsNoOlder (summaries : Std.TreeMap UInt16 TrainingShardSummary)
    (shards : List TrainingCheckpointShard) : Prop :=
  ∀ shard ∈ shards, ∀ known : TrainingShardSummary, summaries[shard.shardId]? = some known →
    known.generation ≤ shard.generation

/-
  A commit's shards replace the known ones, the last of equal
  shard identifiers prevailing.
-/
theorem insertAll_committed_advances {shards : List TrainingCheckpointShard}
    {summaries : Std.TreeMap UInt16 TrainingShardSummary}
    (hNoOlder : ShardsNoOlder summaries shards) :
    SummariesAdvance summaries
      (insertAll TrainingCheckpointShard.shardId committedSummary summaries shards) := by
  intro shardId known hKnown
  rcases exists_getElem?_insertAll TrainingCheckpointShard.shardId committedSummary summaries
    shards known hKnown with ⟨newer, hNewer⟩
  refine ⟨newer, hNewer, ?_⟩
  rcases getElem?_insertAll TrainingCheckpointShard.shardId committedSummary summaries
    shards hNewer with
    ⟨shard, hMem, hKey, hValue⟩ | hOld
  · subst hKey
    subst hValue
    exact hNoOlder shard hMem known hKnown
  · rw [hKnown] at hOld
    cases hOld
    grind

theorem adoptCommit_progress {commit : TrainingCheckpointCommit}
    (hAccepted : commitRejected digest context peer commit = false)
    (hShards : ShardsNoOlder context.shardSummaries commit.manifest.shards) :
    Progress context (adoptCommit context commit) where
  term := by
    simp [commitRejected] at hAccepted
    change context.term ≤ commit.term
    grind
  window := Saturating.le_max_left _ _
  checkpointGeneration := by
    simp [commitRejected] at hAccepted
    change context.checkpointGeneration ≤ commit.manifest.checkpointGeneration
    grind
  generation := by
    change context.generation ≤ context.generation
    grind
  summaries := insertAll_committed_advances hShards

----
-- Windows
----

/- The generation that comes after a window's base. -/
def windowGeneration (window : TrainingWindow) : UInt64 :=
  Saturating.add window.baseGeneration 1

/-
  A window continues from no older state than the one its
  aggregator has: neither of its own shard, nor as far as it
  knows of the window's shard and of the group's.
-/
structure WindowNoOlder (context : Context) (group : TrainingGroup)
    (window : TrainingWindow) : Prop where
  generation : context.generation ≤ windowGeneration window
  windowShard : ∀ known : TrainingShardSummary,
    context.shardSummaries[window.shardId]? = some known →
      known.generation ≤ windowGeneration window
  groupShard : ∀ known : TrainingShardSummary, context.shardSummaries[group.shardId]? = some known →
    known.generation ≤ windowGeneration window

theorem OnlyBookkeeping.windowNoOlder {group : TrainingGroup}
    (hOnly : OnlyBookkeeping before after) (hNoOlder : WindowNoOlder before group window) :
    WindowNoOlder after group window := by
  rcases hOnly with ⟨_, _, _, _, _, rfl⟩
  exact ⟨hNoOlder.generation, hNoOlder.windowShard, hNoOlder.groupShard⟩

theorem adoptShardState_progress {state : TrainingShardState}
    (hGeneration : context.generation ≤ state.generation) :
    Progress context (adoptShardState context state) := by
  have hRefl := Progress.refl context
  exact ⟨hRefl.term, hRefl.window, hRefl.checkpointGeneration, hGeneration, hRefl.summaries⟩

section

variable (digest : Digest) (node : NodeId) (round : Round) (context : Context)
variable (group : TrainingGroup) (window : TrainingWindow)

/- What an aggregator reports belongs to the window. -/
theorem collectGroupUpdates_aggregate (aggregate : TrainingAggregate) (hAggregate :
    (collectGroupUpdates digest node round context group window).result = .ok aggregate) :
    aggregate.generation = windowGeneration window ∧ aggregate.shardId = window.shardId := by
  rcases collectGroupUpdates_context with ⟨-, hNone⟩ | ⟨waited, state, -, -, hState, hOk⟩
  · exact absurd hAggregate (hNone aggregate)
  · rcases hOk aggregate hAggregate with ⟨hGen, hShard⟩
    exact ⟨hGen.trans hState, hShard⟩

/-
  Collecting a window that is no older is no step back, and
  the window stays no older.
-/
theorem collectGroupUpdates_progress (hNoOlder : WindowNoOlder context group window) :
    Progress context (collectGroupUpdates digest node round context group window).context ∧
      WindowNoOlder (collectGroupUpdates digest node round context group window).context
        group window := by
  rcases collectGroupUpdates_context with ⟨hOnly, -⟩ | ⟨waited, state, hOnly, hContext, hState, -⟩
  · exact ⟨hOnly.progress, hOnly.windowNoOlder hNoOlder⟩
  · have hWaited := hOnly.windowNoOlder hNoOlder
    rw [hContext]
    refine ⟨hOnly.progress.trans (adoptShardState_progress ?_), ?_⟩
    · rw [hState]
      exact hWaited.generation
    · refine ⟨?_, hWaited.windowShard, hWaited.groupShard⟩
      change state.generation ≤ windowGeneration window
      rw [hState, windowGeneration]
      grind

end

section

variable (context : Context)

section

variable {group : TrainingGroup} {window : TrainingWindow} {aggregate : TrainingAggregate}

theorem installAggregate_progress (hNoOlder : WindowNoOlder context group window)
    (hGeneration : aggregate.generation = windowGeneration window)
    (hShard : aggregate.shardId = window.shardId) :
    Progress context (installAggregate context window aggregate) := by
  have hRefl := Progress.refl context
  refine ⟨hRefl.term, Saturating.le_max_left _ _, hRefl.checkpointGeneration, ?_, ?_⟩
  · change context.generation ≤ aggregate.generation
    rw [hGeneration]
    exact hNoOlder.generation
  · apply SummariesAdvance.insert
    intro known hKnown
    rw [hGeneration]
    rw [hShard] at hKnown
    exact hNoOlder.windowShard known hKnown

/-
  The window that follows an aggregate continues from it, so
  it is no older than what the aggregator installed.
-/
theorem installAggregate_windowNoOlder {next : TrainingWindow}
    (hNoOlder : WindowNoOlder context group window)
    (hGeneration : aggregate.generation = windowGeneration window)
    (hBase : next.baseGeneration = aggregate.generation) (hNext : next.shardId = group.shardId) :
    WindowNoOlder (installAggregate context window aggregate) group
      next := by
  have hLater : aggregate.generation ≤ windowGeneration next := by
    rw [windowGeneration, hBase]
    exact Saturating.le_add_left _ _
  have hGroup : ∀ known : TrainingShardSummary,
    (installAggregate context window aggregate).shardSummaries[group.shardId]? = some known →
    known.generation ≤ windowGeneration next := by
    intro known hKnown
    rcases getElem?_of_insert hKnown with ⟨-, rfl⟩ | hKnown
    · exact hLater
    · have hOld := hNoOlder.groupShard known hKnown
      grind
  refine ⟨hLater, ?_, hGroup⟩
  rw [hNext]
  exact hGroup

end

/- Window after window, an aggregator only advances. -/
theorem aggregateWindows_progress (digest : Digest) (node : NodeId) (rounds : Nat → Round)
    (group : TrainingGroup) (fuel index : Nat) (context : Context) (window : TrainingWindow)
    (hNoOlder : WindowNoOlder context group window) :
    Progress context
      (aggregateWindows digest node rounds group fuel index context window).context := by
  induction fuel generalizing index context window with
  | zero => exact .refl context
  | succ fuel ih =>
    have hCollected := collectGroupUpdates_progress digest node
      (rounds index) context group window hNoOlder
    unfold aggregateWindows
    dsimp only
    split
    · exact hCollected.1
    · rename_i aggregate hAggregate
      rcases collectGroupUpdates_aggregate digest node (rounds index) context group window aggregate
        hAggregate with ⟨hGeneration, hShard⟩
      have hInstalled := installAggregate_progress _ hCollected.2 hGeneration hShard
      split_ifs
      · exact hCollected.1.trans hInstalled
      · exact hCollected.1.trans (hInstalled.trans (ih _ _ _
          (installAggregate_windowNoOlder _ hCollected.2 hGeneration rfl rfl)))

/-
  What keeps a window from taking its aggregator back: it is
  no older than what the aggregator has.  Other members only
  compute for it.
-/
def AggregatorNoOlder (node : NodeId) (context : Context) (window : TrainingWindow) : Prop :=
  node = window.aggregator → ∀ base, groupFor context.start window.groupId = some base →
    WindowNoOlder context ⟨base.groupId, base.shardId, window.members, window.aggregator⟩ window

theorem runWindow_progress {node : NodeId} {context : Context}
    (hNoOlder : AggregatorNoOlder node context window) :
    Progress context (runWindow digest node env context window).context := by
  unfold runWindow
  split_ifs with hAggregator
  · split
    · exact .refl context
    · rename_i base hBase
      exact aggregateWindows_progress digest node env.rounds
        _ _ 0 context window
        (hNoOlder hAggregator base hBase)
  · unfold computeAndSendUpdate
    split_ifs
    · exact .refl context
    · exact .refl context

theorem enterWindow_progress : Progress context (enterWindow context window) := by
  have hRefl := Progress.refl context
  exact ⟨hRefl.term, Saturating.le_max_left _ _, hRefl.checkpointGeneration, hRefl.generation,
    hRefl.summaries⟩

theorem adoptWindowTerm_progress (hTerm : window.term > context.term) :
    Progress context (adoptWindowTerm context window) := by
  have hRefl := Progress.refl context
  refine ⟨?_, hRefl.window, hRefl.checkpointGeneration, hRefl.generation, hRefl.summaries⟩
  change context.term ≤ window.term
  grind

end

----
-- Runs
----

/-
  The event does not ask the worker to go back: an accepted
  state names no older window, an accepted commit no older
  shards, and an accepted window continues from no older
  state.
-/
def NoOlder (digest : Digest) (node : NodeId) (state : WorkerState) : WorkerEvent → Prop
| .message _ peer (.state announced) =>
  stateRejected state.context peer announced = false → state.context.window ≤ announced.window
| .message _ peer (.checkpointCommit commit) =>
  commitRejected digest state.context peer commit = false →
    ShardsNoOlder state.context.shardSummaries commit.manifest.shards
| .message _ peer (.window window) =>
  windowRejected node state.context peer window = false →
    AggregatorNoOlder node state.context window
| _ => True

section

variable {digest : Digest} {node : NodeId}

theorem Handles.progress {state : WorkerState} {message : TrainingMessage} {effects : List Effect}
    (hHandles : Handles digest node env state.context peer message after effects)
    (hNoOlder : NoOlder digest node state (.message env peer message)) :
    Progress state.context after := by
  cases hHandles with
  | keeps _ hOnly _ => exact hOnly.progress
  | votes election => exact (handleElection_bookkeeping node state.context peer election).progress
  | adoptsShard hAccepted _ =>
    apply adoptShardState_progress
    simp [shardStateRejected] at hAccepted
    grind
  | adoptsState hAccepted _ =>
    exact adoptState_progress hAccepted (hNoOlder hAccepted)
  | commits hAccepted _ _ =>
    exact adoptCommit_progress hAccepted (hNoOlder hAccepted)
  | entersTerm _ hTerm => exact adoptWindowTerm_progress state.context hTerm
  | @runs window opened _ hAccepted hOpens =>
    have hOpened : Progress state.context opened ∧ AggregatorNoOlder node opened window := by
      rcases hOpens with ⟨rfl, -⟩ | ⟨hTerm, rfl, -⟩
      · exact ⟨.refl _, hNoOlder hAccepted⟩
      · refine ⟨adoptWindowTerm_progress state.context hTerm, ?_⟩
        intro hAggregator base hBase
        have hBefore := hNoOlder hAccepted hAggregator base hBase
        exact ⟨hBefore.generation, hBefore.windowShard, hBefore.groupShard⟩
    refine (hOpened.1.trans (enterWindow_progress opened)).trans (runWindow_progress ?_)
    -- entering a window does not touch what it is compared to
    intro hAggregator base hBase
    have hBefore := hOpened.2 hAggregator base hBase
    exact ⟨hBefore.generation, hBefore.windowShard, hBefore.groupShard⟩

variable (digest node)

/-
  In every run of a worker whose events never ask it to go
  back, progress between any two moments of the run is an
  advance; taking `later` as one event, so is every step.
-/
theorem worker_progress (start : TrainingStart)
    (earlier later : List WorkerEvent) (middle final : WorkerState)
    (hNoOlder : Meets (workerStep digest node)
      (NoOlder digest node) (WorkerState.new start) (earlier ++ later))
    (hEarlier : run (workerStep digest node) (WorkerState.new start) earlier = some middle)
    (hLater : run (workerStep digest node) middle later = some final) :
    Progress middle.context final.context := by
  have hMeets := meets_append hNoOlder hEarlier
  refine related_of_run (fun before after : WorkerState =>
    Progress before.context after.context)
    (fun state => .refl state.context)
    ?_ ?_ hMeets hLater
  · intro first second third hFirst hSecond
    exact hFirst.trans hSecond
  · intro state event next hCond hStep
    rcases workerStep_cases hStep with
      ⟨env, peer, message, rfl, rfl⟩ | ⟨-, hOnly, -⟩
    · exact (handleWorkerMessage_handles digest node env state.context peer message).progress hCond
    · exact hOnly.progress

end

theorem worker_progress_small : ∃ middle final, run (workerStep smallDigest ⟨1⟩)
    (WorkerState.new (smallStart 0)) [announce ⟨9⟩ 1 1] = some middle ∧
    run (workerStep smallDigest ⟨1⟩) middle [openWindow 1 0] = some final ∧
    Progress middle.context final.context := by
  refine ⟨_, _, rfl, rfl, worker_progress smallDigest ⟨1⟩ (smallStart 0)
    [announce ⟨9⟩ 1 1] [openWindow 1 0] _ _ ?_ rfl rfl⟩
  refine ⟨fun _ => by decide, fun next hNext => ?_⟩
  cases hNext
  refine ⟨fun _ _ base hBase => ?_, fun _ _ => trivial⟩
  cases hBase
  refine ⟨by decide, ?_, ?_⟩
  · intro known hKnown
    cases hKnown
    decide
  · intro known hKnown
    cases hKnown
    decide

/-
  A coordinator elected for term 2 that lags behind takes the
  worker from window 3 back to window 1.
-/
theorem worker_moves_back : ∃ middle final, run (workerStep smallDigest ⟨1⟩)
    (WorkerState.new (smallStart 0)) [announce ⟨9⟩ 1 3] = some middle ∧
    run (workerStep smallDigest ⟨1⟩) middle [announce ⟨2⟩ 2 1] = some final ∧
    ¬ Progress middle.context final.context := by
  refine ⟨_, _, rfl, rfl, ?_⟩
  intro hProgress
  have hWindow : (3 : UInt64) ≤ 1 := hProgress.window
  exact absurd hWindow (by decide)

end IntelligenceNetwork.Training
