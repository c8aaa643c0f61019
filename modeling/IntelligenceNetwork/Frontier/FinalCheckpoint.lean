import IntelligenceNetwork.Frontier.Manifest
import IntelligenceNetwork.Frontier.System

/-
  The last checkpoint of a driver.

  A driver counts a window as done before it tries the window's
  checkpoint.  A checkpoint of the last window that fails is
  therefore not tried again: the job is committed without it.
  A run of a driver is given what it finds at each step.

  Main declarations:
    * `finalAttemptUndisturbed`
    * `Progress`
    * `committed_means_checkpointed`
-/

----
-- Runs of a Driver
----

namespace IntelligenceNetwork.Frontier

open Transition

variable {attempts : Nat} {checkpoint : V4CheckpointRecord} {did : List Effect} {driver : Driver}
variable {env : HandlerEnv} {event : TaskEvent} {later seen : List TaskEvent} {member : Member}
variable {probes : Probes} {profiles : List V4WorkerCapability} {self : NodeId} {windows : UInt64}
variable {within : Option Participant} {pending : Finset NodeId} {snapshot : Snapshot}

section

/- What a driver finds at a step: its node and an event. -/
structure DriverInput where
  found : Member
  env : HandlerEnv
  event : TaskEvent

structure DriverTrace where
  task : Task
  seen : List TaskEvent
  did : List Effect

variable (digests : Digests) (self : NodeId)

/- The trace after a step of the driver. -/
abbrev Stepped.after (stepped : Stepped) (seen : List TaskEvent)
    (did : List Effect) : DriverTrace :=
  ⟨stepped.member.task, seen, did ++ stepped.effects⟩

def driverStep (trace : DriverTrace) (input : DriverInput) : Option DriverTrace :=
  match trace.task with
  | .driving driver stage within =>
    (driveStep digests self input.env { input.found with task := trace.task }
      driver within stage input.event).map (fun stepped =>
        ⟨stepped.member.task, trace.seen ++ [input.event], trace.did ++ stepped.effects⟩)
  | _ => none

/-
  A driver starts with the activation of its graph.  One that
  is resumed starts where the installation is done.
-/
def DriverTrace.entered (snapshot : Snapshot) (windows checkpointEvery : UInt64)
    (within : Option Participant) (resumed : Bool) : DriverTrace :=
  if resumed then
    ⟨.driving (Driver.start snapshot windows checkpointEvery) (.installing none) within, [], []⟩
  else
    let entered := enterDriver self snapshot windows checkpointEvery within
    ⟨entered.1, [], entered.2⟩

end

----
-- The Commit of the Last Window
----

def TaskEvent.tensor : TaskEvent → Option TensorRound
| .tensorDone result => result
| _ => none

/- The result of the last tensor round that went through. -/
def lastTensor (seen : List TaskEvent) : Option TensorRound :=
  seen.foldl (fun last event => event.tensor.or last) none

def Effect.isFinished : Effect → Bool
| .finished _ => true
| _ => false

def Unfinished (effects : List Effect) : Prop :=
  ∀ effect ∈ effects, effect.isFinished = false

/- The manifest carries the hashes of the tensor round. -/
def CarriesHashes (tensor : TensorRound) (checkpoint : V4CheckpointRecord) : Prop :=
  ∃ shards : List V4ShardOwnership, checkpoint.shardHashes.map some = shards.map (fun shard =>
    tensor.tensorHashes[shard.shardId]?) ++ shards.map (fun shard =>
    tensor.optimizerHashes[shard.shardId]?)

/- A provider's acknowledgement of the manifest was seen. -/
def SeenAck (self : NodeId) (seen : List TaskEvent) (checkpoint : V4CheckpointRecord)
    (provider : NodeId) : Prop :=
  ∃ message, .inbound provider message ∈ seen ∧
    acknowledgesCheckpoint self checkpoint provider message = true

/-
  The checkpoint of the last window: its commit returned, it
  carries the last hashes, and all its providers acknowledged.
-/
structure FinalCommit (node : NodeId) (windows : UInt64) (trace : DriverTrace)
    (tensor : TensorRound) (checkpoint : V4CheckpointRecord) : Prop where
  last : lastTensor trace.seen = some tensor
  committed : .committed windows checkpoint ∈ trace.did
  hashes : CarriesHashes tensor checkpoint
  acknowledged : ∀ provider ∈ checkpoint.providers,
    provider ≠ node → SeenAck node trace.seen checkpoint provider

def CommittedMeansCheckpointed (self : NodeId) (windows : UInt64) (trace : DriverTrace) : Prop :=
  ∀ result, .finished result ∈ trace.did → ∃ tensor checkpoint,
    FinalCommit self windows trace tensor checkpoint

/-
  Nothing goes wrong with the checkpoint of the last window:
  the round left all hashes, the manifest can be written, its
  providers can be reached, and the wait is not cut off.
-/
def finalAttemptUndisturbed (self : NodeId) (trace : DriverTrace) (input : DriverInput) : Bool :=
  match trace.task, input.event with
  | .driving driver (.collectiveRound tensor) _, .collectiveDone true unreachable =>
    let graph := driver.snapshot.graph
    Saturating.add driver.window 1 != driver.windows || (input.env.recordWritten &&
      graph.shards.all (fun shard =>
        tensor.tensorHashes[shard.shardId]?.isSome &&
          tensor.optimizerHashes[shard.shardId]?.isSome) &&
      (checkpointProviders graph).all (fun provider =>
        provider == self || provider ∉ unreachable))
  | .driving driver (.checkpointing _ _) _, .deadline
  | .driving driver (.checkpointing _ _) _, .closed => driver.window != driver.windows
  | _, _ => true

----
-- Progress
----

/- The wait for the last manifest's acknowledgements. -/
structure AwaitingLast (node : NodeId) (seen : List TaskEvent) (checkpoint : V4CheckpointRecord)
    (pending : Finset NodeId) (tensor : TensorRound) : Prop where
  last : lastTensor seen = some tensor
  hashes : CarriesHashes tensor checkpoint
  waits : ∀ provider ∈ checkpoint.providers, provider ≠ node →
    provider ∈ pending ∨ SeenAck node seen checkpoint provider

/- The first activation sets the window, later ones keep it. -/
def ActivationProgress (windows : UInt64) (driver : Driver) : Option Nat → Prop
| none => driver.snapshot.state.window < windows
| some _ => driver.window < windows

section

variable (self : NodeId) (windows : UInt64) (trace : DriverTrace)

/- How far the driver is, by where it waits. -/
def StageProgress (driver : Driver) : Stage → Prop
| .activating attempts _ | .acknowledging attempts | .installing attempts =>
  ActivationProgress windows driver attempts
| .pipelineRound tensor | .collectiveRound tensor =>
  driver.window < windows ∧ lastTensor trace.seen = some tensor
| .checkpointing checkpoint pending =>
  driver.window < windows ∨
    (driver.window = windows ∧ ∃ tensor, AwaitingLast self trace.seen checkpoint pending tensor)
| .windowHead =>
  driver.window < windows ∨ (driver.window = windows ∧ ∃ tensor checkpoint,
        FinalCommit self windows trace tensor checkpoint)
| _ => driver.window < windows

def Progress : Prop :=
  match trace.task with
  | .driving driver stage _ =>
    driver.windows = windows ∧ Unfinished trace.did ∧ StageProgress self windows trace driver stage
  | _ => CommittedMeansCheckpointed self windows trace

end

----
-- Steps Keep the Progress
----

variable {trace : DriverTrace}

section

@[simp] theorem lastTensor_append (seen : List TaskEvent) (event : TaskEvent) :
    lastTensor (seen ++ [event]) = event.tensor.or (lastTensor seen) := by
  simp [lastTensor]

@[simp] theorem unfinished_nil : Unfinished [] := by
  intro effect hEffect
  cases hEffect

@[simp] theorem unfinished_cons (effect : Effect) (effects : List Effect) :
    Unfinished (effect :: effects) ↔ effect.isFinished = false ∧ Unfinished effects :=
  List.forall_mem_cons

@[simp] theorem unfinished_append {effects more : List Effect} :
    Unfinished (effects ++ more) ↔ Unfinished effects ∧ Unfinished more :=
  List.forall_mem_append

@[simp] theorem unfinished_sends {nodes : List NodeId} {message : NodeId → TrainingV4Message} :
    Unfinished (nodes.map (fun node => .send node (message node))) := by
  intro effect hEffect
  rcases List.mem_map.mp hEffect with ⟨node, -, rfl⟩
  rfl

theorem SeenAck.mono {provider : NodeId} (hSeen : SeenAck self seen checkpoint provider)
    (hLater : seen ⊆ later) : SeenAck self later checkpoint provider := by
  rcases hSeen with ⟨message, hMem, hAck⟩
  exact ⟨message, hLater hMem, hAck⟩

/- A commit of the last window stays one. -/
theorem FinalCommit.mono {later : DriverTrace} {tensor : TensorRound}
    (hFinal : FinalCommit self windows trace tensor checkpoint)
    (hLast : lastTensor later.seen = lastTensor trace.seen) (hSeen : trace.seen ⊆ later.seen)
    (hDid : trace.did ⊆ later.did) : FinalCommit self windows later tensor checkpoint where
  last := hLast.trans hFinal.last
  committed := hDid hFinal.committed
  hashes := hFinal.hashes
  acknowledged := by
    intro provider hProvider hRemote
    exact (hFinal.acknowledged provider hProvider hRemote).mono hSeen

/- A driver with the windows of the job that has not finished. -/
structure Underway (windows goal : UInt64) (did : List Effect) : Prop where
  windows : goal = windows
  unfinished : Unfinished did

section

variable {effects : List Effect}

/- A driver that fails has not finished. -/
theorem progress_of_failed (hDid : Unfinished did) (hEffects : Unfinished effects) :
    Progress self windows ((failDriver member effects within).after seen did) := by
  have hVacuous : ∀ task, CommittedMeansCheckpointed self windows ⟨task, seen, did ++ effects⟩ := by
    intro task result hResult
    have hFalse := unfinished_append.mpr ⟨hDid, hEffects⟩ _ hResult
    cases hFalse
  cases within with
  | none => exact hVacuous .none
  | some participant => exact hVacuous _

/- A driver with windows left goes on to a stage of its loop. -/
theorem progress_of_goOn {stage : Stage} (hUnder : Underway windows driver.windows did)
    (hEffects : Unfinished effects)
    (hStage : StageProgress self windows ⟨.driving driver stage within, seen, did ++ effects⟩
      driver stage) :
    Progress self windows ((goOn member effects driver stage within).after seen did) :=
  ⟨hUnder.windows, unfinished_append.mpr ⟨hUnder.unfinished, hEffects⟩, hStage⟩

theorem progress_of_activateAgain (hUnder : Underway windows driver.windows did)
    (hLeft : driver.window < windows) (hEffects : Unfinished effects) :
    Progress self windows
      ((activateAgain self member effects driver attempts within).after seen did) := by
  unfold activateAgain
  split_ifs
  · exact progress_of_failed hUnder.unfinished hEffects
  · refine progress_of_goOn hUnder (unfinished_append.mpr ⟨hEffects, unfinished_sends⟩) ?_
    unfold beginActivation
    dsimp only
    split_ifs
    · exact hLeft
    · exact hLeft

end

variable {digests : Digests}

theorem reconfigure_unfinished (old : Snapshot) (failed joined : Option NodeId)
    (certificate : Option (List NodeId)) :
    Unfinished
      (reconfigureIntegratedGraphMembership digests self env profiles member old failed joined
        certificate).effects := by
  unfold reconfigureIntegratedGraphMembership
  split
  · exact unfinished_nil
  · split_ifs
    all_goals simp [Effect.isFinished]

theorem progress_of_changeGraph {failed joined : Option NodeId}
    {counted : V4ExecutionGraph → DriverCounts} (hUnder : Underway windows driver.windows did)
    (hLeft : driver.window < windows) :
    Progress self windows
      ((changeGraph digests self env profiles member driver failed joined counted attempts
        within).after seen did) := by
  have hEffects : Unfinished (reconfigureIntegratedGraphMembership digests self env profiles member
    driver.snapshot failed joined none).effects := reconfigure_unfinished _ _ _ _
  unfold changeGraph
  dsimp only
  split
  · exact progress_of_failed hUnder.unfinished hEffects
  · exact progress_of_activateAgain hUnder hLeft hEffects

section

variable (hUnder : Underway windows driver.windows did) (hLeft : driver.window < windows)
include hUnder hLeft

theorem progress_of_probeWindow :
    Progress self windows
      ((probeWindow digests self env member driver within probes).after seen did) := by
  unfold probeWindow
  dsimp only
  split
  · exact progress_of_goOn hUnder unfinished_nil hLeft
  · split_ifs
    · exact progress_of_changeGraph hUnder hLeft
    · exact progress_of_goOn hUnder unfinished_nil (Or.inl hLeft)

theorem progress_of_failRound {round : RoundKind} :
    Progress self windows
      ((failRound digests self env member driver round within probes).after seen did) := by
  unfold failRound
  dsimp only
  split
  · split_ifs
    · exact progress_of_changeGraph hUnder hLeft
    · exact progress_of_goOn hUnder unfinished_nil (Or.inl hLeft)
  · split
    · exact progress_of_changeGraph hUnder hLeft
    · exact progress_of_goOn hUnder unfinished_nil (Or.inl hLeft)

theorem progress_of_failCheckpoint :
    Progress self windows
      ((failCheckpoint digests self env member driver within probes).after seen did) := by
  unfold failCheckpoint
  dsimp only
  split
  · exact progress_of_goOn hUnder unfinished_nil (Or.inl hLeft)
  · split_ifs
    · exact progress_of_changeGraph hUnder hLeft
    · exact progress_of_goOn hUnder unfinished_nil (Or.inl hLeft)

theorem progress_of_retryActivation :
    Progress self windows
      ((retryActivation digests self env member driver attempts within probes).after seen did) := by
  unfold retryActivation
  dsimp only
  split
  · exact progress_of_activateAgain hUnder hLeft unfinished_nil
  · split_ifs
    · exact progress_of_changeGraph hUnder hLeft
    · exact progress_of_failed hUnder.unfinished unfinished_nil

end

/- A graph that becomes runnable keeps the job's window. -/
theorem progress_of_finishActivation {attempts : Option Nat}
    (hUnder : Underway windows driver.windows did)
    (hActivation : ActivationProgress windows driver attempts) :
    Progress self windows
      ((finishActivation digests self env member driver attempts within).after seen did) := by
  unfold finishActivation commitIntegratedGraphActivation
  cases env.stateWritten with
  | false => exact progress_of_failed hUnder.unfinished unfinished_nil
  | true =>
    have hEffects : ∀ state, Unfinished
      ([.recorded state, .started driver.snapshot.graph] ++ broadcastIntegratedState self
        driver.snapshot.graph state) := by
      intro state
      simp [Effect.isFinished, broadcastIntegratedState]
    cases attempts with
    | none | some attempts => exact progress_of_goOn hUnder (hEffects _) (Or.inl hActivation)

/- The last state is published, and then the result. -/
theorem progress_of_finishDriver {tensor : TensorRound} (hDid : Unfinished trace.did)
    (hFinal : FinalCommit self windows trace tensor checkpoint) (hTensor : event.tensor = none) :
    Progress self windows ((finishDriver digests self env member driver within).after (trace.seen ++
      [event]) trace.did) := by
  unfold finishDriver
  split_ifs
  · exact progress_of_failed hDid unfinished_nil
  · exact progress_of_failed hDid (by simp [Effect.isFinished, broadcastIntegratedState])
  all_goals
    intro result _
    exact ⟨tensor, checkpoint, hFinal.mono (by simp [hTensor]) (List.subset_append_left _ _)
      (List.subset_append_left _ _)⟩

theorem progress_of_headWindow (hUnder : Underway windows driver.windows trace.did)
    (hHead : StageProgress self windows trace driver .windowHead) :
    Progress self windows
      ((headWindow digests self env member driver within profiles).after (trace.seen ++
        [.headed profiles]) trace.did) := by
  unfold headWindow
  by_cases hDone : driver.windows ≤ driver.window
  · rw [if_pos hDone]
    rcases hHead with hLeft | ⟨-, tensor, checkpoint, hFinal⟩
    · rw [hUnder.windows] at hDone
      exact absurd hLeft (UInt64.not_lt.mpr hDone)
    · exact progress_of_finishDriver hUnder.unfinished hFinal rfl
  · have hLeft : driver.window < windows := by
      rw [← hUnder.windows]
      exact UInt64.not_le.mp hDone
    split_ifs
    · exact progress_of_failed hUnder.unfinished unfinished_nil
    · split
      · exact progress_of_changeGraph hUnder hLeft
      · exact progress_of_goOn hUnder unfinished_nil hLeft

end

----
-- Checkpoints
----

variable (digests : Digests)

theorem checkpointManifest_spec {tensor : TensorRound}
    (hManifest : checkpointManifest digests member snapshot tensor = .ok checkpoint) :
    CarriesHashes tensor checkpoint ∧ checkpoint.providers =
      checkpointProviders snapshot.graph := by
  rcases (checkpointManifest_eq_ok_iff digests member snapshot tensor checkpoint).mp hManifest with
    ⟨hashes, hHashes, rfl⟩
  exact ⟨⟨snapshot.graph.shards, hHashes⟩, rfl⟩

theorem AwaitingLast.mono {tensor : TensorRound}
    (hAwaiting : AwaitingLast self seen checkpoint pending tensor)
    (hLast : lastTensor later = lastTensor seen) (hSeen : seen ⊆ later) :
    AwaitingLast self later checkpoint pending tensor where
  last := hLast.trans hAwaiting.last
  hashes := hAwaiting.hashes
  waits := by
    intro provider hProvider hRemote
    rcases hAwaiting.waits provider hProvider hRemote with hPending | hAck
    · exact Or.inl hPending
    · exact Or.inr (hAck.mono hSeen)

/- One provider less to wait for. -/
theorem AwaitingLast.acknowledge {tensor : TensorRound} {peer : NodeId}
    {message : TrainingV4Message} (hAwaiting : AwaitingLast self seen checkpoint pending tensor)
    (hAck : acknowledgesCheckpoint self checkpoint peer message = true) :
    AwaitingLast self (seen ++ [.inbound peer message]) checkpoint (pending.erase peer) tensor where
  last := by
    rw [lastTensor_append]
    exact hAwaiting.last
  hashes := hAwaiting.hashes
  waits := by
    intro provider hProvider hRemote
    by_cases hPeer : provider = peer
    · subst hPeer
      exact Or.inr ⟨message, by simp, hAck⟩
    · rcases hAwaiting.waits provider hProvider hRemote with hPending | hSeen
      · exact Or.inl (Finset.mem_erase.mpr ⟨hPeer, hPending⟩)
      · exact Or.inr (hSeen.mono (List.subset_append_left _ _))

section

variable {effects : List Effect}

theorem progress_of_publishWindow (hUnder : Underway windows driver.windows did)
    (hEffects : Unfinished effects)
    (hHead : StageProgress self windows ⟨.none, seen, did ++ effects⟩ driver .windowHead) :
    Progress self windows
      ((publishWindow digests self env member effects driver within).after seen did) := by
  unfold publishWindow
  split_ifs
  · exact progress_of_failed hUnder.unfinished hEffects
  · refine progress_of_goOn hUnder
      (by simp [hEffects, Effect.isFinished, broadcastIntegratedState]) ?_
    rcases hHead with hLeft | ⟨hLast, tensor, made, hFinal⟩
    · exact Or.inl hLeft
    · refine Or.inr ⟨hLast, tensor, made, hFinal.mono rfl (List.Subset.refl seen) ?_⟩
      intro effect hEffect
      simp only [List.mem_append] at hEffect ⊢
      tauto

/- A manifest that nobody is waited for is a commit. -/
theorem progress_of_settle (hUnder : Underway windows driver.windows did)
    (hEffects : Unfinished effects)
    (hReady : driver.window < windows ∨
      (driver.window = windows ∧ ∃ tensor, AwaitingLast self seen checkpoint ∅ tensor)) :
    Progress self windows
      ((settleCheckpoint digests self env member effects driver checkpoint within).after seen
        did) := by
  refine progress_of_publishWindow digests hUnder (by simp [hEffects, Effect.isFinished]) ?_
  rcases hReady with hLeft | ⟨hLast, tensor, hAwaiting⟩
  · exact Or.inl hLeft
  · refine Or.inr ⟨hLast, tensor, checkpoint, ?_⟩
    exact
      { last := hAwaiting.last
        committed := by
          rw [← hLast]
          simp
        hashes := hAwaiting.hashes
        acknowledged := by
          intro provider hProvider hRemote
          rcases hAwaiting.waits provider hProvider hRemote with hPending | hAck
          · exact absurd hPending (Finset.notMem_empty _)
          · exact hAck }

end

section

variable (env : HandlerEnv) (unreachable : Finset NodeId) (member : Member) (snapshot : Snapshot)
variable (tensor : TensorRound)

theorem commit_unfinished : Unfinished
    (commitIntegratedCheckpoint digests self env unreachable member snapshot tensor).effects := by
  unfold commitIntegratedCheckpoint
  split
  · exact unfinished_nil
  · split_ifs
    · exact unfinished_nil
    · dsimp only
      split
      all_goals simp [Effect.isFinished]

/- The commit of a round that left everything it needs. -/
theorem commit_of_undisturbed (hWritten : env.recordWritten = true)
    (hPresent : ∀ shard ∈ snapshot.graph.shards, tensor.tensorHashes[shard.shardId]?.isSome = true ∧
      tensor.optimizerHashes[shard.shardId]?.isSome = true)
    (hReached : ∀ provider ∈ checkpointProviders snapshot.graph,
      provider ≠ self → provider ∉ unreachable) :
    ∃ checkpoint, CarriesHashes tensor checkpoint ∧
      (commitIntegratedCheckpoint digests self env unreachable member snapshot tensor).result =
        .ok (checkpoint, (remoteProviders self checkpoint).toFinset) := by
  rcases checkpointManifest_of_present digests member snapshot
    tensor hPresent with ⟨checkpoint, hManifest⟩
  rcases checkpointManifest_spec digests hManifest with ⟨hHashes, hProviders⟩
  have hAll : (remoteProviders self checkpoint).find? (· ∈ unreachable) = none := by
    rw [List.find?_eq_none]
    intro provider hProvider
    unfold remoteProviders at hProvider
    rw [hProviders] at hProvider
    rcases List.mem_filter.mp hProvider with ⟨hMem, hRemote⟩
    simpa using hReached provider hMem (by simpa using hRemote)
  refine ⟨checkpoint, hHashes, ?_⟩
  unfold commitIntegratedCheckpoint
  simp [hManifest, hWritten, hAll]

end

theorem progress_of_endWindow {tensor : TensorRound} {unreachable : Finset NodeId}
    (hUnder : Underway windows driver.windows did) (hLeft : driver.window < windows)
    (hLast : lastTensor seen = some tensor)
    (hUndisturbed : Saturating.add driver.window 1 = driver.windows → env.recordWritten = true ∧
      (∀ shard ∈ driver.snapshot.graph.shards, tensor.tensorHashes[shard.shardId]?.isSome = true ∧
          tensor.optimizerHashes[shard.shardId]?.isSome = true) ∧
      ∀ provider ∈ checkpointProviders driver.snapshot.graph,
        provider ≠ self → provider ∉ unreachable) :
    Progress self windows
      ((endWindow digests self env member driver tensor within unreachable).after seen did) := by
  have hNext : (completeWindow driver).window = Saturating.add driver.window 1 := rfl
  have hSame : Underway windows (completeWindow driver).windows did := hUnder
  have hEffects : Unfinished (commitIntegratedCheckpoint digests self env unreachable member
    (completeWindow driver).snapshot tensor).effects := commit_unfinished _ _ _ _ _ _
  unfold endWindow
  dsimp only
  by_cases hFinal : (completeWindow driver).window = windows
  · -- the last window: its checkpoint is due, and it is sent
    have hDue : checkpointDue (completeWindow driver) = true := by
      simp [checkpointDue, hFinal, hSame.windows]
    rcases hUndisturbed (by rw [← hNext, hFinal, hUnder.windows])
      with ⟨hWritten, hPresent, hReached⟩
    rcases commit_of_undisturbed digests env unreachable member
      (completeWindow driver).snapshot tensor hWritten hPresent
      hReached with ⟨checkpoint, hHashes, hCommit⟩
    have hAwaiting : AwaitingLast self seen checkpoint
      (remoteProviders self checkpoint).toFinset tensor :=
      { last := hLast
        hashes := hHashes
        waits := by
          intro provider hProvider hRemote
          left
          simp [remoteProviders, hProvider, hRemote] }
    rw [if_pos hDue, hCommit]
    dsimp only
    split_ifs with hNone
    · rw [hNone] at hAwaiting
      exact progress_of_settle digests hSame hEffects (Or.inr ⟨hFinal, tensor, hAwaiting⟩)
    · exact progress_of_goOn hSame hEffects (Or.inr ⟨hFinal, tensor, hAwaiting⟩)
  · -- more windows follow, whatever becomes of this checkpoint
    have hMore : (completeWindow driver).window < windows := by
      have hLe := Saturating.succ_le_of_lt _ _ hLeft
      exact UInt64.lt_of_le_of_ne hLe hFinal
    split_ifs
    · split
      · exact progress_of_goOn hSame hEffects hMore
      · split_ifs
        · exact progress_of_settle digests hSame hEffects (Or.inl hMore)
        · exact progress_of_goOn hSame hEffects (Or.inl hMore)
    · exact progress_of_publishWindow digests hSame unfinished_nil (Or.inl hMore)

----
-- Whole Runs
----

theorem progress_of_activationFails {attempts : Option Nat} {error : NodeError}
    (hUnder : Underway windows driver.windows did)
    (hActivation : ActivationProgress windows driver attempts) :
    Progress self windows
      ((activationFails member driver attempts within error).after seen did) := by
  cases attempts with
  | none => exact progress_of_failed hUnder.unfinished unfinished_nil
  | some attempts => exact progress_of_goOn hUnder unfinished_nil hActivation

/- A wait that may be cut off is not that of the last window. -/
theorem left_of_cut {rest : Prop} (hWindows : driver.windows = windows)
    (hCut : (driver.window != driver.windows) = true)
    (hStage : driver.window < windows ∨ (driver.window = windows ∧ rest)) :
    driver.window < windows := by
  rcases hStage with hLeft | ⟨hLast, -⟩
  · exact hLeft
  · rw [hLast, hWindows] at hCut
    simp at hCut

/- One step of a driver, from wherever it waits. -/
theorem driveStep_progress {found : Member} {stage : Stage} {stepped : Stepped}
    (hUnder : Underway windows driver.windows did)
    (hStage : StageProgress self windows ⟨.driving driver stage within, seen, did⟩ driver stage)
    (hUndisturbed : finalAttemptUndisturbed self ⟨.driving driver stage within, seen, did⟩
      ⟨found, env, event⟩ = true)
    (hStep : driveStep digests self env member driver within stage event = some stepped) :
    Progress self windows ⟨stepped.member.task, seen ++ [event], did ++ stepped.effects⟩ := by
  unfold driveStep at hStep
  split at hStep
  all_goals try cases hStep
  · -- a graph's acknowledgements, one by one
    dsimp only at hStep
    split_ifs at hStep <;> cases hStep
    · exact progress_of_goOn hUnder unfinished_sends hStage
    · exact progress_of_goOn hUnder unfinished_nil hStage
    · exact progress_of_goOn hUnder unfinished_nil hStage
  · exact progress_of_activationFails hUnder hStage
  · exact progress_of_activationFails hUnder hStage
  · split at hStep
    · cases hStep
      exact progress_of_activationFails hUnder hStage
    · cases hStep
      exact progress_of_goOn hUnder (by simp [Effect.isFinished]) hStage
  · split at hStep
    · cases hStep
      exact progress_of_activationFails hUnder hStage
    · cases hStep
      exact progress_of_finishActivation hUnder hStage
  · exact progress_of_retryActivation hUnder hStage
  · exact progress_of_headWindow hUnder hStage
  · exact progress_of_probeWindow hUnder hStage
  · exact progress_of_goOn hUnder unfinished_nil hStage
  · exact progress_of_goOn hUnder unfinished_nil ⟨hStage, by simp [TaskEvent.tensor]⟩
  · exact progress_of_goOn hUnder unfinished_nil hStage.1
  · exact progress_of_goOn hUnder unfinished_nil
      ⟨hStage.1, by simpa [TaskEvent.tensor] using hStage.2⟩
  · exact progress_of_goOn hUnder unfinished_nil hStage.1
  · rename_i tensor unreachable
    refine progress_of_endWindow digests hUnder hStage.1
      (by simpa [TaskEvent.tensor] using hStage.2) ?_
    intro hFinal
    simp only [finalAttemptUndisturbed, hFinal, bne_self_eq_false, Bool.false_or, Bool.and_eq_true,
      List.all_eq_true] at hUndisturbed
    rcases hUndisturbed with ⟨⟨hWritten, hPresent⟩, hReached⟩
    refine ⟨hWritten, hPresent, ?_⟩
    intro provider hProvider hRemote
    simpa [hRemote] using hReached provider hProvider
  · exact progress_of_failRound hUnder hStage
  · -- a manifest's acknowledgements, one by one
    rename_i checkpoint pending peer message
    split_ifs at hStep with hAck
    · dsimp only at hStep
      split_ifs at hStep with hRest
      · cases hStep
        refine progress_of_settle digests hUnder unfinished_nil ?_
        rcases hStage with hLeft | ⟨hLast, tensor, hAwaiting⟩
        · exact Or.inl hLeft
        · have hNext := hAwaiting.acknowledge hAck
          rw [hRest] at hNext
          exact Or.inr ⟨hLast, tensor, hNext⟩
      · cases hStep
        refine progress_of_goOn hUnder unfinished_nil ?_
        rcases hStage with hLeft | ⟨hLast, tensor, hAwaiting⟩
        · exact Or.inl hLeft
        · exact Or.inr ⟨hLast, tensor, hAwaiting.acknowledge hAck⟩
    · cases hStep
      refine progress_of_goOn hUnder unfinished_nil ?_
      rcases hStage with hLeft | ⟨hLast, tensor, hAwaiting⟩
      · exact Or.inl hLeft
      · exact Or.inr ⟨hLast, tensor, hAwaiting.mono (by simp [TaskEvent.tensor])
          (List.subset_append_left _ _)⟩
  · exact progress_of_goOn hUnder unfinished_nil (left_of_cut hUnder.windows hUndisturbed hStage)
  · exact progress_of_goOn hUnder unfinished_nil (left_of_cut hUnder.windows hUndisturbed hStage)
  · exact progress_of_failCheckpoint hUnder hStage

theorem driverStep_progress {next : DriverTrace} {input : DriverInput}
    (hProgress : Progress self windows trace)
    (hUndisturbed : finalAttemptUndisturbed self trace input = true)
    (hStep : driverStep digests self trace input = some next) : Progress self windows next := by
  rcases trace with ⟨task, seen, did⟩
  cases task with
  | none | controller | participant participant stage => cases hStep
  | driving driver stage within =>
    rcases Option.map_eq_some_iff.mp hStep with ⟨stepped, hStepped, rfl⟩
    rcases hProgress with ⟨hWindows, hDid, hStage⟩
    exact driveStep_progress digests ⟨hWindows, hDid⟩ hStage hUndisturbed hStepped

/- A driver enters with windows left to do. -/
theorem progress_of_entered {checkpointEvery : UInt64} {resumed : Bool}
    (hLeft : snapshot.state.window < windows) :
    Progress self windows
      (DriverTrace.entered self snapshot windows checkpointEvery within resumed) := by
  cases resumed with
  | true => exact ⟨rfl, unfinished_nil, hLeft⟩
  | false =>
    refine ⟨rfl, unfinished_sends, ?_⟩
    unfold beginActivation
    dsimp only
    split_ifs
    · exact hLeft
    · exact hLeft

/-
  A driver that enters with windows left, and whose last
  checkpoint nothing disturbs, finishes only with the
  checkpoint of its last window acknowledged by all providers.
-/
theorem committed_means_checkpointed (node : NodeId) (snapshot : Snapshot)
    (windows checkpointEvery : UInt64) (within : Option Participant) (resumed : Bool)
    (inputs : List DriverInput) (final : DriverTrace) (hLeft : snapshot.state.window < windows)
    (hUndisturbed : Meets (driverStep digests node) (fun trace input =>
      finalAttemptUndisturbed node trace input = true)
      (DriverTrace.entered node snapshot windows checkpointEvery within resumed)
      inputs)
    (hRun : run (driverStep digests node)
      (DriverTrace.entered node snapshot windows checkpointEvery within resumed)
      inputs = some final) :
    CommittedMeansCheckpointed node windows final := by
  have hProgress : Progress node windows final :=
    invariant_of_run (Progress node windows) (fun trace input next hTrace hInput hNext =>
      driverStep_progress digests hTrace hInput hNext)
      (progress_of_entered hLeft)
      hUndisturbed hRun
  rcases final with ⟨task, seen, did⟩
  cases task with
  | none | controller | participant participant stage => exact hProgress
  | driving driver stage within =>
    intro result hResult
    have hFalse := hProgress.2.1 _ hResult
    cases hFalse

----
-- A Job of One Window
----

def Effect.isCommitted : Effect → Bool
| .committed _ _ => true
| _ => false

theorem exists_finished (effects : List Effect) (hAny : effects.any Effect.isFinished = true) :
    ∃ result, .finished result ∈ effects := by
  rcases List.any_eq_true.mp hAny with ⟨effect, hMem, hKind⟩
  cases effect with
  | finished result => exact ⟨result, hMem⟩
  | _ => cases hKind

def smallInput (event : TaskEvent) : DriverInput :=
  ⟨smallHolder, {}, event⟩

def smallGraphAck (worker : NodeId) : TaskEvent :=
  .inbound worker (.integratedAck ⟨⟨7⟩, 1, worker, true, "persisted"⟩)

def smallManifestHash : ArtifactId :=
  ((checkpointManifest smallDigests smallHolder smallSnapshot
    (smallTensor 9)).toOption.map (·.manifestHash)).getD default

def smallManifestAck (provider : NodeId) : TaskEvent :=
  .inbound provider (.stateAck ⟨⟨7⟩, 1, 2, .checkpoint, smallManifestHash, true⟩)

/- Up to the wait for the manifest's acknowledgements. -/
def smallWindow : List DriverInput :=
  [smallGraphAck ⟨2⟩, smallGraphAck ⟨3⟩, smallGraphAck ⟨4⟩,
    .acknowledged (.ok ()), .installed (.ok ()), .headed [],
    .probed allAnswer, .tensorDone (some (smallTensor 9)),
    .pipelineDone true, .collectiveDone true ∅].map smallInput

def acknowledgedWindow : List DriverInput :=
  smallWindow ++
    [smallManifestAck ⟨2⟩, smallManifestAck ⟨3⟩, smallManifestAck ⟨4⟩, .headed []].map smallInput

/- The last acknowledgement does not come in time. -/
def timedOutWindow : List DriverInput :=
  smallWindow ++ [smallManifestAck ⟨2⟩, smallManifestAck ⟨3⟩, .deadline,
    .probed allAnswer, .headed []].map smallInput

def smallEntry : DriverTrace :=
  DriverTrace.entered ⟨1⟩ smallSnapshot 1 1 none false

theorem acknowledgedWindow_runs :
    (run (driverStep smallDigests ⟨1⟩) smallEntry acknowledgedWindow).isSome := by
  decide +kernel

theorem timedOutWindow_runs :
    (run (driverStep smallDigests ⟨1⟩) smallEntry timedOutWindow).isSome := by
  decide +kernel

def acknowledgedEnd : DriverTrace :=
  (run (driverStep smallDigests ⟨1⟩) smallEntry acknowledgedWindow).get acknowledgedWindow_runs

def timedOutEnd : DriverTrace :=
  (run (driverStep smallDigests ⟨1⟩) smallEntry timedOutWindow).get timedOutWindow_runs

theorem committed_means_checkpointed_small : acknowledgedEnd.did.any Effect.isFinished = true ∧
    CommittedMeansCheckpointed ⟨1⟩ 1 acknowledgedEnd := by
  refine ⟨by decide +kernel, ?_⟩
  apply committed_means_checkpointed smallDigests ⟨1⟩
    smallSnapshot 1 1 none false acknowledgedWindow
  · decide +kernel
  · decide +kernel
  · exact (Option.some_get acknowledgedWindow_runs).symm

/-
  A driver whose last manifest is not acknowledged by all its
  providers in time commits the job all the same.
-/
theorem committed_unchecked : run (driverStep smallDigests ⟨1⟩) smallEntry
    timedOutWindow = some timedOutEnd ∧ ¬ CommittedMeansCheckpointed ⟨1⟩ 1 timedOutEnd := by
  refine ⟨(Option.some_get timedOutWindow_runs).symm, ?_⟩
  intro hClaim
  rcases exists_finished timedOutEnd.did (by decide +kernel)
    with ⟨result, hResult⟩
  rcases hClaim result hResult with ⟨tensor, checkpoint, hFinal⟩
  have hNone : timedOutEnd.did.any Effect.isCommitted = false := by
    decide +kernel
  have hSome : timedOutEnd.did.any Effect.isCommitted = true :=
    List.any_eq_true.mpr ⟨_, hFinal.committed, rfl⟩
  cases hSome

end IntelligenceNetwork.Frontier
