import IntelligenceNetwork.Lib.Transition
import IntelligenceNetwork.Training.Handlers
import IntelligenceNetwork.Training.Job

/-
  Admission of jobs, and their revival after a restart.

  A restarted node revives every job whose order it finds on
  disk.  An order for a job that is already active is written
  to disk before the node looks whether the job is active.

  Main declarations:
    * `nodeStep`
    * `RepeatsAdmitted`
    * `definition_kept_iff_repeated`
-/

----
-- Orders
----

namespace IntelligenceNetwork.Training

open Transition OrderedMap

/- The files of a node, apart from its orders. -/
structure Disk where
  states : JobId → Option TrainingState
  manifests : ArtifactId → Option TrainingCheckpointManifest
  shardStates : JobId → UInt16 → Option TrainingShardState

/-
  The order a job was admitted under, and the context that runs
  it.  A coordinator changes the groups of its context's order
  as aggregators fail.
-/
structure ActiveJob where
  admitted : TrainingStart
  context : Context

structure TrainingNode where
  jobs : Std.TreeMap JobId ActiveJob
  starts : Std.TreeMap JobId TrainingStart
  disk : Disk

/- Who a node is and how much memory it gives to training. -/
structure NodeSetup where
  node : NodeId
  memoryBudget : UInt64

structure Admission where
  state : TrainingNode
  effects : List Effect
  result : Except NodeError Unit

/- The checks of an order, before anything is written. -/
def checkStart (setup : NodeSetup) (peer : NodeId)
    (start : TrainingStart) : Except NodeError Unit :=
  if startRefused setup.node peer start then
    .error (.invalidConfig "V3 start is not authorized for this worker")
  else if start.shardStateBytes > setup.memoryBudget then
    .error (.invalidConfig
      (s!"assigned V3 shard requires {start.shardStateBytes} bytes " ++
        s!"but worker budget is {setup.memoryBudget} bytes"))
  else
    match Validation.trainingStart start with
    | .error error => .error (.invalidConfig error.text)
    | .ok () => .ok ()

def TrainingNode.persistStart (state : TrainingNode) (start : TrainingStart) : TrainingNode :=
  { state with starts := state.starts.insert start.jobId start }

def TrainingNode.run (state : TrainingNode) (job : ActiveJob) : TrainingNode :=
  { state with jobs := state.jobs.insert job.admitted.jobId job }

/- The order is on disk before the active jobs are looked at. -/
def acceptStart (setup : NodeSetup) (written : Bool) (state : TrainingNode) (peer : NodeId)
    (start : TrainingStart) : Admission :=
  match checkStart setup peer start with
  | .error error => ⟨state, [], .error error⟩
  | .ok () =>
    if !written then
      ⟨state, [], .error .storage⟩
    else
      let persisted := state.persistStart start
      let ack := sendAck setup.node peer start.jobId start.term .start
      if persisted.jobs[start.jobId]?.isSome then
        ⟨persisted, [ack], .ok ()⟩
      else
        ⟨persisted.run ⟨start, Context.new start .worker⟩, [ack], .ok ()⟩

/-
  A node that starts a job of its own registers it first, and
  leaves it registered when its order cannot be written.
-/
def startCoordinator (written : Bool) (state : TrainingNode)
    (start : TrainingStart) : TrainingNode :=
  let registered := state.run ⟨start, Context.new start .coordinator⟩
  if written then registered.persistStart start else registered

----
-- Revival
----

namespace Disk

/- States that fail their check are ignored when loaded. -/
def validState (disk : Disk) (jobId : JobId) : Option TrainingState :=
  (disk.states jobId).filter (fun state => Validation.trainingState state = .ok ())

/- The manifest of a state, if it is intact on disk. -/
def checkpointOf (digest : Digest) (disk : Disk) (state : TrainingState) :
    Option TrainingCheckpointManifest :=
  state.checkpoint.bind (fun checkpoint =>
    (disk.manifests checkpoint).filter (fun manifest =>
      manifest.hash = checkpoint ∧ checkpointHash digest manifest = checkpoint))

/- A completed autonomous job is not revived. -/
def completed (digest : Digest) (disk : Disk) (start : TrainingStart) : Bool :=
  start.execution == .autonomousLocalSgd && (disk.validState start.jobId).any (fun state =>
    stateCoversFinalModel start state && (disk.checkpointOf digest state).isSome)

end Disk

def resumeState (context : Context) (state : TrainingState) : Context :=
  { context with
    coordinator := state.coordinator
    term := state.term
    window := state.window
    checkpointGeneration := state.checkpointGeneration
    checkpoint := state.checkpoint
    shardSummaries := insertAll TrainingShardSummary.shardId id
      context.shardSummaries state.shards }

variable (digest : Digest)

section

/- A shard state of the job that is intact. -/
def shardStateResumes (start : TrainingStart) (shard : TrainingShardState) : Bool :=
  shard.jobId == start.jobId && shard.shardId == start.assignment.shardId &&
    shard.branch == start.branch && shardStateIntact digest shard

/- The context of a revived job. -/
def restoredContext (disk : Disk) (start : TrainingStart) : Context :=
  let fresh := Context.new start .worker
  let resumed :=
    match disk.validState start.jobId with
    | none => fresh
    | some state => resumeState fresh state
  match (disk.shardStates start.jobId start.assignment.shardId).filter
    (shardStateResumes digest start) with
  | none => resumed
  | some shard => adoptShardState resumed shard

variable (node : NodeId) (state : TrainingNode)

/- Why an order on disk is passed over. -/
def passedOver (start : TrainingStart) : Bool :=
  start.coordinator == node || !start.participants.contains node ||
    !start.assignment.owners.contains node || Validation.trainingStart start != .ok () ||
    state.jobs[start.jobId]?.isSome || state.disk.completed digest start

def restoreWorker (start : TrainingStart) : TrainingNode :=
  if passedOver digest node state start then
    state
  else
    state.run ⟨start, restoredContext digest state.disk start⟩

def restoreWorkers (starts : List TrainingStart) : TrainingNode :=
  starts.foldl (restoreWorker digest node) state

end

----
-- The Life of a Node
----

inductive NodeEvent where
  | start (peer : NodeId) (start : TrainingStart) (written : Bool)
  | coordinated (start : TrainingStart) (written : Bool)
  | worked (jobId : JobId) (after : Context) (disk : Disk)
  | ended (jobId : JobId)
  | restarted

section

variable (setup : NodeSetup) (state : TrainingNode)

/-
  Orders come from other nodes, a job of the node's own has a
  fresh id, and the contexts of active jobs change in any way.
-/
def nodeStep : NodeEvent → Option TrainingNode
| .start peer start written =>
  if peer = setup.node then none else some (acceptStart setup written state peer start).state
| .coordinated start written =>
  if start.coordinator = setup.node ∧ state.jobs[start.jobId]?.isNone ∧
      state.starts[start.jobId]?.isNone then
    some (startCoordinator written state start)
  else
    none
| .worked jobId after disk =>
  match state.jobs[jobId]? with
  | none => none
  | some job =>
    some { state.run ⟨job.admitted, after⟩ with disk := disk }
| .ended jobId => some { state with jobs := state.jobs.erase jobId }
| .restarted => some (restoreWorkers digest setup.node { state with jobs := ∅ } state.starts.values)

/-
  While a job is active, no order replaces the one on disk or
  is acknowledged without being the one admitted; and a restart
  revives the job under that order.
-/
def KeepsDefinition (event : NodeEvent) : Prop :=
  ∀ next, nodeStep digest setup state event = some next →
    match event with
    | .start peer start written =>
      ∀ job ∈ state.jobs[start.jobId]?,
        next.starts[start.jobId]? = state.starts[start.jobId]? ∧
          ((acceptStart setup written state peer start).effects ≠ [] → start = job.admitted)
    | .restarted =>
      ∀ (jobId : JobId) (job : ActiveJob), state.jobs[jobId]? = some job →
        (∀ revived, next.jobs[jobId]? = some revived → revived.context.start = job.admitted) ∧
        (job.admitted.coordinator ≠ setup.node → state.disk.completed digest job.admitted = false →
          ∃ revived, next.jobs[jobId]? = some revived)
    | _ => True

end

/-
  An order for an active job that passes the checks and can be
  written is the one admitted.
-/
def RepeatsAdmitted (setup : NodeSetup) (state : TrainingNode) : NodeEvent → Prop
| .start peer start written =>
  ∀ job ∈ state.jobs[start.jobId]?, checkStart setup peer start = .ok () → written = true →
        start = job.admitted
| _ => True

----
-- What Admission Does
----

/- An order the node may hold: it has a part and is valid. -/
def Revivable (node : NodeId) (start : TrainingStart) : Prop :=
  node ∈ start.participants ∧ node ∈ start.assignment.owners ∧
    Validation.trainingStart start = .ok ()

theorem checkStart_ok {setup : NodeSetup} {peer : NodeId} {start : TrainingStart}
    (hOk : checkStart setup peer start = .ok ()) :
    start.coordinator = peer ∧ Revivable setup.node start := by
  unfold checkStart at hOk
  split_ifs at hOk with hRefused hMemory
  have hValid : Validation.trainingStart start = .ok () := by
    split at hOk
    · cases hOk
    · assumption
  simp [startRefused] at hRefused
  rcases hRefused with ⟨⟨hPeer, hOwner⟩, hParticipant⟩
  exact ⟨hPeer, hParticipant, hOwner, hValid⟩

/-
  An order that is refused or cannot be written does nothing;
  any other one is written and acknowledged, and starts a
  context unless its job is active.
-/
theorem acceptStart_cases {setup : NodeSetup} (written : Bool) {state : TrainingNode}
    {peer : NodeId} {start : TrainingStart} :
    ((checkStart setup peer start ≠ .ok () ∨ written = false) ∧
      (acceptStart setup written state peer start).state = state ∧
      (acceptStart setup written state peer start).effects = []) ∨
      (checkStart setup peer start = .ok () ∧ written = true ∧
        (acceptStart setup written state peer start).effects ≠ [] ∧
        (((∃ job, state.jobs[start.jobId]? = some job) ∧
          (acceptStart setup written state peer start).state = state.persistStart start) ∨
          (state.jobs[start.jobId]? = none ∧
            (acceptStart setup written state peer start).state = (state.persistStart start).run
              ⟨start, Context.new start .worker⟩))) := by
  unfold acceptStart
  cases hCheck : checkStart setup peer start with
  | error error => exact Or.inl ⟨Or.inl nofun, rfl, rfl⟩
  | ok _ =>
    cases written with
    | false => exact Or.inl ⟨Or.inr rfl, rfl, rfl⟩
    | true =>
      right
      dsimp only [TrainingNode.persistStart]
      cases hJob : state.jobs[start.jobId]? with
      | none => exact ⟨rfl, rfl, List.cons_ne_nil _ _, Or.inr ⟨rfl, rfl⟩⟩
      | some job => exact ⟨rfl, rfl, List.cons_ne_nil _ _, Or.inl ⟨⟨job, rfl⟩, rfl⟩⟩

----
-- What Revival Does
----

section

/- A revived job runs under the order on disk. -/
theorem restoredContext_start {disk : Disk} {start : TrainingStart} :
    (restoredContext digest disk start).start = start := by
  unfold restoredContext
  split
  · split
    · rfl
    · rfl
  · split
    · rfl
    · rfl

variable (node : NodeId) (state : TrainingNode)

theorem passedOver_eq_false_iff {start : TrainingStart} :
    passedOver digest node state start = false ↔ start.coordinator ≠ node ∧ Revivable node start ∧
      state.jobs[start.jobId]? = none ∧ state.disk.completed digest start = false := by
  unfold passedOver Revivable
  cases state.jobs[start.jobId]? with
  | none => simp [and_assoc]
  | some job => simp

theorem restoreWorker_disk (start : TrainingStart) :
    (restoreWorker digest node state start).starts = state.starts ∧
      (restoreWorker digest node state start).disk = state.disk := by
  unfold restoreWorker
  split_ifs
  · exact ⟨rfl, rfl⟩
  · exact ⟨rfl, rfl⟩

variable (starts : List TrainingStart)

theorem restoreWorkers_disk : (restoreWorkers digest node state starts).starts = state.starts ∧
    (restoreWorkers digest node state starts).disk = state.disk := by
  induction starts generalizing state with
  | nil => exact ⟨rfl, rfl⟩
  | cons start starts ih =>
    have hHere := restoreWorker_disk digest node state start
    have hRest := ih (restoreWorker digest node state start)
    exact ⟨hRest.1.trans hHere.1, hRest.2.trans hHere.2⟩

/- The jobs of one step of the loop. -/
theorem restoreWorker_jobs (start : TrainingStart) (jobId : JobId) :
    (restoreWorker digest node state start).jobs[jobId]? =
      if passedOver digest node state start = false ∧ start.jobId = jobId then
        some ⟨start, restoredContext digest state.disk start⟩
      else
        state.jobs[jobId]? := by
  unfold restoreWorker
  cases hPassed : passedOver digest node state start with
  | true => simp
  | false => simp [TrainingNode.run, getElem?_insert]

/- A job that the loop leaves active was so, or is revived. -/
theorem restoreWorkers_origin {jobId : JobId} {job : ActiveJob}
    (hJob : (restoreWorkers digest node state starts).jobs[jobId]? = some job) :
    state.jobs[jobId]? = some job ∨ ∃ start ∈ starts, start.jobId = jobId ∧
      start.coordinator ≠ node ∧ Revivable node start ∧
      job = ⟨start, restoredContext digest state.disk start⟩ := by
  induction starts generalizing state with
  | nil => exact Or.inl hJob
  | cons first starts ih =>
    have hDisk := restoreWorker_disk digest node state first
    rcases ih (restoreWorker digest node state first) hJob with hHere | ⟨start, hMem, hLater⟩
    · rw [restoreWorker_jobs] at hHere
      split_ifs at hHere with hRevived
      · have hPassed := (passedOver_eq_false_iff digest node state).mp hRevived.1
        right
        exact ⟨first, List.mem_cons_self, hRevived.2, hPassed.1, hPassed.2.1,
          (Option.some.inj hHere).symm⟩
      · exact Or.inl hHere
    · rw [hDisk.2] at hLater
      exact Or.inr ⟨start, List.mem_cons_of_mem first hMem, hLater⟩

/- The loop does not end a job. -/
theorem restoreWorkers_keeps (jobId : JobId) (job : ActiveJob)
    (hJob : state.jobs[jobId]? = some job) :
    ∃ later, (restoreWorkers digest node state starts).jobs[jobId]? = some later := by
  induction starts generalizing state job with
  | nil => exact ⟨job, hJob⟩
  | cons first starts ih =>
    have hHere := restoreWorker_jobs digest node state first jobId
    split_ifs at hHere with hRevived
    · exact ih _ _ hHere
    · exact ih _ _ (hHere.trans hJob)

/- An order on disk that is not passed over is revived. -/
theorem restoreWorkers_revives {start : TrainingStart} (hMem : start ∈ starts)
    (hOther : start.coordinator ≠ node) (hRevivable : Revivable node start)
    (hUnfinished : state.disk.completed digest start = false) :
    ∃ job, (restoreWorkers digest node state starts).jobs[start.jobId]? = some job := by
  induction starts generalizing state with
  | nil => cases hMem
  | cons first starts ih =>
    have hDisk := restoreWorker_disk digest node state first
    rcases List.mem_cons.mp hMem with rfl | hLater
    · have hHere := restoreWorker_jobs digest node state start start.jobId
      cases hJob : state.jobs[start.jobId]? with
      | none =>
        have hPassed := (passedOver_eq_false_iff digest node state).mpr
          ⟨hOther, hRevivable, hJob, hUnfinished⟩
        rw [if_pos ⟨hPassed, rfl⟩] at hHere
        exact restoreWorkers_keeps digest node _ starts _ _ hHere
      | some job => exact restoreWorkers_keeps digest node state (start :: starts) _ _ hJob
    · apply ih _ hLater
      rw [hDisk.2]
      exact hUnfinished

end

----
-- Orders on Disk
----

variable {state : TrainingNode}

/-
  No active job has another order on disk than the one it runs
  under, and a job of another node has that one.
-/
structure Admitted (node : NodeId) (state : TrainingNode) : Prop where
  keyed : ∀ (jobId : JobId) (start : TrainingStart),
    state.starts[jobId]? = some start → start.jobId = jobId
  order : ∀ (jobId : JobId) (job : ActiveJob), state.jobs[jobId]? = some job →
    job.admitted.jobId = jobId
  noOther : ∀ (jobId : JobId) (job : ActiveJob), state.jobs[jobId]? = some job →
    ∀ start ∈ state.starts[jobId]?, start = job.admitted
  onDisk : ∀ (jobId : JobId) (job : ActiveJob), state.jobs[jobId]? = some job →
    job.admitted.coordinator ≠ node → state.starts[jobId]? = some job.admitted ∧
      Revivable node job.admitted

namespace Admitted

variable {node : NodeId}

/- Nothing is active when a node is started for the first time. -/
theorem empty (disk : Disk) : Admitted node ⟨∅, ∅, disk⟩ where
  keyed := by
    intro jobId start hStart
    simp at hStart
  order := by
    intro jobId job hJob
    simp at hJob
  noOther := by
    intro jobId job hJob
    simp at hJob
  onDisk := by
    intro jobId job hJob
    simp at hJob

variable (hAdmitted : Admitted node state)

include hAdmitted

/- The order of an active job may be written again. -/
theorem repeated (start : TrainingStart)
    (hSame : ∀ job ∈ state.jobs[start.jobId]?, start = job.admitted) :
    Admitted node (state.persistStart start) := by
  have hStarts : ∀ (jobId : JobId), (state.persistStart start).starts[jobId]? =
    if start.jobId = jobId then some start else state.starts[jobId]? :=
    fun jobId => getElem?_insert
  refine ⟨?_, hAdmitted.order, ?_, ?_⟩
  · intro jobId other hOther
    rw [hStarts] at hOther
    split_ifs at hOther with hKey
    · cases hOther
      exact hKey
    · exact hAdmitted.keyed jobId other hOther
  · intro jobId job hJob other hOther
    rw [hStarts] at hOther
    split_ifs at hOther with hKey
    · cases hOther
      subst hKey
      exact hSame job hJob
    · exact hAdmitted.noOther jobId job hJob other hOther
  · intro jobId job hJob hOther
    rcases hAdmitted.onDisk jobId job hJob hOther with ⟨hStart, hRevivable⟩
    refine ⟨?_, hRevivable⟩
    rw [hStarts]
    by_cases hKey : start.jobId = jobId
    · subst hKey
      rw [if_pos rfl, hSame job hJob]
    · rw [if_neg hKey]
      exact hStart

/- A job may run under an order that is on disk. -/
theorem running (job : ActiveJob)
    (hNoOther : ∀ start ∈ state.starts[job.admitted.jobId]?, start = job.admitted)
    (hDisk : job.admitted.coordinator ≠ node → state.starts[job.admitted.jobId]? =
      some job.admitted ∧ Revivable node job.admitted) :
    Admitted node (state.run job) := by
  refine ⟨hAdmitted.keyed, ?_, ?_, ?_⟩
  · intro jobId other hJob
    rcases getElem?_of_insert hJob with ⟨hKey, rfl⟩ | hOld
    · exact hKey
    · exact hAdmitted.order jobId other hOld
  · intro jobId other hJob
    rcases getElem?_of_insert hJob with ⟨rfl, rfl⟩ | hOld
    · exact hNoOther
    · exact hAdmitted.noOther jobId other hOld
  · intro jobId other hJob
    rcases getElem?_of_insert hJob with ⟨rfl, rfl⟩ | hOld
    · exact hDisk
    · exact hAdmitted.onDisk jobId other hOld

/- Other files do not matter. -/
theorem withDisk (disk : Disk) :
    Admitted node { state with disk := disk } :=
  ⟨hAdmitted.keyed, hAdmitted.order, hAdmitted.noOther, hAdmitted.onDisk⟩

theorem ended (jobId : JobId) :
    Admitted node { state with jobs := state.jobs.erase jobId } := by
  refine ⟨hAdmitted.keyed, ?_, ?_, ?_⟩
  · exact fun other job hJob => hAdmitted.order other job (getElem?_of_erase hJob)
  · exact fun other job hJob => hAdmitted.noOther other job (getElem?_of_erase hJob)
  · exact fun other job hJob => hAdmitted.onDisk other job (getElem?_of_erase hJob)

/- What a restart revives runs under the order on disk. -/
theorem revived {digest : Digest} {jobId : JobId}
    {job : ActiveJob} (hJob : (restoreWorkers digest node { state with jobs := ∅ }
      state.starts.values).jobs[jobId]? = some job) :
    state.starts[jobId]? = some job.admitted ∧ job.admitted.jobId = jobId ∧
      Revivable node job.admitted ∧ job.context.start = job.admitted := by
  rcases restoreWorkers_origin digest node _ _
    hJob with hNone | ⟨start, hMem, hId, -, hRevivable, rfl⟩
  · simp at hNone
  · rcases mem_values_iff.mp hMem with ⟨key, hStart⟩
    have hKey : key = jobId := (hAdmitted.keyed key start hStart).symm.trans hId
    rw [hKey] at hStart
    exact ⟨hStart, hId, hRevivable, restoredContext_start digest⟩

theorem restarted (digest : Digest) :
    Admitted node (restoreWorkers digest node { state with jobs := ∅ } state.starts.values) := by
  have hStarts := (restoreWorkers_disk digest node { state with jobs := ∅ } state.starts.values).1
  refine ⟨?_, ?_, ?_, ?_⟩
  · rw [hStarts]
    exact hAdmitted.keyed
  · intro jobId job hJob
    exact (hAdmitted.revived hJob).2.1
  · intro jobId job hJob start hStart
    have hRevived := hAdmitted.revived hJob
    rw [hStarts, hRevived.1] at hStart
    exact (Option.some.inj hStart).symm
  · intro jobId job hJob _
    have hRevived := hAdmitted.revived hJob
    rw [hStarts]
    exact ⟨hRevived.1, hRevived.2.2.1⟩

end Admitted

----
-- Definitions Are Kept
----

section

variable {digest : Digest} {setup : NodeSetup} {next : TrainingNode}

/- Every event keeps the orders on disk, if orders repeat. -/
theorem Admitted.step (event : NodeEvent) (hAdmitted : Admitted setup.node state)
    (hRepeats : RepeatsAdmitted setup state event)
    (hNext : nodeStep digest setup state event = some next) : Admitted setup.node next := by
  cases event with
  | start peer start written =>
    rw [nodeStep] at hNext
    split_ifs at hNext
    cases hNext
    rcases acceptStart_cases written
      with ⟨-, hSame, -⟩ | ⟨hCheck, hWritten, -, ⟨-, hActive⟩ | ⟨hNone, hNew⟩⟩
    · rw [hSame]
      exact hAdmitted
    · rw [hActive]
      apply hAdmitted.repeated
      intro job hFound
      exact hRepeats job hFound hCheck hWritten
    · rw [hNew]
      have hPersisted := hAdmitted.repeated start (by simp [hNone])
      have hWritten : (state.persistStart start).starts[start.jobId]? = some start := by
        simp [TrainingNode.persistStart]
      apply hPersisted.running
      · intro other hOther
        rw [hWritten] at hOther
        exact (Option.some.inj hOther).symm
      · intro _
        exact ⟨hWritten, (checkStart_ok hCheck).2⟩
  | coordinated start written =>
    simp only [nodeStep] at hNext
    split_ifs at hNext with hOwn
    cases hNext
    rcases hOwn with ⟨hSelf, _, hFresh⟩
    have hRunning : Admitted setup.node (state.run ⟨start, .new start .coordinator⟩) := by
      apply hAdmitted.running
      · intro other hOther
        rw [Option.isNone_iff_eq_none.mp hFresh] at hOther
        cases hOther
      · intro hOther
        exact absurd hSelf hOther
    cases written with
    | false => exact hRunning
    | true =>
      apply hRunning.repeated
      intro job hFound
      simp [TrainingNode.run] at hFound
      rw [← hFound]
  | worked jobId after disk =>
    simp only [nodeStep] at hNext
    cases hJob : state.jobs[jobId]? with
    | none =>
      rw [hJob] at hNext
      cases hNext
    | some job =>
      rw [hJob] at hNext
      cases hNext
      have hId := hAdmitted.order jobId job hJob
      apply Admitted.withDisk
      apply hAdmitted.running
      · rw [hId]
        exact hAdmitted.noOther jobId job hJob
      · rw [hId]
        exact hAdmitted.onDisk jobId job hJob
  | ended jobId =>
    cases hNext
    exact hAdmitted.ended jobId
  | restarted =>
    cases hNext
    exact hAdmitted.restarted digest

/-
  An event keeps the definitions of the active jobs exactly if
  an order for one of them repeats the admitted one.
-/
theorem keepsDefinition_iff {event : NodeEvent} (hAdmitted : Admitted setup.node state)
    (hNext : nodeStep digest setup state event = some next) :
    KeepsDefinition digest setup state event ↔ RepeatsAdmitted setup state event := by
  unfold KeepsDefinition
  rw [hNext]
  simp only [Option.some.injEq, forall_eq']
  cases event with
  | start peer start written =>
    rw [nodeStep] at hNext
    split_ifs at hNext with hSelf
    cases hNext
    constructor
    · intro hKeeps job hFound hCheck hWritten
      rcases acceptStart_cases written with ⟨hRefused, -⟩ | ⟨-, -, hAcked, -⟩
      · rcases hRefused with hRefused | hUnwritten
        · exact absurd hCheck hRefused
        · rw [hWritten] at hUnwritten
          cases hUnwritten
      · exact (hKeeps job hFound).2 hAcked
    · intro hRepeats job hFound
      rcases acceptStart_cases written
        with ⟨-, hSame, hSilent⟩ | ⟨hCheck, hWritten, -, ⟨-, hActive⟩ | ⟨hNone, -⟩⟩
      · rw [hSame]
        exact ⟨rfl, fun hAcked => absurd hSilent hAcked⟩
      · have hStart := hRepeats job hFound hCheck hWritten
        have hOther : job.admitted.coordinator ≠
          setup.node := by
          rw [← hStart, (checkStart_ok hCheck).1]
          exact hSelf
        have hDisk := (hAdmitted.onDisk start.jobId job hFound hOther).1
        refine ⟨?_, fun _ => hStart⟩
        rw [hActive, hDisk, ← hStart]
        simp [TrainingNode.persistStart]
      · rw [hNone] at hFound
        cases hFound
  | restarted =>
    cases hNext
    refine iff_of_true ?_ trivial
    intro jobId job hJob
    have hId := hAdmitted.order jobId job hJob
    constructor
    · intro revived hRevived
      rcases hAdmitted.revived hRevived with ⟨hDisk, -, -, hStart⟩
      rw [hStart]
      exact hAdmitted.noOther jobId job hJob _ hDisk
    · intro hOther hUnfinished
      rcases hAdmitted.onDisk jobId job hJob hOther with ⟨hStart, hRevivable⟩
      rw [← hId]
      exact restoreWorkers_revives digest setup.node { state with jobs := ∅ } state.starts.values
        (mem_values_iff.mpr ⟨jobId, hStart⟩) hOther hRevivable hUnfinished
  | _ => exact iff_of_true trivial trivial

end

/-
  Along every run of a node, the definitions of its active jobs
  are kept exactly if every order for an active job that the
  node takes repeats the admitted one.
-/
theorem definition_kept_iff_repeated (digest : Digest) (setup : NodeSetup) (disk : Disk)
    (events : List NodeEvent) (final : TrainingNode)
    (hRun : run (nodeStep digest setup) ⟨∅, ∅, disk⟩ events = some final) :
    Meets (nodeStep digest setup) (KeepsDefinition digest setup) ⟨∅, ∅, disk⟩ events ↔
      Meets (nodeStep digest setup) (RepeatsAdmitted setup) ⟨∅, ∅, disk⟩ events := by
  apply meets_iff_of_invariant (Admitted setup.node) _ (.empty disk) hRun
  intro state event next hAdmitted hNext
  have hIff := keepsDefinition_iff hAdmitted hNext
  refine ⟨hIff, ?_⟩
  intro hKeeps
  exact hAdmitted.step event (hIff.mp hKeeps) hNext

----
-- Orders of the Small Job
----

def blankDisk : Disk where
  states := fun _ => none
  manifests := fun _ => none
  shardStates := fun _ _ => none

/- The first worker of the small job. -/
def smallSetup : NodeSetup := ⟨⟨1⟩, 4096⟩

/- An order of node 8 for the same job, with fewer windows. -/
def foreignStart : TrainingStart :=
  { smallStart 0 with coordinator := ⟨8⟩, maxWindows := 2 }

instance (setup : NodeSetup) (state : TrainingNode) (event : NodeEvent) :
    Decidable (RepeatsAdmitted setup state event) := by
  unfold RepeatsAdmitted
  split
  · infer_instance
  · infer_instance

theorem definition_kept_small : ∃ final, run (nodeStep smallDigest smallSetup) ⟨∅, ∅, blankDisk⟩
    [.start ⟨9⟩ (smallStart 0) true, .start ⟨9⟩ (smallStart 0) true, .restarted] =
    some final ∧
    final.jobs[(⟨7⟩ : JobId)]?.map (fun job => job.context.start) = some (smallStart 0) ∧
    Meets (nodeStep smallDigest smallSetup) (KeepsDefinition smallDigest smallSetup)
      ⟨∅, ∅, blankDisk⟩
      [.start ⟨9⟩ (smallStart 0) true, .start ⟨9⟩ (smallStart 0) true, .restarted] := by
  refine ⟨_, rfl, ?_, ?_⟩
  · decide +kernel
  · refine (definition_kept_iff_repeated smallDigest smallSetup blankDisk _ _ rfl).mpr ?_
    decide +kernel

/-
  Node 8 sends an order for the job that node 9 has started.
  It is acknowledged, and the job is revived under it.
-/
theorem definition_replaced : ∃ final, run (nodeStep smallDigest smallSetup) ⟨∅, ∅, blankDisk⟩
    [.start ⟨9⟩ (smallStart 0) true, .start ⟨8⟩ foreignStart true, .restarted] = some final ∧
    final.jobs[(⟨7⟩ : JobId)]?.map (fun job => job.context.start) = some foreignStart ∧
    ¬ Meets (nodeStep smallDigest smallSetup) (KeepsDefinition smallDigest smallSetup)
      ⟨∅, ∅, blankDisk⟩
      [.start ⟨9⟩ (smallStart 0) true, .start ⟨8⟩ foreignStart true, .restarted] := by
  refine ⟨_, rfl, ?_, ?_⟩
  · decide +kernel
  · intro hMeets
    have hKeeps := (hMeets.2 _ rfl).1 _ rfl
    have hAdmitted := (hKeeps _ rfl).1
    revert hAdmitted
    decide +kernel

end IntelligenceNetwork.Training
