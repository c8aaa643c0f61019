import IntelligenceNetwork.Jobs.Handler

/-
  What a job leaves behind.

  A handler that ends in order has given back its admission and
  recorded how the job ended.  It does not if a record cannot
  be made or if the peer is lost before the job runs: `cancel`
  leaves the job in the table of the runtime.

  Main declarations:
    * `slotRules`
    * `NoLeak`
    * `ended_job_leaves_nothing`
-/

----
-- Rules for Slots
----

namespace IntelligenceNetwork.Jobs

open Transition

variable {flag : Mode → Bool} {id : JobId} {task : Task} {tasks : List Task}

/-
  A handler ends without an admission and without an open
  record.  Every record finds its place, those of an open job
  are saved, and the peer learns that the job starts.
-/
def slotRules : Discipline where
  atEnd mode := !mode.holds && !mode.busy
  atRecord mode state := mode.owned.isSome || state.terminal
  atExecute _ := true
  recordFails _ := false
  saveFails mode := !mode.busy
  sendFails
  | .accepted _ | .started => false
  | _ => true

/- However the execution ends, the end is recorded before the handler does. -/
theorem answerOutcome_slots (request : JobRequest) (result : Except String ExecutionOutcome)
    (sequence : UInt32) :
    (answerOutcome request result sequence).Follows slotRules ⟨some .running, false, false⟩ := by
  have hFailed : ∀ (state : JobState) (code error : String),
    (recordAnyway (jobRecord request .failed (some error)) (sendLast
      ⟨request.jobId, .failed, nextSequence sequence, .failed code error⟩)).Follows slotRules
        ⟨some state, false, false⟩ :=
    fun _ _ _ => recordAnyway_follows rfl nofun (sendLast_follows rfl)
  cases result with
  | error error => exact hFailed .running "execution_error" error
  | ok outcome =>
    cases outcome <;>
      exact ⟨rfl, nofun, ⟨rfl, fun _ error => hFailed _ _ error⟩, fun _ error => hFailed _ _ error⟩

theorem handleRemoteJob_slots (request : JobRequest) (capability : Option CapabilityConfig)
    (peer : NodeId) : (handleRemoteJob request capability peer).Follows slotRules Mode.start := by
  have hRuns : (runRemoteJob request).Follows slotRules ⟨some .admitted, true, true⟩ := by
    refine ⟨rfl, nofun, ⟨?executes, nofun⟩, nofun⟩
    case executes => exact ⟨rfl, answerOutcome_slots request⟩
  apply handleRemoteJob_follows rfl rfl
  refine ⟨rfl, ?admitted, ?denied⟩
  case admitted => exact ⟨rfl, nofun, ⟨hRuns, nofun⟩, nofun⟩
  case denied =>
    intro error
    exact recordAnyway_follows rfl nofun (sendLast_follows rfl)

theorem executeLocal_slots {request : JobRequest} {capability : CapabilityConfig}
    {home : NodeId} : (executeLocal request capability home).Follows slotRules Mode.start := by
  unfold executeLocal
  split
  · rfl
  · split
    · rfl
    · refine ⟨⟨rfl, ⟨rfl, nofun, ⟨rfl, ?ends⟩, nofun⟩, ?denied⟩, rfl, rfl, rfl, fun _ => rfl⟩
      case ends =>
        rintro (error | outcome) _
        · exact recordAnyway_follows rfl nofun rfl
        · cases outcome <;> exact recordAnyway_follows rfl nofun rfl
      case denied => exact fun _ => recordAnyway_follows rfl nofun rfl

----
-- Slots and Records
----

/- Some handler with the flag has the job. -/
def HeldBy (flag : Mode → Bool) (tasks : List Task) (id : JobId) : Prop :=
  ∃ (i : Nat) (task : Task), tasks[i]? = some task ∧ task.id = id ∧ flag task.mode = true

theorem HeldBy.set {index : Nat} {changed : Task} (hTask : tasks[index]? = some task)
    (hId : changed.id = task.id)
    (hHeld : (id = task.id ∧ flag changed.mode = true) ∨ HeldBy flag tasks id ∧
      (id = task.id → flag task.mode = true → flag changed.mode = true)) :
    HeldBy flag (tasks.set index changed) id := by
  have hHere : (tasks.set index changed)[index]? = some changed :=
    List.getElem?_set_self (List.getElem?_eq_some_iff.mp hTask).1
  rcases hHeld with ⟨rfl, hFlag⟩ | ⟨⟨i, other, hGet, rfl, hFlag⟩, hKeeps⟩
  · exact ⟨index, changed, hHere, hId, hFlag⟩
  · by_cases hIndex : index = i
    · subst hIndex
      cases hTask.symm.trans hGet
      exact ⟨index, changed, hHere, hId, hKeeps rfl hFlag⟩
    · exact ⟨i, other, by rwa [List.getElem?_set_ne hIndex], rfl, hFlag⟩

theorem HeldBy.add (added : Task) (hHeld : HeldBy flag tasks id) :
    HeldBy flag (tasks ++ [added]) id := by
  obtain ⟨i, task, hGet, hTask⟩ := hHeld
  exact ⟨i, task, List.getElem?_append_left (List.getElem?_eq_some_iff.mp hGet).1 ▸ hGet, hTask⟩

/-
  A slot or an open record always has a handler that closes it,
  and a permit that is not free has a handler that holds it.
-/
structure NoLeak (config : RuntimeConfig) (net : JobNet) : Prop where
  follows : Disciplined slotRules net
  config_eq : net.node.config = config
  permits : net.node.queue + net.tasks.countP (·.mode.holds) = config.maxQueuedJobs
  slots : ∀ id ∈ net.node.active, HeldBy Mode.holds net.tasks id
  records : ∀ (id : JobId) (job : PersistedJob), net.node.jobs[id]? = some job →
    job.state.terminal = false → HeldBy Mode.busy net.tasks id

section

variable {env : JobEnv} {node after : JobNode} {mode : Mode}

theorem active_of_moves (hMoves : Moves env node task after mode)
    (hFollows : task.plan.Follows slotRules task.mode) (hActive : id ∈ after.active) :
    (id = task.id ∧ mode.holds = true) ∨
      id ∈ node.active ∧ (id = task.id → task.mode.holds = true → mode.holds = true) := by
  cases hMoves with
  | admitted _ _ => exact (List.mem_cons.mp hActive).imp (⟨·, rfl⟩) (⟨·, fun _ _ => rfl⟩)
  | released _ _ =>
    simp only [finish, List.mem_filter, decide_eq_true_eq] at hActive
    exact Or.inr ⟨hActive.1, fun hEq => absurd hEq hActive.2⟩
  | dropped hPlan =>
    -- No handler of an orderly run returns with its admission.
    rw [hPlan] at hFollows
    have hNone : task.mode.holds = false := by
      have hEnd := hFollows.1
      simp only [slotRules, Bool.and_eq_true, Bool.not_eq_true'] at hEnd
      exact hEnd.1
    exact Or.inr ⟨hActive, fun _ hHolds => hNone.symm.trans hHolds⟩
  | _ => exact Or.inr ⟨hActive, fun _ hHolds => hHolds⟩

theorem queue_of_moves (hMoves : Moves env node task after mode)
    (hFollows : task.plan.Follows slotRules task.mode) :
    after.config = node.config ∧
      after.queue + mode.holds.toNat = node.queue + task.mode.holds.toNat := by
  cases hMoves with
  | admitted hPlan hQueue =>
    rw [hPlan] at hFollows
    have hNone := hFollows.1
    refine ⟨rfl, ?_⟩
    rw [hNone]
    exact Nat.sub_add_cancel hQueue
  | _ => exact ⟨rfl, rfl⟩

theorem open_of_moves (hMoves : Moves env node task after mode)
    (hFollows : task.plan.Follows slotRules task.mode) {job : PersistedJob}
    (hJob : after.jobs[id]? = some job) (hOpen : job.state.terminal = false) :
    (id = task.id ∧ mode.busy = true) ∨
      node.jobs[id]? = some job ∧ (id = task.id → task.mode.busy = true → mode.busy = true) := by
  have hElse : ∀ {written : PersistedJob}, recordJob node.jobs task.id written = some after.jobs →
    id ≠ task.id → node.jobs[id]? = some job := by
    intro written hRecord hNe
    rcases (recordJob_spec hRecord id).2 (Ne.symm hNe) with hSame | ⟨hNone, -⟩
    · exact hSame ▸ hJob
    · rw [hJob] at hNone
      cases hNone
  by_cases hId : id = task.id
  · subst hId
    cases hMoves with
    | reserved hPlan hNew hRecord => exact Or.inl ⟨rfl, rfl⟩
    | @recorded written _ _ _ hPlan hRecord =>
      cases hJob.symm.trans (recordJob_spec hRecord task.id).1
      rw [hPlan] at hFollows
      have hOwned : task.mode.owned.isSome = true := by
        simpa [slotRules, hOpen] using hFollows.1
      obtain ⟨state, hState⟩ := Option.isSome_iff_exists.mp hOwned
      exact Or.inl ⟨rfl, by simpa [Mode.busy, Mode.record, hState] using hOpen⟩
    | released _ hOwned =>
      exact Or.inr ⟨hJob, fun _ hBusy => by simpa [Mode.busy, Mode.release, hOwned] using hBusy⟩
    | _ => exact Or.inr ⟨hJob, fun _ hBusy => hBusy⟩
  · refine Or.inr ⟨?_, fun hEq => absurd hEq hId⟩
    cases hMoves with
    | reserved hPlan _ hRecord | recorded hPlan hRecord => exact hElse hRecord hId
    | _ => exact hJob

end

theorem countP_holds_set {index : Nat} (hTask : tasks[index]? = some task) (changed : Task) :
    (tasks.set index changed).countP (·.mode.holds) + task.mode.holds.toNat =
      tasks.countP (·.mode.holds) + changed.mode.holds.toNat := by
  obtain ⟨hIndex, rfl⟩ := List.getElem?_eq_some_iff.mp hTask
  have hCounted := List.boole_getElem_le_countP (p := fun task : Task => task.mode.holds) hIndex
  have hToNat : ∀ flag : Bool, flag.toNat = if flag then 1 else 0 := by decide
  rw [List.countP_set hIndex, hToNat, hToNat]
  omega

theorem NoLeak.step {config : RuntimeConfig} (net : JobNet) (action : JobAction) (next : JobNet)
    (hNet : NoLeak config net)
    (hTolerated : atSteps (tolerated slotRules) net action = true)
    (hStep : jobStep net action = some next) : NoLeak config next := by
  have hFollows := hNet.follows.step handleRemoteJob_slots
    (fun _ _ _ => executeLocal_slots) hTolerated hStep
  rcases jobStep_cases hStep with ⟨added, hMode, rfl, -⟩ | ⟨index, env, task, rfl, hTask, rfl⟩ |
    ⟨now, rfl⟩
  · have hNone : [added].countP (·.mode.holds) = 0 := by simp [hMode, Mode.start]
    exact ⟨hFollows, hNet.config_eq, by rw [List.countP_append, hNone]; exact hNet.permits,
      fun id hId => (hNet.slots id hId).add added,
      fun id job hJob hOpen => (hNet.records id job hJob hOpen).add added⟩
  · obtain ⟨hMoves, hId⟩ := (perform_spec slotRules).1
    have hThis := hNet.follows index task hTask
    obtain ⟨hConfig, hQueue⟩ := queue_of_moves hMoves hThis
    have hCount := countP_holds_set hTask (perform env net.node task).2
    have hPermits := hNet.permits
    exact ⟨hFollows, hConfig.trans hNet.config_eq, by dsimp only; omega,
      fun id hActive => HeldBy.set hTask hId ((active_of_moves hMoves hThis hActive).imp_right
        (And.imp_left (hNet.slots id))),
      fun id job hJob hOpen => HeldBy.set hTask hId
        ((open_of_moves hMoves hThis hJob hOpen).imp_right
          (And.imp_left (fun hOld => hNet.records id job hOld hOpen)))⟩
  · refine ⟨hFollows, hNet.config_eq, congrArg RuntimeConfig.maxQueuedJobs hNet.config_eq, nofun,
      fun id job hJob hOpen => ?_⟩
    simp only [JobNode.restart, getElem?_restoreJobs] at hJob
    obtain ⟨old, -, rfl⟩ := Option.map_eq_some_iff.mp hJob
    rw [restoreJob_terminal] at hOpen
    cases hOpen

/- New jobs are admitted as long as there are permits for them. -/
theorem admits_all {node : JobNode} {requests : List JobRequest}
    (hIds : (requests.map (·.jobId)).Nodup)
    (hNew : ∀ request ∈ requests, request.jobId ∉ node.active)
    (hFits : ∀ request ∈ requests, node.config.Fits request)
    (hRoom : requests.length ≤ node.queue) :
    ∃ after, requests.foldlM JobNode.admitJob node = .ok after := by
  induction requests generalizing node with
  | nil => exact ⟨node, rfl⟩
  | cons request rest ih =>
    rw [List.map_cons, List.nodup_cons] at hIds
    rw [List.forall_mem_cons] at hNew hFits
    rw [List.length_cons] at hRoom
    have hAdmit := JobNode.admit_eq_ok_iff.mpr ⟨hFits.1, by omega, hNew.1, rfl⟩
    rw [List.foldlM_cons, hAdmit]
    refine ih hIds.2 (fun other hOther => ?_) hFits.2 (Nat.le_sub_one_of_lt hRoom)
    rw [List.mem_cons, not_or]
    refine ⟨fun hSame => hIds.1 ?_, hNew.2 other hOther⟩
    exact hSame ▸ List.mem_map_of_mem hOther

/-
  Once the handlers of a job have ended, it has no slot and its
  record is terminal.  Once all have, the queue is free again.
-/
theorem ended_job_leaves_nothing (config : RuntimeConfig) (actions : List JobAction)
    (final : JobNet) (hTolerated : Meets jobStep
      (fun net action => atSteps (tolerated slotRules) net action = true) (idleNet config) actions)
    (hRun : run jobStep (idleNet config) actions = some final) :
    (∀ id, (∀ task ∈ final.tasks, task.id = id → task.plan = .done) →
      id ∉ final.node.active ∧ (∀ task ∈ final.tasks, task.id = id → task.mode.holds = false) ∧
      ∀ job, final.node.jobs[id]? = some job → job.state.terminal = true) ∧
    ((∀ task ∈ final.tasks, task.plan = .done) → ∀ requests : List JobRequest,
      (requests.map (·.jobId)).Nodup → (∀ request ∈ requests, config.Fits request) →
      requests.length ≤ config.maxQueuedJobs →
      ∃ after, requests.foldlM JobNode.admitJob final.node = .ok after) := by
  have hIdle : NoLeak config (idleNet config) :=
    ⟨by rintro i task ⟨⟩, rfl, rfl, nofun, by simp [idleNet]⟩
  have hFinal := invariant_of_run (NoLeak config) NoLeak.step hIdle hTolerated hRun
  have hAtEnd : ∀ task ∈ final.tasks, task.plan = .done →
    task.mode.holds = false ∧ task.mode.busy = false := by
    intro task hMem hDone
    obtain ⟨i, hGet⟩ := List.getElem?_of_mem hMem
    have hLast := hFinal.follows i task hGet
    rw [hDone] at hLast
    simpa [Plan.Follows, slotRules] using hLast
  have hFree : ∀ id, (∀ task ∈ final.tasks, task.id = id → task.plan = .done) →
    id ∉ final.node.active := by
    intro id hEnded hActive
    obtain ⟨i, task, hGet, hId, hHolds⟩ := hFinal.slots id hActive
    have hMem := List.mem_of_getElem? hGet
    rw [(hAtEnd task hMem (hEnded task hMem hId)).1] at hHolds
    cases hHolds
  refine ⟨fun id hEnded => ⟨hFree id hEnded, ?_, ?_⟩, fun hEnded requests hIds hFits hRoom => ?_⟩
  · exact fun task hMem hId => (hAtEnd task hMem (hEnded task hMem hId)).1
  · intro job hJob
    by_contra hOpen
    obtain ⟨i, task, hGet, hId, hBusy⟩ :=
      hFinal.records id job hJob (Bool.not_eq_true _ ▸ hOpen)
    have hMem := List.mem_of_getElem? hGet
    rw [(hAtEnd task hMem (hEnded task hMem hId)).2] at hBusy
    cases hBusy
  · have hNone : final.tasks.countP (·.mode.holds) = 0 := by
      rw [List.countP_eq_zero]
      exact fun task hMem => by simp [(hAtEnd task hMem (hEnded task hMem)).1]
    have hPermits := hFinal.permits
    refine admits_all hIds (fun request _ => hFree _ fun task hMem _ => hEnded task hMem)
      (hFinal.config_eq ▸ hFits) (by omega)

/- One job has ended, and two new ones fill the queue. -/
theorem ended_job_leaves_nothing_once : ∃ final after,
    run jobStep (idleNet smallRuntime) (requestJob ⟨1⟩ :: advances 13 0) = some final ∧
      final.node.started = [⟨1⟩] ∧ ⟨1⟩ ∉ final.node.active ∧
      [smallRequest ⟨2⟩, smallRequest ⟨3⟩].foldlM JobNode.admitJob final.node = .ok after := by
  have hEnded := ended_job_leaves_nothing smallRuntime (requestJob ⟨1⟩ :: advances 13 0) _
    (by decide +kernel) rfl
  have hAdmits := hEnded.2 (fun _ hMem => List.mem_singleton.mp hMem ▸ rfl)
    [smallRequest ⟨2⟩, smallRequest ⟨3⟩] (by decide) (by decide) (by decide)
  exact ⟨_, hAdmits.choose, rfl, by decide +kernel,
    (hEnded.1 ⟨1⟩ (fun _ hMem _ => List.mem_singleton.mp hMem ▸ rfl)).1, hAdmits.choose_spec⟩

/- The peer is lost before it is told of the admission. -/
def lostPeer : List JobAction :=
  requestJob ⟨1⟩ :: advances 4 0 ++ .advance 0 { goodEnv with sent := false } :: advances 4 0

theorem lostPeer_keeps_slot : ¬ ∀ final, run jobStep (idleNet smallRuntime) lostPeer = some final →
    (∀ task ∈ final.tasks, task.id = ⟨1⟩ → task.plan = .done) → ⟨1⟩ ∉ final.node.active :=
  fun hAll => hAll _ rfl (fun _ hMem _ => List.mem_singleton.mp hMem ▸ rfl) (by decide +kernel)

end IntelligenceNetwork.Jobs
