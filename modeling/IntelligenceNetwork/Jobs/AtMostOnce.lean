import IntelligenceNetwork.Jobs.Handler

/-
  How often a job is begun.

  A job is begun only by the handler that reserved it, and it is
  reserved only while it has no record.  So it is begun once, as
  long as no record is forgotten: neither by a full history nor
  by an older table that is written over a newer one.

  Main declarations:
    * `remembers`
    * `StartsOnce`
    * `executions_nodup`
-/

----
-- Claims
----

namespace IntelligenceNetwork.Jobs

open Transition

variable {id : JobId} {env : JobEnv} {task : Task}

/- A handler begins the job that it reserved. -/
def claimRules : Discipline :=
  ⟨fun _ => true, fun _ _ => true, fun mode => mode.claim, fun _ => true, fun _ => true,
    fun _ => true⟩

theorem handleRemoteJob_claims (request : JobRequest) (capability : Option CapabilityConfig)
    (peer : NodeId) : (handleRemoteJob request capability peer).Follows claimRules Mode.start := by
  apply handleRemoteJob_follows rfl rfl
  simp only [admitRemoteJob, runRemoteJob, recordAnyway, sendRejection, sendLast, Plan.Follows,
    claimRules, implies_true, true_and, and_true]
  refine ⟨rfl, rfl, fun result sequence => ?_⟩
  cases result <;> simp [answerOutcome, sendOutcome, recordAnyway, sendLast, Plan.Follows]

theorem executeLocal_claims {request : JobRequest} {capability : CapabilityConfig}
    {home : NodeId} : (executeLocal request capability home).Follows claimRules Mode.start := by
  unfold executeLocal
  split
  · rfl
  · split
    · rfl
    · simp only [recordAnyway, Plan.Follows, claimRules, implies_true, true_and, and_true]
      refine ⟨rfl, rfl, fun result _ => ?_⟩
      cases result <;> simp [Plan.Follows]

/- The record is in the table and in the file. -/
def Known (node : JobNode) (id : JobId) : Prop :=
  node.jobs[id]? ≠ none ∧ node.file[id]? ≠ none

/-
  A new record finds room, and a table that is written to the
  file has all the records that there are by then.
-/
def remembers (env : JobEnv) (node : JobNode) (task : Task) : Bool :=
  match task.plan with
  | .reserve _ _ _ _ _ _ | .record _ _ _ =>
    node.jobs[task.id]?.isSome || node.jobs.size < maxJobHistory
  | .save snapshot _ _ => env.saved && node.jobs.keys.all (fun id => snapshot[id]?.isSome)
  | _ => true

theorem recordJob_keeps {jobs after : History} {other : JobId} {job : PersistedJob}
    (hRecord : recordJob jobs id job = some after)
    (hRoom : (jobs[id]?.isSome || jobs.size < maxJobHistory) = true)
    (hOther : jobs[other]? ≠ none) : after[other]? ≠ none := by
  obtain ⟨hHere, hElse⟩ := recordJob_spec hRecord other
  by_cases hEq : id = other
  · rw [← hEq, hHere]
    simp
  · rcases hElse hEq with hSame | ⟨-, hNone, _⟩
    · rwa [hSame]
    · simp [hNone] at hRoom
      omega

section

variable {node after : JobNode} {mode : Mode}

variable (hMoves : Moves env node task after mode)
include hMoves

theorem known_of_moves (hRemembers : remembers env node task = true) (hKnown : Known node id) :
    Known after id := by
  cases hMoves with
  | reserved hPlan _ hRecord =>
    rw [remembers, hPlan] at hRemembers
    exact ⟨recordJob_keeps hRecord hRemembers hKnown.1, recordJob_keeps hRecord hRemembers hKnown.1⟩
  | recorded hPlan hRecord =>
    rw [remembers, hPlan] at hRemembers
    exact ⟨recordJob_keeps hRecord hRemembers hKnown.1, hKnown.2⟩
  | saved hPlan =>
    simp only [remembers, hPlan, Bool.and_eq_true, List.all_eq_true,
      Std.TreeMap.mem_keys] at hRemembers
    refine ⟨hKnown.1, Option.isSome_iff_ne_none.mp (hRemembers.2 id ?_)⟩
    exact Std.TreeMap.mem_iff_isSome_getElem?.mpr (Option.isSome_iff_ne_none.mpr hKnown.1)
  | _ => exact hKnown

/- A claim is a new one only for a job without a record. -/
theorem claim_of_moves (hClaim : mode.claim = true) : after.started = node.started ∧
    (task.mode.claim = true ∨ node.jobs[task.id]? = none ∧ Known after task.id) := by
  cases hMoves with
  | reserved hPlan hNew hRecord =>
    have hHere := (recordJob_spec hRecord task.id).1
    exact ⟨rfl, Or.inr ⟨hNew, by simp [Known, hHere]⟩⟩
  | begun _ => cases hClaim
  | released hOld _ => exact ⟨rfl, Or.inl (hOld hClaim)⟩
  | _ => exact ⟨rfl, Or.inl hClaim⟩

theorem started_of_moves (hFollows : task.plan.Follows claimRules task.mode) :
    after.started = node.started ∨
      after.started = task.id :: node.started ∧ task.mode.claim = true := by
  cases hMoves with
  | begun hPlan =>
    rw [hPlan] at hFollows
    exact Or.inr ⟨rfl, hFollows.1⟩
  | _ => exact Or.inl rfl

end

----
-- Executions
----

/-
  One handler at most can still begin a job, and only if it was
  not begun before; what was begun is never forgotten.
-/
structure StartsOnce (net : JobNet) : Prop where
  follows : Disciplined claimRules net
  fresh : ∀ (i : Nat) (task : Task), net.tasks[i]? = some task → task.mode.claim = true →
    Known net.node task.id ∧ task.id ∉ net.node.started
  unique : Exclusive Mode.claim net
  begun : ∀ id ∈ net.node.started, Known net.node id
  nodup : net.node.started.Nodup

theorem StartsOnce.advance {net : JobNet} (hNet : StartsOnce net) {index : Nat}
    (hTask : net.tasks[index]? = some task) (hRemembers : remembers env net.node task = true)
    (hFollows : Disciplined claimRules ⟨(perform env net.node task).1,
      net.tasks.set index (perform env net.node task).2⟩) :
    StartsOnce ⟨(perform env net.node task).1,
      net.tasks.set index (perform env net.node task).2⟩ := by
  obtain ⟨hMoves, hId⟩ := (perform_spec claimRules).1
  generalize perform env net.node task = done at hMoves hId hFollows ⊢
  have hKnown : ∀ id, Known net.node id → Known done.1 id :=
    fun _ => known_of_moves hMoves hRemembers
  have hStarted := started_of_moves hMoves (hNet.follows index task hTask)
  refine ⟨hFollows, ?_, ?_, ?_, ?_⟩
  · intro i other hGet hClaim
    rcases getElem?_set_cases hGet with ⟨-, rfl⟩ | ⟨hNe, hGet⟩
    · obtain ⟨hSame, hOld | ⟨hNone, hNow⟩⟩ := claim_of_moves hMoves hClaim
      · obtain ⟨hHad, hNot⟩ := hNet.fresh index task hTask hOld
        exact hId ▸ ⟨hKnown _ hHad, hSame ▸ hNot⟩
      · exact hId ▸ ⟨hNow, fun hMem => (hNet.begun _ (hSame ▸ hMem)).1 hNone⟩
    · obtain ⟨hHad, hNot⟩ := hNet.fresh i other hGet hClaim
      refine ⟨hKnown _ hHad, ?_⟩
      rcases hStarted with hSame | ⟨hMore, hMine⟩
      · exact hSame ▸ hNot
      · rw [hMore, List.mem_cons, not_or]
        exact ⟨fun hEq => hNe (hNet.unique i index other task hGet hTask hClaim hMine hEq), hNot⟩
  · exact hNet.unique.set hTask hId (fun j other hGet hClaim => (hNet.fresh j other hGet
      hClaim).1.1) (fun hClaim => (claim_of_moves hMoves hClaim).2.imp_right And.left)
  · intro id hMem
    rcases hStarted with hSame | ⟨hMore, hMine⟩
    · exact hKnown id (hNet.begun id (hSame ▸ hMem))
    · rcases List.mem_cons.mp (hMore ▸ hMem) with rfl | hMem
      · exact hKnown _ (hNet.fresh index task hTask hMine).1
      · exact hKnown id (hNet.begun id hMem)
  · rcases hStarted with hSame | ⟨hMore, hMine⟩
    · exact hSame ▸ hNet.nodup
    · exact hMore ▸ List.nodup_cons.mpr ⟨(hNet.fresh index task hTask hMine).2, hNet.nodup⟩

theorem StartsOnce.step (net : JobNet) (action : JobAction) (next : JobNet)
    (hNet : StartsOnce net) (hRemembers : atSteps remembers net action = true)
    (hStep : jobStep net action = some next) : StartsOnce next := by
  have hFollows : Disciplined claimRules next := by
    refine hNet.follows.step handleRemoteJob_claims (fun _ _ _ => executeLocal_claims) ?_ hStep
    cases action <;> simp [atSteps, Option.all_eq_true, tolerated, claimRules]
    intro task _
    cases task.plan <;> rfl
  rcases jobStep_cases hStep with ⟨added, hMode, rfl, -⟩ | ⟨index, env, task, rfl, hTask, rfl⟩ |
    ⟨now, rfl⟩
  · refine ⟨hFollows, fun i task hGet hClaim => ?_, hNet.unique.add (by rw [hMode]; rfl),
      hNet.begun, hNet.nodup⟩
    rcases getElem?_concat_cases hGet with rfl | hGet
    · simp [hMode, Mode.start] at hClaim
    · exact hNet.fresh i task hGet hClaim
  · exact hNet.advance hTask (by simpa [atSteps, hTask] using hRemembers) hFollows
  · refine ⟨hFollows, (by rintro i task ⟨⟩), (by rintro i j task other ⟨⟩), fun id hMem => ?_,
      hNet.nodup⟩
    have hFile := (hNet.begun id hMem).2
    simp [Known, JobNode.restart, getElem?_restoreJobs, hFile]

/-
  In a run that forgets no record every job is begun at most
  once, whatever is repeated and whenever the node restarts.
-/
theorem executions_nodup (config : RuntimeConfig) (actions : List JobAction) (final : JobNet)
    (hRemembers : Meets jobStep (fun net action => atSteps remembers net action = true)
      (idleNet config) actions)
    (hRun : run jobStep (idleNet config) actions = some final) : final.node.started.Nodup := by
  have hIdle : StartsOnce (idleNet config) := by
    refine ⟨?_, ?_, ?_, ?_, List.nodup_nil⟩
    · rintro i task ⟨⟩
    · rintro i task ⟨⟩
    · rintro i j task other ⟨⟩
    · rintro id ⟨⟩
  exact (invariant_of_run StartsOnce StartsOnce.step hIdle hRemembers hRun).nodup

/- The job is requested twice, and the node restarted in between. -/
def repeatedRequest : List JobAction :=
  requestJob ⟨1⟩ :: advances 9 0 ++ [.restart 0, requestJob ⟨1⟩] ++ advances 9 0

theorem repeatedRequest_nodup :
    ∃ final, run jobStep (idleNet smallRuntime) repeatedRequest = some final ∧
      final.node.started = [⟨1⟩] ∧ final.node.started.Nodup :=
  ⟨_, rfl, by decide +kernel, executions_nodup smallRuntime repeatedRequest _ (by decide +kernel)
    rfl⟩

/-
  The first handler takes the table for its second write, the
  second one reserves and begins its job, and then the first
  one writes: the record of the job is lost with the restart.
-/
def overtakenWrite : List JobAction :=
  requestJob ⟨1⟩ :: advances 3 0 ++ requestJob ⟨2⟩ :: advances 9 1 ++ advances 1 0 ++
    [.restart 0, requestJob ⟨2⟩] ++ advances 9 0

theorem overtakenWrite_starts_twice :
    ¬ ∀ final, run jobStep (idleNet smallRuntime) overtakenWrite = some final →
      final.node.started.Nodup := by
  intro hAll
  have hTwice : ((run jobStep (idleNet smallRuntime) overtakenWrite).map (·.node.started)) =
    some [⟨2⟩, ⟨2⟩] := by
    decide +kernel
  obtain ⟨final, hRun, hStarted⟩ := Option.map_eq_some_iff.mp hTwice
  have hNodup := hAll final hRun
  rw [hStarted] at hNodup
  revert hNodup
  decide

end IntelligenceNetwork.Jobs
