import IntelligenceNetwork.Jobs.Handler

/-
  The states that the record of a job goes through.

  A record is written without a look at the state before.  The
  handler of a remote job still keeps to the state machine of
  jobs, unless the peer is lost before it learns of the
  admission, or the outcome cannot be stored or sent.  A job
  of the node itself ends without having been Running.

  Main declarations:
    * `history_kept`
    * `stateRules`, `orderly`
    * `InState`
    * `record_changes_allowed`
-/

----
-- Rules for Records
----

namespace IntelligenceNetwork.Jobs

open Transition

variable {id : JobId} {jobs : History} {job : PersistedJob} {after : JobNode} {env : JobEnv}
variable {mode : Mode} {task : Task}

/- Without its admission an Admitted job is one of the node itself that has ended. -/
def stateRules : Discipline where
  atEnd _ := true
  atRecord mode state := mode.owned.all (fun before =>
    before.canTransition state || before == .admitted && !mode.holds)
  atExecute _ := true
  recordFails _ := true
  saveFails mode := mode.owned.isNone || mode.busy
  sendFails
  | .accepted _ | .succeeded _ _ _ | .cancelled | .timedOut => false
  | _ => true

theorem answerOutcome_states (request : JobRequest) (result : Except String ExecutionOutcome)
    (sequence : UInt32) :
    (answerOutcome request result sequence).Follows stateRules ⟨some .running, false, false⟩ := by
  have hFailed : ∀ code error : String,
    (recordAnyway (jobRecord request .failed (some error)) (sendLast
      ⟨request.jobId, .failed, nextSequence sequence, .failed code error⟩)).Follows stateRules
        ⟨some .running, false, false⟩ :=
    fun _ _ => recordAnyway_follows rfl (fun _ => sendLast_follows rfl) (sendLast_follows rfl)
  cases result with
  | error error => exact hFailed "execution_error" error
  | ok outcome =>
    cases outcome <;> exact ⟨rfl, fun _ error => hFailed _ error, ⟨rfl, nofun⟩, nofun⟩

theorem handleRemoteJob_states (request : JobRequest) (capability : Option CapabilityConfig)
    (peer : NodeId) : (handleRemoteJob request capability peer).Follows stateRules Mode.start := by
  have hRuns : (runRemoteJob request).Follows stateRules ⟨some .admitted, true, true⟩ := by
    refine ⟨rfl, fun _ _ => ⟨rfl, rfl⟩, ⟨?executes, ?lostPeer⟩, fun _ _ => ⟨rfl, rfl⟩⟩
    case executes => exact ⟨rfl, answerOutcome_states request⟩
    case lostPeer =>
      intro _ error
      exact recordAnyway_follows rfl (fun _ => ⟨rfl, rfl⟩) ⟨rfl, rfl⟩
  apply handleRemoteJob_follows rfl rfl
  refine ⟨rfl, ?admitted, ?denied⟩
  case admitted =>
    exact ⟨rfl, fun _ _ => sendLast_follows rfl, ⟨hRuns, nofun⟩, fun _ _ => sendLast_follows rfl⟩
  case denied =>
    intro error
    exact recordAnyway_follows rfl (fun _ => sendLast_follows rfl) (sendLast_follows rfl)

theorem executeLocal_states {request : JobRequest} {capability : CapabilityConfig}
    {home : NodeId} : (executeLocal request capability home).Follows stateRules Mode.start := by
  unfold executeLocal
  split
  · rfl
  · split
    · rfl
    · refine ⟨⟨rfl, ⟨rfl, fun _ _ => rfl, ⟨rfl, ?ends⟩, fun _ _ => rfl⟩, ?denied⟩, rfl, rfl, rfl,
        fun _ => rfl⟩
      case ends =>
        rintro (error | outcome) _
        · exact recordAnyway_follows rfl (fun _ => rfl) rfl
        · cases outcome <;> exact recordAnyway_follows rfl (fun _ => rfl) rfl
      case denied => exact fun _ => recordAnyway_follows rfl (fun _ => rfl) rfl

/-
  The failures are among those, a record that belongs to no
  reservation is a new one, and none is the end of a job of the
  node itself that is still Admitted.
-/
def orderly (env : JobEnv) (node : JobNode) (task : Task) : Bool :=
  tolerated stateRules env node task &&
    match task.plan with
    | .record _ _ _ => (task.mode.owned.isSome || node.jobs[task.id]?.isNone) &&
      (task.mode.owned != some .admitted || task.mode.holds)
    | _ => true

----
-- Forgotten Records
----

/- Who keeps the best item so far, or takes the next, ends with one of them. -/
theorem mem_of_foldl_pick {α : Type} {pick : Option α → α → Option α}
    (hPick : ∀ best item, pick best item = some item ∨ pick best item = best) {items : List α}
    {best : Option α} {last : α} (hFold : items.foldl pick best = some last) :
    best = some last ∨ last ∈ items := by
  induction items generalizing best with
  | nil => exact Or.inl hFold
  | cons item items ih =>
    rcases ih hFold with hNow | hLater
    · rcases hPick best item with hTaken | hKept
      · rw [hTaken] at hNow
        exact Or.inr (Option.some.inj hNow ▸ List.mem_cons_self)
      · exact Or.inl (hKept.symm.trans hNow)
    · exact Or.inr (List.mem_cons_of_mem _ hLater)

/- Only the record of a job that has ended is forgotten. -/
theorem oldestTerminal_spec (hOldest : oldestTerminal jobs = some id) :
    ∃ job, jobs[id]? = some job ∧ job.state.terminal = true := by
  obtain ⟨⟨key, job⟩, hFold, rfl⟩ := Option.map_eq_some_iff.mp hOldest
  suffices hMem : (key, job) ∈ jobs.toList.filter (fun item => item.2.state.terminal) by
    rw [List.mem_filter, Std.TreeMap.mem_toList_iff_getElem?_eq_some] at hMem
    exact ⟨job, hMem⟩
  refine (mem_of_foldl_pick ?_ hFold).resolve_left (Option.some_ne_none _).symm
  intro best item
  cases best with
  | none => exact Or.inl rfl
  | some oldest =>
    dsimp only
    split_ifs
    · exact Or.inl rfl
    · exact Or.inr rfl

/- A job that has not ended keeps its record. -/
theorem recordJob_active {after : History} {other : JobId} {old : PersistedJob}
    (hRecord : recordJob jobs id job = some after) (hNe : id ≠ other)
    (hOld : jobs[other]? = some old) (hActive : old.state.terminal = false) :
    after[other]? = some old := by
  obtain ⟨room, hRoom, rfl⟩ := Option.map_eq_some_iff.mp hRecord
  rw [OrderedMap.getElem?_insert, if_neg hNe]
  unfold makeRoom at hRoom
  split_ifs at hRoom
  · cases hRoom
    exact hOld
  · obtain ⟨remove, hRemove, rfl⟩ := Option.map_eq_some_iff.mp hRoom
    obtain ⟨ended, hEnded, hTerminal⟩ := oldestTerminal_spec hRemove
    rw [OrderedMap.getElem?_erase, if_neg, hOld]
    rintro rfl
    rw [hOld] at hEnded
    cases hEnded
    rw [hActive] at hTerminal
    cases hTerminal

theorem size_recordJob_le {after : History} (hRecord : recordJob jobs id job = some after)
    (hSize : jobs.size ≤ maxJobHistory) : after.size ≤ maxJobHistory := by
  obtain ⟨room, hRoom, rfl⟩ := Option.map_eq_some_iff.mp hRecord
  unfold makeRoom at hRoom
  split_ifs at hRoom with hFits
  · cases hRoom
    rw [OrderedMap.size_insert_le_iff hSize, Std.TreeMap.mem_iff_isSome_getElem?]
    simpa using hFits
  · obtain ⟨remove, hRemove, rfl⟩ := Option.map_eq_some_iff.mp hRoom
    obtain ⟨ended, hEnded, -⟩ := oldestTerminal_spec hRemove
    have hLess := OrderedMap.size_erase_lt hEnded
    exact Std.TreeMap.size_insert_le.trans (by omega)

/- A bounded history forgets only jobs that have ended. -/
theorem history_kept (jobs final : History) (calls : List (JobId × PersistedJob))
    (hSize : jobs.size ≤ maxJobHistory)
    (hRun : run (fun jobs call => recordJob jobs call.1 call.2) jobs calls = some final) :
    final.size ≤ maxJobHistory ∧ ∀ id job, jobs[id]? = some job → job.state.terminal = false →
      (∀ call ∈ calls, call.1 ≠ id) → final[id]? = some job := by
  refine ⟨always_of_run (·.size ≤ maxJobHistory)
    (fun _ _ _ hSize hRecord => size_recordJob_le hRecord hSize) hSize hRun, ?_⟩
  intro id job hJob hActive hOthers
  refine invariant_of_run (fun jobs : History => jobs[id]? = some job)
    (fun _ call _ hKept (hOther : call.1 ≠ id) hRecord =>
      recordJob_active hRecord hOther hKept hActive) hJob (meets_of_forall_moment ?_) hRun
  rintro _ call _ _ rfl -
  exact hOthers call (by simp)

def runningJob : PersistedJob := ⟨⟨1⟩, .running, 0, none, none, none⟩

/- The first job runs while another one starts and ends. -/
theorem history_kept_others : ∃ final,
    run (fun jobs call => recordJob jobs call.1 call.2) ((∅ : History).insert ⟨1⟩ runningJob)
      [(⟨2⟩, runningJob), (⟨2⟩, { runningJob with state := .succeeded }), (⟨3⟩, runningJob)] =
        some final ∧
      final.size ≤ maxJobHistory ∧ final[(⟨1⟩ : JobId)]? = some runningJob := by
  have hKept := history_kept ((∅ : History).insert ⟨1⟩ runningJob) _
    [(⟨2⟩, runningJob), (⟨2⟩, { runningJob with state := .succeeded }), (⟨3⟩, runningJob)]
    (by decide +kernel) rfl
  exact ⟨_, rfl, hKept.1, hKept.2 ⟨1⟩ runningJob (by decide +kernel) rfl (by decide)⟩

----
-- Changes of Records
----

/- Each change is allowed, and none is of a terminal record. -/
def ChangesAllowed (before after : History) : Prop :=
  ∀ (id : JobId) (old new : PersistedJob), before[id]? = some old → after[id]? = some new →
    new ≠ old → old.state.canTransition new.state = true ∧ old.state.terminal = false

/- The record of a job that is handled has the handler's state. -/
def Holds (node : JobNode) (id : JobId) (mode : Mode) : Prop :=
  ∃ job, node.jobs[id]? = some job ∧ mode.owned = some job.state ∧ job.state.terminal = false

structure InState (net : JobNet) : Prop where
  follows : Disciplined stateRules net
  held : ∀ (i : Nat) (task : Task), net.tasks[i]? = some task → task.mode.busy = true →
    Holds net.node task.id task.mode
  unique : Exclusive Mode.busy net

section

variable {node : JobNode}

/- What a handler records follows the state of its job. -/
theorem busy_of_record {next : Plan} {failed : String → Plan}
    (hPlan : task.plan = .record job next failed)
    (hFollows : task.plan.Follows stateRules task.mode) (hOwned : task.mode.owned ≠ none) :
    ∃ state, task.mode.owned = some state ∧ (state.canTransition job.state = true ∨
      state = .admitted ∧ task.mode.holds = false) ∧ task.mode.busy = true := by
  obtain ⟨state, hState⟩ := Option.ne_none_iff_exists'.mp hOwned
  rw [hPlan] at hFollows
  have hAllowed : state.canTransition job.state = true ∨
    state = .admitted ∧ task.mode.holds = false := by
    simpa [stateRules, hState] using hFollows.1
  refine ⟨state, hState, hAllowed, ?_⟩
  rcases hAllowed with hAllowed | ⟨rfl, -⟩
  · cases hTerminal : state.terminal with
    | false => simp [Mode.busy, hState, hTerminal]
    | true => simp [JobState.canTransition_of_terminal hTerminal] at hAllowed
  · simp [Mode.busy, hState, JobState.terminal]

/- A handler is busy with a new job only if it had no record. -/
theorem busy_of_moves (hMoves : Moves env node task after mode)
    (hFollows : task.plan.Follows stateRules task.mode) (hBusy : mode.busy = true) :
    task.mode.busy = true ∨ node.jobs[task.id]? = none := by
  cases hMoves with
  | reserved hPlan hNew hRecord => exact Or.inr hNew
  | recorded hPlan _ =>
    left
    refine (busy_of_record hPlan hFollows ?_).choose_spec.2.2
    rintro hNone
    simp [Mode.busy, Mode.record, hNone] at hBusy
  | released _ hOwned => exact Or.inl (by simpa [Mode.busy, Mode.release, hOwned] using hBusy)
  | _ => exact Or.inl hBusy

theorem holds_of_moves (hMoves : Moves env node task after mode)
    (hBusy : mode.busy = true) (hHeld : task.mode.busy = true → Holds node task.id task.mode) :
    Holds after task.id mode := by
  have hState : ∀ job : PersistedJob, after.jobs[task.id]? = some job →
    mode.owned = some job.state → Holds after task.id mode := fun job hJob hOwned =>
    ⟨job, hJob, hOwned, by simpa [Mode.busy, hOwned] using hBusy⟩
  cases hMoves with
  | reserved hPlan _ hRecord => exact hState _ (recordJob_spec hRecord task.id).1 rfl
  | @recorded job _ _ _ _ hRecord =>
    refine hState _ (recordJob_spec hRecord task.id).1 ?_
    cases hOwned : task.mode.owned with
    | none => simp [Mode.busy, Mode.record, hOwned] at hBusy
    | some state => simp [Mode.record, hOwned]
  | released _ hOwned =>
    obtain ⟨job, hJob, hSame, -⟩ := hHeld (by simpa [Mode.busy, Mode.release, hOwned] using hBusy)
    exact hState job hJob (hOwned.trans hSame)
  | _ => exact hHeld hBusy

end

theorem InState.changes {net : JobNet} (hNet : InState net) {index : Nat}
    (hTask : net.tasks[index]? = some task) (hOrderly : orderly env net.node task = true)
    (hMoves : Moves env net.node task after mode) : ChangesAllowed net.node.jobs after.jobs ∧
      ∀ (j : Nat) (other : Task), j ≠ index → net.tasks[j]? = some other →
        other.mode.busy = true → Holds after other.id other.mode := by
  -- A new table keeps what other handlers are busy with.
  have hKeeps : ∀ {jobs : History} {job : PersistedJob},
    recordJob net.node.jobs task.id job = some jobs →
    (net.node.jobs[task.id]? = none ∨ task.mode.busy = true) →
    ∀ (j : Nat) (other : Task), j ≠ index → net.tasks[j]? = some other →
      other.mode.busy = true → Holds { net.node with jobs := jobs } other.id other.mode := by
    intro jobs job hRecord hMine j other hNe hGet hBusy
    obtain ⟨old, hOld, hOwned, hActive⟩ := hNet.held j other hGet hBusy
    refine ⟨old, recordJob_active hRecord (fun hEq => ?_) hOld hActive, hOwned, hActive⟩
    rcases hMine with hNone | hMine
    · rw [hEq, hOld] at hNone
      cases hNone
    · exact hNe (hNet.unique j index other task hGet hTask hBusy hMine hEq.symm)
  have hElse : ∀ {jobs : History} {job old new : PersistedJob} {id : JobId},
    recordJob net.node.jobs task.id job = some jobs → task.id ≠ id →
    net.node.jobs[id]? = some old → jobs[id]? = some new → new = old := by
    intro jobs job old new id hRecord hNe hOld hNew
    rcases (recordJob_spec hRecord id).2 hNe with hSame | ⟨hNone, -⟩
    · exact Option.some.inj (hNew.symm.trans (hSame.trans hOld))
    · rw [hNew] at hNone
      cases hNone
  cases hMoves with
  | reserved hPlan hNone hRecord =>
    refine ⟨fun id old new hOld hNew hNe => ?_, hKeeps hRecord (Or.inl hNone)⟩
    by_cases hId : task.id = id
    · rw [← hId, hNone] at hOld
      cases hOld
    · exact absurd (hElse hRecord hId hOld hNew) hNe
  | @recorded job next failed jobs hPlan hRecord =>
    simp only [orderly, hPlan, Bool.and_eq_true, Bool.or_eq_true,
      Option.isNone_iff_eq_none, bne_iff_ne] at hOrderly
    have hMine : net.node.jobs[task.id]? = none ∨ ∃ state, task.mode.owned = some state ∧
      state.canTransition job.state = true ∧ task.mode.busy = true := by
      rcases hOrderly.2.1 with hSome | hNone
      · obtain ⟨state, hState, hAllowed | ⟨rfl, hGone⟩, hBusy⟩ := busy_of_record hPlan
          (hNet.follows index task hTask) (Option.isSome_iff_ne_none.mp hSome)
        · exact Or.inr ⟨state, hState, hAllowed, hBusy⟩
        · simp [hState, hGone] at hOrderly
      · exact Or.inl hNone
    refine ⟨fun id old new hOld hNew hNe => ?_, hKeeps hRecord (hMine.imp_right
      (·.choose_spec.2.2))⟩
    by_cases hId : task.id = id
    · subst hId
      rcases hMine with hNone | ⟨state, hState, hAllowed, hBusy⟩
      · rw [hNone] at hOld
        cases hOld
      · obtain ⟨held, hHeld, hSame, hActive⟩ := hNet.held index task hTask hBusy
        cases hHeld.symm.trans hOld
        cases hState.symm.trans hSame
        cases hNew.symm.trans (recordJob_spec hRecord task.id).1
        exact ⟨hAllowed, hActive⟩
    · exact absurd (hElse hRecord hId hOld hNew) hNe
  | _ =>
    exact ⟨fun id old new hOld hNew hNe => absurd (Option.some.inj (hNew.symm.trans hOld)) hNe,
      fun j other _ hGet hBusy => hNet.held j other hGet hBusy⟩

theorem InState.step (net : JobNet) (action : JobAction) (next : JobNet) (hNet : InState net)
    (hOrderly : atSteps orderly net action = true) (hStep : jobStep net action = some next) :
    InState next := by
  have hFollows : Disciplined stateRules next := by
    refine hNet.follows.step handleRemoteJob_states (fun _ _ _ => executeLocal_states) ?_ hStep
    cases action with
    | advance index env =>
      simp only [atSteps, Option.all_eq_true, orderly, Bool.and_eq_true] at hOrderly ⊢
      exact fun task hTask => (hOrderly task hTask).1
    | _ => rfl
  rcases jobStep_cases hStep with ⟨added, hMode, rfl, -⟩ | ⟨index, env, task, rfl, hTask, rfl⟩ |
    ⟨now, rfl⟩
  · refine ⟨hFollows, fun i task hGet hBusy => ?_, hNet.unique.add (by rw [hMode]; rfl)⟩
    rcases getElem?_concat_cases hGet with rfl | hGet
    · simp [hMode, Mode.start, Mode.busy] at hBusy
    · exact hNet.held i task hGet hBusy
  · have hNow : orderly env net.node task = true := by
      simpa [atSteps, hTask] using hOrderly
    obtain ⟨hMoves, hId⟩ := (perform_spec stateRules).1
    refine ⟨hFollows, fun i other hGet hBusy => ?_, hNet.unique.set hTask hId ?_
      (busy_of_moves hMoves (hNet.follows index task hTask))⟩
    · rcases getElem?_set_cases hGet with ⟨-, rfl⟩ | ⟨hNe, hGet⟩
      · rw [hId]
        exact holds_of_moves hMoves hBusy (hNet.held index task hTask)
      · exact (hNet.changes hTask hNow hMoves).2 i other hNe hGet hBusy
    · intro j other hGet hBusy hNone
      obtain ⟨old, hOld, -⟩ := hNet.held j other hGet hBusy
      rw [hNone] at hOld
      cases hOld
  · exact ⟨hFollows, (by rintro i task ⟨⟩), (by rintro i j task other ⟨⟩)⟩

/- Every operation of an orderly run changes records as allowed. -/
theorem record_changes_allowed (config : RuntimeConfig) (earlier : List JobAction) (index : Nat)
    (env : JobEnv) (middle next : JobNet)
    (hOrderly : Meets jobStep (fun net action => atSteps orderly net action = true)
      (idleNet config) (earlier ++ [.advance index env]))
    (hRun : run jobStep (idleNet config) earlier = some middle)
    (hStep : jobStep middle (.advance index env) = some next) :
    ChangesAllowed middle.node.jobs next.node.jobs := by
  have hIdle : InState (idleNet config) :=
    ⟨by rintro i task ⟨⟩, by rintro i task ⟨⟩, by rintro i j task other ⟨⟩⟩
  have hMiddle := invariant_of_run InState InState.step hIdle (meets_of_append hOrderly) hRun
  have hNow := (meets_append hOrderly hRun).1
  obtain ⟨task, hTask, rfl⟩ := Option.map_eq_some_iff.mp hStep
  exact (hMiddle.changes hTask (by simpa [atSteps, hTask] using hNow)
    (perform_spec stateRules).1.1).1

theorem record_changes_allowed_outcome :
    ∃ middle next,
      run jobStep (idleNet smallRuntime) (requestJob ⟨1⟩ :: advances 10 0) = some middle ∧
      jobStep middle (.advance 0 goodEnv) = some next ∧
      (middle.node.jobs[(⟨1⟩ : JobId)]?.map (·.state)) = some .running ∧
      (next.node.jobs[(⟨1⟩ : JobId)]?.map (·.state)) = some .cancelled ∧
      ChangesAllowed middle.node.jobs next.node.jobs :=
  ⟨_, _, rfl, rfl, by decide +kernel, by decide +kernel,
    record_changes_allowed smallRuntime (requestJob ⟨1⟩ :: advances 10 0) 0 goodEnv _ _
      (by decide +kernel) rfl rfl⟩

/- The peer is lost before it is told of the admission. -/
def lostAcceptance : List JobAction :=
  requestJob ⟨1⟩ :: advances 4 0 ++ .advance 0 { goodEnv with sent := false } :: advances 1 0

theorem lostAcceptance_not_allowed :
    ¬ ∀ middle next, run jobStep (idleNet smallRuntime) lostAcceptance = some middle →
      jobStep middle (.advance 0 goodEnv) = some next →
      ChangesAllowed middle.node.jobs next.node.jobs := by
  intro hAll
  have hAllowed := hAll _ _ rfl rfl ⟨1⟩ ⟨⟨1⟩, .admitted, 0, none, none, none⟩
    ⟨⟨1⟩, .failed, 0, none, none, some "peer disconnected before job admission"⟩
    (by decide +kernel) (by decide +kernel) (by decide)
  exact absurd hAllowed.1 (by decide)

end IntelligenceNetwork.Jobs
