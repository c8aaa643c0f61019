import IntelligenceNetwork.Lib.OrderedMap
import IntelligenceNetwork.Lib.Transition
import IntelligenceNetwork.Protocol.Validation.Records

/-
  The jobs of a node: how a request is answered.

  Each handler is the list of the operations that it still has
  to do, with what follows when one of them fails.  A node
  does the operations of its handlers in any order, one at a
  time, and may stop and start again between any two.

  Main declarations:
    * `Plan`, `handleRemoteJob`, `executeLocal`
    * `JobNode.admitJob`, `perform`, `jobStep`
    * `Plan.Follows`, `perform_spec`, `Disciplined.step`
-/

----
-- Job Records
----

namespace IntelligenceNetwork

def JobState.terminal : JobState → Bool
| .succeeded | .rejected | .cancelled | .timedOut | .failed => true
| _ => false

def JobState.canTransition : JobState → JobState → Bool
| .received, .validated | .received, .rejected | .validated, .admitted | .validated, .rejected
| .admitted, .queued | .admitted, .rejected | .admitted, .running
| .queued, .running | .queued, .cancelled | .queued, .timedOut | .queued, .failed
| .running, .succeeded | .running, .cancelled | .running, .timedOut | .running, .failed => true
| _, _ => false

theorem JobState.canTransition_of_terminal {state next : JobState}
    (hTerminal : state.terminal = true) : state.canTransition next = false := by
  cases state <;> first | rfl | cases hTerminal

namespace Jobs

variable {i index : Nat}

def maxJobHistory : Nat := 4096

structure PersistedJob where
  origin : NodeId
  state : JobState
  updatedAt : UInt64
  outputHash : Option ArtifactId
  output : Option (List UInt8)
  error : Option String
  deriving DecidableEq

abbrev History := Std.TreeMap JobId PersistedJob

/- The terminal record that was updated the longest ago. -/
def oldestTerminal (jobs : History) : Option JobId :=
  ((jobs.toList.filter (fun item => item.2.state.terminal)).foldl (fun best item =>
    match best with
    | none => some item
    | some oldest => if item.2.updatedAt < oldest.2.updatedAt then some item else best)
    none).map Prod.fst

/- A full history forgets a terminal record for a new one. -/
def makeRoom (jobs : History) (id : JobId) : Option History :=
  if jobs[id]?.isSome || jobs.size < maxJobHistory then
    some jobs
  else
    (oldestTerminal jobs).map jobs.erase

/- There is no place if no record of an ended job can go. -/
def recordJob (jobs : History) (id : JobId) (job : PersistedJob) : Option History :=
  (makeRoom jobs id).map (fun room => room.insert id job)

/- Only a job without a record makes another one disappear. -/
theorem recordJob_spec {jobs after : History} {id : JobId} {job : PersistedJob}
    (hRecord : recordJob jobs id job = some after) (other : JobId) :
    after[id]? = some job ∧ (id ≠ other → after[other]? = jobs[other]? ∨
      after[other]? = none ∧ jobs[id]? = none ∧ maxJobHistory ≤ jobs.size) := by
  obtain ⟨room, hRoom, rfl⟩ := Option.map_eq_some_iff.mp hRecord
  refine ⟨by rw [OrderedMap.getElem?_insert, if_pos rfl], fun hNe => ?_⟩
  rw [OrderedMap.getElem?_insert, if_neg hNe]
  unfold makeRoom at hRoom
  split_ifs at hRoom with hFits
  · cases hRoom
    exact Or.inl rfl
  · obtain ⟨remove, -, rfl⟩ := Option.map_eq_some_iff.mp hRoom
    rw [OrderedMap.getElem?_erase]
    simp only [Bool.or_eq_true, decide_eq_true_eq, not_or, Option.not_isSome_iff_eq_none,
      Nat.not_lt] at hFits
    split_ifs
    · exact Or.inr ⟨rfl, hFits⟩
    · exact Or.inl rfl

----
-- Plans
----

/- What an executor returns when it does not fail. -/
inductive ExecutionOutcome where
  | succeeded (output : List UInt8) (outputHash : ArtifactId)
  | cancelled
  | timedOut

/-
  What a handler still has to do.  An operation that can fail
  says what follows its failure, given the text of the error.
-/
inductive Plan where
  | done
  | reserve (peer origin : NodeId) (reserved terminal collision : Plan) (denied : String → Plan)
  | runtimeAdmit (admitted : Plan) (denied : String → Plan)
  | record (job : PersistedJob) (recorded : Plan) (failed : String → Plan)
  | save (snapshot : History) (saved : Plan) (failed : String → Plan)
  | send (update : JobUpdate) (sent : Plan) (failed : String → Plan)
  | cancel (next : Plan)
  | abandon (next : Plan)
  | drop
  | execute (ended : Except String ExecutionOutcome → UInt32 → Plan)
  | finish (id : JobId) (sequence : UInt32) (ended : Except String ExecutionOutcome → UInt32 → Plan)
  | resend (id : JobId) (peer : NodeId)

/- What the handlers read of a configured capability. -/
structure CapabilityConfig where
  (isPublic acceptRemoteJobs : Bool)
  (kind sandbox : String)
  (maxInputBytes maxOutputBytes : UInt32)
  executor : Except String Unit

def nextSequence (sequence : UInt32) : UInt32 :=
  if sequence.toNat + 1 < UInt32.size then sequence + 1 else sequence

section

variable (request : JobRequest)

/- The record of a job without output; `updatedAt` is set when it is made. -/
def jobRecord (state : JobState) (error : Option String) : PersistedJob :=
  ⟨request.origin, state, 0, none, none, error⟩

/- `let _ = record_job(..)`. -/
def recordAnyway (job : PersistedJob) (next : Plan) : Plan :=
  .record job next (fun _ => next)

/- `let _ = send_update(..)`, and return. -/
def sendLast (update : JobUpdate) : Plan :=
  .send update .done (fun _ => .done)

def sendRejection (code message : String) : Plan :=
  sendLast ⟨request.jobId, .rejected, 1, .rejected code message⟩

def outcomeRecord : ExecutionOutcome → PersistedJob
| .succeeded output outputHash =>
  ⟨request.origin, .succeeded, 0, some outputHash,
    if request.privacy.allowOutputPersistence then some output else none, none⟩
| .cancelled => jobRecord request .cancelled (some "cancelled")
| .timedOut => jobRecord request .timedOut (some "timed out")

def outcomeUpdate : ExecutionOutcome → JobState × JobUpdateKind
| .succeeded output outputHash => (.succeeded, .succeeded output outputHash none)
| .cancelled => (.cancelled, .cancelled)
| .timedOut => (.timedOut, .timedOut)

def sendOutcome (outcome : ExecutionOutcome) (startingSequence : UInt32)
    (failed : String → Plan) : Plan :=
  .record (outcomeRecord request outcome) (.send
    ⟨request.jobId, (outcomeUpdate outcome).1, nextSequence startingSequence,
      (outcomeUpdate outcome).2⟩
    .done failed)
    failed

/- What the spawned task does with the end of the execution. -/
def answerOutcome (result : Except String ExecutionOutcome) (sequence : UInt32) : Plan :=
  let failWith (code error : String) : Plan := recordAnyway (jobRecord request .failed (some error))
    (sendLast ⟨request.jobId, .failed, nextSequence sequence, .failed code error⟩)
  match result with
  | .ok outcome => sendOutcome request outcome sequence (failWith "outcome_error")
  | .error error => failWith "execution_error" error

/- The task that `handle_remote_job` spawns. -/
def runRemoteJob : Plan :=
  .record (jobRecord request .running none)
    (.send ⟨request.jobId, .running, 2, .started⟩ (.execute (answerOutcome request))
      (fun _ => .cancel (recordAnyway
        (jobRecord request .failed (some "peer disconnected before job execution")) .drop)))
    (fun _ => .cancel .drop)

/- The part of `handle_remote_job` after the reservation. -/
def admitRemoteJob : Plan :=
  .runtimeAdmit (.record (jobRecord request .admitted none)
    (.send ⟨request.jobId, .admitted, 1, .accepted .admitted⟩ (runRemoteJob request)
      (fun _ => .cancel (recordAnyway
        (jobRecord request .failed (some "peer disconnected before job admission")) .drop)))
    (fun error => .abandon (sendRejection request "storage_error" error)))
    (fun error => recordAnyway (jobRecord request .rejected (some error))
      (sendRejection request "admission_denied" error))

/- The checks before the reservation that answer without a record. -/
def refusal (capability : CapabilityConfig) : Option (String × String) :=
  if (capability.kind == "process" || capability.kind == "llama_cpp") &&
    capability.sandbox != "bubblewrap" then
    some ("sandbox_required", "remote process execution requires sandbox = bubblewrap")
  else if !capability.isPublic || !capability.acceptRemoteJobs ||
    !request.privacy.allowInputTransfer then
    some ("policy_denied", "local policy denied remote execution")
  else
    match request.validate with
    | .error error => some ("invalid_request", error.text)
    | .ok () =>
      if request.input.length > capability.maxInputBytes.toNat ||
        request.maxOutputBytes > capability.maxOutputBytes then
        some ("capability_limits", "job exceeds the advertised capability resource limits")
      else
        none

/- What is refused before the reservation leaves no open record. -/
def handleRemoteJob (capability : Option CapabilityConfig) (peer : NodeId) : Plan :=
  match capability with
  | none => sendRejection request "capability_not_found" "this node does not expose that capability"
  | some capability =>
    match refusal request capability with
    | some (code, message) => sendRejection request code message
    | none =>
      match capability.executor with
      | .error error =>
        recordAnyway (jobRecord request .rejected (some error))
          (sendRejection request "invalid_executor" error)
      | .ok () =>
        .reserve peer request.origin (admitRemoteJob request) (.resend request.jobId peer)
          (sendRejection request "duplicate_job_id" "job ID is already owned by another peer")
          (sendRejection request "admission_denied")

/- A job of the node itself; `outcome_to_result` makes its last record. -/
def executeLocal (capability : CapabilityConfig) (home : NodeId) : Plan :=
  if request.input.length > capability.maxInputBytes.toNat ||
    request.maxOutputBytes > capability.maxOutputBytes then
    .done
  else
    match capability.executor with
    | .error _ => .done
    | .ok () =>
      .reserve home request.origin (.runtimeAdmit (.record (jobRecord request .admitted none)
        (.execute (fun result _ =>
          match result with
          | .ok outcome => recordAnyway (outcomeRecord request outcome) .done
          | .error error => recordAnyway (jobRecord request .failed (some error)) .done))
        (fun _ => .abandon .done))
        (fun error => recordAnyway (jobRecord request .rejected (some error)) .done))
        .done .done (fun _ => .done)

end

----
-- Operations
----

/- What the runtime's `admit` reads of its configuration. -/
structure RuntimeConfig where
  (maxQueuedJobs maxInputBytes maxOutputBytes : Nat)

/-
  The job table, the file that it is saved to, the runtime's
  table of admitted jobs and the free permits of its `queue`;
  `started` lists every execution.
-/
structure JobNode where
  config : RuntimeConfig
  (jobs file : History)
  (active started : List JobId)
  queue : Nat

/- The request is within the runtime's limits. -/
def RuntimeConfig.Fits (config : RuntimeConfig) (request : JobRequest) : Prop :=
  request.validate = .ok () ∧ request.input.length ≤ config.maxInputBytes ∧
    request.maxOutputBytes.toNat ≤ config.maxOutputBytes

instance (config : RuntimeConfig) (request : JobRequest) : Decidable (config.Fits request) :=
  inferInstanceAs (Decidable (_ ∧ _))

/- An admission takes a permit of the queue and a place in the table. -/
def JobNode.admitJob (node : JobNode) (request : JobRequest) : Except String JobNode :=
  match request.validate with
  | .error error => .error ("job execution failed: " ++ error.text)
  | .ok () =>
    if request.input.length > node.config.maxInputBytes then
      .error "job input exceeds the local limit"
    else if request.maxOutputBytes.toNat > node.config.maxOutputBytes then
      .error "job output exceeds the local limit"
    else if node.queue = 0 then
      .error "runtime queue is full"
    else if node.active.contains request.jobId then
      .error ("job " ++ .ofList (hexDigits 32 request.jobId.bytes.toNat) ++ " is already admitted")
    else
      .ok { node with active := request.jobId :: node.active, queue := node.queue - 1 }

theorem JobNode.admit_eq_ok_iff {node after : JobNode} {request : JobRequest} :
    node.admitJob request = .ok after ↔ node.config.Fits request ∧ 0 < node.queue ∧
      request.jobId ∉ node.active ∧
      { node with active := request.jobId :: node.active, queue := node.queue - 1 } = after := by
  unfold admitJob RuntimeConfig.Fits
  cases request.validate with
  | error error => simp
  | ok =>
    simp only [true_and]
    split_ifs with hInput hOutput hQueue hActive
    · simp [Nat.not_le.mpr hInput]
    · simp [Nat.not_le.mpr hOutput]
    · simp [hQueue]
    · simp [List.contains_iff_mem.mp hActive]
    · simp [Nat.not_lt.mp hInput, Nat.not_lt.mp hOutput, Nat.pos_of_ne_zero hQueue,
        List.contains_iff_mem.not.mp hActive]

/-
  What a handler has got so far: the job, `owned` from its
  reservation on and in the state that it last recorded, the
  right to begin it (`claim`), and an admission (`holds`).
-/
structure Mode where
  owned : Option JobState
  (claim holds : Bool)

/- A handler, the rest of its plan and what it has got. -/
structure Task where
  request : JobRequest
  plan : Plan
  mode : Mode

abbrev Task.id (task : Task) : JobId := task.request.jobId

namespace Mode

variable (mode : Mode)

def reserve : Mode := { mode with owned := some .validated, claim := true }

def record (state : JobState) : Mode :=
  { mode with owned := mode.owned.map (fun _ => state) }

def begin : Mode := { mode with claim := false }

def release : Mode := { mode with holds := false }

/- The handler has a job that has not ended. -/
def busy : Bool := mode.owned.any (fun state => !state.terminal)

end Mode

/- What the world does to one operation. -/
structure JobEnv where
  now : UInt64
  (saved sent begins : Bool)
  chunk : Option (List UInt8)
  result : Except String ExecutionOutcome
  digest : List UInt8 → ArtifactId
  error : String

def historyFull : String :=
  "storage failed: invalid stored state: job history is full with active jobs"

/- The answer to a request for a job that has ended. -/
def resendTerminal (digest : List UInt8 → ArtifactId) (id : JobId) (job : PersistedJob) :
    JobUpdate :=
  match job.state with
  | .succeeded =>
    match job.output, job.outputHash with
    | some output, some outputHash =>
      if digest output = outputHash then
        ⟨id, .succeeded, 4, .succeeded output outputHash none⟩
      else
        ⟨id, .failed, 4, .failed "result_not_retained"
          "the completed result was not retained by local policy"⟩
    | _, _ =>
      ⟨id, .failed, 4, .failed "result_not_retained"
        "the completed result was not retained by local policy"⟩
  | .cancelled => ⟨id, .cancelled, 4, .cancelled⟩
  | .timedOut => ⟨id, .timedOut, 4, .timedOut⟩
  | .rejected => ⟨id, .rejected, 4, .rejected "rejected" (job.error.getD "")⟩
  | _ => ⟨id, .failed, 4, .failed "not_terminal" "job state is not terminal"⟩

/- The job leaves the table, and its admission gives its permit back. -/
def finish (node : JobNode) (task : Task) : JobNode :=
  { node with
    active := node.active.filter (· ≠ task.id)
    queue := node.queue + task.mode.holds.toNat }

/-
  Do the next operation of a handler.  The file is written after
  the lock on the table is given back, except by a reservation.
-/
def perform (env : JobEnv) (node : JobNode) (task : Task) : JobNode × Task :=
  match task.plan with
  | .done => (node, task)
  | .reserve peer origin reserved terminal collision denied =>
    match node.jobs[task.id]? with
    | some existing =>
      (node, { task with plan :=
        if existing.origin ≠ peer then collision
        else if existing.state.terminal then terminal
        else .done })
    | none =>
      match recordJob node.jobs task.id ⟨origin, .validated, env.now, none, none, none⟩ with
      | none => (node, { task with plan := denied historyFull })
      | some jobs =>
        if env.saved then
          ({ node with jobs := jobs, file := jobs },
            { task with plan := reserved, mode := task.mode.reserve })
        else
          (node, { task with plan := denied env.error })
  | .runtimeAdmit admitted denied =>
    match node.admitJob task.request with
    | .error error => (node, { task with plan := denied error })
    | .ok after =>
      (after, { task with plan := admitted, mode := { task.mode with holds := true } })
  | .record job recorded failed =>
    match recordJob node.jobs task.id { job with updatedAt := env.now } with
    | none => (node, { task with plan := failed historyFull })
    | some jobs =>
      ({ node with jobs := jobs },
        { task with plan := .save jobs recorded failed, mode := task.mode.record job.state })
  | .save snapshot saved failed =>
    if env.saved then
      ({ node with file := snapshot }, { task with plan := saved })
    else
      (node, { task with plan := failed env.error })
  | .send _ sent failed => (node, { task with plan := if env.sent then sent else failed env.error })
  -- `cancel` sets a flag of the admission and leaves it in the table.
  | .cancel next => (node, { task with plan := next })
  | .abandon next => (finish node task, { task with plan := next, mode := task.mode.release })
  -- The handler returns, and only the permit goes with its admission.
  | .drop =>
    ({ node with queue := node.queue + task.mode.holds.toNat },
      { task with plan := .done, mode := task.mode.release })
  | .execute ended =>
    if env.begins then
      ({ node with started := task.id :: node.started },
        { task with plan := .finish task.id 2 ended, mode := task.mode.begin })
    else
      (finish node task, { task with plan := ended env.result 2, mode := task.mode.begin.release })
  | .finish id sequence ended =>
    match env.chunk with
    | some data =>
      let next := nextSequence sequence
      let after : Plan := .finish id next ended
      (node, { task with
        plan := .send ⟨id, .running, next, .chunk next data⟩ after (fun _ => after) })
    | none =>
      (finish node task, { task with plan := ended env.result sequence, mode := task.mode.release })
  | .resend id peer =>
    (node, { task with plan :=
      match node.jobs[id]?.filter (fun job => job.origin = peer) with
      | none => .done
      | some job => sendLast (resendTerminal env.digest id job) })

/- What one operation does to the node and to its handler's mode. -/
inductive Moves (env : JobEnv) (node : JobNode) (task : Task) : JobNode → Mode → Prop where
  | idle : Moves env node task node task.mode
  | reserved {peer origin : NodeId} {granted terminal collision : Plan} {denied : String → Plan}
    {jobs : History} (hPlan : task.plan = .reserve peer origin granted terminal collision denied)
    (hNew : node.jobs[task.id]? = none)
    (hRecord : recordJob node.jobs task.id ⟨origin, .validated, env.now, none, none, none⟩ =
      some jobs) :
    Moves env node task { node with jobs := jobs, file := jobs } task.mode.reserve
  | admitted {next : Plan} {denied : String → Plan}
    (hPlan : task.plan = .runtimeAdmit next denied) (hQueue : 0 < node.queue) :
    Moves env node task { node with active := task.id :: node.active, queue := node.queue - 1 }
      { task.mode with holds := true }
  | recorded {job : PersistedJob} {next : Plan} {failed : String → Plan} {jobs : History}
    (hPlan : task.plan = .record job next failed)
    (hRecord : recordJob node.jobs task.id { job with updatedAt := env.now } = some jobs) :
    Moves env node task { node with jobs := jobs } (task.mode.record job.state)
  | saved {snapshot : History} {next : Plan} {failed : String → Plan}
    (hPlan : task.plan = .save snapshot next failed) :
    Moves env node task { node with file := snapshot } task.mode
  | begun {ended : Except String ExecutionOutcome → UInt32 → Plan}
    (hPlan : task.plan = .execute ended) :
    Moves env node task { node with started := task.id :: node.started } task.mode.begin
  | released {mode : Mode} (hClaim : mode.claim = true → task.mode.claim = true)
    (hOwned : mode.owned = task.mode.owned) : Moves env node task (finish node task) mode.release
  | dropped (hPlan : task.plan = .drop) :
    Moves env node task { node with queue := node.queue + task.mode.holds.toNat } task.mode.release

----
-- Disciplines
----

/-
  What a handler may do in each mode, and which failures of its
  operations are accounted for.
-/
structure Discipline where
  atEnd : Mode → Bool
  atRecord : Mode → JobState → Bool
  atExecute : Mode → Bool
  recordFails : Mode → Bool
  saveFails : Mode → Bool
  sendFails : JobUpdateKind → Bool

variable {node : JobNode} {task : Task}

section

variable (rules : Discipline)

/- The plan keeps the rules, whatever its operations return. -/
def Plan.Follows : Mode → Plan → Prop
| mode, .done => rules.atEnd mode
| mode, .reserve _ _ reserved terminal collision denied =>
  reserved.Follows mode.reserve ∧ terminal.Follows mode ∧ collision.Follows mode ∧
    rules.atEnd mode ∧ ∀ error, (denied error).Follows mode
| mode, .runtimeAdmit admitted denied =>
  mode.holds = false ∧ admitted.Follows { mode with holds := true } ∧
    ∀ error, (denied error).Follows mode
| mode, .record job recorded failed =>
  rules.atRecord mode job.state ∧ (rules.recordFails mode → ∀ error, (failed error).Follows mode) ∧
    recorded.Follows (mode.record job.state) ∧ (rules.saveFails (mode.record job.state) →
      ∀ error, (failed error).Follows (mode.record job.state))
| mode, .save _ saved failed =>
  saved.Follows mode ∧ (rules.saveFails mode → ∀ error, (failed error).Follows mode)
| mode, .send update sent failed =>
  sent.Follows mode ∧ (rules.sendFails update.update → ∀ error, (failed error).Follows mode)
| mode, .cancel next => next.Follows mode
| mode, .abandon next => next.Follows mode.release
| mode, .drop => rules.atEnd mode ∧ rules.atEnd mode.release
| mode, .execute ended =>
  rules.atExecute mode ∧ ∀ result sequence, (ended result sequence).Follows mode.begin.release
| mode, .finish _ _ ended => ∀ result sequence, (ended result sequence).Follows mode.release
| mode, .resend _ _ => rules.atEnd mode

/- The operation fails only where the rules account for it. -/
def tolerated (env : JobEnv) (node : JobNode) (task : Task) : Bool :=
  match task.plan with
  | .record job _ _ =>
    (recordJob node.jobs task.id { job with updatedAt := env.now }).isSome ||
      rules.recordFails task.mode
  | .save _ _ _ => env.saved || rules.saveFails task.mode
  | .send update _ _ => env.sent || rules.sendFails update.update
  | _ => true

/- An operation is one of the moves, and keeps the rules. -/
theorem perform_spec {env : JobEnv} :
    (Moves env node task (perform env node task).1 (perform env node task).2.mode ∧
      (perform env node task).2.id = task.id) ∧
    (task.plan.Follows rules task.mode → tolerated rules env node task = true →
      (perform env node task).2.plan.Follows rules (perform env node task).2.mode) := by
  obtain ⟨request, plan, mode⟩ := task
  cases plan with
  | done => exact ⟨⟨.idle, rfl⟩, fun hFollows _ => hFollows⟩
  | reserve peer origin reserved terminal collision denied =>
    simp only [perform]
    cases hJob : node.jobs[request.jobId]? with
    | some existing =>
      refine ⟨⟨.idle, rfl⟩, fun ⟨_, hTerminal, hCollision, hEnd, _⟩ _ => ?_⟩
      dsimp only
      split_ifs
      · exact hCollision
      · exact hTerminal
      · exact hEnd
    | none =>
      cases hRecord : recordJob node.jobs request.jobId
        ⟨origin, .validated, env.now, none, none, none⟩ with
      | none => exact ⟨⟨.idle, rfl⟩, fun hFollows _ => hFollows.2.2.2.2 _⟩
      | some jobs =>
        split_ifs
        · exact ⟨⟨.reserved rfl hJob hRecord, rfl⟩, fun hFollows _ => hFollows.1⟩
        · exact ⟨⟨.idle, rfl⟩, fun hFollows _ => hFollows.2.2.2.2 _⟩
  | runtimeAdmit admitted denied =>
    simp only [perform]
    cases hAdmit : node.admitJob request with
    | error error => exact ⟨⟨.idle, rfl⟩, fun hFollows _ => hFollows.2.2 _⟩
    | ok after =>
      obtain ⟨-, hQueue, -, rfl⟩ := JobNode.admit_eq_ok_iff.mp hAdmit
      exact ⟨⟨.admitted rfl hQueue, rfl⟩, fun hFollows _ => hFollows.2.1⟩
  | record job recorded failed =>
    simp only [perform, tolerated]
    cases hRecord : recordJob node.jobs request.jobId { job with updatedAt := env.now } with
    | none => exact ⟨⟨.idle, rfl⟩, fun hFollows hFails => hFollows.2.1 hFails _⟩
    | some jobs => exact ⟨⟨.recorded rfl hRecord, rfl⟩, fun hFollows _ => hFollows.2.2⟩
  | save snapshot saved failed =>
    simp only [perform, tolerated]
    cases env.saved with
    | true => exact ⟨⟨.saved rfl, rfl⟩, fun hFollows _ => hFollows.1⟩
    | false => exact ⟨⟨.idle, rfl⟩, fun hFollows hFails => hFollows.2 hFails _⟩
  | send update sent failed =>
    simp only [perform, tolerated]
    cases env.sent with
    | true => exact ⟨⟨.idle, trivial⟩, fun hFollows _ => hFollows.1⟩
    | false => exact ⟨⟨.idle, trivial⟩, fun hFollows hFails => hFollows.2 hFails _⟩
  | cancel next => exact ⟨⟨.idle, rfl⟩, fun hFollows _ => hFollows⟩
  | abandon next => exact ⟨⟨.released (fun hClaim => hClaim) rfl, rfl⟩, fun hFollows _ => hFollows⟩
  | drop => exact ⟨⟨.dropped rfl, rfl⟩, fun hFollows _ => hFollows.2⟩
  | execute ended =>
    simp only [perform]
    split_ifs
    · exact ⟨⟨.begun rfl, rfl⟩, fun hFollows _ => hFollows.2⟩
    · exact ⟨⟨.released (fun hClaim => Bool.noConfusion hClaim) rfl, rfl⟩,
        fun hFollows _ => hFollows.2 _ _⟩
  | finish job sequence ended =>
    simp only [perform]
    cases env.chunk with
    | some data => exact ⟨⟨.idle, rfl⟩, fun hFollows _ => ⟨hFollows, fun _ _ => hFollows⟩⟩
    | none => exact ⟨⟨.released (fun hClaim => hClaim) rfl, rfl⟩, fun hFollows _ => hFollows _ _⟩
  | resend job peer =>
    simp only [perform]
    cases node.jobs[job]?.filter (fun record => record.origin = peer) with
    | none => exact ⟨⟨.idle, trivial⟩, fun hFollows _ => hFollows⟩
    | some record => exact ⟨⟨.idle, trivial⟩, fun hFollows _ => ⟨hFollows, fun _ _ => hFollows⟩⟩

end

/- The mode of a handler that has done nothing yet. -/
def Mode.start : Mode := ⟨none, false, false⟩

variable {rules : Discipline}

section

variable {mode : Mode}

theorem sendLast_follows {update : JobUpdate} (hEnd : rules.atEnd mode) :
    (sendLast update).Follows rules mode :=
  ⟨hEnd, fun _ _ => hEnd⟩

theorem recordAnyway_follows {job : PersistedJob} {next : Plan}
    (hRecord : rules.atRecord mode job.state)
    (hBefore : rules.recordFails mode → next.Follows rules mode)
    (hAfter : next.Follows rules (mode.record job.state)) :
    (recordAnyway job next).Follows rules mode :=
  ⟨hRecord, fun hFails _ => hBefore hFails, hAfter, fun _ _ => hAfter⟩

end

/- Before the reservation a handler only refuses. -/
theorem handleRemoteJob_follows {request : JobRequest} {capability : Option CapabilityConfig}
    {peer : NodeId} (hEnd : rules.atEnd Mode.start) (hRefuse : rules.atRecord Mode.start .rejected)
    (hAdmit : (admitRemoteJob request).Follows rules Mode.start.reserve) :
    (handleRemoteJob request capability peer).Follows rules Mode.start := by
  have hReject : ∀ code message, (sendRejection request code message).Follows rules Mode.start :=
    fun _ _ => sendLast_follows hEnd
  unfold handleRemoteJob
  split
  · exact hReject _ _
  · split
    · exact hReject _ _
    · split
      · exact recordAnyway_follows hRefuse (fun _ => hReject _ _) (hReject _ _)
      · exact ⟨hAdmit, hEnd, hReject _ _, hEnd, fun error => hReject _ error⟩

----
-- Runs
----

/- A node and its handlers, which advance in any order. -/
structure JobNet where
  node : JobNode
  tasks : List Task

inductive JobAction where
  | request (capability : Option CapabilityConfig) (peer : NodeId) (request : JobRequest)
  | executeLocal (capability : CapabilityConfig) (home : NodeId) (request : JobRequest)
  | advance (index : Nat) (env : JobEnv)
  | restart (now : UInt64)

/- A job that was interrupted is loaded as a failed one. -/
def restoreJob (now : UInt64) (job : PersistedJob) : PersistedJob :=
  if job.state.terminal then
    job
  else
    { job with
      state := .failed
      updatedAt := now
      error := some "node restarted before the job reached a terminal state" }

def restoreJobs (now : UInt64) (file : History) : History :=
  file.map (fun _ job => restoreJob now job)

/- The jobs are read from the file, and the runtime is a new one. -/
def JobNode.restart (now : UInt64) (node : JobNode) : JobNode :=
  ⟨node.config, restoreJobs now node.file, restoreJobs now node.file, [], node.started,
    node.config.maxQueuedJobs⟩

/- A handler that has nothing yet. -/
def newTask (request : JobRequest) (plan : Plan) : Task :=
  ⟨request, plan, Mode.start⟩

def jobStep (net : JobNet) : JobAction → Option JobNet
| .request capability peer request =>
  some { net with
    tasks := net.tasks ++ [newTask request (handleRemoteJob request capability peer)] }
| .executeLocal capability home request =>
  some { net with
    tasks := net.tasks ++ [newTask request (Jobs.executeLocal request capability home)] }
| .advance index env =>
  (net.tasks[index]?).map (fun task =>
    let done := perform env net.node task
    ⟨done.1, net.tasks.set index done.2⟩)
| .restart now => some ⟨net.node.restart now, []⟩

/- A node without jobs. -/
def idleNet (config : RuntimeConfig) : JobNet :=
  ⟨⟨config, ∅, ∅, [], [], config.maxQueuedJobs⟩, []⟩

theorem getElem?_restoreJobs (now : UInt64) (file : History) (id : JobId) :
    (restoreJobs now file)[id]? = (file[id]?).map (restoreJob now) :=
  Std.TreeMap.getElem?_map

theorem restoreJob_terminal (now : UInt64) (job : PersistedJob) :
    (restoreJob now job).state.terminal = true := by
  unfold restoreJob
  split_ifs with hTerminal
  · exact hTerminal
  · rfl

/- What a step needs of the operation that it does. -/
def atSteps (cond : JobEnv → JobNode → Task → Bool) (net : JobNet) : JobAction → Bool
| .advance index env => (net.tasks[index]?).all (cond env net.node)
| _ => true

variable {action : JobAction} {net next : JobNet}

/- A step starts a handler, does one operation, or starts the node again. -/
theorem jobStep_cases (hStep : jobStep net action = some next) :
    (∃ task, task.mode = Mode.start ∧ next = { net with tasks := net.tasks ++ [task] } ∧
      ((∃ request capability peer, task.plan = handleRemoteJob request capability peer) ∨
        ∃ request capability home, task.plan = executeLocal request capability home)) ∨
    (∃ index env task, action = .advance index env ∧ net.tasks[index]? = some task ∧
      next = ⟨(perform env net.node task).1, net.tasks.set index (perform env net.node task).2⟩) ∨
    ∃ now, next = ⟨net.node.restart now, []⟩ := by
  cases action with
  | request capability peer request =>
    exact Or.inl ⟨_, rfl, (Option.some.inj hStep).symm, Or.inl ⟨request, capability, peer, rfl⟩⟩
  | executeLocal capability home request =>
    exact Or.inl ⟨_, rfl, (Option.some.inj hStep).symm, Or.inr ⟨request, capability, home, rfl⟩⟩
  | advance index env =>
    obtain ⟨task, hTask, rfl⟩ := Option.map_eq_some_iff.mp hStep
    exact Or.inr (Or.inl ⟨index, env, task, rfl, hTask, rfl⟩)
  | restart now => exact Or.inr (Or.inr ⟨now, (Option.some.inj hStep).symm⟩)

variable {changed : Task} {tasks : List Task}

theorem getElem?_set_cases (hGet : (tasks.set index changed)[i]? = some task) :
    (i = index ∧ task = changed) ∨ (i ≠ index ∧ tasks[i]? = some task) := by
  rw [List.getElem?_set] at hGet
  split_ifs at hGet with hIndex hBound
  · exact Or.inl ⟨hIndex.symm, (Option.some.inj hGet).symm⟩
  · exact Or.inr ⟨Ne.symm hIndex, hGet⟩

variable {added : Task}

theorem getElem?_concat_cases (hGet : (tasks ++ [added])[i]? = some task) :
    task = added ∨ tasks[i]? = some task := by
  rw [List.getElem?_append] at hGet
  split_ifs at hGet with hBound
  · exact Or.inr hGet
  · exact Or.inl (List.mem_singleton.mp (List.mem_of_getElem? hGet))

/- All handlers of the net keep the rules. -/
def Disciplined (rules : Discipline) (net : JobNet) : Prop :=
  ∀ (i : Nat) (task : Task), net.tasks[i]? = some task → task.plan.Follows rules task.mode

theorem Disciplined.step (hNet : Disciplined rules net) (hRemote : ∀ request capability peer,
    (handleRemoteJob request capability peer).Follows rules Mode.start)
    (hLocal : ∀ request capability home,
      (executeLocal request capability home).Follows rules Mode.start)
    (hTolerated : atSteps (tolerated rules) net action = true)
    (hStep : jobStep net action = some next) : Disciplined rules next := by
  intro i task hTask
  rcases jobStep_cases hStep with ⟨added, hMode, rfl, hPlan⟩ | ⟨index, env, old, rfl, hOld, rfl⟩ |
    ⟨now, rfl⟩
  · rcases getElem?_concat_cases hTask with rfl | hBefore
    · rw [hMode]
      rcases hPlan with ⟨request, capability, peer, hPlan⟩ | ⟨request, capability, home, hPlan⟩
      · exact hPlan ▸ hRemote request capability peer
      · exact hPlan ▸ hLocal request capability home
    · exact hNet i task hBefore
  · rcases getElem?_set_cases hTask with ⟨-, rfl⟩ | ⟨-, hBefore⟩
    · exact (perform_spec rules).2 (hNet index old hOld) (by simpa [atSteps, hOld] using hTolerated)
    · exact hNet i task hBefore
  · cases hTask

/- No two handlers with the flag have the same job. -/
def Exclusive (flag : Mode → Bool) (net : JobNet) : Prop :=
  ∀ (i j : Nat) (task other : Task), net.tasks[i]? = some task → net.tasks[j]? = some other →
    flag task.mode = true → flag other.mode = true → task.id = other.id → i = j

section

variable {flag : Mode → Bool} (hNet : Exclusive flag net)
include hNet

theorem Exclusive.add (hMode : flag added.mode = false) :
    Exclusive flag { net with tasks := net.tasks ++ [added] } := by
  intro i j task other hGet hGet' hFlag hFlag'
  rcases getElem?_concat_cases hGet with rfl | hGet
  · simp [hMode] at hFlag
  · rcases getElem?_concat_cases hGet' with rfl | hGet'
    · simp [hMode] at hFlag'
    · exact hNet i j task other hGet hGet' hFlag hFlag'

/- The flag is got only for a job that had no record. -/
theorem Exclusive.set (hTask : net.tasks[index]? = some task) (hId : changed.id = task.id)
    (hRecorded : ∀ (j : Nat) (other : Task), net.tasks[j]? = some other →
      flag other.mode = true → net.node.jobs[other.id]? ≠ none)
    (hNew : flag changed.mode = true → flag task.mode = true ∨ net.node.jobs[task.id]? = none) :
    Exclusive flag ⟨node, net.tasks.set index changed⟩ := by
  have hApart : ∀ (j : Nat) (other : Task), net.tasks[j]? = some other →
    flag other.mode = true → flag changed.mode = true → other.id = changed.id → j = index := by
    intro j other hGet hOther hFlag hEq
    rcases hNew hFlag with hOld | hNone
    · exact hNet j index other task hGet hTask hOther hOld (hEq.trans hId)
    · exact absurd ((hEq.trans hId) ▸ hNone) (hRecorded j other hGet hOther)
  intro i j first second hFirst hSecond hFlag hFlag' hEq
  rcases getElem?_set_cases hFirst with ⟨hI, rfl⟩ | ⟨-, hOld⟩
  · rcases getElem?_set_cases hSecond with ⟨hJ, rfl⟩ | ⟨-, hOld⟩
    · rw [hI, hJ]
    · rw [hI, hApart j second hOld hFlag' hFlag hEq.symm]
  · rcases getElem?_set_cases hSecond with ⟨hJ, rfl⟩ | ⟨-, hOld'⟩
    · rw [hJ, hApart i first hOld hFlag hFlag' hEq]
    · exact hNet i j first second hOld hOld' hFlag hFlag' hEq

end

----
-- A Small Job
----

/- Every operation succeeds, and every execution begins. -/
def goodEnv : JobEnv :=
  ⟨0, true, true, true, none, .ok .cancelled, fun _ => ⟨0⟩, ""⟩

def smallRuntime : RuntimeConfig := ⟨2, 1, 1⟩

def openCapability : CapabilityConfig := ⟨true, true, "builtin", "", 1, 1, .ok ()⟩

def smallRequest (id : JobId) : JobRequest :=
  ⟨id, ⟨1⟩, .inference, "text", none, [], 1, 1, ⟨true, true, false⟩⟩

def requestJob (id : JobId) : JobAction :=
  .request (some openCapability) ⟨1⟩ (smallRequest id)

/- The handler at `index` does its next operations. -/
def advances (count index : Nat) : List JobAction :=
  List.replicate count (.advance index goodEnv)

end Jobs

end IntelligenceNetwork
