import IntelligenceNetwork.Frontier.Grounds

/-
  Every step of a node is explained, function by function of
  the driver, of the participants and of the handlers.

  Main declarations:
    * `driveStep_explained`
    * `participantStep_explained`
    * `Claimed`
-/

----
-- The Next Graph
----

namespace IntelligenceNetwork.Frontier

variable {digests : Digests} {self : NodeId} {env : HandlerEnv} {member current : Member}
variable {input : NodeInput} {effects : List Effect} {driver : Driver} {within : Option Participant}

theorem Member.Drives.knows {graph : V4ExecutionGraph} (hDrives : member.Drives graph) :
    member.Knows graph := by
  rcases hDrives with ⟨driver, stage, within, hTask, rfl⟩
  exact Or.inr (by rw [hTask]; rfl)

/- What the building of the next graph does. -/
theorem Did.rebuilt (hDid : Did digests self member input [] current)
    (profiles : List V4WorkerCapability) (old : Snapshot) (failed joined : Option NodeId)
    (certificate : Option (List NodeId)) (handled : Handled Snapshot)
    (hOld : member.Knows old.graph)
    (hHandled : reconfigureIntegratedGraphMembership digests self env profiles current old failed
      joined certificate = handled) :
    Did digests self member input handled.effects handled.member ∧
      ∀ next, handled.result = .ok next → Leads digests self member input next.graph := by
  unfold reconfigureIntegratedGraphMembership at hHandled
  cases hNext : nextSnapshot digests self profiles old failed joined certificate with
  | error error =>
    rw [hNext] at hHandled
    subst hHandled
    exact ⟨hDid, by rintro next ⟨⟩⟩
  | ok next =>
    rw [hNext] at hHandled
    have hSucceeds := nextSnapshot_spec digests hNext
    have hOrigin : Origin digests self member input next.graph :=
      .built _ old next failed joined certificate hOld hSucceeds
    split_ifs at hHandled
    all_goals subst hHandled
    · exact ⟨hDid, by rintro next ⟨⟩⟩
    · exact ⟨hDid.congr rfl, by rintro next ⟨⟩⟩
    · refine ⟨?_, by rintro next ⟨⟩⟩
      exact (hDid.taken hOrigin (Or.inl rfl) (Or.inr rfl) rfl).quietly rfl
    · refine ⟨?_, by rintro next ⟨⟩⟩
      exact (hDid.taken hOrigin (Or.inr rfl) (Or.inr rfl) rfl).quietly rfl
    · refine ⟨(hDid.taken hOrigin (Or.inr rfl) (Or.inr rfl) rfl).quietly rfl, ?_⟩
      rintro other ⟨⟩
      exact Or.inr ⟨hOrigin, hSucceeds.coordinator⟩

theorem Did.activateAgain (hDid : Did digests self member input effects current) (attempts : Nat)
    (hLeads : Leads digests self member input driver.snapshot.graph) :
    Explained digests self member input
      (activateAgain self current effects driver attempts within) := by
  unfold Frontier.activateAgain
  split_ifs
  · exact hDid.failed within
  · exact (hDid.activating driver.windows driver.checkpointEvery
      (some attempts) hLeads.origin).goesOn hLeads

variable (hDrives : member.Drives driver.snapshot.graph)

section

include hDrives

theorem changeGraph_explained {profiles : List V4WorkerCapability} {failed joined : Option NodeId}
    {counted : V4ExecutionGraph → DriverCounts} {attempts : Nat} :
    Explained digests self member input (changeGraph digests self env profiles member driver failed
      joined counted attempts within) := by
  unfold changeGraph
  cases hHandled : reconfigureIntegratedGraphMembership digests self env
    profiles member driver.snapshot failed joined none with
  | mk after effects result =>
    rcases Did.unchanged.rebuilt profiles driver.snapshot failed
      joined none _ hDrives.knows hHandled with ⟨hDid, hNext⟩
    cases result with
    | error error => exact hDid.failed within
    | ok next => exact hDid.activateAgain attempts (hNext next rfl)

----
-- Drivers
----

theorem goOn_explained {stage : Stage} :
    Explained digests self member input (goOn member [] driver stage within) :=
  Did.unchanged.goesOn (Or.inl hDrives)

theorem activationFails_explained {attempts : Option Nat} {error : NodeError} :
    Explained digests self member input (activationFails member driver attempts within error) := by
  cases attempts with
  | none => exact Did.unchanged.failed within
  | some attempts => exact goOn_explained hDrives

theorem retryActivation_explained {attempts : Nat} {probes : Probes} :
    Explained digests self member input
      (retryActivation digests self env member driver attempts within probes) := by
  unfold retryActivation
  dsimp only
  split
  · exact Did.unchanged.activateAgain _ (Or.inl hDrives)
  · split_ifs
    · apply changeGraph_explained
      exact hDrives
    · exact Did.unchanged.failed within

end

theorem quiet_broadcast {graph : V4ExecutionGraph} {state : V4IntegratedStateRecord} :
    (broadcastIntegratedState self graph state).all Effect.quiet = true :=
  quiet_sends _ (fun _ => rfl)

theorem finishActivation_explained {attempts : Option Nat}
    (hDid : Did digests self member input [] current)
    (hLeads : Leads digests self member input driver.snapshot.graph) :
    Explained digests self member input
      (finishActivation digests self env current driver attempts within) := by
  unfold finishActivation commitIntegratedGraphActivation
  cases env.stateWritten with
  | false => exact hDid.failed within
  | true =>
    have hRecorded : ∀ state, Did digests self member input
      ([.recorded state, .started driver.snapshot.graph] ++
        broadcastIntegratedState self driver.snapshot.graph state)
      (recordState current state) := by
      intro state
      refine .after (.quietly ?_ rfl) quiet_broadcast
      exact hDid.congr rfl
    cases attempts with
    | none | some attempts => exact (hRecorded _).goesOn hLeads

theorem Did.published (hDid : Did digests self member input effects current)
    (hLeads : Leads digests self member input driver.snapshot.graph) :
    Explained digests self member input
      (publishWindow digests self env current effects driver within) := by
  unfold publishWindow
  split_ifs
  · exact hDid.failed within
  · apply Did.goesOn
    · refine Did.after (hDid.congr rfl) ?_
      exact quiet_broadcast
    · exact hLeads

theorem Did.settled (hDid : Did digests self member input effects current)
    (hLeads : Leads digests self member input driver.snapshot.graph)
    {checkpoint : V4CheckpointRecord} : Explained digests self member input
      (settleCheckpoint digests self env current effects driver checkpoint within) :=
  (hDid.after rfl).published hLeads

theorem finishDriver_explained :
    Explained digests self member input (finishDriver digests self env member driver within) := by
  have hDone : ∀ state, Did digests self member input
    (.recorded state :: broadcastIntegratedState self driver.snapshot.graph state)
    (recordState member state) := by
    intro state
    refine .quietly (Did.unchanged.congr rfl) ?_
    exact quiet_broadcast
  unfold finishDriver
  dsimp only
  split_ifs
  · exact Did.unchanged.failed within
  · exact (hDone _).failed within
  · exact (((hDone _).after rfl).after rfl).explained .idle
  · exact (((hDone _).after rfl).after rfl).explained .idle

section

include hDrives

theorem headWindow_explained {profiles : List V4WorkerCapability} :
    Explained digests self member input
      (headWindow digests self env member driver within profiles) := by
  unfold headWindow
  split_ifs
  · exact finishDriver_explained
  · exact Did.unchanged.failed within
  · split
    · apply changeGraph_explained
      exact hDrives
    · exact goOn_explained hDrives

variable {probes : Probes}

theorem probeWindow_explained :
    Explained digests self member input
      (probeWindow digests self env member driver within probes) := by
  unfold probeWindow
  dsimp only
  split
  · exact goOn_explained hDrives
  · split_ifs
    · apply changeGraph_explained
      exact hDrives
    · exact goOn_explained hDrives

theorem failRound_explained {round : RoundKind} :
    Explained digests self member input
      (failRound digests self env member driver round within probes) := by
  unfold failRound
  dsimp only
  split
  · split_ifs
    · apply changeGraph_explained
      exact hDrives
    · exact goOn_explained hDrives
  · split
    · apply changeGraph_explained
      exact hDrives
    · apply goOn_explained
      exact hDrives

theorem failCheckpoint_explained :
    Explained digests self member input
      (failCheckpoint digests self env member driver within probes) := by
  unfold failCheckpoint
  dsimp only
  split
  · exact goOn_explained hDrives
  · split_ifs
    · apply changeGraph_explained
      exact hDrives
    · exact goOn_explained hDrives

end

/- A commit offers its manifest, or does nothing. -/
theorem Did.committing (hDid : Did digests self member input [] current) {snapshot : Snapshot}
    {tensor : TensorRound} {unreachable : Finset NodeId}
    {handled : Handled (V4CheckpointRecord × Finset NodeId)}
    (hHandled : commitIntegratedCheckpoint digests self env unreachable current snapshot tensor =
      handled) : Did digests self member input handled.effects handled.member := by
  unfold commitIntegratedCheckpoint at hHandled
  cases hManifest : checkpointManifest digests current snapshot tensor with
  | error error =>
    rw [hManifest] at hHandled
    subst hHandled
    exact hDid
  | ok checkpoint =>
    rw [hManifest] at hHandled
    have hHash : checkpoint.manifestHash = checkpointHash digests checkpoint := by
      simp only [checkpointManifest, Validation.bind_eq_ok_iff] at hManifest
      rcases hManifest with ⟨_, -, _, -, hResult⟩
      cases hResult
      rfl
    dsimp only at hHandled
    split_ifs at hHandled
    · subst hHandled
      exact hDid.roomMade
    · split at hHandled
      all_goals
        subst hHandled
        exact hDid.offered hHash _

section

include hDrives

theorem endWindow_explained {tensor : TensorRound} {unreachable : Finset NodeId} :
    Explained digests self member input
      (endWindow digests self env member driver tensor within unreachable) := by
  have hLeads : Leads digests self member input (completeWindow driver).snapshot.graph :=
    Or.inl hDrives
  unfold endWindow
  dsimp only
  split_ifs
  · cases hHandled : commitIntegratedCheckpoint digests self env unreachable member
      (completeWindow driver).snapshot tensor with
    | mk after effects result =>
      have hDid : Did digests self member input effects after :=
        Did.unchanged.committing hHandled
      cases result with
      | error error => exact hDid.goesOn hLeads
      | ok made =>
        dsimp only
        split_ifs
        · exact hDid.settled hLeads
        · exact hDid.goesOn hLeads
  · exact Did.unchanged.published hLeads

theorem driveStep_explained {stage : Stage} {event : TaskEvent} {stepped : Stepped}
    (hStep : driveStep digests self env member driver within stage event = some stepped) :
    Explained digests self member input stepped := by
  unfold driveStep at hStep
  split at hStep
  -- Where the answer does not depend on the event, it is known now.
  all_goals try cases hStep
  · dsimp only at hStep
    split_ifs at hStep
    all_goals cases hStep
    · exact (Did.unchanged.quietly (quiet_sends _ (fun _ => rfl))).goesOn (Or.inl hDrives)
    · exact goOn_explained hDrives
    · exact goOn_explained hDrives
  · exact activationFails_explained hDrives
  · exact activationFails_explained hDrives
  · split at hStep
    · cases hStep
      exact activationFails_explained hDrives
    · cases hStep
      refine Did.goesOn (Did.quietly ?_ rfl) (Or.inl hDrives)
      exact Did.unchanged.congr rfl
  · split at hStep
    · cases hStep
      exact activationFails_explained hDrives
    · cases hStep
      exact finishActivation_explained Did.unchanged (Or.inl hDrives)
  · exact retryActivation_explained hDrives
  · exact headWindow_explained hDrives
  · exact probeWindow_explained hDrives
  · exact goOn_explained hDrives
  · apply goOn_explained
    exact hDrives
  · exact goOn_explained hDrives
  · apply goOn_explained
    exact hDrives
  · exact goOn_explained hDrives
  · exact endWindow_explained hDrives
  · exact failRound_explained hDrives
  · dsimp only at hStep
    split_ifs at hStep
    all_goals cases hStep
    · exact Did.unchanged.settled (Or.inl hDrives)
    · exact goOn_explained hDrives
    · exact goOn_explained hDrives
  · exact goOn_explained hDrives
  · exact goOn_explained hDrives
  · exact failCheckpoint_explained hDrives

end

----
-- Participants
----

section

variable {participant : Participant} {snapshot : Snapshot} {confirmed unreachable : Finset NodeId}

section

variable {candidacy : Candidacy} (hDid : Did digests self member input [] current)
variable (hKnown : member.Knows candidacy.snapshot.graph)
include hDid hKnown

/- A candidate with a majority takes the job over. -/
theorem Did.takenOver :
    Explained digests self member input
      (takeOver digests self env current participant candidacy) := by
  unfold takeOver
  dsimp only
  cases hHandled : reconfigureIntegratedGraphMembership digests self env []
    current candidacy.snapshot (some candidacy.snapshot.graph.coordinator) none
    (some (certificateOf candidacy)) with
  | mk after marks result =>
    rcases hDid.rebuilt [] candidacy.snapshot _ none _ _ hKnown hHandled with ⟨hRebuilt, hNext⟩
    have hWon : Did digests self member input
      ([.elected candidacy.snapshot.graph candidacy.term (certificateOf candidacy)] ++ marks)
      after :=
      hRebuilt.before rfl
    cases result with
    | error error => exact hWon.waiting participant _
    | ok next =>
      have hLeads := hNext next rfl
      exact (hWon.activating participant.windows participant.checkpointEvery
        none hLeads.origin).explained (.drives _ _ _ hLeads)

theorem Did.counted : Explained digests self member input
    (countVotes digests self env current participant candidacy) := by
  unfold countVotes
  split_ifs
  · exact hDid.takenOver hKnown
  · exact hDid.waiting participant _
  · refine hDid.explained (.watches _ _ ?_)
    rintro graph ⟨⟩
    exact .known _ _ hKnown

end

theorem requestIntegratedElection_explained (hKnown : member.Knows snapshot.graph) :
    Explained digests self member input
      (requestIntegratedElection digests self env member
        participant snapshot confirmed unreachable) := by
  unfold requestIntegratedElection
  dsimp only
  split_ifs
  · exact Did.unchanged.waiting participant _
  · refine Explained.before (Did.counted (Did.unchanged.congr rfl) hKnown) ?_
    exact quiet_sends _ (fun _ => rfl)

theorem maybeTakeOver_explained :
    Explained digests self member input (maybeTakeOverIntegratedJob member participant) := by
  unfold maybeTakeOverIntegratedJob
  split
  · rename_i graph plan state hGraph hPlan hState
    have hProbing : Explained digests self member input
      ⟨{ member with task := .participant participant (.probing ⟨graph, plan, state⟩) }, []⟩ := by
      refine Did.unchanged.explained (.watches _ _ ?_)
      rintro other ⟨⟩
      exact .known _ _ (Or.inl (Or.inl hGraph))
    split
    · exact Did.unchanged.explained .idle
    · exact Did.unchanged.explained .idle
    · exact Did.unchanged.waiting participant 0
    · exact Did.unchanged.waiting participant 0
    · exact hProbing
    · exact hProbing
  · exact Did.unchanged.waiting participant _

theorem decideTakeover_explained (hKnown : member.Knows snapshot.graph) :
    Explained digests self member input
      (decideTakeover digests self env member participant snapshot confirmed unreachable) := by
  unfold decideTakeover
  dsimp only
  split_ifs
  · exact Did.unchanged.waiting participant 0
  · exact Did.unchanged.waiting participant _
  · exact Did.unchanged.waiting participant _
  · exact Did.unchanged.waiting participant 0
  · exact requestIntegratedElection_explained hKnown

variable {event : TaskEvent} {stepped : Stepped}

theorem participantStep_explained {stage : ParticipantStage}
    (hTask : member.task = .participant participant stage)
    (hStep : participantStep digests self env member participant stage event = some stepped) :
    Explained digests self member input stepped := by
  unfold participantStep at hStep
  split at hStep
  all_goals try cases hStep
  · exact maybeTakeOver_explained
  · split_ifs at hStep
    · cases hStep
      exact Did.unchanged.explained .idle
    · cases hStep
      exact explained_unchanged
  · exact Did.unchanged.explained .idle
  · exact explained_unchanged
  · exact decideTakeover_explained (Or.inr (by rw [hTask]; rfl))
  · split at hStep
    · split_ifs at hStep
      · cases hStep
        exact Did.unchanged.counted (Or.inr (by rw [hTask]; rfl))
      · cases hStep
        exact explained_unchanged
    · cases hStep
      exact explained_unchanged
  · exact Did.unchanged.waiting participant _
  · exact Did.unchanged.waiting participant _

theorem controllerStep_explained (hStep : controllerStep member event = some stepped) :
    Explained digests self member input stepped := by
  unfold controllerStep at hStep
  split at hStep <;> cases hStep
  · exact Did.unchanged.explained .idle
  · exact explained_unchanged
  · exact Did.unchanged.explained .idle
  · exact Did.unchanged.explained .idle

theorem taskStep_explained (hStep : taskStep digests self env member event = some stepped) :
    Explained digests self member input stepped := by
  unfold taskStep at hStep
  split at hStep
  · cases hStep
  · exact controllerStep_explained hStep
  · rename_i participant stage hTask
    exact participantStep_explained hTask hStep
  · rename_i driver stage within hTask
    exact driveStep_explained ⟨driver, stage, within, hTask, rfl⟩ hStep

theorem resumable_graph {records : JobRecords} (hFound : resumable self records = some snapshot) :
    records.graph = some snapshot.graph := by
  unfold resumable at hFound
  split at hFound
  · rename_i graph plan state hGraph hPlan hState
    split_ifs at hFound
    cases hFound
    exact hGraph
  · cases hFound

theorem resume_explained (hStep : resume digests self env member = some stepped) :
    Explained digests self member input stepped := by
  have hStart : Did digests self member input [] { member with resuming := false } :=
    Did.unchanged.congr rfl
  unfold resume at hStep
  split_ifs at hStep
  dsimp only at hStep
  split at hStep
  · cases hStep
    exact hStart.handled rfl
  · rename_i snapshot hFound
    split_ifs at hStep with hRunning hOwn <;> cases hStep
    · exact hStart.handled rfl
    · have hKnown : member.Knows snapshot.graph := Or.inl (Or.inl (resumable_graph hFound))
      exact finishActivation_explained hStart (Or.inr ⟨.known _ _ hKnown, hOwn⟩)
    · exact hStart.explained (.watches _ .waiting (by rintro graph ⟨⟩))

end

----
-- Handlers
----

section

variable {peer : NodeId} {message : TrainingV4Message} {claim : Security.AuthenticatedClaim}

abbrev Handled.stepped {α : Type} (handled : Handled α) : Stepped :=
  ⟨handled.member, handled.effects⟩

/- Nothing but the ledger has changed so far. -/
structure Claimed (member : Member) (input : NodeInput) (current : Member) : Prop where
  held : current.held = member.held
  stored : current.stored = member.stored
  task : current.task = member.task
  ledger : LedgerStep member input current

theorem claimed_self : Claimed member input member :=
  ⟨rfl, rfl, rfl, .same _ _ rfl rfl⟩

section

variable (hClaimed : Claimed member input current)
include hClaimed

theorem Claimed.did : Did digests self member input [] current where
  records := by
    intro graph hRecords
    rw [Member.Records, hClaimed.held, hClaimed.stored] at hRecords
    exact .known _ _ (Or.inl hRecords)
  manifests := by
    intro generation checkpoint hKeeps
    rw [Member.Keeps, hClaimed.held, hClaimed.stored] at hKeeps
    exact Or.inl hKeeps
  backed := by
    rintro effect ⟨⟩
  ledger := hClaimed.ledger

/- A handler that has to do with neither graphs nor manifests. -/
theorem Claimed.quiet {later : Member} (hSame : later.traced = current.traced)
    (hTask : later.task = current.task) (hQuiet : effects.all Effect.quiet = true) :
    Explained digests self member input ⟨later, effects⟩ :=
  ((hClaimed.did.congr hSame).quietly hQuiet).handled (hTask.trans hClaimed.task)

end

theorem claimed_observeClaim (hClaim : messageClaim peer message = some claim) :
    Claimed member (.received env peer message) (observeClaim env member claim).member := by
  rcases observeClaim_member with ⟨-, hHeld, hStored, hTask⟩
  refine ⟨hHeld, hStored, hTask, ?_⟩
  unfold observeClaim
  dsimp only
  split
  · exact .observed env peer message claim _ hClaim rfl (Or.inl rfl)
  · refine .observed env peer message claim _ hClaim rfl ?_
    split_ifs
    · exact Or.inr rfl
    · exact Or.inl rfl

/- A handler that begins with a claim. -/
theorem claimed_explained {next : Member → Unit → Handled Unit}
    (hClaim : messageClaim peer message = some claim)
    (hNext : ∀ current, Claimed member (.received env peer message) current →
      Explained digests self member (.received env peer message) (next current ()).stepped) :
    Explained digests self member (.received env peer message)
      ((observeClaim env member claim).andThen next).stepped := by
  have hClaimed : Claimed member (.received env peer message)
    (observeClaim env member claim).member :=
    claimed_observeClaim hClaim
  unfold Handled.andThen
  rw [observeClaim_member.1]
  cases (observeClaim env member claim).result with
  | error error => exact hClaimed.quiet rfl rfl rfl
  | ok value => exact hNext _ hClaimed

/- What a node does with a graph that it takes over. -/
theorem acceptStart_explained {start : V4IntegratedStart}
    (hClaimed : Claimed member (.received env peer (.integratedStart start)) current) :
    Explained digests self member (.received env peer (.integratedStart start))
      (acceptStart digests self env current peer start).stepped := by
  have hOrigin : Origin digests self member (.received env peer (.integratedStart start))
    start.graph :=
    .received env peer start
  have hAdopted : Did digests self member (.received env peer (.integratedStart start)) []
    (adoptGraph current start.graph start.plan) :=
    hClaimed.did.taken hOrigin (Or.inr rfl) (Or.inr rfl) rfl
  have hRecorded : ∀ state target message, (Effect.send target message).quiet = true →
    Did digests self member (.received env peer (.integratedStart start))
      ([.adopted start.graph] ++ [.recorded state, .send target message])
      (recordState (adoptGraph current start.graph start.plan) state) := by
    intro state target message hQuiet
    refine .quietly (hAdopted.congr rfl) ?_
    simp only [List.all_append, List.all_cons, hQuiet]
    rfl
  unfold acceptStart
  generalize (if isInitialController self peer start = true then
    peer
    else
      start.graph.coordinator) = target
  split_ifs
  · exact hClaimed.quiet rfl rfl rfl
  · exact hClaimed.quiet rfl rfl rfl
  · exact (hAdopted.quietly rfl).handled hClaimed.task
  · exact (hRecorded _ target _ rfl).handled hClaimed.task
  · have hDid := hRecorded (startState digests start current.held.state) target
      (.integratedAck ⟨start.graph.jobId, start.graph.graphGeneration,
        self, true, "durable graph persisted"⟩) rfl
    unfold startTask
    split_ifs with hRunning hController
    · exact (Did.after (hDid.congr rfl) rfl).handled hClaimed.task
    · have hOwn : start.graph.coordinator = self := by
        rw [isInitialController, Bool.and_eq_true, beq_iff_eq] at hController
        exact hController.1.symm
      apply Did.explained
      · exact hDid.activating start.windows start.checkpointEvery none hOrigin
      · exact .drives _ _ _ (Or.inr ⟨hOrigin, hOwn⟩)
    · exact (hDid.after rfl).explained (.watches _ .waiting (by rintro graph ⟨⟩))

theorem receiveIntegratedStart_explained {start : V4IntegratedStart} :
    Explained digests self member (.received env peer (.integratedStart start))
      (receiveIntegratedStart digests self env member peer start).stepped := by
  unfold receiveIntegratedStart
  cases Validation.v4IntegratedStart start with
  | error error => exact explained_unchanged
  | ok value =>
    apply claimed_explained rfl
    intro current hClaimed
    split_ifs
    · exact hClaimed.quiet rfl rfl rfl
    · split
      · exact hClaimed.quiet rfl rfl rfl
      · exact acceptStart_explained hClaimed

theorem receiveIntegratedState_explained {state : V4IntegratedStateRecord} :
    Explained digests self member input
      (receiveIntegratedState digests self env member peer state).stepped := by
  unfold receiveIntegratedState
  cases Validation.v4IntegratedState state with
  | error error => exact explained_unchanged
  | ok value =>
    dsimp only
    split
    · exact explained_unchanged
    · cases member.held.graph with
      | none => exact explained_unchanged
      | some graph =>
        dsimp only
        split_ifs
        all_goals exact claimed_self.quiet rfl rfl rfl

theorem receiveElectionRequest_explained {request : V4IntegratedElectionRequest} :
    Explained digests self member input
      (receiveIntegratedElectionRequest digests self env member peer request).stepped := by
  unfold receiveIntegratedElectionRequest
  cases Validation.v4IntegratedElectionRequest request with
  | error error => exact explained_unchanged
  | ok value =>
    dsimp only
    split
    · exact explained_unchanged
    · exact explained_unchanged
    · split
      · exact claimed_self.quiet rfl rfl rfl
      · split_ifs
        all_goals exact claimed_self.quiet rfl rfl rfl

theorem receiveStateRecord_explained {record : V4TrainingStateRecord} :
    Explained digests self member (.received env peer (.stateRecord record))
      (receiveStateRecord digests env member peer record).stepped := by
  apply claimed_explained rfl
  intro current hClaimed
  dsimp only
  split_ifs
  all_goals exact hClaimed.quiet rfl rfl rfl

theorem receiveOptimizerShard_explained {record : V4OptimizerShardRecord} :
    Explained digests self member (.received env peer (.optimizerShard record))
      (receiveOptimizerShard digests self env member peer record).stepped := by
  apply claimed_explained rfl
  intro current hClaimed
  dsimp only
  split_ifs
  all_goals exact hClaimed.quiet rfl rfl rfl

theorem receiveCheckpointRecord_explained {record : V4CheckpointRecord} :
    Explained digests self member (.received env peer (.checkpointRecord record))
      (receiveCheckpointRecord digests self env member peer record).stepped := by
  apply claimed_explained rfl
  intro current hClaimed
  dsimp only
  split_ifs
  · exact hClaimed.quiet rfl rfl rfl
  · exact hClaimed.quiet rfl rfl rfl
  · exact (hClaimed.did.roomMade.quietly rfl).handled hClaimed.task
  · refine Did.handled (Did.kept (Did.quietly hClaimed.did rfl) ?_) hClaimed.task
    exact Or.inr ⟨env, peer, rfl⟩

theorem receiveShardMigration_explained {migration : V4ShardMigration} :
    Explained digests self member input
      (receiveShardMigration digests self env member peer migration).stepped := by
  unfold receiveShardMigration
  split
  · exact explained_unchanged
  · cases migration.phase with
    | prepare =>
      unfold prepareMigration
      cases member.held.dataShards[migration.shardId]? with
      | some existing | none =>
        dsimp only
        split_ifs
        all_goals exact claimed_self.quiet rfl rfl rfl
    | commit =>
      split_ifs
      all_goals exact claimed_self.quiet rfl rfl rfl
    | abort =>
      unfold abortMigration
      split_ifs
      all_goals exact claimed_self.quiet rfl rfl rfl

theorem receivePlan_explained {plan : V4TrainingPlan} :
    Explained digests self member (.received env peer (.plan plan))
      (receivePlan digests self env member peer plan).stepped := by
  have hClaimed : ∀ security stored, security = (Security.observeAuthenticatedClaim member.security
    (planClaim peer "v4.plan" plan) env.now).security →
    (stored = member.storedSecurity ∨ stored = security) →
    Claimed member (.received env peer (.plan plan))
      { member with security := security, storedSecurity := stored } := by
    intro security stored hSecurity hStored
    exact ⟨rfl, rfl, rfl, .observed env peer (.plan plan) _ _ rfl hSecurity hStored⟩
  unfold receivePlan
  dsimp only
  split_ifs
  all_goals refine Claimed.quiet (hClaimed _ _ rfl ?_) rfl rfl rfl
  all_goals first | exact Or.inl rfl | exact Or.inr rfl

/- Every handler is explained. -/
theorem handleMessage_explained {handled : Handled Unit}
    (hHandled : handleMessage digests self env member peer message = some handled) :
    Explained digests self member (.received env peer message) handled.stepped := by
  unfold handleMessage at hHandled
  split at hHandled <;> cases hHandled
  · exact receiveIntegratedStart_explained
  · exact receiveIntegratedState_explained
  · exact receiveElectionRequest_explained
  · exact receiveStateRecord_explained
  · exact receiveOptimizerShard_explained
  · exact receiveCheckpointRecord_explained
  · exact receiveShardMigration_explained
  · exact receivePlan_explained

end

----
-- Nodes
----

/- A restart brings back what is stored, and no task. -/
theorem restart_explained :
    Explained digests self member .restarted ⟨restart digests self member, []⟩ where
  did :=
    { records := by
        intro graph hRecords
        refine .known _ _ (Or.inl (Or.inr ?_))
        rcases hRecords with hHeld | hStored
        · exact (Option.filter_eq_some_iff.mp hHeld).1
        · exact hStored
      manifests := by
        intro generation checkpoint hKeeps
        refine Or.inl (Or.inr ?_)
        rcases hKeeps with hHeld | hStored
        · dsimp only [restart, restored] at hHeld
          rw [Std.TreeMap.getElem?_filter'] at hHeld
          exact (Option.filter_eq_some_iff.mp hHeld).1
        · exact hStored
      backed := by
        rintro effect ⟨⟩
      ledger := .restarted _ rfl rfl }
  moves := .idle

/- Every step of a node is explained. -/
theorem nodeStep_explained {stepped : Stepped}
    (hStep : nodeStep digests self member input = some stepped) :
    Explained digests self member input stepped := by
  cases input with
  | received env peer message =>
    change receive digests self env member peer message = some stepped at hStep
    unfold receive at hStep
    split at hStep
    · rename_i handled hHandled
      cases hStep
      exact handleMessage_explained hHandled
    · exact taskStep_explained hStep
  | happened env event =>
    rw [nodeStep] at hStep
    split_ifs at hStep
    exact taskStep_explained hStep
  | restarted =>
    cases hStep
    exact restart_explained
  | resumed env => exact resume_explained hStep
  | replanned plan =>
    cases hStep
    exact claimed_self.quiet rfl rfl rfl
  | elsewhere security stored =>
    cases hStep
    have hClaimed : Claimed member (.elsewhere security stored)
      { member with security := security, storedSecurity := stored } :=
      ⟨rfl, rfl, rfl, .elsewhere _ _ _ rfl rfl⟩
    exact hClaimed.quiet rfl rfl rfl

end IntelligenceNetwork.Frontier
