import IntelligenceNetwork.Frontier.InPlay
import IntelligenceNetwork.Frontier.Manifest
import Mathlib.Data.List.ReduceOption

/-
  A checkpoint is tried again after a failure.

  Providers that have kept the first manifest, or only entered
  its hash into their ledgers, take no other one under the same
  generation.  An attempt goes through where it repeats every
  manifest that was ever offered under its generation.

  Main declarations:
    * `repeatsManifests`
    * `ManifestInv`
    * `Awaits`
    * `attempt_commits`
-/

----
-- Attempts
----

namespace IntelligenceNetwork.Frontier

open Transition Validation

variable {digests : Digests} {jobId : JobId} {later log : List (NodeId × Effect)} {net : Net}
variable {stepped : Stepped} {checkpoint : V4CheckpointRecord} {self : NodeId} {driver : Driver}
variable {member : Member} {rest : List Effect} {within : Option Participant} {tensor : TensorRound}

section

/- The driver and the round of a checkpoint that is now tried. -/
def attemptOf (member : Member) (input : NodeInput) : Option (Driver × TensorRound) :=
  match input, member.task with
  | .happened _ (.collectiveDone true _), .driving driver (.collectiveRound tensor) _ =>
    if checkpointDue (completeWindow driver) then some (completeWindow driver, tensor) else none
  | _, _ => none

/- The end of the last round, with every provider in reach. -/
def reliableEnd : NodeInput :=
  .happened {} (.collectiveDone true ∅)

variable (digests : Digests) (self : NodeId)

/- An answer of a peer is brought to the driver. -/
def bringBack (peer : NodeId) (driver : Stepped) : Effect → Stepped
| .send target message =>
  if target = self then
    match taskStep digests self {} driver.member (.inbound peer message) with
    | none => driver
    | some next => ⟨next.member, driver.effects ++ next.effects⟩
  else
    driver
| _ => driver

/- A message of the driver is delivered, and so are answers. -/
def exchange (nodes : NodeId → Member) (driver : Stepped) : Effect → Stepped
| .send peer message =>
  match receive digests peer {} (nodes peer) self message with
  | none => driver
  | some handled => handled.effects.foldl (bringBack digests self peer) driver
| _ => driver

/- The provider takes the manifest and says so. -/
def Accepts (nodes : NodeId → Member) (checkpoint : V4CheckpointRecord)
    (provider : NodeId) : Prop :=
  let handled := receiveCheckpointRecord digests provider {} (nodes provider) self checkpoint
  handled.result = .ok () ∧ .send self (checkpointAck checkpoint true) ∈ handled.effects

/-
  The attempt goes through when no message is lost: every
  provider takes the manifest, and in whatever order they
  answer, the driver counts the checkpoint as committed.
-/
def CommitsReliably (net : Net) : Prop :=
  ∃ begun checkpoint, nodeStep digests self (net.nodes self) reliableEnd = some begun ∧
    .offered checkpoint ∈ begun.effects ∧ (∀ provider ∈ remoteProviders self checkpoint,
      Accepts digests self net.nodes checkpoint provider) ∧
    ∀ order : List Effect, order.Perm begun.effects → ∃ window, .committed window checkpoint ∈
      (order.foldl (exchange digests self net.nodes) begun).effects

end

----
-- Conditions
----

/- An earlier manifest is what the driver would write now. -/
def repeatsManifest (member : Member) (snapshot : Snapshot) (tensor : TensorRound)
    (earlier : V4CheckpointRecord) : Bool :=
  earlier.shardHashes.map some == roundHashes snapshot.graph tensor &&
    { earlier with manifestHash := default } == manifestContent member snapshot earlier.shardHashes

/- The ledger gets no manifest of the job from elsewhere. -/
def addsNoManifest (jobId : JobId) (member : Member)
    (security : Security.LocalSecurityState) : Bool :=
  security.authenticatedClaims.toList.all (fun entry =>
    entry.1.object != "v4.checkpoint" || entry.1.jobId != some jobId ||
      member.security.authenticatedClaims[entry.1]? == some entry.2 ||
      member.storedSecurity.authenticatedClaims[entry.1]? == some entry.2)

/-
  A checkpoint is tried only with what was offered before under
  its generation, if anything was.
-/
def repeatsManifests (jobId : JobId) (net : Net) (node : NodeId) (input : NodeInput) : Bool :=
  match input with
  | .elsewhere security stored =>
    addsNoManifest jobId (net.nodes node) security && addsNoManifest jobId (net.nodes node) stored
  | input =>
    match attemptOf (net.nodes node) input with
    | none => true
    | some (driver, tensor) =>
      net.log.all (fun entry =>
        match entry.2 with
        | .offered earlier =>
          earlier.checkpointGeneration != Saturating.add driver.snapshot.state.checkpointGeneration
            1 || repeatsManifest (net.nodes node) driver.snapshot tensor earlier
        | _ => true)

/- No shard is without hashes, and the manifest is in bounds. -/
def manifestComplete (digests : Digests) (member : Member) (snapshot : Snapshot)
    (tensor : TensorRound) : Bool :=
  let hashes := roundHashes snapshot.graph tensor
  hashes.all Option.isSome && (v4Checkpoint (V4CheckpointRecord.hashed digests
    (manifestContent member snapshot hashes.reduceOption))).isOk

----
-- Where Manifests Come From
----

section

/- Every claim of a manifest is about one that was offered. -/
def ClaimsOffered (jobId : JobId) (log : List (NodeId × Effect))
    (security : Security.LocalSecurityState) : Prop :=
  ∀ (key : Security.ClaimKey) (digest : ArtifactId),
    security.authenticatedClaims[key]? = some digest →
      key.object = "v4.checkpoint" → key.jobId = some jobId → ∃ checkpoint,
        (key.signer, .offered checkpoint) ∈ log ∧
          checkpoint.checkpointGeneration = key.generation ∧ checkpoint.manifestHash = digest

/- Every manifest that a node keeps was offered. -/
def ManifestsOffered (log : List (NodeId × Effect)) (member : Member) : Prop :=
  ∀ generation checkpoint, member.Keeps generation checkpoint →
    checkpoint.checkpointGeneration = generation ∧ ∃ node, (node, .offered checkpoint) ∈ log

/- Graphs of the job, with a coordinator that has a name. -/
def OfJob (jobId : JobId) (graph : V4ExecutionGraph) : Prop :=
  graph.jobId = jobId ∧ graph.coordinator ≠ default

structure ManifestInv (digests : Digests) (jobId : JobId) (net : Net) : Prop where
  play : InPlay (OfJob jobId) net
  led : Led net
  hashed : ∀ node checkpoint, (node, .offered checkpoint) ∈ net.log →
    checkpoint.manifestHash = checkpointHash digests checkpoint
  sent : ∀ node target checkpoint, (node, .send target (.checkpointRecord checkpoint)) ∈ net.log →
    (node, .offered checkpoint) ∈ net.log
  kept : ∀ node, ManifestsOffered net.log (net.nodes node)
  claims : ∀ node, ClaimsOffered jobId net.log (net.nodes node).security
  storedClaims : ∀ node, ClaimsOffered jobId net.log (net.nodes node).storedSecurity

theorem ofJob_inherited : Inherited digests (OfJob jobId) := by
  intro node old failed joined certificate next hOld hNext
  exact ⟨hNext.job.trans hOld.1, hNext.facts.named⟩

variable {next : Net} {action : Action} {node : NodeId} {input : NodeInput}

theorem ClaimsOffered.mono {security : Security.LocalSecurityState}
    (hClaims : ClaimsOffered jobId log security) (hLater : ∀ entry ∈ log, entry ∈ later) :
    ClaimsOffered jobId later security := by
  intro key digest hGet hObject hJob
  rcases hClaims key digest hGet hObject hJob with ⟨checkpoint, hOffered, hRest⟩
  exact ⟨checkpoint, hLater _ hOffered, hRest⟩

theorem ManifestsOffered.mono (hManifests : ManifestsOffered log member)
    (hLater : ∀ entry ∈ log, entry ∈ later) : ManifestsOffered later member := by
  intro generation checkpoint hKeeps
  rcases hManifests generation checkpoint hKeeps with ⟨hGeneration, other, hOffered⟩
  exact ⟨hGeneration, other, hLater _ hOffered⟩

theorem optimizerObject_ne {shardId : UInt16} : optimizerObject shardId ≠ "v4.checkpoint" := by
  intro hSame
  have hLength := congrArg String.length hSame
  unfold optimizerObject at hLength
  simp only [toString, String.length_append] at hLength
  have hFirst : "v4.optimizer_state/".length = 19 := by
    decide +kernel
  have hSecond : "v4.checkpoint".length = 13 := by
    decide +kernel
  omega

/- A claim of a manifest is made by sending the manifest. -/
theorem messageClaim_checkpoint {peer : NodeId} {message : TrainingV4Message}
    {claim : Security.AuthenticatedClaim} (hClaim : messageClaim peer message = some claim)
    (hObject : claim.key.object = "v4.checkpoint") :
    ∃ checkpoint, message = .checkpointRecord checkpoint ∧
      claim = checkpointClaim peer checkpoint := by
  cases message with
  | checkpointRecord checkpoint =>
    cases hClaim
    exact ⟨checkpoint, rfl, rfl⟩
  | integratedStart start =>
    have hOther : "v4.execution_graph" ≠ "v4.checkpoint" := by
      decide
    cases hClaim
    exact absurd hObject hOther
  | stateRecord record =>
    have hOther : "v4.training_state" ≠ "v4.checkpoint" := by
      decide
    cases hClaim
    exact absurd hObject hOther
  | optimizerShard record =>
    cases hClaim
    exact absurd hObject optimizerObject_ne
  | plan plan =>
    have hOther : "v4.plan" ≠ "v4.checkpoint" := by
      decide
    cases hClaim
    exact absurd hObject hOther
  | _ => cases hClaim

/- The log after a turn has the log before it. -/
theorem Turn.subset (hTurn : Turn digests net next action node input stepped) :
    ∀ entry ∈ net.log, entry ∈ next.log :=
  fun entry hEntry => hTurn.grows entry hEntry

/- What the ledger of the acting node holds after its turn. -/
theorem ManifestInv.ledger (hInv : ManifestInv digests jobId net)
    (hTurn : Turn digests net next action node input stepped)
    (hCond : repeatsManifests jobId net node input = true) :
    ClaimsOffered jobId next.log stepped.member.security ∧ ClaimsOffered jobId next.log
      stepped.member.storedSecurity := by
  have hClaims := (hInv.claims node).mono hTurn.subset
  have hStoredClaims := (hInv.storedClaims node).mono hTurn.subset
  have hAllowed := hTurn.allowed
  have hElsewhere : ∀ security, addsNoManifest jobId (net.nodes node) security = true →
    ClaimsOffered jobId next.log security := by
    intro security hAdds key digest hGet hObject hJob
    have hEntry := List.all_eq_true.mp hAdds (key, digest)
      (Std.TreeMap.mem_toList_iff_getElem?_eq_some.mpr hGet)
    simp only [Bool.or_eq_true, bne_iff_ne, ne_eq, hObject,
      not_true_eq_false, hJob, false_or, beq_iff_eq] at hEntry
    rcases hEntry with hHeld | hStored
    · exact hClaims key digest hHeld hObject hJob
    · exact hStoredClaims key digest hStored hObject hJob
  cases (nodeStep_explained hTurn.step).did.ledger with
  | same input after hSecurity hStored =>
    rw [hSecurity, hStored]
    exact ⟨hClaims, hStoredClaims⟩
  | observed env peer message claim after hClaim hSecurity hStored =>
    have hObserved : ClaimsOffered jobId next.log
      stepped.member.security := by
      rw [hSecurity]
      intro key digest hGet hObject hJob
      rcases Security.getElem?_observeClaim _ _ _ _ _ hGet with hBefore | ⟨rfl, rfl⟩
      · exact hClaims key digest hBefore hObject hJob
      · rcases messageClaim_checkpoint hClaim hObject with ⟨checkpoint, rfl, rfl⟩
        have hOffered := hInv.sent peer node checkpoint hAllowed
        exact ⟨checkpoint, hTurn.grows _ hOffered, rfl, rfl⟩
    refine ⟨hObserved, ?_⟩
    rcases hStored with hSame | hWritten
    · rw [hSame]
      exact hStoredClaims
    · rw [hWritten]
      exact hObserved
  | restarted after hSecurity hStored =>
    rw [hSecurity, hStored]
    exact ⟨hStoredClaims, hStoredClaims⟩
  | elsewhere security stored after hSecurity hStored =>
    rw [hSecurity, hStored]
    rw [repeatsManifests, Bool.and_eq_true] at hCond
    exact ⟨hElsewhere security hCond.1, hElsewhere stored hCond.2⟩

/- What the acting node keeps after its turn. -/
theorem ManifestInv.manifests (hInv : ManifestInv digests jobId net)
    (hTurn : Turn digests net next action node input stepped) :
    ManifestsOffered next.log stepped.member := by
  intro generation checkpoint hKeeps
  rcases (nodeStep_explained hTurn.step).did.manifests generation checkpoint hKeeps with
    hBefore | ⟨hGeneration, hOffered | ⟨env, peer, rfl⟩⟩
  · exact (hInv.kept node).mono hTurn.subset generation checkpoint hBefore
  · exact ⟨hGeneration, node, hTurn.made _ hOffered⟩
  · have hOffered := hInv.sent peer node checkpoint hTurn.allowed
    exact ⟨hGeneration, peer, hTurn.grows _ hOffered⟩

/- One step of the net keeps the provenance of manifests. -/
theorem ManifestInv.step (hInv : ManifestInv digests jobId net)
    (hCond : net.atTurn (repeatsManifests jobId) action = true)
    (hStep : netStep digests net action = some next) : ManifestInv digests jobId next := by
  rcases netStep_cases digests hStep with ⟨node, input, stepped, hTurn⟩
  have hAtTurn : repeatsManifests jobId net node input = true := by
    rw [Net.atTurn, hTurn.turn] at hCond
    exact hCond
  have hLedger := hInv.ledger hTurn hAtTurn
  have hBacked := (nodeStep_explained hTurn.step).did.backed
  exact
    { play := hInv.play.step ofJob_inherited hStep
      led := hInv.led.step hStep
      hashed := by
        intro other checkpoint hEntry
        rcases (hTurn.mem_log_iff).mp hEntry with hOld | ⟨-, hMade⟩
        · exact hInv.hashed other checkpoint hOld
        · exact hBacked _ hMade
      sent := by
        intro other target checkpoint hEntry
        rcases (hTurn.mem_log_iff).mp hEntry with hOld | ⟨rfl, hMade⟩
        · exact hTurn.grows _ (hInv.sent other target checkpoint hOld)
        · exact hTurn.made _ (hBacked _ hMade)
      kept := by
        intro other
        by_cases hOther : other = node
        · rw [hOther, hTurn.self]
          exact hInv.manifests hTurn
        · rw [hTurn.other other hOther]
          exact (hInv.kept other).mono hTurn.subset
      claims := by
        intro other
        by_cases hOther : other = node
        · rw [hOther, hTurn.self]
          exact hLedger.1
        · rw [hTurn.other other hOther]
          exact (hInv.claims other).mono hTurn.subset
      storedClaims := by
        intro other
        by_cases hOther : other = node
        · rw [hOther, hTurn.self]
          exact hLedger.2
        · rw [hTurn.other other hOther]
          exact (hInv.storedClaims other).mono hTurn.subset }

theorem manifestInv_initial {job : JobStart digests} {policies : NodeId → Security.SecurityPolicy} :
    ManifestInv digests job.start.graph.jobId (Net.initial job policies) := by
  have hIntact := job.graphOk
  rw [graphIntact, Bool.and_eq_true] at hIntact
  have hFacts := graphFacts_of_ok ((isOk_iff _).mp hIntact.2)
  have hCheckpoints : ∀ node, ((Net.initial job policies).nodes node).held.checkpoints = ∅ ∧
    ((Net.initial job policies).nodes node).stored.checkpoints = ∅ := by
    intro node
    dsimp only [Net.initial]
    split_ifs
    · exact ⟨rfl, rfl⟩
    · exact ⟨rfl, rfl⟩
  have hClaims : ∀ node, ((Net.initial job policies).nodes node).security.authenticatedClaims = ∅ ∧
    ((Net.initial job policies).nodes node).storedSecurity.authenticatedClaims = ∅ := by
    intro node
    dsimp only [Net.initial]
    split_ifs
    · exact ⟨rfl, rfl⟩
    · exact ⟨rfl, rfl⟩
  exact
    { play := inPlay_initial ⟨rfl, hFacts.named⟩
      led := led_initial
      hashed := by
        intro node checkpoint hEntry
        simp [Net.initial] at hEntry
      sent := by
        intro node target checkpoint hEntry
        simp [Net.initial] at hEntry
      kept := by
        intro node generation checkpoint hKeeps
        rw [Member.Keeps, (hCheckpoints node).1, (hCheckpoints node).2] at hKeeps
        simp at hKeeps
      claims := by
        intro node key digest hGet
        rw [(hClaims node).1] at hGet
        simp at hGet
      storedClaims := by
        intro node key digest hGet
        rw [(hClaims node).2] at hGet
        simp at hGet }

end

----
-- Providers
----

section

variable (hOk : v4Checkpoint checkpoint = .ok ())
include hOk

/- What a manifest that passes its check has. -/
theorem checkpoint_bounds :
    checkpoint.manifestHash ≠ default ∧ checkpoint.checkpointGeneration ≠ 0 := by
  unfold v4Checkpoint at hOk
  simp only [bind_eq_ok_iff, rejectIf_eq_ok_iff, v4Hash, artifactId] at hOk
  rcases hOk with ⟨_, -, _, -, _, hHash, _, hGenerations, -⟩
  simp only [Bool.or_eq_false_iff, beq_eq_false_iff_ne] at hHash hGenerations
  exact ⟨hHash, hGenerations.1.1.2⟩

/- The claim of a checked manifest is one that is looked at. -/
theorem checkpointClaim_bounded (hSelf : self ≠ default) :
    (checkpointClaim self checkpoint).bounded = true := by
  have hBounds := checkpoint_bounds hOk
  have hName : "v4.checkpoint" ≠ "" := by
    decide
  have hSize : decide ("v4.checkpoint".utf8ByteSize ≤ Security.maxClaimKey) = true := by
    decide +kernel
  have hSequence : max checkpoint.planGeneration 1 ≠ 0 := by
    change (if checkpoint.planGeneration ≤ 1 then 1 else
      checkpoint.planGeneration) ≠ 0
    split_ifs with hSmall
    · decide
    · intro hZero
      rw [hZero] at hSmall
      exact hSmall (by decide)
  simp only [Security.AuthenticatedClaim.bounded,
    checkpointClaim, claimOf, Bool.and_eq_true, bne_iff_ne, ne_eq]
  exact ⟨⟨⟨⟨⟨hSelf, hName⟩, hSize⟩, hBounds.2⟩, hSequence⟩, hBounds.1⟩

end

/-
  A provider takes a manifest where nothing else was ever
  offered under its generation.
-/
theorem ManifestInv.accepted (hInv : ManifestInv digests jobId net)
    (checkpoint : V4CheckpointRecord) (provider : NodeId) (hOk : v4Checkpoint checkpoint = .ok ())
    (hHash : checkpoint.manifestHash = checkpointHash digests checkpoint)
    (hJob : checkpoint.jobId = jobId) (hSelf : self ≠ default)
    (hOnly : ∀ node earlier, (node, .offered earlier) ∈ net.log → earlier.checkpointGeneration =
      checkpoint.checkpointGeneration → earlier = checkpoint)
    (hProvider : provider ∈ remoteProviders self checkpoint) :
    (receiveCheckpointRecord digests provider {}
      (net.nodes provider) self checkpoint).result = .ok () ∧
      (receiveCheckpointRecord digests provider {} (net.nodes provider) self checkpoint).effects =
        [.kept checkpoint, .send self (checkpointAck checkpoint true)] := by
  have hAgrees : ∀ previous,
    (net.nodes provider).security.authenticatedClaims[ (checkpointClaim self checkpoint).key]? =
      some previous → previous = (checkpointClaim self checkpoint).digest := by
    intro previous hKnown
    rcases hInv.claims provider _ previous hKnown rfl (congrArg some hJob) with
      ⟨earlier, hOffered, hGeneration, rfl⟩
    rw [hOnly _ earlier hOffered hGeneration]
    rfl
  have hListed : checkpoint.providers.contains provider = true := by
    rw [List.contains_iff_mem]
    exact List.mem_of_mem_filter hProvider
  have hAuthorized : checkpointAuthorized digests provider checkpoint = true := by
    rw [checkpointAuthorized, hListed, ← hHash, hOk]
    simp [Except.isOk, Except.toBool]
  have hAccepts : acceptsCheckpoint
    (net.nodes provider).held.checkpoints[checkpoint.checkpointGeneration]? checkpoint =
    true := by
    cases hKept : (net.nodes provider).held.checkpoints[checkpoint.checkpointGeneration]? with
    | none => rfl
    | some kept =>
      rcases hInv.kept provider _ kept (Or.inl hKept) with ⟨hGeneration, node, hOffered⟩
      rw [hOnly node kept hOffered hGeneration]
      simp [acceptsCheckpoint]
  rcases Security.observeClaim_isOk (net.nodes provider).security
    (checkpointClaim self checkpoint) 0 (checkpointClaim_bounded hOk hSelf) hAgrees with
    ⟨fresh, hObserved⟩
  have hClaim :
    (observeClaim {} (net.nodes provider) (checkpointClaim self checkpoint)).result = .ok () ∧
    (observeClaim {} (net.nodes provider) (checkpointClaim self checkpoint)).effects = [] ∧
    (observeClaim {} (net.nodes provider) (checkpointClaim self checkpoint)).member.held =
      (net.nodes provider).held := by
    simp [observeClaim, hObserved]
  rcases hClaim with ⟨hResult, hEffects, hHeld⟩
  simp [receiveCheckpointRecord, Handled.andThen, hResult,
    hEffects, hHeld, hAuthorized, hAccepts, answer]

----
-- Answers
----

section

variable {nodes : NodeId → Member}

theorem mem_bringBack {peer : NodeId} {stepped : Stepped} {brought effect : Effect}
    (hEffect : effect ∈ stepped.effects) :
    effect ∈ (bringBack digests self peer stepped brought).effects := by
  unfold bringBack
  split
  · split_ifs
    · split
      · exact hEffect
      · exact List.mem_append_left _ hEffect
    · exact hEffect
  · exact hEffect

/- Nothing that was done is undone by an answer. -/
theorem mem_exchange (stepped : Stepped) (sent effect : Effect)
    (hEffect : effect ∈ stepped.effects) :
    effect ∈ (exchange digests self nodes stepped sent).effects := by
  unfold exchange
  split
  · split
    · exact hEffect
    · rename_i handled hHandled
      generalize handled.effects = answers
      induction answers generalizing stepped with
      | nil => exact hEffect
      | cons answer answers ih => exact ih _ (mem_bringBack hEffect)
  · exact hEffect

/-
  The commit is through, or those it waits for will still get
  the manifest.
-/
def Awaits (self : NodeId) (checkpoint : V4CheckpointRecord) (stepped : Stepped)
    (rest : List Effect) : Prop :=
  (∃ window, .committed window checkpoint ∈ stepped.effects) ∨
  ∃ driver pending within, stepped.member.task = .driving driver (.checkpointing checkpoint pending)
    within ∧ pending.Nonempty ∧
    (∀ provider ∈ pending, .send provider (.checkpointRecord checkpoint) ∈ rest) ∧
    ∀ effect ∈ rest, effect = .offered checkpoint ∨ ∃ provider ∈ remoteProviders self checkpoint,
      effect = .send provider (.checkpointRecord checkpoint)

/- An acknowledgement takes its sender out of the wait. -/
theorem taskStep_acknowledged {pending : Finset NodeId} {provider : NodeId}
    (hTask : member.task = .driving driver (.checkpointing checkpoint pending) within)
    (hRemote : provider ≠ self) :
    taskStep digests self {} member (.inbound provider (checkpointAck checkpoint true)) =
      if pending.erase provider = ∅ then
        some (settleCheckpoint digests self {} member [] driver checkpoint within)
      else
        some (goOn member [] driver (.checkpointing checkpoint (pending.erase provider))
          within) := by
  have hAck : acknowledgesCheckpoint self checkpoint provider
    (checkpointAck checkpoint true) = true := by
    simp [acknowledgesCheckpoint, checkpointAck, hRemote]
  rw [taskStep, hTask]
  dsimp only [driveStep]
  rw [if_pos hAck]

theorem settleCheckpoint_commits {effects : List Effect} : .committed driver.window checkpoint ∈
    (settleCheckpoint digests self {} member effects driver checkpoint within).effects := by
  simp [settleCheckpoint, publishWindow, goOn]

section

variable (hAccepted : ∀ provider ∈ remoteProviders self checkpoint,
  (receiveCheckpointRecord digests provider {} (nodes provider) self checkpoint).effects =
    [.kept checkpoint, .send self (checkpointAck checkpoint true)])

include hAccepted

theorem Awaits.exchange {sent : Effect} (hAwaits : Awaits self checkpoint stepped (sent :: rest)) :
    Awaits self checkpoint (Frontier.exchange digests self nodes stepped sent) rest := by
  rcases hAwaits with ⟨window, hCommitted⟩ | ⟨driver, pending, within, hTask, hSome, hSends, hForm⟩
  · exact Or.inl ⟨window, mem_exchange stepped sent _ hCommitted⟩
  have hRest : ∀ effect ∈ rest, effect = .offered checkpoint ∨
    ∃ provider ∈ remoteProviders self checkpoint, effect =
      .send provider (.checkpointRecord checkpoint) :=
    fun effect hEffect =>
      hForm effect (List.mem_cons_of_mem _ hEffect)
  rcases hForm sent List.mem_cons_self with rfl | ⟨peer, hPeer, rfl⟩
  · refine Or.inr ⟨driver, pending, within, hTask, hSome, ?_, hRest⟩
    intro provider hProvider
    rcases List.mem_cons.mp (hSends provider hProvider) with hOffered | hLater
    · cases hOffered
    · exact hLater
  · have hRemote : peer ≠ self := by
      simpa using (List.mem_filter.mp hPeer).2
    have hReceive : receive digests peer {} (nodes peer) self (.checkpointRecord checkpoint) = some
      ⟨(receiveCheckpointRecord digests peer {} (nodes peer) self checkpoint).member,
        [.kept checkpoint, .send self (checkpointAck checkpoint true)]⟩ := by
      simp only [receive, handleMessage, hAccepted peer hPeer]
    have hExchange : Frontier.exchange digests self nodes stepped
      (.send peer (.checkpointRecord checkpoint)) =
      bringBack digests self peer stepped (.send self (checkpointAck checkpoint true)) := by
      simp only [Frontier.exchange, hReceive, List.foldl_cons, List.foldl_nil]
      rfl
    rw [hExchange]
    simp only [bringBack, if_true]
    rw [taskStep_acknowledged hTask hRemote]
    by_cases hLast : pending.erase peer = ∅
    · rw [if_pos hLast]
      refine Or.inl ⟨driver.window, ?_⟩
      exact List.mem_append_right _ settleCheckpoint_commits
    · rw [if_neg hLast]
      refine Or.inr ⟨driver, pending.erase peer, within, rfl,
        Finset.nonempty_iff_ne_empty.mpr hLast, ?_, hRest⟩
      intro provider hProvider
      rcases Finset.mem_erase.mp hProvider with ⟨hOther, hPending⟩
      rcases List.mem_cons.mp (hSends provider hPending) with hSame | hLater
      · cases hSame
        exact absurd rfl hOther
      · exact hLater

/- When everything is delivered, the commit is through. -/
theorem Awaits.commits {stepped : Stepped} {order : List Effect}
    (hAwaits : Awaits self checkpoint stepped order) : ∃ window, .committed window checkpoint ∈
      (order.foldl (Frontier.exchange digests self nodes) stepped).effects := by
  induction order generalizing stepped with
  | nil =>
    rcases hAwaits with hCommitted | ⟨driver, pending, within, -, ⟨provider, hSome⟩, hSends, -⟩
    · exact hCommitted
    · cases hSends provider hSome
  | cons sent rest ih => exact ih (hAwaits.exchange hAccepted)

end

theorem Awaits.perm {order : List Effect} (hAwaits : Awaits self checkpoint stepped rest)
    (hPerm : order.Perm rest) : Awaits self checkpoint stepped order := by
  rcases hAwaits with hCommitted | ⟨driver, pending, within, hTask, hSome, hSends, hForm⟩
  · exact Or.inl hCommitted
  · refine Or.inr ⟨driver, pending, within, hTask, hSome, ?_, ?_⟩
    · intro provider hProvider
      exact hPerm.mem_iff.mpr (hSends provider hProvider)
    · intro effect hEffect
      exact hForm effect (hPerm.mem_iff.mp hEffect)

end

----
-- The Attempt
----

/- What is tried: a driver after its last round. -/
theorem attemptOf_reliableEnd (hAttempt : attemptOf member reliableEnd = some (driver, tensor)) :
    ∃ begun within, member.task = .driving begun (.collectiveRound tensor) within ∧
      driver = completeWindow begun ∧ checkpointDue driver = true := by
  simp only [attemptOf, reliableEnd] at hAttempt
  split at hAttempt
  · rename_i unreachable begun round within hInput hTask
    split_ifs at hAttempt with hDue
    cases hAttempt
    exact ⟨begun, within, hTask, rfl, hDue⟩
  · cases hAttempt

section

variable {snapshot : Snapshot}

/- The manifest of a complete round. -/
theorem checkpointManifest_of_complete
    (hComplete : manifestComplete digests member snapshot tensor = true) :
    ∃ hashes : List ArtifactId, hashes.map some = roundHashes snapshot.graph tensor ∧ v4Checkpoint
        (V4CheckpointRecord.hashed digests (manifestContent member snapshot hashes)) =
        .ok () := by
  rw [manifestComplete, Bool.and_eq_true, List.all_eq_true] at hComplete
  rcases hComplete with ⟨hPresent, hOk⟩
  refine ⟨(roundHashes snapshot.graph tensor).reduceOption, ?_, (isOk_iff _).mp hOk⟩
  generalize roundHashes snapshot.graph tensor = hashes at hPresent
  induction hashes with
  | nil => rfl
  | cons hash hashes ih =>
    rcases Option.isSome_iff_exists.mp (hPresent hash List.mem_cons_self) with ⟨value, rfl⟩
    rw [List.reduceOption_cons_of_some, List.map_cons, ih]
    intro later hLater
    exact hPresent later (List.mem_cons_of_mem _ hLater)

/- With every provider in reach, the wait begins. -/
theorem nodeStep_reliableEnd (hAttempt : attemptOf member reliableEnd = some (driver, tensor))
    (hManifest : checkpointManifest digests member driver.snapshot tensor = .ok checkpoint) :
    ∃ begun, nodeStep digests self member reliableEnd = some begun ∧
      .offered checkpoint ∈ begun.effects ∧ Awaits self checkpoint begun begun.effects := by
  rcases attemptOf_reliableEnd hAttempt with ⟨before, within, hTask, rfl, hDue⟩
  have hFound : (remoteProviders self checkpoint).find?
    (fun provider => decide (provider ∈ (∅ : Finset NodeId))) =
    none := by
    simp
  have hEnd : nodeStep digests self member reliableEnd =
    some (endWindow digests self {} member before tensor within ∅) := by
    simp only [nodeStep, reliableEnd, TaskEvent.isInbound, taskStep, hTask, driveStep]
    rfl
  rw [hEnd]
  refine ⟨_, rfl, ?_⟩
  have hWait : endWindow digests self {} member before tensor within ∅ =
    if (remoteProviders self checkpoint).toFinset = ∅ then
      settleCheckpoint digests self {} (storeCheckpoint member checkpoint)
        (.offered checkpoint :: (remoteProviders self checkpoint).map
          (fun provider => .send provider (.checkpointRecord checkpoint)))
        (completeWindow before) checkpoint within
    else
      goOn (storeCheckpoint member checkpoint)
        (.offered checkpoint :: (remoteProviders self checkpoint).map
          (fun provider => .send provider (.checkpointRecord checkpoint)))
        (completeWindow before)
        (.checkpointing checkpoint (remoteProviders self checkpoint).toFinset)
        within := by
    rw [endWindow]
    rw [if_pos hDue]
    simp only [commitIntegratedCheckpoint, hManifest, hFound]
    rfl
  rw [hWait]
  by_cases hNone : (remoteProviders self checkpoint).toFinset = ∅
  · rw [if_pos hNone]
    refine ⟨?_, Or.inl ⟨_, settleCheckpoint_commits⟩⟩
    simp [settleCheckpoint, publishWindow, goOn]
  · rw [if_neg hNone]
    refine ⟨List.mem_cons_self, Or.inr ⟨_, _, _, rfl,
      Finset.nonempty_iff_ne_empty.mpr hNone, ?_, ?_⟩⟩
    · intro provider hProvider
      refine List.mem_cons_of_mem _ (List.mem_map.mpr ?_)
      exact ⟨provider, List.mem_toFinset.mp hProvider, rfl⟩
    · intro effect hEffect
      rcases List.mem_cons.mp hEffect with rfl | hSend
      · exact Or.inl rfl
      · rcases List.mem_map.mp hSend with ⟨provider, hProvider, rfl⟩
        exact Or.inr ⟨provider, hProvider, rfl⟩

/- A manifest that is repeated is the same manifest. -/
theorem eq_of_repeatsManifest {earlier : V4CheckpointRecord} {hashes : List ArtifactId}
    (hHashes : hashes.map some = roundHashes snapshot.graph tensor)
    (hHash : earlier.manifestHash = checkpointHash digests earlier)
    (hRepeats : repeatsManifest member snapshot tensor earlier = true) :
    earlier = V4CheckpointRecord.hashed digests (manifestContent member snapshot hashes) := by
  rw [repeatsManifest, Bool.and_eq_true, beq_iff_eq, beq_iff_eq] at hRepeats
  rcases hRepeats with ⟨hSame, hContent⟩
  have hShards : earlier.shardHashes = hashes := by
    apply List.map_injective_iff.mpr (Option.some_injective _)
    rw [hSame, hHashes]
  rw [← hShards, ← hContent]
  cases earlier
  simp only [V4CheckpointRecord.hashed, checkpointHash] at hHash ⊢
  rw [← hHash]

end

/-
  An attempt goes through where no attempt of the run, this one
  included, has changed what was offered under its generation.
-/
theorem attempt_commits (digests : Digests) (job : JobStart digests)
    (policies : NodeId → Security.SecurityPolicy) (actions : List Action) (net : Net)
    (self : NodeId) (driver : Driver) (tensor : TensorRound)
    (hMeets : Meets (netStep digests) (fun net action =>
      net.atTurn (repeatsManifests job.start.graph.jobId) action = true)
      (Net.initial job policies)
      (actions ++ [.act self reliableEnd]))
    (hRun : run (netStep digests) (Net.initial job policies) actions = some net)
    (hAttempt : attemptOf (net.nodes self) reliableEnd = some (driver, tensor))
    (hComplete : manifestComplete digests (net.nodes self) driver.snapshot tensor = true) :
    CommitsReliably digests self net := by
  have hInv : ManifestInv digests job.start.graph.jobId net := invariant_of_run
    (ManifestInv digests job.start.graph.jobId) (fun net action next hInv hCond hStep =>
      hInv.step hCond hStep)
    manifestInv_initial
    (meets_of_append hMeets) hRun
  have hCond : repeatsManifests job.start.graph.jobId net self reliableEnd = true :=
    (meets_append hMeets hRun).1
  rcases checkpointManifest_of_complete hComplete with ⟨hashes, hHashes, hOk⟩
  have hManifest := (checkpointManifest_eq_ok_iff digests (net.nodes self)
    driver.snapshot tensor _).mpr ⟨hashes, hHashes, rfl⟩
  rcases nodeStep_reliableEnd hAttempt hManifest with ⟨begun, hBegun, hOffered, hAwaits⟩
  rcases attemptOf_reliableEnd hAttempt with ⟨before, within, hTask, rfl, -⟩
  -- the driver works on a graph of the job that it leads
  have hDrives : (net.nodes self).Drives before.snapshot.graph := ⟨before, _, within, hTask, rfl⟩
  have hPlay := hInv.play.known self _ hDrives.knows
  have hLed := hInv.led self _ hDrives
  have hSelf : self ≠ default := by
    rw [← hLed]
    exact hPlay.2
  have hOnly : ∀ node earlier, (node, .offered earlier) ∈ net.log → earlier.checkpointGeneration =
    Saturating.add before.snapshot.state.checkpointGeneration 1 →
    earlier = V4CheckpointRecord.hashed digests
      (manifestContent (net.nodes self) (completeWindow before).snapshot hashes) := by
    intro node earlier hEntry hGeneration
    have hReads : attemptOf (net.nodes self) (.happened {} (.collectiveDone true ∅)) =
      some (completeWindow before, tensor) := hAttempt
    simp only [repeatsManifests, reliableEnd, hReads, List.all_eq_true] at hCond
    have hRepeats := hCond (node, .offered earlier) hEntry
    rw [Bool.or_eq_true, bne_iff_ne] at hRepeats
    rcases hRepeats with hOther | hRepeats
    · exact absurd hGeneration hOther
    · exact eq_of_repeatsManifest hHashes (hInv.hashed node earlier hEntry) hRepeats
  have hAccepted := fun provider hProvider =>
    hInv.accepted _ provider hOk rfl hPlay.1 hSelf hOnly hProvider
  refine ⟨begun, _, hBegun, hOffered, ?_, ?_⟩
  · intro provider hProvider
    rcases hAccepted provider hProvider with ⟨hResult, hEffects⟩
    refine ⟨hResult, ?_⟩
    rw [hEffects]
    simp
  · intro order hOrder
    exact (hAwaits.perm hOrder).commits (fun provider hProvider =>
      (hAccepted provider hProvider).2)

----
-- A Second Attempt
----

/- The small job is started and installed by its workers. -/
def smallOpening : List Action :=
  ([2, 6, 7, 8, 11, 14, 17].map (.deliver · {})) ++
    [.act ⟨1⟩ (.happened {} (.acknowledged (.ok ()))),
      .act ⟨1⟩ (.happened {} (.installed (.ok ())))]

/- A window up to the end of its last round. -/
def windowRounds (tensor : TensorRound) : List Action :=
  [.headed [], .probed allAnswer, .tensorDone (some tensor), .pipelineDone true].map (fun event =>
    .act ⟨1⟩ (.happened {} event))

/-
  Two of three providers acknowledge the first manifest before
  the deadline; then a second window has its rounds.
-/
def secondAttempt (tensor : TensorRound) : List Action :=
  smallOpening ++ windowRounds (smallTensor 9) ++
    [.act ⟨1⟩ reliableEnd, .deliver 28 {}, .deliver 29 {}, .deliver 32 {}, .deliver 34 {},
      .act ⟨1⟩ (.happened {} .deadline), .act ⟨1⟩ (.happened {} (.probed allAnswer))] ++
    windowRounds tensor

/- A manifest was kept by a provider and never committed. -/
def partlyKept (log : List (NodeId × Effect)) : Bool :=
  log.any (fun entry =>
    match entry.2 with
    | .offered checkpoint =>
      log.any (fun later =>
        match later.2 with
        | .kept kept => kept == checkpoint
        | _ => false) && log.all (fun later =>
        match later.2 with
        | .committed _ committed => committed != checkpoint
        | _ => true)
    | _ => false)

/- The second window leaves what the first one has left. -/
theorem repeatedAttempt_runs :
    (run (netStep smallDigests) (Net.initial smallJob (fun _ => {}))
      (secondAttempt (smallTensor 9))).isSome = true := by
  decide +kernel

def repeatedNet : Net :=
  (run (netStep smallDigests) (Net.initial smallJob (fun _ => {}))
    (secondAttempt (smallTensor 9))).get repeatedAttempt_runs

theorem repeatedAttempt_tried : (attemptOf (repeatedNet.nodes ⟨1⟩) reliableEnd).isSome = true := by
  decide +kernel

theorem attempt_commits_again : partlyKept repeatedNet.log = true ∧
    CommitsReliably smallDigests ⟨1⟩ repeatedNet :=
  ⟨by decide +kernel,
    attempt_commits smallDigests smallJob (fun _ => {})
      (secondAttempt (smallTensor 9)) repeatedNet ⟨1⟩
      ((attemptOf (repeatedNet.nodes ⟨1⟩) reliableEnd).get repeatedAttempt_tried).1
      ((attemptOf (repeatedNet.nodes ⟨1⟩) reliableEnd).get repeatedAttempt_tried).2
      (by decide +kernel) (Option.some_get repeatedAttempt_runs).symm
      (Option.some_get repeatedAttempt_tried).symm (by decide +kernel)⟩

/- The second window leaves other hashes. -/
theorem changedAttempt_runs :
    (run (netStep smallDigests) (Net.initial smallJob (fun _ => {}))
      (secondAttempt (smallTensor 8))).isSome = true := by
  decide +kernel

def changedNet : Net :=
  (run (netStep smallDigests) (Net.initial smallJob (fun _ => {}))
    (secondAttempt (smallTensor 8))).get changedAttempt_runs

/- The second worker refuses what the driver now offers. -/
theorem changedAttempt_refused : ∀ stepped ∈ nodeStep smallDigests ⟨1⟩ (changedNet.nodes ⟨1⟩)
    reliableEnd, stepped.effects.all (fun effect =>
    match effect with
    | .offered checkpoint =>
      checkpoint.providers.contains ⟨2⟩ &&
        !(receiveCheckpointRecord smallDigests ⟨2⟩ {} (changedNet.nodes ⟨2⟩) ⟨1⟩
          checkpoint).result.isOk
    | _ => true) = true := by
  decide +kernel

/-
  Other hashes under the generation of the failed attempt are
  refused by the providers that have kept its manifest.
-/
theorem attempt_blocked : run (netStep smallDigests) (Net.initial smallJob (fun _ => {}))
    (secondAttempt (smallTensor 8)) = some changedNet ∧ partlyKept changedNet.log = true ∧
    (attemptOf (changedNet.nodes ⟨1⟩) reliableEnd).any (fun attempt =>
      manifestComplete smallDigests (changedNet.nodes ⟨1⟩) attempt.1.snapshot attempt.2) = true ∧
    ¬ CommitsReliably smallDigests ⟨1⟩ changedNet := by
  refine ⟨(Option.some_get changedAttempt_runs).symm, by decide +kernel, by decide +kernel, ?_⟩
  rintro ⟨begun, checkpoint, hBegun, hOffered, hAccepts, -⟩
  have hRefused := List.all_eq_true.mp (changedAttempt_refused begun hBegun) _ hOffered
  rw [Bool.and_eq_true, List.contains_iff_mem] at hRefused
  have hRemote : (⟨2⟩ : NodeId) ∈ remoteProviders ⟨1⟩ checkpoint := by
    refine List.mem_filter.mpr ⟨hRefused.1, ?_⟩
    decide
  have hTaken := (hAccepts ⟨2⟩ hRemote).1
  rw [hTaken] at hRefused
  cases hRefused.2

end IntelligenceNetwork.Frontier
