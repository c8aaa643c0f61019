import IntelligenceNetwork.Training.Ledger
import IntelligenceNetwork.Training.Membership
import IntelligenceNetwork.Training.Periodic

/-
  A checkpoint and its generation.

  A context names its checkpoint by the hash of a manifest and
  by the manifest's generation, in separate fields.  `Pairing`
  says of a piece of a node's code that it pairs them if they
  were paired before, in the node's context as in what it writes
  and sends.  Only a candidate that learns of a checkpoint while
  it waits for votes does not.

  Main declarations:
    * `Context.Paired`
    * `Pairing`
    * `electStep_pairing`
-/

----
-- Pairs
----

namespace IntelligenceNetwork.Training

open Transition

variable {digest : Digest} {effect : Effect} {known later : List TrainingCheckpointManifest}
variable {after before context : Context} {effects : List Effect} {message : TrainingMessage}
variable {peer : NodeId} {state : TrainingState} {candidacy : Candidacy} {written : Bool}
variable {manifest : TrainingCheckpointManifest} {turn : Turn}

/-
  A checkpoint, if there is one, is the hash of a known
  manifest of the given generation.
-/
def Names (digest : Digest) (known : List TrainingCheckpointManifest)
    (checkpoint : Option ArtifactId) (generation : UInt64) : Prop :=
  ∀ hash ∈ checkpoint, ∃ manifest ∈ known, checkpointHash digest manifest = hash ∧
    manifest.checkpointGeneration = generation

instance (digest : Digest) (known : List TrainingCheckpointManifest)
    (checkpoint : Option ArtifactId) (generation : UInt64) :
    Decidable (Names digest known checkpoint generation) := by
  unfold Names
  infer_instance

abbrev Context.Paired (digest : Digest) (known : List TrainingCheckpointManifest)
    (context : Context) : Prop :=
  Names digest known context.checkpoint context.checkpointGeneration

abbrev StatePaired (digest : Digest) (known : List TrainingCheckpointManifest)
    (state : TrainingState) : Prop :=
  Names digest known state.checkpoint state.checkpointGeneration

section

variable (digest : Digest) (known : List TrainingCheckpointManifest)

/- A commit carries a known manifest with its own hash. -/
def CommitIntact (commit : TrainingCheckpointCommit) : Prop :=
  commit.manifest ∈ known ∧ checkpointHash digest commit.manifest = commit.manifest.hash

/- What the states and commits that leave a node must be. -/
def EffectPaired : Effect → Prop
| .sent _ (.state state) | .persistedState state => StatePaired digest known state
| .sent _ (.checkpointCommit commit) => CommitIntact digest known commit
| _ => True

end

/- Effects that say nothing about checkpoints. -/
def isPlain : Effect → Bool
| .sent _ (.state _) | .sent _ (.checkpointCommit _) | .persistedState _
| .persistedCheckpoint _ => false
| _ => true

theorem Names.mono {checkpoint : Option ArtifactId} {generation : UInt64}
    (hNames : Names digest known checkpoint generation)
    (hKnown : ∀ manifest ∈ known, manifest ∈ later) : Names digest later checkpoint generation := by
  intro hash hHash
  rcases hNames hash hHash with ⟨manifest, hMem, hSame⟩
  exact ⟨manifest, hKnown manifest hMem, hSame⟩

theorem EffectPaired.mono (hPaired : EffectPaired digest known effect)
    (hKnown : ∀ manifest ∈ known, manifest ∈ later) : EffectPaired digest later effect := by
  unfold EffectPaired at hPaired ⊢
  split at hPaired
  · exact .mono hPaired hKnown
  · exact .mono hPaired hKnown
  · exact ⟨hKnown _ hPaired.1, hPaired.2⟩
  · trivial

theorem effectPaired_of_isPlain (hPlain : isPlain effect = true) :
    EffectPaired digest known effect := by
  unfold EffectPaired
  split
  · cases hPlain
  · cases hPlain
  · cases hPlain
  · trivial

----
-- Pairing Code
----

/- Manifests that are written are known from then on. -/
def KnowsWritten (known : List TrainingCheckpointManifest) (effects : List Effect) : Prop :=
  ∀ commit, Effect.persistedCheckpoint commit ∈ effects → commit.manifest ∈ known

/-
  From a paired context the code leads to a paired context, and
  what it writes and sends on the way is paired.
-/
def Pairing (digest : Digest) (known : List TrainingCheckpointManifest) (before : Context)
    (effects : List Effect) (after : Context) : Prop :=
  before.Paired digest known → KnowsWritten known effects → after.Paired digest known ∧
    ∀ effect ∈ effects, EffectPaired digest known effect

/- Two contexts name the same checkpoint. -/
def SameCheckpoint (before after : Context) : Prop :=
  after.checkpoint = before.checkpoint ∧ after.checkpointGeneration = before.checkpointGeneration

theorem OnlyBookkeeping.sameCheckpoint (hOnly : OnlyBookkeeping before after) :
    SameCheckpoint before after := by
  rcases hOnly with ⟨_, _, _, _, _, rfl⟩
  exact ⟨rfl, rfl⟩

namespace Pairing

theorem trans {first second third : Context} {earlier later : List Effect}
    (hFirst : Pairing digest known first earlier second)
    (hSecond : Pairing digest known second later third) :
    Pairing digest known first (earlier ++ later) third := by
  intro hPaired hKnown
  have hEarlier := hFirst hPaired (fun commit hMem =>
    hKnown commit (List.mem_append_left later hMem))
  have hLater := hSecond hEarlier.1 (fun commit hMem =>
    hKnown commit (List.mem_append_right earlier hMem))
  refine ⟨hLater.1, ?_⟩
  intro effect hMem
  rcases List.mem_append.mp hMem with hMem | hMem
  · exact hEarlier.2 effect hMem
  · exact hLater.2 effect hMem

/- Code that is not about checkpoints at all. -/
theorem plain (hSame : SameCheckpoint before after)
    (hPlain : ∀ effect ∈ effects, isPlain effect = true) :
    Pairing digest known before effects after := by
  intro hPaired _
  refine ⟨?_, ?_⟩
  · unfold Context.Paired
    rw [hSame.1, hSame.2]
    exact hPaired
  · intro effect hMem
    exact effectPaired_of_isPlain (hPlain effect hMem)

theorem silent (hSame : SameCheckpoint before after) : Pairing digest known before [] after :=
  plain hSame (fun _ hMem => nomatch hMem)

theorem refl (context : Context) : Pairing digest known context [] context :=
  silent ⟨rfl, rfl⟩

/- A context that announces its own state. -/
theorem announce (context : Context) (effects : List Effect)
    (hState : ∀ effect ∈ effects, isPlain effect = true ∨ effect = .persistedState context.state ∨
      ∃ target, effect = .sent target (.state context.state)) :
    Pairing digest known context effects context := by
  intro hPaired _
  refine ⟨hPaired, ?_⟩
  intro effect hMem
  rcases hState effect hMem with hPlain | rfl | ⟨target, rfl⟩
  · exact effectPaired_of_isPlain hPlain
  · exact hPaired
  · exact hPaired

theorem vote (node : NodeId) (context : Context) (peer : NodeId) (election : TrainingElection) :
    Pairing digest known context (handleElection node context peer election).effects
      (handleElection node context peer election).context := by
  have hSame := (handleElection_bookkeeping node context peer election).sameCheckpoint
  have hAnnounced : Pairing digest known context (handleElection node context peer election).effects
    context := by
    apply announce
    intro effect hMem
    unfold handleElection at hMem
    dsimp only at hMem
    split_ifs at hMem
    · cases hMem
    · rcases List.mem_cons.mp hMem with rfl | hMem
      · exact Or.inl rfl
      · rw [List.mem_singleton.mp hMem]
        exact Or.inr (Or.inr ⟨peer, rfl⟩)
    · rw [List.mem_singleton.mp hMem]
      exact Or.inl rfl
  have hBoth := hAnnounced.trans (silent hSame)
  rwa [List.append_nil] at hBoth

end Pairing

theorem isPlain_of_isReceipt (hReceipt : isReceipt effect = true) : isPlain effect = true := by
  unfold isPlain
  split
  iterate 4 · cases hReceipt
  · rfl

theorem isPlain_of_isWork (hWork : isWork effect = true) : isPlain effect = true := by
  unfold isPlain
  split
  iterate 4 · cases hWork
  · rfl

theorem pairing_workTrace {digest : Digest} {known : List TrainingCheckpointManifest}
    (node : NodeId) : WorkTrace node (Pairing digest known) where
  refl := .refl
  trans := .trans
  marks := by
    rintro before after ⟨failed, rejected, stragglers, rfl⟩
    exact .silent ⟨rfl, rfl⟩
  votes := .vote node
  offers := by
    intro context member offer
    apply Pairing.plain ⟨rfl, rfl⟩
    intro effect hMem
    rw [List.mem_singleton.mp hMem]
    rfl
  works := fun _ _ hWork =>
    Pairing.plain ⟨rfl, rfl⟩ (fun effect hMem => isPlain_of_isWork (hWork effect hMem))
  adopts := fun _ _ => .silent ⟨rfl, rfl⟩

----
-- Workers
----

variable (digest : Digest) (known : List TrainingCheckpointManifest)

section

variable (node : NodeId)

/- A state that is taken over brings its own pair. -/
theorem adoptState_paired (hContext : context.Paired digest known)
    (hState : StatePaired digest known state) : (adoptState context state).Paired digest known := by
  unfold Context.Paired adoptState adoptedCheckpoint
  by_cases hNewer : state.checkpointGeneration > context.checkpointGeneration
  · rw [if_pos hNewer]
    exact hState
  · rw [if_neg hNewer]
    by_cases hFirst : context.checkpoint.isNone ∧ state.checkpointGeneration =
      context.checkpointGeneration
    · rw [if_pos hFirst]
      rw [← hFirst.2]
      exact hState
    · rw [if_neg hFirst]
      exact hContext

/- What must be known of a message before it is handled. -/
def MessagePaired : TrainingMessage → Prop
| .state state => StatePaired digest known state
| .checkpointCommit commit => CommitIntact digest known commit
| _ => True

theorem MessagePaired.mono {digest : Digest} {known : List TrainingCheckpointManifest}
    (hPaired : MessagePaired digest known message) (hKnown : ∀ manifest ∈ known, manifest ∈ later) :
    MessagePaired digest later message := by
  cases message with
  | state state => exact .mono hPaired hKnown
  | checkpointCommit commit => exact ⟨hKnown _ hPaired.1, hPaired.2⟩
  | _ => trivial

/- A context that is taken over and stored. -/
theorem Pairing.stores {digest : Digest} {known : List TrainingCheckpointManifest}
    {first : List Effect} (hAdopted : Pairing digest known before first after)
    (hStored : ∀ effect ∈ effects, isReceipt effect = true ∨ effect = .persistedState after.state) :
    Pairing digest known before (first ++ effects) after := by
  refine hAdopted.trans (.announce after effects ?_)
  intro effect hMem
  rcases hStored effect hMem with hReceipt | hState
  · exact Or.inl (isPlain_of_isReceipt hReceipt)
  · exact Or.inr (Or.inl hState)

/- A state and a commit bring their own pair, everything else keeps the context's. -/
theorem Handles.pairing {digest : Digest} {known : List TrainingCheckpointManifest}
    {node : NodeId} {env : Env}
    (hHandles : Handles digest node env context peer message after effects)
    (hMessage : MessagePaired digest known message) :
    Pairing digest known context effects after := by
  cases hHandles with
  | keeps _ hOnly hReceipts =>
    exact .plain hOnly.sameCheckpoint
      (fun effect hMem => isPlain_of_isReceipt (hReceipts effect hMem))
  | votes election => exact .vote node context peer election
  | adoptsShard _ hReceipts =>
    exact .plain ⟨rfl, rfl⟩ (fun effect hMem => isPlain_of_isReceipt (hReceipts effect hMem))
  | @adoptsState state _ _ hStored =>
    have hAdopted : Pairing digest known context [] (adoptState context state) := by
      intro hContext _
      exact ⟨adoptState_paired digest known hContext hMessage, fun _ hMem => nomatch hMem⟩
    exact hAdopted.stores hStored
  | @commits commit _ _ _ hStored =>
    have hAdopted : Pairing digest known context [.persistedCheckpoint commit]
      (adoptCommit context commit) := by
      intro _ _
      constructor
      · intro hash hHash
        cases hHash
        exact ⟨commit.manifest, hMessage.1, hMessage.2, rfl⟩
      · intro effect hMem
        rw [List.mem_singleton.mp hMem]
        trivial
    exact hAdopted.stores hStored
  | entersTerm _ _ => exact .silent ⟨rfl, rfl⟩
  | @runs window opened stored _ hOpens =>
    have hOpened : Pairing digest known context stored opened := by
      rcases hOpens with ⟨rfl, rfl⟩ | ⟨-, rfl, rfl⟩
      · exact .refl opened
      · have hAdopted : Pairing digest known context [] (adoptWindowTerm context window) :=
          .silent ⟨rfl, rfl⟩
        exact hAdopted.stores (by simp)
    have hEntered : Pairing digest known opened [] (enterWindow opened window) :=
      .silent ⟨rfl, rfl⟩
    exact hOpened.trans (hEntered.trans (runWindow_trace (pairing_workTrace node) _
      window (fun _ _ _ => .silent ⟨rfl, rfl⟩) digest env))

----
-- Candidates
----

section

variable (context : Context)

theorem broadcast_state_pairing : Pairing digest known context
    (.persistedState context.state :: broadcast node context (.state context.state))
    context := by
  apply Pairing.announce
  intro effect hMem
  rcases List.mem_cons.mp hMem with rfl | hMem
  · exact Or.inr (Or.inl rfl)
  · rcases List.mem_map.mp hMem with ⟨peer, -, rfl⟩
    exact Or.inr (Or.inr ⟨peer, rfl⟩)

theorem requestVotes_pairing :
    Pairing digest known context (requestVotes node context candidacy) context := by
  apply Pairing.plain ⟨rfl, rfl⟩
  intro effect hMem
  rcases List.mem_map.mp hMem with ⟨peer, -, rfl⟩
  rfl

/- A winner announces the checkpoint it has. -/
theorem settleElection_pairing {context : Context}
    (hEffects : Pairing digest known context effects context) :
    Pairing digest known context (settleElection node written context candidacy effects).effects
      (settleElection node written context candidacy effects).context := by
  have hElected : Pairing digest known context effects
    (becomeCoordinator node context candidacy) := by
    rw [← List.append_nil effects]
    exact hEffects.trans (.silent ⟨rfl, rfl⟩)
  unfold settleElection
  by_cases hFew : candidacy.votes.card < quorum context.start.participants.length
  · rw [if_pos hFew]
    exact hEffects
  · rw [if_neg hFew]
    cases written with
    | true =>
      exact hElected.trans
        (broadcast_state_pairing digest known node (becomeCoordinator node context candidacy))
    | false => exact hElected

theorem maybeElect_pairing {context : Context} {failedCoordinator : NodeId} :
    Pairing digest known context (maybeElect node written context failedCoordinator).effects
      (maybeElect node written context failedCoordinator).context := by
  have hMarked : Pairing digest known context [] (context.fail failedCoordinator) :=
    .silent ⟨rfl, rfl⟩
  unfold maybeElect
  dsimp only
  split
  · exact hMarked
  · split_ifs
    · exact hMarked
    · apply hMarked.trans
      apply settleElection_pairing
      exact requestVotes_pairing digest known node _

/-
  News that a candidate takes over name no checkpoint, or one
  that is not older than its own.
-/
def RecoveryNotOlder (candidacy : Candidacy) : ElectEvent → Prop
| .inbound _ (.message peer (.state state)) =>
  recoveryUseful node context candidacy peer state = true → state.checkpoint = none ∨
      context.checkpointGeneration ≤ state.checkpointGeneration
| _ => True

/- What a candidate reads is known as what a worker reads. -/
def EventPaired : ElectEvent → Prop
| .inbound _ (.message _ message) => MessagePaired digest known message
| _ => True

theorem adoptRecovery_paired (hState : StatePaired digest known state)
    (hNotOlder : state.checkpoint = none ∨ context.checkpointGeneration ≤
      state.checkpointGeneration) : (adoptRecovery context state).Paired digest known := by
  unfold Context.Paired adoptRecovery
  rcases hNotOlder with hNone | hNotOlder
  · rw [hNone]
    intro hash hHash
    cases hHash
  · have hMax : max context.checkpointGeneration state.checkpointGeneration =
      state.checkpointGeneration := by
      exact if_pos hNotOlder
    rw [hMax]
    exact hState

theorem electStep_pairing {event : ElectEvent} (hEvent : EventPaired digest known event)
    (hNotOlder : RecoveryNotOlder node context candidacy event) :
    Pairing digest known context (electStep node context candidacy event).effects
      (electStep node context candidacy event).context := by
  rcases event with ⟨written, event⟩ | _
  · rcases event with ⟨peer, message⟩ | disconnected
    · cases message with
      | ack ack =>
        rw [electStep]
        split_ifs
        · exact settleElection_pairing digest known node (.refl context)
        · exact .refl context
      | election other =>
        rw [electStep]
        split_ifs
        · exact .vote node context peer other
        · exact .refl context
      | state state =>
        rw [electStep]
        split_ifs with hUseful
        · intro _ _
          exact ⟨adoptRecovery_paired digest known context hEvent (hNotOlder hUseful), by simp⟩
        · exact .refl context
      | _ => exact .refl context
    · exact .refl context
  · rw [electStep]
    split_ifs
    · exact requestVotes_pairing digest known node context
    · exact .refl context

end

----
-- Coordinators
----

section

variable (turn : Turn) (peer : NodeId) (context : Context)

/- The restores and the reassignment of a group's windows. -/
theorem reassign_pairing (members : List NodeId) (retry : TrainingGroup) :
    Pairing digest known context [] (restoreMembers turn peer context members) ∧
      Pairing digest known context []
        (reassign (restoreMembers turn peer context members) retry) := by
  have hSame : SameCheckpoint context (restoreMembers turn peer context members) := by
    induction members generalizing context with
    | nil => exact ⟨rfl, rfl⟩
    | cons member members ih =>
      unfold restoreMembers
      split_ifs
      · have hHere :=
          (restoreTrainingPeer_bookkeeping (turn.connected member) (turn.reconnected member)
            context member).sameCheckpoint
        have hLater := ih
          (restoreTrainingPeer (turn.connected member) (turn.reconnected member) context member).1
        exact ⟨hLater.1.trans hHere.1, hLater.2.trans hHere.2⟩
      · exact ih context
  exact ⟨.silent hSame, .silent hSame⟩

theorem takeOverGroups_pairing (groups : List TrainingGroup) :
    Pairing digest known context (takeOverGroups digest node turn peer context groups).effects
      (takeOverGroups digest node turn peer context groups).context := by
  induction groups generalizing context with
  | nil => exact .refl context
  | cons group groups ih =>
    have hReassigned := fun retry =>
      reassign_pairing digest known turn peer context group.members retry
    unfold takeOverGroups
    dsimp only
    split
    · exact (hReassigned group).1
    · exact ((hReassigned _).2.trans
        (dispatchNext_trace (pairing_workTrace node) digest _ _)).trans (ih _)

end

/- Every copy of a commit that a wait sends is the commit. -/
theorem broadcastCheckpointAndWait_effects (context : Context) (commit : TrainingCheckpointCommit)
    (arrivals : List Arrival) :
    ∀ effect ∈ (broadcastCheckpointAndWait node context commit arrivals).effects,
      ∃ target, effect = .sent target (.checkpointCommit commit) := by
  rcases (drain_eq_iff (checkpointWait node context commit)).mp rfl with ⟨consumed, -, hRun, -⟩
  refine always_of_run (fun wait : Wait => ∀ effect ∈ wait.effects, ∃ target,
    effect = .sent target (.checkpointCommit commit))
    ?_ ?_ hRun
  · intro wait arrival next hWait hStep
    rcases (checkpointStep_eq_some_iff commit).mp hStep with ⟨-, rfl⟩
    intro effect hMem
    rcases (checkpointEvent_move commit wait arrival).sends hMem with hOld | hNew
    · exact hWait effect hOld
    · exact hNew
  · intro effect hMem
    rcases List.mem_map.mp hMem with ⟨target, -, rfl⟩
    exact ⟨target, rfl⟩

/-
  The commit of a new manifest: once it is written it is known,
  and the context names it by its hash and generation.
-/
theorem recordCheckpoint_pairing (hHash : checkpointHash digest manifest = manifest.hash)
    (hAfter : SameCheckpoint (recordCheckpoint context manifest) after)
    (hEffects : ∀ effect ∈ effects, ∃ target, effect = .sent target
      (.checkpointCommit (contextCommit context manifest))) :
    Pairing digest known context (.persistedCheckpoint (contextCommit context manifest) :: effects)
      after := by
  intro _ hKnown
  have hMade : manifest ∈ known := hKnown (contextCommit context manifest) List.mem_cons_self
  constructor
  · unfold Context.Paired
    rw [hAfter.1, hAfter.2]
    intro hash hMem
    cases hMem
    exact ⟨manifest, hMade, hHash, rfl⟩
  · intro effect hMem
    rcases List.mem_cons.mp hMem with rfl | hMem
    · trivial
    · rcases hEffects effect hMem with ⟨target, rfl⟩
      exact ⟨hMade, hHash⟩

theorem makeCheckpointFromContext_hash
    (hOk : makeCheckpointFromContext digest context = .ok manifest) :
    checkpointHash digest manifest = manifest.hash := by
  unfold makeCheckpointFromContext at hOk
  dsimp only at hOk
  split_ifs at hOk
  cases hOk
  rfl

theorem persistCommitted_pairing (env : CommitEnv) (context committed : Context)
    (effects : List Effect) (manifest : TrainingCheckpointManifest)
    (hCommitted : Pairing digest known context effects committed) :
    Pairing digest known context (persistCommitted env committed effects manifest).effects
      (persistCommitted env committed effects manifest).context := by
  unfold persistCommitted
  split_ifs
  · exact hCommitted.trans (.announce committed _ (by simp))
  · exact hCommitted

theorem commitContextCheckpoint_pairing (env : CommitEnv) (context : Context) :
    Pairing digest known context (commitContextCheckpoint digest node env context).effects
      (commitContextCheckpoint digest node env context).context := by
  unfold commitContextCheckpoint
  split
  · exact .refl context
  · rename_i manifest hMade
    have hHash := makeCheckpointFromContext_hash digest hMade
    have hWaited := broadcastCheckpointAndWait_effects node (recordCheckpoint context manifest)
      (contextCommit context manifest) env.acks
    have hSame := (broadcastCheckpointAndWait_bookkeeping node (recordCheckpoint context manifest)
      (contextCommit context manifest) env.acks).sameCheckpoint
    dsimp only
    split_ifs
    · exact .refl context
    · split
      · apply persistCommitted_pairing
        exact recordCheckpoint_pairing digest known hHash hSame hWaited
      · exact recordCheckpoint_pairing digest known hHash hSame hWaited
    · apply persistCommitted_pairing
      apply recordCheckpoint_pairing digest known hHash ⟨rfl, rfl⟩
      intro effect hMem
      rcases List.mem_map.mp hMem with ⟨target, -, rfl⟩
      exact ⟨target, rfl⟩

end

----
-- Turns
----

def TurnResult.drive : TurnResult → Drive
| .running drive | .handedOver drive | .failed _ drive => drive

section

variable {node : NodeId}

/- From one drive to another, by what the log has gained. -/
def DrivePairing (before after : Drive) : Prop :=
  ∃ effects, after.log = before.log ++ effects ∧
    Pairing digest known before.context effects after.context

variable {digest known}

theorem DrivePairing.silent {before after : Drive} (hLog : after.log = before.log)
    (hSame : SameCheckpoint before.context after.context) :
    DrivePairing digest known before after :=
  ⟨[], by rw [hLog, List.append_nil], .silent hSame⟩

theorem DrivePairing.trans {first second third : Drive}
    (hFirst : DrivePairing digest known first second)
    (hSecond : DrivePairing digest known second third) : DrivePairing digest known first third := by
  rcases hFirst with ⟨earlier, hEarlier, hFirst⟩
  rcases hSecond with ⟨later, hLater, hSecond⟩
  refine ⟨earlier ++ later, ?_, hFirst.trans hSecond⟩
  rw [hLater, hEarlier, List.append_assoc]

/- Marking a group as complete. -/
theorem completeGroup_drivePairing {drive : Drive} {group : TrainingGroup}
    {aggregate : TrainingAggregate} :
    DrivePairing digest known drive (completeGroup drive group aggregate) := by
  unfold completeGroup
  by_cases hLast : aggregate.window ≥ drive.context.start.maxWindows
  · rw [if_pos hLast]
    exact .silent rfl ⟨rfl, rfl⟩
  · rw [if_neg hLast]
    exact .silent rfl ⟨rfl, rfl⟩

variable (digest known)

section

variable {drive : Drive}

theorem handleAggregate_pairing {aggregate : TrainingAggregate} : DrivePairing digest known drive
    (handleAggregate digest node drive turn peer aggregate).drive := by
  unfold handleAggregate
  split
  · exact .silent rfl ⟨rfl, rfl⟩
  · rename_i group _
    by_cases hRejected : aggregateRejected drive.context group peer aggregate
    · rw [if_pos hRejected]
      exact .silent rfl ⟨rfl, rfl⟩
    · rw [if_neg hRejected]
      dsimp only
      cases turn.stateWritten with
      | false => exact .silent rfl ⟨rfl, rfl⟩
      | true =>
        have hAccepted : Pairing digest known drive.context []
          (acceptAggregate drive.context aggregate) :=
          .silent ⟨rfl, rfl⟩
        have hAnnounced := hAccepted.trans
          (broadcast_state_pairing digest known node (acceptAggregate drive.context aggregate))
        have hCommitted := hAnnounced.trans
          (commitContextCheckpoint_pairing digest known node turn.commit
            (acceptAggregate drive.context aggregate))
        rw [Bool.not_true, if_neg Bool.false_ne_true]
        by_cases hDue : checkpointDue (acceptAggregate drive.context aggregate) aggregate
        · rw [if_pos hDue]
          have hAfter : ∀ committed, DrivePairing digest known drive
            ⟨(commitContextCheckpoint digest node turn.commit
              (acceptAggregate drive.context aggregate)).context, drive.completed, committed,
              (drive.log ++ _) ++ (commitContextCheckpoint digest node turn.commit
                (acceptAggregate drive.context aggregate)).effects⟩ :=
            fun committed =>
              ⟨_, List.append_assoc _ _ _, hCommitted⟩
          split
          · exact hAfter drive.committed
          · exact (hAfter _).trans completeGroup_drivePairing
        · rw [if_neg hDue]
          have hHere : DrivePairing digest known drive
            ⟨acceptAggregate drive.context aggregate, drive.completed, drive.committed,
              drive.log ++ _⟩ :=
            ⟨_, rfl, hAnnounced⟩
          exact hHere.trans completeGroup_drivePairing

theorem handleDisconnected_pairing :
    DrivePairing digest known drive (handleDisconnected digest node drive turn peer).drive := by
  have hRestored : Pairing digest known drive.context []
    (restoreTrainingPeer (turn.connected peer) (turn.reconnected peer) drive.context peer).1 :=
    .silent (restoreTrainingPeer_bookkeeping _ _ _ _).sameCheckpoint
  unfold handleDisconnected
  dsimp only
  split_ifs
  · exact ⟨_, rfl, hRestored.trans
      (dispatchGroups_trace (pairing_workTrace node) digest turn.dispatch _ _)⟩
  · have hFailed : Pairing digest known drive.context []
      ((restoreTrainingPeer (turn.connected peer) (turn.reconnected peer) drive.context
        peer).1.fail peer) :=
      hRestored.trans (.silent ⟨rfl, rfl⟩)
    have hTaken := hFailed.trans (takeOverGroups_pairing digest known node turn peer _ (groupsOf
      ((restoreTrainingPeer (turn.connected peer) (turn.reconnected peer) drive.context
        peer).1.fail peer) peer))
    split
    · exact ⟨_, rfl, hTaken⟩
    · exact ⟨_, rfl, hTaken⟩

theorem handleNewerState_pairing (hState : StatePaired digest known state) :
    DrivePairing digest known drive (handleNewerState node drive turn peer state).drive := by
  have hAdopted : Pairing digest known drive.context
    (handleState node turn.stateWritten drive.context peer state).effects
    (handleState node turn.stateWritten drive.context peer state).context :=
    (handleWorkerMessage_handles digest node { Env.quiet with stateWritten := turn.stateWritten }
      drive.context peer (.state state)).pairing hState
  unfold handleNewerState
  dsimp only
  split
  · exact ⟨_, rfl, hAdopted⟩
  · split_ifs
    · exact ⟨_, rfl, hAdopted⟩
    · exact ⟨_, rfl, hAdopted⟩

end

/- What a turn reads is known as what a worker reads. -/
def TurnPaired (turn : Turn) : Prop :=
  match turn.event with
  | .message _ message => MessagePaired digest known message
  | _ => True

theorem handleTurn_pairing {drive : Drive} (hTurn : TurnPaired digest known turn) :
    DrivePairing digest known drive (handleTurn digest node drive turn).drive := by
  have hIdle : DrivePairing digest known drive drive := .silent rfl ⟨rfl, rfl⟩
  unfold TurnPaired at hTurn
  unfold handleTurn
  rcases hEvent : turn.event with ⟨peer, message⟩ | peer
  · rw [hEvent] at hTurn
    cases message with
    | aggregate aggregate =>
      exact handleAggregate_pairing digest known
    | election election =>
      dsimp only
      split_ifs
      · exact ⟨_, rfl, .vote node drive.context peer election⟩
      · exact hIdle
    | state state =>
      dsimp only
      split_ifs
      · exact handleNewerState_pairing digest known hTurn
      · exact hIdle
    | _ => exact hIdle
  · exact handleDisconnected_pairing digest known

theorem driveStart_pairing {env : DriveEnv} {committed : Option TrainingCheckpointManifest} :
    Pairing digest known context (driveStart digest node env context committed).log
      (driveStart digest node env context committed).context := by
  have hAnnounced := broadcast_state_pairing digest known node context
  have hDispatched := hAnnounced.trans
    (dispatchGroups_trace (pairing_workTrace node) digest env.dispatch context context.start.groups)
  rw [← List.append_nil (driveStart digest node env context committed).log]
  exact hDispatched.trans (.silent ⟨rfl, rfl⟩)

theorem driveFinish_pairing {env : CommitEnv} {drive : Drive} :
    DrivePairing digest known drive (driveFinish digest node env drive).drive := by
  have hCommitted := commitContextCheckpoint_pairing digest known node env drive.context
  unfold driveFinish
  split_ifs
  · dsimp only
    split
    · exact ⟨_, rfl, hCommitted⟩
    · exact ⟨_, rfl, hCommitted⟩
  · exact .silent rfl ⟨rfl, rfl⟩

end

----
-- Periodic Windows
----

variable (node : NodeId)

theorem waitForAggregate_pairing {groupId : UInt16} (window : UInt64) (context : Context)
    {arrivals : List Arrival} :
    Pairing digest known context (waitForAggregate node groupId window context arrivals).effects
      (waitForAggregate node groupId window context arrivals).context := by
  induction arrivals generalizing context with
  | nil => exact .refl context
  | cons arrival arrivals ih =>
    unfold waitForAggregate
    split
    · split_ifs
      · exact .refl context
      · exact ih context
    · split_ifs
      · exact .vote node context _ _
      · exact ih context
    · rename_i peer _
      have hRestored : Pairing digest known context []
        (restoreTrainingPeer arrival.connected arrival.reconnected context peer).1 :=
        .silent (restoreTrainingPeer_bookkeeping _ _ _ _).sameCheckpoint
      dsimp only
      split_ifs
      · exact .silent ⟨rfl, rfl⟩
      · exact hRestored.trans (ih _)
      · have hFailed : Pairing digest known context []
          ((restoreTrainingPeer arrival.connected arrival.reconnected context
            peer).1.fail peer) :=
          hRestored.trans (.silent ⟨rfl, rfl⟩)
        exact hFailed.trans (ih _)
    · exact ih context

theorem sendWindow_plain {updateSent : Bool} {message : TrainingWindow}
    {aggregator member : NodeId} :
    ∀ effect ∈ sendWindow node updateSent context message aggregator member,
      isPlain effect = true := by
  intro effect hMem
  unfold sendWindow at hMem
  split_ifs at hMem
  · cases hMem
  · rw [List.mem_singleton.mp hMem]
    rfl
  · unfold computeAndSendUpdate at hMem
    split_ifs at hMem
    · rcases List.mem_cons.mp hMem with rfl | hMem
      · rfl
      · rw [List.mem_singleton.mp hMem]
        rfl
    · rw [List.mem_singleton.mp hMem]
      rfl
  · cases hMem

section

variable (env : GroupEnv) (context : Context) (group : TrainingGroup) (window : UInt64)

theorem runGroupWindow_pairing :
    Pairing digest known context (runGroupWindow digest node env context group window).effects
      (runGroupWindow digest node env context group window).context := by
  have hOpened : Pairing digest known context (group.members.flatMap
    (sendWindow node env.updateSent context (autonomousWindow context group window)
      group.aggregator))
    context := by
    apply Pairing.plain ⟨rfl, rfl⟩
    intro effect hMem
    rcases List.mem_flatMap.mp hMem with ⟨member, -, hMem⟩
    exact sendWindow_plain node effect hMem
  unfold runGroupWindow
  split_ifs
  · exact hOpened.trans
      (collectGroupUpdates_trace (pairing_workTrace node) context _ digest env.round group)
  · exact hOpened.trans (waitForAggregate_pairing digest known node window context)

theorem retryGroupWindow_pairing :
    Pairing digest known context (retryGroupWindow digest node env context group window).effects
      (retryGroupWindow digest node env context group window).context := by
  have hMarked : Pairing digest known context [] (context.countStraggler.fail group.aggregator) :=
    .silent ⟨rfl, rfl⟩
  unfold retryGroupWindow
  dsimp only
  split
  · exact hMarked
  · rename_i replacement _
    have hRan := hMarked.trans (runGroupWindow_pairing digest known node env _
      (retryGroup (context.countStraggler.fail group.aggregator) group replacement) window)
    split
    · exact hRan
    · exact hRan
    · rw [← List.append_nil (runGroupWindow digest node env _ _ _).effects]
      exact hRan.trans (.silent ⟨rfl, rfl⟩)

end

theorem runGroup_pairing (env : GroupsEnv) (context : Context) (group : TrainingGroup)
    (window : UInt64) :
    Pairing digest known context (runGroup digest node env context group window).effects
      (runGroup digest node env context group window).context := by
  have hRan := runGroupWindow_pairing digest known node
    (env.first group.groupId) context group window
  unfold runGroup
  dsimp only
  split
  · exact hRan
  · exact hRan
  · exact hRan.trans (retryGroupWindow_pairing digest known node _ _ group window)

theorem runGroups_pairing (env : GroupsEnv) (window : UInt64) (context : Context)
    (groups : List TrainingGroup) :
    Pairing digest known context (runGroups digest node env window context groups).effects
      (runGroups digest node env window context groups).context := by
  induction groups generalizing context with
  | nil => exact .refl context
  | cons group groups ih =>
    have hRan := runGroup_pairing digest known node env context group window
    unfold runGroups
    dsimp only
    split
    · exact hRan
    · exact hRan.trans (ih _)

/- Every copy of a state that a wait sends is the state. -/
theorem stateWait_run {arrivals : List Arrival} {final : Wait}
    (hRun : run (stateStep state) (stateWait node context state) arrivals = some final) :
    SameCheckpoint context final.context ∧ ∀ effect ∈ final.effects, ∃ target,
      effect = .sent target (.state state) := by
  refine always_of_run (fun wait : Wait =>
    SameCheckpoint context wait.context ∧ ∀ effect ∈ wait.effects, ∃ target,
      effect = .sent target (.state state))
    ?_ ⟨⟨rfl, rfl⟩, ?_⟩ hRun
  · intro wait arrival next hWait hStep
    rcases stateStep_eq_some_iff.mp hStep with ⟨-, rfl⟩
    have hMove := stateEvent_move state wait arrival
    have hSame := hMove.bookkeeping.sameCheckpoint
    refine ⟨⟨hSame.1.trans hWait.1.1, hSame.2.trans hWait.1.2⟩, ?_⟩
    intro effect hMem
    rcases hMove.sends hMem with hOld | hNew
    · exact hWait.2 effect hOld
    · exact hNew
  · intro effect hMem
    rcases List.mem_map.mp hMem with ⟨target, -, rfl⟩
    exact ⟨target, rfl⟩

theorem broadcastStateAndWait_pairing {context : Context} (arrivals : List Arrival) :
    Pairing digest known context (.persistedState context.state ::
      (broadcastStateAndWait node context context.state arrivals).effects)
      (broadcastStateAndWait node context context.state arrivals).context := by
  rcases (drain_eq_iff (stateWait node context context.state)).mp rfl with ⟨consumed, -, hRun, -⟩
  have hDrained := stateWait_run node hRun
  unfold broadcastStateAndWait
  dsimp only
  generalize drain (stateStep context.state)
    (stateWait node context context.state) arrivals = drained at hDrained ⊢
  have hWaited : Pairing digest known context (.persistedState context.state :: drained.1.effects)
    drained.1.context := by
    rw [← List.append_nil (Effect.persistedState context.state :: drained.1.effects)]
    refine .trans (.announce context _ ?_) (.silent hDrained.1)
    intro effect hMem
    rcases List.mem_cons.mp hMem with rfl | hMem
    · exact Or.inr (Or.inl rfl)
    · exact Or.inr (Or.inr (hDrained.2 effect hMem))
  split_ifs
  · exact hWaited
  · split
    · exact hWaited.trans (.vote node _ _ _)
    · exact hWaited

theorem commitWindowCheckpoint_pairing {env : CommitEnv} {context : Context}
    {aggregates : List TrainingAggregate} :
    Pairing digest known context (commitWindowCheckpoint digest node env context aggregates).effects
      (commitWindowCheckpoint digest node env context aggregates).context := by
  have hSame := (broadcastCheckpointAndWait_bookkeeping node
    (recordCheckpoint context (makeCheckpoint digest context aggregates))
    (contextCommit context (makeCheckpoint digest context aggregates)) env.acks).sameCheckpoint
  have hSent := broadcastCheckpointAndWait_effects node
    (recordCheckpoint context (makeCheckpoint digest context aggregates))
    (contextCommit context (makeCheckpoint digest context aggregates)) env.acks
  have hRecorded := recordCheckpoint_pairing digest known rfl hSame hSent
  unfold commitWindowCheckpoint
  dsimp only
  cases env.checkpointWritten with
  | false => exact .refl context
  | true =>
    rw [Bool.not_true, if_neg Bool.false_ne_true]
    split
    · split_ifs
      · exact hRecorded.trans (.announce _ _ (by simp))
      · exact hRecorded
    · exact hRecorded

theorem commitWindow_pairing (env : WindowEnv) (context : Context) (window : UInt64)
    (aggregates : List TrainingAggregate) :
    Pairing digest known context (commitWindow digest node env context window aggregates).effects
      (commitWindow digest node env context window aggregates).context := by
  have hInstalled : Pairing digest known context [] (installAggregates context window aggregates) :=
    .silent ⟨rfl, rfl⟩
  have hAnnounced := hInstalled.trans
    (broadcastStateAndWait_pairing digest known node env.stateAcks)
  unfold commitWindow
  dsimp only
  cases env.stateWritten with
  | false => exact hInstalled
  | true =>
    rw [Bool.not_true, if_neg Bool.false_ne_true]
    split
    · split_ifs
      · exact hAnnounced.trans (commitWindowCheckpoint_pairing digest known node)
      · exact hAnnounced
    · exact hAnnounced

/- One window of a periodic job, from groups to checkpoint. -/
theorem driveWindow_pairing (env : WindowEnv) (context : Context) :
    Pairing digest known context (driveWindow digest node env context).effects
      (driveWindow digest node env context).context := by
  have hRan := runGroups_pairing digest known node env.groups
    (context.window + 1) context context.start.groups
  unfold driveWindow
  dsimp only
  split
  · exact hRan
  · exact hRan.trans (commitWindow_pairing digest known node env _ _ _)

end IntelligenceNetwork.Training
