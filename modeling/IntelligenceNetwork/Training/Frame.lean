import IntelligenceNetwork.Training.Worker

/-
  What the waits of an aggregator leave alone.

  While it waits for updates or for replicas, a node votes,
  counts and marks peers as failed.

  Main declarations:
    * `OnlyBookkeeping`
    * `WaitRelation`
    * `Handles`
-/

----
-- Bookkeeping
----

namespace IntelligenceNetwork.Training

variable {context : Context} {R : Context → Context → Prop}
variable {S : Context → List Effect → Context → Prop} {node : NodeId}

/- Two contexts differ at most in votes, counts and failures. -/
def OnlyBookkeeping (before after : Context) : Prop :=
  ∃ failed votedTerm votedCandidate rejected stragglers, after = { before with
    failed := failed
    votedTerm := votedTerm
    votedCandidate := votedCandidate
    rejectedUpdates := rejected
    stragglers := stragglers }

namespace OnlyBookkeeping

theorem refl (context : Context) : OnlyBookkeeping context context :=
  ⟨context.failed, context.votedTerm, context.votedCandidate, context.rejectedUpdates,
    context.stragglers, rfl⟩

theorem trans {first second third : Context} (hFirst : OnlyBookkeeping first second)
    (hSecond : OnlyBookkeeping second third) : OnlyBookkeeping first third := by
  rcases hFirst with ⟨_, _, _, _, _, rfl⟩
  rcases hSecond with ⟨failed, term, candidate, rejected, stragglers, rfl⟩
  exact ⟨failed, term, candidate, rejected, stragglers, rfl⟩

theorem countRejected (context : Context) : OnlyBookkeeping context context.countRejected :=
  ⟨_, _, _, _, _, rfl⟩

theorem fail (context : Context) (peer : NodeId) : OnlyBookkeeping context (context.fail peer) :=
  ⟨_, _, _, _, _, rfl⟩

end OnlyBookkeeping

theorem restoreTrainingPeer_bookkeeping (connected reconnected : Bool) (context : Context)
    (peer : NodeId) :
    OnlyBookkeeping context (restoreTrainingPeer connected reconnected context peer).1 := by
  unfold restoreTrainingPeer
  split_ifs
  · exact .refl context
  · exact ⟨_, _, _, _, _, rfl⟩
  · exact .refl context

/- A peer that is not restored changes nothing. -/
theorem restoreTrainingPeer_lost {connected reconnected : Bool} {peer : NodeId}
    (hLost : (restoreTrainingPeer connected reconnected context peer).2 = false) :
    (restoreTrainingPeer connected reconnected context peer).1 = context := by
  unfold restoreTrainingPeer at hLost ⊢
  split_ifs at hLost ⊢
  · rfl
  · rfl

theorem handleElection_bookkeeping (node : NodeId) (context : Context) (peer : NodeId)
    (election : TrainingElection) :
    OnlyBookkeeping context (handleElection node context peer election).context := by
  unfold handleElection recordVote Outcome.unchanged
  split_ifs
  · exact .refl context
  · exact ⟨_, _, _, _, _, rfl⟩
  · exact .refl context

----
-- Waiting
----

/- Two contexts differ at most in counts and failures. -/
def OnlyMarks (before after : Context) : Prop :=
  ∃ failed rejected stragglers, after =
    { before with failed := failed, rejectedUpdates := rejected, stragglers := stragglers }

/-
  A relation that the steps of a wait respect.  Whatever the
  waits are shown to leave alone is such a relation.
-/
structure WaitRelation (node : NodeId) (R : Context → Context → Prop) : Prop where
  refl : ∀ context, R context context
  trans : ∀ {first second third : Context}, R first second → R second third → R first third
  marks : ∀ {before after : Context}, OnlyMarks before after → R before after
  votes : ∀ context peer election, R context (handleElection node context peer election).context

/- So is every relation that bookkeeping respects. -/
theorem WaitRelation.of_bookkeeping (node : NodeId) (R : Context → Context → Prop)
    (hRefl : ∀ context, R context context)
    (hTrans : ∀ {first second third : Context}, R first second → R second third → R first third)
    (hOnly : ∀ {before after : Context}, OnlyBookkeeping before after → R before after) :
    WaitRelation node R where
  refl := hRefl
  trans := hTrans
  marks := by
    rintro before after ⟨failed, rejected, stragglers, rfl⟩
    exact hOnly ⟨_, _, _, _, _, rfl⟩
  votes := fun context peer election =>
    hOnly (handleElection_bookkeeping node context peer election)

theorem memberDisconnected_marks {expected : Finset NodeId} {arrival : Arrival} {context : Context}
    {peer : NodeId} : OnlyMarks context (memberDisconnected expected arrival context peer) := by
  unfold memberDisconnected
  by_cases hExpected : peer ∈ expected
  · unfold restoreTrainingPeer
    split_ifs
    all_goals exact ⟨_, _, _, rfl⟩
  · rw [if_neg hExpected]
    exact ⟨_, _, _, rfl⟩

/-
  What a wait does, step by step: it marks peers, answers
  candidates and offers artifacts.  A relation between the
  context before, the effects and the context after that holds
  of these steps and of their compositions holds of the wait.
-/
structure WaitTrace (node : NodeId) (S : Context → List Effect → Context → Prop) : Prop where
  refl : ∀ context, S context [] context
  trans : ∀ {first second third : Context} {earlier later : List Effect},
    S first earlier second → S second later third → S first (earlier ++ later) third
  marks : ∀ {before after : Context}, OnlyMarks before after → S before [] after
  votes : ∀ context peer election, S context (handleElection node context peer election).effects
    (handleElection node context peer election).context
  offers : ∀ context member offer, S context [.sent member (.checkpointOffer offer)] context

/- What holds of the contexts alone is such a relation. -/
theorem WaitRelation.trace (hR : WaitRelation node R) :
    WaitTrace node (fun before _ after => R before after) where
  refl := hR.refl
  trans := hR.trans
  marks := hR.marks
  votes := hR.votes
  offers := fun context _ _ => hR.refl context

theorem gatherUpdates_trace (hS : WaitTrace node S) (window : TrainingWindow)
    (expected : Finset NodeId) (context : Context) (updates : List TrainingUpdate)
    (arrivals : List Arrival) :
    S context (gatherUpdates node window expected context updates arrivals).effects
      (gatherUpdates node window expected context updates arrivals).context := by
  induction arrivals generalizing context updates with
  | nil =>
    unfold gatherUpdates
    split_ifs
    · exact hS.marks ⟨_, _, _, rfl⟩
    · exact hS.refl context
  | cons arrival arrivals ih =>
    unfold gatherUpdates
    by_cases hWait : updates.length < expected.card
    · rw [if_pos hWait]
      split
      · split_ifs
        · exact hS.trans (hS.marks ⟨_, _, _, rfl⟩) (ih _ _)
        · exact ih _ _
      · exact hS.trans (hS.marks memberDisconnected_marks) (ih _ _)
      · dsimp only
        split_ifs
        · exact hS.votes context _ _
        · exact hS.trans (hS.votes context _ _) (ih _ _)
      · exact ih _ _
    · rw [if_neg hWait]
      exact hS.refl context

theorem awaitReplica_trace (hS : WaitTrace node S) (member : NodeId) (artifact : ArtifactId)
    (context : Context) (arrivals : List Arrival) :
    S context (awaitReplica node member artifact context arrivals).effects
      (awaitReplica node member artifact context arrivals).context := by
  induction arrivals generalizing context with
  | nil => exact hS.refl context
  | cons arrival arrivals ih =>
    unfold awaitReplica
    split
    · split_ifs
      · exact hS.refl context
      · exact ih context
    · exact hS.trans (hS.marks ⟨_, _, _, rfl⟩) (ih _)
    · dsimp only
      split_ifs
      · exact hS.votes context _ _
      · exact hS.trans (hS.votes context _ _) (ih _)
    · split_ifs
      · exact hS.marks ⟨_, _, _, rfl⟩
      · exact ih context
    · exact ih context

theorem failUnreplicated_marks (replicas : List NodeId) (context : Context) (member : NodeId) :
    OnlyMarks context (failUnreplicated replicas context member) := by
  unfold failUnreplicated
  split_ifs
  · exact ⟨_, _, _, rfl⟩
  · exact ⟨_, _, _, rfl⟩

theorem replicateShard_trace (hS : WaitTrace node S) (round : Round)
    (offer : TrainingCheckpointOffer) (context : Context) (replicas members : List NodeId) :
    S context (replicateShard node round offer context replicas members).effects
      (replicateShard node round offer context replicas members).context := by
  induction members generalizing context replicas with
  | nil => exact hS.refl context
  | cons member members ih =>
    have hWaited := hS.trans (hS.offers context member offer)
      (awaitReplica_trace hS member offer.artifact context (round.replies member))
    unfold replicateShard
    split_ifs
    · exact ih context replicas
    · exact hS.trans (hS.marks ⟨_, _, _, rfl⟩) (ih _ _)
    · dsimp only
      split
      · exact hWaited
      · exact hS.trans hWaited (hS.trans (hS.marks (failUnreplicated_marks _ _ member)) (ih _ _))

----
-- Collecting
----

/-
  After reporting, a context holds the new shard state, and a
  successful report is about that state.
-/
theorem reportAggregate_context {round : Round} {window : TrainingWindow} {own : TrainingUpdate}
    {state : TrainingShardState} {aggregate : TrainingAggregate} {context : Context} :
    (reportAggregate round window own state aggregate
      context).context = adoptShardState context state ∧
      ∀ reported, (reportAggregate round window own state aggregate context).result = .ok reported →
        reported = aggregate := by
  unfold reportAggregate
  dsimp only
  split_ifs
  · exact ⟨rfl, fun _ hOk => (Except.ok.inj hOk).symm⟩
  · exact ⟨rfl, fun _ hOk => (Except.ok.inj hOk).symm⟩
  · exact ⟨rfl, fun _ hOk => nomatch hOk⟩

/-
  Collecting a window either fails with bookkeeping only, or
  installs a state of the generation after the window's base;
  an aggregate, if there is one, reports that state.
-/
theorem collectGroupUpdates_context {digest : Digest} {round : Round} {group : TrainingGroup}
    {window : TrainingWindow} :
    (OnlyBookkeeping context (collectGroupUpdates digest node round context group window).context ∧
      ∀ aggregate,
        (collectGroupUpdates digest node round context group window).result ≠ .ok aggregate) ∨
      ∃ waited state, OnlyBookkeeping context waited ∧
        (collectGroupUpdates digest node round context group
          window).context = adoptShardState waited state ∧
        state.generation = Saturating.add window.baseGeneration 1 ∧ ∀ aggregate,
          (collectGroupUpdates digest node round context group window).result = .ok aggregate →
          aggregate.generation = state.generation ∧ aggregate.shardId = window.shardId := by
  have hWaits := (WaitRelation.of_bookkeeping node _ OnlyBookkeeping.refl
    OnlyBookkeeping.trans id).trace
  have hGathered := gatherUpdates_trace hWaits window
    (group.members.filter (· ∉ context.failed)).toFinset
    context [computeUpdate context window node] round.updates
  have hReplicated := fun offer members =>
    hGathered.trans (replicateShard_trace hWaits round offer _ [node] members)
  unfold collectGroupUpdates
  dsimp only
  split
  · exact Or.inl ⟨hGathered, fun _ hOk => nomatch hOk⟩
  · split_ifs
    · exact Or.inl ⟨hGathered, fun _ hOk => nomatch hOk⟩
    · exact Or.inl ⟨hGathered, fun _ hOk => nomatch hOk⟩
    · split
      · exact Or.inl ⟨hReplicated _ _, fun _ hOk => nomatch hOk⟩
      · split_ifs
        · exact Or.inl ⟨hReplicated _ _, fun _ hOk => nomatch hOk⟩
        · right
          refine ⟨_, _, hReplicated _ _, reportAggregate_context.1, rfl, ?_⟩
          intro aggregate hOk
          have hSame := reportAggregate_context.2 aggregate hOk
          rw [hSame]
          exact ⟨rfl, rfl⟩

----
-- Working on a Window
----

/- What a node stores and sends for a window, replies apart. -/
def isWork : Effect → Bool
| .sent _ (.window _) | .sent _ (.update _) | .sent _ (.aggregate _) | .sent _ (.shardState _)
| .persistedShardState _ | .computed _ _ | .produced _ _ _ => true
| _ => false

/-
  What a node does for a window, step by step: it waits, it
  stores and sends what it computes, and it adopts a new state
  of its shard.
-/
structure WorkTrace (node : NodeId) (S : Context → List Effect → Context → Prop) : Prop
    extends WaitTrace node S where
  works : ∀ (context : Context) (effects : List Effect),
    (∀ effect ∈ effects, isWork effect = true) → S context effects context
  adopts : ∀ context state, S context [] (adoptShardState context state)

theorem WaitRelation.workTrace (hR : WaitRelation node R)
    (hAdopts : ∀ context state, R context (adoptShardState context state)) :
    WorkTrace node (fun before _ after => R before after) :=
  { hR.trace with
    works := fun context _ _ => hR.refl context
    adopts := hAdopts }

section

variable (hS : WorkTrace node S) (context : Context) (window : TrainingWindow)
include hS

theorem sentWindows_trace (members : List NodeId) :
    S context (members.map (fun member => Effect.sent member (.window window))) context := by
  apply hS.works
  intro effect hMem
  rcases List.mem_map.mp hMem with ⟨member, -, rfl⟩
  rfl

theorem computeAndSendUpdate_trace {sent : Bool} {aggregator : NodeId} :
    S context (computeAndSendUpdate node sent context window aggregator).effects
      (computeAndSendUpdate node sent context window aggregator).context := by
  unfold computeAndSendUpdate
  split_ifs
  · exact hS.works context _ (by simp [isWork])
  · exact hS.works context _ (by simp [isWork])

theorem reportAggregate_trace (round : Round) (own : TrainingUpdate) (state : TrainingShardState)
    (aggregate : TrainingAggregate) :
    S context (reportAggregate round window own state aggregate context).effects
      (reportAggregate round window own state aggregate context).context := by
  have hAdopted := hS.adopts context state
  unfold reportAggregate
  dsimp only
  split_ifs
  · exact hS.trans hAdopted (hS.works _ _ (by simp [isWork]))
  · exact hS.trans hAdopted (hS.works _ _ (by simp [isWork]))
  · exact hS.trans hAdopted (hS.works _ _ (by simp [isWork]))

theorem collectGroupUpdates_trace (digest : Digest) (round : Round) (group : TrainingGroup) :
    S context (collectGroupUpdates digest node round context group window).effects
      (collectGroupUpdates digest node round context group window).context := by
  have hComputed := hS.works context [.computed context window] (by simp [isWork])
  have hGathered := hS.trans hComputed (gatherUpdates_trace hS.toWaitTrace window
    (group.members.filter (· ∉ context.failed)).toFinset context
    [computeUpdate context window node] round.updates)
  have hAnnounced : ∀ (gathered : Context) (state : TrainingShardState) (members : List NodeId),
    S gathered (.persistedShardState state :: members.map (fun member =>
      Effect.sent member (.shardState state))) gathered := by
    intro gathered state members
    apply hS.works
    intro effect hMem
    rcases List.mem_cons.mp hMem with rfl | hMem
    · rfl
    · rcases List.mem_map.mp hMem with ⟨member, -, rfl⟩
      rfl
  unfold collectGroupUpdates
  dsimp only
  split
  · exact hGathered
  · split_ifs
    · exact hGathered
    · exact hGathered
    · have hReplicated := fun offer state members =>
        hS.trans hGathered (hS.trans (hAnnounced _ state members)
          (replicateShard_trace hS.toWaitTrace round offer _ [node] group.members))
      split
      · exact hReplicated _ _ _
      · split_ifs
        · exact hReplicated _ _ _
        · exact hS.trans (hReplicated _ _ _) (reportAggregate_trace hS _ window round _ _ _)

variable (hInstalls : ∀ context window aggregate,
  S context [] (installAggregate context window aggregate))
include hInstalls

theorem aggregateWindows_trace (digest : Digest) (rounds : Nat → Round) (group : TrainingGroup)
    (fuel index : Nat) :
    S context (aggregateWindows digest node rounds group fuel index context window).effects
      (aggregateWindows digest node rounds group fuel index context window).context := by
  induction fuel generalizing index context window with
  | zero => exact hS.refl context
  | succ fuel ih =>
    have hCollected := collectGroupUpdates_trace hS context window digest (rounds index) group
    rw [aggregateWindows]
    dsimp only
    split
    · exact hCollected
    · rename_i aggregate _
      have hInstalled := hS.trans hCollected (hInstalls _ window aggregate)
      rw [List.append_nil] at hInstalled
      split_ifs
      · exact hInstalled
      · exact hS.trans (hS.trans hInstalled (sentWindows_trace hS _ _ _)) (ih _ _ _)

theorem runWindow_trace (digest : Digest) (env : Env) :
    S context (runWindow digest node env context window).effects
      (runWindow digest node env context window).context := by
  unfold runWindow
  split_ifs
  · split
    · exact hS.refl context
    · exact aggregateWindows_trace hS context window hInstalls digest env.rounds _ _ 0
  · exact computeAndSendUpdate_trace hS context window

end

----
-- What a Message Does
----

/- A coordination state or a commit that is not refused. -/
def takesOver (digest : Digest) (env : Env) (context : Context) (peer : NodeId) :
    TrainingMessage → Bool
| .state state => !stateRejected context peer state
| .checkpointCommit commit => !commitRejected digest context peer commit && env.checkpointWritten
| _ => false

/- What leaves a node for a message it has no window to run for. -/
def isReceipt : Effect → Bool
| .sent _ (.ack _) | .persistedShardState _ => true
| _ => false

/- The context a window is entered in, and what was stored before. -/
def Opens (context : Context) (window : TrainingWindow) (opened : Context)
    (stored : List Effect) : Prop :=
  opened = context ∧ stored = [] ∨ context.term < window.term ∧
    opened = adoptWindowTerm context window ∧ stored = [.persistedState opened.state]

/- Where a message leads its worker, and what the worker does for it. -/
inductive Handles (digest : Digest) (node : NodeId) (env : Env) (context : Context)
    (peer : NodeId) : TrainingMessage → Context → List Effect → Prop where
  | keeps {message : TrainingMessage} {after : Context} {effects : List Effect}
    (hTaken : takesOver digest env context peer message = false)
    (hOnly : OnlyBookkeeping context after)
    (hReceipts : ∀ effect ∈ effects, isReceipt effect = true) :
    Handles digest node env context peer message after effects
  | votes (election : TrainingElection) :
    Handles digest node env context peer (.election election)
      (handleElection node context peer election).context
      (handleElection node context peer election).effects
  | adoptsShard {state : TrainingShardState} {effects : List Effect}
    (hAccepted : shardStateRejected digest context peer state = false)
    (hReceipts : ∀ effect ∈ effects, isReceipt effect = true) :
    Handles digest node env context peer (.shardState state) (adoptShardState context state) effects
  | adoptsState {state : TrainingState} {effects : List Effect}
    (hAccepted : stateRejected context peer state = false)
    (hStored : ∀ effect ∈ effects, isReceipt effect = true ∨
      effect = .persistedState (adoptState context state).state) :
    Handles digest node env context peer (.state state) (adoptState context state) effects
  | commits {commit : TrainingCheckpointCommit} {effects : List Effect}
    (hAccepted : commitRejected digest context peer commit = false)
    (hWritten : env.checkpointWritten = true)
    (hStored : ∀ effect ∈ effects, isReceipt effect = true ∨
      effect = .persistedState (adoptCommit context commit).state) :
    Handles digest node env context peer (.checkpointCommit commit) (adoptCommit context commit)
      (.persistedCheckpoint commit :: effects)
  | entersTerm {window : TrainingWindow}
    (hAccepted : windowRejected node context peer window = false)
    (hTerm : context.term < window.term) :
    Handles digest node env context peer (.window window) (adoptWindowTerm context window) []
  | runs {window : TrainingWindow} {opened : Context} {stored : List Effect}
    (hAccepted : windowRejected node context peer window = false)
    (hOpens : Opens context window opened stored) :
    Handles digest node env context peer (.window window)
      (runWindow digest node env (enterWindow opened window) window).context
      (stored ++ (runWindow digest node env (enterWindow opened window) window).effects)

theorem handleWorkerMessage_handles (digest : Digest) (node : NodeId) (env : Env)
    (context : Context) (peer : NodeId) (message : TrainingMessage) :
    Handles digest node env context peer message
      (handleWorkerMessage digest node env context peer message).context
      (handleWorkerMessage digest node env context peer message).effects := by
  have hKeeps : ∀ {message after}, takesOver digest env context peer message = false →
    OnlyBookkeeping context after → Handles digest node env context peer message after [] :=
    fun hTaken hOnly => .keeps hTaken hOnly (fun _ hMem => nomatch hMem)
  have hRefl := OnlyBookkeeping.refl context
  cases message with
  | window window =>
    rw [handleWorkerMessage, handleWindow]
    split_ifs with hRejected hTerm hWritten
    · exact hKeeps rfl (.countRejected context)
    · exact .entersTerm (by simpa using hRejected) hTerm
    · exact .runs (by simpa using hRejected) (Or.inr ⟨hTerm, rfl, rfl⟩)
    · exact .runs (by simpa using hRejected) (Or.inl ⟨rfl, rfl⟩)
  | shardState state =>
    rw [handleWorkerMessage, handleShardState]
    split_ifs with hRejected
    · exact hKeeps rfl hRefl
    · exact .adoptsShard (by simpa using hRejected) (by simp [isReceipt])
    · exact .adoptsShard (by simpa using hRejected) (by simp)
  | state state =>
    rw [handleWorkerMessage, handleState]
    split_ifs with hRejected
    · exact hKeeps (by simp [takesOver, hRejected]) hRefl
    · exact .adoptsState (by simpa using hRejected) (by simp [isReceipt, sendAck])
    · exact .adoptsState (by simpa using hRejected) (by simp)
  | election election => exact .votes election
  | checkpointOffer offer =>
    rw [handleWorkerMessage, handleCheckpointOffer]
    split_ifs
    · exact hKeeps rfl hRefl
    · exact hKeeps rfl hRefl
    · split
      · exact .keeps rfl hRefl (by simp [isReceipt, sendAck])
      · exact .keeps rfl hRefl (by simp [isReceipt, sendAck])
    · split
      · exact .keeps rfl hRefl (by simp [isReceipt, sendAck])
      · exact hKeeps rfl hRefl
  | checkpointCommit commit =>
    rw [handleWorkerMessage, handleCheckpointCommit]
    split_ifs with hRejected hWritten
    · exact hKeeps (by simp [takesOver, hRejected]) hRefl
    · exact hKeeps (by simp_all [takesOver]) hRefl
    · exact .commits (by simpa using hRejected) (by simpa using hWritten)
        (by simp [isReceipt, sendAck])
    · exact .commits (by simpa using hRejected) (by simpa using hWritten) (by simp)
  | ack ack =>
    rw [handleWorkerMessage, observeAck]
    split
    · exact hKeeps rfl ⟨_, _, _, _, _, rfl⟩
    · exact hKeeps rfl hRefl
  | start start | update update | aggregate aggregate => exact hKeeps rfl hRefl

end IntelligenceNetwork.Training
