import IntelligenceNetwork.Tensor.Placement

/-
  Where the numbers of a round come from.

  The coordinator takes the first answer for a shard that it
  waits for, whoever sent it.

  Main declarations:
    * `OwnerAnswers`
    * `AnswersOwn`
    * `answers_own_of_owners`
-/

----
-- A Round That Listens
----

namespace IntelligenceNetwork.Tensor

open Transition OrderedMap

variable {digests : StateDigests} {node : TensorNode} {optimizers tensors : Hashes}
variable {pending : List UInt16} {round : Round} {shardId : UInt16}

section

variable (digests : StateDigests) (round : Round)

/-
  A round of the coordinator, the outputs that it has, and what
  came to its mailbox, with the senders.
-/
structure Listening where
  node : TensorNode
  stage : RoundStage
  outputs : Outputs
  heard : List (NodeId × TrainingV4Message)

/-
  A message arrives, another task of the node does its work, or
  the round stops: a send fails or the mailbox is closed.
-/
inductive RoundEvent
  | message (peer : NodeId) (message : TrainingV4Message)
  | elsewhere (node : TensorNode)
  | stop (error : Frontier.NodeError)

/- The outputs of the shards that the coordinator owns. -/
def ownOutputs (node : TensorNode) : List V4ShardOwnership → Outputs → Outputs
| [], outputs => outputs
| shard :: shards, outputs =>
  if ownerOf shard = round.lead then
    match localTensorForward digests usualEnv node round.graph.jobId shard.shardId roundInput with
    | .error _ => outputs
    | .ok output => ownOutputs node shards (outputs.insert shard.shardId output)
  else
    ownOutputs node shards outputs

/- The outputs after a message; the last one is used at once. -/
def outputsAfter (outputs : Outputs) : RoundStage → TrainingV4Message → Outputs
| .forward pending _, .tensorForwardResult result =>
  if awaited round pending result.requestId result.planGeneration result.shardId then
    outputs.insert result.shardId result.output
  else
    outputs
| _, _ => outputs

def beginListening (node : TensorNode) : Listening :=
  let reaction := openForward digests round node round.graph.shards [] ∅
  ⟨reaction.node, reaction.stage, ownOutputs digests round node round.graph.shards ∅, []⟩

def listenStep (listening : Listening) : RoundEvent → Option Listening
| .message peer message =>
  let reaction := roundMailbox digests round listening.node listening.stage message
  some ⟨reaction.node, reaction.stage, outputsAfter round listening.outputs listening.stage message,
    (peer, message) :: listening.heard⟩
| .elsewhere node => some { listening with node := node }
| .stop error => some { listening with stage := .failed error }

/- The shard is in the graph and the node is its owner. -/
def Owns (node : NodeId) (shardId : UInt16) : Prop :=
  ∃ shard ∈ round.graph.shards, shard.shardId = shardId ∧ ownerOf shard = node

instance (node : NodeId) (shardId : UInt16) : Decidable (Owns round node shardId) := by
  unfold Owns
  infer_instance

/- An output of the coordinator's own, or of the shard's owner. -/
inductive OutputFrom (heard : List (NodeId × TrainingV4Message)) (shardId : UInt16)
    (values : List Int) : Prop
  | computed (hOwner : Owns round round.lead shardId) (node : TensorNode)
    (hOutput : localTensorForward digests usualEnv node round.graph.jobId shardId roundInput =
      .ok values)
  | answered (peer : NodeId) (hOwner : Owns round peer shardId) (result : V4TensorForwardResult)
    (hHeard : (peer, .tensorForwardResult result) ∈ heard)
    (hResult : result.shardId = shardId ∧ result.output = values)

/- A step of the coordinator's own, or of the shard's owner. -/
inductive StepFrom (heard : List (NodeId × TrainingV4Message)) (shardId : UInt16)
    (result : V4TensorBackwardResult) : Prop
  | computed (shard : V4ShardOwnership)
    (hShard : shard ∈ round.graph.shards ∧ shard.shardId = shardId ∧ ownerOf shard = round.lead)
    (node : TensorNode) (upstream : List Int)
    (hStep : (localTensorBackward digests round.lead usualEnv node round.graph.jobId
      round.plan.planGeneration shard round.sequence roundInput upstream).result = .ok result)
  | answered (peer : NodeId) (hOwner : Owns round peer shardId)
    (hHeard : (peer, .tensorBackwardResult result) ∈ heard) (hResult : result.shardId = shardId)

/- Every hash is that of a step of the owner. -/
structure HashesFrom (heard : List (NodeId × TrainingV4Message)) (tensors optimizers : Hashes) :
    Prop where
  tensors : ∀ shardId hash, tensors[shardId]? = some hash →
    ∃ result, StepFrom digests round heard shardId result ∧ result.stateHash = hash
  optimizers : ∀ shardId hash, optimizers[shardId]? = some hash →
    ∃ result, StepFrom digests round heard shardId result ∧ result.optimizerStateHash = some hash

/- The loss is that of the outputs, and the hashes are owners'. -/
def StageFrom (heard : List (NodeId × TrainingV4Message)) (outputs : Outputs) : RoundStage → Prop
| .forward _ known => known = outputs
| .backward _ loss tensors optimizers =>
  roundLoss outputs round.graph.shards = .ok loss ∧
    HashesFrom digests round heard tensors optimizers
| .returned result =>
  (∃ loss, roundLoss outputs round.graph.shards = .ok loss ∧
    result.loss = max 0 (min loss Saturating.maxI64)) ∧
    HashesFrom digests round heard result.tensorHashes result.optimizerHashes
| .failed _ => True

structure AnswersOwn (listening : Listening) : Prop where
  outputs : ∀ shardId values, listening.outputs[shardId]? = some values →
    OutputFrom digests round listening.heard shardId values
  stage : StageFrom digests round listening.heard listening.outputs listening.stage

/- An answer that is awaited comes from the shard's owner. -/
def OwnerAnswers (listening : Listening) : RoundEvent → Prop
| .message peer (.tensorForwardResult result) =>
  match listening.stage with
  | .forward pending _ =>
    awaited round pending result.requestId result.planGeneration result.shardId = true →
      Owns round peer result.shardId
  | _ => True
| .message peer (.tensorBackwardResult result) =>
  match listening.stage with
  | .backward pending _ _ _ =>
    awaited round pending result.requestId result.planGeneration result.shardId = true →
      Owns round peer result.shardId
  | _ => True
| _ => True

end

----
-- Steps
----

variable {listening : Listening}

section

variable {outputs : Outputs} {loss : Int}
variable {heard : List (NodeId × TrainingV4Message)} {next : Listening}

section

variable (hHashes : HashesFrom digests round heard tensors optimizers)
include hHashes

/- More messages leave the origins as they are. -/
theorem HashesFrom.cons (arrival : NodeId × TrainingV4Message) :
    HashesFrom digests round (arrival :: heard) tensors optimizers := by
  have hMore : ∀ shardId result, StepFrom digests round heard shardId result →
    StepFrom digests round (arrival :: heard) shardId result := by
    intro shardId result hStep
    cases hStep with
    | computed shard hShard node upstream hResult =>
      exact .computed shard hShard node upstream hResult
    | answered peer hOwner hHeard hResult => exact .answered peer hOwner (.tail _ hHeard) hResult
  constructor
  · intro shardId hash hGet
    rcases hHashes.tensors shardId hash hGet with ⟨result, hStep, hHash⟩
    exact ⟨result, hMore _ _ hStep, hHash⟩
  · intro shardId hash hGet
    rcases hHashes.optimizers shardId hash hGet with ⟨result, hStep, hHash⟩
    exact ⟨result, hMore _ _ hStep, hHash⟩

/- The hashes of one more step. -/
theorem HashesFrom.note {result : V4TensorBackwardResult}
    (hStep : StepFrom digests round heard shardId result) :
    HashesFrom digests round heard (tensors.insert shardId result.stateHash)
      (noteOptimizer optimizers shardId result.optimizerStateHash) := by
  constructor
  · intro other hash hGet
    rcases getElem?_of_insert hGet with ⟨hEq, rfl⟩ | hGet
    · exact ⟨result, hEq ▸ hStep, rfl⟩
    · exact hHashes.tensors other hash hGet
  · intro other hash hGet
    cases hOptimizer : result.optimizerStateHash with
    | none =>
      rw [hOptimizer] at hGet
      exact hHashes.optimizers other hash hGet
    | some noted =>
      rw [hOptimizer, noteOptimizer] at hGet
      rcases getElem?_of_insert hGet with ⟨hEq, rfl⟩ | hGet
      · exact ⟨result, hEq ▸ hStep, hOptimizer⟩
      · exact hHashes.optimizers other hash hGet

end

theorem awaitBackward_own (hLoss : roundLoss outputs round.graph.shards = .ok loss)
    (hHashes : HashesFrom digests round heard tensors optimizers) :
    StageFrom digests round heard outputs
      (awaitBackward round node pending loss tensors optimizers).stage := by
  unfold awaitBackward
  split_ifs
  · exact ⟨⟨loss, hLoss, rfl⟩, hHashes⟩
  · exact ⟨hLoss, hHashes⟩

/- The coordinator's own steps, one shard after the other. -/
theorem backwardFrom_own {shards : List V4ShardOwnership}
    (hShards : ∀ shard ∈ shards, shard ∈ round.graph.shards)
    (hLoss : roundLoss outputs round.graph.shards = .ok loss) (node : TensorNode)
    (pending : List UInt16) (tensors optimizers : Hashes)
    (hHashes : HashesFrom digests round heard tensors optimizers) :
    StageFrom digests round heard outputs
      (backwardFrom digests round outputs loss node shards pending tensors optimizers).stage := by
  induction shards generalizing node pending tensors optimizers with
  | nil => exact awaitBackward_own hLoss hHashes
  | cons shard shards ih =>
    have hRest := ih (fun other hOther => hShards other (.tail _ hOther))
    rw [backwardFrom]
    split_ifs with hOwner
    · dsimp only
      split
      · exact trivial
      · rename_i result hResult
        apply hRest
        exact hHashes.note (.computed shard ⟨hShards shard (.head _), rfl, hOwner⟩ node _ hResult)
    · exact hRest _ _ _ _ hHashes

theorem awaitForward_own :
    StageFrom digests round heard outputs
      (awaitForward digests round node pending outputs).stage := by
  unfold awaitForward
  split_ifs
  · unfold openBackward
    cases hLoss : roundLoss outputs round.graph.shards with
    | error error => exact trivial
    | ok loss =>
      apply backwardFrom_own (fun _ hShard => hShard) hLoss
      constructor
      · simp
      · simp
  · rfl

/- The coordinator's own outputs, one shard after the other. -/
theorem openForward_own (node : TensorNode) (shards : List V4ShardOwnership)
    (hShards : ∀ shard ∈ shards, shard ∈ round.graph.shards) (pending : List UInt16)
    (outputs : Outputs) (hOutputs : ∀ shardId values, outputs[shardId]? = some values →
      OutputFrom digests round [] shardId values) :
    StageFrom digests round [] (ownOutputs digests round node shards outputs)
      (openForward digests round node shards pending outputs).stage ∧
      ∀ shardId values, (ownOutputs digests round node shards outputs)[shardId]? = some values →
        OutputFrom digests round [] shardId values := by
  induction shards generalizing pending outputs with
  | nil => exact ⟨awaitForward_own, hOutputs⟩
  | cons shard shards ih =>
    have hRest := ih (fun other hOther => hShards other (.tail _ hOther))
    rw [openForward, ownOutputs]
    split_ifs with hOwner
    · cases hLocal : localTensorForward digests usualEnv node round.graph.jobId shard.shardId
        roundInput with
      | error error => exact ⟨trivial, hOutputs⟩
      | ok output =>
        apply hRest
        intro shardId values hGet
        rcases getElem?_of_insert hGet with ⟨rfl, rfl⟩ | hGet
        · exact .computed ⟨shard, hShards shard (.head _), rfl, hOwner⟩ node hLocal
        · exact hOutputs shardId values hGet
    · exact hRest _ _ hOutputs

theorem OutputFrom.cons {values : List Int}
    (hOutput : OutputFrom digests round heard shardId values)
    (arrival : NodeId × TrainingV4Message) :
    OutputFrom digests round (arrival :: heard) shardId values := by
  cases hOutput with
  | computed hOwner node hLocal => exact .computed hOwner node hLocal
  | answered peer hOwner result hHeard hResult =>
    exact .answered peer hOwner result (.tail _ hHeard) hResult

theorem StageFrom.cons {stage : RoundStage} (hStage : StageFrom digests round heard outputs stage)
    (arrival : NodeId × TrainingV4Message) :
    StageFrom digests round (arrival :: heard) outputs stage := by
  cases stage with
  | forward pending known => exact hStage
  | backward pending loss tensors optimizers | returned result =>
    exact ⟨hStage.1, hStage.2.cons arrival⟩
  | failed error => exact trivial

/- How a message changes the round. -/
inductive MailOutcome (digests : StateDigests) (round : Round) (listening : Listening) :
    TrainingV4Message → Prop
  | output (pending : List UInt16) (known : Outputs) (result : V4TensorForwardResult)
    (hStage : listening.stage = .forward pending known)
    (hAwaited : awaited round pending result.requestId result.planGeneration result.shardId =
      true) :
    MailOutcome digests round listening (.tensorForwardResult result)
  | step (pending : List UInt16) (loss : Int) (tensors optimizers : Hashes)
    (result : V4TensorBackwardResult)
    (hStage : listening.stage = .backward pending loss tensors optimizers)
    (hAwaited : awaited round pending result.requestId result.planGeneration result.shardId =
      true) :
    MailOutcome digests round listening (.tensorBackwardResult result)
  | ignored (message : TrainingV4Message)
    (hStage : (roundMailbox digests round listening.node listening.stage message).stage =
      listening.stage)
    (hOutputs : outputsAfter round listening.outputs listening.stage message = listening.outputs) :
    MailOutcome digests round listening message

theorem mailOutcome {message : TrainingV4Message} :
    MailOutcome digests round listening message := by
  rcases listening with ⟨node, stage, outputs, heard⟩
  cases stage with
  | forward pending known =>
    cases message with
    | tensorForwardResult result =>
      by_cases hAwaited : awaited round pending result.requestId result.planGeneration
        result.shardId = true
      · exact .output pending known result rfl hAwaited
      · refine .ignored _ ?_ ?_
        · simp only [roundMailbox, if_neg hAwaited]
        · simp only [outputsAfter, if_neg hAwaited]
    | _ => exact .ignored _ rfl rfl
  | backward pending loss tensors optimizers =>
    cases message with
    | tensorBackwardResult result =>
      by_cases hAwaited : awaited round pending result.requestId result.planGeneration
        result.shardId = true
      · exact .step pending loss tensors optimizers result rfl hAwaited
      · refine .ignored _ ?_ rfl
        simp only [roundMailbox, if_neg hAwaited]
    | _ => exact .ignored _ rfl rfl
  | returned result | failed error => exact .ignored _ rfl rfl

theorem AnswersOwn.step (hOwn : AnswersOwn digests round listening) {event : RoundEvent}
    (hOwner : OwnerAnswers round listening event)
    (hStep : listenStep digests round listening event = some next) :
    AnswersOwn digests round next := by
  cases event with
  | elsewhere node => cases hStep; exact ⟨hOwn.outputs, hOwn.stage⟩
  | stop error => cases hStep; exact ⟨hOwn.outputs, trivial⟩
  | message peer message =>
    cases hStep
    have hMore : ∀ shardId values, listening.outputs[shardId]? = some values →
      OutputFrom digests round ((peer, message) :: listening.heard) shardId values :=
      fun shardId values hGet => (hOwn.outputs shardId values hGet).cons _
    have hStage := hOwn.stage
    cases mailOutcome with
    | ignored message hSame hOutputs =>
      constructor
      · rw [hOutputs]
        exact hMore
      · dsimp only
        rw [hSame, hOutputs]
        exact hStage.cons _
    | output pending known result hForward hAwaited =>
      rw [hForward] at hStage
      cases hStage
      simp only [OwnerAnswers, hForward] at hOwner
      simp only [roundMailbox, outputsAfter, hForward, if_pos hAwaited]
      refine ⟨?_, awaitForward_own⟩
      intro shardId values hGet
      rcases getElem?_of_insert hGet with ⟨rfl, rfl⟩ | hGet
      · exact .answered peer (hOwner hAwaited) result (.head _) ⟨rfl, rfl⟩
      · exact hMore shardId values hGet
    | step pending loss tensors optimizers result hBackward hAwaited =>
      rw [hBackward] at hStage
      simp only [OwnerAnswers, hBackward] at hOwner
      simp only [roundMailbox, outputsAfter, hBackward, if_pos hAwaited]
      refine ⟨hMore, awaitBackward_own hStage.1 ?_⟩
      exact (hStage.2.cons _).note (.answered peer (hOwner hAwaited) (.head _) rfl)

end

----
-- Answers of Owners
----

/-
  When the owners answer for their shards, whatever else comes
  to the mailbox, the loss, the gradients and the hashes of the
  round are theirs.
-/
theorem answers_own_of_owners (digests : StateDigests) (round : Round) (node : TensorNode)
    (events : List RoundEvent) (final : Listening)
    (hOwners : Meets (listenStep digests round) (OwnerAnswers round)
      (beginListening digests round node) events)
    (hRun : run (listenStep digests round) (beginListening digests round node) events =
      some final) :
    AnswersOwn digests round final := by
  have hBegin : AnswersOwn digests round (beginListening digests round node) := by
    rcases @openForward_own digests round node round.graph.shards (fun _ hShard => hShard) [] ∅
      (by simp) with ⟨hStage, hOutputs⟩
    exact ⟨hOutputs, hStage⟩
  exact invariant_of_run (AnswersOwn digests round)
    (fun _ _ _ hOwn hOwner hStep => hOwn.step hOwner hStep) hBegin hOwners hRun

/- An answer for shard 0, which worker 3 owns. -/
def outputAnswer (peer : NodeId) : RoundEvent :=
  .message peer (.tensorForwardResult ⟨⟨5⟩, ⟨7⟩, 1, 0, 1, [32, 32], ⟨1⟩⟩)

theorem answers_own_of_worker_three :
    ∃ final, run (listenStep modelDigests (placedRound true))
      (beginListening modelDigests (placedRound true) {}) [outputAnswer ⟨3⟩] = some final ∧
      AnswersOwn modelDigests (placedRound true) final := by
  have hOwner : Owns (placedRound true) ⟨3⟩ 0 := by
    decide +kernel
  exact ⟨_, rfl, answers_own_of_owners modelDigests (placedRound true) {} [outputAnswer ⟨3⟩] _
    ⟨fun _ => hOwner, fun _ _ => trivial⟩ rfl⟩

/- Worker 2 answers for the shard of worker 3. -/
theorem answers_own_fails_forged :
    ∃ final, run (listenStep modelDigests (placedRound true))
      (beginListening modelDigests (placedRound true) {}) [outputAnswer ⟨2⟩] = some final ∧
      final.outputs[(0 : UInt16)]? = some [32, 32] ∧
      ¬ AnswersOwn modelDigests (placedRound true) final := by
  refine ⟨_, rfl, rfl, ?_⟩
  intro hOwn
  cases hOwn.outputs 0 [32, 32] rfl with
  | computed hOwner => exact absurd hOwner (by decide +kernel)
  | answered peer hOwner result hHeard =>
    have hPeer : peer = ⟨2⟩ := by
      simpa using congrArg Prod.fst (List.mem_singleton.mp hHeard)
    subst hPeer
    exact absurd hOwner (by decide +kernel)

end IntelligenceNetwork.Tensor
