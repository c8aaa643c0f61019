import IntelligenceNetwork.Tensor.Round

/-
  What the messages of a backward pass do to the shards.

  Every shard of a round has taken the step of the round, is
  asked for once, or is asked for in vain.

  Main declarations:
    * `Taken`
    * `Progress`
    * `BackwardInv`
-/

----
-- The Start of a Round
----

namespace IntelligenceNetwork.Tensor

variable {graph : V4ExecutionGraph} {other shard : V4ShardOwnership} {plan : V4TrainingPlan}
variable {gradients values : List Int} {jobId : JobId} {next start : NodeId → TensorNode}
variable {node : TensorNode} {optimizer : Option (ArtifactId × UInt64)}
variable {planGeneration sequence : UInt64} {record stepped : V4LocalTensorShard}
variable {self target : NodeId} {shardId : UInt16} {flight rest : List TensorParcel}
variable {pending : List UInt16} {loss rateMicros : Int} {round : Round}

/- The workers have activated the graph of the round. -/
structure Activated (digests : StateDigests) (round : Round)
    (start : NodeId → TensorNode) : Prop where
  job : IntegratedJob digests round.graph round.plan
  plans : ∀ worker ∈ round.plan.workers, (start worker).plans[round.graph.jobId]? = some round.plan
  graphs : ∀ worker ∈ round.plan.workers,
    (start worker).graphs[round.graph.jobId]? = some round.graph
  keyed : ∀ id, Keyed (start id)

namespace IntegratedJob

variable {digests : StateDigests}

variable (hJob : IntegratedJob digests graph plan)
include hJob

theorem planFacts : Validation.PlanFacts plan := by
  have hOk := hJob.planOk
  rw [Frontier.planIntact, Bool.and_eq_true] at hOk
  exact Validation.planFacts_of_ok ((Validation.isOk_iff _).mp hOk.2)

/- A shard of the graph is known by its number. -/
theorem eq_of_shardId (hShard : shard ∈ graph.shards) (hOther : other ∈ graph.shards)
    (hId : shard.shardId = other.shardId) : shard = other := by
  have hNodup := hJob.planFacts.shardIds
  rw [← hJob.shards] at hNodup
  exact List.inj_on_of_nodup_map hNodup hShard hOther hId

theorem owner_mem_workers (hShard : shard ∈ graph.shards) : ownerOf shard ∈ plan.workers := by
  rw [hJob.shards] at hShard
  have hFacts := hJob.planFacts.shards shard hShard
  apply hFacts.placed
  apply List.mem_append_left
  unfold ownerOf
  rcases List.length_eq_one_iff.mp hFacts.owner with ⟨owner, hOwner⟩
  rw [hOwner]
  exact List.mem_singleton.mpr rfl

end IntegratedJob

section

variable (round : Round)

def Round.keyOf (shard : V4ShardOwnership) : ShardKey :=
  ⟨round.graph.jobId, shard.shardId⟩

section

variable (nodes : NodeId → TensorNode) (shard : V4ShardOwnership)

/- What the owner of a shard has of it. -/
def Round.recordOf : Option V4LocalTensorShard :=
  (nodes (ownerOf shard)).shards[round.keyOf shard]?

def Round.optimizerOf : Option V4LocalOptimizerState :=
  (nodes (ownerOf shard)).optimizers[round.keyOf shard]?

end

def Round.rateOf (shard : V4ShardOwnership) : Int :=
  if ownerOf shard = round.lead then localRateMicros else remoteRateMicros

end

----
-- Steps
----

section

variable (digests : StateDigests) (round : Round) (start : NodeId → TensorNode)

/- The output of a shard as it was at the start. -/
def Output (shard : V4ShardOwnership) (values : List Int) : Prop :=
  ∃ record, round.recordOf start shard = some record ∧
    matrixVector record.rows record.cols record.weights roundInput = some values

/- The owner has a shard and its optimizer as at the start. -/
def Untouched (nodes : NodeId → TensorNode) (shard : V4ShardOwnership) : Prop :=
  round.recordOf nodes shard = round.recordOf start shard ∧ round.optimizerOf nodes shard =
    round.optimizerOf start shard

/-
  The owner has taken the step of the round: before it began,
  or from the state that there was at the start.
-/
inductive Taken (nodes : NodeId → TensorNode) (shard : V4ShardOwnership) : Prop where
  | again (record : V4LocalTensorShard) (hStart : round.recordOf start shard = some record)
    (hSequence : round.sequence = record.lastSequence)
    (hUntouched : Untouched round start nodes shard)
  | stepped (record : V4LocalTensorShard) (values gradients : List Int)
    (placement : V4OptimizerPlacement) (modelGeneration : UInt64)
    (hStart : round.recordOf start shard = some record)
    (hOutput : matrixVector record.rows record.cols record.weights roundInput = some values)
    (hGradients : elementwiseMultiply record.weights
      (repeatedUpstream record.rows record.cols (outputErrors values)) = some gradients)
    (hSequence : round.sequence ≠ record.lastSequence) (hRecord : round.recordOf nodes shard =
      some (steppedShard digests (round.rateOf shard) record gradients round.sequence))
    (hOptimizer : round.optimizerOf nodes shard = some (incomingOptimizer
      (nextOptimizer digests (ownerOf shard) placement
        modelGeneration (round.optimizerOf start shard)
        round.graph.jobId round.plan.planGeneration shard.shardId gradients round.sequence)))

variable {digests round start}

/- Two states in which the owner has the same of a shard. -/
def SameAt (round : Round) (nodes next : NodeId → TensorNode) (shard : V4ShardOwnership) : Prop :=
  round.recordOf next shard = round.recordOf nodes shard ∧
    round.optimizerOf next shard = round.optimizerOf nodes shard

theorem Untouched.congr {nodes : NodeId → TensorNode}
    (hUntouched : Untouched round start nodes shard) (hSame : SameAt round nodes next shard) :
    Untouched round start next shard :=
  ⟨hSame.1.trans hUntouched.1, hSame.2.trans hUntouched.2⟩

theorem Taken.congr {nodes : NodeId → TensorNode} (hTaken : Taken digests round start nodes shard)
    (hSame : SameAt round nodes next shard) : Taken digests round start next shard := by
  cases hTaken with
  | again record hStart hSequence hUntouched =>
    exact .again record hStart hSequence (hUntouched.congr hSame)
  | stepped record values gradients placement modelGeneration
    hStart hOutput hGradients hSequence hRecord hOptimizer =>
    exact .stepped record values gradients placement
      modelGeneration hStart hOutput hGradients hSequence
      (hSame.1.trans hRecord) (hSame.2.trans hOptimizer)

/- A step that has been taken is known by its number. -/
theorem Taken.lastSequence {nodes : NodeId → TensorNode}
    (hTaken : Taken digests round start nodes shard) :
    ∃ record, round.recordOf nodes shard = some record ∧ round.sequence = record.lastSequence := by
  cases hTaken with
  | again record hStart hSequence hUntouched => exact ⟨record, hUntouched.1.trans hStart, hSequence⟩
  | stepped record values gradients placement modelGeneration
    hStart hOutput hGradients hSequence hRecord hOptimizer =>
    exact ⟨_, hRecord, rfl⟩

/- A node that changes at one key only. -/
theorem sameAt_of_touches {nodes : NodeId → TensorNode} {key : Option ShardKey}
    (hTouches : Touches key (nodes target) node)
    (hApart : key = some (round.keyOf shard) → ownerOf shard ≠ target) :
    SameAt round nodes (Function.update nodes target node)
      shard := by
  unfold SameAt Round.recordOf Round.optimizerOf
  by_cases hOwner : ownerOf shard = target
  · have hKey : some (round.keyOf shard) ≠ key := by
      intro hKey
      exact hApart hKey.symm hOwner
    rw [hOwner, Function.update_self]
    exact ⟨hTouches.shards _ hKey, hTouches.optimizers _ hKey⟩
  · rw [Function.update_of_ne hOwner]
    exact ⟨rfl, rfl⟩

theorem gradients_of_shardGradients {upstream inputGradient : List Int}
    (hTask : shardGradients usualEnv record upstream = .ok (gradients, inputGradient)) :
    elementwiseMultiply record.weights (repeatedUpstream record.rows record.cols upstream) =
      some gradients := by
  simp only [shardGradients, Validation.bind_eq_ok_iff, Except.ok.injEq, Prod.mk.injEq] at hTask
  rcases hTask with ⟨gradients', hFirst, -, -, rfl, -⟩
  generalize elementwiseMultiply record.weights
    (repeatedUpstream record.rows record.cols upstream) = values at hFirst ⊢
  cases values with
  | none => cases hFirst
  | some values =>
    cases hFirst
    rfl

theorem optimizerStep_ne_none (hGraph : node.graphs[jobId]? = some graph) :
    optimizerStep digests self node jobId planGeneration shardId gradients sequence ≠ .ok none := by
  intro hStep
  unfold optimizerStep at hStep
  rw [hGraph] at hStep
  dsimp only at hStep
  cases hPlacement : optimizerPlacement self node graph jobId shardId with
  | error error =>
    rw [hPlacement] at hStep
    cases hStep
  | ok found =>
    rw [hPlacement] at hStep
    dsimp only at hStep
    split_ifs at hStep
    cases hStep

/-
  A step of the round that succeeds, from the state at the
  start or from the state that it leaves.
-/
theorem taken_of_step {nodes : NodeId → TensorNode} {step :
    Outcome (V4LocalTensorShard × Option (ArtifactId × UInt64))}
    (hGraph : (nodes (ownerOf shard)).graphs[round.graph.jobId]? = some graph)
    (hBefore : Untouched round start nodes shard ∨ Taken digests round start nodes shard)
    (hOutput : Output round start shard values) (hRecord : round.recordOf nodes shard = some record)
    (hGradients : elementwiseMultiply record.weights
      (repeatedUpstream record.rows record.cols (outputErrors values)) = some gradients)
    (hStep : StepOutcome digests (ownerOf shard) (nodes (ownerOf shard)) (round.rateOf shard)
      round.graph.jobId round.plan.planGeneration
      shard.shardId record gradients round.sequence step)
    (hResult : step.result = .ok (stepped, optimizer)) :
    Taken digests round start (Function.update nodes (ownerOf shard) step.node)
      shard := by
  cases hStep with
  | half error hSequence _ hError =>
    rw [hResult] at hError
    cases hError
  | alone hSequence hNone hOutcome => exact absurd hNone (optimizerStep_ne_none hGraph)
  | again optimizer' hSequence hOutcome =>
    rw [hOutcome, Function.update_eq_self]
    rcases hBefore with hUntouched | hTaken
    · exact .again record (hUntouched.1.symm.trans hRecord) hSequence hUntouched
    · exact hTaken
  | both placement install hSequence hSome hOutcome =>
    rcases hBefore with hUntouched | hTaken
    · have hStart := hUntouched.1.symm.trans hRecord
      rcases hOutput with ⟨first, hFirst, hValues⟩
      rw [hFirst] at hStart
      cases hStart
      rcases (optimizerStep_some hSome).1 with ⟨modelGeneration, rfl⟩
      refine .stepped record values gradients placement
        modelGeneration hFirst hValues hGradients hSequence ?_ ?_
      · rw [Round.recordOf, Function.update_self, hOutcome]
        simp [putOptimizer, putShard, Round.keyOf]
      · rw [Round.optimizerOf, Function.update_self, hOutcome]
        have hOptimizer := hUntouched.2
        unfold Round.optimizerOf at hOptimizer
        simp only [putOptimizer, putShard]
        rw [Round.keyOf, OrderedMap.getElem?_insert, if_pos rfl, Round.optimizerOf, ← hOptimizer]
        rfl
    · rcases hTaken.lastSequence with ⟨taken, hTaken, hLast⟩
      rw [hRecord] at hTaken
      cases hTaken
      exact absurd hLast hSequence

----
-- Messages of the Backward Pass
----

open Courier (parcelsFrom)

variable (digests round start)

/- What no message of a round changes. -/
structure Kept (nodes : NodeId → TensorNode) : Prop where
  plans : ∀ id, (nodes id).plans = (start id).plans
  graphs : ∀ id, (nodes id).graphs = (start id).graphs
  keyed : ∀ id, Keyed (nodes id)

/- A request for a step of the shard. -/
def asksFor (shardId : UInt16) (parcel : TensorParcel) : Bool :=
  match parcel.message with
  | .tensorBackward backward => backward.shardId == shardId
  | _ => false

/-
  The messages of the backward pass: requests to the owners,
  answers of shards that have stepped, and what does not reach
  the owner of the shard that it is about.
-/
inductive Fits (nodes : NodeId → TensorNode) : TensorParcel → Prop where
  | request (shard : V4ShardOwnership) (values : List Int) (hShard : shard ∈ round.graph.shards)
    (hRemote : ownerOf shard ≠ round.lead) (hOutput : Output round start shard values) :
    Fits nodes (round.requestParcel shard values)
  | answer (sender target : NodeId) (result : V4TensorBackwardResult)
    (hTaken : ∀ shard ∈ round.graph.shards, shard.shardId = result.shardId →
      Taken digests round start nodes shard) :
    Fits nodes ⟨sender, target, .tensorBackwardResult result⟩
  | apart (parcel : TensorParcel) (hRequest : ∀ backward, parcel.message ≠ .tensorBackward backward)
    (hAnswer : ∀ result, parcel.message ≠ .tensorBackwardResult result)
    (hApart : ∀ shard ∈ round.graph.shards, messageKey parcel.message = some (round.keyOf shard) →
      ownerOf shard ≠ parcel.target) :
    Fits nodes parcel

/-
  How far a shard is: stepped, asked for once, or asked for in
  vain.
-/
inductive Progress (pending : List UInt16) (nodes : NodeId → TensorNode)
    (flight : List TensorParcel) (shard : V4ShardOwnership) : Prop where
  | taken (hTaken : Taken digests round start nodes shard)
  | asked (hPending : shard.shardId ∈ pending) (hUntouched : Untouched round start nodes shard)
    (hOnce : flight.countP (asksFor shard.shardId) ≤ 1)
  | lost (hPending : shard.shardId ∈ pending) (hNone : flight.countP (asksFor shard.shardId) ≤ 0)

/- The loss is that of the shards at the start. -/
def LossOf (loss : Int) : Prop :=
  ∃ outputs : UInt16 → List Int,
    (∀ shard ∈ round.graph.shards, Output round start shard (outputs shard.shardId)) ∧ loss =
      (round.graph.shards.map (fun shard =>
        sumSquares (outputErrors (outputs shard.shardId)))).sum

structure BackwardInv (pending : List UInt16) (loss : Int) (nodes : NodeId → TensorNode)
    (flight : List TensorParcel) : Prop where
  kept : Kept start nodes
  loss : LossOf round start loss
  fits : ∀ parcel ∈ flight, Fits digests round start nodes parcel
  progress : ∀ shard ∈ round.graph.shards, Progress digests round start pending nodes flight shard

variable {digests round start}

theorem Kept.update {nodes : NodeId → TensorNode} {key : Option ShardKey}
    (hKept : Kept start nodes) (hTouches : Touches key (nodes target) node) :
    Kept start (Function.update nodes target node) := by
  constructor
  · intro id
    by_cases hId : id = target
    · rw [hId, Function.update_self, hTouches.plans, hKept.plans]
    · rw [Function.update_of_ne hId, hKept.plans]
  · intro id
    by_cases hId : id = target
    · rw [hId, Function.update_self, hTouches.graphs, hKept.graphs]
    · rw [Function.update_of_ne hId, hKept.graphs]
  · intro id
    by_cases hId : id = target
    · rw [hId, Function.update_self]
      exact hTouches.keyed (hKept.keyed target)
    · rw [Function.update_of_ne hId]
      exact hKept.keyed id

theorem Fits.mono {nodes : NodeId → TensorNode} {parcel : TensorParcel}
    (hFits : Fits digests round start nodes parcel)
    (hTaken : ∀ shard ∈ round.graph.shards, Taken digests round start nodes shard →
      Taken digests round start next shard) : Fits digests round start next parcel := by
  cases hFits with
  | request shard values hShard hRemote hOutput =>
    exact .request shard values hShard hRemote hOutput
  | answer sender target result hBefore =>
    refine .answer sender target result ?_
    intro shard hShard hId
    exact hTaken shard hShard (hBefore shard hShard hId)
  | apart parcel hRequest hAnswer hApart => exact .apart parcel hRequest hAnswer hApart

/- A reply is of no shard. -/
theorem Fits.of_reply {nodes : NodeId → TensorNode} {parcel : TensorParcel}
    (hReply : isReply parcel.message = true) : Fits digests round start nodes parcel := by
  rcases parcel with ⟨sender, target, message⟩
  refine .apart _ ?_ ?_ ?_
  · rintro backward rfl
    cases hReply
  · rintro result rfl
    cases hReply
  · intro shard _ hKey
    cases message <;> cases hReply <;> cases hKey

theorem Progress.mono {pending' : List UInt16} {nodes : NodeId → TensorNode}
    {flight' : List TensorParcel}
    (hProgress : Progress digests round start pending nodes flight shard)
    (hPending : shard.shardId ∈ pending → shard.shardId ∈ pending')
    (hSame : SameAt round nodes next shard)
    (hCount : flight'.countP (asksFor shard.shardId) ≤ flight.countP (asksFor shard.shardId)) :
    Progress digests round start pending' next flight'
      shard := by
  cases hProgress with
  | taken hTaken => exact .taken (hTaken.congr hSame)
  | asked hHere hUntouched hOnce =>
    exact .asked (hPending hHere) (hUntouched.congr hSame) (hCount.trans hOnce)
  | lost hHere hNone => exact .lost (hPending hHere) (hCount.trans hNone)

theorem asksFor_eq_false {parcel : TensorParcel}
    (hMessage : ∀ backward, parcel.message ≠ .tensorBackward backward) :
    asksFor shardId parcel = false := by
  unfold asksFor
  split
  next backward hBackward =>
    exact absurd hBackward (hMessage backward)
  · rfl

/- Where there is no request among the messages. -/
theorem countP_asksFor_parcelsFrom (shardId : UInt16) (sender : NodeId)
    (sends : List (NodeId × TrainingV4Message))
    (hSends : ∀ send ∈ sends, ∀ backward, send.2 ≠ .tensorBackward backward) :
    (parcelsFrom sender sends).countP (asksFor shardId) = 0 := by
  rw [List.countP_eq_zero]
  intro parcel hParcel
  rw [Courier.mem_parcelsFrom_iff] at hParcel
  rw [asksFor_eq_false (hSends _ hParcel.2)]
  exact Bool.false_ne_true

end

----
-- Handlers in the Backward Pass
----

section

open Courier (parcelsFrom)

variable {digests : StateDigests} {nodes : NodeId → TensorNode} {parcel : TensorParcel}

section

variable (digests : StateDigests) (nodes : NodeId → TensorNode) (parcel : TensorParcel)

/- The nodes after a message has been handled. -/
def nodesAfter : NodeId → TensorNode :=
  Function.update nodes parcel.target
    (handleMessage digests parcel.target (nodes parcel.target) parcel.sender parcel.message).node

/- What a handler sends. -/
def sendsAfter : List TensorParcel :=
  parcelsFrom parcel.target
    (handleMessage digests parcel.target (nodes parcel.target) parcel.sender parcel.message).sends

end

theorem Kept.nodesAfter (hKept : Kept start nodes) (parcel : TensorParcel) :
    Kept start (Tensor.nodesAfter digests nodes parcel) :=
  hKept.update (handleMessage_touches digests parcel.target _ (hKept.keyed parcel.target))

theorem sameAt_nodesAfter (hKeyed : Keyed (nodes parcel.target))
    (hApart : messageKey parcel.message = some (round.keyOf shard) →
      ownerOf shard ≠ parcel.target) :
    SameAt round nodes (nodesAfter digests nodes parcel)
      shard :=
  sameAt_of_touches (handleMessage_touches digests parcel.target _ hKeyed) hApart

/- A message that is no request takes no requests along. -/
theorem countP_rest_le (hPerm : flight.Perm (parcel :: rest)) {sends : List TensorParcel}
    (hSends : sends.countP (asksFor shardId) = 0) :
    (rest ++ sends).countP (asksFor shardId) ≤ flight.countP (asksFor shardId) := by
  rw [hPerm.countP_eq, List.countP_append, hSends, List.countP_cons]
  omega

/-
  A message that does not reach the owner of its shard leaves
  every shard of the round where it is.
-/
theorem BackwardInv.apart (hInv : BackwardInv digests round start pending loss nodes flight)
    (hPerm : flight.Perm (parcel :: rest))
    (hRequest : ∀ backward, parcel.message ≠ .tensorBackward backward)
    (hApart : ∀ shard ∈ round.graph.shards, messageKey parcel.message = some (round.keyOf shard) →
      ownerOf shard ≠ parcel.target) :
    BackwardInv digests round start pending loss (nodesAfter digests nodes parcel)
      (rest ++ sendsAfter digests nodes parcel) ∧
      ∀ shard ∈ round.graph.shards, Taken digests round start nodes shard →
        Taken digests round start (nodesAfter digests nodes parcel) shard := by
  have hReplies := (handleMessage_answered digests parcel.target
    parcel.sender (hInv.kept.keyed parcel.target) hRequest).replies
  have hSame : ∀ shard ∈ round.graph.shards, SameAt round nodes (nodesAfter digests nodes parcel)
    shard := by
    intro shard hShard
    exact sameAt_nodesAfter (hInv.kept.keyed parcel.target) (hApart shard hShard)
  have hTaken : ∀ shard ∈ round.graph.shards, Taken digests round start nodes shard →
    Taken digests round start (nodesAfter digests nodes parcel) shard := by
    intro shard hShard hBefore
    exact hBefore.congr (hSame shard hShard)
  refine ⟨⟨hInv.kept.nodesAfter parcel, hInv.loss, ?_, ?_⟩, hTaken⟩
  · intro other hOther
    rcases List.mem_append.mp hOther with hRest | hSent
    · have hFlight : other ∈ flight := hPerm.mem_iff.mpr (List.mem_cons_of_mem parcel hRest)
      exact (hInv.fits other hFlight).mono hTaken
    · rw [sendsAfter, Courier.mem_parcelsFrom_iff] at hSent
      exact .of_reply (hReplies _ hSent.2).2
  · intro shard hShard
    refine (hInv.progress shard hShard).mono id (hSame shard hShard) ?_
    apply countP_rest_le hPerm
    apply countP_asksFor_parcelsFrom
    rintro send hSend backward hBackward
    have hReply := (hReplies send hSend).2
    rw [hBackward] at hReply
    cases hReply

/- What the owner of a shard sends to others is not for it. -/
theorem Fits.of_copy (hJob : IntegratedJob digests round.graph round.plan)
    (hShard : shard ∈ round.graph.shards)
    (hRequest : ∀ backward, parcel.message ≠ .tensorBackward backward)
    (hAnswer : ∀ result, parcel.message ≠ .tensorBackwardResult result)
    (hKey : messageKey parcel.message = some (round.keyOf shard))
    (hTarget : parcel.target ≠ ownerOf shard) : Fits digests round start nodes parcel := by
  refine .apart parcel hRequest hAnswer ?_
  intro other hOther hSame
  rw [hKey] at hSame
  have hId : shard.shardId = other.shardId := by
    have hKeys := Option.some.inj hSame
    exact (ShardKey.mk.injEq .. ▸ hKeys).2
  rw [← hJob.eq_of_shardId hShard hOther hId]
  exact hTarget.symm

end

----
-- Requests
----

open Courier (parcelsFrom)

variable {digests : StateDigests} {nodes : NodeId → TensorNode}

section

variable {step : Outcome (V4LocalTensorShard × Option (ArtifactId × UInt64))}
  (hStep : StepOutcome digests self node rateMicros jobId
    planGeneration shardId record gradients sequence step)

include hStep

/- A step sends optimizer states, and not to itself. -/
theorem StepOutcome.sends (send : NodeId × TrainingV4Message) (hSend : send ∈ step.sends) :
    send.1 ≠ self ∧ ∃ install, send.2 = .optimizerStateInstall install ∧
      install.jobId = jobId ∧ install.shardId = shardId := by
  cases hStep with
  | again optimizer hSequence hOutcome =>
    rw [hOutcome] at hSend
    cases hSend
  | half error hSequence hSends _ =>
    rw [hSends] at hSend
    cases hSend
  | alone hSequence _ hOutcome =>
    rw [hOutcome] at hSend
    cases hSend
  | both placement install _ hSome hOutcome =>
    rw [hOutcome] at hSend
    simp only [optimizerCopies, List.mem_map, List.mem_filter, bne_iff_ne] at hSend
    rcases hSend with ⟨replica, ⟨-, hOther⟩, rfl⟩
    rcases (optimizerStep_some hSome).1 with ⟨model, rfl⟩
    exact ⟨hOther, _, rfl, rfl, rfl⟩

/- The shard that a step returns is the same part. -/
theorem StepOutcome.key (hResult : step.result = .ok (stepped, optimizer)) :
    stepped.key = record.key := by
  cases hStep with
  | half error hSequence _ hError =>
    rw [hError] at hResult
    cases hResult
  | again optimizer hSequence hOutcome =>
    rw [hOutcome] at hResult
    cases hResult
    rfl
  | alone hSequence _ hOutcome | both placement install hSequence hSome hOutcome =>
    rw [hOutcome] at hResult
    cases hResult
    rfl

end

theorem mem_shardCopies {shard : V4LocalTensorShard} {send : NodeId × TrainingV4Message}
    (hSend : send ∈ shardCopies self usualEnv plan shard) :
    send.1 ≠ self ∧ ∃ ownership, plan.shards.find? (·.shardId == shard.shardId) = some ownership ∧
      send.1 ∈ ownership.replicas ∧
      send.2 = .tensorReplica (replicaOf self shard ownership) := by
  unfold shardCopies at hSend
  cases hOwnership : plan.shards.find? (·.shardId == shard.shardId) with
  | none =>
    rw [hOwnership] at hSend
    cases hSend
  | some ownership =>
    rw [hOwnership] at hSend
    simp only [List.mem_map, List.mem_filter, Bool.and_eq_true, bne_iff_ne] at hSend
    rcases hSend with ⟨replica, ⟨hReplica, hOther, -⟩, rfl⟩
    exact ⟨hOther, ownership, rfl, hReplica, rfl⟩

/- Different shards of a round have different keys. -/
theorem keyOf_ne (hJob : IntegratedJob digests round.graph round.plan)
    (hShard : shard ∈ round.graph.shards) (hOther : other ∈ round.graph.shards)
    (hNe : other ≠ shard) : some (round.keyOf shard) ≠ some (round.keyOf other) := by
  intro hKeys
  apply hNe
  apply hJob.eq_of_shardId hOther hShard
  exact (congrArg ShardKey.shardId (Option.some.inj hKeys)).symm

/- A request finds its shard as at the start, or stepped. -/
theorem before_request (hInv : BackwardInv digests round start pending loss nodes flight)
    (hShard : shard ∈ round.graph.shards)
    (hPerm : flight.Perm (round.requestParcel shard values :: rest)) :
    Untouched round start nodes shard ∧ rest.countP (asksFor shard.shardId) ≤ 0 ∧
      shard.shardId ∈ pending ∨
      Taken digests round start nodes shard := by
  have hAsks : asksFor shard.shardId (round.requestParcel shard values) = true :=
    beq_self_eq_true shard.shardId
  have hCount : flight.countP (asksFor shard.shardId) =
    rest.countP (asksFor shard.shardId) + 1 := by
    rw [hPerm.countP_eq, List.countP_cons, if_pos hAsks]
  cases hInv.progress shard hShard with
  | taken hTaken => exact Or.inr hTaken
  | asked hPending hUntouched _ => exact Or.inl ⟨hUntouched, by omega, hPending⟩
  | lost _ _ => omega

theorem nodesAfter_request (shard : V4ShardOwnership) (values : List Int) :
    nodesAfter digests nodes (round.requestParcel shard values) =
      Function.update nodes (ownerOf shard)
        (receiveTensorBackward digests (ownerOf shard) usualEnv (nodes (ownerOf shard)) round.lead
          (round.backwardRequest shard (outputErrors values))).node :=
  rfl

theorem sendsAfter_request (shard : V4ShardOwnership) (values : List Int) :
    sendsAfter digests nodes (round.requestParcel shard values) = parcelsFrom (ownerOf shard)
      (receiveTensorBackward digests (ownerOf shard) usualEnv (nodes (ownerOf shard)) round.lead
        (round.backwardRequest shard (outputErrors values))).sends :=
  rfl

/- A request that is refused does not undo a step. -/
theorem Taken.refused (hTaken : Taken digests round start nodes shard) (hNode :
    (receiveTensorBackward digests (ownerOf shard) usualEnv (nodes (ownerOf shard)) round.lead
      (round.backwardRequest shard (outputErrors values))).node = nodes (ownerOf shard) ∨
      ∃ record, round.recordOf nodes shard = some record ∧ round.sequence ≠ record.lastSequence) :
    Taken digests round start
      (nodesAfter digests nodes (round.requestParcel shard values)) shard := by
  rcases hNode with hNode | ⟨record, hRecord, hSequence⟩
  · rw [nodesAfter_request, hNode, Function.update_eq_self]
    exact hTaken
  · rcases hTaken.lastSequence with ⟨taken, hTaken, hLast⟩
    rw [hRecord] at hTaken
    cases hTaken
    exact absurd hLast hSequence

section

variable {message : TrainingV4Message}
variable (hJob : IntegratedJob digests round.graph round.plan) (hShard : shard ∈ round.graph.shards)
include hJob hShard

/- The copies of an optimizer state that a step sends. -/
theorem fits_of_step_send {step : Outcome (V4LocalTensorShard × Option (ArtifactId × UInt64))}
    (hStep : StepOutcome digests (ownerOf shard) node rateMicros round.graph.jobId planGeneration
      shard.shardId record gradients sequence step) (hSend : (target, message) ∈ step.sends) :
    Fits digests round start nodes ⟨self, target, message⟩ ∧
      ∀ backward, message ≠ .tensorBackward backward := by
  rcases hStep.sends _ hSend with ⟨hTarget, install, hMessage, hJobId, hShardId⟩
  subst hMessage
  refine ⟨?_, by intro backward hBackward; cases hBackward⟩
  refine .of_copy hJob hShard (by intro backward hBackward; cases hBackward)
    (by intro result hResult; cases hResult) ?_ hTarget
  rw [messageKey, hJobId, hShardId]
  rfl

/- The copies of a shard that its owner sends. -/
theorem fits_of_shard_copy (hKey : stepped.key = round.keyOf shard)
    (hSend : (target, message) ∈ shardCopies (ownerOf shard) usualEnv plan stepped) :
    Fits digests round start nodes ⟨self, target, message⟩ ∧
      ∀ backward, message ≠ .tensorBackward backward := by
  rcases mem_shardCopies hSend with ⟨hTarget, ownership, -, -, hMessage⟩
  subst hMessage
  refine ⟨?_, by intro backward hBackward; cases hBackward⟩
  exact .of_copy hJob hShard (by intro backward hBackward; cases hBackward)
    (by intro result hResult; cases hResult) (congrArg some hKey) hTarget

end

variable (hActive : Activated digests round start)
  (hInv : BackwardInv digests round start pending loss nodes flight)
  (hShard : shard ∈ round.graph.shards) (hRemote : ownerOf shard ≠ round.lead)
  (hOutput : Output round start shard values)
  (hPerm : flight.Perm (round.requestParcel shard values :: rest))

include hActive hInv hShard hRemote hOutput hPerm

/-
  If a request is answered the shard has stepped, and otherwise
  nobody will ask again.
-/
theorem progress_of_request :
    (Taken digests round start nodes shard → Taken digests round start
      (nodesAfter digests nodes (round.requestParcel shard values)) shard) ∧
      Progress digests round start pending
        (nodesAfter digests nodes (round.requestParcel shard values)) rest shard ∧
      ∀ other ∈ sendsAfter digests nodes (round.requestParcel shard values),
        Fits digests round start
          (nodesAfter digests nodes (round.requestParcel shard values)) other ∧
          ∀ backward, other.message ≠ .tensorBackward backward := by
  have hBefore := before_request hInv hShard hPerm
  have hKeyed := hInv.kept.keyed (ownerOf shard)
  cases receiveTensorBackward_outcome digests (ownerOf shard) hKeyed with
  | refused hSends hNode =>
    refine ⟨fun hTaken => hTaken.refused hNode, ?_, ?_⟩
    · rcases hBefore with ⟨-, hRest, hPending⟩ | hTaken
      · exact .lost hPending hRest
      · exact .taken (hTaken.refused hNode)
    · intro other hOther
      rw [sendsAfter_request, hSends] at hOther
      cases hOther
  | answered plan record stepped gradients inputGradient
    optimizer step hGradients hStep hResult hNode hSends =>
    rcases backwardGradients_shard digests (ownerOf shard) hGradients with ⟨hRecord, hTask, -⟩
    have hGraph : (nodes (ownerOf shard)).graphs[round.graph.jobId]? = some round.graph := by
      rw [hInv.kept.graphs]
      exact hActive.graphs _ (hActive.job.owner_mem_workers hShard)
    have hRate : round.rateOf shard = remoteRateMicros := by
      rw [Round.rateOf, if_neg hRemote]
    have hTaken : Taken digests round start
      (nodesAfter digests nodes (round.requestParcel shard values)) shard := by
      rw [nodesAfter_request, hNode]
      refine taken_of_step hGraph (hBefore.imp_left And.left) hOutput hRecord
        (gradients_of_shardGradients hTask) ?_ hResult
      rw [hRate]
      exact hStep
    refine ⟨fun _ => hTaken, .taken hTaken, ?_⟩
    intro other hOther
    rw [sendsAfter_request, Courier.mem_parcelsFrom_iff, hSends, List.mem_append, List.mem_append,
      List.mem_singleton] at hOther
    rcases other with ⟨sender, target, message⟩
    rcases hOther.2 with hCopy | hCopy | hAnswer
    · exact fits_of_step_send hActive.job hShard hStep hCopy
    · exact fits_of_shard_copy hActive.job hShard
        ((hStep.key hResult).trans (hKeyed _ record hRecord)) hCopy
    · cases hAnswer
      refine ⟨?_, by intro backward hBackward; cases hBackward⟩
      refine .answer _ _ _ ?_
      intro other hOther hId
      rw [hActive.job.eq_of_shardId hOther hShard hId]
      exact hTaken

/- A request leaves the other shards where they are. -/
theorem BackwardInv.request :
    BackwardInv digests round start pending loss
      (nodesAfter digests nodes (round.requestParcel shard values))
      (rest ++ sendsAfter digests nodes (round.requestParcel shard values)) := by
  rcases progress_of_request hActive hInv hShard hRemote hOutput
    hPerm with ⟨hKeeps, hProgress, hSends⟩
  have hSame : ∀ other ∈ round.graph.shards, other ≠ shard → SameAt round nodes
    (nodesAfter digests nodes (round.requestParcel shard values)) other := by
    intro other hOther hNe
    apply sameAt_nodesAfter (hInv.kept.keyed (ownerOf shard))
    intro hKey
    exact absurd hKey (keyOf_ne hActive.job hShard hOther hNe)
  have hTaken : ∀ other ∈ round.graph.shards, Taken digests round start nodes other →
    Taken digests round start
      (nodesAfter digests nodes (round.requestParcel shard values)) other := by
    intro other hOther hBefore
    by_cases hNe : other = shard
    · rw [hNe] at hBefore ⊢
      exact hKeeps hBefore
    · exact hBefore.congr (hSame other hOther hNe)
  have hNone : ∀ shardId, (sendsAfter digests nodes (round.requestParcel shard values)).countP
    (asksFor shardId) = 0 := by
    intro shardId
    apply countP_asksFor_parcelsFrom
    rintro send hSend backward hBackward
    have hParcel := (Courier.mem_parcelsFrom_iff _ ⟨ownerOf shard, send.1, send.2⟩).mpr ⟨rfl, hSend⟩
    exact (hSends _ hParcel).2 backward hBackward
  refine ⟨hInv.kept.nodesAfter _, hInv.loss, ?_, ?_⟩
  · intro other hOther
    rcases List.mem_append.mp hOther with hRest | hSent
    · have hFlight : other ∈ flight := hPerm.mem_iff.mpr (List.mem_cons_of_mem _ hRest)
      exact (hInv.fits other hFlight).mono hTaken
    · exact (hSends other hSent).1
  · intro other hOther
    by_cases hNe : other = shard
    · rw [hNe]
      refine hProgress.mono id ⟨rfl, rfl⟩ ?_
      rw [List.countP_append, hNone, Nat.add_zero]
    · exact (hInv.progress other hOther).mono id (hSame other hOther hNe)
        (countP_rest_le hPerm (hNone _))

end IntelligenceNetwork.Tensor
