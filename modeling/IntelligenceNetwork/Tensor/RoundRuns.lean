import IntelligenceNetwork.Tensor.RoundSteps

/-
  What a round has done whenever it returns.

  No node changes before the backward pass; and where the
  coordinator has all answers, every shard has taken the step
  of the round.

  Main declarations:
    * `RoundInv`
    * `roundStep_inv`
    * `taken_of_returned`
-/

----
-- The Backward Pass
----

namespace IntelligenceNetwork.Tensor

variable {flight rest : List TensorParcel} {loss : Int} {nodes : NodeId → TensorNode}
variable {pending : List UInt16} {todo : List V4ShardOwnership} {values : List Int}
variable {net : TensorNet RoundStage} {outputs : Outputs} {node : TensorNode}
variable {parcel : TensorParcel} {shardId : UInt16}

section

open Courier (parcelsFrom)

variable (digests : StateDigests) (round : Round) (start : NodeId → TensorNode)

/- The coordinator goes through the shards of the graph. -/
structure OpeningInv (todo : List V4ShardOwnership) (pending : List UInt16) (loss : Int)
    (nodes : NodeId → TensorNode) (flight : List TensorParcel) : Prop where
  kept : Kept start nodes
  loss : LossOf round start loss
  fits : ∀ parcel ∈ flight, Fits digests round start nodes parcel
  ahead : ∀ shard ∈ todo, Untouched round start nodes shard ∧
    flight.countP (asksFor shard.shardId) = 0
  progress : ∀ shard ∈ round.graph.shards, shard ∈ todo ∨
    Progress digests round start pending nodes flight shard

variable {digests round start}

variable {shard : V4ShardOwnership}
  (hInv : OpeningInv digests round start (shard :: todo) pending loss nodes flight)
  (hTodo : ∀ other ∈ shard :: todo, other ∈ round.graph.shards) (hNodup : shard ∉ todo)

include hInv hTodo hNodup

/-
  The coordinator changes its own node at the key of the next
  shard, and the rest of what it does fits.
-/
theorem OpeningInv.advance (hJob : IntegratedJob digests round.graph round.plan)
    (pending' : List UInt16) (node : TensorNode) (sent : List TensorParcel)
    (hTouches : Touches (some (round.keyOf shard)) (nodes round.lead) node)
    (hPending : ∀ shardId ∈ pending, shardId ∈ pending')
    (hSent : ∀ parcel ∈ sent, Fits digests round start
      (Function.update nodes round.lead node) parcel ∧
      ∀ other ∈ round.graph.shards, other ≠ shard → asksFor other.shardId parcel = false)
    (hTaken : Taken digests round start nodes shard → Taken digests round start
      (Function.update nodes round.lead node) shard)
    (hProgress : Progress digests round start pending' (Function.update nodes round.lead node)
      (flight ++ sent) shard) :
    OpeningInv digests round start todo pending' loss (Function.update nodes round.lead node)
      (flight ++ sent) := by
  have hShard := hTodo shard List.mem_cons_self
  have hSame : ∀ other ∈ round.graph.shards, other ≠ shard → SameAt round nodes
    (Function.update nodes round.lead node) other := by
    intro other hOther hNe
    apply sameAt_of_touches hTouches
    intro hKey
    exact absurd hKey (keyOf_ne hJob hShard hOther hNe)
  have hCount : ∀ other ∈ round.graph.shards, other ≠ shard →
    (flight ++ sent).countP (asksFor other.shardId) = flight.countP (asksFor other.shardId) := by
    intro other hOther hNe
    have hNone : sent.countP (asksFor other.shardId) = 0 := by
      rw [List.countP_eq_zero]
      intro parcel hParcel
      rw [(hSent parcel hParcel).2 other hOther hNe]
      exact Bool.false_ne_true
    rw [List.countP_append, hNone, Nat.add_zero]
  have hKeeps : ∀ other ∈ round.graph.shards, Taken digests round start nodes other →
    Taken digests round start (Function.update nodes round.lead node) other := by
    intro other hOther hBefore
    by_cases hNe : other = shard
    · rw [hNe] at hBefore ⊢
      exact hTaken hBefore
    · exact hBefore.congr (hSame other hOther hNe)
  refine ⟨hInv.kept.update hTouches, hInv.loss, ?_, ?_, ?_⟩
  · intro parcel hParcel
    rcases List.mem_append.mp hParcel with hFlight | hHere
    · exact (hInv.fits parcel hFlight).mono hKeeps
    · exact (hSent parcel hHere).1
  · intro other hOther
    have hNe : other ≠ shard := by
      rintro rfl
      exact hNodup hOther
    have hMem := List.mem_cons_of_mem shard hOther
    rcases hInv.ahead other hMem with ⟨hUntouched, hNone⟩
    have hGraph := hTodo other hMem
    refine ⟨hUntouched.congr (hSame other hGraph hNe), ?_⟩
    rw [hCount other hGraph hNe, hNone]
  · intro other hOther
    by_cases hNe : other = shard
    · right
      rw [hNe]
      exact hProgress
    · rcases hInv.progress other hOther with hMem | hOld
      · left
        exact (List.mem_cons.mp hMem).resolve_left hNe
      · right
        exact hOld.mono (hPending other.shardId) (hSame other hOther hNe)
          (hCount other hOther hNe).le

/- The coordinator steps a shard of its own. -/
theorem OpeningInv.localStep {step : Outcome V4TensorBackwardResult}
    {result : V4TensorBackwardResult} (hActive : Activated digests round start)
    (hLocal : ownerOf shard = round.lead) (hOutput : Output round start shard values)
    (hStep : localTensorBackward digests round.lead usualEnv (nodes round.lead) round.graph.jobId
      round.plan.planGeneration shard round.sequence
      roundInput (outputErrors values) = step) (hResult : step.result = .ok result) :
    OpeningInv digests round start todo pending loss (Function.update nodes round.lead step.node)
      (flight ++ parcelsFrom round.lead step.sends) := by
  have hShard := hTodo shard List.mem_cons_self
  have hTouches : Touches (some (round.keyOf shard)) (nodes round.lead)
    step.node := by
    rw [← hStep]
    exact localTensorBackward_touches (hInv.kept.keyed round.lead)
  rcases localTensorBackward_cases digests round.lead with
    ⟨error, hError⟩ | ⟨record, gradients, inputGradient, taken, stepped,
      optimizer, hGradients, hTaken, hOk, hNode, hSends⟩
  · rw [hStep, hResult] at hError
    cases hError
  · rw [hStep] at hNode hSends
    rcases localBackwardGradients_shard hGradients with ⟨hRecord, hTask, -⟩
    have hUntouched := (hInv.ahead shard List.mem_cons_self).1
    have hGraph : (nodes (ownerOf shard)).graphs[round.graph.jobId]? = some round.graph := by
      rw [hInv.kept.graphs]
      exact hActive.graphs _ (hActive.job.owner_mem_workers hShard)
    have hRate : round.rateOf shard = localRateMicros := by
      rw [Round.rateOf, if_pos hLocal]
    rw [← hRate, ← hLocal] at hTaken
    rw [← hLocal] at hRecord
    have hAfter : Taken digests round start (Function.update nodes round.lead step.node)
      shard := by
      rw [hNode, ← hLocal]
      exact taken_of_step hGraph (Or.inl hUntouched) hOutput
        hRecord (gradients_of_shardGradients hTask) hTaken hOk
    refine hInv.advance hTodo hNodup hActive.job pending step.node _ hTouches
      (fun _ => id) ?_ (fun _ => hAfter) (.taken hAfter)
    rintro ⟨sender, target, message⟩ hParcel
    rw [Courier.mem_parcelsFrom_iff, hSends] at hParcel
    rcases fits_of_step_send hActive.job hShard hTaken hParcel.2 with ⟨hFits, hMessage⟩
    refine ⟨hFits, ?_⟩
    intro other _ _
    exact asksFor_eq_false hMessage

/- The coordinator asks the owner of a shard. -/
theorem OpeningInv.ask (hJob : IntegratedJob digests round.graph round.plan)
    (hRemote : ownerOf shard ≠ round.lead) (hOutput : Output round start shard values) :
    OpeningInv digests round start todo (shard.shardId :: pending) loss nodes
      (flight ++ [round.requestParcel shard values]) := by
  have hShard := hTodo shard List.mem_cons_self
  rcases hInv.ahead shard List.mem_cons_self with ⟨hUntouched, hNone⟩
  have hIdle : Function.update nodes round.lead (nodes round.lead) = nodes :=
    Function.update_eq_self round.lead nodes
  have hAdvance := hInv.advance hTodo hNodup hJob (shard.shardId :: pending) (nodes round.lead)
    [round.requestParcel shard values] (.refl _ _) (fun _ => List.mem_cons_of_mem _)
  rw [hIdle] at hAdvance
  apply hAdvance
  · intro parcel hParcel
    rw [List.mem_singleton.mp hParcel]
    refine ⟨.request shard values hShard hRemote hOutput, ?_⟩
    intro other hOther hNe
    apply beq_eq_false_iff_ne.mpr
    intro hId
    exact hNe (hJob.eq_of_shardId hOther hShard hId.symm)
  · exact id
  · refine .asked List.mem_cons_self hUntouched ?_
    rw [List.countP_append, hNone, Nat.zero_add]
    exact List.countP_le_length

end

----
-- Rounds of Both Passes
----

section

variable (digests : StateDigests) (round : Round) (start : NodeId → TensorNode)

/- The messages of the forward pass. -/
inductive ForwardFits : TensorParcel → Prop where
  | request (shard : V4ShardOwnership) (hShard : shard ∈ round.graph.shards) :
    ForwardFits ⟨round.lead, ownerOf shard, .tensorForward (round.forwardRequest shard)⟩
  | answer (sender target : NodeId) (result : V4TensorForwardResult)
    (hOutput : ∀ shard ∈ round.graph.shards, shard.shardId = result.shardId →
      Output round start shard result.output) :
    ForwardFits ⟨sender, target, .tensorForwardResult result⟩

/- No node changes, and outputs are those of the start. -/
structure ForwardInv (todo : List V4ShardOwnership) (pending : List UInt16) (outputs : Outputs)
    (nodes : NodeId → TensorNode) (flight : List TensorParcel) : Prop where
  same : nodes = start
  fits : ∀ parcel ∈ flight, ForwardFits round start parcel
  progress : ∀ shard ∈ round.graph.shards, shard ∈ todo ∨ shard.shardId ∈ pending ∨
    ∃ values, outputs[shard.shardId]? = some values ∧ Output round start shard values

/- What holds wherever a round is. -/
def RoundInv (net : TensorNet RoundStage) : Prop :=
  match net.stage with
  | .forward pending outputs => ForwardInv round start [] pending outputs net.nodes net.flight
  | .backward pending loss _ _ => BackwardInv digests round start pending loss net.nodes net.flight
  | .returned result =>
    ∃ loss, result.loss = max 0 (min loss Saturating.maxI64) ∧
      BackwardInv digests round start [] loss net.nodes net.flight
  | .failed _ => True

variable {digests round start}

theorem awaitBackward_inv {tensorHashes optimizerHashes : Hashes}
    (hInv : BackwardInv digests round start pending loss net.nodes net.flight) :
    RoundInv digests round start (net.move round.lead
      (awaitBackward round (net.nodes round.lead) pending loss
        tensorHashes optimizerHashes)) := by
  unfold awaitBackward
  cases pending with
  | nil =>
    rw [if_pos List.isEmpty_nil, Courier.Net.move_idle]
    exact ⟨loss, rfl, hInv⟩
  | cons shardId pending =>
    rw [if_neg (by simp), Courier.Net.move_idle]
    exact hInv

theorem OpeningInv.backward (hInv : OpeningInv digests round start [] pending loss nodes flight) :
    BackwardInv digests round start pending loss nodes flight := by
  refine ⟨hInv.kept, hInv.loss, hInv.fits, ?_⟩
  intro shard hShard
  exact (hInv.progress shard hShard).resolve_left List.not_mem_nil

/- Every shard of the graph is known to have an output. -/
def Complete (round : Round) (start : NodeId → TensorNode) (outputs : Outputs) : Prop :=
  ∀ shard ∈ round.graph.shards, ∃ values, outputs[shard.shardId]? = some values ∧
    Output round start shard values

theorem backwardFrom_inv (hActive : Activated digests round start)
    (hOutputs : Complete round start outputs) (hTodo : ∀ other ∈ todo, other ∈ round.graph.shards)
    (hNodup : todo.Nodup) (net : TensorNet RoundStage) (pending : List UInt16)
    (tensorHashes optimizerHashes : Hashes)
    (hInv : OpeningInv digests round start todo pending loss net.nodes net.flight) :
    RoundInv digests round start (net.move round.lead
      (backwardFrom digests round outputs loss (net.nodes round.lead) todo pending tensorHashes
        optimizerHashes)) := by
  induction todo generalizing net pending tensorHashes optimizerHashes with
  | nil => exact awaitBackward_inv hInv.backward
  | cons shard todo ih =>
    rcases List.nodup_cons.mp hNodup with ⟨hNew, hRest⟩
    have hLater : ∀ other ∈ todo, other ∈ round.graph.shards := fun other hOther =>
      hTodo other (List.mem_cons_of_mem shard hOther)
    rcases hOutputs shard (hTodo shard List.mem_cons_self) with ⟨values, hValues, hOutput⟩
    have hUpstream : outputs.getD shard.shardId [] = values := by
      rw [Std.TreeMap.getD_eq_getD_getElem?, hValues, Option.getD_some]
    unfold backwardFrom
    simp only [hUpstream]
    by_cases hLocal : ownerOf shard = round.lead
    · rw [if_pos hLocal]
      generalize hStep : localTensorBackward digests round.lead usualEnv
        (net.nodes round.lead) round.graph.jobId round.plan.planGeneration shard round.sequence
        roundInput (outputErrors values) = step
      cases hResult : step.result with
      | error error => exact trivial
      | ok result =>
        rw [← Courier.Net.move_move]
        have hNext := ih hLater hRest (net.move round.lead
          ⟨step.node, step.sends, .backward pending loss tensorHashes optimizerHashes⟩)
          pending
          (tensorHashes.insert shard.shardId result.stateHash)
          (noteOptimizer optimizerHashes shard.shardId result.optimizerStateHash)
          (hInv.localStep hTodo hNew hActive hLocal hOutput hStep hResult)
        rw [Courier.Net.move_nodes_self] at hNext
        exact hNext
    · rw [if_neg hLocal, ← Courier.Net.move_move]
      have hIdle : (net.move round.lead ⟨net.nodes round.lead, [(ownerOf shard, .tensorBackward
        (round.backwardRequest shard (outputErrors values)))],
        .backward pending loss tensorHashes optimizerHashes⟩).nodes = net.nodes :=
        Function.update_eq_self round.lead net.nodes
      have hNext := ih hLater hRest (net.move round.lead ⟨net.nodes round.lead,
        [(ownerOf shard, .tensorBackward
          (round.backwardRequest shard (outputErrors values)))],
        .backward pending loss tensorHashes optimizerHashes⟩)
        (shard.shardId :: pending) tensorHashes
        optimizerHashes
        (by
          rw [hIdle]
          exact hInv.ask hTodo hNew hActive.job hLocal hOutput)
      rw [Courier.Net.move_nodes_self] at hNext
      exact hNext

/- The loss that the coordinator takes is that of the shards. -/
theorem roundLoss_eq {shards : List V4ShardOwnership}
    (hLoss : roundLoss outputs shards = .ok loss) : loss = (shards.map (fun shard =>
      sumSquares (outputErrors (outputs.getD shard.shardId [])))).sum := by
  induction shards generalizing loss with
  | nil =>
    cases hLoss
    rfl
  | cons shard shards ih =>
    unfold roundLoss at hLoss
    cases hValues : outputs[shard.shardId]? with
    | none =>
      rw [hValues] at hLoss
      cases hLoss
    | some values =>
      rw [hValues] at hLoss
      cases hRest : roundLoss outputs shards with
      | error error =>
        rw [hRest] at hLoss
        cases hLoss
      | ok rest =>
        rw [hRest] at hLoss
        cases hLoss
        rw [List.map_cons, List.sum_cons, ← ih hRest, Std.TreeMap.getD_eq_getD_getElem?, hValues,
          Option.getD_some]

end

----
-- The Forward Pass
----

variable {digests : StateDigests} {round : Round} {start : NodeId → TensorNode}

/- A message of the forward pass asks for no step. -/
theorem ForwardFits.ne_backward (hFits : ForwardFits round start parcel)
    (backward : V4TensorBackward) : parcel.message ≠ .tensorBackward backward := by
  intro hBackward
  cases hFits <;> cases hBackward

theorem ForwardFits.fits (hFits : ForwardFits round start parcel) :
    Fits digests round start nodes parcel := by
  refine .apart parcel hFits.ne_backward ?_ ?_
  · intro result hResult
    cases hFits <;> cases hResult
  · intro shard _ hKey
    cases hFits <;> cases hKey

/- Once all outputs are there, the backward pass opens. -/
theorem openBackward_inv (hActive : Activated digests round start)
    (hInv : ForwardInv round start [] [] outputs net.nodes net.flight) :
    RoundInv digests round start
      (net.move round.lead (openBackward digests round (net.nodes round.lead) outputs)) := by
  have hOutputs : Complete round start outputs := by
    intro shard hShard
    exact ((hInv.progress shard hShard).resolve_left List.not_mem_nil).resolve_left List.not_mem_nil
  have hNodup : round.graph.shards.Nodup := by
    have hIds := hActive.job.planFacts.shardIds
    rw [← hActive.job.shards] at hIds
    exact hIds.of_map
  unfold openBackward
  cases hLoss : roundLoss outputs round.graph.shards with
  | error error => exact trivial
  | ok loss =>
    apply backwardFrom_inv hActive hOutputs (fun _ => id) hNodup
    refine ⟨⟨?_, ?_, ?_⟩, ?_, ?_, ?_, ?_⟩
    · intro id
      rw [hInv.same]
    · intro id
      rw [hInv.same]
    · intro id
      rw [hInv.same]
      exact hActive.keyed id
    · refine ⟨fun shardId => outputs.getD shardId [], ?_, roundLoss_eq hLoss⟩
      intro shard hShard
      rcases hOutputs shard hShard with ⟨values, hValues, hOutput⟩
      dsimp only
      rw [Std.TreeMap.getD_eq_getD_getElem?, hValues, Option.getD_some]
      exact hOutput
    · intro parcel hParcel
      exact (hInv.fits parcel hParcel).fits
    · intro shard hShard
      rw [hInv.same]
      refine ⟨⟨rfl, rfl⟩, ?_⟩
      rw [List.countP_eq_zero]
      intro parcel hParcel
      rw [asksFor_eq_false (hInv.fits parcel hParcel).ne_backward]
      exact Bool.false_ne_true
    · intro shard hShard
      exact Or.inl hShard

theorem awaitForward_inv (hActive : Activated digests round start)
    (hInv : ForwardInv round start [] pending outputs net.nodes net.flight) :
    RoundInv digests round start (net.move round.lead
      (awaitForward digests round (net.nodes round.lead) pending outputs)) := by
  unfold awaitForward
  cases pending with
  | nil =>
    exact openBackward_inv hActive hInv
  | cons shardId pending =>
    rw [if_neg (by simp), Courier.Net.move_idle]
    exact hInv

/- An output of a shard replaces none of another one. -/
theorem ForwardInv.insert {todo' : List V4ShardOwnership} {pending' : List UInt16}
    (hInv : ForwardInv round start todo pending outputs nodes flight)
    (hOutput : ∀ shard ∈ round.graph.shards, shard.shardId = shardId →
      Output round start shard values)
    (hTodo : ∀ shard ∈ todo, shard.shardId ≠ shardId → shard ∈ todo')
    (hPending : ∀ other ∈ pending, other ≠ shardId → other ∈ pending') :
    ForwardInv round start todo' pending' (outputs.insert shardId values) nodes flight := by
  refine ⟨hInv.same, hInv.fits, ?_⟩
  intro shard hShard
  rw [OrderedMap.getElem?_insert]
  by_cases hId : shard.shardId = shardId
  · right
    right
    rw [if_pos hId.symm]
    exact ⟨values, rfl, hOutput shard hShard hId⟩
  · rw [if_neg (Ne.symm hId)]
    rcases hInv.progress shard hShard with hHere | hHere | hHere
    · exact Or.inl (hTodo shard hHere hId)
    · exact Or.inr (Or.inl (hPending _ hHere hId))
    · exact Or.inr (Or.inr hHere)

theorem output_of_localTensorForward {jobId : JobId} {input : List Int}
    (hForward : localTensorForward digests usualEnv node jobId shardId input = .ok values) :
    ∃ record, node.shards[(⟨jobId, shardId⟩ : ShardKey)]? = some record ∧
      matrixVector record.rows record.cols record.weights input = some values := by
  unfold localTensorForward at hForward
  cases hRecord : node.shards[(⟨jobId, shardId⟩ : ShardKey)]? with
  | none =>
    rw [hRecord] at hForward
    cases hForward
  | some record =>
    rw [hRecord] at hForward
    dsimp only at hForward
    split_ifs at hForward
    refine ⟨record, rfl, ?_⟩
    cases hTask : matrixVector record.rows record.cols record.weights input with
    | none =>
      rw [hTask] at hForward
      cases hForward
    | some output =>
      rw [hTask] at hForward
      cases hForward
      rfl

theorem openForward_inv (hActive : Activated digests round start) {todo : List V4ShardOwnership}
    (hTodo : ∀ other ∈ todo, other ∈ round.graph.shards) (net : TensorNet RoundStage)
    (pending : List UInt16) (outputs : Outputs)
    (hInv : ForwardInv round start todo pending outputs net.nodes net.flight) :
    RoundInv digests round start (net.move round.lead
      (openForward digests round (net.nodes round.lead) todo pending outputs)) := by
  induction todo generalizing net pending outputs with
  | nil => exact awaitForward_inv hActive hInv
  | cons shard todo ih =>
    have hShard := hTodo shard List.mem_cons_self
    have hLater : ∀ other ∈ todo, other ∈ round.graph.shards := fun other hOther =>
      hTodo other (List.mem_cons_of_mem shard hOther)
    have hSame : ∀ other ∈ round.graph.shards, other.shardId = shard.shardId → other = shard :=
      fun other hOther hId =>
        hActive.job.eq_of_shardId hOther hShard hId
    unfold openForward
    by_cases hLocal : ownerOf shard = round.lead
    · rw [if_pos hLocal]
      cases hForward : localTensorForward digests usualEnv (net.nodes round.lead) round.graph.jobId
        shard.shardId roundInput with
      | error error => exact trivial
      | ok values =>
        apply ih hLater
        refine hInv.insert ?_ ?_ (fun _ hOther _ => hOther)
        · intro other hOther hId
          rw [hSame other hOther hId]
          rcases output_of_localTensorForward hForward with ⟨record, hRecord, hValues⟩
          rw [hInv.same, ← hLocal] at hRecord
          exact ⟨record, hRecord, hValues⟩
        · intro other hOther hId
          rcases List.mem_cons.mp hOther with rfl | hRest
          · exact absurd rfl hId
          · exact hRest
    · rw [if_neg hLocal, ← Courier.Net.move_move]
      generalize hMiddle : net.move round.lead
        ⟨net.nodes round.lead, [(ownerOf shard, .tensorForward (round.forwardRequest shard))],
          .forward pending outputs⟩ = middle
      have hNodes : middle.nodes = net.nodes := by
        rw [← hMiddle]
        exact Function.update_eq_self round.lead net.nodes
      have hNext := ih hLater middle (shard.shardId :: pending) outputs (by
        refine ⟨hNodes.trans hInv.same, ?_, ?_⟩
        · intro parcel hParcel
          rw [← hMiddle, Courier.Net.move, List.mem_append, Courier.mem_parcelsFrom_iff] at hParcel
          rcases hParcel with hOld | ⟨hSender, hSent⟩
          · exact hInv.fits parcel hOld
          · rcases parcel with ⟨sender, target, message⟩
            cases hSender
            cases List.mem_singleton.mp hSent
            exact .request shard hShard
        · intro other hOther
          rcases hInv.progress other hOther with hHere | hHere | hHere
          · rcases List.mem_cons.mp hHere with rfl | hRest
            · exact Or.inr (Or.inl List.mem_cons_self)
            · exact Or.inl hRest
          · exact Or.inr (Or.inl (List.mem_cons_of_mem _ hHere))
          · exact Or.inr (Or.inr hHere))
      rw [hNodes] at hNext
      exact hNext

----
-- Deliveries
----

/- What an answer of the forward pass carries. -/
theorem receiveTensorForward_sends {self peer : NodeId} {forward : V4TensorForward}
    {send : NodeId × TrainingV4Message}
    (hSend : send ∈ (receiveTensorForward digests self usualEnv node peer forward).sends) :
    ∃ record result, node.shards[(⟨forward.jobId, forward.shardId⟩ : ShardKey)]? = some record ∧
      matrixVector record.rows record.cols record.weights forward.input = some result.output ∧
      result.shardId = forward.shardId ∧ send = (peer, .tensorForwardResult result) := by
  unfold receiveTensorForward at hSend
  cases hOutput : forwardOutput digests self usualEnv node peer forward with
  | error error =>
    rw [hOutput] at hSend
    cases hSend
  | ok found =>
    rw [hOutput] at hSend
    cases List.mem_singleton.mp hSend
    simp only [forwardOutput, Validation.bind_eq_ok_iff, Except.ok.injEq] at hOutput
    rcases hOutput with ⟨⟨plan, record'⟩, hOwned, -, -, output', hTask, rfl, rfl⟩
    refine ⟨record', _, getElem?_of_ownedShard digests self hOwned, ?_, rfl, rfl⟩
    generalize matrixVector record'.rows record'.cols record'.weights
      forward.input = task at hTask ⊢
    cases task with
    | none => cases hTask
    | some values =>
      cases hTask
      rfl

/- A message of the forward pass changes no node. -/
theorem ForwardInv.handled (hJob : IntegratedJob digests round.graph round.plan)
    (hInv : ForwardInv round start [] pending outputs nodes flight)
    (hPerm : flight.Perm (parcel :: rest)) :
    ForwardInv round start [] pending outputs (nodesAfter digests nodes parcel)
      (rest ++ sendsAfter digests nodes parcel) := by
  have hRest : ∀ other ∈ rest, ForwardFits round start other := by
    intro other hOther
    exact hInv.fits other (hPerm.mem_iff.mpr (List.mem_cons_of_mem parcel hOther))
  have hParcel := hInv.fits parcel (hPerm.mem_iff.mpr List.mem_cons_self)
  cases hParcel with
  | request shard hShard =>
    refine ⟨?_, ?_, hInv.progress⟩
    · rw [← hInv.same]
      unfold nodesAfter
      dsimp only [handleMessage]
      rw [receiveTensorForward_node, Function.update_eq_self]
    · intro other hOther
      rcases List.mem_append.mp hOther with hOld | hSent
      · exact hRest other hOld
      · rw [sendsAfter, Courier.mem_parcelsFrom_iff] at hSent
        rcases receiveTensorForward_sends hSent.2 with
          ⟨record, result, hRecord, hValues, hId, hSend⟩
        rcases other with ⟨sender, target, message⟩
        cases hSend
        refine .answer _ _ result ?_
        intro other hOther hOtherId
        rw [hJob.eq_of_shardId hOther hShard (hOtherId.trans hId)]
        rw [hInv.same] at hRecord
        exact ⟨record, hRecord, hValues⟩
  | answer sender target result _ =>
    refine ⟨?_, ?_, hInv.progress⟩
    · rw [← hInv.same]
      unfold nodesAfter
      dsimp only [handleMessage]
      rw [Function.update_eq_self]
    · intro other hOther
      rcases List.mem_append.mp hOther with hOld | hSent
      · exact hRest other hOld
      · cases hSent

/- Any message of the backward pass. -/
theorem BackwardInv.handled (hActive : Activated digests round start)
    (hInv : BackwardInv digests round start pending loss nodes flight)
    (hPerm : flight.Perm (parcel :: rest)) :
    BackwardInv digests round start pending loss (nodesAfter digests nodes parcel)
      (rest ++ sendsAfter digests nodes parcel) ∧
      ∀ result, parcel.message = .tensorBackwardResult result → ∀ shard ∈ round.graph.shards,
        shard.shardId = result.shardId → Taken digests round start
          (nodesAfter digests nodes parcel) shard := by
  have hParcel := hInv.fits parcel (hPerm.mem_iff.mpr List.mem_cons_self)
  cases hParcel with
  | request shard values hShard hRemote hOutput =>
    refine ⟨hInv.request hActive hShard hRemote hOutput hPerm, ?_⟩
    intro result hResult
    cases hResult
  | answer sender target result hTaken =>
    rcases hInv.apart hPerm (by intro backward hBackward; cases hBackward)
      (by intro shard hShard hKey; cases hKey) with
      ⟨hNext, hKeeps⟩
    refine ⟨hNext, ?_⟩
    rintro _ ⟨⟩ shard hShard hId
    exact hKeeps shard hShard (hTaken shard hShard hId)
  | apart parcel hRequest hAnswer hApart =>
    refine ⟨(hInv.apart hPerm hRequest hApart).1, ?_⟩
    intro result hResult
    exact absurd hResult (hAnswer result)

/- What an answer says in the stage that it is meant for. -/
def Heard (digests : StateDigests) (round : Round) (start nodes : NodeId → TensorNode) :
    RoundStage → TrainingV4Message → Prop
| .forward _ _, .tensorForwardResult result =>
  ∀ shard ∈ round.graph.shards, shard.shardId = result.shardId →
      Output round start shard result.output
| .backward _ _ _ _, .tensorBackwardResult result =>
  ∀ shard ∈ round.graph.shards, shard.shardId = result.shardId →
      Taken digests round start nodes shard
| _, _ => True

/- A handler keeps the round where it is. -/
theorem RoundInv.handled {middle : TensorNet RoundStage} (hActive : Activated digests round start)
    (hInv : RoundInv digests round start net) (hPerm : net.flight.Perm (parcel :: rest))
    (hMiddle : middle = Courier.Net.move { net with flight := rest } parcel.target
      (handlerReaction digests net.stage (net.nodes parcel.target) parcel)) :
    RoundInv digests round start middle ∧ Heard digests round start middle.nodes middle.stage
      parcel.message := by
  have hNodes : middle.nodes = nodesAfter digests net.nodes parcel := by
    rw [hMiddle]
    rfl
  have hFlight : middle.flight = rest ++ sendsAfter digests net.nodes parcel := by
    rw [hMiddle]
    rfl
  have hStage : middle.stage = net.stage := by
    rw [hMiddle]
    rfl
  unfold RoundInv at hInv ⊢
  rw [hNodes, hFlight, hStage]
  cases hNet : net.stage with
  | forward pending outputs =>
    rw [hNet] at hInv
    refine ⟨hInv.handled hActive.job hPerm, ?_⟩
    have hFits := hInv.fits parcel (hPerm.mem_iff.mpr List.mem_cons_self)
    cases hFits with
    | request shard _ => exact trivial
    | answer sender target result hOutput => exact hOutput
  | backward pending loss tensorHashes optimizerHashes =>
    rw [hNet] at hInv
    rcases BackwardInv.handled hActive hInv hPerm with ⟨hNext, hAnswer⟩
    refine ⟨hNext, ?_⟩
    generalize parcel.message = message at hAnswer ⊢
    cases message with
    | tensorBackwardResult result => exact hAnswer result rfl
    | _ => exact trivial
  | returned result =>
    rw [hNet] at hInv
    rcases hInv with ⟨loss, hLoss, hInv⟩
    exact ⟨⟨loss, hLoss, (BackwardInv.handled hActive hInv hPerm).1⟩, trivial⟩
  | failed error => exact ⟨trivial, trivial⟩

/- The answer that was awaited is not awaited any more. -/
theorem BackwardInv.answered (hInv : BackwardInv digests round start pending loss nodes flight)
    (hTaken : ∀ shard ∈ round.graph.shards, shard.shardId = shardId →
      Taken digests round start nodes shard) :
    BackwardInv digests round start (pending.filter (· != shardId)) loss nodes flight := by
  refine ⟨hInv.kept, hInv.loss, hInv.fits, ?_⟩
  intro shard hShard
  by_cases hId : shard.shardId = shardId
  · exact .taken (hTaken shard hShard hId)
  · refine (hInv.progress shard hShard).mono ?_ ⟨rfl, rfl⟩ le_rfl
    intro hPending
    exact List.mem_filter.mpr ⟨hPending, by simpa using hId⟩

theorem roundMailbox_inv {message : TrainingV4Message}
    (hActive : Activated digests round start) (hInv : RoundInv digests round start net)
    (hHeard : Heard digests round start net.nodes net.stage message) :
    RoundInv digests round start (net.move round.lead
      (roundMailbox digests round (net.nodes round.lead) net.stage message)) := by
  have hIdle : RoundInv digests round start
    (net.move round.lead ⟨net.nodes round.lead, [], net.stage⟩) := by
    rw [Courier.Net.move_idle]
    exact hInv
  unfold roundMailbox
  split
  next pending outputs result hStage =>
    rw [hStage] at hIdle hHeard
    split_ifs
    · apply awaitForward_inv hActive
      rw [RoundInv, hStage] at hInv
      refine .insert hInv hHeard (fun _ hOther _ => hOther) ?_
      intro other hOther hNe
      exact List.mem_filter.mpr ⟨hOther, by simpa using hNe⟩
    · exact hIdle
  next pending loss tensorHashes optimizerHashes result hStage =>
    rw [hStage] at hIdle hHeard
    split_ifs
    · apply awaitBackward_inv
      rw [RoundInv, hStage] at hInv
      exact .answered hInv hHeard
    · exact hIdle
  · exact hIdle

/- What one delivery of a round preserves. -/
theorem roundStep_inv (hActive : Activated digests round start) (net : TensorNet RoundStage)
    (index : Nat) (next : TensorNet RoundStage) (hInv : RoundInv digests round start net)
    (hStep : roundStep digests round net index = some next) :
    RoundInv digests round start next := by
  rcases deliver_cases digests hStep with ⟨parcel, rest, middle, hPerm, hMiddle, hNext⟩
  rcases hInv.handled hActive hPerm hMiddle with ⟨hKept, hHeard⟩
  rcases hNext with ⟨-, rfl⟩ | ⟨-, rfl⟩
  · exact hKept
  · have hStage : net.stage = middle.stage := by
      rw [hMiddle]
      rfl
    rw [hStage]
    exact roundMailbox_inv hActive hKept hHeard

variable {actions : List Nat}

variable (hActive : Activated digests round start)
variable (hRun : Transition.run (roundStep digests round) (beginRound digests round start) actions =
    some net)
include hActive hRun

/- What holds at the end of every run of a round. -/
theorem roundInv_of_run : RoundInv digests round start net := by
  apply Transition.always_of_run (RoundInv digests round start) (roundStep_inv hActive) ?_ hRun
  apply openForward_inv hActive (fun _ => id) ⟨start, [], .forward [] ∅⟩
  refine ⟨rfl, ?_, ?_⟩
  · intro parcel hParcel
    cases hParcel
  · intro shard hShard
    exact Or.inl hShard

/- A round that returns has stepped every shard. -/
theorem taken_of_returned {result : Frontier.TensorRound}
    (hReturned : net.stage = .returned result) :
    (∀ shard ∈ round.graph.shards, Taken digests round start net.nodes shard) ∧
      ∃ loss, result.loss = max 0 (min loss Saturating.maxI64) ∧ LossOf round start loss := by
  have hInv := roundInv_of_run hActive hRun
  rw [RoundInv, hReturned] at hInv
  rcases hInv with ⟨loss, hLoss, hInv⟩
  refine ⟨?_, loss, hLoss, hInv.loss⟩
  intro shard hShard
  cases hInv.progress shard hShard with
  | taken hTaken => exact hTaken
  | asked hPending _ _ | lost hPending hNone => cases hPending

end IntelligenceNetwork.Tensor
