import IntelligenceNetwork.Lib.Transition
import IntelligenceNetwork.Tensor.ShardWrites

/-
  The steps of a shard and of its optimizer.

  A step of a shard is written before the step of its optimizer
  is tried.  If the second one fails, a repeated request finds
  the first one taken and leaves both as they are.

  Main declarations:
    * `InStep`
    * `keepsStep`
    * `backward_exactly_once`
-/

----
-- Requests
----

namespace IntelligenceNetwork.Tensor

open Transition OrderedMap

variable {gradients : List Int} {node : TensorNode} {state : V4LocalOptimizerState}

variable (digests : StateDigests) (self : NodeId)

/- A request, its sender, and what the call meets outside. -/
structure BackwardCall where
  env : TensorEnv
  peer : NodeId
  request : V4TensorBackward

def BackwardCall.key (call : BackwardCall) : ShardKey :=
  ⟨call.request.jobId, call.request.shardId⟩

section

variable (node : TensorNode) (call : BackwardCall)

def backwardStep : TensorNode :=
  (receiveTensorBackward digests self call.env node call.peer call.request).node

/- The last steps of a shard and of its optimizer are the same. -/
def InStep (key : ShardKey) (node : TensorNode) : Prop :=
  ∃ shard state, node.shards[key]? = some shard ∧ node.optimizers[key]? = some state ∧
    shard.lastSequence = state.lastSequence

/- A request that passes its checks and is new. -/
def isNewStep : Bool :=
  (backwardGradients digests self call.env node call.peer call.request).isOk &&
    !(node.shards[call.key]?.any (·.lastSequence == call.request.sequence))

/-
  The graph is bound to the plan, and gives the optimizer of
  the shard to this node.
-/
def optimizerHere (node : TensorNode) (graph : V4ExecutionGraph) (key : ShardKey) : Bool :=
  graph.planHash == (node.plans[key.jobId]?.map (·.planHash)).getD default &&
    (graph.optimizerShards.find? (·.shardId == key.shardId)).any (fun placement =>
      placement.owner == self && placement.generation != 0) &&
    (graph.shards.find? (·.shardId == key.shardId)).any (·.modelGeneration != 0)

/-
  The optimizer is here, and its state has one value for each
  weight, within the bound on vectors.
-/
def optimizerReady : Bool :=
  call.request.planGeneration != 0 && node.graphs[call.request.jobId]?.any
    (fun graph => optimizerHere self node graph call.key) &&
    node.shards[call.key]?.any (fun shard =>
      !shard.weights.isEmpty && shard.weights.length ≤ maxV4Vector && node.optimizers[call.key]?.any
        (·.values.length == shard.weights.length))

/-
  Where a new step of the shard is written, the optimizer is
  ready for it and can be written as well.
-/
def keepsStep (key : ShardKey) (node : TensorNode) (call : BackwardCall) : Bool :=
  call.key != key || !isNewStep digests self node call || !call.env.shardWritten ||
    (optimizerReady self node call && call.env.optimizerWritten)

section

variable (key : ShardKey) (sequence : UInt64) (node : TensorNode) (call : BackwardCall)

/- The call changes the shard, or the optimizer, of a key. -/
def stepsWeights : Bool :=
  call.request.sequence == sequence && (backwardStep digests self node call).shards[key]? !=
    node.shards[key]?

def stepsOptimizer : Bool :=
  call.request.sequence == sequence && (backwardStep digests self node call).optimizers[key]? !=
    node.optimizers[key]?

end

----
-- The Optimizer of a New Step
----

/- A step leaves values within the bound. -/
theorem natAbs_accumulate_le {values : List Int} :
    ∀ value ∈ List.zipWith accumulate values gradients, value.natAbs ≤ maxMagnitude := by
  intro value hValue
  rw [← List.map_uncurry_zip_eq_zipWith, List.mem_map] at hValue
  rcases hValue with ⟨⟨old, gradient⟩, -, rfl⟩
  exact natAbs_clampValue_le

/- When the state that a step computes passes its check. -/
theorem validLocalOptimizerState_next_iff (placement : V4OptimizerPlacement)
    (modelGeneration : UInt64) (jobId : JobId) (planGeneration : UInt64) (shardId : UInt16)
    (sequence : UInt64) (hLength : state.values.length = gradients.length) :
    validLocalOptimizerState digests (incomingOptimizer
      (nextOptimizer digests self placement modelGeneration
        (some state) jobId planGeneration shardId gradients sequence)) = true ↔
      planGeneration ≠ 0 ∧ modelGeneration ≠ 0 ∧ placement.generation ≠ 0 ∧ gradients ≠ [] ∧
        gradients.length ≤ maxV4Vector := by
  have hGeneration : Saturating.add state.stateGeneration 1 ≠ 0 := by
    intro hZero
    have hPos := Saturating.toNat_add state.stateGeneration 1
    rw [hZero] at hPos
    simp at hPos
    omega
  have hNext : (List.zipWith accumulate state.values gradients).length = gradients.length := by
    rw [List.length_zipWith, hLength, Nat.min_self]
  have hEmpty : List.zipWith accumulate state.values gradients = [] ↔ gradients = [] := by
    rw [← List.length_eq_zero_iff, hNext, List.length_eq_zero_iff]
  have hBounded : (List.zipWith accumulate state.values gradients).any
    (fun value => value.natAbs > maxMagnitude) = false := by
    rw [List.any_eq_false]
    intro value hValue
    have hLe := natAbs_accumulate_le value hValue
    simpa using hLe
  simp [validLocalOptimizerState, incomingOptimizer,
    nextOptimizer, optimizerStateHash, hGeneration, hEmpty, hNext, hBounded, and_assoc]

----
-- Ready Optimizers
----

/- What a graph says about the optimizer of a shard. -/
theorem optimizerPlacement_eq_ok_iff (node : TensorNode) (graph : V4ExecutionGraph) (jobId : JobId)
    (shardId : UInt16) (placement : V4OptimizerPlacement) (modelGeneration : UInt64) :
    optimizerPlacement self node graph jobId shardId = .ok (placement, modelGeneration) ↔
      graph.planHash = (node.plans[jobId]?.map (·.planHash)).getD default ∧
        graph.optimizerShards.find? (·.shardId == shardId) = some placement ∧
        placement.owner = self ∧ ∃ shard, graph.shards.find? (·.shardId == shardId) = some shard ∧
          shard.modelGeneration = modelGeneration := by
  unfold optimizerPlacement
  by_cases hBound : graph.planHash = (node.plans[jobId]?.map (·.planHash)).getD default
  · rw [if_neg (by simp [hBound])]
    cases graph.optimizerShards.find? (·.shardId == shardId) with
    | none => simp
    | some found =>
      by_cases hOwner : found.owner = self
      · cases graph.shards.find? (·.shardId == shardId) with
        | none => simp [hOwner]
        | some shard =>
          simp only [hOwner, bne_self_eq_false, Bool.false_eq_true, if_false, Except.ok.injEq,
            Prod.mk.injEq, Option.some.injEq, exists_eq_left']
          constructor
          · rintro ⟨rfl, rfl⟩
            exact ⟨hBound, rfl, hOwner, rfl⟩
          · rintro ⟨-, rfl, -, rfl⟩
            exact ⟨rfl, rfl⟩
      · simp only [bne_iff_ne, ne_eq, hOwner, not_false_eq_true, if_true, reduceCtorEq,
          Option.some.injEq, false_iff]
        rintro ⟨-, rfl, hSelf, -⟩
        exact hOwner hSelf
  · simp [hBound]

theorem optimizerHere_iff (node : TensorNode) (graph : V4ExecutionGraph) (key : ShardKey) :
    optimizerHere self node graph key = true ↔ ∃ placement modelGeneration,
      optimizerPlacement self node graph key.jobId key.shardId =
        .ok (placement, modelGeneration) ∧ placement.generation ≠ 0 ∧ modelGeneration ≠ 0 := by
  simp only [optimizerPlacement_eq_ok_iff, optimizerHere,
    Bool.and_eq_true, beq_iff_eq, Option.any_eq_true, bne_iff_ne]
  constructor
  · rintro ⟨⟨hBound, placement, hFound, hOwner, hGeneration⟩, part, hPart, hModel⟩
    exact ⟨placement, part.modelGeneration, ⟨hBound, hFound, hOwner, part, hPart, rfl⟩,
      hGeneration, hModel⟩
  · rintro ⟨placement, modelGeneration, ⟨hBound, hFound, hOwner, part, hPart, rfl⟩,
      hGeneration, hModel⟩
    exact ⟨⟨hBound, placement, hFound, hOwner, hGeneration⟩, part, hPart, hModel⟩

/-
  A step that is new to the optimizer is computed if and only
  if the optimizer is ready for it.
-/
theorem optimizerStep_iff_ready {shard : V4LocalTensorShard}
    (hShard : node.shards[call.key]? = some shard)
    (hState : node.optimizers[call.key]? = some state)
    (hLength : gradients.length = shard.weights.length)
    (hNew : state.lastSequence < call.request.sequence) :
    (∃ placement install, optimizerStep digests self node call.request.jobId
      call.request.planGeneration call.request.shardId gradients call.request.sequence =
      .ok (some (placement, install))) ↔ optimizerReady self node call = true := by
  have hStale :
    decide (call.request.sequence ≤ state.lastSequence) = false := by
    rw [decide_eq_false_iff_not, UInt64.not_le]
    exact hNew
  have hState' :
    node.optimizers[(⟨call.request.jobId, call.request.shardId⟩ : ShardKey)]? = some state :=
    hState
  unfold optimizerStep optimizerReady
  cases hGraph : node.graphs[call.request.jobId]? with
  | none => simp
  | some graph =>
    have hHere := optimizerHere_iff self node graph call.key
    dsimp only
    cases hPlacement : optimizerPlacement self node graph call.request.jobId
      call.request.shardId with
    | error error =>
      have hNotHere : optimizerHere self node graph call.key = false := by
        rw [Bool.eq_false_iff]
        intro hTrue
        rcases hHere.mp hTrue with ⟨_, _, hOk, -, -⟩
        have hSame := hOk.symm.trans hPlacement
        cases hSame
      simp [hNotHere]
    | ok found =>
      rcases found with ⟨placement, modelGeneration⟩
      have hHere' : optimizerHere self node graph call.key = true ↔ placement.generation ≠ 0 ∧
        modelGeneration ≠ 0 := by
        rw [hHere]
        constructor
        · rintro ⟨_, _, hOk, hGenerations⟩
          have hSame := hOk.symm.trans hPlacement
          cases hSame
          exact hGenerations
        · intro hGenerations
          exact ⟨placement, modelGeneration, hPlacement, hGenerations⟩
      by_cases hValues : state.values.length = shard.weights.length
      · have hValid := validLocalOptimizerState_next_iff digests self placement modelGeneration
          call.request.jobId call.request.planGeneration call.request.shardId
          call.request.sequence (hValues.trans hLength.symm)
        have hEmpty : gradients = [] ↔ shard.weights = [] := by
          rw [← List.length_eq_zero_iff, hLength, List.length_eq_zero_iff]
        rw [hState']
        simp only [Option.any_some, hLength, hValues,
          bne_self_eq_false, Bool.false_eq_true, if_false, hStale]
        rw [hLength, ne_eq gradients, hEmpty] at hValid
        have hReady : validLocalOptimizerState digests (incomingOptimizer
          (nextOptimizer digests self placement modelGeneration (some state)
            call.request.jobId call.request.planGeneration call.request.shardId gradients
            call.request.sequence)) = true ↔
          (call.request.planGeneration ≠ 0 ∧ optimizerHere self node graph call.key = true) ∧
            shard.weights ≠ [] ∧ shard.weights.length ≤ maxV4Vector := by
          tauto
        generalize validLocalOptimizerState digests (incomingOptimizer
          (nextOptimizer digests self placement modelGeneration (some state) call.request.jobId
            call.request.planGeneration call.request.shardId gradients
            call.request.sequence)) = valid at hReady ⊢
        simp only [hShard, hState, Option.any_some, hValues, beq_self_eq_true, Bool.and_true,
          Bool.and_eq_true, bne_iff_ne, Bool.not_eq_true', List.isEmpty_eq_false_iff,
          decide_eq_true_eq, ← hReady]
        cases valid <;> simp
      · have hMismatch : (state.values.length != gradients.length) = true := by
          rw [hLength]
          simpa using hValues
        rw [hState']
        simp only [Option.any_some, hMismatch, if_true]
        simp [hShard, hState, hValues]

end

----
-- One Request
----

/- What a request leaves. -/
inductive BackwardEffect (node : TensorNode) (call : BackwardCall) (next : TensorNode) : Prop where
  | same (hNext : next = node)
    (hIdle : isNewStep digests self node call = false ∨ call.env.shardWritten = false)
  | stepped (shard : V4LocalTensorShard) (gradients : List Int)
    (hShard : node.shards[call.key]? = some shard)
    (hLength : gradients.length = shard.weights.length)
    (hLater : shard.lastSequence < call.request.sequence)
    (hNew : isNewStep digests self node call = true) (hWritten : call.env.shardWritten = true)
    (hNext :
      next = (updateOptimizerStateAndReplicate digests self call.env (putShard node call.key
        (steppedShard digests call.request.learningRateMicros shard gradients
          call.request.sequence))
        call.request.jobId call.request.planGeneration
        call.request.shardId gradients
        call.request.sequence).node)

theorem backwardStep_cases {call : BackwardCall} (hKeyed : Keyed node) :
    BackwardEffect digests self node call (backwardStep digests self node call) := by
  unfold backwardStep
  rw [receiveTensorBackward_node]
  cases hGradients : backwardGradients digests self call.env node call.peer call.request with
  | error error =>
    refine .same rfl (Or.inl ?_)
    rw [isNewStep, hGradients]
    rfl
  | ok found =>
    have hParts := hGradients
    simp only [backwardGradients, Validation.bind_eq_ok_iff,
      failIf_eq_ok_iff, decide_eq_false_iff_not,
      UInt64.not_lt, Except.ok.injEq] at hParts
    rcases hParts with ⟨⟨plan, shard⟩, hOwned, -, -, -, hOrder,
      ⟨gradients, inputGradient⟩, hTask, rfl, rfl, rfl, rfl⟩
    have hShard : node.shards[call.key]? = some shard := getElem?_of_ownedShard digests self hOwned
    dsimp only
    rw [stepShard_node, hKeyed call.key shard hShard]
    by_cases hTaken : call.request.sequence = shard.lastSequence
    · rw [if_pos hTaken]
      refine .same rfl (Or.inl ?_)
      simp [isNewStep, hShard, hTaken]
    · rw [if_neg hTaken]
      have hNew : isNewStep digests self node call = true := by
        simp [isNewStep, hGradients, hShard, Except.isOk, Except.toBool, Ne.symm hTaken]
      cases hWritten : call.env.shardWritten with
      | false => exact .same rfl (Or.inr hWritten)
      | true =>
        exact .stepped shard gradients hShard (length_of_shardGradients hTask)
          (UInt64.lt_of_le_of_ne hOrder (Ne.symm hTaken)) hNew hWritten rfl

/- What an optimizer step that is computed carries. -/
theorem optimizerStep_spec {jobId : JobId} {planGeneration : UInt64} {shardId : UInt16}
    {sequence : UInt64} {placement : V4OptimizerPlacement} {install : V4OptimizerStateInstall}
    (hStep : optimizerStep digests self node jobId planGeneration shardId gradients sequence =
      .ok (some (placement, install))) :
    (incomingOptimizer install).lastSequence = sequence ∧ ∀ state,
      node.optimizers[(⟨jobId, shardId⟩ : ShardKey)]? = some state →
        state.lastSequence < sequence := by
  obtain ⟨⟨modelGeneration, rfl⟩, -, hLater⟩ := optimizerStep_some hStep
  exact ⟨rfl, hLater⟩

section

variable (call : BackwardCall) (stepped : V4LocalTensorShard) (gradients : List Int)

/- The shards after a step, whatever becomes of the optimizer. -/
theorem stepped_shards : (updateOptimizerStateAndReplicate digests self call.env
    (putShard node call.key stepped) call.request.jobId
    call.request.planGeneration call.request.shardId
    gradients call.request.sequence).node.shards = node.shards.insert call.key stepped :=
  (updateOptimizer_shards digests self).shards

/- The optimizers after a step of the shard. -/
theorem stepped_optimizers : (updateOptimizerStateAndReplicate digests self call.env
    (putShard node call.key stepped) call.request.jobId
    call.request.planGeneration call.request.shardId
    gradients call.request.sequence).node.optimizers =
    match optimizerStep digests self node call.request.jobId
      call.request.planGeneration call.request.shardId gradients call.request.sequence with
    | .ok (some (_, install)) =>
      if call.env.optimizerWritten then
        node.optimizers.insert call.key (incomingOptimizer install)
      else
        node.optimizers
    | _ => node.optimizers := by
  rw [updateOptimizer_node]
  have hSame : optimizerStep digests self (putShard node call.key stepped) call.request.jobId
    call.request.planGeneration call.request.shardId gradients call.request.sequence =
    optimizerStep digests self node call.request.jobId
      call.request.planGeneration call.request.shardId gradients call.request.sequence := rfl
  rw [hSame]
  cases optimizerStep digests self node call.request.jobId
    call.request.planGeneration call.request.shardId gradients call.request.sequence with
  | error error => rfl
  | ok step =>
    cases step with
    | none => rfl
    | some step => cases hWritten : call.env.optimizerWritten <;> rfl

end

----
-- Both or Neither
----

theorem Keyed.backwardStep (hKeyed : Keyed node) (call : BackwardCall) :
    Keyed (Tensor.backwardStep digests self node call) := by
  cases backwardStep_cases digests self hKeyed with
  | same hNext _ =>
    rw [hNext]
    exact hKeyed
  | stepped shard gradients hShard _ _ _ _ hNext =>
    intro key other hOther
    rw [hNext, stepped_shards] at hOther
    rcases getElem?_of_insert hOther with ⟨hKey, rfl⟩ | hOther
    · exact (hKeyed call.key shard hShard).trans hKey
    · exact hKeyed key other hOther

/-
  A request keeps a shard and its optimizer in step if and only
  if, where it steps the shard, it steps the optimizer as well.
-/
theorem inStep_backwardStep_iff {key : ShardKey} {call : BackwardCall} (hKeyed : Keyed node)
    (hIn : InStep key node) : InStep key (backwardStep digests self node call) ↔
      keepsStep digests self key node call = true := by
  cases backwardStep_cases digests self hKeyed with
  | same hNext hIdle =>
    rw [hNext]
    refine iff_of_true hIn ?_
    rcases hIdle with hOld | hUnwritten
    · simp [keepsStep, hOld]
    · simp [keepsStep, hUnwritten]
  | stepped shard gradients hShard hLength hLater hNew hWritten hNext =>
    rcases hIn with ⟨found, state, hFound, hState, hSame⟩
    by_cases hKey : call.key = key
    · subst hKey
      have hEq : found = shard := Option.some.inj (hFound.symm.trans hShard)
      subst hEq
      have hBehind : state.lastSequence < call.request.sequence := hSame ▸ hLater
      have hReady := optimizerStep_iff_ready digests self node call hShard hState hLength hBehind
      have hShards : (backwardStep digests self node call).shards[call.key]? =
        some (steppedShard digests call.request.learningRateMicros found gradients
          call.request.sequence) := by
        rw [hNext, stepped_shards, getElem?_insert, if_pos rfl]
      have hKeeps : keepsStep digests self call.key node call =
        (optimizerReady self node call && call.env.optimizerWritten) := by
        simp [keepsStep, hNew, hWritten]
      rw [hKeeps, Bool.and_eq_true, ← hReady]
      constructor
      · rintro ⟨after, next, hAfter, hOptimizer, hAgain⟩
        have hAfterEq := Option.some.inj (hAfter.symm.trans hShards)
        subst hAfterEq
        -- an optimizer that is left behind is not in step
        have hMoved : next ≠ state := by
          intro hStay
          subst hStay
          exact absurd (hAgain ▸ hBehind) (UInt64.lt_irrefl _)
        rw [hNext, stepped_optimizers] at hOptimizer
        split at hOptimizer
        · next placement install hStep =>
            split_ifs at hOptimizer with hDisk
            · exact ⟨⟨placement, install, hStep⟩, hDisk⟩
            · exact absurd (Option.some.inj (hOptimizer.symm.trans hState)) hMoved
        · exact absurd (Option.some.inj (hOptimizer.symm.trans hState)) hMoved
      · rintro ⟨⟨placement, install, hStep⟩, hDisk⟩
        have hSpec := optimizerStep_spec digests self hStep
        refine ⟨_, incomingOptimizer install, hShards, ?_, hSpec.1.symm⟩
        rw [hNext, stepped_optimizers, hStep]
        simp [hDisk]
    · refine iff_of_true ⟨found, state, ?_, ?_, hSame⟩ ?_
      · rw [hNext, stepped_shards, getElem?_insert, if_neg hKey]
        exact hFound
      · rw [hNext, stepped_optimizers]
        split
        · split_ifs
          · rw [getElem?_insert, if_neg hKey]
            exact hState
          · exact hState
        · exact hState
      · simp [keepsStep, hKey]

----
-- Runs
----

/-
  A call that changes a record of which it moves the last
  sequence up to its own does so once for each sequence.
-/
theorem count_changes_le_one (last : TensorNode → Option UInt64)
    {changes : TensorNode → BackwardCall → Bool} {sequence : UInt64}
    (hMoves : ∀ node call, Keyed node → let next := backwardStep digests self node call
      (last next = last node ∧ changes node call = false) ∨
        (last next = some call.request.sequence ∧ ∀ before, last node = some before →
          before < call.request.sequence))
    {start : TensorNode} {calls : List BackwardCall} (hKeyed : Keyed start) :
    count (fun node call => some (backwardStep digests self node call)) (fun node call =>
      call.request.sequence == sequence && changes node call)
      start calls ≤ 1 := by
  refine (count_le_one Keyed
    (fun node => ∃ before, last node = some before ∧ sequence ≤ before) ?_ ?_ start hKeyed
    (meets_of_forall_moment (fun _ _ _ _ _ _ => trivial))).1
  · rintro node call next hInv - ⟨⟩
    refine ⟨hInv.backwardStep digests self call, ?_⟩
    rintro ⟨before, hBefore, hPassed⟩
    rcases hMoves node call hInv with ⟨hSame, -⟩ | ⟨hLast, hLater⟩
    · exact ⟨before, hSame.trans hBefore, hPassed⟩
    · exact ⟨_, hLast, UInt64.le_trans hPassed (UInt64.le_of_lt (hLater before hBefore))⟩
  · rintro node call next hInv - ⟨⟩ hChanges
    rw [Bool.and_eq_true, beq_iff_eq] at hChanges
    rcases hChanges with ⟨rfl, hChanges⟩
    rcases hMoves node call hInv with ⟨-, hSame⟩ | ⟨hLast, hLater⟩
    · rw [hSame] at hChanges
      cases hChanges
    · refine ⟨?_, _, hLast, UInt64.le_refl _⟩
      rintro ⟨before, hBefore, hPassed⟩
      exact UInt64.not_le.mpr (hLater before hBefore) hPassed

theorem weights_move (key : ShardKey) (call : BackwardCall) (hKeyed : Keyed node) :
    let next := backwardStep digests self node call
    (next.shards[key]? = node.shards[key]?) ∨
      (next.shards[key]?.map (·.lastSequence) = some call.request.sequence ∧ ∀ before,
        node.shards[key]?.map (·.lastSequence) = some before → before < call.request.sequence) := by
  dsimp only
  cases backwardStep_cases digests self hKeyed with
  | same hNext _ =>
    rw [hNext]
    exact Or.inl rfl
  | stepped shard gradients hShard _ hLater _ _ hNext =>
    rw [hNext, stepped_shards, getElem?_insert]
    split_ifs with hKey
    · subst hKey
      refine Or.inr ⟨rfl, ?_⟩
      intro before hBefore
      rw [hShard] at hBefore
      cases hBefore
      exact hLater
    · exact Or.inl rfl

theorem optimizer_moves (key : ShardKey) (call : BackwardCall) (hKeyed : Keyed node) :
    let next := backwardStep digests self node call
    (next.optimizers[key]? = node.optimizers[key]?) ∨
      (next.optimizers[key]?.map (·.lastSequence) = some call.request.sequence ∧ ∀ before,
        node.optimizers[key]?.map (·.lastSequence) = some before →
          before < call.request.sequence) := by
  dsimp only
  cases backwardStep_cases digests self hKeyed with
  | same hNext _ =>
    rw [hNext]
    exact Or.inl rfl
  | stepped shard gradients _ _ _ _ _ hNext =>
    rw [hNext, stepped_optimizers]
    split
    · next placement install hStep =>
        have hSpec := optimizerStep_spec digests self hStep
        split_ifs
        · rw [getElem?_insert]
          split_ifs with hKey
          · subst hKey
            refine Or.inr ⟨congrArg some hSpec.1, ?_⟩
            intro before hBefore
            rcases Option.map_eq_some_iff.mp hBefore with ⟨state, hState, rfl⟩
            exact hSpec.2 state hState
          · exact Or.inl rfl
        · exact Or.inl rfl
    · exact Or.inl rfl

/-
  Requests repeated and reordered in any way, with writes and
  sends that fail at any point: each step of the shard and each
  step of its optimizer is taken at most once, and the two stay
  in step after every request if and only if every new step
  that is written finds an optimizer that can follow it.
-/
theorem backward_exactly_once (key : ShardKey) (start : TensorNode) (calls : List BackwardCall)
    (hKeyed : Keyed start) (hStart : InStep key start) : (∀ sequence, count (fun node call =>
      some (backwardStep digests self node call))
      (stepsWeights digests self key sequence)
      start calls ≤ 1 ∧ count (fun node call =>
        some (backwardStep digests self node call))
      (stepsOptimizer digests self key sequence)
      start calls ≤ 1) ∧ (Meets (fun node call =>
        some (backwardStep digests self node call))
      (fun node call =>
        InStep key (backwardStep digests self node call))
      start calls ↔ Meets (fun node call =>
        some (backwardStep digests self node call))
      (fun node call =>
        keepsStep digests self key node call = true)
      start calls) := by
  refine ⟨?_, ?_⟩
  · intro sequence
    constructor
    · refine count_changes_le_one digests self
        (fun node => node.shards[key]?.map (·.lastSequence)) ?_ hKeyed
      intro node call hNode
      rcases weights_move digests self key call hNode with hSame | hMoved
      · left
        simp [hSame]
      · exact Or.inr hMoved
    · refine count_changes_le_one digests self
        (fun node => node.optimizers[key]?.map (·.lastSequence)) ?_ hKeyed
      intro node call hNode
      rcases optimizer_moves digests self key call hNode
        with hSame | hMoved
      · left
        simp [hSame]
      · exact Or.inr hMoved
  · refine meets_iff_of_total (fun node => Keyed node ∧ InStep key node) ?_ start ⟨hKeyed, hStart⟩
    rintro node call ⟨hNode, hIn⟩
    refine ⟨inStep_backwardStep_iff digests self hNode hIn, ?_⟩
    intro hNext
    exact ⟨hNode.backwardStep digests self call, hNext⟩

----
-- A Step and a Failed Write
----

/- Worker 2 owns shard 1 of the small job. -/
def secondShard : V4LocalTensorShard :=
  modelShard 1 [0, 2, 1, 1, 1, 0, 1, 2]

def secondOwner : TensorNode :=
  { modelWorker with
    shards := (∅ : Std.TreeMap ShardKey V4LocalTensorShard).insert ⟨⟨7⟩, 1⟩ secondShard
    optimizers :=
      (∅ : Std.TreeMap ShardKey V4LocalOptimizerState).insert ⟨⟨7⟩, 1⟩ (modelOptimizer 1) }

theorem keyed_secondOwner : Keyed secondOwner := by
  intro key shard hShard
  rcases getElem?_of_insert hShard with ⟨hKey, rfl⟩ | hNone
  · exact hKey
  · simp at hNone

theorem inStep_secondOwner : InStep ⟨⟨7⟩, 1⟩ secondOwner :=
  ⟨secondShard, modelOptimizer 1, by decide +kernel, by decide +kernel, rfl⟩

/- The coordinator, worker 1, asks for the step of window 0. -/
def firstStep (optimizerWritten : Bool) : BackwardCall where
  env := { optimizerWritten := optimizerWritten }
  peer := ⟨1⟩
  request :=
    { requestId := ⟨5⟩
      jobId := ⟨7⟩
      planGeneration := 1
      modelGeneration := 1
      shardId := 1
      sequence := 4098
      input := [2, 4, 6, 8]
      upstream := [-900, 800]
      learningRateMicros := 10000 }

/- The request is answered twice. -/
theorem backward_exactly_once_repeated : (Keyed secondOwner ∧ InStep ⟨⟨7⟩, 1⟩ secondOwner) ∧
    Meets (fun node call =>
      some (backwardStep modelDigests ⟨2⟩ node call))
      (fun node call =>
        InStep ⟨⟨7⟩, 1⟩ (backwardStep modelDigests ⟨2⟩ node call))
      secondOwner [firstStep true, firstStep true] :=
  ⟨⟨keyed_secondOwner, inStep_secondOwner⟩,
    (backward_exactly_once modelDigests ⟨2⟩ ⟨⟨7⟩, 1⟩ secondOwner
      [firstStep true, firstStep true] keyed_secondOwner
      inStep_secondOwner).2.mpr (by decide +kernel)⟩

/-
  The file of the optimizer state cannot be written: the shard
  has taken the step, the optimizer has not, and a repeated
  request changes neither.
-/
theorem backward_half_taken : (Keyed secondOwner ∧ InStep ⟨⟨7⟩, 1⟩ secondOwner) ∧ ¬ Meets
    (fun node call =>
      some (backwardStep modelDigests ⟨2⟩ node call))
    (fun node call =>
      InStep ⟨⟨7⟩, 1⟩ (backwardStep modelDigests ⟨2⟩ node call))
    secondOwner [firstStep false, firstStep true] := by
  refine ⟨⟨keyed_secondOwner, inStep_secondOwner⟩, ?_⟩
  rintro ⟨hFirst, -⟩
  have hKeeps := (inStep_backwardStep_iff modelDigests ⟨2⟩ keyed_secondOwner
    inStep_secondOwner).mp hFirst
  have hFails : keepsStep modelDigests ⟨2⟩ ⟨⟨7⟩, 1⟩ secondOwner (firstStep false) = false := by
    decide +kernel
  cases hKeeps

end IntelligenceNetwork.Tensor
