import IntelligenceNetwork.Tensor.RoundRuns

/-
  Where a shard is placed, and what a round makes of it.

  The coordinator steps its own shards with another rate than
  it asks the owners of the others to use, which the weights
  show unless the rounding or the bound hides the difference.

  Main declarations:
    * `SameStart`
    * `RateHidden`
    * `placement_keeps_result_iff`
-/

----
-- Two Rates
----

namespace IntelligenceNetwork.Tensor

open Frontier

variable {shard : V4ShardOwnership} {weights : List Int}

/-
  The step of a weight with one rate and with the other: both
  are rounded away, or both end at the same bound.
-/
def hidesRate (weight gradient : Int) : Bool :=
  gradient.natAbs < 10 ||
    (weight - gradient.tdiv 10 ≥ 1000000000 && weight - gradient.tdiv 100 ≥ 1000000000) ||
    (weight - gradient.tdiv 10 ≤ -1000000000 && weight - gradient.tdiv 100 ≤ -1000000000)

theorem tdiv_local (gradient : Int) : (gradient * localRateMicros).tdiv 1000000 =
    gradient.tdiv 10 :=
  Int.mul_tdiv_mul_of_pos_left gradient 10 (by decide)

theorem tdiv_remote (gradient : Int) : (gradient * remoteRateMicros).tdiv 1000000 =
    gradient.tdiv 100 :=
  Int.mul_tdiv_mul_of_pos_left gradient 100 (by decide)

/- The quotients differ unless both are zero. -/
theorem tdiv_eq_tdiv_iff (gradient : Int) : gradient.tdiv 10 = gradient.tdiv 100 ↔
    gradient.natAbs < 10 := by
  rcases Int.le_total 0 gradient with hPos | _
  · rw [Int.tdiv_eq_ediv_of_nonneg hPos, Int.tdiv_eq_ediv_of_nonneg hPos]
    omega
  · obtain ⟨size, rfl⟩ : ∃ size, gradient = -size := ⟨-gradient, (Int.neg_neg gradient).symm⟩
    have hSize : 0 ≤ size := by omega
    rw [Int.neg_tdiv, Int.neg_tdiv, Int.tdiv_eq_ediv_of_nonneg hSize,
      Int.tdiv_eq_ediv_of_nonneg hSize]
    omega

theorem descend_eq_iff (weight gradient : Int) : descend localRateMicros weight gradient =
    descend remoteRateMicros weight gradient ↔ hidesRate weight gradient = true := by
  have hQuotients := tdiv_eq_tdiv_iff gradient
  simp only [descend, tdiv_local, tdiv_remote, clampValue,
    hidesRate, Bool.or_eq_true, Bool.and_eq_true, decide_eq_true_eq]
  omega

/- The step of a shard with one rate and with the other. -/
theorem zipWith_descend_eq_iff (weights gradients : List Int) :
    List.zipWith (descend localRateMicros) weights gradients =
      List.zipWith (descend remoteRateMicros) weights gradients ↔
      (weights.zip gradients).all (Function.uncurry hidesRate) = true := by
  induction weights generalizing gradients with
  | nil => simp
  | cons weight weights ih =>
    cases gradients with
    | nil => simp
    | cons gradient gradients =>
      simp only [List.zipWith_cons_cons, List.cons.injEq, List.zip_cons_cons, List.all_cons,
        Bool.and_eq_true, Function.uncurry_apply_pair]
      rw [descend_eq_iff, ih]

----
-- Two Placements
----

/- What the result of a round depends on. -/
structure ShardStart where
  (rows cols : UInt16)
  weights : List Int
  taken : Bool

def Round.startOf (round : Round) (start : NodeId → TensorNode)
    (shard : V4ShardOwnership) : Option ShardStart :=
  (round.recordOf start shard).map (fun record =>
    { rows := record.rows
      cols := record.cols
      weights := record.weights
      taken := round.sequence == record.lastSequence })

/- Two shards of the same number, in two rounds. -/
def Twins (round other : Round) (shard twin : V4ShardOwnership) : Prop :=
  shard ∈ round.graph.shards ∧ twin ∈ other.graph.shards ∧ shard.shardId = twin.shardId

/- Two rounds of the same shards, wherever they are placed. -/
structure SameStart (round other : Round) (start start' : NodeId → TensorNode) : Prop where
  shardIds : round.graph.shards.map V4ShardOwnership.shardId =
    other.graph.shards.map V4ShardOwnership.shardId
  records : ∀ shard twin, Twins round other shard twin →
    round.startOf start shard = other.startOf start' twin
  optimizers : ∀ shard twin, Twins round other shard twin →
    (round.optimizerOf start shard).map (·.values) = (other.optimizerOf start' twin).map (·.values)

/- Two rounds that leave the same and return the same loss. -/
structure SameResult (round other : Round) (nodes nodes' : NodeId → TensorNode)
    (result result' : Frontier.TensorRound) : Prop where
  weights : ∀ shard twin, Twins round other shard twin →
    (round.recordOf nodes shard).map (·.weights) = (other.recordOf nodes' twin).map (·.weights)
  optimizers : ∀ shard twin, Twins round other shard twin →
    (round.optimizerOf nodes shard).map (·.values) = (other.optimizerOf nodes' twin).map (·.values)
  loss : result.loss = result'.loss

/- The gradients of a shard's step, if it takes one. -/
def ShardStart.gradients (first : ShardStart) : Option (List Int) :=
  (matrixVector first.rows first.cols first.weights roundInput).bind (fun values =>
    elementwiseMultiply first.weights
      (repeatedUpstream first.rows first.cols (outputErrors values)))

/- The weights of a shard hide the rate of its step. -/
def hidesRates (first : ShardStart) : Bool :=
  first.gradients.all (fun gradients =>
    (first.weights.zip gradients).all (Function.uncurry hidesRate))

/-
  Every shard that only one of two rounds places on the
  coordinator has taken the step before, or hides the rate.
-/
def RateHidden (round other : Round) (start : NodeId → TensorNode) : Prop :=
  ∀ shard twin, Twins round other shard twin →
    ¬ (ownerOf shard = round.lead ↔ ownerOf twin = other.lead) →
      ∀ first, round.startOf start shard = some first → first.taken = true ∨ hidesRates first = true

----
-- The Same Round Elsewhere
----

section

variable {digests : StateDigests} {round other : Round}
variable {start start' nodes nodes' : NodeId → TensorNode} {twin : V4ShardOwnership}

/- What a step of a round leaves, in terms of its start. -/
theorem Taken.view (hTaken : Taken digests round start nodes shard) :
    ∃ first, round.startOf start shard = some first ∧
      (first.taken = true ∧ (round.recordOf nodes shard).map (·.weights) = some first.weights ∧
        (round.optimizerOf nodes shard).map (·.values) =
          (round.optimizerOf start shard).map (·.values) ∨
        first.taken = false ∧ ∃ gradients, first.gradients = some gradients ∧
          (round.recordOf nodes shard).map (·.weights) =
            some (List.zipWith (descend (round.rateOf shard)) first.weights gradients) ∧
          (round.optimizerOf nodes shard).map (·.values) = some (List.zipWith accumulate
            (((round.optimizerOf start shard).map (·.values)).getD
              (List.replicate gradients.length 0))
            gradients)) := by
  cases hTaken with
  | again record hStart hSequence hUntouched =>
    refine ⟨_, by rw [Round.startOf, hStart]; rfl, Or.inl ⟨?_, ?_, ?_⟩⟩
    · simpa using hSequence
    · rw [hUntouched.1, hStart]
      rfl
    · rw [hUntouched.2]
  | stepped record values gradients placement modelGeneration
    hStart hOutput hGradients hSequence hRecord hOptimizer =>
    refine ⟨_, by rw [Round.startOf, hStart]; rfl, Or.inr ⟨?_, gradients, ?_, ?_, ?_⟩⟩
    · simpa using hSequence
    · simp [ShardStart.gradients, hOutput, hGradients]
    · rw [hRecord]
      rfl
    · rw [hOptimizer]
      rfl

/- The rates of two placements, and when they differ. -/
theorem rateOf_eq_of_iff (hPlaces : ownerOf shard = round.lead ↔ ownerOf twin = other.lead) :
    round.rateOf shard = other.rateOf twin := by
  unfold Round.rateOf
  by_cases hLocal : ownerOf shard = round.lead
  · rw [if_pos hLocal, if_pos (hPlaces.mp hLocal)]
  · rw [if_neg hLocal, if_neg (hPlaces.not.mp hLocal)]

theorem zipWith_rateOf_eq_iff {gradients : List Int}
    (hPlaces : ¬ (ownerOf shard = round.lead ↔ ownerOf twin = other.lead)) :
    List.zipWith (descend (round.rateOf shard)) weights gradients =
      List.zipWith (descend (other.rateOf twin)) weights gradients ↔
      (weights.zip gradients).all (Function.uncurry hidesRate) = true := by
  rw [← zipWith_descend_eq_iff]
  unfold Round.rateOf
  by_cases hLocal : ownerOf shard = round.lead
  · have hRemote : ownerOf twin ≠ other.lead := by
      intro hTwin
      exact hPlaces (iff_of_true hLocal hTwin)
    rw [if_pos hLocal, if_neg hRemote]
  · have hTwin : ownerOf twin = other.lead := by
      by_contra hRemote
      exact hPlaces (iff_of_false hLocal hRemote)
    rw [if_neg hLocal, if_pos hTwin]
    exact eq_comm

section

variable (hTaken : Taken digests round start nodes shard)
variable (hTwin : Taken digests other start' nodes' twin)
variable (hStart : round.startOf start shard = other.startOf start' twin)
include hTaken hTwin hStart

/- The optimizer of a shard does not depend on the placement. -/
theorem Taken.optimizers_eq (hOptimizers : (round.optimizerOf start shard).map (·.values) =
    (other.optimizerOf start' twin).map (·.values)) :
    (round.optimizerOf nodes shard).map (·.values) =
      (other.optimizerOf nodes' twin).map (·.values) := by
  rcases hTaken.view with ⟨first, hFirst, hView⟩
  rcases hTwin.view with ⟨second, hSecond, hView'⟩
  have hSame : first = second := by
    rw [hFirst, hSecond] at hStart
    exact Option.some.inj hStart
  subst hSame
  rcases hView with ⟨hAgain, -, hKept⟩ | ⟨hNew, _, hStep, -, hMoved⟩
  · rcases hView' with ⟨-, -, hKept'⟩ | ⟨hNew', -⟩
    · rw [hKept, hKept', hOptimizers]
    · rw [hAgain] at hNew'
      cases hNew'
  · rcases hView' with ⟨hAgain', -⟩ | ⟨-, _, hStep', -, hMoved'⟩
    · rw [hNew] at hAgain'
      cases hAgain'
    · rw [hStep] at hStep'
      cases hStep'
      rw [hMoved, hMoved', hOptimizers]

/- The weights do, where one of two rates shows. -/
theorem Taken.weights_eq_iff :
    (round.recordOf nodes shard).map (·.weights) = (other.recordOf nodes' twin).map (·.weights) ↔
      (¬ (ownerOf shard = round.lead ↔ ownerOf twin = other.lead) →
        ∀ first, round.startOf start shard = some first →
          first.taken = true ∨ hidesRates first = true) := by
  rcases hTaken.view with ⟨first, hFirst, hView⟩
  rcases hTwin.view with ⟨second, hSecond, hView'⟩
  have hSame : first = second := by
    rw [hFirst, hSecond] at hStart
    exact Option.some.inj hStart
  subst hSame
  simp only [hFirst, Option.some.injEq, forall_eq']
  rcases hView with ⟨hAgain, hKept, -⟩ | ⟨hNew, gradients, hStep, hMoved, -⟩
  · rcases hView' with ⟨-, hKept', -⟩ | ⟨hNew', -⟩
    · simp [hKept, hKept', hAgain]
    · rw [hAgain] at hNew'
      cases hNew'
  · rcases hView' with ⟨hAgain', -⟩ | ⟨-, _, hStep', hMoved', -⟩
    · rw [hNew] at hAgain'
      cases hAgain'
    · rw [hStep] at hStep'
      cases hStep'
      rw [hMoved, hMoved', Option.some.injEq]
      simp only [hNew, Bool.false_eq_true, false_or, hidesRates, hStep, Option.all_some]
      by_cases hPlaces : ownerOf shard = round.lead ↔ ownerOf twin = other.lead
      · rw [rateOf_eq_of_iff hPlaces]
        simp [hPlaces]
      · rw [zipWith_rateOf_eq_iff hPlaces]
        simp only [hPlaces, not_false_eq_true, true_implies]

end

/- Nor does the loss. -/
theorem lossOf_unique {loss loss' : Int} (hSame : SameStart round other start start')
    (hLoss : LossOf round start loss) (hLoss' : LossOf other start' loss') : loss = loss' := by
  rcases hLoss with ⟨outputs, hOutputs, rfl⟩
  rcases hLoss' with ⟨outputs', hOutputs', rfl⟩
  have hSum : ∀ (shards : List V4ShardOwnership) (outputs : UInt16 → List Int),
    (shards.map (fun shard =>
      sumSquares (outputErrors (outputs shard.shardId)))).sum =
      ((shards.map V4ShardOwnership.shardId).map (fun shardId =>
        sumSquares (outputErrors (outputs shardId)))).sum := by
    intro shards outputs
    rw [List.map_map]
    rfl
  rw [hSum, hSum, hSame.shardIds]
  congr 1
  apply List.map_congr_left
  intro shardId hShardId
  have hHere := hShardId
  rw [← hSame.shardIds, List.mem_map] at hHere
  rcases List.mem_map.mp hShardId with ⟨twin, hTwin, rfl⟩
  rcases hHere with ⟨shard, hShard, hId⟩
  rcases hOutputs shard hShard with ⟨record, hRecord, hValues⟩
  rcases hOutputs' twin hTwin with ⟨record', hRecord', hValues'⟩
  have hStart := hSame.records shard twin ⟨hShard, hTwin, hId⟩
  rw [Round.startOf, Round.startOf, hRecord, hRecord'] at hStart
  simp only [Option.map_some, Option.some.injEq, ShardStart.mk.injEq] at hStart
  rcases hStart with ⟨hRows, hCols, hWeights, -⟩
  rw [hRows, hCols, hWeights, hValues', hId] at hValues
  rw [Option.some.inj hValues]

/-
  Two rounds of the same shards leave the same weights and
  optimizer states and return the same loss if and only if
  every shard that changes between the coordinator and another
  owner hides the rate of its step.
-/
theorem placement_keeps_result_iff (digests : StateDigests) (round other : Round)
    (start start' : NodeId → TensorNode) (actions actions' : List Nat)
    (net net' : TensorNet RoundStage) (result result' : Frontier.TensorRound)
    (hActive : Activated digests round start) (hActive' : Activated digests other start')
    (hStart : SameStart round other start start') (hRun : Transition.run (roundStep digests round)
      (beginRound digests round start) actions = some net)
    (hRun' : Transition.run (roundStep digests other)
      (beginRound digests other start') actions' = some net')
    (hReturned : net.stage = .returned result)
    (hReturned' : net'.stage = .returned result') :
    SameResult round other net.nodes net'.nodes result result' ↔ RateHidden round other start := by
  rcases taken_of_returned hActive hRun hReturned with ⟨hTaken, loss, hLoss, hSum⟩
  rcases taken_of_returned hActive' hRun' hReturned' with ⟨hTaken', loss', hLoss', hSum'⟩
  have hWeights : ∀ shard twin, Twins round other shard twin →
    _ :=
    fun shard twin hTwins =>
      (hTaken shard hTwins.1).weights_eq_iff (hTaken' twin hTwins.2.1)
        (hStart.records shard twin hTwins)
  constructor
  · intro hSame shard twin hTwins
    exact (hWeights shard twin hTwins).mp (hSame.weights shard twin hTwins)
  · intro hHidden
    refine ⟨?_, ?_, ?_⟩
    · intro shard twin hTwins
      exact (hWeights shard twin hTwins).mpr (hHidden shard twin hTwins)
    · intro shard twin hTwins
      exact (hTaken shard hTwins.1).optimizers_eq (hTaken' twin hTwins.2.1)
        (hStart.records shard twin hTwins) (hStart.optimizers shard twin hTwins)
    · rw [hLoss, hLoss', lossOf_unique hStart hSum hSum']

end

----
-- A Shard on the Coordinator, or Not
----

/- Shard 0 of the small job on worker 3 instead of worker 1. -/
def movedShards : List V4ShardOwnership :=
  modelStart.plan.shards.map (fun shard =>
    if shard.shardId = 0 then { shard with owners := [⟨3⟩], replicas := [⟨1⟩] } else shard)

def movedPlan : V4TrainingPlan :=
  let plan := { modelStart.plan with shards := movedShards }
  { plan with planHash := hashPlan modelDigests.toDigests plan }

def movedGraph : V4ExecutionGraph :=
  let graph : V4ExecutionGraph :=
    { modelStart.graph with
      shards := movedShards
      planHash := movedPlan.planHash
      optimizerShards := movedShards.map (fun (shard : V4ShardOwnership) =>
        ⟨shard.shardId, shard.owners.headI, shard.replicas, modelStart.graph.optimizerGeneration⟩) }
  { graph with graphHash := executionGraphHash modelDigests.toDigests graph }

section

variable (moved : Bool)

/- Window 0, led by worker 1. -/
def placedRound : Round where
  lead := ⟨1⟩
  graph := if moved then movedGraph else modelStart.graph
  plan := if moved then movedPlan else modelStart.plan
  requestId := ⟨5⟩
  window := 0

/- The shard that a worker owns, if it owns one. -/
def placedAt (id : NodeId) : Option UInt16 :=
  if id = ⟨if moved then 3 else 1⟩ then
    some 0
  else if id = ⟨2⟩ then
    some 1
  else
    none

def placedNodes (weights : List Int) (id : NodeId) : TensorNode where
  plans := (∅ : Std.TreeMap JobId V4TrainingPlan).insert ⟨7⟩ (placedRound moved).plan
  graphs := (∅ : Std.TreeMap JobId V4ExecutionGraph).insert ⟨7⟩ (placedRound moved).graph
  shards :=
    match placedAt moved id with
    | none => ∅
    | some shardId =>
      (∅ : Std.TreeMap ShardKey V4LocalTensorShard).insert
        ⟨⟨7⟩, shardId⟩ (modelShard shardId weights)
  optimizers :=
    match placedAt moved id with
    | none => ∅
    | some shardId =>
      (∅ : Std.TreeMap ShardKey V4LocalOptimizerState).insert
        ⟨⟨7⟩, shardId⟩ (modelOptimizer shardId)

/- Every message of the round is delivered in turn. -/
def placedActions : List Nat :=
  List.replicate (if moved then 16 else 10) 0

def placedRun (weights : List Int) : Option (TensorNet RoundStage) :=
  Transition.run (roundStep modelDigests (placedRound moved))
    (beginRound modelDigests (placedRound moved) (placedNodes moved weights)) (placedActions moved)

end

/- The round has returned and no message is left. -/
def finished (net : TensorNet RoundStage) : Bool :=
  net.flight.isEmpty &&
    match net.stage with
    | .returned _ => true
    | _ => false

theorem finished_iff {net : TensorNet RoundStage} : finished net = true ↔ net.flight = [] ∧
    ∃ result, net.stage = .returned result := by
  unfold finished
  cases net.stage <;> simp

section

variable {moved : Bool}

theorem placed_job : IntegratedJob modelDigests (placedRound moved).graph
    (placedRound moved).plan := by
  cases moved <;>
    exact ⟨by decide +kernel, by decide +kernel,
      by decide +kernel, by decide +kernel, by decide +kernel,
      by decide +kernel, by decide +kernel, by decide +kernel, by decide +kernel⟩

theorem placed_jobId : (placedRound moved).graph.jobId = ⟨7⟩ := by
  cases moved <;> decide +kernel

theorem placed_active : Activated modelDigests (placedRound moved) (placedNodes moved weights) := by
  refine ⟨placed_job, ?_, ?_, ?_⟩
  · intro worker hWorker
    rw [placed_jobId]
    simp [placedNodes]
  · intro worker _
    rw [placed_jobId]
    simp [placedNodes]
  · intro id key shard hShard
    unfold placedNodes at hShard
    cases hAt : placedAt moved id with
    | none =>
      rw [hAt] at hShard
      simp at hShard
    | some shardId =>
      rw [hAt] at hShard
      rcases OrderedMap.getElem?_of_insert hShard with ⟨hKey, rfl⟩ | hShard
      · exact hKey
      · simp at hShard

theorem placedAt_owner : ∀ shard ∈ (placedRound moved).graph.shards,
    placedAt moved (ownerOf shard) = some shard.shardId := by
  cases moved <;> decide +kernel

theorem placed_recordOf (hShard : shard ∈ (placedRound moved).graph.shards) :
    (placedRound moved).recordOf (placedNodes moved weights) shard =
      some (modelShard shard.shardId weights) ∧
      (placedRound moved).optimizerOf (placedNodes moved weights) shard =
        some (modelOptimizer shard.shardId) := by
  simp [Round.recordOf, Round.optimizerOf, Round.keyOf, placedNodes, placed_jobId,
    placedAt_owner shard hShard]

end

/- Both placements start from the same shards. -/
theorem placed_sameStart : SameStart (placedRound false) (placedRound true)
    (placedNodes false weights) (placedNodes true weights) := by
  refine ⟨by decide +kernel, ?_, ?_⟩
  · rintro shard twin ⟨hShard, hTwin, hId⟩
    have hSequence : (placedRound false).sequence = (placedRound true).sequence := by
      decide +kernel
    rw [Round.startOf, Round.startOf, (placed_recordOf hShard).1, (placed_recordOf hTwin).1, hId,
      hSequence]
  · rintro shard twin ⟨hShard, hTwin, hId⟩
    rw [(placed_recordOf hShard).2, (placed_recordOf hTwin).2, hId]

/-
  A shard whose outputs meet the target has no gradient, so its
  round is the same on worker 1 and on worker 3.
-/
theorem placement_keeps_settled : ∃ net net' result result',
    placedRun false [0, 0, 0, 4, 0, 0, 0, 4] = some net ∧
      placedRun true [0, 0, 0, 4, 0, 0, 0, 4] = some net' ∧ net.stage = .returned result ∧
      net'.stage = .returned result' ∧
      SameResult (placedRound false) (placedRound true) net.nodes net'.nodes result result' := by
  have hDone : ∀ moved, (placedRun moved [0, 0, 0, 4, 0, 0, 0, 4]).any finished =
    true := by
    decide +kernel
  rcases (Option.any_eq_true _ _).mp (hDone false) with ⟨net, hRun, hFinished⟩
  rcases (Option.any_eq_true _ _).mp (hDone true) with ⟨net', hRun', hFinished'⟩
  rcases finished_iff.mp hFinished with ⟨-, result, hReturned⟩
  rcases finished_iff.mp hFinished' with ⟨-, result', hReturned'⟩
  refine ⟨net, net', result, result', hRun, hRun', hReturned, hReturned', ?_⟩
  refine (placement_keeps_result_iff modelDigests (placedRound false) (placedRound true) _ _
    (placedActions false) (placedActions true) net net' result result' placed_active placed_active
    placed_sameStart hRun hRun' hReturned hReturned').mpr ?_
  rintro shard twin ⟨hShard, -, -⟩ - first hFirst
  rw [Round.startOf, (placed_recordOf hShard).1] at hFirst
  cases hFirst
  right
  have hHidden : ∀ shard ∈ (placedRound false).graph.shards, hidesRates
    { rows := 2, cols := 4, weights := [0, 0, 0, 4, 0, 0, 0, 4], taken := false } = true := by
    decide +kernel
  exact hHidden shard hShard

/-
  The first weights of the reference job move with one rate,
  and are rounded back with the other.
-/
theorem placement_changes_first_weights : Activated modelDigests (placedRound false)
    (placedNodes false (initialTensorWeights 0)) ∧
    Activated modelDigests (placedRound true) (placedNodes true (initialTensorWeights 0)) ∧
    SameStart (placedRound false) (placedRound true)
      (placedNodes false (initialTensorWeights 0))
      (placedNodes true (initialTensorWeights 0)) ∧
    ∃ net net' result result', placedRun false (initialTensorWeights 0) = some net ∧
      placedRun true (initialTensorWeights 0) = some net' ∧
      net.flight = [] ∧ net'.flight = [] ∧ net.stage = .returned result ∧
      net'.stage = .returned result' ∧
      ¬ SameResult (placedRound false) (placedRound true)
        net.nodes net'.nodes result result' := by
  refine ⟨placed_active, placed_active, placed_sameStart, ?_⟩
  have hDone : ∀ moved, (placedRun moved (initialTensorWeights 0)).any
    finished = true := by
    decide +kernel
  rcases (Option.any_eq_true _ _).mp (hDone false) with ⟨net, hRun, hFinished⟩
  rcases (Option.any_eq_true _ _).mp (hDone true) with ⟨net', hRun', hFinished'⟩
  rcases finished_iff.mp hFinished with ⟨hFlight, result, hReturned⟩
  rcases finished_iff.mp hFinished' with ⟨hFlight', result', hReturned'⟩
  refine ⟨net, net', result, result', hRun, hRun', hFlight, hFlight', hReturned, hReturned', ?_⟩
  intro hSame
  have hDiffer : ∃ shard ∈ (placedRound false).graph.shards,
    ∃ twin ∈ (placedRound true).graph.shards, shard.shardId = twin.shardId ∧
      (placedRun false (initialTensorWeights 0)).map (fun net =>
        ((placedRound false).recordOf net.nodes shard).map (·.weights)) ≠
        (placedRun true (initialTensorWeights 0)).map (fun net =>
          ((placedRound true).recordOf net.nodes twin).map (·.weights)) := by
    decide +kernel
  rcases hDiffer with ⟨shard, hShard, twin, hTwin, hId, hNe⟩
  apply hNe
  rw [hRun, hRun', Option.map_some, Option.map_some, hSame.weights shard twin ⟨hShard, hTwin, hId⟩]

end IntelligenceNetwork.Tensor
