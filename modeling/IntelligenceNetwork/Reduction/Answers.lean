import IntelligenceNetwork.Reduction.Request

/-
  Every order in which the updates of a request can arrive.

  An answer is sent when the last update has come, unless the
  security ledger has refused one of them.  It passes the
  validation of the protocol only if some worker was left out.

  Main declarations:
    * `Gathered`
    * `Gathering.aggregate`
    * `gather_answers_iff`
-/

----
-- One Delivery
----

namespace IntelligenceNetwork.Reduction

open OrderedMap

variable {done shares : List Share} {node start : ReduceNode} {plan : V4TrainingPlan}
variable {request : Request} {share : Share} {width : Nat}

open Security (TrainingContribution LocalSecurityState
  SecurityPolicy SameLedger replayKey contributionBounded
  expire enterContribution)

/- The record of a request. -/
def Request.state (request : Request) (aggregator : NodeId) (width : Nat)
    (updates : Std.TreeMap NodeId (UInt64 × List Int)) (completed : Option V4ByzantineResult) :
    V4ByzantineState where
  jobId := request.jobId
  planGeneration := request.planGeneration
  generation := request.generation
  aggregator := aggregator
  expectedUpdates := request.expectedUpdates
  policy := request.policy
  replyTo := request.replyTo
  valueLen := width
  updates := updates
  completed := completed

variable (digests : Tensor.StateDigests) (contributionDigest : TrainingContribution → ArtifactId)
variable (self : NodeId)

/- The aggregator with some shares of the request. -/
structure Gathered (home : NodeId) (plan : V4TrainingPlan) (start : ReduceNode) (request : Request)
    (shares : List Share) (width : Nat) (done : List Share) (node : ReduceNode) : Prop where
  plans : node.plans = start.plans
  record : ∃ updates, Describes updates done ∧
    (node.byzantine[request.requestId]? = some (request.state home width updates none) ∨
      node.byzantine[request.requestId]? = none ∧ updates = ∅ ∧
        node.byzantine.size < v4MaxAggregationRequests)
  ledger : Entered contributionDigest request plan shares start.security.policy done node.security

/- The aggregator once it has answered. -/
structure Answered (home : NodeId) (plan : V4TrainingPlan) (start : ReduceNode) (request : Request)
    (shares : List Share) (width : Nat) (result : V4ByzantineResult)
    (node : ReduceNode) : Prop where
  plans : node.plans = start.plans
  record : node.byzantine[request.requestId]? = some (request.state home width ∅ (some result))
  ledger : Entered contributionDigest request plan shares start.security.policy shares node.security
  workers : (result.acceptedWorkers ++ result.rejectedWorkers).Perm (shares.map Share.worker)
  valid : Validation.v4ByzantineResult result = .ok () ↔
    ∃ share ∈ shares, isOutlier clipBound share.values = true

variable {digests} {contributionDigest} {self}
variable (hStart : Gathering digests self plan start request shares)

section

include hStart

theorem Gathering.planFacts : Validation.PlanFacts plan := by
  have hOk := hStart.intact
  rw [Frontier.planIntact, Bool.and_eq_true] at hOk
  exact Validation.planFacts_of_ok ((Validation.isOk_iff _).mp hOk.2)

theorem Gathering.updatePlan_eq (hPlans : node.plans = start.plans) (hShare : share ∈ shares) :
    updatePlan digests self node (request.update self share) = .ok plan := by
  have hOk := hStart.intact
  rw [Frontier.planIntact, Bool.and_eq_true, beq_iff_eq] at hOk
  have hActive : node.plans[request.jobId]? = some plan := by
    rw [hPlans]
    exact hStart.active
  have hAuthorized : authorizedReferencePlan digests self node request.replyTo
    request.jobId request.planGeneration = .ok plan := by
    simp [authorizedReferencePlan, Tensor.authorizedReferencePlan, hActive, hStart.proposer,
      hStart.generation, hStart.aggregator, ← hOk.1, hOk.2]
  simp [updatePlan, Request.update, hAuthorized,
    Tensor.failIf, hStart.strategy, hStart.named share hShare, hStart.aggregator, bind, Except.bind]

/- A share from its worker meets the ledger and the record. -/
theorem Gathering.deliverShare_eq (hPlans : node.plans = start.plans) {now : UInt64}
    (hShare : share ∈ shares) :
    deliverShare digests contributionDigest self request node now share =
      (let checked := Security.admitTrainingUpdate contributionDigest
        node.security (request.entry plan share) plan.workers now
      match checked.result with
      | .error error =>
        refuseWith { node with security := checked.security }
          ("V6 training update rejected: " ++ error.text)
      | .ok _ =>
        takeUpdate { node with security := checked.security } now (request.update self share)) := by
  have hRoute : route self share.worker share.worker self
    "V4 update forward is not bound to the local worker"
    "V4 update worker binding failed" = .ok .record := by
    simp [route]
  unfold deliverShare receiveByzantineUpdate
  rw [hStart.updatePlan_eq hPlans hShare]
  dsimp only [Request.update]
  rw [hRoute]
  rfl

end

/- A share that is taken is put beside the others. -/
theorem takeUpdate_eq (target : ReduceNode) {updates : Std.TreeMap NodeId (UInt64 × List Int)}
    (hDone : Describes updates done)
    (hRecord : target.byzantine[request.requestId]? = some (request.state self width updates none) ∨
      target.byzantine[request.requestId]? = none ∧ updates = ∅ ∧
        target.byzantine.size < v4MaxAggregationRequests)
    (now : UInt64) (share : Share) (hWidth : share.values.length = width)
    (hNew : share.worker ∉ done.map Share.worker) :
    takeUpdate target now (request.update self share) =
      closeByzantine target now (request.update self share)
        (request.state self width (updates.insert share.worker (share.sequence, share.values)) none)
        [(share.worker, share.values)] := by
  have hAbsent : updates[share.worker]? = none := by
    cases hGet : updates[share.worker]? with
    | none => rfl
    | some value =>
      rcases (hDone share.worker value).mp hGet with ⟨other, hOther, hWorker, -⟩
      exact absurd (List.mem_map.mpr ⟨other, hOther, hWorker⟩) hNew
  have hFresh : recordUpdate target now (request.update self share)
    (request.state self width updates none) =
    closeByzantine target now (request.update self share) (request.state self width
      (updates.insert share.worker (share.sequence, share.values)) none)
      [(share.worker, share.values)] := by
    unfold recordUpdate
    rw [if_neg (by
      simp [updateConflicts, Request.state, Request.update, hWidth])]
    dsimp only [Request.state, Request.update]
    rw [hAbsent]
  rw [← hFresh]
  unfold takeUpdate
  dsimp only [Request.update]
  rcases hRecord with hSome | ⟨hNone, rfl, _⟩
  · rw [hSome]
    rfl
  · rw [hNone]
    rw [if_neg (by omega)]
    subst hWidth
    rfl

----
-- Runs
----

theorem noteOutliers_ledger (security : LocalSecurityState) (now : UInt64) (workers : List NodeId) :
    SameLedger security (noteOutliers security now workers) ∧
      (noteOutliers security now workers).quarantined = security.quarantined := by
  induction workers generalizing security with
  | nil => exact ⟨.refl security, rfl⟩
  | cons worker workers ih =>
    rcases ih (Security.event security now (some worker)
      .trainingUpdateRejected "v4_byzantine_aggregation"
      "bounded robust aggregation excluded an outlier update")
      with ⟨hLater, hQuarantined⟩
    have hEvent := Security.event_sameLedger security now (some worker) .trainingUpdateRejected
      "v4_byzantine_aggregation" "bounded robust aggregation excluded an outlier update"
    refine ⟨hEvent.trans hLater, hQuarantined.trans ?_⟩
    exact (Security.event_ledger _ _ _ _ _ _).2.1

theorem new_of_nodup {rest : List Share}
    (hDistinct : ((done ++ share :: rest).map Share.worker).Nodup) :
    share.worker ∉ done.map Share.worker ∧ ((done ++ [share]).map Share.worker).Nodup := by
  rw [List.map_append, List.map_cons, List.nodup_append'] at hDistinct
  refine ⟨fun hOld => hDistinct.2.2 hOld List.mem_cons_self, ?_⟩
  rw [List.map_append, List.nodup_append']
  refine ⟨hDistinct.1, by simp, ?_⟩
  exact List.disjoint_of_subset_right (by simp) hDistinct.2.2

/- The ledger has no entry of a share that has not come. -/
theorem Gathered.unknown
    (hNode : Gathered contributionDigest self plan start request shares width done node)
    (share : Share) (hShare : share ∈ shares) (hNew : share.worker ∉ done.map Share.worker) :
    node.security.replay[replayKey (request.entry plan share)]? = none := by
  cases hGet : node.security.replay[replayKey (request.entry plan share)]? with
  | none => rfl
  | some digest =>
    have hDone := (hNode.ledger.replayed share hShare digest hGet).1
    exact absurd (List.mem_map.mpr ⟨share, hDone, rfl⟩) hNew

theorem closeByzantine_replay (now : UInt64) (update : V4ByzantineUpdate) (state : V4ByzantineState)
    (taken : List (NodeId × List Int)) :
    (closeByzantine node now update state taken).node.security.replay = node.security.replay := by
  unfold closeByzantine
  split_ifs
  · split
    · rfl
    · exact (noteOutliers_ledger node.security now _).1.replay
  · rfl

/- What the shares of a request come to. -/
theorem Gathering.aggregate (hStart : Gathering digests self plan start request shares)
    (hWidth : ∀ share ∈ shares, share.values.length = width)
    (updates : Std.TreeMap NodeId (UInt64 × List Int)) (hAll : Describes updates shares)
    (last : Share) (hLast : last ∈ shares) :
    ∃ report, aggregateUpdates request.policy (updates.values.map Prod.snd) clipBound = .ok report ∧
      (Validation.v4ByzantineResult
        (byzantineResult (request.update self last) updates report) = .ok () ↔
        ∃ share ∈ shares, isOutlier clipBound share.values = true) := by
  have hFacts := updateFacts_of_ok (hStart.valid last hLast)
  have hSize := hAll.size hStart.distinct
  have hFew : updates.size ≤ maxV4PlanWorkers := by
    rw [hSize, hStart.complete]
    exact hFacts.few
  have hMem : ∀ values, values ∈ updates.values.map Prod.snd ↔
    ∃ share ∈ shares, share.values = values := by
    intro values
    simp only [List.mem_map, mem_values_iff]
    constructor
    · rintro ⟨value, ⟨worker, hValue⟩, rfl⟩
      rcases (hAll worker value).mp hValue with ⟨share, hShare, -, rfl⟩
      exact ⟨share, hShare, rfl⟩
    · rintro ⟨share, hShare, rfl⟩
      exact ⟨(share.sequence, share.values),
        ⟨share.worker, (hAll _ _).mpr ⟨share, hShare, rfl, rfl⟩⟩, rfl⟩
  have hPositive : 0 < width ∧ width ≤ 128 := by
    rw [← hWidth last hLast]
    exact ⟨List.length_pos_iff.mpr hFacts.nonempty, hFacts.short⟩
  rcases hStart.kept with ⟨kept, hKept, hInside⟩
  rcases aggregateUpdates_spec (by
    rw [List.length_map, values_eq_map_snd, List.length_map, Std.TreeMap.length_toList]
    exact hFew)
    hPositive
    (by
      intro values hValues
      rcases (hMem values).mp hValues with ⟨share, hShare, rfl⟩
      exact hWidth share hShare)
    ⟨kept.values, (hMem _).mpr ⟨kept, hKept, rfl⟩, hInside⟩
    with ⟨report, hReport, hLength, hSmall⟩
  refine ⟨report, hReport, ?_⟩
  have hRejected : ∀ worker, worker ∈ rejectedWorkers updates ↔
    ∃ share ∈ shares, share.worker = worker ∧ isOutlier clipBound share.values = true := by
    intro worker
    rw [mem_rejectedWorkers_iff]
    constructor
    · rintro ⟨value, hValue, hOut⟩
      rcases (hAll worker value).mp hValue with ⟨share, hShare, hWorker, rfl⟩
      exact ⟨share, hShare, hWorker, hOut⟩
    · rintro ⟨share, hShare, hWorker, hOut⟩
      exact ⟨_, (hAll worker _).mpr ⟨share, hShare, hWorker, rfl⟩, hOut⟩
  have hKeys := hAll.keys hStart.distinct
  rw [byzantineResult_valid_iff hFacts (by
    intro worker hWorker
    rcases List.mem_map.mp (hKeys.mem_iff.mp hWorker) with ⟨share, hShare, rfl⟩
    exact (updateFacts_of_ok (hStart.valid share hShare)).worker)
    hFew
    (by
      refine List.ne_nil_of_mem ((mem_acceptedWorkers_iff updates).mpr
        ⟨hKeys.mem_iff.mpr (List.mem_map.mpr ⟨kept, hKept, rfl⟩), ?_⟩)
      intro hOut
      rcases (hRejected _).mp hOut with ⟨other, hOther, hWorker, hOutlier⟩
      rw [share_eq_of_worker hStart.distinct hOther hKept hWorker, hInside] at hOutlier
      cases hOutlier)
    (by rw [hLength]; exact hPositive) hSmall]
  constructor
  · intro hNonempty
    rcases List.exists_mem_of_ne_nil _ hNonempty with ⟨worker, hWorker⟩
    rcases (hRejected worker).mp hWorker with ⟨share, hShare, -, hOut⟩
    exact ⟨share, hShare, hOut⟩
  · rintro ⟨share, hShare, hOut⟩
    exact List.ne_nil_of_mem ((hRejected share.worker).mpr ⟨share, hShare, rfl, hOut⟩)

section

variable (hWidth : ∀ share ∈ shares, share.values.length = width)
variable (hNode : Gathered contributionDigest self plan start request shares width done node)

include hStart hNode

/- A share beyond the bound of the ledger is not taken. -/
theorem Gathered.refused (now : UInt64) (share : Share) (hShare : share ∈ shares)
    (hNew : share.worker ∉ done.map Share.worker)
    (hBounds : contributionBounded start.security.policy (request.entry plan share) = false) :
    (deliverShare digests contributionDigest self request node now share).sends = [] ∧
      Gathered contributionDigest self plan start request shares width done
        (deliverShare digests contributionDigest self request node now share).node := by
  rw [hStart.deliverShare_eq hNode.plans hShare]
  dsimp only
  cases hNode.ledger.admission hShare (hStart.named share hShare) with
  | unbounded _ hResult hLedger hQuarantined =>
    rw [hResult]
    exact ⟨rfl, hNode.plans, hNode.record, hNode.ledger.of_sameLedger hLedger now hQuarantined⟩
  | known hKnown _ =>
    rw [hNode.unknown share hShare hNew] at hKnown
    cases hKnown
  | entered hInside _ _ =>
    rw [hNode.ledger.policy, hBounds] at hInside
    cases hInside

include hWidth

variable (now : UInt64) (share : Share)
  (hBounds : contributionBounded start.security.policy (request.entry plan share) = true)

include hBounds

/- The record and the ledger with one more share. -/
theorem Gathered.taken (hShare : share ∈ shares) (hNew : share.worker ∉ done.map Share.worker) :
    ∃ updates security, Describes updates (done ++ [share]) ∧
      Entered contributionDigest request plan shares
        start.security.policy (done ++ [share]) security ∧ security.replay =
        (bound node.security.replay start.security.policy.maxReplayEntries).insert
          (replayKey (request.entry plan share)) (contributionDigest (request.entry plan share)) ∧
      deliverShare digests contributionDigest self request node now share =
        closeByzantine { node with security := security } now (request.update self share)
          (request.state self width updates none) [(share.worker, share.values)] := by
  rw [hStart.deliverShare_eq hNode.plans hShare]
  cases hNode.ledger.admission hShare (hStart.named share hShare) with
  | unbounded hOutside hResult hLedger _ =>
    rw [hNode.ledger.policy, hBounds] at hOutside
    cases hOutside
  | known hKnown _ =>
    rw [hNode.unknown share hShare hNew] at hKnown
    cases hKnown
  | entered _ _ hChecked =>
    rcases hNode.record with ⟨updates, hDone, hRecord⟩
    have hLedger := hNode.ledger.enter hStart.distinct share hShare now
    have hReplay : (enterContribution (expire node.security now)
      (contributionDigest (request.entry plan share)) (request.entry plan share)).replay =
      (bound node.security.replay start.security.policy.maxReplayEntries).insert
        (replayKey (request.entry plan share))
        (contributionDigest (request.entry plan share)) := by
      rw [← hNode.ledger.policy]
      rfl
    rw [hChecked]
    generalize enterContribution (expire node.security now) _ _ = security at hLedger hReplay ⊢
    exact ⟨_, security, hDone.insert share hNew, hLedger, hReplay,
      takeUpdate_eq { node with security := security } hDone
        hRecord now share (hWidth share hShare) hNew⟩

/- A ledger of one entry only knows the last share. -/
theorem Gathered.forgets {other : Share} (hShare : share ∈ shares)
    (hNew : share.worker ∉ done.map Share.worker)
    (hOne : start.security.policy.maxReplayEntries = 1) (hOther : other.worker ≠ share.worker) :
    (deliverShare digests contributionDigest self request node now share).node.security.replay[
      replayKey (request.entry plan other)]? = none := by
  rcases hNode.taken hStart hWidth now share hBounds hShare hNew with
    ⟨updates, security, -, -, hReplay, hTaken⟩
  rw [hTaken, closeByzantine_replay]
  rw [hReplay, getElem?_insert, if_neg (by
    intro hKey
    exact hOther (congrArg Security.ReplayKey.worker hKey).symm), hOne]
  exact getElem?_bound_one

/- A share that is not the last one is only recorded. -/
theorem Gathered.step (hShare : share ∈ shares)
    (hDistinct : ((done ++ [share]).map Share.worker).Nodup)
    (hMore : (done ++ [share]).length < shares.length) :
    (deliverShare digests contributionDigest self request node now share).sends = [] ∧
      Gathered contributionDigest self plan start request shares width (done ++ [share])
        (deliverShare digests contributionDigest self request node now share).node := by
  rcases hNode.taken hStart hWidth now share hBounds hShare (new_of_nodup hDistinct).1 with
    ⟨updates, security, hDone, hLedger, -, hTaken⟩
  have hSize := hDone.size hDistinct
  rw [hTaken]
  unfold closeByzantine
  rw [if_neg (by
    change updates.size ≠ request.expectedUpdates.toNat
    rw [hSize, ← hStart.complete]
    omega)]
  refine ⟨rfl, hNode.plans, ⟨updates, hDone, Or.inl ?_⟩, hLedger⟩
  exact Std.TreeMap.getElem?_insert_self

/- The last share is answered. -/
theorem Gathered.last (hAll : done ++ [share] = shares) :
    ∃ result, (deliverShare digests contributionDigest self request node now share).sends =
      [(request.replyTo, .byzantineResult result)] ∧
      Answered contributionDigest self plan start request shares width result
        (deliverShare digests contributionDigest self request node now share).node := by
  have hShare : share ∈ shares := by
    rw [← hAll]
    simp
  have hDistinct := hStart.distinct
  rw [← hAll] at hDistinct
  rcases hNode.taken hStart hWidth now share hBounds hShare (new_of_nodup hDistinct).1 with
    ⟨updates, security, hDone, hLedger, -, hTaken⟩
  rw [hAll] at hDone hLedger
  rcases hStart.aggregate hWidth updates hDone share hShare with ⟨report, hReport, hValid⟩
  have hSize := hDone.size hStart.distinct
  have hLedger' := noteOutliers_ledger security now (rejectedWorkers updates)
  rw [hTaken]
  unfold closeByzantine
  rw [if_pos (by
    change updates.size = request.expectedUpdates.toNat
    rw [hSize, ← hStart.complete])]
  dsimp only [Request.state]
  rw [hReport]
  refine ⟨byzantineResult (request.update self share) updates report, rfl, hNode.plans, ?_,
    hLedger.of_sameLedger hLedger'.1 now (Or.inl hLedger'.2), ?_, hValid⟩
  · exact Std.TreeMap.getElem?_insert_self
  · exact (acceptedWorkers_append_rejectedWorkers updates).trans (hDone.keys hStart.distinct)

end

----
-- Every Order of Arrival
----

section

open Security (TrainingContribution LocalSecurityState SecurityPolicy replayKey contributionBounded)

section

include hStart

theorem Gathering.gathered :
    Gathered contributionDigest self plan start request shares width [] start where
  plans := rfl
  record := ⟨∅, fun _ _ => by simp, Or.inr ⟨hStart.new, rfl, hStart.room⟩⟩
  ledger := hStart.unmet.entered

/- Among valid shares only the size of a value can be wrong. -/
theorem Gathering.bounded_iff {policy : SecurityPolicy} (hShare : share ∈ shares) :
    contributionBounded policy (request.entry plan share) = true ↔ ∀ value ∈ share.values,
      value.natAbs ≤ policy.maxTrainingValue.natAbs := by
  have hFacts := updateFacts_of_ok (hStart.valid share hShare)
  have hBranch := hStart.planFacts.branch
  have hJob : request.jobId ≠ default := hFacts.job
  have hPlan : request.planGeneration ≠ 0 := hFacts.plan
  have hGeneration : request.generation ≠ 0 := hFacts.generation
  have hSequence : share.sequence ≠ 0 := hFacts.sequence
  have hNonempty : share.values ≠ [] := hFacts.nonempty
  have hShort : share.values.length ≤ maxV4Vector := hFacts.short
  simp [contributionBounded, Request.entry, hBranch, hJob,
    hPlan, hGeneration, hSequence, hNonempty, hShort]

/- With a share missing there is no answer. -/
theorem Gathered.silent (hWidth : ∀ share ∈ shares, share.values.length = width)
    (rest : List (UInt64 × Share))
    (hNode : Gathered contributionDigest self plan start request shares width done node)
    (hMem : ∀ delivery ∈ rest, delivery.2 ∈ shares)
    (hDistinct : ((done ++ rest.map Prod.snd).map Share.worker).Nodup)
    (hFewer : done.length + (rest.map Prod.snd).countP (fun share => contributionBounded
      start.security.policy (request.entry plan share)) < shares.length) :
    (gather digests contributionDigest self request node rest).2 = [] := by
  induction rest generalizing done node with
  | nil => rfl
  | cons delivery rest ih =>
    rcases delivery with ⟨now, share⟩
    have hShare : share ∈ shares := hMem (now, share) List.mem_cons_self
    have hRest : ∀ delivery ∈ rest, delivery.2 ∈ shares := fun delivery hDelivery =>
      hMem delivery (List.mem_cons_of_mem _ hDelivery)
    rw [List.map_cons] at hDistinct hFewer
    rcases new_of_nodup hDistinct with ⟨hNew, hPrefix⟩
    cases hBounds : contributionBounded start.security.policy (request.entry plan share) with
    | false =>
      have hStep := hNode.refused hStart now share hShare hNew hBounds
      rw [List.countP_cons_of_neg (by simp [hBounds])] at hFewer
      rw [gather, hStep.1, List.nil_append]
      refine ih hStep.2 hRest ?_ hFewer
      refine hDistinct.sublist ?_
      apply List.Sublist.map
      exact (List.append_sublist_append_left done).mpr (List.sublist_cons_self share _)
    | true =>
      rw [List.countP_cons_of_pos (by simp [hBounds])] at hFewer
      have hStep := hNode.step hStart hWidth now share hBounds hShare hPrefix (by
        rw [List.length_append, List.length_singleton]
        omega)
      rw [gather, hStep.1, List.nil_append]
      refine ih hStep.2 hRest ?_ ?_
      · rw [List.append_assoc]
        exact hDistinct
      · rw [List.length_append, List.length_singleton]
        omega

end

/- With all shares there is one answer, at the last of them. -/
theorem Gathered.answered (hStart : Gathering digests self plan start request shares)
    (hWidth : ∀ share ∈ shares, share.values.length = width)
    (hBounds : ∀ share ∈ shares, contributionBounded start.security.policy
      (request.entry plan share) = true)
    (rest : List (UInt64 × Share))
    (hNode : Gathered contributionDigest self plan start request shares width done node)
    (hAll : done ++ rest.map Prod.snd = shares) (hRest : rest ≠ []) :
    ∃ result, (gather digests contributionDigest self request node rest).2 =
      [(request.replyTo, .byzantineResult result)] ∧
      Answered contributionDigest self plan start request shares width result
        (gather digests contributionDigest self request node rest).1 := by
  induction rest generalizing done node with
  | nil => exact absurd rfl hRest
  | cons delivery rest ih =>
    rcases delivery with ⟨now, share⟩
    have hShare : share ∈ shares := by
      rw [← hAll]
      simp
    cases rest with
    | nil =>
      rcases hNode.last hStart hWidth now share (hBounds share hShare) hAll with
        ⟨result, hSends, hAnswered⟩
      exact ⟨result, by simp [gather, hSends], hAnswered⟩
    | cons next rest =>
      have hDistinct := hStart.distinct
      rw [← hAll] at hDistinct
      have hMore : (done ++ [share]).length < shares.length := by
        rw [← hAll]
        simp
      have hStep := hNode.step hStart hWidth now share (hBounds share hShare) hShare
        (new_of_nodup hDistinct).2 hMore
      rcases ih hStep.2 (by rw [List.append_assoc]; exact hAll)
        (by simp) with ⟨result, hSends, hAnswered⟩
      refine ⟨result, ?_, hAnswered⟩
      rw [gather, hStep.1, List.nil_append]
      exact hSends

/- A share that comes again has to get past the ledger. -/
theorem Answered.again_iff {result : V4ByzantineResult}
    (hStart : Gathering digests self plan start request shares)
    (hNode : Answered contributionDigest self plan start request shares width result node)
    (now : UInt64) (hShare : share ∈ shares)
    (hBounds : contributionBounded start.security.policy (request.entry plan share) = true) :
    (deliverShare digests contributionDigest self request node now share).sends =
      [(request.replyTo, .byzantineResult result)] ↔
      node.security.replay[replayKey (request.entry plan share)]? = none := by
  rw [hStart.deliverShare_eq hNode.plans hShare]
  dsimp only
  cases hNode.ledger.admission hShare (hStart.named share hShare) with
  | unbounded hOutside hResult _ _ =>
    rw [hNode.ledger.policy, hBounds] at hOutside
    cases hOutside
  | known hKnown hResult =>
    rw [hResult]
    constructor
    · intro hSends
      cases hSends
    · intro hNone
      rw [hNone] at hKnown
      cases hKnown
  | entered _ hUnknown hChecked =>
    rw [hChecked]
    refine ⟨fun _ => hUnknown, fun _ => ?_⟩
    dsimp only [takeUpdate, Request.update]
    rw [hNode.record]
    dsimp only [Request.state]
    rw [if_neg (by
      simp [replayConflicts])]

variable (digests) (contributionDigest) (self)

/-
  In every order of arrival, a request is answered once and
  again exactly if no value is beyond the bound of the ledger,
  some worker is left out, and the ledger has dropped the share
  that comes again.
-/
theorem gather_answers_iff (plan : V4TrainingPlan) (node : ReduceNode) (request : Request)
    (deliveries : List (UInt64 × Share))
    (hStart : Gathering digests self plan node request (deliveries.map Prod.snd)) (now : UInt64)
    (again : Share) (hAgain : again ∈ deliveries.map Prod.snd) :
    Answers digests contributionDigest self node request deliveries now again ↔
      (∀ share ∈ deliveries.map Prod.snd, ∀ value ∈ share.values, value.natAbs ≤
        node.security.policy.maxTrainingValue.natAbs) ∧
      (∃ share ∈ deliveries.map Prod.snd, isOutlier clipBound share.values = true) ∧
      (gather digests contributionDigest self request node deliveries).1.security.replay[
        replayKey (request.entry plan again)]? = none := by
  have hWidth : ∀ share ∈ deliveries.map Prod.snd, share.values.length = again.values.length :=
    fun share hShare =>
      hStart.sameLength share hShare again hAgain
  have hFirst : Gathered contributionDigest self plan node
    request (deliveries.map Prod.snd) again.values.length []
    node :=
    hStart.gathered
  by_cases hBounds : ∀ share ∈ deliveries.map Prod.snd, contributionBounded node.security.policy
    (request.entry plan share) = true
  · have hNonempty : deliveries ≠ [] := by
      rintro rfl
      cases hAgain
    rcases hFirst.answered hStart hWidth hBounds deliveries rfl
      hNonempty with ⟨result, hSends, hAnswered⟩
    have hOnce := hAnswered.again_iff hStart now hAgain (hBounds again hAgain)
    have hInside : ∀ share ∈ deliveries.map Prod.snd, ∀ value ∈ share.values, value.natAbs ≤
      node.security.policy.maxTrainingValue.natAbs :=
      fun share hShare => (hStart.bounded_iff hShare).mp (hBounds share hShare)
    have hWorkers := hAnswered.workers
    rw [List.map_map] at hWorkers
    constructor
    · rintro ⟨other, hOther, hValid, -, hRepeat⟩
      have hSame : other = result := by
        rw [hSends] at hOther
        simp only [List.cons.injEq, Prod.mk.injEq, true_and,
          TrainingV4Message.byzantineResult.injEq, and_true] at hOther
        exact hOther.symm
      subst hSame
      exact ⟨hInside, hAnswered.valid.mp hValid, hOnce.mp hRepeat⟩
    · rintro ⟨-, hOutlier, hForgotten⟩
      exact ⟨result, hSends, hAnswered.valid.mpr hOutlier, hWorkers, hOnce.mpr hForgotten⟩
  · constructor
    · rintro ⟨result, hSends, -⟩
      have hSilent := hFirst.silent hStart hWidth deliveries (fun delivery hDelivery =>
        List.mem_map.mpr ⟨delivery, hDelivery, rfl⟩)
        hStart.distinct
        (by
          rw [List.length_nil, Nat.zero_add]
          refine lt_of_le_of_ne List.countP_le_length ?_
          intro hEq
          exact hBounds (List.countP_eq_length.mp hEq))
      rw [hSends] at hSilent
      cases hSilent
    · rintro ⟨hInside, -⟩
      exact absurd (fun share hShare =>
        (hStart.bounded_iff hShare).mpr (hInside share hShare)) hBounds

end

----
-- Two Workers
----

def pairRequest : Request where
  requestId := ⟨11⟩
  jobId := ⟨7⟩
  planGeneration := sgdPlan.planGeneration
  generation := 1
  policy := .coordinateMedian
  expectedUpdates := 2
  replyTo := sgdPlan.proposer

/- Worker 2, the aggregator, and worker 3. -/
def pairShares (first second : Int) : List (UInt64 × Share) :=
  [(0, ⟨⟨2⟩, 1, [first]⟩), (0, ⟨⟨3⟩, 1, [second]⟩)]

theorem pair_gathering (policy : Security.SecurityPolicy) (first : Int)
    (hFirst : first = 500 ∨ first = 6) :
    Gathering Tensor.modelDigests ⟨2⟩ sgdPlan (sgdNode policy)
      pairRequest ((pairShares first 5).map Prod.snd) where
  active := by
    simp only [sgdNode, getElem?_insert]
    exact if_pos rfl
  intact := by decide +kernel
  strategy := rfl
  proposer := rfl
  generation := rfl
  aggregator := by decide +kernel
  named := by
    simp only [pairShares, List.map_cons, List.map_nil, List.forall_mem_cons, List.not_mem_nil]
    exact ⟨by decide +kernel, by decide +kernel, by simp⟩
  distinct := by
    change [(⟨2⟩ : NodeId), ⟨3⟩].Nodup
    decide
  complete := rfl
  valid := by
    rcases hFirst with rfl | rfl
    · decide +kernel
    · decide +kernel
  sameLength := by simp [pairShares]
  kept := ⟨⟨⟨3⟩, 1, [5]⟩, by simp [pairShares], by decide⟩
  new := by simp [sgdNode]
  room := by simp [sgdNode, v4MaxAggregationRequests]
  unmet :=
    { context := by
        simp [sgdNode, Security.LocalSecurityState.new]
      replay := by
        simp [sgdNode, Security.LocalSecurityState.new]
      rejected := by
        simp [sgdNode, Security.LocalSecurityState.new]
      stream := by
        simp [sgdNode, Security.LocalSecurityState.new, Security.behindStream]
      free := by
        simp [sgdNode, Security.LocalSecurityState.new] }

/- A ledger of one entry forgets the first share. -/
theorem gather_answers_outlier : Answers Tensor.modelDigests sgdDigest ⟨2⟩
    (sgdNode { maxReplayEntries := 1 }) pairRequest (pairShares 500 5) 1 ⟨⟨2⟩, 1, [500]⟩ := by
  have hStart := pair_gathering { maxReplayEntries := 1 } 500 (by simp)
  refine (gather_answers_iff Tensor.modelDigests sgdDigest ⟨2⟩
    sgdPlan (sgdNode { maxReplayEntries := 1 }) pairRequest
    (pairShares 500 5) hStart 1 _ (by decide)).mpr ⟨by decide +kernel, by decide +kernel, ?_⟩
  have hNone : Gathered sgdDigest ⟨2⟩ sgdPlan (sgdNode { maxReplayEntries := 1 }) pairRequest
    ((pairShares 500 5).map Prod.snd) 1 [] (sgdNode { maxReplayEntries := 1 }) :=
    hStart.gathered
  have hFirst := hNone.step hStart (by decide +kernel) 0
    ⟨⟨2⟩, 1, [500]⟩ (by decide +kernel) (by decide) (by decide +kernel) (by decide)
  exact hFirst.2.forgets hStart (by decide +kernel) _ _ (by decide +kernel) (by decide)
    (by decide +kernel) rfl (by decide)

/- Two workers within the bound: the answer is not valid. -/
theorem gather_answers_fails_honest : Gathering Tensor.modelDigests ⟨2⟩ sgdPlan (sgdNode {})
    pairRequest ((pairShares 6 5).map Prod.snd) ∧
    ¬ Answers Tensor.modelDigests sgdDigest ⟨2⟩ (sgdNode {})
      pairRequest (pairShares 6 5) 1 ⟨⟨2⟩, 1, [6]⟩ := by
  refine ⟨pair_gathering _ 6 (by simp), ?_⟩
  rintro ⟨result, hSends, hValid, -⟩
  have hInvalid : (gather Tensor.modelDigests sgdDigest ⟨2⟩ pairRequest
    (sgdNode {}) (pairShares 6 5)).2.map (fun send =>
    match send.2 with
    | .byzantineResult result => (Validation.v4ByzantineResult result).isOk
    | _ => false) = [false] := by
    decide +kernel
  rw [hSends] at hInvalid
  simp [hValid, Except.isOk, Except.toBool] at hInvalid

end IntelligenceNetwork.Reduction
