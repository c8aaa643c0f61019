import IntelligenceNetwork.Reduction.Handlers

/-
  A request for a robust aggregation.

  The aggregator records the updates by worker, and the security
  ledger keeps an entry of each.  The aggregate is formed from
  the updates within the clip bound.

  Main declarations:
    * `Gathering`
    * `Entered`
    * `byzantineResult_valid_iff`
-/

----
-- Requests
----

namespace IntelligenceNetwork.Reduction

open OrderedMap Validation

variable {updates : Std.TreeMap NodeId (UInt64 × List Int)} {worker : NodeId}

section

open Security (TrainingContribution LocalSecurityState
  replayKey streamKey contextOf contributionBounded behindStream)

/- What the updates of one request have in common. -/
structure Request where
  (requestId jobId : JobId)
  (planGeneration generation : UInt64)
  policy : V4ByzantinePolicy
  expectedUpdates : UInt16
  replyTo : NodeId

/- What a worker adds to it. -/
structure Share where
  worker : NodeId
  sequence : UInt64
  values : List Int
  deriving DecidableEq

def Request.update (request : Request) (aggregator : NodeId)
    (share : Share) : V4ByzantineUpdate where
  requestId := request.requestId
  jobId := request.jobId
  planGeneration := request.planGeneration
  generation := request.generation
  worker := share.worker
  aggregator := aggregator
  sequence := share.sequence
  values := share.values
  policy := request.policy
  expectedUpdates := request.expectedUpdates
  replyTo := request.replyTo

/- The entry that the ledger makes of a share. -/
def Request.entry (request : Request) (plan : V4TrainingPlan)
    (share : Share) : TrainingContribution where
  jobId := request.jobId
  worker := share.worker
  branch := plan.branch
  planGeneration := request.planGeneration
  generation := request.generation
  sequence := share.sequence
  values := share.values

variable (digests : Tensor.StateDigests) (contributionDigest : TrainingContribution → ArtifactId)
variable (self : NodeId)

/- A worker sends its update to the aggregator. -/
def deliverShare (request : Request) (node : ReduceNode) (now : UInt64) (share : Share) : Handled :=
  receiveByzantineUpdate digests contributionDigest self node now
    share.worker (request.update self share)

/- The updates come one after the other. -/
def gather (request : Request) :
    ReduceNode → List (UInt64 × Share) → ReduceNode × List (NodeId × TrainingV4Message)
| node, [] => (node, [])
| node, (now, share) :: deliveries =>
  let handled := deliverShare digests contributionDigest self request node now share
  let later := gather request handled.node deliveries
  (later.1, handled.sends ++ later.2)

section

variable (request : Request) (plan : V4TrainingPlan) (shares : List Share)
variable (security : LocalSecurityState)

/- The ledger has no reason to refuse a share that it has not entered. -/
structure Welcome : Prop where
  context : ∀ previous, security.contexts[request.jobId]? = some previous →
    previous.planGeneration ≤ request.planGeneration ∧ previous.generation ≤ request.generation ∧
      (previous.planGeneration = request.planGeneration →
        previous.generation = request.generation → previous.branch = plan.branch)
  rejected : ∀ share ∈ shares,
    security.rejectedReplay[replayKey (request.entry plan share)]? = none
  stream : ∀ share ∈ shares, behindStream security (request.entry plan share) = false
  free : ∀ share ∈ shares, security.quarantined[share.worker]? = none

/- The ledger has no reason to refuse a share of the request. -/
structure Unmet : Prop extends Welcome request plan shares security where
  replay : ∀ share ∈ shares, security.replay[replayKey (request.entry plan share)]? = none

end

/-
  The active plan of the aggregator is one for local training,
  the workers of the updates are distinct workers of it, and
  the request is a new one.
-/
structure Gathering (home : NodeId) (plan : V4TrainingPlan) (node : ReduceNode) (request : Request)
    (shares : List Share) : Prop where
  active : node.plans[request.jobId]? = some plan
  intact : Frontier.planIntact digests.toDigests plan = true
  strategy : plan.strategy = .localSgd
  proposer : plan.proposer = request.replyTo
  generation : plan.planGeneration = request.planGeneration
  aggregator : home ∈ plan.workers
  named : ∀ share ∈ shares, share.worker ∈ plan.workers
  distinct : (shares.map Share.worker).Nodup
  complete : shares.length = request.expectedUpdates.toNat
  valid : ∀ share ∈ shares, v4ByzantineUpdate (request.update home share) = .ok ()
  sameLength : ∀ share ∈ shares, ∀ other ∈ shares, share.values.length = other.values.length
  kept : ∃ share ∈ shares, isOutlier clipBound share.values = false
  new : node.byzantine[request.requestId]? = none
  room : node.byzantine.size < v4MaxAggregationRequests
  unmet : Unmet request plan shares node.security

/-
  The request is answered once, with a valid message that tells
  the workers apart, and again when a share comes again.
-/
def Answers (node : ReduceNode) (request : Request) (deliveries : List (UInt64 × Share))
    (now : UInt64) (again : Share) : Prop :=
  ∃ result, (gather digests contributionDigest self request node deliveries).2 =
    [(request.replyTo, .byzantineResult result)] ∧
    v4ByzantineResult result = .ok () ∧
    (result.acceptedWorkers ++ result.rejectedWorkers).Perm (deliveries.map (fun delivery =>
      delivery.2.worker)) ∧
    (deliverShare digests contributionDigest self request
      (gather digests contributionDigest self request node deliveries).1 now again).sends =
      [(request.replyTo, .byzantineResult result)]

end

----
-- Aggregates
----

/- Vectors of one length, one of them within the bound. -/
theorem aggregateUpdates_spec {policy : V4ByzantinePolicy} {updates : List (List Int)} {width : Nat}
    (hCount : updates.length ≤ 64) (hWidth : 0 < width ∧ width ≤ 128)
    (hLengths : ∀ update ∈ updates, update.length = width)
    (hKept : ∃ update ∈ updates, isOutlier clipBound update = false) :
    ∃ report, aggregateUpdates policy updates clipBound = .ok report ∧
      report.aggregate.length = width ∧ ∀ value ∈ report.aggregate, value.natAbs ≤ 100 := by
  rcases hKept with ⟨kept, hMem, hInside⟩
  have hHead : updates.head?.elim 0 List.length = width := by
    cases updates with
    | nil => cases hMem
    | cons first rest => exact hLengths first List.mem_cons_self
  have hSame : updates.any (fun update => update.length != width) = false := by
    rw [List.any_eq_false]
    intro update hUpdate
    simp [hLengths update hUpdate]
  have hAccepted : updates.filter (fun update => !isOutlier clipBound update) ≠ [] :=
    List.ne_nil_of_mem (List.mem_filter.mpr ⟨hMem, by simp [hInside]⟩)
  unfold aggregateUpdates
  dsimp only
  rw [hHead, hSame, if_neg (by
    simp only [clipBound, Bool.or_eq_true, List.isEmpty_iff, decide_eq_true_eq, beq_iff_eq]
    grind), if_neg (by simpa using hAccepted)]
  refine ⟨_, rfl, by simp, ?_⟩
  intro value hValue
  rcases List.mem_map.mp hValue with ⟨coordinate, -, rfl⟩
  unfold clampTo clipBound
  omega

----
-- Records of a Request
----

/- A map of updates holds the shares that have come. -/
def Describes (updates : Std.TreeMap NodeId (UInt64 × List Int)) (done : List Share) : Prop :=
  ∀ worker value, updates[worker]? = some value ↔ ∃ share ∈ done, share.worker = worker ∧
    (share.sequence, share.values) = value

variable {done : List Share}

theorem Describes.insert (hDone : Describes updates done) (share : Share)
    (hNew : share.worker ∉ done.map Share.worker) :
    Describes (updates.insert share.worker (share.sequence, share.values)) (done ++ [share]) := by
  intro worker value
  rw [getElem?_insert]
  split_ifs with hSame
  · subst hSame
    constructor
    · intro hValue
      exact ⟨share, by simp, rfl, Option.some.inj hValue⟩
    · rintro ⟨other, hOther, hWorker, hValue⟩
      rcases List.mem_append.mp hOther with hOld | hLast
      · exact absurd (List.mem_map.mpr ⟨other, hOld, hWorker⟩) hNew
      · rw [List.mem_singleton.mp hLast] at hValue
        rw [hValue]
  · rw [hDone worker value]
    constructor
    · rintro ⟨other, hOther, hRest⟩
      exact ⟨other, List.mem_append_left _ hOther, hRest⟩
    · rintro ⟨other, hOther, hWorker, hValue⟩
      rcases List.mem_append.mp hOther with hOld | hLast
      · exact ⟨other, hOld, hWorker, hValue⟩
      · rw [List.mem_singleton.mp hLast] at hWorker
        exact absurd hWorker hSame

theorem Describes.keys (hDone : Describes updates done)
    (hDistinct : (done.map Share.worker).Nodup) : updates.keys.Perm (done.map Share.worker) := by
  rw [List.perm_ext_iff_of_nodup (nodup_keys updates) hDistinct]
  intro worker
  rw [Std.TreeMap.mem_keys, Std.TreeMap.mem_iff_isSome_getElem?,
    Option.isSome_iff_exists, List.mem_map]
  constructor
  · rintro ⟨value, hValue⟩
    rcases (hDone worker value).mp hValue with ⟨share, hShare, hWorker, -⟩
    exact ⟨share, hShare, hWorker⟩
  · rintro ⟨share, hShare, hWorker⟩
    exact ⟨_, (hDone worker _).mpr ⟨share, hShare, hWorker, rfl⟩⟩

theorem Describes.size (hDone : Describes updates done)
    (hDistinct : (done.map Share.worker).Nodup) : updates.size = done.length := by
  rw [← Std.TreeMap.length_keys, (hDone.keys hDistinct).length_eq, List.length_map]

section

variable (updates : Std.TreeMap NodeId (UInt64 × List Int))

theorem mem_rejectedWorkers_iff :
    worker ∈ rejectedWorkers updates ↔ ∃ value, updates[worker]? = some value ∧
      isOutlier clipBound value.2 = true := by
  unfold rejectedWorkers
  simp only [List.mem_map, List.mem_filter, Prod.exists,
    Std.TreeMap.mem_toList_iff_getElem?_eq_some]
  grind

theorem rejectedWorkers_nodup : (rejectedWorkers updates).Nodup := by
  have hKeys := nodup_keys updates
  rw [← Std.TreeMap.map_fst_toList_eq_keys] at hKeys
  exact hKeys.sublist (List.filter_sublist.map Prod.fst)

theorem mem_acceptedWorkers_iff : worker ∈ acceptedWorkers updates ↔ worker ∈ updates.keys ∧
    worker ∉ rejectedWorkers updates := by
  simp [acceptedWorkers]

/- Every worker is on one of the two lists. -/
theorem acceptedWorkers_append_rejectedWorkers :
    (acceptedWorkers updates ++ rejectedWorkers updates).Perm
      updates.keys := by
  have hDisjoint : (acceptedWorkers updates).Disjoint (rejectedWorkers updates) := by
    intro worker hAccepted hRejected
    exact ((mem_acceptedWorkers_iff updates).mp hAccepted).2 hRejected
  have hAccepted : (acceptedWorkers updates).Nodup := (nodup_keys updates).filter _
  rw [List.perm_ext_iff_of_nodup
    (List.nodup_append'.mpr ⟨hAccepted, rejectedWorkers_nodup updates, hDisjoint⟩)
    (nodup_keys updates)]
  intro worker
  rw [List.mem_append, mem_acceptedWorkers_iff]
  constructor
  · rintro (⟨hKey, -⟩ | hRejected)
    · exact hKey
    · rcases (mem_rejectedWorkers_iff updates).mp hRejected with ⟨value, hValue, -⟩
      rw [Std.TreeMap.mem_keys, Std.TreeMap.mem_iff_isSome_getElem?, hValue]
      rfl
  · intro hKey
    by_cases hRejected : worker ∈ rejectedWorkers updates
    · exact Or.inr hRejected
    · exact Or.inl ⟨hKey, hRejected⟩

end

----
-- Answers
----

/- What the validation of an update says about its request. -/
structure UpdateFacts (update : V4ByzantineUpdate) : Prop where
  job : update.jobId ≠ default
  request : update.requestId ≠ default
  worker : update.worker ≠ default
  plan : update.planGeneration ≠ 0
  generation : update.generation ≠ 0
  sequence : update.sequence ≠ 0
  few : update.expectedUpdates.toNat ≤ maxV4PlanWorkers
  nonempty : update.values ≠ []
  short : update.values.length ≤ maxV4Vector

theorem updateFacts_of_ok {update : V4ByzantineUpdate} (hOk : v4ByzantineUpdate update = .ok ()) :
    UpdateFacts update := by
  simp only [v4ByzantineUpdate, bind_eq_ok_iff, trainingJobId, nodeId, v4Vector_eq_ok_iff,
    rejectIf_eq_ok_iff, Bool.or_eq_false_iff, beq_eq_false_iff_ne, decide_eq_false_iff_not, not_lt]
    at hOk
  rcases hOk with ⟨⟨⟩, hJob, ⟨⟩, hRequest, ⟨⟩, hWorker, ⟨⟩, -,
    ⟨⟩, -, ⟨⟩, hGenerations, hNonempty, hShort, -⟩
  rcases hGenerations with ⟨⟨⟨⟨hPlan, hGeneration⟩, hSequence⟩, -⟩, hFew⟩
  exact ⟨hJob, hRequest, hWorker, hPlan, hGeneration, hSequence, hFew, hNonempty, hShort⟩

theorem byzantineResult_valid_iff {update : V4ByzantineUpdate} {report : V4ByzantineReport}
    (hFacts : UpdateFacts update) (hWorkers : ∀ worker ∈ updates.keys, worker ≠ default)
    (hSize : updates.size ≤ maxV4PlanWorkers) (hAccepted : acceptedWorkers updates ≠ [])
    (hWidth : 0 < report.aggregate.length ∧ report.aggregate.length ≤ maxV4Vector)
    (hBounded : ∀ value ∈ report.aggregate, value.natAbs ≤ 100) :
    v4ByzantineResult (byzantineResult update updates report) = .ok () ↔
      rejectedWorkers updates ≠ [] := by
  have hPerm := acceptedWorkers_append_rejectedWorkers updates
  have hLength := hPerm.length_eq
  rw [List.length_append, Std.TreeMap.length_keys] at hLength
  have hNodup := (hPerm.nodup_iff).mpr (nodup_keys updates)
  rw [List.nodup_append'] at hNodup
  have hNamed : ∀ worker, worker ∈ acceptedWorkers updates ∨
    worker ∈ rejectedWorkers updates → worker ≠ default := by
    intro worker hMem
    exact hWorkers worker (hPerm.mem_iff.mp (List.mem_append.mpr hMem))
  have hVector : v4Vector report.aggregate "v4.byzantine_result.aggregate" = .ok () := by
    rw [v4Vector_eq_ok_iff]
    refine ⟨List.length_pos_iff.mp hWidth.1, hWidth.2, ?_⟩
    intro value hValue
    exact (hBounded value hValue).trans (by decide)
  have hApart : (acceptedWorkers updates).any (rejectedWorkers updates).contains = false := by
    rw [List.any_eq_false]
    intro worker hMem
    simpa using hNodup.2.2 hMem
  constructor
  · intro hOk
    simp only [v4ByzantineResult, bind_eq_ok_iff] at hOk
    rcases hOk with ⟨⟨⟩, -, ⟨⟩, -, ⟨⟩, -, ⟨⟩, -, ⟨⟩, -, ⟨⟩, hRejected, -⟩
    rw [v4NodeList_eq_ok_iff] at hRejected
    exact hRejected.1
  · intro hRejected
    have hFirst : v4NodeList (acceptedWorkers updates)
      "v4.byzantine_result.accepted_workers" maxV4PlanWorkers = .ok () := by
      rw [v4NodeList_eq_ok_iff]
      exact ⟨hAccepted, by omega, hNodup.1, fun worker hMem =>
        hNamed worker (Or.inl hMem)⟩
    have hSecond : v4NodeList (rejectedWorkers updates)
      "v4.byzantine_result.rejected_workers" maxV4PlanWorkers = .ok () := by
      rw [v4NodeList_eq_ok_iff]
      exact ⟨hRejected, by omega, hNodup.2.1, fun worker hMem => hNamed worker (Or.inr hMem)⟩
    have hPolicy : ((update.policy != .mean) == (update.policy == .mean)) = false := by
      cases update.policy <;> rfl
    have hTotal :
      decide (maxV4PlanWorkers < (acceptedWorkers updates).length +
        (rejectedWorkers updates).length) = false := by
      rw [decide_eq_false_iff_not, hLength]
      omega
    simp [v4ByzantineResult, byzantineResult, trainingJobId, rejectIf, hVector,
      hFirst, hSecond, hApart, hPolicy, hTotal, hFacts.job,
      hFacts.request, hFacts.plan, hFacts.generation, bind, Except.bind]

----
-- The Ledger
----

variable {share : Share}

open Security (TrainingContribution LocalSecurityState
  SecurityPolicy SameLedger replayKey streamKey contextOf
  contributionBounded behindStream expire enterContribution)

variable (contributionDigest : TrainingContribution → ArtifactId)

/- The ledger with some shares of a request in it. -/
structure Entered (request : Request) (plan : V4TrainingPlan) (shares : List Share)
    (policy : SecurityPolicy) (done : List Share) (security : LocalSecurityState) : Prop extends
    Welcome request plan shares security where
  policy : security.policy = policy
  replayed : ∀ share ∈ shares, ∀ digest, security.replay[replayKey (request.entry plan share)]? =
    some digest → share ∈ done ∧ digest = contributionDigest (request.entry plan share)

variable {contributionDigest} {request : Request} {plan : V4TrainingPlan} {shares : List Share}
variable {policy : SecurityPolicy} {security : LocalSecurityState}

theorem Unmet.entered (hUnmet : Unmet request plan shares security) :
    Entered contributionDigest request plan shares security.policy [] security where
  toWelcome := hUnmet.toWelcome
  policy := rfl
  replayed := by
    intro share hShare digest hDigest
    rw [hUnmet.replay share hShare] at hDigest
    cases hDigest

section

variable (hEntered : Entered contributionDigest request plan shares policy done security)
include hEntered

theorem Entered.not_held (hShare : share ∈ shares) (now : UInt64) :
    (expire security now).quarantined[share.worker]? = none := by
  have hFree := hEntered.free share hShare
  simp only [expire]
  rw [Std.TreeMap.getElem?_filter, hFree]
  rfl

/- An event does not change what is entered. -/
theorem Entered.of_sameLedger {next : LocalSecurityState} (hLedger : SameLedger security next)
    (now : UInt64) (hQuarantined : next.quarantined = security.quarantined ∨
      next.quarantined = (expire security now).quarantined) :
    Entered contributionDigest request plan shares policy done next where
  policy := hLedger.policy.trans hEntered.policy
  context := by
    rw [hLedger.contexts]
    exact hEntered.context
  replayed := by
    rw [hLedger.replay]
    exact hEntered.replayed
  rejected := by
    rw [hLedger.rejectedReplay]
    exact hEntered.rejected
  stream := by
    unfold behindStream
    rw [hLedger.latest]
    exact hEntered.stream
  free := by
    intro share hShare
    rcases hQuarantined with hSame | hSame
    · rw [hSame, hEntered.free share hShare]
    · rw [hSame, hEntered.not_held hShare now]

end

/- Shares of one worker are the same share. -/
theorem share_eq_of_worker (hDistinct : (shares.map Share.worker).Nodup) {other : Share}
    (hShare : share ∈ shares) (hOther : other ∈ shares) (hWorker : share.worker = other.worker) :
    share = other :=
  List.inj_on_of_nodup_map hDistinct hShare hOther hWorker

/- The ledger takes a share that it does not know. -/
theorem Entered.enter
    (hEntered : Entered contributionDigest request plan shares policy done security)
    (hDistinct : (shares.map Share.worker).Nodup) (share : Share) (hShare : share ∈ shares)
    (now : UInt64) :
    Entered contributionDigest request plan shares policy (done ++ [share])
      (enterContribution (expire security now) (contributionDigest (request.entry plan share))
        (request.entry plan share)) where
  policy := hEntered.policy
  context := by
    intro previous hPrevious
    simp only [enterContribution, getElem?_insert] at hPrevious
    have hJob : (request.entry plan share).jobId = request.jobId := rfl
    rw [if_pos hJob] at hPrevious
    cases hPrevious
    exact ⟨UInt64.le_refl _, UInt64.le_refl _, fun _ _ => rfl⟩
  replayed := by
    intro other hOther digest hDigest
    simp only [enterContribution, getElem?_insert] at hDigest
    split_ifs at hDigest with hKey
    · have hSame : share = other := share_eq_of_worker hDistinct hShare hOther
        (congrArg Security.ReplayKey.worker hKey)
      subst hSame
      exact ⟨by simp, (Option.some.inj hDigest).symm⟩
    · rcases hEntered.replayed other hOther digest (getElem?_bound hDigest) with ⟨hDone, hEq⟩
      exact ⟨List.mem_append_left _ hDone, hEq⟩
  rejected := hEntered.rejected
  stream := by
    intro other hOther
    have hBefore := hEntered.stream other hOther
    unfold behindStream at hBefore ⊢
    simp only [enterContribution, getElem?_insert]
    split_ifs with hKey
    · have hSame : share = other := share_eq_of_worker hDistinct hShare hOther
        (congrArg Security.StreamKey.worker hKey)
      subst hSame
      simp [Request.entry]
    · exact hBefore
  free := fun other hOther =>
    hEntered.not_held hOther now

/- What the ledger makes of a share. -/
inductive ShareAdmission (security : LocalSecurityState) (entry : TrainingContribution)
    (digest : ArtifactId) (now : UInt64) (checked : Security.Checked Security.TrainingAdmission) :
    Prop
  | unbounded (hBounds : contributionBounded security.policy entry = false)
    (hResult : checked.result = .error .trainingBounds)
    (hLedger : SameLedger security checked.security)
    (hQuarantined : checked.security.quarantined = security.quarantined ∨
      checked.security.quarantined = (expire security now).quarantined)
  | known (hKnown : security.replay[replayKey entry]?.isSome = true)
    (hResult : checked.result = .error .duplicateTraining)
  | entered (hBounds : contributionBounded security.policy entry = true)
    (hUnknown : security.replay[replayKey entry]? = none)
    (hChecked : checked = ⟨.ok .accepted, enterContribution (expire security now) digest entry⟩)

theorem Entered.admission
    (hEntered : Entered contributionDigest request plan shares policy done security) {share : Share}
    (hShare : share ∈ shares) (hMember : share.worker ∈ plan.workers) {now : UInt64} :
    ShareAdmission security (request.entry plan share)
      (contributionDigest (request.entry plan share)) now
      (Security.admitTrainingUpdate contributionDigest security
        (request.entry plan share) plan.workers now) := by
  cases Security.admitTrainingUpdate_cases (request.entry plan share) with
  | refused error hRefusal hResult hLedger hQuarantined =>
    cases hRefusal with
    | unauthorized hOutside => exact absurd hMember hOutside
    | unbounded hBounds => exact .unbounded hBounds hResult hLedger hQuarantined
    | repeated hKnown =>
      rcases hKnown with hReplay | hRejected
      · exact .known (by rw [hReplay]; rfl) hResult
      · rw [hEntered.rejected share hShare] at hRejected
        cases hRejected
    | held _ hHeld =>
      change ((expire security now).quarantined[share.worker]?).any _ = true at hHeld
      rw [hEntered.not_held hShare now] at hHeld
      cases hHeld
    | lineage _ previous hPrevious hOlder =>
      exact absurd (hEntered.context previous hPrevious) hOlder
  | behind _ hBehind =>
    rw [hEntered.stream share hShare] at hBehind
    cases hBehind
  | equivocation _ other _ hKnown hOther =>
    exact absurd (hEntered.replayed share hShare other hKnown).2 hOther
  | entered hReaches _ hUnknown hChecked => exact .entered hReaches.bounds hUnknown hChecked

end IntelligenceNetwork.Reduction
