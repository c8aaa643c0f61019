import IntelligenceNetwork.Tensor.Handlers

/-
  The handlers of reductions: collective sums over groups of
  workers, and robust aggregation, which leaves outliers out.

  A handler of a collective gives up its lock between two
  blocks.  What is left to do then is a task, which goes on at
  some later time.

  Main declarations:
    * `receiveCollectiveContribution`
    * `receiveByzantineUpdate`
    * `resume`
-/

----
-- Records
----

namespace IntelligenceNetwork.Reduction

open Frontier (NodeError)

def v4MaxAggregationRequests : Nat := 1024

structure V4CollectiveState where
  jobId : JobId
  (planGeneration generation : UInt64)
  (expectedContributors expectedGroups groupId : UInt16)
  parent : Option NodeId
  replyTo : NodeId
  valueLen : Nat
  contributions : Std.TreeMap NodeId (List Int) := ∅
  groups : Std.TreeMap UInt16 (List Int × UInt16) := ∅

structure V4ByzantineState where
  jobId : JobId
  (planGeneration generation : UInt64)
  aggregator : NodeId
  expectedUpdates : UInt16
  policy : V4ByzantinePolicy
  replyTo : NodeId
  valueLen : Nat
  updates : Std.TreeMap NodeId (UInt64 × List Int) := ∅
  completed : Option V4ByzantineResult := none

/- A group of the local node is summed up. -/
structure V4CollectiveCompletion where
  (requestId jobId : JobId)
  (planGeneration generation : UInt64)
  groupId : UInt16
  values : List Int
  (contributors expectedGroups : UInt16)
  replyTo : NodeId

/- What a handler has still to do when its lock is free. -/
inductive Task where
  | announce (completion : V4CollectiveCompletion) (parent : Option NodeId)
  | finish (completion : V4CollectiveCompletion)
  | report (replyTo : NodeId) (result : V4CollectiveResult)

/- The part of a node that serves reductions. -/
structure ReduceNode where
  plans : Std.TreeMap JobId V4TrainingPlan
  collectives : Std.TreeMap JobId V4CollectiveState
  byzantine : Std.TreeMap JobId V4ByzantineState
  security : Security.LocalSecurityState

/-
  What a call leaves, sends, and leaves to do.  The values that
  it records for a worker, or passes on as those of the local
  one, are listed beside.
-/
structure Handled where
  node : ReduceNode
  sends : List (NodeId × TrainingV4Message)
  taken : List (NodeId × List Int)
  result : Except NodeError (Option Task)

/- What a call leaves to do, if it has not failed. -/
def Handled.task (handled : Handled) : Option Task :=
  handled.result.toOption.join

def refuse (node : ReduceNode) (error : NodeError) : Handled :=
  ⟨node, [], [], .error error⟩

def refuseWith (node : ReduceNode) (detail : String) : Handled :=
  refuse node (.invalidConfig detail)

----
-- Sums
----

/- Add a vector to the slots that it reaches. -/
def addInto : List Int → List Int → List Int
| slot :: slots, value :: values => Saturating.clampI64 (slot + value) :: addInto slots values
| slots, _ => slots

/- The sum of vectors, as long as the first one. -/
def sumVectors (vectors : List (List Int)) : List Int :=
  vectors.foldl addInto (List.replicate (vectors.head?.elim 0 List.length) 0)

/- The sum over the groups and the number of contributors. -/
def groupTotal (groups : Std.TreeMap UInt16 (List Int × UInt16)) : List Int × UInt16 :=
  (sumVectors (groups.values.map Prod.fst), (groups.values.map Prod.snd).foldl Saturating.add16 0)

----
-- Authorization
----

section

variable (digests : Tensor.StateDigests) (self : NodeId)

/- The peer is the one that the message says to answer. -/
def authorizedReferencePlan (node : ReduceNode) (peer : NodeId) (jobId : JobId)
    (planGeneration : UInt64) : Except NodeError V4TrainingPlan :=
  Tensor.authorizedReferencePlan digests self { plans := node.plans } peer jobId planGeneration

def reducesUnder (strategy : V4ParallelismStrategy) : Bool :=
  strategy == .localSgd || strategy == .hybrid

section

variable (node : ReduceNode)

def contributionPlan (contribution : V4CollectiveContribute) : Except NodeError V4TrainingPlan := do
  let plan ← authorizedReferencePlan digests self node contribution.replyTo contribution.jobId
    contribution.planGeneration
  Tensor.failIf (!reducesUnder plan.strategy || !plan.workers.contains contribution.contributor ||
    !plan.workers.contains contribution.aggregator ||
    contribution.parent.any (fun parent => !plan.workers.contains parent))
    "V4 collective contribution is not authorized by the plan"
  .ok plan

def aggregatePlan (peer : NodeId) (aggregate : V4CollectiveAggregate) :
    Except NodeError V4TrainingPlan := do
  let plan ← authorizedReferencePlan digests self node
    aggregate.replyTo aggregate.jobId aggregate.planGeneration
  Tensor.failIf (!reducesUnder plan.strategy || !plan.workers.contains aggregate.aggregator ||
    aggregate.aggregator != peer)
    "V4 collective aggregate is not authorized by the plan"
  .ok plan

def updatePlan (update : V4ByzantineUpdate) : Except NodeError V4TrainingPlan := do
  let plan ← authorizedReferencePlan digests self node update.replyTo
    update.jobId update.planGeneration
  Tensor.failIf (plan.strategy != .localSgd || !plan.workers.contains update.worker ||
    !plan.workers.contains update.aggregator)
    "V4 Byzantine update is not authorized by the plan"
  .ok plan

/- Values are passed on to the aggregator or recorded by it. -/
inductive Route where
  | forward
  | record

/-
  Both kinds of contribution are bound to a worker in the same
  way.  Where the local node is the worker, the peer is not
  looked at.
-/
def route (peer worker aggregator : NodeId) (notForwarded notBound : String) :
    Except NodeError Route :=
  if aggregator ≠ self then
    if worker ≠ self then .error (.invalidConfig notForwarded) else .ok .forward
  else if worker ≠ self ∧ worker ≠ peer then
    .error (.invalidConfig notBound)
  else
    .ok .record

----
-- Contributions
----

def putCollective (requestId : JobId) (state : V4CollectiveState) : ReduceNode :=
  { node with collectives := node.collectives.insert requestId state }

/- The record of a request, or room for a first one. -/
def enterCollective (requestId : JobId) (fresh : V4CollectiveState) :
    Except NodeError V4CollectiveState :=
  match node.collectives[requestId]? with
  | some state => .ok state
  | none =>
    if v4MaxAggregationRequests ≤ node.collectives.size then
      .error (.invalidConfig "V4 collective request limit reached")
    else
      .ok fresh

end

def freshFromContribution (contribution : V4CollectiveContribute) : V4CollectiveState where
  jobId := contribution.jobId
  planGeneration := contribution.planGeneration
  generation := contribution.generation
  expectedContributors := contribution.expectedContributors
  expectedGroups := contribution.expectedGroups
  groupId := contribution.groupId
  parent := contribution.parent
  replyTo := contribution.replyTo
  valueLen := contribution.values.length

section

variable (state : V4CollectiveState)

/- The aggregate of another root has come first. -/
def aggregateFirst : Bool :=
  state.expectedContributors == 0

def contributionConflicts (contribution : V4CollectiveContribute) : Bool :=
  state.jobId != contribution.jobId || state.planGeneration != contribution.planGeneration ||
    state.generation != contribution.generation ||
    state.expectedGroups != contribution.expectedGroups || state.replyTo != contribution.replyTo ||
    state.valueLen != contribution.values.length ||
    (!aggregateFirst state && (state.expectedContributors != contribution.expectedContributors ||
      state.groupId != contribution.groupId || state.parent != contribution.parent))

/- A partial record learns what group the node sums up. -/
def mergeGroup (contribution : V4CollectiveContribute) : V4CollectiveState :=
  if aggregateFirst state then
    { state with
      expectedContributors := contribution.expectedContributors
      groupId := contribution.groupId
      parent := contribution.parent }
  else
    state

end

/- All contributions are there: they become one group sum. -/
def closeGroup (requestId : JobId) (contribution : V4CollectiveContribute)
    (state : V4CollectiveState) : V4CollectiveState × Option Task :=
  if state.contributions.size = state.expectedContributors.toNat then
    let sum := sumVectors state.contributions.values
    ({ state with
      groups := state.groups.insert state.groupId (sum, state.expectedContributors)
      contributions := ∅ },
      some (.announce
        { requestId := requestId
          jobId := contribution.jobId
          planGeneration := contribution.planGeneration
          generation := contribution.generation
          groupId := state.groupId
          values := sum
          contributors := state.expectedContributors
          expectedGroups := state.expectedGroups
          replyTo := state.replyTo }
        state.parent))
  else
    (state, none)

/- The block in which the aggregator takes a contribution. -/
def recordContribution (node : ReduceNode) (contribution : V4CollectiveContribute) : Handled :=
  let requestId := contribution.requestId
  match enterCollective node requestId (freshFromContribution contribution) with
  | .error error => refuse node error
  | .ok state =>
    if contributionConflicts state contribution then
      refuseWith (putCollective node requestId state)
        "V4 collective state conflicts with existing generation"
    else
      let merged := mergeGroup state contribution
      match merged.contributions[contribution.contributor]? with
      | some values =>
        if values = contribution.values then
          let (closed, task) := closeGroup requestId contribution merged
          ⟨putCollective node requestId closed, [], [], .ok task⟩
        else
          refuseWith (putCollective node requestId merged)
            "V4 collective duplicate contributor has conflicting values"
      | none =>
        let (closed, task) := closeGroup requestId contribution { merged with
          contributions := merged.contributions.insert contribution.contributor
            contribution.values }
        ⟨putCollective node requestId closed, [], [(contribution.contributor, contribution.values)],
          .ok task⟩

def receiveCollectiveContribution (node : ReduceNode) (peer : NodeId)
    (contribution : V4CollectiveContribute) : Handled :=
  match contributionPlan digests self node contribution with
  | .error error => refuse node error
  | .ok _ =>
    match route self peer contribution.contributor contribution.aggregator
      "V4 collective forward is not bound to the local contributor"
      "V4 collective contributor/aggregator binding failed" with
    | .error error => refuse node error
    | .ok .forward =>
      ⟨node, [(contribution.aggregator, .collectiveContribute contribution)],
        [(contribution.contributor, contribution.values)], .ok none⟩
    | .ok .record => recordContribution node contribution

----
-- Group Sums
----

/- The sum of one group, as an aggregate or a completion. -/
structure GroupSum where
  (requestId jobId : JobId)
  (planGeneration generation : UInt64)
  groupId : UInt16
  values : List Int
  (contributors expectedGroups : UInt16)
  replyTo : NodeId

def groupConflicts (state : V4CollectiveState) (group : GroupSum) : Bool :=
  state.jobId != group.jobId || state.planGeneration != group.planGeneration ||
    state.generation != group.generation || state.expectedGroups != group.expectedGroups ||
    state.replyTo != group.replyTo || state.valueLen != group.values.length

def collectiveResult (group : GroupSum) (total : List Int × UInt16) : V4CollectiveResult where
  requestId := group.requestId
  jobId := group.jobId
  planGeneration := group.planGeneration
  generation := group.generation
  values := total.1
  groupCount := group.expectedGroups
  maxFanIn := 2
  contributorBytes := Saturating.mul
    (Saturating.mul (UInt64.ofNat total.2.toNat) (UInt64.ofNat total.1.length)) 8
  rootReceivedBytes := Saturating.mul
    (Saturating.mul (UInt64.ofNat group.expectedGroups.toNat) (UInt64.ofNat total.1.length)) 8

variable (node : ReduceNode)

/-
  The block in which a root takes the sum of a group, its own
  or another one.  If no group is missing, the request is
  reported next.
-/
def recordGroup (fresh : V4CollectiveState) (group : GroupSum)
    (conflict duplicate : String) : Handled :=
  match enterCollective node group.requestId fresh with
  | .error error => refuse node error
  | .ok state =>
    if groupConflicts state group then
      refuseWith (putCollective node group.requestId state) conflict
    else
      let sum := (group.values, group.contributors)
      match state.groups[group.groupId]? with
      | some held =>
        if held = sum then
          ⟨putCollective node group.requestId state, [], [], .ok (whenComplete group state)⟩
        else
          refuseWith (putCollective node group.requestId state) duplicate
      | none =>
        let state :=
          { state with groups := state.groups.insert group.groupId sum }
        ⟨putCollective node group.requestId state, [], [], .ok (whenComplete group state)⟩
where
  whenComplete (group : GroupSum) (state : V4CollectiveState) : Option Task :=
    if state.groups.size = state.expectedGroups.toNat then
      some (.report state.replyTo (collectiveResult group (groupTotal state.groups)))
    else
      none

section

variable (completion : V4CollectiveCompletion)

def V4CollectiveCompletion.group : GroupSum where
  requestId := completion.requestId
  jobId := completion.jobId
  planGeneration := completion.planGeneration
  generation := completion.generation
  groupId := completion.groupId
  values := completion.values
  contributors := completion.contributors
  expectedGroups := completion.expectedGroups
  replyTo := completion.replyTo

def aggregateGroup (aggregate : V4CollectiveAggregate) : GroupSum where
  requestId := aggregate.requestId
  jobId := aggregate.jobId
  planGeneration := aggregate.planGeneration
  generation := aggregate.generation
  groupId := aggregate.groupId
  values := aggregate.values
  contributors := aggregate.contributors
  expectedGroups := aggregate.expectedGroups
  replyTo := aggregate.replyTo

/- A record that knows nothing of the local group. -/
def freshFromGroup (group : GroupSum) (groupId : UInt16) : V4CollectiveState where
  jobId := group.jobId
  planGeneration := group.planGeneration
  generation := group.generation
  expectedContributors := 0
  expectedGroups := group.expectedGroups
  groupId := groupId
  parent := none
  replyTo := group.replyTo
  valueLen := group.values.length

/-
  The sender has been compared with the aggregator before the
  lock is taken, so the second comparison under it never fails.
-/
def receiveCollectiveAggregate (peer : NodeId) (aggregate : V4CollectiveAggregate) : Handled :=
  match aggregatePlan digests self node peer aggregate with
  | .error error => refuse node error
  | .ok _ =>
    recordGroup node (freshFromGroup (aggregateGroup aggregate) 0) (aggregateGroup aggregate)
      "V4 collective aggregate generation conflict"
      "V4 collective duplicate group has conflicting values"

def finishCollectiveGroup : Handled :=
  recordGroup node (freshFromGroup completion.group completion.groupId) completion.group
    "V4 collective completion generation conflict"
    "V4 collective completion has conflicting group values"

def completionAggregate : V4CollectiveAggregate where
  requestId := completion.requestId
  jobId := completion.jobId
  planGeneration := completion.planGeneration
  generation := completion.generation
  groupId := completion.groupId
  aggregator := self
  values := completion.values
  contributors := completion.contributors
  expectedGroups := completion.expectedGroups
  replyTo := completion.replyTo

end

/- A handler goes on with its next block. -/
def resume : Task → Handled
| .announce completion parent =>
  ⟨node, parent.toList.map (fun parent =>
      (parent, .collectiveAggregate (completionAggregate self completion))), [],
    .ok (some (.finish completion))⟩
| .finish completion => finishCollectiveGroup node completion
| .report replyTo result =>
  ⟨{ node with collectives := node.collectives.erase result.requestId },
    [(replyTo, .collectiveResult result)], [], .ok none⟩

end

----
-- Robust Aggregation
----

structure V4ByzantineReport where
  policy : V4ByzantinePolicy
  aggregate : List Int
  (acceptedUpdates rejectedUpdates coordinateCount : Nat)

def invalidUpdates : String :=
  "V4 update vectors must be non-empty, equal length, and bounded"

/- An update with a value beyond the clip bound. -/
def isOutlier (clipAbs : Int) (update : List Int) : Bool :=
  update.any (fun value => value.natAbs > clipAbs.toNat)

def clampTo (clipAbs value : Int) : Int :=
  max (-clipAbs) (min value clipAbs)

/- Division cuts towards zero. -/
def meanOf (values : List Int) : Int :=
  values.sum.tdiv values.length

/- One coordinate of the updates that are kept. -/
def coordinateValue (policy : V4ByzantinePolicy) (values : List Int) : Int :=
  let sorted := values.insertionSort (· ≤ ·)
  match policy with
  | .mean | .clippedMean => meanOf values
  | .trimmedMean => if 3 ≤ values.length then meanOf (sorted.drop 1).dropLast else meanOf values
  | .coordinateMedian =>
    let middle := values.length / 2
    if values.length % 2 = 0 then
      (sorted.getD (middle - 1) 0 + sorted.getD middle 0).tdiv 2
    else
      sorted.getD middle 0

def aggregateUpdates (policy : V4ByzantinePolicy) (updates : List (List Int))
    (clipAbs : Int) : Except String V4ByzantineReport :=
  let width := updates.head?.elim 0 List.length
  if updates.isEmpty || 64 < updates.length || width == 0 || 128 < width || clipAbs ≤ 0 ||
    updates.any (fun update => update.length != width) then
    .error invalidUpdates
  else
    let accepted := updates.filter (fun update => !isOutlier clipAbs update)
    if accepted.isEmpty then
      .error invalidUpdates
    else
      .ok
        { policy := policy
          aggregate := (List.range width).map (fun coordinate =>
            clampTo clipAbs (coordinateValue policy (accepted.map (fun update =>
              clampTo clipAbs (update.getD coordinate 0)))))
          acceptedUpdates := accepted.length
          rejectedUpdates := (updates.filter (isOutlier clipAbs)).length
          coordinateCount := width }

----
-- Byzantine Updates
----

section

open Security (TrainingContribution LocalSecurityState)

variable (digests : Tensor.StateDigests) (contributionDigest : TrainingContribution → ArtifactId)
variable (self : NodeId)

def contributionOf (plan : V4TrainingPlan) (update : V4ByzantineUpdate) : TrainingContribution where
  jobId := update.jobId
  worker := update.worker
  branch := plan.branch
  planGeneration := update.planGeneration
  generation := update.generation
  sequence := update.sequence
  values := update.values

def freshByzantine (update : V4ByzantineUpdate) : V4ByzantineState where
  jobId := update.jobId
  planGeneration := update.planGeneration
  generation := update.generation
  aggregator := update.aggregator
  expectedUpdates := update.expectedUpdates
  policy := update.policy
  replyTo := update.replyTo
  valueLen := update.values.length

section

variable (state : V4ByzantineState) (update : V4ByzantineUpdate)

def updateConflicts : Bool :=
  state.jobId != update.jobId || state.planGeneration != update.planGeneration ||
    state.generation != update.generation || state.aggregator != update.aggregator ||
    state.expectedUpdates != update.expectedUpdates || state.policy != update.policy ||
    state.replyTo != update.replyTo || state.valueLen != update.values.length

/- What a replay of a completed request is compared by. -/
def replayConflicts : Bool :=
  state.jobId != update.jobId || state.planGeneration != update.planGeneration ||
    state.generation != update.generation || state.policy != update.policy ||
    state.replyTo != update.replyTo

end

def clipBound : Int := 100

section

variable (updates : Std.TreeMap NodeId (UInt64 × List Int))

def rejectedWorkers : List NodeId :=
  (updates.toList.filter (fun entry => isOutlier clipBound entry.2.2)).map Prod.fst

def acceptedWorkers : List NodeId :=
  updates.keys.filter (fun worker => !(rejectedWorkers updates).contains worker)

end

def noteOutliers (security : LocalSecurityState) (now : UInt64)
    (workers : List NodeId) : LocalSecurityState :=
  workers.foldl (fun security worker =>
    Security.event security now (some worker) .trainingUpdateRejected "v4_byzantine_aggregation"
      "bounded robust aggregation excluded an outlier update")
    security

def byzantineResult (update : V4ByzantineUpdate) (updates : Std.TreeMap NodeId (UInt64 × List Int))
    (report : V4ByzantineReport) : V4ByzantineResult where
  requestId := update.requestId
  jobId := update.jobId
  planGeneration := update.planGeneration
  generation := update.generation
  policy := update.policy
  aggregate := report.aggregate
  acceptedWorkers := acceptedWorkers updates
  rejectedWorkers := rejectedWorkers updates
  robust := update.policy != .mean

variable (node : ReduceNode)

def putByzantine (requestId : JobId) (state : V4ByzantineState) : ReduceNode :=
  { node with byzantine := node.byzantine.insert requestId state }

section

variable (now : UInt64) (update : V4ByzantineUpdate)

/- With all updates there, the request is answered for good. -/
def closeByzantine (state : V4ByzantineState) (taken : List (NodeId × List Int)) : Handled :=
  let held := putByzantine node update.requestId state
  if state.updates.size = state.expectedUpdates.toNat then
    match aggregateUpdates state.policy (state.updates.values.map Prod.snd) clipBound with
    | .error detail => ⟨held, [], taken, .error (.invalidConfig detail)⟩
    | .ok report =>
      let result := byzantineResult update state.updates report
      ⟨{ putByzantine node update.requestId
        { state with updates := ∅, completed := some result } with
        security := noteOutliers node.security now result.rejectedWorkers },
        [(state.replyTo, .byzantineResult result)], taken, .ok none⟩
  else
    ⟨held, [], taken, .ok none⟩

def recordUpdate (state : V4ByzantineState) : Handled :=
  if updateConflicts state update then
    refuseWith (putByzantine node update.requestId state) "V4 Byzantine update generation conflict"
  else
    match state.updates[update.worker]? with
    | some held =>
      if held = (update.sequence, update.values) then
        closeByzantine node now update state []
      else
        refuseWith (putByzantine node update.requestId state)
          "V4 Byzantine duplicate worker has conflicting update"
    | none =>
      closeByzantine node now update { state with
        updates := state.updates.insert update.worker (update.sequence, update.values) }
        [(update.worker, update.values)]

/- A completed request is answered again. -/
def takeUpdate : Handled :=
  match node.byzantine[update.requestId]? with
  | none =>
    if v4MaxAggregationRequests ≤ node.byzantine.size then
      refuseWith node "V4 Byzantine aggregation request limit reached"
    else
      recordUpdate node now update (freshByzantine update)
  | some state =>
    match state.completed with
    | none => recordUpdate node now update state
    | some result =>
      if replayConflicts state update then
        refuseWith node "V4 Byzantine replay has conflicting lineage"
      else
        ⟨node, [(update.replyTo, .byzantineResult result)], [], .ok none⟩

end

def receiveByzantineUpdate (now : UInt64) (peer : NodeId) (update : V4ByzantineUpdate) : Handled :=
  match updatePlan digests self node update with
  | .error error => refuse node error
  | .ok plan =>
    match route self peer update.worker update.aggregator
      "V4 update forward is not bound to the local worker" "V4 update worker binding failed" with
    | .error error => refuse node error
    | .ok .forward =>
      ⟨node, [(update.aggregator, .byzantineUpdate update)],
        [(update.worker, update.values)], .ok none⟩
    | .ok .record =>
      let checked := Security.admitTrainingUpdate contributionDigest
        node.security (contributionOf plan update) plan.workers now
      let node := { node with security := checked.security }
      match checked.result with
      | .error error => refuseWith node ("V6 training update rejected: " ++ error.text)
      | .ok _ => takeUpdate node now update

end

----
-- A Small Model
----

/- The four workers train on their own data. -/
def sgdPlan : V4TrainingPlan :=
  { Tensor.modelStart.plan with
    strategy := .localSgd
    support := .supported
    tensorDegree := 0
    pipelineStages := 0 }

def sgdNode (policy : Security.SecurityPolicy) : ReduceNode where
  plans := (∅ : Std.TreeMap JobId V4TrainingPlan).insert ⟨7⟩ sgdPlan
  collectives := ∅
  byzantine := ∅
  security := .new policy

def sgdDigest (contribution : Security.TrainingContribution) : ArtifactId :=
  Tensor.contentDigest contribution.values contribution.sequence.toNat

/- One of two updates of a request. -/
def sgdUpdate (worker aggregator : NodeId) (values : List Int) : V4ByzantineUpdate where
  requestId := ⟨11⟩
  jobId := ⟨7⟩
  planGeneration := sgdPlan.planGeneration
  generation := 1
  worker := worker
  aggregator := aggregator
  sequence := 1
  values := values
  policy := .coordinateMedian
  expectedUpdates := 2
  replyTo := sgdPlan.proposer

end IntelligenceNetwork.Reduction
