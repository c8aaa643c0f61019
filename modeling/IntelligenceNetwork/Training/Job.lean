import IntelligenceNetwork.Protocol.Records
import IntelligenceNetwork.Protocol.Validation.Training
import IntelligenceNetwork.Training.Context

/-
  How a job is set up.

  The node that starts a job deals the workers into two groups
  in turn, and gives each group one shard.

  Main declarations:
    * `makeGroups`
    * `workerStarts`
    * `workerStarts_accepted`
-/

namespace IntelligenceNetwork.Training

/- What a job asks for, of which its orders are made. -/
structure JobRequest where
  maxWindows : UInt64
  localSteps : UInt16
  checkpointEvery : UInt64

----
-- Groups and Orders
----

/- Every second worker, from the first or from the second. -/
def groupMembers (workers : List NodeId) (parity : Nat) : List NodeId :=
  (workers.zipIdx.filter (fun entry => entry.2 % 2 == parity)).map Prod.fst

def makeGroups (workers : List NodeId) : List TrainingGroup :=
  [0, 1].filterMap (fun parity =>
    let members := groupMembers workers parity
    members.head?.map (fun aggregator =>
      ⟨UInt16.ofNat parity, UInt16.ofNat parity, members, aggregator⟩))

section

variable (digest : Digest)

def makeShard (jobId : JobId) (group : TrainingGroup) : TrainingShardAssignment where
  shardId := group.shardId
  groupId := group.groupId
  owners := group.members
  replicas := group.members
  generation := 0
  stateHash := digest.stateHash jobId group.shardId 0 0 0

section

variable (node : NodeId) (jobId : JobId) (request : JobRequest) (workers : List NodeId)

def workerStart (assignment : TrainingShardAssignment) : TrainingStart :=
  let groups := makeGroups workers
  let shards := groups.map (makeShard digest jobId)
  { jobId := jobId
    coordinator := node
    term := 1
    membershipEpoch := 1
    branch := digest.branchHash jobId
    planHash := digest.planHash workers groups shards request.maxWindows request.localSteps
      request.checkpointEvery
    maxWindows := request.maxWindows
    localSteps := request.localSteps
    maxStaleness := request.localSteps
    checkpointEvery := request.checkpointEvery
    execution := .autonomousLocalSgd
    modelStateBytes := 2 * 1024
    shardStateBytes := 1024
    participants := workers
    groups := groups
    shards := shards
    assignment := assignment
    initialValue := 0
    initialOptimizer := 0
    samples := samplesForShard assignment.shardId }

/-
  The orders of a job, worker by worker.  With two workers or
  more there are two shards, and the index is in range.
-/
def workerStarts : List (NodeId × TrainingStart) :=
  let shards := (makeGroups workers).map (makeShard digest jobId)
  workers.zipIdx.filterMap (fun entry =>
    shards[entry.2 % shards.length]?.map (fun assignment =>
      (entry.1, workerStart digest node jobId request workers assignment)))

end

end

/- When a worker refuses an order, whatever its memory. -/
def startRefused (node peer : NodeId) (start : TrainingStart) : Bool :=
  start.coordinator != peer || !start.assignment.owners.contains node ||
    !start.participants.contains node

----
-- Every Worker Takes Its Order
----

/- Two workers or more make two groups. -/
theorem makeGroups_cons_cons (first second : NodeId) (others : List NodeId) :
    makeGroups (first :: second :: others) = [⟨0, 0, groupMembers (first :: second :: others) 0,
      first⟩, ⟨1, 1, groupMembers (first :: second :: others) 1, second⟩] := by
  simp [makeGroups, groupMembers, List.zipIdx_cons]

section

variable {workers : List NodeId} {worker : NodeId} {index : Nat}

theorem mem_groupMembers (hWorker : workers[index]? = some worker) :
    worker ∈ groupMembers workers (index % 2) := by
  rw [groupMembers, List.mem_map]
  refine ⟨(worker, index), ?_, rfl⟩
  rw [List.mem_filter, List.mem_zipIdx_iff_getElem?]
  exact ⟨hWorker, beq_self_eq_true _⟩

/- A worker is in the group that its index points to. -/
theorem mem_members_of_getElem?_makeGroups
    {group : TrainingGroup} (hWorker : workers[index]? = some worker)
    (hGroup : (makeGroups workers)[index % (makeGroups workers).length]? = some group) :
    worker ∈ group.members := by
  have hOwn := mem_groupMembers hWorker
  match workers with
  | [] => simp at hWorker
  | [only] =>
    have hIndex : index = 0 := by
      by_contra hNonzero
      simp [hNonzero] at hWorker
    subst hIndex
    have hSome : group = ⟨0, 0, [only], only⟩ := (Option.some.inj hGroup).symm
    rw [hSome]
    exact hOwn
  | first :: second :: others =>
    rw [makeGroups_cons_cons] at hGroup
    rcases Nat.mod_two_eq_zero_or_one index with hEven | hOdd
    · rw [List.length_cons, List.length_cons, List.length_nil, hEven] at hGroup
      rw [← Option.some.inj hGroup, ← hEven]
      exact hOwn
    · rw [List.length_cons, List.length_cons, List.length_nil, hOdd] at hGroup
      rw [← Option.some.inj hGroup, ← hOdd]
      exact hOwn

/- No worker refuses the order that is made for it. -/
theorem workerStarts_accepted (digest : Digest) (node : NodeId) (jobId : JobId)
    (request : JobRequest) (workers : List NodeId) (worker : NodeId) (start : TrainingStart)
    (hStart : (worker, start) ∈ workerStarts digest node jobId request workers) :
    startRefused worker node start = false := by
  rw [workerStarts, List.mem_filterMap] at hStart
  rcases hStart with ⟨⟨named, index⟩, hMem, hSome⟩
  rw [Option.map_eq_some_iff] at hSome
  rcases hSome with ⟨assignment, hAssignment, hPair⟩
  obtain ⟨rfl, rfl⟩ := Prod.mk.inj hPair
  rw [List.mem_zipIdx_iff_getElem?] at hMem
  rw [List.length_map, List.getElem?_map, Option.map_eq_some_iff] at hAssignment
  rcases hAssignment with ⟨group, hGroup, rfl⟩
  have hOwner := mem_members_of_getElem?_makeGroups hMem hGroup
  have hParticipant : named ∈ workers := List.mem_of_getElem? hMem
  simp [startRefused, workerStart, makeShard, hOwner, hParticipant]

end

----
-- A Small Job
----

/-
  A stand-in for the hash of records.  It tells apart the
  records of the runs below: shard states by generation and
  value, manifests by their generations.
-/
def smallDigest : Digest where
  branchHash jobId := ⟨(1 : BitVec 128) ++ jobId.bytes⟩
  planHash := fun workers _ _ _ _ _ =>
    ⟨BitVec.ofNat 256 (workers.length + 1)⟩
  stateHash := fun _ shardId generation value _ =>
    ⟨BitVec.ofNat 256 (1 + shardId.toNat + 2 * generation.toNat) +
      (BitVec.ofInt 128 value).zeroExtend 256 <<< 128⟩
  manifestHash manifest := ⟨BitVec.ofNat 256
    (1 + manifest.modelGeneration.toNat + 1000 * manifest.checkpointGeneration.toNat)⟩
  shardStateHash state := ⟨BitVec.ofNat 256 (1 + state.generation.toNat)⟩

/- Node 9 starts a job of six windows on four workers. -/
def smallRequest : JobRequest := ⟨6, 1, 2⟩

def smallWorkers : List NodeId := [⟨1⟩, ⟨2⟩, ⟨3⟩, ⟨4⟩]

def smallStart (parity : Nat) : TrainingStart :=
  workerStart smallDigest ⟨9⟩ ⟨7⟩ smallRequest smallWorkers
    { shardId := UInt16.ofNat parity
      groupId := UInt16.ofNat parity
      owners := groupMembers smallWorkers parity
      replicas := groupMembers smallWorkers parity
      generation := 0
      stateHash := smallDigest.stateHash ⟨7⟩ (UInt16.ofNat parity) 0 0 0 }

/- These are the orders the job's workers receive. -/
example : workerStarts smallDigest ⟨9⟩ ⟨7⟩ smallRequest smallWorkers =
      [(⟨1⟩, smallStart 0), (⟨2⟩, smallStart 1), (⟨3⟩, smallStart 0), (⟨4⟩, smallStart 1)] := by
  decide

theorem workerStarts_accepted_small : startRefused ⟨2⟩ ⟨9⟩ (smallStart 1) = false :=
  workerStarts_accepted smallDigest ⟨9⟩ ⟨7⟩ smallRequest smallWorkers ⟨2⟩ _ (by decide)

example : Validation.trainingStart (smallStart 0) = .ok () := by
  decide

/- A first checkpoint of the job, at some model generation. -/
def smallManifest (term modelGeneration : UInt64) : TrainingCheckpointManifest :=
  let manifest : TrainingCheckpointManifest :=
    { jobId := ⟨7⟩
      modelGeneration := modelGeneration
      optimizerGeneration := modelGeneration
      membershipEpoch := 1
      term := term
      checkpointGeneration := 1
      parent := none
      shards := [⟨0, ⟨20⟩, modelGeneration, [⟨1⟩, ⟨3⟩]⟩, ⟨1, ⟨21⟩, modelGeneration, [⟨2⟩, ⟨4⟩]⟩]
      datasetProgress := [(0, modelGeneration), (1, modelGeneration)]
      hash := default }
  { manifest with hash := checkpointHash smallDigest manifest }

def smallCommit (coordinator : NodeId) (term modelGeneration : UInt64) :
    TrainingCheckpointCommit where
  jobId := ⟨7⟩
  coordinator := coordinator
  term := term
  membershipEpoch := 1
  branch := smallDigest.branchHash ⟨7⟩
  manifest := smallManifest term modelGeneration
  quorum := [coordinator]

/- A window of the first group. -/
def smallWindow (window baseGeneration : UInt64) : TrainingWindow where
  jobId := ⟨7⟩
  coordinator := ⟨9⟩
  term := 1
  membershipEpoch := 1
  branch := smallDigest.branchHash ⟨7⟩
  window := window
  groupId := 0
  shardId := 0
  aggregator := ⟨1⟩
  members := [⟨1⟩, ⟨3⟩]
  baseGeneration := baseGeneration
  localSteps := 1
  maxStaleness := 1

/- An aggregate of the small job, as its aggregator sends it. -/
def smallAggregate (groupId : UInt16) (aggregator : NodeId)
    (window : UInt64) : TrainingAggregate where
  jobId := ⟨7⟩
  aggregator := aggregator
  term := 1
  membershipEpoch := 1
  branch := smallDigest.branchHash ⟨7⟩
  window := window
  groupId := groupId
  shardId := groupId
  generation := window
  value := 0
  optimizer := 0
  loss := 0
  contributors := [aggregator]
  stateArtifact := smallDigest.stateHash ⟨7⟩ groupId window 0 0
  replicas := [aggregator]

end IntelligenceNetwork.Training
