import IntelligenceNetwork.Lib.Transition
import IntelligenceNetwork.Tensor.ShardWrites

/-
  Tensor shards in memory and on disk.

  Five calls write the map and the file of a shard in separate
  statements.  A replica message that is older than what the
  node has replaces the newer file, and two of the calls make
  new entries without looking at the limit of a restart.

  Main declarations:
    * `Durable`
    * `keepsDisk`
    * `shards_durable_iff`
-/

----
-- Restart
----

namespace IntelligenceNetwork.Tensor

open Transition OrderedMap

variable {node next : TensorNode} {digests : StateDigests}

section

variable (digests : StateDigests)

/- The shards that a node finds in the files it reads. -/
def restoreTensorShards (files : List V4LocalTensorShard) :
    Std.TreeMap ShardKey V4LocalTensorShard :=
  insertUpTo v4MaxTensorShards (validLocalTensorShard digests) V4LocalTensorShard.key ∅ files

/-
  Every shard in memory is in its file, and a restart brings
  all of them back, in whatever order it reads the files.
-/
structure Durable (node : TensorNode) : Prop where
  written : ∀ (key : ShardKey) (shard : V4LocalTensorShard), node.shards[key]? = some shard →
    node.shardFiles[key]? = some shard
  restored : ∀ files, files.Perm node.shardFiles.values →
    ∀ (key : ShardKey) (shard : V4LocalTensorShard), node.shards[key]? = some shard →
      (restoreTensorShards digests files)[key]? = some shard

/- The state of a node that has written all that it holds. -/
structure Settled (node : TensorNode) : Prop where
  agrees : ∀ key : ShardKey, node.shardFiles[key]? = node.shards[key]?
  keyed : ∀ (key : ShardKey) (shard : V4LocalTensorShard),
    node.shards[key]? = some shard → shard.key = key
  valid : ∀ (key : ShardKey) (shard : V4LocalTensorShard), node.shards[key]? = some shard →
    validLocalTensorShard digests shard = true
  small : node.shards.size ≤ v4MaxTensorShards

theorem size_eq_of_agrees (hAgrees : ∀ key : ShardKey, node.shardFiles[key]? = node.shards[key]?) :
    node.shardFiles.size = node.shards.size := by
  have hMem : ∀ key, key ∈ node.shardFiles ↔ key ∈ node.shards := by
    intro key
    rw [Std.TreeMap.mem_iff_isSome_getElem?, Std.TreeMap.mem_iff_isSome_getElem?, hAgrees]
  apply Nat.le_antisymm
  · exact size_le_of_forall_mem _ (fun key => (hMem key).mp)
  · exact size_le_of_forall_mem _ (fun key => (hMem key).mpr)

/- The files of a settled node have different names. -/
theorem Settled.nodup_files (hSettled : Settled digests node) :
    (node.shardFiles.values.map V4LocalTensorShard.key).Nodup := by
  have hKeys : node.shardFiles.values.map V4LocalTensorShard.key = node.shardFiles.keys := by
    rw [values_eq_map_snd, List.map_map, ← Std.TreeMap.map_fst_toList_eq_keys]
    apply List.map_congr_left
    rintro ⟨key, shard⟩ hEntry
    have hFile := Std.TreeMap.mem_toList_iff_getElem?_eq_some.mp hEntry
    rw [hSettled.agrees] at hFile
    exact hSettled.keyed key shard hFile
  rw [hKeys]
  exact nodup_keys _

theorem Settled.durable (hSettled : Settled digests node) : Durable digests node := by
  refine ⟨?_, ?_⟩
  · intro key shard hShard
    rw [hSettled.agrees, hShard]
  · intro files hPerm key shard hShard
    have hLength : files.length = node.shards.size := by
      rw [hPerm.length_eq, values_eq_map_snd, List.length_map, Std.TreeMap.length_toList,
        size_eq_of_agrees hSettled.agrees]
    have hKeys : (files.map V4LocalTensorShard.key).Nodup :=
      ((hPerm.map _).nodup_iff).mpr hSettled.nodup_files
    have hKept : ∀ file ∈ files, validLocalTensorShard digests file = true := by
      intro file hFile
      rcases mem_values_iff.mp (hPerm.mem_iff.mp hFile) with ⟨other, hOther⟩
      rw [hSettled.agrees] at hOther
      exact hSettled.valid other file hOther
    have hMem : shard ∈ files := by
      refine hPerm.mem_iff.mpr (mem_values_iff.mpr ⟨key, ?_⟩)
      rw [hSettled.agrees, hShard]
    have hRoom : (∅ : Std.TreeMap ShardKey V4LocalTensorShard).size +
      files.length ≤ v4MaxTensorShards := by
      simpa [hLength] using hSettled.small
    have hFound := getElem?_insertUpTo_of_mem v4MaxTensorShards
      (validLocalTensorShard digests) V4LocalTensorShard.key ∅ files hKept hKeys hRoom shard hMem
    rw [hSettled.keyed key shard hShard] at hFound
    exact hFound

/- A restart brings back no more than the limit. -/
theorem Durable.size_le (hDurable : Durable digests node) :
    node.shards.size ≤ v4MaxTensorShards := by
  refine Nat.le_trans (size_le_of_forall_mem
    (restoreTensorShards digests node.shardFiles.values) ?_)
    (size_insertUpTo_le _ _ _ ∅ _ (Nat.zero_le _))
  intro key hKey
  rw [Std.TreeMap.mem_iff_isSome_getElem?] at hKey ⊢
  rcases Option.isSome_iff_exists.mp hKey with ⟨shard, hShard⟩
  rw [hDurable.restored _ (List.Perm.refl _) key shard hShard]
  rfl

----
-- Calls
----

variable (self : NodeId)

/-
  The calls that write tensor shards.  Between two of them the
  node may adopt other plans and graphs.
-/
inductive ShardCall where
  | installLocal (install : V4TensorInstall)
  | install (peer : NodeId) (install : V4TensorInstall)
  | replica (peer : NodeId) (replica : V4TensorReplica)
  | localBackward (jobId : JobId) (planGeneration : UInt64)
    (spec : V4ShardOwnership) (sequence : UInt64) (input upstream : List Int)
  | backward (peer : NodeId) (backward : V4TensorBackward)
  | adopt (plans : Std.TreeMap JobId V4TrainingPlan) (graphs : Std.TreeMap JobId V4ExecutionGraph)

variable (node : TensorNode) (call : TensorEnv × ShardCall)

def shardStep : TensorNode :=
  let env := call.1.written
  match call.2 with
  | .installLocal install => (installLocalTensorShard digests env node install).node
  | .install peer install => (receiveTensorInstall digests self env node peer install).node
  | .replica peer replica => (receiveTensorReplica digests self env node peer replica).node
  | .localBackward jobId planGeneration spec sequence input upstream =>
    (localTensorBackward digests self env node jobId
      planGeneration spec sequence input upstream).node
  | .backward peer backward => (receiveTensorBackward digests self env node peer backward).node
  | .adopt plans graphs => { node with plans := plans, graphs := graphs }

/-
  A replica message must not be older than what the node has,
  and the calls that do not look at the limit must not make an
  entry beyond it.
-/
def keepsDisk : Bool :=
  match call.2 with
  | .installLocal install =>
    node.shards.contains ⟨install.jobId, install.shardId⟩ ||
      !validLocalTensorShard digests (firstShard install) || node.shards.size < v4MaxTensorShards
  | .replica peer replica =>
    !(tensorReplicaCheck digests self node peer replica).isOk ||
      match node.shards[(incomingShard replica).key]? with
      | none => node.shards.size < v4MaxTensorShards
      | some existing => !keepsNewer digests existing (incomingShard replica)
  | _ => true

end

----
-- One Call
----

section

variable (digests : StateDigests) (self : NodeId)

namespace Settled

variable {digests}

theorem localBackward (hSettled : Settled digests node) (env : TensorEnv) (jobId : JobId)
    (planGeneration : UInt64) (spec : V4ShardOwnership) (sequence : UInt64)
    (input upstream : List Int) :
    ShardWrite digests node (localTensorBackward digests self env.written node jobId
      planGeneration spec sequence input upstream).node := by
  rw [localTensorBackward_node]
  cases hGradients : localBackwardGradients env.written node jobId
    planGeneration spec sequence input upstream with
  | error error => exact .refl digests node
  | ok found =>
    rcases found with ⟨shard, gradients, inputGradient⟩
    rcases localBackwardGradients_shard hGradients with ⟨hShard, hTask, -⟩
    exact .stepShard digests self env node _ localRateMicros jobId planGeneration spec.shardId
      shard gradients sequence (hSettled.keyed _ shard hShard) (hSettled.valid _ shard hShard)
      (hasRoom_of_getElem? hShard) (length_of_shardGradients hTask)

theorem backward (hSettled : Settled digests node) (env : TensorEnv) (peer : NodeId)
    (backward : V4TensorBackward) :
    ShardWrite digests node
      (receiveTensorBackward digests self env.written node peer backward).node := by
  rw [receiveTensorBackward_node]
  cases hGradients : backwardGradients digests self env.written node peer backward with
  | error error => exact .refl digests node
  | ok found =>
    rcases found with ⟨plan, shard, gradients, inputGradient⟩
    rcases backwardGradients_shard digests self hGradients with ⟨hShard, hTask, -⟩
    exact .stepShard digests self env node shard.key backward.learningRateMicros backward.jobId
      backward.planGeneration backward.shardId shard gradients
      backward.sequence rfl (hSettled.valid _ shard hShard) (by
        rw [hSettled.keyed _ shard hShard]
        exact hasRoom_of_getElem? hShard)
      (length_of_shardGradients hTask)

end Settled

end

----
-- Every Call
----

section

variable (self : NodeId)

/- A write of a valid shard keeps a node settled. -/
theorem Settled.write (hSettled : Settled digests node) (hWrite : ShardWrite digests node next) :
    Settled digests next := by
  cases hWrite with
  | none hSame =>
    rcases hSame with ⟨hShards, hFiles⟩
    refine ⟨?_, ?_, ?_, ?_⟩
    · intro key
      rw [hFiles, hShards, hSettled.agrees]
    · intro key shard hShard
      rw [hShards] at hShard
      exact hSettled.keyed key shard hShard
    · intro key shard hShard
      rw [hShards] at hShard
      exact hSettled.valid key shard hShard
    · rw [hShards]
      exact hSettled.small
  | one shard hValid hRoom hShards hFiles =>
    refine ⟨?_, ?_, ?_, ?_⟩
    · intro key
      rw [hFiles, hShards, getElem?_insert, getElem?_insert, hSettled.agrees]
    · intro key other hOther
      rw [hShards] at hOther
      rcases getElem?_of_insert hOther with ⟨hKey, rfl⟩ | hOther
      · exact hKey
      · exact hSettled.keyed key other hOther
    · intro key other hOther
      rw [hShards] at hOther
      rcases getElem?_of_insert hOther with ⟨-, rfl⟩ | hOther
      · exact hValid
      · exact hSettled.valid key other hOther
    · rw [hShards, size_insert_le_iff hSettled.small]
      exact hRoom

/- One entry beyond the limit is lost at the next restart. -/
theorem not_durable_of_full {shard : V4LocalTensorShard} (hSettled : Settled digests node)
    (hFull : ¬ HasRoom node shard.key) (hShards :
      next.shards = node.shards.insert shard.key shard) : ¬ Durable digests next := by
  intro hDurable
  have hSize := hDurable.size_le
  rw [hShards, size_insert_le_iff hSettled.small] at hSize
  exact hFull hSize

/-
  What one call leaves: a write, if the call meets the
  condition, and a node that is not durable, if it does not.
-/
structure CallEffect (digests : StateDigests) (meets : Bool) (node next : TensorNode) : Prop where
  kept : meets = true → ShardWrite digests node next
  lost : meets = false → ¬ Durable digests next

theorem CallEffect.of_write {meets : Bool} (hMeets : meets = true)
    (hWrite : ShardWrite digests node next) : CallEffect digests meets node next where
  kept := fun _ => hWrite
  lost := by
    intro hFails
    rw [hMeets] at hFails
    cases hFails

theorem hasRoom_iff (node : TensorNode) (key : ShardKey) : HasRoom node key ↔
    (node.shards.contains key || decide (node.shards.size < v4MaxTensorShards)) = true := by
  rw [HasRoom, Bool.or_eq_true, decide_eq_true_eq, Std.TreeMap.contains_iff_mem]

section

variable (hSettled : Settled digests node) (env : TensorEnv) (install : V4TensorInstall)
include hSettled

theorem Settled.installFirst : CallEffect digests (node.shards.contains (firstShard install).key ||
    !validLocalTensorShard digests (firstShard install) ||
    decide (node.shards.size < v4MaxTensorShards))
    node
    (installFirstShard digests env.written node install).node := by
  unfold installFirstShard
  dsimp only
  cases hValid : validLocalTensorShard digests (firstShard install) with
  | false =>
    refine .of_write ?_ (.refl digests node)
    simp
  | true =>
    have hIff := hasRoom_iff node (firstShard install).key
    refine ⟨?_, ?_⟩
    · intro hMeets
      refine .put digests node _ _ rfl hValid (hIff.mpr ?_)
      rwa [Bool.not_true, Bool.or_false] at hMeets
    · intro hFails
      refine not_durable_of_full hSettled ?_ rfl
      intro hRoom
      have hHolds := hIff.mp hRoom
      rw [Bool.not_true, Bool.or_false] at hFails
      rw [hFails] at hHolds
      cases hHolds

theorem Settled.installLocal :
    CallEffect digests (keepsDisk digests self node (env, .installLocal install)) node
      (installLocalTensorShard digests env.written node install).node := by
  have hFirst := hSettled.installFirst env install
  unfold installLocalTensorShard
  dsimp only
  cases hShard : node.shards[(⟨install.jobId, install.shardId⟩ : ShardKey)]? with
  | none => exact hFirst
  | some existing =>
    have hMeets : keepsDisk digests self node (env, .installLocal install) = true := by
      have hKnown : node.shards.contains ⟨install.jobId, install.shardId⟩ = true := by
        rw [Std.TreeMap.contains_eq_isSome_getElem?, hShard]
        rfl
      simp [keepsDisk, hKnown]
    refine .of_write hMeets ?_
    dsimp only
    by_cases hStale : existing.planGeneration > install.planGeneration
    · rw [if_pos hStale]
      exact .refl digests node
    · split_ifs with hPromote
      · simp only [Bool.and_eq_true, decide_eq_true_eq] at hPromote
        exact .put digests node _ _ (hSettled.keyed _ existing hShard)
          (valid_promoteShard digests hPromote.2 hPromote.1.1.2) (hasRoom_of_getElem? hShard)
      · exact hFirst.kept hMeets

end

theorem Settled.install (hSettled : Settled digests node) (env : TensorEnv) (peer : NodeId)
    (install : V4TensorInstall) :
    ShardWrite digests node
      (receiveTensorInstall digests self env.written node peer install).node := by
  unfold receiveTensorInstall
  cases hCheck : tensorInstallCheck digests self node peer install with
  | error error => exact .refl digests node
  | ok checked =>
    dsimp only
    cases hShard : node.shards[(⟨install.jobId, install.shardId⟩ : ShardKey)]? with
    | none =>
      split_ifs with hFull
      · exact .refl digests node
      · have hWrite : ShardWrite digests node
          (putShard node (firstShard install).key (firstShard install)) :=
          .put digests node _ _ rfl (valid_of_tensorInstallCheck digests self hCheck)
            (Or.inr (Nat.lt_of_not_le hFull))
        apply Outcome.andThen_node
        · exact hWrite
        · intro _
          rw [answer_node]
          exact hWrite
    | some existing =>
      dsimp only
      split_ifs with hSame hOlder
      · rw [answer_node]
        exact .refl digests node
      · simp only [Bool.and_eq_true, decide_eq_true_eq] at hOlder
        have hWrite : ShardWrite digests node (putShard node ⟨install.jobId, install.shardId⟩
          (promoteShard existing install.planGeneration)) :=
          .put digests node _ _ (hSettled.keyed _ existing hShard)
            (valid_promoteShard digests hOlder.2 (UInt64.le_of_lt hOlder.1.1))
            (hasRoom_of_getElem? hShard)
        apply Outcome.andThen_node
        · exact hWrite
        · intro _
          rw [answer_node]
          exact hWrite
      · exact .refl digests node

/- An accepted message is written to the file of its shard. -/
theorem acceptReplica_written (env : TensorEnv) (node : TensorNode) (peer : NodeId)
    (replica : V4TensorReplica) : (acceptReplica env.written node peer replica).node = { node with
      shardFiles := node.shardFiles.insert (incomingShard replica).key
        (incomingShard replica) } := by
  exact answer_node

/- A newer shard in memory is then not what the file holds. -/
theorem not_durable_of_keepsNewer {existing : V4LocalTensorShard} {replica : V4TensorReplica}
    (hShard : node.shards[(incomingShard replica).key]? = some existing)
    (hNewer : keepsNewer digests existing (incomingShard replica) = true) :
    ¬ Durable digests { node with
      shardFiles := node.shardFiles.insert (incomingShard replica).key
        (incomingShard replica) } := by
  intro hDurable
  have hFile := hDurable.written _ existing hShard
  rw [getElem?_insert, if_pos rfl] at hFile
  cases hFile
  simp [keepsNewer] at hNewer

theorem Settled.replica (hSettled : Settled digests node) (env : TensorEnv) (peer : NodeId)
    (replica : V4TensorReplica) :
    CallEffect digests (keepsDisk digests self node (env, .replica peer replica)) node
      (receiveTensorReplica digests self env.written node peer replica).node := by
  unfold receiveTensorReplica keepsDisk
  dsimp only
  cases hCheck : tensorReplicaCheck digests self node peer replica with
  | error error => exact .of_write rfl (.refl digests node)
  | ok checked =>
    have hValid := valid_of_tensorReplicaCheck digests self hCheck
    cases hShard : node.shards[(incomingShard replica).key]? with
    | none =>
      rw [acceptReplica_written]
      refine ⟨?_, ?_⟩
      · intro hMeets
        have hRoom : HasRoom node (incomingShard replica).key := by
          right
          simpa [Except.isOk, Except.toBool] using hMeets
        exact .one (incomingShard replica) hValid hRoom rfl rfl
      · intro hFails
        refine not_durable_of_full hSettled ?_ rfl
        intro hRoom
        rcases hRoom with hKnown | hRoom
        · rw [Std.TreeMap.mem_iff_isSome_getElem?, hShard] at hKnown
          cases hKnown
        · simp [Except.isOk, Except.toBool, hRoom] at hFails
    | some existing =>
      dsimp only
      cases hNewer : keepsNewer digests existing (incomingShard replica) with
      | true =>
        rw [if_pos rfl, acceptReplica_written]
        refine ⟨?_, ?_⟩
        · intro hMeets
          simp [Except.isOk, Except.toBool] at hMeets
        · intro _
          exact not_durable_of_keepsNewer hShard hNewer
      | false =>
        refine .of_write (by simp) ?_
        rw [if_neg Bool.false_ne_true]
        split_ifs with hConflict
        · rw [answer_node]
          exact .refl digests node
        · rw [acceptReplica_written]
          exact .one (incomingShard replica) hValid (hasRoom_of_getElem? hShard) rfl rfl

end

----
-- Runs
----

section

variable (digests : StateDigests) (self : NodeId)

section

variable {digests : StateDigests} (hSettled : Settled digests node) (call : TensorEnv × ShardCall)
include hSettled

theorem Settled.shardStep_effect : CallEffect digests (keepsDisk digests self node call) node
    (shardStep digests self node call) := by
  rcases call with ⟨env, call⟩
  cases call with
  | installLocal install => exact hSettled.installLocal self env install
  | install peer install => exact .of_write rfl (hSettled.install self env peer install)
  | replica peer replica => exact hSettled.replica self env peer replica
  | localBackward jobId planGeneration spec sequence input upstream =>
    exact .of_write rfl
      (hSettled.localBackward self env jobId planGeneration spec sequence input upstream)
  | backward peer backward => exact .of_write rfl (hSettled.backward self env peer backward)
  | adopt plans graphs => exact .of_write rfl (.none ⟨rfl, rfl⟩)

/- One call leaves a durable node if and only if it may. -/
theorem Settled.shardStep_iff : Durable digests (shardStep digests self node call) ↔
    keepsDisk digests self node call = true := by
  have hEffect := hSettled.shardStep_effect self call
  constructor
  · intro hDurable
    by_contra hFails
    exact hEffect.lost (Bool.eq_false_of_not_eq_true hFails) hDurable
  · intro hMeets
    exact (hSettled.write (hEffect.kept hMeets)).durable

end

/-
  Whatever is called, in whatever order: the shards are durable
  after every call of a run if and only if no call of the run
  takes an older replica or makes an entry beyond the limit.
-/
theorem shards_durable_iff (start : TensorNode) (calls : List (TensorEnv × ShardCall))
    (hStart : Settled digests start) :
    Meets (fun node call => some (shardStep digests self node call)) (fun node call =>
      Durable digests (shardStep digests self node call))
      start calls ↔
      Meets (fun node call => some (shardStep digests self node call)) (fun node call =>
        keepsDisk digests self node call = true)
        start calls := by
  refine meets_iff_of_total (Settled digests) ?_ start hStart
  intro node call hSettled
  have hIff := hSettled.shardStep_iff self call
  refine ⟨hIff, ?_⟩
  intro hDurable
  exact hSettled.write ((hSettled.shardStep_effect self call).kept (hIff.mp hDurable))

end

----
-- A Newer Shard and an Older Message
----

/- A node that holds nothing has nothing to write. -/
theorem settled_empty : Settled digests {} where
  agrees := fun _ => rfl
  keyed := by
    intro key shard hShard
    simp at hShard
  valid := by
    intro key shard hShard
    simp at hShard
  small := Nat.zero_le _

/- Worker 1 owns shard 0 of the small job, worker 3 copies it. -/
def shardCopy (weights : List Int) (stateGeneration lastSequence : UInt64) : V4TensorReplica where
  jobId := ⟨7⟩
  planGeneration := 1
  modelGeneration := 1
  shardId := 0
  rows := 2
  cols := 4
  rowOffset := 0
  weights := weights
  stateHash := tensorHash modelDigests weights 2 4 0
  stateGeneration := stateGeneration
  lastSequence := lastSequence
  ownershipGeneration := 1
  source := ⟨1⟩

def firstCopy : V4TensorReplica :=
  shardCopy [1, 0, 0, 1, 1, 1, 2, 0] 1 0

def learnedCopy : V4TensorReplica :=
  shardCopy [1, 0, 0, 2, 1, 1, 3, 0] 2 4099

/- The first weights, and a copy of what worker 1 has learned. -/
def freshCopyCalls : List (TensorEnv × ShardCall) :=
  [(usualEnv, .adopt modelWorker.plans modelWorker.graphs), (usualEnv, .replica ⟨1⟩ firstCopy),
    (usualEnv, .replica ⟨1⟩ learnedCopy)]

theorem shards_durable_freshCopy : Settled modelDigests {} ∧ Meets (fun node call =>
    some (shardStep modelDigests ⟨3⟩ node call))
    (fun node call =>
      Durable modelDigests (shardStep modelDigests ⟨3⟩ node call))
    {} freshCopyCalls :=
  ⟨settled_empty, (shards_durable_iff modelDigests ⟨3⟩ {} freshCopyCalls
    settled_empty).mpr (by decide +kernel)⟩

/- The coordinator then installs the graph again. -/
def staleCopyCalls : List (TensorEnv × ShardCall) :=
  freshCopyCalls ++ [(usualEnv, .replica ⟨1⟩ firstCopy)]

/- The node that the four calls leave. -/
def staleCopyNode : TensorNode :=
  staleCopyCalls.foldl (shardStep modelDigests ⟨3⟩) {}

/- What it has learned is in memory, and no longer on disk. -/
theorem shards_durable_fails_staleCopy : Settled modelDigests {} ∧ ¬ Meets (fun node call =>
    some (shardStep modelDigests ⟨3⟩ node call))
    (fun node call =>
      Durable modelDigests (shardStep modelDigests ⟨3⟩ node call))
    {} staleCopyCalls := by
  have hMemory : staleCopyNode.shards[(⟨⟨7⟩, 0⟩ : ShardKey)]? =
    some (incomingShard learnedCopy) := by
    decide +kernel
  have hDisk : staleCopyNode.shardFiles[(⟨⟨7⟩, 0⟩ : ShardKey)]? =
    some (incomingShard firstCopy) := by
    decide +kernel
  refine ⟨settled_empty, ?_⟩
  intro hMeets
  have hLast := meets_append hMeets rfl
  have hDurable : Durable modelDigests staleCopyNode := hLast.1
  have hFile := hDurable.written _ _ hMemory
  cases hFile

end IntelligenceNetwork.Tensor
