import IntelligenceNetwork.Frontier.Driver

/-
  The manifests of checkpoints.

  The content of a manifest comes from the driver's snapshot,
  from the manifest before it and from the hashes of the last
  tensor round.

  Main declarations:
    * `manifestContent`
    * `checkpointManifest_eq_ok_iff`
-/

----
-- Hashes of Shards
----

namespace IntelligenceNetwork.Frontier

section

variable (missing : String) (hashes : Std.TreeMap UInt16 ArtifactId)
variable (shards : List V4ShardOwnership)

/- The hashes of a list of shards, if none is missing. -/
theorem shardHashes_eq_ok_iff (found : List ArtifactId) :
    shardHashes missing hashes shards = .ok found ↔ found.map some =
      shards.map (fun shard => hashes[shard.shardId]?) := by
  unfold shardHashes
  induction shards generalizing found with
  | nil =>
    rw [List.mapM_nil, List.map_nil, List.map_eq_nil_iff]
    constructor
    · intro hOk
      cases hOk
      rfl
    · rintro rfl
      rfl
  | cons shard shards ih =>
    rw [List.mapM_cons, Validation.bind_eq_ok_iff, List.map_cons]
    cases hHash : hashes[shard.shardId]? with
    | none =>
      constructor
      · rintro ⟨hash, hFirst, -⟩
        cases hFirst
      · intro hFound
        cases found with
        | nil => cases hFound
        | cons hash found => simp at hFound
    | some hash =>
      constructor
      · rintro ⟨first, hFirst, hLater⟩
        cases hFirst
        rcases (Validation.bind_eq_ok_iff _ _ _).mp hLater with ⟨rest, hRest, hFound⟩
        cases hFound
        rw [List.map_cons, (ih rest).mp hRest]
      · intro hFound
        cases found with
        | nil => cases hFound
        | cons first found =>
          rw [List.map_cons, List.cons.injEq] at hFound
          rcases hFound with ⟨hFirst, hRest⟩
          cases hFirst
          refine ⟨hash, rfl, ?_⟩
          rw [Validation.bind_eq_ok_iff]
          exact ⟨found, (ih found).mpr hRest, rfl⟩

theorem shardHashes_of_present (hPresent : ∀ shard ∈ shards, hashes[shard.shardId]?.isSome = true) :
    ∃ found, shardHashes missing hashes shards = .ok found := by
  have hFound : ∃ found : List ArtifactId, found.map some =
    shards.map (fun shard => hashes[shard.shardId]?) := by
    induction shards with
    | nil => exact ⟨[], rfl⟩
    | cons shard shards ih =>
      rcases ih (fun shard hShard =>
        hPresent shard (List.mem_cons_of_mem _ hShard)) with
        ⟨found, hFound⟩
      rcases Option.isSome_iff_exists.mp (hPresent shard List.mem_cons_self) with ⟨hash, hHash⟩
      exact ⟨hash :: found, by
        rw [List.map_cons, List.map_cons, hFound, hHash]⟩
  rcases hFound with ⟨found, hFound⟩
  exact ⟨found, (shardHashes_eq_ok_iff missing hashes shards found).mpr hFound⟩

end

----
-- Contents
----

/- What a tensor round has left for each shard of the graph. -/
def roundHashes (graph : V4ExecutionGraph) (tensor : TensorRound) : List (Option ArtifactId) :=
  graph.shards.map (fun shard =>
    tensor.tensorHashes[shard.shardId]?) ++ graph.shards.map (fun shard =>
    tensor.optimizerHashes[shard.shardId]?)

variable (digests : Digests) (member : Member) (snapshot : Snapshot) (tensor : TensorRound)

/- A manifest is made when no shard is without hashes. -/
theorem checkpointManifest_eq_ok_iff (checkpoint : V4CheckpointRecord) :
    checkpointManifest digests member snapshot tensor = .ok checkpoint ↔ ∃ hashes : List ArtifactId,
      hashes.map some = roundHashes snapshot.graph tensor ∧ checkpoint =
        V4CheckpointRecord.hashed digests (manifestContent member snapshot hashes) := by
  unfold checkpointManifest
  simp only [Validation.bind_eq_ok_iff, shardHashes_eq_ok_iff]
  constructor
  · rintro ⟨tensors, hTensors, optimizers, hOptimizers, hResult⟩
    cases hResult
    refine ⟨tensors ++ optimizers, ?_, rfl⟩
    rw [List.map_append, hTensors, hOptimizers]
    rfl
  · rintro ⟨hashes, hHashes, rfl⟩
    rcases List.map_eq_append_iff.mp hHashes with ⟨tensors, optimizers, rfl, hTensors, hOptimizers⟩
    exact ⟨tensors, hTensors, optimizers, hOptimizers, rfl⟩

theorem checkpointManifest_of_present
    (hPresent : ∀ shard ∈ snapshot.graph.shards, tensor.tensorHashes[shard.shardId]?.isSome = true ∧
      tensor.optimizerHashes[shard.shardId]?.isSome = true) :
    ∃ checkpoint, checkpointManifest digests member snapshot tensor = .ok checkpoint := by
  rcases shardHashes_of_present "checkpoint is missing a tensor shard" tensor.tensorHashes
    snapshot.graph.shards (fun shard hShard => (hPresent shard hShard).1) with
    ⟨tensors, hTensors⟩
  rcases shardHashes_of_present "checkpoint is missing an optimizer shard"
    tensor.optimizerHashes snapshot.graph.shards
    (fun shard hShard => (hPresent shard hShard).2) with
    ⟨optimizers, hOptimizers⟩
  simp only [checkpointManifest, hTensors, hOptimizers, bind,
    Except.bind, Except.ok.injEq, exists_eq']

end IntelligenceNetwork.Frontier
