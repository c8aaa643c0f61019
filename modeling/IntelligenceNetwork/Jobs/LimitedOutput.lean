import IntelligenceNetwork.Protocol.Validation.Basic

/-
  The output of a process is read up to a limit, into the
  result and in chunks to whoever follows the job.

  Main declarations:
    * `readLimitedWithChunks`
    * `read_limited_spec`
-/

----
-- Reading Output
----

namespace IntelligenceNetwork.Runtime

structure LimitedOutput where
  bytes : List UInt8
  truncated : Bool

/- The pieces of a slice. -/
def chunks (bytes : List UInt8) : List (List UInt8) :=
  if bytes = [] then []
  else bytes.take maxArtifactChunk :: chunks (bytes.drop maxArtifactChunk)
termination_by bytes.length
decreasing_by
  have hSome := List.length_pos_iff.mpr ‹_›
  rw [List.length_drop, maxArtifactChunk]
  omega

/-
  The result, and what is sent to a receiver that stays open.
  A read of no bytes is the end of the stream.
-/
def readLimitedWithChunks (limit : Nat) (output : List UInt8) :
    List (Except String (List UInt8)) → Except String LimitedOutput × List (List UInt8)
| [] | .ok [] :: _ => (.ok ⟨output, false⟩, [])
| .error detail :: _ => (.error detail, [])
| .ok read :: reads =>
  if output.length + read.length > limit then
    let piece := read.take (min (limit - output.length) read.length)
    (.ok ⟨output ++ piece, true⟩, chunks piece)
  else
    let (result, sent) := readLimitedWithChunks limit (output ++ read) reads
    (result, chunks read ++ sent)

theorem chunks_spec (bytes : List UInt8) : (chunks bytes).flatten = bytes ∧
    ∀ chunk ∈ chunks bytes, chunk ≠ [] ∧ chunk.length ≤ maxArtifactChunk := by
  fun_induction chunks bytes with
  | case1 => simp
  | case2 bytes hSome ih =>
    rw [List.flatten_cons, ih.1, List.forall_mem_cons]
    refine ⟨List.take_append_drop _ _, ⟨?_, List.length_take_le _ _⟩, ih.2⟩
    simp [hSome, maxArtifactChunk]

/- By induction over the reads that are left. -/
theorem read_limited_spec (limit : Nat) (reads : List (List UInt8)) (output : List UInt8)
    (hReads : [] ∉ reads) (hRoom : output.length ≤ limit) :
    ∃ result sent, readLimitedWithChunks limit output (reads.map .ok) = (.ok result, sent) ∧
      result.bytes = (output ++ reads.flatten).take limit ∧
      (result.truncated = true ↔ limit < (output ++ reads.flatten).length) ∧
      output ++ sent.flatten = result.bytes ∧
      ∀ chunk ∈ sent, chunk ≠ [] ∧ chunk.length ≤ maxArtifactChunk := by
  induction reads generalizing output with
  | nil => exact ⟨_, _, rfl, by simp [hRoom, List.take_of_length_le]⟩
  | cons read reads ih =>
    rw [List.mem_cons, not_or] at hReads
    rw [List.map_cons, readLimitedWithChunks.eq_4 _ _ _ _ (by rintro ⟨⟩; exact hReads.1 rfl)]
    split_ifs with hOver
    · refine ⟨_, _, rfl, ?_, ?_, ?_, (chunks_spec _).2⟩
      · rw [Nat.min_eq_left (by omega), List.take_append, List.take_of_length_le hRoom,
          List.flatten_cons, List.take_append_of_le_length (by omega)]
      · simp
        omega
      · rw [(chunks_spec _).1]
    · rcases ih (output ++ read) hReads.2 (by simpa using hOver) with
        ⟨result, sent, hResult, hBytes, hTruncated, hSent, hChunks⟩
      refine ⟨result, chunks read ++ sent, by rw [hResult], ?_, ?_, ?_, ?_⟩
      · simpa using hBytes
      · simpa using hTruncated
      · simpa [(chunks_spec read).1] using hSent
      · rw [List.forall_mem_append]
        exact ⟨(chunks_spec read).2, hChunks⟩

/- Five bytes in two reads, under a limit of four. -/
theorem read_limited_four : ∃ result sent,
    readLimitedWithChunks 4 [] ([[1, 2, 3], [4, 5]].map .ok) = (.ok result, sent) ∧
      result.bytes = [1, 2, 3, 4] ∧ (result.truncated = true ↔ 4 < 5) ∧
      sent.flatten = result.bytes ∧
      ∀ chunk ∈ sent, chunk ≠ [] ∧ chunk.length ≤ maxArtifactChunk :=
  read_limited_spec 4 [[1, 2, 3], [4, 5]] [] (by decide) (by decide)

end IntelligenceNetwork.Runtime
