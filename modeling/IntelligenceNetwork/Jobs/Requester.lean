import IntelligenceNetwork.Jobs.Handler

/-
  The node that asked for a job: the entries of its pending
  table and the updates that end them.

  Main declarations:
    * `handleJobUpdate`
    * `Outranks`
    * `retry_answered_iff`
-/

----
-- Pending Jobs
----

namespace IntelligenceNetwork.Jobs

variable {update : JobUpdate} {id : JobId} {last : Nat} {peer : NodeId}

structure PendingJob where
  jobId : JobId
  peer : NodeId
  capability : String
  startedAt : UInt64
  lastSequence : UInt32

structure JobResult where
  jobId : JobId
  state : JobState
  output : Option (List UInt8)
  outputHash : Option ArtifactId
  evidence : Option Evidence
  error : Option String

/- The pending table and what the ended jobs' callers were given. -/
structure Requester where
  pending : Std.TreeMap JobId PendingJob
  results : List JobResult

/- The entry that a first attempt and a retry both make. -/
def submitRemoteToPeer (requester : Requester) (peer : NodeId) (request : JobRequest)
    (now : UInt64) : Requester :=
  let job : PendingJob := ⟨request.jobId, peer, request.capability, now, 0⟩
  { requester with pending := requester.pending.insert request.jobId job }

/- The deadline of an attempt has passed. -/
def expire (requester : Requester) (request : JobRequest) : Requester :=
  { requester with pending := requester.pending.erase request.jobId }

def validChunk (update : JobUpdate) : Bool :=
  match update.update with
  | .chunk sequence _ => sequence == update.sequence
  | _ => true

variable (digest : List UInt8 → ArtifactId)

def jobResult (update : JobUpdate) : JobResult :=
  let failed (state : JobState) (error : String) : JobResult :=
    ⟨update.jobId, state, none, none, none, some error⟩
  match update.update with
  | .succeeded output outputHash evidence =>
    if digest output = outputHash then
      ⟨update.jobId, .succeeded, some output, some outputHash, evidence, none⟩
    else failed .failed "remote result hash does not match output"
  | .cancelled => failed .cancelled "cancelled"
  | .timedOut => failed .timedOut "timed out"
  | .rejected code message | .failed code message => failed update.state s!"{code}: {message}"
  | _ => failed .failed "invalid terminal update"

def handleJobUpdate (peer : NodeId) (requester : Requester) (update : JobUpdate) : Requester :=
  match requester.pending[update.jobId]? with
  | none => requester
  | some job =>
    if !update.state.terminal then
      if job.peer = peer ∧ update.sequence > job.lastSequence ∧ validChunk update then
        let moved := { job with lastSequence := update.sequence }
        { requester with pending := requester.pending.insert update.jobId moved }
      else requester
    else if job.peer ≠ peer ∨ update.sequence ≤ job.lastSequence then requester
    else ⟨requester.pending.erase update.jobId, requester.results ++ [jobResult digest update]⟩

theorem jobResult_jobId : (jobResult digest update).jobId = update.jobId := by
  unfold jobResult
  split
  · split_ifs
    · rfl
    · rfl
  all_goals rfl

theorem jobResult_terminal (hFinal : update.state.terminal = true) :
    (jobResult digest update).state.terminal = true := by
  unfold jobResult
  split
  · split_ifs
    · rfl
    · rfl
  all_goals first | rfl | exact hFinal

theorem resendTerminal_spec {job : PersistedJob} : (resendTerminal digest id job).jobId = id ∧
    (resendTerminal digest id job).state.terminal = true ∧
    (resendTerminal digest id job).sequence = 4 := by
  unfold resendTerminal
  split
  · split
    · split_ifs
      · exact ⟨rfl, rfl, rfl⟩
      · exact ⟨rfl, rfl, rfl⟩
    · exact ⟨rfl, rfl, rfl⟩
  all_goals exact ⟨rfl, rfl, rfl⟩

----
-- One Update
----

/- The job's caller has been given a terminal result, and nobody else a result. -/
def Completed (requester : Requester) (id : JobId) (after : Requester) : Prop :=
  after.pending[id]? = none ∧ ∃ result : JobResult, result.jobId = id ∧
    result.state.terminal = true ∧ after.results = requester.results ++ [result]

/- The job waits for an update above the sequence number `last`. -/
def Waiting (peer : NodeId) (id : JobId) (last : Nat) (requester : Requester) : Prop :=
  ∃ job, requester.pending[id]? = some job ∧ job.peer = peer ∧ job.lastSequence.toNat = last

/- An update that moves the sequence number of a waiting job. -/
def counts (update : JobUpdate) : Bool := !update.state.terminal && validChunk update

variable {requester : Requester}

theorem handleJobUpdate_final (hWaiting : Waiting peer update.jobId last requester)
    (hFinal : update.state.terminal = true) (hAbove : last < update.sequence.toNat) :
    Completed requester update.jobId (handleJobUpdate digest peer requester update) := by
  obtain ⟨job, hJob, hPeer, rfl⟩ := hWaiting
  have hHandled : handleJobUpdate digest peer requester update =
    ⟨requester.pending.erase update.jobId, requester.results ++ [jobResult digest update]⟩ := by
    simp [handleJobUpdate, hJob, hFinal, hPeer, UInt32.le_iff_toNat_le, hAbove]
  rw [hHandled]
  exact ⟨by simp, _, jobResult_jobId digest, jobResult_terminal digest hFinal, rfl⟩

theorem handleJobUpdate_waiting (hWaiting : Waiting peer update.jobId last requester)
    (hStale : update.state.terminal = true → update.sequence.toNat ≤ last) :
    Waiting peer update.jobId (if counts update then max last update.sequence.toNat else last)
      (handleJobUpdate digest peer requester update) ∧
      (handleJobUpdate digest peer requester update).results = requester.results := by
  obtain ⟨job, hJob, hPeer, rfl⟩ := hWaiting
  have hStays : Waiting peer update.jobId job.lastSequence.toNat requester :=
    ⟨job, hJob, hPeer, rfl⟩
  unfold handleJobUpdate counts
  cases hTerminal : update.state.terminal with
  | true => simpa [hJob, UInt32.le_iff_toNat_le, hStale hTerminal] using hStays
  | false =>
    cases hValid : validChunk update with
    | false => simpa [hJob] using hStays
    | true =>
      by_cases hAbove : job.lastSequence < update.sequence
      · have hMax := max_eq_right (le_of_lt (UInt32.lt_iff_toNat_lt.mp hAbove))
        simp [hJob, hPeer, hAbove, hMax, Waiting]
      · have hMax := max_eq_left (not_lt.mp (fun hLt => hAbove (UInt32.lt_iff_toNat_lt.mpr hLt)))
        simpa [hJob, hAbove, hMax] using hStays

----
-- A Retry
----

/- A terminal update is above every update that would move the number. -/
def Outranks (updates : List JobUpdate) : Prop :=
  ∃ final ∈ updates, final.state.terminal = true ∧ 0 < final.sequence ∧
    ∀ other ∈ updates, counts other = true → other.sequence < final.sequence

section

variable {updates : List JobUpdate}

theorem handleJobUpdates_none (hNone : requester.pending[id]? = none)
    (hJob : ∀ update ∈ updates, update.jobId = id) :
    updates.foldl (handleJobUpdate digest peer) requester = requester := by
  induction updates with
  | nil => rfl
  | cons update rest ih =>
    rw [List.forall_mem_cons] at hJob
    have hSame : handleJobUpdate digest peer requester update = requester := by
      unfold handleJobUpdate
      rw [hJob.1, hNone]
    rw [List.foldl_cons, hSame]
    exact ih hJob.2

/- Updates that all come too late to end the job raise its number. -/
theorem handleJobUpdates_waiting (hWaiting : Waiting peer id last requester)
    (hJob : ∀ update ∈ updates, update.jobId = id)
    (hStale : ∀ update ∈ updates, update.state.terminal = true → update.sequence.toNat ≤ last) :
    ∃ next, Waiting peer id next (updates.foldl (handleJobUpdate digest peer) requester) ∧
      last ≤ next ∧ ∀ update ∈ updates, counts update = true → update.sequence.toNat ≤ next := by
  induction updates generalizing requester last with
  | nil => exact ⟨last, hWaiting, le_refl last, nofun⟩
  | cons update rest ih =>
    rw [List.forall_mem_cons] at hJob hStale
    obtain ⟨hHere, hJob⟩ := hJob
    subst hHere
    have hNext := (handleJobUpdate_waiting digest hWaiting hStale.1).1
    have hGrows : last ≤ if counts update then max last update.sequence.toNat else last := by
      split_ifs <;> omega
    obtain ⟨next, hAfter, hAbove, hRest⟩ :=
      ih hNext hJob (fun late hLate hFinal => (hStale.2 late hLate hFinal).trans hGrows)
    refine ⟨next, hAfter, hGrows.trans hAbove, List.forall_mem_cons.mpr ⟨fun hCounts => ?_, hRest⟩⟩
    rw [if_pos hCounts] at hAbove
    omega

/- The induction carries the number of the job, which stays below the final update's. -/
theorem handleJobUpdates_completed {final : JobUpdate} (hWaiting : Waiting peer id last requester)
    (hJob : ∀ update ∈ updates, update.jobId = id) (hMem : final ∈ updates)
    (hFinal : final.state.terminal = true) (hLast : last < final.sequence.toNat)
    (hBelow : ∀ other ∈ updates, counts other = true → other.sequence < final.sequence) :
    Completed requester id (updates.foldl (handleJobUpdate digest peer) requester) := by
  induction updates generalizing requester last with
  | nil => cases hMem
  | cons update rest ih =>
    rw [List.forall_mem_cons] at hJob hBelow
    obtain ⟨hHere, hJob⟩ := hJob
    subst hHere
    rw [List.foldl_cons]
    by_cases hEnds : update.state.terminal = true ∧ last < update.sequence.toNat
    · have hDone := handleJobUpdate_final digest hWaiting hEnds.1 hEnds.2
      rw [handleJobUpdates_none digest hDone.1 hJob]
      exact hDone
    · have hStale : update.state.terminal = true → update.sequence.toNat ≤ last :=
        fun hTerminal => not_lt.mp (fun hAbove => hEnds ⟨hTerminal, hAbove⟩)
      obtain ⟨hNext, hSame⟩ := handleJobUpdate_waiting digest hWaiting hStale
      have hLater : final ∈ rest := by
        rcases List.mem_cons.mp hMem with rfl | hLater
        · exact absurd ⟨hFinal, hLast⟩ hEnds
        · exact hLater
      have hDone := ih hNext hJob hLater (by
        split_ifs with hCounts
        · exact max_lt hLast (UInt32.lt_iff_toNat_lt.mp (hBelow.1 hCounts))
        · exact hLast) hBelow.2
      rwa [Completed, hSame] at hDone

end

/-
  A retry is answered in every order of the updates exactly when
  one that ends the job outranks those that do not.
-/
theorem retry_answered_iff (requester : Requester) (worker : NodeId) (request : JobRequest)
    (now : UInt64) (job : PersistedJob) (earlier : List JobUpdate)
    (hEarlier : ∀ update ∈ earlier, update.jobId = request.jobId) :
    (∀ order : List JobUpdate, order.Perm (resendTerminal digest request.jobId job :: earlier) →
      Completed requester request.jobId (order.foldl (handleJobUpdate digest worker)
        (submitRemoteToPeer requester worker request now))) ↔
      Outranks (resendTerminal digest request.jobId job :: earlier) := by
  have hJobs : ∀ update ∈ resendTerminal digest request.jobId job :: earlier,
    update.jobId = request.jobId :=
    List.forall_mem_cons.mpr ⟨(resendTerminal_spec digest).1, hEarlier⟩
  generalize resendTerminal digest request.jobId job :: earlier = updates at hJobs
  have hWaiting : Waiting worker request.jobId 0
    (submitRemoteToPeer requester worker request now) := by
    simp [Waiting, submitRemoteToPeer]
  constructor
  · intro hAnswered
    by_contra hNot
    -- The updates that end the job come last and find its number too high.
    have hOrder :=
      List.filter_append_perm (fun update : JobUpdate => !update.state.terminal) updates
    have hFirst : ∀ update ∈ updates.filter (fun update => !update.state.terminal),
      update.jobId = request.jobId :=
      fun update hMem => hJobs update (List.mem_of_mem_filter hMem)
    obtain ⟨next, hNext, -, hAbove⟩ := handleJobUpdates_waiting digest hWaiting hFirst
      (fun update hMem hFinal => absurd (List.of_mem_filter hMem) (by simp [hFinal]))
    have hStale : ∀ final ∈ updates, final.state.terminal = true → final.sequence.toNat ≤ next := by
      intro final hMem hFinal
      by_contra hHigh
      refine hNot ⟨final, hMem, hFinal,
        UInt32.lt_iff_toNat_lt.mpr (Nat.pos_of_ne_zero (by omega)), ?_⟩
      intro other hOther hCounts
      have hOpen := (Bool.and_eq_true_iff.mp hCounts).1
      have hLow := hAbove other (List.mem_filter.mpr ⟨hOther, hOpen⟩) hCounts
      exact UInt32.lt_iff_toNat_lt.mpr (by omega)
    obtain ⟨-, ⟨entry, hEntry, -⟩, -⟩ := handleJobUpdates_waiting digest hNext
      (fun update hMem => hJobs update (List.mem_of_mem_filter hMem))
      (fun update hMem => hStale update (List.mem_of_mem_filter hMem))
    have hDone := (hAnswered _ hOrder).1
    rw [List.foldl_append, hEntry] at hDone
    cases hDone
  · rintro ⟨final, hMem, hFinal, hPositive, hBelow⟩ order hOrder
    exact handleJobUpdates_completed digest hWaiting
      (fun update hUpdate => hJobs update (hOrder.mem_iff.mp hUpdate)) (hOrder.mem_iff.mpr hMem)
      hFinal (UInt32.lt_iff_toNat_lt.mp hPositive)
      (fun other hOther => hBelow other (hOrder.mem_iff.mp hOther))

def cancelledJob : PersistedJob := ⟨⟨1⟩, .cancelled, 0, none, none, none⟩

def chunkUpdate (sequence : UInt32) : JobUpdate := ⟨⟨1⟩, .running, sequence, .chunk sequence []⟩

/- The first chunk has the number 3 and is below the answer. -/
theorem retry_answered_after_chunk : Completed ⟨∅, []⟩ ⟨1⟩
    ([chunkUpdate 3, resendTerminal (fun _ => ⟨0⟩) ⟨1⟩ cancelledJob].foldl
      (handleJobUpdate (fun _ => ⟨0⟩) ⟨2⟩) (submitRemoteToPeer ⟨∅, []⟩ ⟨2⟩ (smallRequest ⟨1⟩) 0)) :=
  (retry_answered_iff (fun _ => ⟨0⟩) ⟨∅, []⟩ ⟨2⟩ (smallRequest ⟨1⟩) 0 cancelledJob [chunkUpdate 3]
    (by decide)).mpr ⟨_, List.mem_cons_self, rfl, by decide, by decide⟩ _ (List.Perm.swap _ _ _)

/- A first attempt expires and the update that ends its job, number 5, finds no entry. -/
def missedEnd : Requester :=
  let asked := submitRemoteToPeer ⟨∅, []⟩ ⟨2⟩ (smallRequest ⟨1⟩) 0
  let streamed := [⟨⟨1⟩, .admitted, 1, .accepted .admitted⟩, ⟨⟨1⟩, .running, 2, .started⟩,
    chunkUpdate 3].foldl (handleJobUpdate (fun _ => ⟨0⟩) ⟨2⟩) asked
  handleJobUpdate (fun _ => ⟨0⟩) ⟨2⟩ (expire streamed (smallRequest ⟨1⟩))
    ⟨⟨1⟩, .cancelled, 5, .cancelled⟩

/- Its second chunk comes after the retry was entered, and the answer to the retry is ignored. -/
theorem retry_unanswered : ¬ Completed missedEnd ⟨1⟩
    ([chunkUpdate 4, resendTerminal (fun _ => ⟨0⟩) ⟨1⟩ cancelledJob].foldl
      (handleJobUpdate (fun _ => ⟨0⟩) ⟨2⟩)
      (submitRemoteToPeer missedEnd ⟨2⟩ (smallRequest ⟨1⟩) 1)) :=
  fun hDone => absurd hDone.1 (by decide +kernel)

end IntelligenceNetwork.Jobs
