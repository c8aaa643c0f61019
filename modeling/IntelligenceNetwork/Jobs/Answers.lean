import IntelligenceNetwork.Jobs.Handler
import IntelligenceNetwork.Protocol.RoundTrip

/-
  Which answers about a job can be sent.

  An answer carries the output of a job or the text of its
  error.  So it can be refused by the check of the node's own
  messages, or be larger than a frame.

  Main declarations:
    * `Sendable`
    * `Answerable`
    * `answers_iff`
-/

----
-- Encoded Updates
----

namespace IntelligenceNetwork.Jobs

open Validation PostcardFormat

variable {code message : String} {id : JobId} {sequence : UInt32}

def varintLength (value : Nat) : Nat :=
  (varint value).length

/- Bytes and texts carry their length. -/
def bytesLength (size : Nat) : Nat :=
  varintLength size + size

/- An absent evidence is one byte. -/
def evidenceLength : Option Evidence → Nat
| none => 1
| some evidence =>
  98 + (zigzag evidence.score).length +
    bytesLength evidence.scoreScale.utf8ByteSize + varintLength evidence.observedAt.toNat

def kindLength : JobUpdateKind → Nat
| .accepted _ => 2
| .started | .cancelled | .timedOut => 1
| .chunk sequence data => 1 + varintLength sequence.toNat + bytesLength data.length
| .succeeded output _ evidence => 1 + bytesLength output.length + 32 + evidenceLength evidence
| .rejected code message | .failed code message =>
  1 + bytesLength code.utf8ByteSize + bytesLength message.utf8ByteSize

/-
  The size of an update as the serializer writes it: one byte
  for the index of the message and of each enumeration, sixteen
  for the job, and the other fields in order.
-/
def updateLength (update : JobUpdate) : Nat :=
  18 + varintLength update.sequence.toNat + kindLength update.update

/- The writer of a connection sends the update and goes on. -/
def Sendable (hashing : Hashing) (update : JobUpdate) : Prop :=
  (Message.jobUpdate update).validate hashing = .ok () ∧
    frameSize (updateLength update) ≤ maxFrameSize

/- A text that may stand in a message. -/
def Short (text : String) : Prop :=
  text.utf8ByteSize ≠ 0 ∧ text.utf8ByteSize ≤ maxStringLen

instance (text : String) : Decidable (Short text) := inferInstanceAs (Decidable (_ ∧ _))

theorem varintLength_le (value : Nat) : varintLength value ≤ 10 := by
  have hFuel : ∀ fuel value, (varintFrom fuel value).length ≤ fuel := by
    intro fuel
    induction fuel with
    | zero => simp [varintFrom]
    | succ fuel ih =>
      intro value
      rw [varintFrom]
      split_ifs
      · simp
      · simpa using ih (value / 128)
  exact hFuel 10 value

theorem varintLength_eq_three (value : Nat) (hLow : 16384 ≤ value) (hHigh : value < 2097152) :
    varintLength value = 3 := by
  have hFirst : ¬ value < 128 := by omega
  have hSecond : ¬ value / 128 < 128 := by omega
  have hThird : value / 128 / 128 < 128 := by omega
  simp [varintLength, varint, varintFrom, hFirst, hSecond, hThird]

theorem nextSequence_ne_zero (sequence : UInt32) : nextSequence sequence ≠ 0 := by
  intro hZero
  have hNat := congrArg UInt32.toNat hZero
  unfold nextSequence at hNat
  split_ifs at hNat with hFits <;> simp [UInt32.size] at hNat hFits <;> omega

section

variable {hashing : Hashing} {state : JobState} {kind : JobUpdateKind}

theorem fits_of_small (hSmall : kindLength kind ≤ 1000000) :
    frameSize (updateLength ⟨id, state, sequence, kind⟩) ≤ maxFrameSize := by
  have hVarint := varintLength_le sequence.toNat
  simp only [frameSize, frameHeaderSize, maxFrameSize, updateLength]
  omega

variable (hSequence : sequence ≠ 0)
include hSequence

/- A rejection or a failure can be sent if its text is short. -/
theorem sendable_text_iff (hKind : state = .rejected ∧ kind = .rejected code message ∨
    state = .failed ∧ kind = .failed code message) (hCode : Short code) :
    Sendable hashing ⟨id, state, sequence, kind⟩ ↔ Short message := by
  have hValid : (Message.jobUpdate ⟨id, state, sequence, kind⟩).validate hashing = .ok () ↔
    Short message := by
    rcases hKind with ⟨rfl, rfl⟩ | ⟨rfl, rfl⟩ <;>
      simp [Message.validate, JobUpdate.validate, JobUpdateKind.matchesState, string,
        bind_eq_ok_iff, hSequence, Short, hCode.1, hCode.2]
  rw [Sendable, hValid, and_iff_left_iff_imp]
  intro hShort
  apply fits_of_small
  have hVarint := varintLength_le code.utf8ByteSize
  have hVarint' := varintLength_le message.utf8ByteSize
  have hLimits := And.intro hCode.2 hShort.2
  simp only [maxStringLen] at hLimits
  rcases hKind with ⟨-, rfl⟩ | ⟨-, rfl⟩ <;> simp only [kindLength, bytesLength] <;> omega

/- An update without a text or an output can always be sent. -/
theorem sendable_plain (hKind : (state, kind) ∈ [(.admitted, .accepted .admitted),
    (.running, .started), (.cancelled, .cancelled), (.timedOut, JobUpdateKind.timedOut)]) :
    Sendable hashing ⟨id, state, sequence, kind⟩ := by
  simp only [List.mem_cons, Prod.mk.injEq, List.not_mem_nil, or_false] at hKind
  rcases hKind with ⟨rfl, rfl⟩ | ⟨rfl, rfl⟩ | ⟨rfl, rfl⟩ | ⟨rfl, rfl⟩ <;>
    exact ⟨by simp [Message.validate, JobUpdate.validate, JobUpdateKind.matchesState,
      bind_eq_ok_iff, hSequence], fits_of_small (by simp [kindLength])⟩

theorem sendable_chunk {data : List UInt8} (hData : data.length ≤ maxArtifactChunk) :
    Sendable hashing ⟨id, .running, sequence, .chunk sequence data⟩ := by
  refine ⟨?_, fits_of_small ?_⟩
  · simpa [Message.validate, JobUpdate.validate, JobUpdateKind.matchesState, bytes,
      bind_eq_ok_iff, hSequence] using hData
  · have hVarint := varintLength_le sequence.toNat
    have hVarint' := varintLength_le data.length
    simp only [maxArtifactChunk, kindLength, bytesLength] at hData ⊢
    omega

/- Header and fields take 71 bytes beside the sequence number and the output. -/
theorem sendable_succeeded_iff (output : List UInt8) (outputHash : ArtifactId) :
    Sendable hashing ⟨id, .succeeded, sequence, .succeeded output outputHash none⟩ ↔
      varintLength sequence.toNat + output.length ≤ 1048505 := by
  have hSmall := varintLength_le output.length
  have hNumber := varintLength_le sequence.toNat
  have hWhole := varintLength_eq_three output.length
  simp [Sendable, Message.validate, JobUpdate.validate, JobUpdateKind.matchesState,
    bytes, ifPresent, bind_eq_ok_iff, hSequence, frameSize,
    frameHeaderSize, usizeMax, maxFrameSize, maxJobOutput, updateLength, kindLength, bytesLength,
    evidenceLength]
  omega

end

----
-- Answers of a Handler
----

/- What the operations of a handler may return. -/
structure World where
  texts : String → Prop
  results : Except String ExecutionOutcome → UInt32 → Prop
  records : PersistedJob → Prop
  digest : List UInt8 → ArtifactId

section

variable (hashing : Hashing) (world : World) (request : JobRequest)

/-
  Every update of the plan can be sent.  The runtime cuts the
  output into chunks of bounded size.
-/
def Plan.Answers : Plan → Prop
| .done | .drop => True
| .reserve _ _ reserved terminal collision denied =>
  reserved.Answers ∧ terminal.Answers ∧ collision.Answers ∧
    ∀ error, world.texts error → (denied error).Answers
| .runtimeAdmit next failed | .record _ next failed | .save _ next failed =>
  next.Answers ∧ ∀ error, world.texts error → (failed error).Answers
| .send update next failed =>
  Sendable hashing update ∧ next.Answers ∧ ∀ error, world.texts error → (failed error).Answers
| .cancel next | .abandon next => next.Answers
| .execute ended | .finish _ _ ended =>
  (∀ (data : List UInt8) sequence, data.length ≤ maxArtifactChunk →
    Sendable hashing ⟨request.jobId, .running, nextSequence sequence,
      .chunk (nextSequence sequence) data⟩) ∧
    ∀ result sequence, world.results result sequence → (ended result sequence).Answers
| .resend id _ => ∀ job, world.records job → Sendable hashing (resendTerminal world.digest id job)

/- What the executor returned fits in an answer. -/
def AnswerableResult (sequence : UInt32) : Except String ExecutionOutcome → Prop
| .error error => Short error
| .ok (.succeeded output _) => varintLength (nextSequence sequence).toNat + output.length ≤ 1048505
| .ok _ => True

/- What is stored about a job that has ended fits in an answer. -/
def AnswerableRecord (job : PersistedJob) : Prop :=
  match job.state with
  | .rejected => Short (job.error.getD "")
  | .succeeded => ∀ output ∈ job.output, job.outputHash = some (world.digest output) →
    output.length ≤ 1048504
  | _ => True

def Answerable (capability : CapabilityConfig) : Prop :=
  match capability.executor with
  | .error error => Short error
  | .ok () => (∀ error, world.texts error → Short error) ∧
    (∀ result sequence, world.results result sequence → AnswerableResult sequence result) ∧
    ∀ job, world.records job → AnswerableRecord world job

variable {hashing world request}

theorem answers_sendRejection_iff (hCode : Short code) :
    (sendRejection request code message).Answers hashing world request ↔ Short message := by
  have hSend : Sendable hashing ⟨request.jobId, .rejected, 1, .rejected code message⟩ ↔ _ :=
    sendable_text_iff (by decide) (Or.inl ⟨rfl, rfl⟩) hCode
  simp [sendRejection, sendLast, Plan.Answers, hSend]

theorem sendable_resendTerminal_iff {job : PersistedJob} :
    Sendable hashing (resendTerminal world.digest id job) ↔ AnswerableRecord world job := by
  have hFixed : ∀ code message : String, Short code → Short message →
    Sendable hashing ⟨id, .failed, 4, .failed code message⟩ := fun code message hCode hShort =>
    (sendable_text_iff (by decide) (Or.inr ⟨rfl, rfl⟩) hCode).mpr hShort
  unfold resendTerminal AnswerableRecord
  cases job.state with
  | succeeded =>
    dsimp only
    split
    · rename_i output outputHash hOutput hHash
      simp only [hOutput, hHash, Option.mem_def, Option.some.injEq, forall_eq']
      split_ifs with hDigest
      · rw [sendable_succeeded_iff (by decide), show varintLength (4 : UInt32).toNat = 1 from rfl]
        simp only [hDigest, true_imp_iff]
        omega
      · exact iff_of_true (hFixed _ _ (by decide) (by decide)) (fun hEq => absurd hEq.symm hDigest)
    · rename_i hNone
      refine iff_of_true (hFixed _ _ (by decide) (by decide)) (fun output hOutput hHash => ?_)
      exact absurd hHash (hNone output _ hOutput)
  | rejected => exact sendable_text_iff (by decide) (Or.inl ⟨rfl, rfl⟩) (by decide)
  | cancelled | timedOut => exact iff_of_true (sendable_plain (by decide) (by simp)) trivial
  | _ => exact iff_of_true (hFixed _ _ (by decide) (by decide)) trivial

theorem answers_answerOutcome_iff (hTexts : ∀ error, world.texts error → Short error)
    {result : Except String ExecutionOutcome} :
    (answerOutcome request result sequence).Answers hashing world request ↔
      AnswerableResult sequence result := by
  have hNext := nextSequence_ne_zero sequence
  have hFail : ∀ code error : String, Short code → (Sendable hashing
    ⟨request.jobId, .failed, nextSequence sequence, .failed code error⟩ ↔ Short error) :=
    fun code error => sendable_text_iff hNext (Or.inr ⟨rfl, rfl⟩)
  cases result with
  | error error =>
    simp [answerOutcome, recordAnyway, sendLast, Plan.Answers, AnswerableResult,
      hFail "execution_error" error (by decide)]
    tauto
  | ok outcome =>
    have hAfter : ∀ error, world.texts error → Sendable hashing
      ⟨request.jobId, .failed, nextSequence sequence, .failed "outcome_error" error⟩ :=
      fun error hError => (hFail _ error (by decide)).mpr (hTexts error hError)
    have hOutcome : Sendable hashing ⟨request.jobId, (outcomeUpdate outcome).1,
      nextSequence sequence, (outcomeUpdate outcome).2⟩ ↔
        AnswerableResult sequence (.ok outcome) := by
      cases outcome with
      | succeeded output outputHash => exact sendable_succeeded_iff hNext output outputHash
      | cancelled | timedOut =>
        exact iff_of_true (sendable_plain hNext (by simp [outcomeUpdate])) trivial
    simp [answerOutcome, sendOutcome, recordAnyway, sendLast, Plan.Answers, hOutcome]
    tauto

end

/-
  The answers to a request that passes the checks can be sent
  exactly if the texts are short and the outputs leave room for
  the rest of their frame.
-/
theorem answers_iff (hashing : Hashing) (world : World) (request : JobRequest)
    (capability : CapabilityConfig) (peer : NodeId) (hPasses : refusal request capability = none) :
    (handleRemoteJob request (some capability) peer).Answers hashing world request ↔
      Answerable world capability := by
  simp only [handleRemoteJob, hPasses, Answerable]
  cases capability.executor with
  | error error =>
    simp only [recordAnyway, Plan.Answers,
      answers_sendRejection_iff (show Short "invalid_executor" by decide)]
    tauto
  | ok _ =>
    constructor
    · rintro ⟨⟨⟨⟨-, ⟨⟨-, ⟨-, hEnded⟩, -⟩, -⟩, -⟩, -⟩, -⟩, hResend, -, hDenied⟩
      have hTexts : ∀ error, world.texts error → Short error := fun error hError =>
        (answers_sendRejection_iff (by decide)).mp (hDenied error hError)
      exact ⟨hTexts, fun result sequence hResult =>
        (answers_answerOutcome_iff hTexts).mp (hEnded result sequence hResult),
        fun job hJob => sendable_resendTerminal_iff.mp (hResend job hJob)⟩
    · rintro ⟨hTexts, hResults, hRecords⟩
      have hReject : ∀ code error : String, Short code → world.texts error →
        (sendRejection request code error).Answers hashing world request :=
        fun code error hCode hError => (answers_sendRejection_iff hCode).mpr (hTexts error hError)
      have hRun : (runRemoteJob request).Answers hashing world request :=
        ⟨⟨sendable_plain (by decide) (by simp),
          ⟨fun data sequence => sendable_chunk (nextSequence_ne_zero sequence),
            fun result sequence hResult => (answers_answerOutcome_iff hTexts).mpr
              (hResults result sequence hResult)⟩,
          fun _ _ => ⟨trivial, fun _ _ => trivial⟩⟩, fun _ _ => trivial⟩
      exact ⟨⟨⟨⟨sendable_plain (by decide) (by simp), hRun,
        fun _ _ => ⟨trivial, fun _ _ => trivial⟩⟩, fun error => hReject _ error (by decide)⟩,
        fun error hError => ⟨hReject _ error (by decide) hError,
          fun _ _ => hReject _ error (by decide) hError⟩⟩,
        fun job hJob => sendable_resendTerminal_iff.mpr (hRecords job hJob),
        (answers_sendRejection_iff (by decide)).mpr (by decide),
        fun error => hReject _ error (by decide)⟩

/- The executor returns this, and nothing else fails. -/
def resultWorld (result : Except String ExecutionOutcome) : World :=
  ⟨fun _ => False, fun other _ => other = result, fun _ => False, fun _ => ⟨0⟩⟩

theorem answers_small : (handleRemoteJob (smallRequest ⟨1⟩) (some openCapability) ⟨1⟩).Answers
    noHashing (resultWorld (.error "job output exceeds the local limit")) (smallRequest ⟨1⟩) :=
  (answers_iff noHashing _ (smallRequest ⟨1⟩) openCapability ⟨1⟩ (by decide)).mpr
    ⟨nofun, fun _ _ hResult => hResult ▸ (by decide : Short _), nofun⟩

/- What a process wrote to its standard error stands in the text. -/
def longError : String :=
  "job execution failed: process exited with exit status: 1: " ++
    String.ofList (List.replicate 300 'a')

theorem longError_not_answered :
    ¬ (handleRemoteJob (smallRequest ⟨1⟩) (some openCapability) ⟨1⟩).Answers noHashing
      (resultWorld (.error longError)) (smallRequest ⟨1⟩) := by
  rintro ⟨⟨⟨⟨-, ⟨⟨-, ⟨-, hEnded⟩, -⟩, -⟩, -⟩, -⟩, -⟩, -⟩
  have hTexts : ∀ error, (resultWorld (.error longError)).texts error → Short error :=
    fun _ hNone => hNone.elim
  have hShort : Short longError :=
    (answers_answerOutcome_iff hTexts).mp (hEnded (.error longError) 2 rfl)
  revert hShort
  decide +kernel

end IntelligenceNetwork.Jobs
