import IntelligenceNetwork.Protocol.Codec

/-
  The version gate in front of a connection's writer.

  The gate knows only the kind of a message, while the codec
  also looks at what a version 4 message contains and asks more
  of version 5.

  Main declarations:
    * `messageRequiredMinor`
    * `CodecMinorReached`
    * `versionGate_agrees_iff`
-/

----
-- The Gate and the Writer
----

namespace IntelligenceNetwork.Network

variable {message : Message} {minor : UInt16}

/- The minor version the network asks for, by kind alone. -/
def messageRequiredMinor (message : Message) : UInt16 :=
  if message.kind ≥ 22 then 4
  else if message.kind ≥ 21 then 3
  else if message.kind ≥ 19 then 2
  else if message.kind ≥ 13 then 1
  else 0

/-
  The writer encodes the queued messages in order, and stops
  for good at the first one that it cannot encode.
-/
def writerTask (hashing : Hashing) (postcard : Postcard) (maxFrameSize : Nat) (minor : UInt16) :
    List Message → List (List UInt8) × Option CodecError
| [] => ([], none)
| message :: queue =>
  match encodeMessageAtVersion hashing postcard message maxFrameSize protocolMajor minor with
  | .error error => ([], some error)
  | .ok frame =>
    let rest := writerTask hashing postcard maxFrameSize minor queue
    (frame :: rest.1, rest.2)

/-
  The minor version reaches what the codec asks of the message
  beyond the table of kinds that the gate repeats.
-/
def CodecMinorReached (minor : UInt16) : Message → Prop
| .trainingV4 training => training.minimumMinor ≤ minor
| .trainingV5 _ => 6 ≤ minor
| _ => True

----
-- Agreement with the Codec
----

/-
  Behind the gate, the codec finds the version too old exactly
  where it asks more than the kind.
-/
theorem versionTooOld_iff (hGate : messageRequiredMinor message ≤ minor) :
    versionTooOld minor message ↔ ¬ CodecMinorReached minor message := by
  unfold messageRequiredMinor at hGate
  rw [← Bool.not_eq_false, versionTooOld_eq_false_iff, not_iff_not]
  cases message with
  | trainingV4 training | trainingV5 training | _ =>
    simp_all [MinorReached, CodecMinorReached, Message.kind]

section

variable (hashing : Hashing) (postcard : Postcard)

/-
  The codec does not blame the version of a message that meets
  its own minimum.
-/
theorem encode_ne_unsupportedVersion (maxFrameSize : Nat) (major' minor' : UInt16)
    (hGate : messageRequiredMinor message ≤ minor) (hNegotiated : minor ≤ protocolMinor)
    (hReached : message.validate hashing = .ok () → CodecMinorReached minor message) :
    encodeMessageAtVersion hashing postcard message maxFrameSize protocolMajor minor ≠
      .error (.unsupportedVersion major' minor') := by
  intro hError
  have hSupported : versionSupported protocolMajor minor = true := by
    simp [versionSupported, hNegotiated]
  rcases (encodeMessageAtVersion_unsupportedVersion_iff
    hashing postcard message maxFrameSize protocolMajor
    minor).mp ⟨major', minor', hError⟩ with hOut | hOld
  · rw [hSupported] at hOut
    cases hOut
  · exact (versionTooOld_iff hGate).mp hOld.2 (hReached hOld.1)

/-
  A writer whose queue holds only messages that meet the
  codec's minimum is not stopped by a version error.
-/
theorem writerTask_ne_unsupportedVersion {maxFrameSize : Nat} {major' minor' : UInt16}
    (hNegotiated : minor ≤ protocolMinor) {queue : List Message}
    (hQueue : ∀ message ∈ queue, messageRequiredMinor message ≤ minor ∧
      (message.validate hashing = .ok () → CodecMinorReached minor message)) :
    (writerTask hashing postcard maxFrameSize minor queue).2 ≠
      some (.unsupportedVersion major' minor') := by
  induction queue with
  | nil => simp [writerTask]
  | cons message queue ih =>
    have hHead := hQueue message List.mem_cons_self
    have hTail := ih (fun later hMem =>
      hQueue later (List.mem_cons_of_mem message hMem))
    have hEncode := encode_ne_unsupportedVersion hashing postcard maxFrameSize major' minor' hHead.1
      hNegotiated hHead.2
    unfold writerTask
    cases hCase : encodeMessageAtVersion hashing postcard message
      maxFrameSize protocolMajor minor with
    | error error =>
      intro hEq
      cases hEq
      exact hEncode hCase
    | ok frame => exact hTail

/-
  For a message behind the gate, the codec never blames the
  version exactly when the message is invalid or meets the
  codec's own minimum; the writer of a connection whose queue
  holds such messages is then never stopped by its version.
-/
theorem versionGate_agrees_iff (minor : UInt16) (hNegotiated : minor ≤ protocolMinor) :
    (∀ message, messageRequiredMinor message ≤ minor →
      ((∀ maxFrameSize major' minor', encodeMessageAtVersion hashing postcard message
        maxFrameSize protocolMajor minor ≠ .error (.unsupportedVersion major' minor')) ↔
        (message.validate hashing = .ok () → CodecMinorReached minor message))) ∧
      ∀ queue maxFrameSize major' minor', (∀ message ∈ queue, messageRequiredMinor message ≤ minor ∧
        (message.validate hashing = .ok () → CodecMinorReached minor message)) →
        (writerTask hashing postcard maxFrameSize minor queue).2 ≠
          some (.unsupportedVersion major' minor') := by
  refine ⟨?_, ?_⟩
  · intro message hGate
    constructor
    · intro hNever hValid
      by_contra hReached
      have hOld := (versionTooOld_iff hGate).mpr hReached
      rcases (encodeMessageAtVersion_unsupportedVersion_iff hashing postcard message 0 protocolMajor
        minor).mpr (Or.inr ⟨hValid, hOld⟩) with
        ⟨major', minor', hError⟩
      exact hNever 0 major' minor' hError
    · intro hReached maxFrameSize major' minor'
      exact encode_ne_unsupportedVersion hashing postcard maxFrameSize major' minor' hGate
        hNegotiated hReached
  · intro queue maxFrameSize major' minor' hQueue
    exact writerTask_ne_unsupportedVersion hashing postcard hNegotiated hQueue

end

/- A valid report of backend evidence. -/
def evidenceReport : Message :=
  .trainingV5 (.capabilityEvidence
    { worker := ⟨1⟩
      backend := .cpu
      observedAt := 1
      successfulChallenges := 1
      failedChallenges := 0
      successfulTasks := 0
      failedTasks := 0
      lastThroughputMicros := 1
      lastError := none })

/- A connection at version 1.6 carries the report. -/
theorem versionGate_carries_evidenceReport : (6 : UInt16) ≤ protocolMinor ∧
    messageRequiredMinor evidenceReport ≤ 6 ∧ ∀ hashing postcard maxFrameSize major' minor',
    encodeMessageAtVersion hashing postcard evidenceReport maxFrameSize protocolMajor 6 ≠
      .error (.unsupportedVersion major' minor') ∧
      (writerTask hashing postcard maxFrameSize 6 [evidenceReport]).2 ≠
        some (.unsupportedVersion major' minor') := by
  have hGate : messageRequiredMinor evidenceReport ≤ 6 := by decide
  have hReached : CodecMinorReached 6 evidenceReport := UInt16.le_refl 6
  refine ⟨by decide, hGate, ?_⟩
  intro hashing postcard maxFrameSize major' minor'
  have hAgrees := versionGate_agrees_iff hashing postcard 6 (by decide)
  refine ⟨(hAgrees.1 _ hGate).mpr (fun _ => hReached) maxFrameSize major' minor',
    hAgrees.2 _ maxFrameSize major' minor' ?_⟩
  rw [List.forall_mem_singleton]
  exact ⟨hGate, fun _ => hReached⟩

/-
  The gate queues the report for a connection at version 1.4,
  and the first thing its writer does is stop.
-/
theorem versionGate_evidenceReport : messageRequiredMinor evidenceReport ≤ 4 ∧
    ∀ hashing postcard maxFrameSize, encodeMessageAtVersion hashing postcard
      evidenceReport maxFrameSize protocolMajor 4 = .error (.unsupportedVersion 1 4) ∧
      (writerTask hashing postcard maxFrameSize 4 [evidenceReport]).2 =
        some (.unsupportedVersion 1 4) := by
  refine ⟨by decide, ?_⟩
  intro hashing postcard maxFrameSize
  exact ⟨rfl, rfl⟩

end IntelligenceNetwork.Network
