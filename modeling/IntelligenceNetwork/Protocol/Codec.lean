import IntelligenceNetwork.Lib.LittleEndian
import IntelligenceNetwork.Protocol.Validation.Message

/-
  Frames: a fixed header and a serialized message.

  The serializer is a parameter, since it is a library of its
  own.  Lengths are those of a 64-bit target.

  Main declarations:
    * `FrameHeader`
    * `encodeMessageAtVersion`
    * `decodeFrame`
-/

----
-- Frame Kinds
----

namespace IntelligenceNetwork

inductive FrameKind where
  | hello
  | peerExchange
  | announcement
  | jobRequest
  | jobUpdate
  | cancelJob
  | artifactRequest
  | artifactChunk
  | ping
  | pong
  | goodbye
  | error
  | addressUpdate
  | addressObservation
  | artifactTransferRequest
  | artifactTransferChunk
  | keyRotation
  | relayEnvelope
  | dhtRequest
  | dhtResponse
  | training
  | trainingV4
  | trainingV5
  deriving DecidableEq

inductive CodecError where
  | badMagic
  | unsupportedVersion (major minor : UInt16)
  | unknownKind (kind : UInt16)
  | frameTooLarge (size max : Nat)
  | lengthMismatch (declared actual : Nat)
  | serialize (reason : String)
  | validation (error : ValidationError)
  | kindMismatch (expected actual : FrameKind)
  deriving DecidableEq

namespace FrameKind

/- The number of a kind on the wire. -/
def toUInt16 : FrameKind → UInt16
| .hello => 1
| .peerExchange => 2
| .announcement => 3
| .jobRequest => 4
| .jobUpdate => 5
| .cancelJob => 6
| .artifactRequest => 7
| .artifactChunk => 8
| .ping => 9
| .pong => 10
| .goodbye => 11
| .error => 12
| .addressUpdate => 13
| .addressObservation => 14
| .artifactTransferRequest => 15
| .artifactTransferChunk => 16
| .keyRotation => 17
| .relayEnvelope => 18
| .dhtRequest => 19
| .dhtResponse => 20
| .training => 21
| .trainingV4 => 22
| .trainingV5 => 23

def tryFrom (value : UInt16) : Except CodecError FrameKind :=
  match value with
  | 1 => .ok .hello
  | 2 => .ok .peerExchange
  | 3 => .ok .announcement
  | 4 => .ok .jobRequest
  | 5 => .ok .jobUpdate
  | 6 => .ok .cancelJob
  | 7 => .ok .artifactRequest
  | 8 => .ok .artifactChunk
  | 9 => .ok .ping
  | 10 => .ok .pong
  | 11 => .ok .goodbye
  | 12 => .ok .error
  | 13 => .ok .addressUpdate
  | 14 => .ok .addressObservation
  | 15 => .ok .artifactTransferRequest
  | 16 => .ok .artifactTransferChunk
  | 17 => .ok .keyRotation
  | 18 => .ok .relayEnvelope
  | 19 => .ok .dhtRequest
  | 20 => .ok .dhtResponse
  | 21 => .ok .training
  | 22 => .ok .trainingV4
  | 23 => .ok .trainingV5
  | _ => .error (.unknownKind value)

/- Every kind is recovered from its number. -/
@[simp] theorem tryFrom_toUInt16 (kind : FrameKind) : tryFrom kind.toUInt16 = .ok kind := by
  cases kind <;> rfl

/- And no other number is taken for it. -/
theorem tryFrom_eq_ok_iff {value : UInt16} {kind : FrameKind} :
    tryFrom value = .ok kind ↔ value = kind.toUInt16 := by
  constructor
  · intro hKind
    unfold tryFrom at hKind
    split at hKind <;> cases hKind <;> rfl
  · rintro rfl
    exact tryFrom_toUInt16 kind

/- The number of every message is that of some kind. -/
theorem exists_tryFrom_kind (message : Message) : ∃ kind, tryFrom message.kind = .ok kind ∧
    kind.toUInt16 = message.kind := by
  cases message <;> exact ⟨_, rfl, rfl⟩

end FrameKind

----
-- Headers
----

structure FrameHeader where
  (major minor : UInt16)
  kind : FrameKind
  payloadLen : UInt32

/- The bytes of `INP1`. -/
def frameMagic : List UInt8 := [73, 78, 80, 49]

def frameHeaderSize : Nat := 16

/- The largest size that the target can express. -/
def usizeMax : Nat := 18446744073709551615

/- The size of a frame, which saturates like the source's. -/
def frameSize (payloadLen : Nat) : Nat :=
  min (frameHeaderSize + payloadLen) usizeMax

variable {header : FrameHeader}

namespace FrameHeader

/- Two reserved bytes separate the kind from the length. -/
def encode (header : FrameHeader) : List UInt8 :=
  frameMagic ++ LittleEndian.encode 2 header.major.toNat ++
    LittleEndian.encode 2 header.minor.toNat ++ LittleEndian.encode 2 header.kind.toUInt16.toNat ++
    LittleEndian.encode 2 0 ++ LittleEndian.encode 4 header.payloadLen.toNat

/- The number in `count` bytes from position `start`. -/
def field (bytes : List UInt8) (start count : Nat) : Nat :=
  LittleEndian.decode ((bytes.drop start).take count)

def decode (bytes : List UInt8) (maxFrameSize : Nat) : Except CodecError FrameHeader := do
  if bytes.take 4 ≠ frameMagic then
    .error .badMagic
  let major := UInt16.ofNat (field bytes 4 2)
  let minor := UInt16.ofNat (field bytes 6 2)
  if major ≠ protocolMajor ∨ minor > protocolMinor then
    .error (.unsupportedVersion major minor)
  let kind ← FrameKind.tryFrom (UInt16.ofNat (field bytes 8 2))
  let payloadLen := UInt32.ofNat (field bytes 12 4)
  if frameSize payloadLen.toNat > maxFrameSize then
    .error (.frameTooLarge (frameSize payloadLen.toNat) maxFrameSize)
  .ok ⟨major, minor, kind, payloadLen⟩

@[simp] theorem length_encode : header.encode.length = frameHeaderSize := by
  simp [encode, frameMagic, frameHeaderSize]

end FrameHeader

/- The versions this implementation speaks at all. -/
def versionSupported (major minor : UInt16) : Bool :=
  major == protocolMajor && minor ≤ protocolMinor

namespace FrameHeader

/- A 16-bit word is recovered from its two bytes. -/
theorem ofNat_decode_encode_two {word : UInt16} : UInt16.ofNat
    (LittleEndian.decode (LittleEndian.encode 2 word.toNat)) = word := by
  rw [LittleEndian.decode_encode]
  apply UInt16.toNat_inj.mp
  simp

/- A 32-bit word is recovered from its four bytes. -/
theorem ofNat_decode_encode_four {word : UInt32} : UInt32.ofNat
    (LittleEndian.decode (LittleEndian.encode 4 word.toNat)) = word := by
  rw [LittleEndian.decode_encode]
  apply UInt32.toNat_inj.mp
  simp

/- Each field stands at its own offset. -/
theorem field_encode (header : FrameHeader) : header.encode.take 4 = frameMagic ∧
    UInt16.ofNat (field header.encode 4 2) = header.major ∧
    UInt16.ofNat (field header.encode 6 2) = header.minor ∧
    UInt16.ofNat (field header.encode 8 2) = header.kind.toUInt16 ∧
    UInt32.ofNat (field header.encode 12 4) = header.payloadLen := by
  refine ⟨rfl, ?_, ?_, ?_, ?_⟩
  iterate 3 · exact ofNat_decode_encode_two
  · exact ofNat_decode_encode_four

/- What a header that is accepted says, field by field. -/
theorem decode_eq_ok_iff {bytes : List UInt8} {maxFrameSize : Nat} :
    decode bytes maxFrameSize = .ok header ↔
      bytes.take 4 = frameMagic ∧ UInt16.ofNat (field bytes 4 2) = header.major ∧
        UInt16.ofNat (field bytes 6 2) = header.minor ∧
        versionSupported header.major header.minor = true ∧
        UInt16.ofNat (field bytes 8 2) = header.kind.toUInt16 ∧
        UInt32.ofNat (field bytes 12 4) = header.payloadLen ∧
        frameSize header.payloadLen.toNat ≤ maxFrameSize := by
  rcases header with ⟨major, minor, kind, payloadLen⟩
  rw [← FrameKind.tryFrom_eq_ok_iff]
  unfold decode
  generalize UInt16.ofNat (field bytes 4 2) = major'
  generalize UInt16.ofNat (field bytes 6 2) = minor'
  generalize UInt32.ofNat (field bytes 12 4) = length
  have hVersion : versionSupported major' minor' = true ↔
    ¬ (major' ≠ protocolMajor ∨ minor' > protocolMinor) := by
    simp [versionSupported]
  by_cases hMagic : bytes.take 4 = frameMagic
  · by_cases hWindow : major' ≠ protocolMajor ∨ minor' > protocolMinor
    · simp only [hMagic, hWindow, bind, Except.bind]
      grind
    · cases FrameKind.tryFrom (UInt16.ofNat (field bytes 8 2)) with
      | error error => simp [hMagic, hWindow, bind, Except.bind]
      | ok found =>
        by_cases hSize : frameSize length.toNat > maxFrameSize
        all_goals
          simp only [hMagic, hWindow, hSize, bind, Except.bind]
          grind
  · simp [hMagic, bind, Except.bind]

end FrameHeader

----
-- Messages
----

/- The serializer of messages. -/
structure Postcard where
  toAllocvec : Message → Except String (List UInt8)
  fromBytes : List UInt8 → Except String Message

/-
  The serializer recovers the message from its own bytes.
-/
def Postcard.RoundTrips (postcard : Postcard) (message : Message) : Prop :=
  ∀ payload, postcard.toAllocvec message = .ok payload → postcard.fromBytes payload = .ok message

variable (hashing : Hashing) (postcard : Postcard)

/-
  The minor version is too old for the message: by the table
  of kinds, or by what a version 4 message contains.
-/
def versionTooOld (minor : UInt16) (message : Message) : Bool :=
  (minor == 0 && message.kind ≥ 13) || (minor < 2 && message.kind ≥ 19) ||
    (minor < 3 && message.kind ≥ 21) || (minor < 4 && message.kind ≥ 22) ||
    (minor < 6 && message.kind ≥ 23) || (match message with
      | .trainingV4 training => minor < training.minimumMinor
      | _ => false)

/-
  The minor version knows the message: its kind, and what a
  version 4 message contains.
-/
def MinorReached (minor : UInt16) : Message → Prop
| .addressUpdate _ | .addressObservation _ | .artifactTransferRequest _
| .artifactTransferChunk _ | .keyRotation _ | .relayEnvelope _ => 1 ≤ minor
| .dhtRequest _ | .dhtResponse _ => 2 ≤ minor
| .training _ => 3 ≤ minor
| .trainingV4 training => training.minimumMinor ≤ minor
| .trainingV5 _ => 6 ≤ minor
| _ => True

/- Contents never ask less than the kind of version 4 messages. -/
theorem TrainingV4Message.four_le_minimumMinor (training : TrainingV4Message) :
    4 ≤ training.minimumMinor := by
  unfold TrainingV4Message.minimumMinor
  split
  all_goals first
    | decide
    | split_ifs <;> decide

/- The tests of the encoder, kind by kind. -/
theorem versionTooOld_eq_false_iff (minor : UInt16) (message : Message) :
    versionTooOld minor message = false ↔ MinorReached minor message := by
  unfold versionTooOld
  cases message with
  | trainingV4 training =>
    have hLeast := training.four_le_minimumMinor
    simp only [Message.kind, MinorReached]
    grind
  | _ =>
    simp only [Message.kind, MinorReached]
    grind

def encodeMessageAtVersion (message : Message) (maxFrameSize : Nat) (major minor : UInt16) :
    Except CodecError (List UInt8) := do
  if !versionSupported major minor then
    .error (.unsupportedVersion major minor)
  match message.validate hashing with
  | .error error => .error (.validation error)
  | .ok _ => .ok ()
  if versionTooOld minor message then
    .error (.unsupportedVersion major minor)
  let payload ←
    match postcard.toAllocvec message with
    | .error reason => .error (.serialize reason)
    | .ok payload => .ok payload
  if frameSize payload.length > maxFrameSize then
    .error (.frameTooLarge (frameSize payload.length) maxFrameSize)
  let kind ← FrameKind.tryFrom message.kind
  -- the length is cut to 32 bits without a check
  let header : FrameHeader := ⟨major, minor, kind, UInt32.ofNat payload.length⟩
  .ok (header.encode ++ payload)

def decodeFrame (frame : List UInt8) (maxFrameSize : Nat) : Except CodecError Message := do
  if frame.length < frameHeaderSize then
    .error (.lengthMismatch frameHeaderSize frame.length)
  let header ← FrameHeader.decode (frame.take frameHeaderSize) maxFrameSize
  let payload := frame.drop frameHeaderSize
  if payload.length ≠ header.payloadLen.toNat then
    .error (.lengthMismatch header.payloadLen.toNat payload.length)
  let message ←
    match postcard.fromBytes payload with
    | .error reason => .error (.serialize reason)
    | .ok message => .ok message
  let actual ← FrameKind.tryFrom message.kind
  if actual ≠ header.kind then
    .error (.kindMismatch header.kind actual)
  match message.validate hashing with
  | .error error => .error (.validation error)
  | .ok _ => .ok message

----
-- What the Encoder Accepts
----

section

variable (message : Message) (maxFrameSize : Nat) (major minor : UInt16)

/-
  The encoder returns exactly the header and the payload of a
  valid message that fits the version and the frame limit.
-/
theorem encodeMessageAtVersion_eq_ok_iff {frame : List UInt8} :
    encodeMessageAtVersion hashing postcard message maxFrameSize major minor = .ok frame ↔
      versionSupported major minor ∧ message.validate hashing = .ok () ∧
        versionTooOld minor message = false ∧
        ∃ payload kind, postcard.toAllocvec message = .ok payload ∧
          frameSize payload.length ≤ maxFrameSize ∧ FrameKind.tryFrom message.kind = .ok kind ∧
          frame = FrameHeader.encode
            ⟨major, minor, kind, UInt32.ofNat payload.length⟩ ++ payload := by
  unfold encodeMessageAtVersion
  cases versionSupported major minor with
  | false => simp [bind, Except.bind]
  | true =>
  cases message.validate hashing with
  | error error => simp [bind, Except.bind]
  | ok _ =>
  cases versionTooOld minor message with
  | true => simp [bind, Except.bind]
  | false =>
  cases postcard.toAllocvec message with
  | error reason => simp [bind, Except.bind]
  | ok payload =>
  rcases FrameKind.exists_tryFrom_kind message with ⟨kind, hKind, -⟩
  by_cases hSize : frameSize payload.length > maxFrameSize
  · simp [bind, Except.bind, hSize, Nat.not_le.mpr hSize]
  · simp [bind, Except.bind, hSize, hKind, Nat.not_lt.mp hSize, eq_comm]

/-
  The encoder blames the version in two places: before it
  validates the message, and after.
-/
theorem encodeMessageAtVersion_unsupportedVersion_iff :
    (∃ major' minor', encodeMessageAtVersion hashing postcard message maxFrameSize major minor =
      .error (.unsupportedVersion major' minor')) ↔ versionSupported major minor = false ∨
      (message.validate hashing = .ok () ∧ versionTooOld minor message) := by
  unfold encodeMessageAtVersion
  cases versionSupported major minor with
  | false => simp [bind, Except.bind]
  | true =>
  cases message.validate hashing with
  | error error => simp [bind, Except.bind]
  | ok _ =>
  cases versionTooOld minor message with
  | true => simp [bind, Except.bind]
  | false =>
  cases postcard.toAllocvec message with
  | error reason => simp [bind, Except.bind]
  | ok payload =>
  rcases FrameKind.exists_tryFrom_kind message with ⟨kind, hKind, -⟩
  by_cases hSize : frameSize payload.length > maxFrameSize
  · simp [bind, Except.bind, hSize]
  · simp [bind, Except.bind, hSize, hKind]

end

----
-- What the Decoder Accepts
----

theorem decodeFrame_eq_ok_iff {frame : List UInt8} {maxFrameSize : Nat} {message : Message} :
    decodeFrame hashing postcard frame maxFrameSize = .ok message ↔ frameHeaderSize ≤ frame.length ∧
      ∃ header, FrameHeader.decode (frame.take frameHeaderSize) maxFrameSize = .ok header ∧
        (frame.drop frameHeaderSize).length = header.payloadLen.toNat ∧
        postcard.fromBytes (frame.drop frameHeaderSize) = .ok message ∧
        FrameKind.tryFrom message.kind = .ok header.kind ∧ message.validate hashing = .ok () := by
  unfold decodeFrame
  generalize frame.drop frameHeaderSize = payload
  by_cases hShort : frame.length < frameHeaderSize
  · simp [hShort, bind, Except.bind]
  · have hLong : frameHeaderSize ≤ frame.length := Nat.not_lt.mp hShort
    cases FrameHeader.decode (frame.take frameHeaderSize) maxFrameSize with
    | error error => simp [hShort, bind, Except.bind]
    | ok header =>
      by_cases hLength : payload.length = header.payloadLen.toNat
      · cases hRead : postcard.fromBytes payload with
        | error reason => simp [hShort, hLength, hRead, bind, Except.bind]
        | ok read =>
          rcases FrameKind.exists_tryFrom_kind read with ⟨kind, hKind, -⟩
          simp only [hShort, hLong, hLength, hRead, hKind, bind, Except.bind]
          grind
      · simp [hShort, hLength, bind, Except.bind]

end IntelligenceNetwork
