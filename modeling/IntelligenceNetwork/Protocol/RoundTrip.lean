import IntelligenceNetwork.Lib.PostcardFormat
import IntelligenceNetwork.Protocol.Codec

/-
  What the encoder writes, the decoder reads back.

  The length field of a frame has 32 bits, so the round trip
  holds exactly for payloads shorter than `2 ^ 32` bytes.

  Main declarations:
    * `Postcard.FitsLengthField`
    * `decodeFrame_encodeMessage_iff`
-/

----
-- Frames with a Supported Header
----

namespace IntelligenceNetwork

variable {payload : List UInt8}

namespace FrameHeader

variable (header : FrameHeader)

/- A frame that starts with a header is not too short. -/
theorem take_append : (header.encode ++ payload).take frameHeaderSize = header.encode := by
  rw [← length_encode, List.take_left]

theorem drop_append : (header.encode ++ payload).drop frameHeaderSize = payload := by
  rw [← length_encode, List.drop_left]

end FrameHeader

variable {hashing : Hashing} {postcard : Postcard}

section

variable {header : FrameHeader} {message : Message} {maxFrameSize : Nat}

/-
  A frame is decoded to the message in its payload when its
  header agrees with the payload and with the message.
-/
theorem decodeFrame_append (hVersion : versionSupported header.major header.minor)
    (hSize : frameSize header.payloadLen.toNat ≤ maxFrameSize)
    (hLength : payload.length = header.payloadLen.toNat)
    (hMessage : postcard.fromBytes payload = .ok message)
    (hKind : FrameKind.tryFrom message.kind = .ok header.kind)
    (hValid : message.validate hashing = .ok ()) :
    decodeFrame hashing postcard (header.encode ++ payload) maxFrameSize = .ok message := by
  rcases header.field_encode with ⟨hMagic, hMajor, hMinor, hNumber, hLen⟩
  rw [decodeFrame_eq_ok_iff, header.take_append, header.drop_append]
  refine ⟨by simp, header, ?_, hLength, hMessage, hKind, hValid⟩
  exact FrameHeader.decode_eq_ok_iff.mpr ⟨hMagic, hMajor, hMinor, hVersion, hNumber, hLen, hSize⟩

/- A wrong length field makes a frame unreadable. -/
theorem decodeFrame_append_of_length_ne (hLength : payload.length ≠ header.payloadLen.toNat) :
    decodeFrame hashing postcard (header.encode ++ payload) maxFrameSize ≠ .ok message := by
  intro hDecoded
  rw [decodeFrame_eq_ok_iff, header.take_append, header.drop_append] at hDecoded
  rcases hDecoded with ⟨-, found, hFound, hSame, -⟩
  rcases header.field_encode with ⟨-, -, -, -, hLen⟩
  rcases FrameHeader.decode_eq_ok_iff.mp hFound with ⟨-, -, -, -, -, hField, -⟩
  rw [← hField, hLen] at hSame
  exact hLength hSame

end

----
-- The Round Trip
----

/- The length of the payload fits the header's 32 bits. -/
def Postcard.FitsLengthField (postcard : Postcard) (message : Message) : Prop :=
  ∀ payload, postcard.toAllocvec message = .ok payload → payload.length < 4294967296

variable (hashing : Hashing) (postcard : Postcard)

section

variable (message : Message) (maxFrameSize : Nat) (minor : UInt16) (frame : List UInt8)

/-
  An encoded frame whose length field holds the payload's
  length respects the frame limit and decodes to the message.
-/
theorem decodeFrame_of_fitsLengthField (hRound : postcard.RoundTrips message)
    (hFits : postcard.FitsLengthField message)
    (hFrame : encodeMessageAtVersion hashing postcard message
      maxFrameSize protocolMajor minor = .ok frame) :
    frame.length ≤ maxFrameSize ∧ decodeFrame hashing postcard frame maxFrameSize =
      .ok message := by
  rcases (encodeMessageAtVersion_eq_ok_iff hashing postcard
    message maxFrameSize protocolMajor minor).mp hFrame
    with ⟨hVersion, hValid, -, payload, kind, hPayload, hSize, hKind, rfl⟩
  have hShort := hFits payload hPayload
  have hLength : (UInt32.ofNat payload.length).toNat = payload.length :=
    UInt32.toNat_ofNat_of_lt hShort
  have hExact : frameSize payload.length = frameHeaderSize + payload.length := by
    unfold frameSize frameHeaderSize usizeMax
    omega
  refine ⟨?_, ?_⟩
  · simpa [← hExact] using hSize
  · exact decodeFrame_append hVersion (by simpa [hLength] using hSize) hLength.symm
      (hRound payload hPayload) hKind hValid

/- A frame whose length field was cut does not decode. -/
theorem decodeFrame_of_not_fitsLengthField (hLong : ¬ postcard.FitsLengthField message)
    (hFrame : encodeMessageAtVersion hashing postcard message
      maxFrameSize protocolMajor minor = .ok frame) :
    decodeFrame hashing postcard frame maxFrameSize ≠ .ok message := by
  rcases (encodeMessageAtVersion_eq_ok_iff hashing postcard
    message maxFrameSize protocolMajor minor).mp hFrame
    with ⟨-, -, -, payload, kind, hPayload, -, -, rfl⟩
  have hLength : 4294967296 ≤ payload.length := by
    simpa [Postcard.FitsLengthField, hPayload] using hLong
  apply decodeFrame_append_of_length_ne
  intro hEq
  have hLt := (UInt32.ofNat payload.length).toNat_lt
  simp only at hEq
  omega

/-
  An encoded frame respects the frame limit and decodes to the
  message it was made from exactly when the length field can
  hold the payload's length.
-/
theorem decodeFrame_encodeMessage_iff (hRound : postcard.RoundTrips message)
    (hFrame : encodeMessageAtVersion hashing postcard message
      maxFrameSize protocolMajor minor = .ok frame) :
    (frame.length ≤ maxFrameSize ∧ decodeFrame hashing postcard frame maxFrameSize = .ok message) ↔
      postcard.FitsLengthField message := by
  constructor
  · rintro ⟨-, hDecoded⟩
    by_contra hLong
    exact decodeFrame_of_not_fitsLengthField hashing postcard
      message maxFrameSize minor frame hLong hFrame hDecoded
  · intro hFits
    exact decodeFrame_of_fitsLengthField hashing postcard
      message maxFrameSize minor frame hRound hFits hFrame

end

/-
  Under the limit that every configuration is held to, the
  round trip holds outright.
-/
theorem decodeFrame_encodeMessage (message : Message) (limit : Nat) (minor : UInt16)
    (frame : List UInt8) (hRound : postcard.RoundTrips message) (hLimit : limit ≤ maxFrameSize)
    (hFrame : encodeMessageAtVersion hashing postcard message
      limit protocolMajor minor = .ok frame) :
    frame.length ≤ limit ∧ decodeFrame hashing postcard frame limit = .ok message := by
  apply decodeFrame_of_fitsLengthField hashing postcard message limit minor frame hRound ?_ hFrame
  intro payload hPayload
  rcases (encodeMessageAtVersion_eq_ok_iff hashing postcard
    message limit protocolMajor minor).mp hFrame
    with ⟨-, -, -, payload', -, hPayload', hSize, -, -⟩
  have hSame : payload = payload' := by
    rw [hPayload] at hPayload'
    exact Except.ok.inj hPayload'
  subst hSame
  unfold frameSize frameHeaderSize usizeMax at hSize
  unfold maxFrameSize at hLimit
  omega

----
-- A Small Message
----

/- The serializer on a ping: its index and its nonce. -/
def pingPostcard : Postcard where
  toAllocvec
  | .ping ping => .ok (PostcardFormat.varint 8 ++ PostcardFormat.fixedBytes 16 ping.nonce)
  | _ => .error "not a ping"
  fromBytes bytes :=
    if bytes = 8 :: List.replicate 16 0 then .ok (.ping ⟨0⟩) else .error "not this ping"

def noHashing : Hashing where
  nodeIdFromPublicKey _ := default
  artifactIdFromBytesHashed _ := default

theorem decodeFrame_encodeMessage_ping : pingPostcard.RoundTrips (.ping ⟨0⟩) ∧ ∃ frame,
    encodeMessageAtVersion noHashing pingPostcard (.ping ⟨0⟩) maxFrameSize protocolMajor 6 =
      .ok frame ∧
    ((frame.length ≤ maxFrameSize ∧ decodeFrame noHashing pingPostcard frame
      maxFrameSize = .ok (.ping ⟨0⟩)) ↔ pingPostcard.FitsLengthField (.ping ⟨0⟩)) := by
  have hRound : pingPostcard.RoundTrips (.ping ⟨0⟩) := by
    rintro payload hPayload
    cases hPayload
    rfl
  refine ⟨hRound, _, rfl, ?_⟩
  exact decodeFrame_encodeMessage_iff noHashing pingPostcard (.ping ⟨0⟩) maxFrameSize 6 _ hRound rfl

theorem decodeFrame_encodeMessage_short : ∃ frame, encodeMessageAtVersion noHashing
    pingPostcard (.ping ⟨0⟩) 1024 protocolMajor 6 = .ok frame ∧
    decodeFrame noHashing pingPostcard frame 1024 = .ok (.ping ⟨0⟩) := by
  refine ⟨_, rfl, (decodeFrame_encodeMessage noHashing pingPostcard (.ping ⟨0⟩) 1024 6 _ ?_
    (by decide) rfl).2⟩
  rintro payload hPayload
  cases hPayload
  rfl

----
-- An Oversized Message
----

open PostcardFormat

def nodeBytes (node : NodeId) : List UInt8 :=
  fixedBytes 32 node.bytes

def groupBytes (group : TrainingGroup) : List UInt8 :=
  record [varint group.groupId.toNat, varint group.shardId.toNat, seq nodeBytes group.members,
    nodeBytes group.aggregator]

def shardBytes (shard : TrainingShardAssignment) : List UInt8 :=
  record [varint shard.shardId.toNat, varint shard.groupId.toNat, seq nodeBytes shard.owners,
    seq nodeBytes shard.replicas, varint shard.generation.toNat,
    fixedBytes 32 shard.stateHash.bytes]

def sampleBytes (sample : TrainingSample) : List UInt8 :=
  record [zigzag sample.feature, zigzag sample.target]

/-
  The serializer on a start order: the indices of the two
  enumerations around it, then its fields in order.
-/
def startBytes (start : TrainingStart) : List UInt8 :=
  record [varint 20, varint 0, fixedBytes 16 start.jobId.bytes, nodeBytes start.coordinator,
    varint start.term.toNat, varint start.membershipEpoch.toNat, fixedBytes 32 start.branch.bytes,
    fixedBytes 32 start.planHash.bytes, varint start.maxWindows.toNat,
    varint start.localSteps.toNat, varint start.maxStaleness.toNat,
    varint start.checkpointEvery.toNat, varint (match start.execution with
      | .windowed => 0
      | .autonomousLocalSgd => 1), varint start.modelStateBytes.toNat,
    varint start.shardStateBytes.toNat, seq nodeBytes start.participants,
    seq groupBytes start.groups, seq shardBytes start.shards, shardBytes start.assignment,
    zigzag start.initialValue, zigzag start.initialOptimizer, seq sampleBytes start.samples]

def oversizedAssignment : TrainingShardAssignment where
  shardId := 0
  groupId := 0
  owners := [⟨1⟩]
  replicas := [⟨1⟩]
  generation := 0
  stateHash := ⟨1⟩

/- A group of `2 ^ 27` members. -/
def oversizedGroup : TrainingGroup where
  groupId := 0
  shardId := 0
  members := List.replicate 134217728 ⟨1⟩
  aggregator := ⟨1⟩

/- A start order passes its check whatever its groups hold. -/
def oversizedStart : TrainingStart where
  jobId := ⟨1⟩
  coordinator := ⟨1⟩
  term := 1
  membershipEpoch := 1
  branch := ⟨1⟩
  planHash := ⟨1⟩
  maxWindows := 1
  localSteps := 1
  maxStaleness := 0
  checkpointEvery := 1
  execution := .windowed
  modelStateBytes := 0
  shardStateBytes := 0
  participants := [⟨1⟩]
  groups := [oversizedGroup]
  shards := [oversizedAssignment]
  assignment := oversizedAssignment
  initialValue := 0
  initialOptimizer := 0
  samples := [⟨0, 0⟩]

/- The serializer on that order and on nothing else. -/
def oversizedPostcard : Postcard where
  toAllocvec
  | .training (.start start) =>
    if start = oversizedStart then .ok (startBytes start) else .error "not this start"
  | _ => .error "not a start"
  fromBytes bytes :=
    if bytes = startBytes oversizedStart then
      .ok (.training (.start oversizedStart))
    else
      .error "not this start"

theorem toAllocvec_oversizedPostcard : oversizedPostcard.toAllocvec
    (.training (.start oversizedStart)) = .ok (startBytes oversizedStart) := by
  simp only [oversizedPostcard, if_true]

theorem oversizedPostcard_roundTrips (message : Message) :
    oversizedPostcard.RoundTrips message := by
  intro payload hPayload
  cases message with
  | training training =>
    cases training with
    | start start =>
      by_cases hStart : start = oversizedStart
      · subst hStart
        rw [toAllocvec_oversizedPostcard] at hPayload
        cases hPayload
        simp only [oversizedPostcard, if_true]
      · simp [oversizedPostcard, hStart] at hPayload
    | _ => simp [oversizedPostcard] at hPayload
  | _ => simp [oversizedPostcard] at hPayload

/- The members of a group take 32 bytes each. -/
theorem length_members_le_length_groupBytes (group : TrainingGroup) :
    group.members.length * 32 ≤ (groupBytes group).length := by
  refine le_trans (length_le_length_seq nodeBytes 32 (fun node => length_fixedBytes 32 node.bytes))
    (length_le_length_record ?_)
  simp

/- The members of the only group bound the whole order. -/
theorem length_members_le_length_startBytes (start : TrainingStart) {group : TrainingGroup}
    (hGroups : start.groups = [group]) : group.members.length * 32 ≤ (startBytes start).length := by
  have hGroup := length_members_le_length_groupBytes group
  have hSeq : (groupBytes group).length ≤ (seq groupBytes start.groups).length := by
    simp [hGroups, seq]
  have hStart : (seq groupBytes start.groups).length ≤ (startBytes start).length := by
    apply length_le_length_record
    simp only [List.mem_cons, true_or, or_true]
  exact le_trans hGroup (le_trans hSeq hStart)

theorem length_startBytes_oversizedStart : 4294967296 ≤ (startBytes oversizedStart).length := by
  have hCount : oversizedGroup.members.length = 134217728 := List.length_replicate
  have hMembers := length_members_le_length_startBytes oversizedStart rfl
  omega

/- The encoder accepts the order and the decoder does not. -/
theorem decodeFrame_encodeMessage_oversized : (∀ message, oversizedPostcard.RoundTrips message) ∧
    ∃ frame, encodeMessageAtVersion noHashing oversizedPostcard
      (.training (.start oversizedStart)) usizeMax protocolMajor protocolMinor = .ok frame ∧
      ¬ (frame.length ≤ usizeMax ∧ decodeFrame noHashing oversizedPostcard frame usizeMax =
        .ok (.training (.start oversizedStart))) := by
  have hFrame := (encodeMessageAtVersion_eq_ok_iff noHashing
    oversizedPostcard (.training (.start oversizedStart))
    usizeMax protocolMajor protocolMinor).mpr
    ⟨rfl, rfl, rfl, startBytes oversizedStart, .training,
      toAllocvec_oversizedPostcard, Nat.min_le_right _ _,
      rfl, rfl⟩
  refine ⟨oversizedPostcard_roundTrips, _, hFrame, ?_⟩
  rintro ⟨-, hDecoded⟩
  refine decodeFrame_of_not_fitsLengthField noHashing
    oversizedPostcard (.training (.start oversizedStart))
    usizeMax protocolMinor _ ?_ hFrame hDecoded
  intro hFits
  have hShort := hFits (startBytes oversizedStart) toAllocvec_oversizedPostcard
  have hLong := length_startBytes_oversizedStart
  omega

end IntelligenceNetwork
