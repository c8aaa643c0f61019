import IntelligenceNetwork.Protocol.RoundTrip

/-
  Frames that the decoder accepts and the encoder would not
  have written: of another version, with other reserved bytes,
  or with bytes that the serializer leaves.

  Main declarations:
    * `version_rules_agree_iff`
    * `Canonical`
    * `frame_canonical_iff`
-/

----
-- Versions
----

namespace IntelligenceNetwork

open FrameHeader

variable {hashing : Hashing} {postcard : Postcard} {frame bytes : List UInt8}
variable {start count limit : Nat} {message : Message}

/- The minor version that the header of a frame says. -/
def headerMinor (frame : List UInt8) : UInt16 :=
  UInt16.ofNat (field frame 6 2)

theorem field_take (frame : List UInt8) (hInside : start + count ≤ 16) :
    field (frame.take frameHeaderSize) start count = field frame start count := by
  rw [field, field, List.drop_take, List.take_take, frameHeaderSize, Nat.min_eq_left (by omega)]

/- A frame is only accepted at a version that is supported. -/
theorem versionSupported_headerMinor
    (hDecoded : decodeFrame hashing postcard frame limit = .ok message) :
    versionSupported protocolMajor (headerMinor frame) = true := by
  rcases (decodeFrame_eq_ok_iff hashing postcard).mp hDecoded with ⟨-, header, hHeader, -⟩
  rcases decode_eq_ok_iff.mp hHeader with ⟨-, -, hMinor, hVersion, -⟩
  rw [field_take frame (by decide)] at hMinor
  rw [headerMinor, hMinor]
  simp only [versionSupported, Bool.and_eq_true, beq_self_eq_true, true_and] at hVersion ⊢
  exact hVersion.2

/-
  The encoder would send what was decoded at the version of its
  frame exactly if that version knows it: its kind, and what a
  version 4 message contains.
-/
theorem version_rules_agree_iff (hashing : Hashing) (postcard : Postcard) (frame : List UInt8)
    (maxFrameSize limit : Nat) (message : Message)
    (hDecoded : decodeFrame hashing postcard frame maxFrameSize = .ok message) :
    (¬ ∃ major minor, encodeMessageAtVersion hashing postcard message limit protocolMajor
      (headerMinor frame) = .error (.unsupportedVersion major minor)) ↔
      MinorReached (headerMinor frame) message := by
  have hValid := ((decodeFrame_eq_ok_iff hashing postcard).mp hDecoded).2
  rcases hValid with ⟨header, -, -, -, -, hValid⟩
  rw [encodeMessageAtVersion_unsupportedVersion_iff, versionSupported_headerMinor hDecoded,
    ← versionTooOld_eq_false_iff]
  simp [hValid]

/- A ping in the table of peers, which is new in version 2. -/
def dhtPing : DhtRequest := ⟨⟨1⟩, ⟨1⟩, .ping⟩

open PostcardFormat in
def pingBytes (request : DhtRequest) : List UInt8 :=
  record [varint 18, fixedBytes 16 request.requestId.bytes, nodeBytes request.origin, varint 0]

/- The serializer on such pings. -/
def dhtPostcard : Postcard where
  toAllocvec
  | .dhtRequest ⟨id, origin, .ping⟩ => .ok (pingBytes ⟨id, origin, .ping⟩)
  | _ => .error "not a ping"
  fromBytes bytes :=
    if bytes = pingBytes dhtPing then .ok (.dhtRequest dhtPing) else .error "not this ping"

def dhtPingFrame (minor : UInt16) : List UInt8 :=
  encode ⟨1, minor, .dhtRequest, 50⟩ ++ pingBytes dhtPing

theorem version_rules_agree_ping :
    decodeFrame noHashing dhtPostcard (dhtPingFrame 2) maxFrameSize = .ok (.dhtRequest dhtPing) ∧
    ¬ ∃ major minor, encodeMessageAtVersion noHashing dhtPostcard (.dhtRequest dhtPing) maxFrameSize
      protocolMajor (headerMinor (dhtPingFrame 2)) = .error (.unsupportedVersion major minor) :=
  ⟨by rfl, (version_rules_agree_iff noHashing dhtPostcard (dhtPingFrame 2) maxFrameSize maxFrameSize
    (.dhtRequest dhtPing) (by rfl)).mpr (by simp only [MinorReached]; decide)⟩

/- It is also accepted at a version that does not have it. -/
theorem version_rules_disagree :
    decodeFrame noHashing dhtPostcard (dhtPingFrame 0) maxFrameSize = .ok (.dhtRequest dhtPing) ∧
    headerMinor (dhtPingFrame 0) = 0 ∧
    encodeMessageAtVersion noHashing dhtPostcard (.dhtRequest dhtPing) maxFrameSize
      protocolMajor 0 = .error (.unsupportedVersion 1 0) :=
  ⟨by rfl, by decide, by rfl⟩

----
-- Canonical Frames
----

/-
  The reader behind `from_bytes`, which drops the bytes that
  the reader leaves.
-/
structure Postcard.Reader (postcard : Postcard) where
  takeFromBytes : List UInt8 → Except String (Message × List UInt8)
  fromBytes_eq : ∀ bytes, postcard.fromBytes bytes = (takeFromBytes bytes).map Prod.fst

/-
  What is read is written again as the bytes that were
  consumed.
-/
def Postcard.Reader.ReEncodes (reader : postcard.Reader) : Prop :=
  ∀ bytes message rest, reader.takeFromBytes bytes = .ok (message, rest) →
    ∃ consumed, bytes = consumed ++ rest ∧ postcard.toAllocvec message = .ok consumed

/-
  The reserved bytes are zero, and the reader leaves no byte of
  the payload.
-/
def Canonical (reader : postcard.Reader) (message : Message) (frame : List UInt8) : Prop :=
  field frame 10 2 = 0 ∧ reader.takeFromBytes (frame.drop frameHeaderSize) = .ok (message, [])

section

variable (hInside : start + count ≤ bytes.length)
include hInside

theorem length_field : ((bytes.drop start).take count).length = count := by
  rw [List.length_take, List.length_drop]
  omega

/- A field of a header, written again. -/
theorem encode_field : LittleEndian.encode count (field bytes start count) =
    (bytes.drop start).take count := by
  have hBytes := LittleEndian.encode_decode ((bytes.drop start).take count)
  rwa [length_field hInside] at hBytes

theorem field_lt : field bytes start count < 256 ^ count := by
  have hLess := LittleEndian.decode_lt ((bytes.drop start).take count)
  rwa [length_field hInside] at hLess

end

/- All of a header that is accepted but its reserved bytes. -/
theorem encode_of_decode {header : FrameHeader} (hLength : bytes.length = frameHeaderSize)
    (hHeader : decode bytes limit = .ok header) :
    header.encode = bytes.take 10 ++ LittleEndian.encode 2 0 ++ bytes.drop 12 := by
  rw [frameHeaderSize] at hLength
  have hWord (start : Nat) (hStart : start + 2 ≤ 16) :
    LittleEndian.encode 2 (UInt16.ofNat (field bytes start 2)).toNat =
      (bytes.drop start).take 2 := by
    have hLess := @field_lt bytes start 2 (by omega)
    rw [UInt16.toNat_ofNat_of_lt' hLess, encode_field (by omega)]
  rcases decode_eq_ok_iff.mp hHeader with ⟨hMagic, hMajor, hMinor, -, hKind, hPayload, -⟩
  have hLess := @field_lt bytes 12 4 (by omega)
  have hEnd : (bytes.drop 12).take 4 = bytes.drop 12 :=
    List.take_of_length_le (by rw [List.length_drop]; omega)
  rw [encode, ← hMagic, ← hMajor, ← hMinor, ← hKind, ← hPayload, hWord 4 (by decide),
    hWord 6 (by decide), hWord 8 (by decide), UInt32.toNat_ofNat_of_lt' hLess,
    encode_field (by omega), hEnd]
  have hTake : bytes.take 10 = bytes.take 4 ++ (bytes.drop 4).take 2 ++ (bytes.drop 6).take 2 ++
    (bytes.drop 8).take 2 := by
    rw [← List.take_add, ← List.take_add, ← List.take_add]
  rw [hTake]

section

variable {reader : postcard.Reader} (hReads : reader.ReEncodes)
include hReads

/- Nothing is left of a payload that is written as it was. -/
theorem takeFromBytes_eq_iff (hRead : postcard.fromBytes bytes = .ok message) :
    reader.takeFromBytes bytes = .ok (message, []) ↔ postcard.toAllocvec message = .ok bytes := by
  rw [reader.fromBytes_eq] at hRead
  cases hTaken : reader.takeFromBytes bytes with
  | error reason =>
    rw [hTaken] at hRead
    cases hRead
  | ok taken =>
    rcases taken with ⟨read, rest⟩
    rw [hTaken] at hRead
    cases hRead
    rcases hReads bytes read rest hTaken with ⟨consumed, rfl, hWritten⟩
    simp [hWritten]

/- The frame that the encoder makes of the message in a frame. -/
theorem encoded_eq_iff {encoded : List UInt8}
    (hDecoded : decodeFrame hashing postcard frame limit = .ok message)
    (hEncoded : encodeMessageAtVersion hashing postcard message limit protocolMajor
      (headerMinor frame) = .ok encoded) :
    encoded = frame ↔ Canonical reader message frame := by
  rcases (decodeFrame_eq_ok_iff hashing postcard).mp hDecoded with
    ⟨hLong, header, hHeader, hLength, hRead, hKind, -⟩
  rcases (encodeMessageAtVersion_eq_ok_iff ..).mp hEncoded with
    ⟨-, -, -, payload, kind, hPayload, -, hSame, rfl⟩
  rw [hKind] at hSame
  cases hSame
  rw [Canonical, takeFromBytes_eq_iff hReads hRead]
  constructor
  · intro hEq
    rw [← hEq]
    refine ⟨rfl, ?_⟩
    exact hPayload
  · rintro ⟨hReserved, hWhole⟩
    rw [hPayload] at hWhole
    cases hWhole
    have hThis : header = ⟨protocolMajor, headerMinor frame, header.kind,
      UInt32.ofNat (frame.drop frameHeaderSize).length⟩ := by
      rcases decode_eq_ok_iff.mp hHeader with ⟨-, -, hMinor, hVersion, -⟩
      rw [field_take frame (by decide)] at hMinor
      rw [hLength, headerMinor, hMinor, UInt32.ofNat_toNat]
      rw [versionSupported, Bool.and_eq_true, beq_iff_eq] at hVersion
      rw [← hVersion.1]
    have hTaken : (frame.take frameHeaderSize).length = frameHeaderSize :=
      List.length_take_of_le hLong
    have hZero := @encode_field frame 10 2 (by rw [frameHeaderSize] at hLong; omega)
    rw [hReserved] at hZero
    rw [← hThis, encode_of_decode hTaken hHeader, hZero, List.take_take, List.drop_take]
    change frame.take 10 ++ _ ++ (frame.drop 12).take 4 ++ frame.drop 16 = frame
    rw [← List.take_add, ← List.take_add, List.take_append_drop]

end

/-
  With a reader that is undone by the writer, a frame is what
  the encoder makes of the message in it exactly if its reserved
  bytes are zero and its payload is read to the end.  No two
  such frames are accepted as one message at one version.
-/
theorem frame_canonical_iff (hashing : Hashing) (postcard : Postcard) (reader : postcard.Reader)
    (hReads : reader.ReEncodes) (frame encoded : List UInt8) (maxFrameSize : Nat)
    (message : Message) (hDecoded : decodeFrame hashing postcard frame maxFrameSize = .ok message)
    (hEncoded : encodeMessageAtVersion hashing postcard message maxFrameSize protocolMajor
      (headerMinor frame) = .ok encoded) :
    (encoded = frame ↔ Canonical reader message frame) ∧
      ∀ other, decodeFrame hashing postcard other maxFrameSize = .ok message →
        headerMinor other = headerMinor frame → Canonical reader message frame →
        Canonical reader message other → other = frame := by
  refine ⟨encoded_eq_iff hReads hDecoded hEncoded, ?_⟩
  intro other hOther hMinor hFrame hCanonical
  rw [← (encoded_eq_iff hReads hDecoded hEncoded).mpr hFrame]
  rw [← hMinor] at hEncoded
  exact ((encoded_eq_iff hReads hOther hEncoded).mpr hCanonical).symm

/- The reader of one ping, which may be followed by more. -/
def takePing (bytes : List UInt8) : Except String (Message × List UInt8) :=
  if bytes.take 17 = 8 :: List.replicate 16 0 then
    .ok (.ping ⟨0⟩, bytes.drop 17)
  else
    .error "not this ping"

/- Its `from_bytes` does not look at what is left. -/
def lenientPostcard : Postcard :=
  { pingPostcard with fromBytes := fun bytes => (takePing bytes).map Prod.fst }

def lenientReader : lenientPostcard.Reader := ⟨takePing, fun _ => rfl⟩

theorem lenientReader_reEncodes : lenientReader.ReEncodes := by
  intro bytes message rest hRead
  change takePing bytes = _ at hRead
  rw [takePing] at hRead
  split_ifs at hRead with hPing
  cases hRead
  refine ⟨bytes.take 17, (List.take_append_drop 17 bytes).symm, ?_⟩
  rw [hPing]
  rfl

def pingFrame (length : UInt32) (rest : List UInt8) : List UInt8 :=
  encode ⟨1, 6, .ping, length⟩ ++ (8 :: List.replicate 16 0) ++ rest

/- A frame that ends with its message is the one that is sent. -/
theorem frame_canonical_ping :
    decodeFrame noHashing lenientPostcard (pingFrame 17 []) maxFrameSize = .ok (.ping ⟨0⟩) ∧
    Canonical lenientReader (.ping ⟨0⟩) (pingFrame 17 []) := by
  refine ⟨by rfl, ?_⟩
  exact (frame_canonical_iff noHashing lenientPostcard lenientReader lenientReader_reEncodes
    (pingFrame 17 []) (pingFrame 17 []) maxFrameSize (.ping ⟨0⟩) (by rfl) (by rfl)).1.mp rfl

/- A byte after the message makes another frame of it. -/
theorem frame_not_canonical : lenientReader.ReEncodes ∧ pingFrame 18 [0] ≠ pingFrame 17 [] ∧
    headerMinor (pingFrame 18 [0]) = 6 ∧ headerMinor (pingFrame 17 []) = 6 ∧
    decodeFrame noHashing lenientPostcard (pingFrame 18 [0]) maxFrameSize = .ok (.ping ⟨0⟩) ∧
    decodeFrame noHashing lenientPostcard (pingFrame 17 []) maxFrameSize = .ok (.ping ⟨0⟩) ∧
    encodeMessageAtVersion noHashing lenientPostcard (.ping ⟨0⟩) maxFrameSize protocolMajor 6 =
      .ok (pingFrame 17 []) :=
  ⟨lenientReader_reEncodes, by decide, by decide, by decide, by rfl, by rfl, by rfl⟩

end IntelligenceNetwork
