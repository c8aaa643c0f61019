import IntelligenceNetwork.Protocol.Records
import IntelligenceNetwork.Protocol.Validation.Basic

/-
  Checks on peer, directory, job and artifact records.

  Main declarations:
    * `peer`
    * `JobRequest.validate`
    * `JobUpdate.validate`
-/

----
-- Peers
----

namespace IntelligenceNetwork

namespace Validation

def capability (value : Capability) : Check := do
  string value.name "capability.name"
  rejectIf (value.version == 0) (.invalid "capability.version")
  rejectIf (value.name.utf8ByteSize > 128) (.tooLong "capability.name" 128)
  ifPresent (string · "capability.model") value.model
  rejectIf (value.metadata.length > maxMetadata) (.tooMany "capability.metadata" maxMetadata)
  forEach (fun entry => do
    string entry.key "capability.metadata.key"
    string entry.value "capability.metadata.value")
    value.metadata
  rejectIf (value.computeBackends.length > maxV5Backends)
    (.tooMany "capability.compute_backends" maxV5Backends)
  forEachDistinct BackendCapabilities.kind (.invalid "capability.compute_backends")
    (backendCapabilities · "capability.compute_backend") value.computeBackends
  rejectIf
    (value.resources.maxInputBytes == 0 || value.resources.maxInputBytes.toNat > maxJobInput ||
      value.resources.maxOutputBytes == 0 || value.resources.maxOutputBytes.toNat > maxJobOutput ||
      value.resources.memoryBytes == 0 || value.resources.cpuMillis == 0)
    (.invalid "capability.resources")
  match value.evidence with
  | .claimed | .observed _ _ _ => .ok ()
  | .verified _ scoreBasis _ => string scoreBasis "capability.evidence.score_basis"

/- An address is a nonempty string of bounded length. -/
def address (value : String) (field : String) : Check :=
  rejectIf (value.utf8ByteSize == 0 || value.utf8ByteSize > maxAddressLen)
    (.tooLong field maxAddressLen)

def peer (value : PeerRecord) : Check := do
  rejectIf (value.addresses.length > 8) (.tooMany "peer.addresses" 8)
  forEach (address · "peer.address") value.addresses
  rejectIf (value.capabilities.length > maxCapabilities)
    (.tooMany "peer.capabilities" maxCapabilities)
  forEach capability value.capabilities
  rejectIf (value.expiresAt < value.announcedAt) (.invalid "peer.expiry")

def addressRecord (value : AddressRecord) : Check := do
  address value.address "address.address"
  rejectIf (value.expiresAt == 0 || value.confidence > 100) (.invalid "address.metadata")

end Validation

open Validation

def SignedAnnouncement.validate (value : SignedAnnouncement) : Check := do
  peer value.record
  Validation.signature value.signature "announcement.signature"

def Hello.validate (value : Hello) : Check := do
  peer value.record
  Validation.signature value.signature "hello.signature"

def PeerExchange.validate (value : PeerExchange) : Check := do
  rejectIf (value.peers.length > maxPeers) (.tooMany "peer_exchange.peers" maxPeers)
  forEach SignedAnnouncement.validate value.peers

def AddressUpdate.validate (value : AddressUpdate) : Check := do
  rejectIf (value.sequence == 0) (.invalid "address_update.sequence")
  rejectIf (value.addresses.length > maxAddresses)
    (.tooMany "address_update.addresses" maxAddresses)
  forEach addressRecord value.addresses
  Validation.signature value.signature "address_update.signature"

def AddressObservation.validate (value : AddressObservation) : Check := do
  Validation.address value.address "address_observation.address"
  rejectIf (value.expiresAt == 0) (.invalid "address_observation.expires_at")
  Validation.signature value.signature "address_observation.signature"

----
-- Jobs
----

def JobRequest.validate (value : JobRequest) : Check := do
  string value.capability "job.capability"
  rejectIf (value.capability.utf8ByteSize > 128) (.tooLong "job.capability" 128)
  bytes value.input maxJobInput "job.input"
  rejectIf (value.deadlineMs == 0 || value.deadlineMs > 24 * 60 * 60 * 1000)
    (.invalid "job.deadline_ms")
  rejectIf (value.maxOutputBytes == 0 || value.maxOutputBytes.toNat > maxJobOutput)
    (.invalid "job.max_output_bytes")

/- The state that an update announces for its job. -/
def JobUpdateKind.matchesState (state : JobState) : JobUpdateKind → Bool
| .accepted announced => announced == state
| .started | .chunk _ _ => state == .running
| .succeeded _ _ _ => state == .succeeded
| .rejected _ _ => state == .rejected
| .cancelled => state == .cancelled
| .timedOut => state == .timedOut
| .failed _ _ => state == .failed

def JobUpdate.validate (value : JobUpdate) : Check := do
  rejectIf (value.sequence == 0) (.invalid "job.sequence")
  rejectIf (!value.update.matchesState value.state) (.invalid "job.state_update")
  match value.update with
  | .chunk _ data => bytes data maxArtifactChunk "job.chunk"
  | .succeeded output _ evidence => do
    bytes output maxJobOutput "job.output"
    ifPresent (fun (evidence : Evidence) =>
      string evidence.scoreScale "evidence.score_scale")
      evidence
  | .rejected code message => do
    string code "job.error.code"
    string message "job.error.message"
  | .failed code message => do
    string code "job.error.code"
    string message "job.error.message"
  | .accepted _ | .started | .cancelled | .timedOut => .ok ()

----
-- Artifacts
----

def ArtifactRequest.validate (value : ArtifactRequest) : Check :=
  rejectIf (value.maxBytes == 0 || value.maxBytes.toNat > maxArtifactChunk)
    (.invalid "artifact_request.max_bytes")

def ArtifactChunk.validate (value : ArtifactChunk) : Check :=
  bytes value.data maxArtifactChunk "artifact_chunk.data"

def ArtifactTransferRequest.validate (value : ArtifactTransferRequest) : Check :=
  -- an expected size of zero resumes without a manifest
  rejectIf (value.maxBytes == 0 || value.maxBytes.toNat > maxArtifactChunk)
    (.invalid "artifact_transfer_request.max_bytes")

def ArtifactTransferChunk.validate (value : ArtifactTransferChunk) : Check := do
  rejectIf (value.totalSize == 0 || value.offset > value.totalSize)
    (.invalid "artifact_transfer_chunk.range")
  bytes value.data maxArtifactChunk "artifact_transfer_chunk.data"
  rejectIf (value.data.isEmpty && !value.finalChunk) (.invalid "artifact_transfer_chunk.data")
  rejectIf (Saturating.add value.offset (UInt64.ofNat value.data.length) > value.totalSize)
    (.invalid "artifact_transfer_chunk.range")

----
-- Records Bound to a Key
----

variable (hashing : Hashing)

def Validation.dhtRecord (value : DhtRecord) : Check := do
  rejectIf
    (value.owner != hashing.nodeIdFromPublicKey value.ownerPublicKey || value.expiresAt == 0 ||
      value.value.length > maxDhtRecordValue)
    (.invalid "dht.record.identity_or_value")
  Validation.signature value.signature "dht.record.signature"

def DhtRequest.validate (value : DhtRequest) : Check :=
  match value.request with
  | .ping | .findNode _ | .get _ _ => .ok ()
  | .put record => dhtRecord hashing record

def DhtResponse.validate (value : DhtResponse) : Check :=
  match value.response with
  | .nodes contacts => do
    rejectIf (contacts.length > maxDhtContacts) (.tooMany "dht.response.contacts" maxDhtContacts)
    forEach SignedAnnouncement.validate contacts
  | .records records => do
    rejectIf (records.length > maxDhtRecords) (.tooMany "dht.response.records" maxDhtRecords)
    forEach (dhtRecord hashing) records
  | .error _ message => string message "dht.error.message"
  | .pong | .stored | .notFound => .ok ()

def KeyRotation.validate (value : KeyRotation) : Check := do
  rejectIf (value.oldNodeId == value.newNodeId || value.oldNodeId !=
    hashing.nodeIdFromPublicKey value.oldPublicKey ||
    value.newNodeId != hashing.nodeIdFromPublicKey value.newPublicKey || value.sequence == 0 ||
    value.validFrom == 0 || value.validUntil < value.validFrom)
    (.invalid "key_rotation.identity_or_validity")
  Validation.signature value.oldSignature "key_rotation.old_signature"
  Validation.signature value.newSignature "key_rotation.new_signature"

def RelayEnvelope.validate (value : RelayEnvelope) : Check := do
  rejectIf (value.origin != hashing.nodeIdFromPublicKey value.originPublicKey ||
    value.origin == value.target || value.payload.isEmpty ||
    value.payload.length > maxRelayPayload) (.invalid "relay_envelope.identity_or_payload")
  Validation.signature value.signature "relay_envelope.signature"

end IntelligenceNetwork
