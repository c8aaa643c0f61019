import IntelligenceNetwork.Protocol.Compute

/-
  Peer, directory, job and artifact records.

  Main declarations:
    * `PeerRecord`
    * `JobRequest`
    * `JobUpdate`
-/

----
-- Peers
----

namespace IntelligenceNetwork

/- The protocol versions a peer speaks. -/
structure VersionRange where
  (major minMinor maxMinor : UInt16)

structure MetadataEntry where
  (key value : String)
  deriving DecidableEq

structure ResourceLimits where
  (maxInputBytes maxOutputBytes : UInt32)
  (memoryBytes cpuMillis : UInt64)
  deriving DecidableEq

/- What backs a capability: a claim, or an observation. -/
inductive CapabilityEvidence where
  | claimed
  | observed (successfulJobs : UInt32) (failedJobs : UInt32) (lastObservedAt : UInt64)
  | verified (evaluationId : ArtifactId) (scoreBasis : String) (observedAt : UInt64)
  deriving DecidableEq

/- One advertised capability of a node. -/
structure Capability where
  name : String
  version : UInt16
  model : Option String
  resources : ResourceLimits
  evidence : CapabilityEvidence
  expiresAt : UInt64
  metadata : List MetadataEntry
  computeBackends : List BackendCapabilities
  deriving DecidableEq

/- What a node announces about itself. -/
structure PeerRecord where
  nodeId : NodeId
  publicKey : PublicKey
  addresses : List String
  capabilities : List Capability
  (announcedAt expiresAt : UInt64)
  observedLatencyMs : Option UInt32
  deriving DecidableEq

/- A peer record with its owner's signature. -/
structure SignedAnnouncement where
  record : PeerRecord
  signature : List UInt8
  deriving DecidableEq

/- The first message of every connection. -/
structure Hello where
  nonce : Nonce
  supported : VersionRange
  record : PeerRecord
  signature : List UInt8

structure PeerExchange where
  peers : List SignedAnnouncement

----
-- Distributed Hash Table
----

inductive DhtNamespace where
  | peer
  | capability
  | artifact
  | model
  | dataset
  | relay
  | evidence
  deriving DecidableEq

/- A signed record of the distributed hash table. -/
structure DhtRecord where
  dhtNamespace : DhtNamespace
  key : DhtKey
  owner : NodeId
  ownerPublicKey : PublicKey
  (sequence expiresAt : UInt64)
  (value signature : List UInt8)
  deriving DecidableEq

inductive DhtRequestKind where
  | ping
  | findNode (target : DhtKey)
  | get (dhtNamespace : DhtNamespace) (key : DhtKey)
  | put (record : DhtRecord)

structure DhtRequest where
  requestId : RequestId
  origin : NodeId
  request : DhtRequestKind

inductive ErrorCode where
  | malformed
  | unsupportedVersion
  | limitExceeded
  | unauthorized
  | notFound
  | busy
  | duplicate
  | policyDenied
  | invalidState
  | internal
  deriving DecidableEq

inductive DhtResponseKind where
  | pong
  | nodes (contacts : List SignedAnnouncement)
  | records (records : List DhtRecord)
  | stored
  | notFound
  | error (code : ErrorCode) (message : String)
  deriving DecidableEq

structure DhtResponse where
  requestId : RequestId
  responder : NodeId
  response : DhtResponseKind
  deriving DecidableEq

----
-- Addresses
----

inductive AddressTransport where
  | quicUdp

inductive AddressSource where
  | configured
  | observed
  | learned
  | localAddress
  | relay
  deriving DecidableEq

/- One address at which a node may be reached. -/
structure AddressRecord where
  address : String
  transport : AddressTransport
  source : AddressSource
  expiresAt : UInt64
  confidence : UInt8
  relay : Option NodeId

/- A signed replacement of a node's address set. -/
structure AddressUpdate where
  nodeId : NodeId
  sequence : UInt64
  addresses : List AddressRecord
  signature : List UInt8

/- A signed report of how one node saw another. -/
structure AddressObservation where
  subject : NodeId
  address : String
  observedBy : NodeId
  expiresAt : UInt64
  nonce : Nonce
  signature : List UInt8

----
-- Jobs
----

inductive JobKind where
  | inference
  | evaluation
  | training

structure PrivacyPolicy where
  (allowInputTransfer allowOutputPersistence requireTrustedPeer : Bool)

/- A request to run one job on behalf of `origin`. -/
structure JobRequest where
  jobId : JobId
  origin : NodeId
  kind : JobKind
  capability : String
  model : Option ArtifactId
  input : List UInt8
  deadlineMs : UInt64
  maxOutputBytes : UInt32
  privacy : PrivacyPolicy

/- The states of a job, terminal ones included. -/
inductive JobState where
  | received
  | validated
  | admitted
  | queued
  | running
  | succeeded
  | rejected
  | cancelled
  | timedOut
  | failed
  deriving DecidableEq

structure Evidence where
  evaluator : NodeId
  evaluationId : ArtifactId
  score : Int
  scoreScale : String
  resultHash : ArtifactId
  observedAt : UInt64
  verified : Bool

inductive JobUpdateKind where
  | accepted (state : JobState)
  | started
  | chunk (sequence : UInt32) (data : List UInt8)
  | succeeded (output : List UInt8) (outputHash : ArtifactId) (evidence : Option Evidence)
  | rejected (code : String) (message : String)
  | cancelled
  | timedOut
  | failed (code : String) (message : String)

structure JobUpdate where
  jobId : JobId
  state : JobState
  sequence : UInt32
  update : JobUpdateKind

structure CancelJob where
  jobId : JobId
  reason : String

structure ProtocolError where
  code : ErrorCode
  message : String

structure Ping where
  nonce : Nonce

----
-- Artifacts, Keys and Relays
----

structure ArtifactRequest where
  artifact : ArtifactId
  offset : UInt64
  maxBytes : UInt32

structure ArtifactChunk where
  artifact : ArtifactId
  offset : UInt64
  data : List UInt8
  finalChunk : Bool

structure ArtifactTransferRequest where
  requestId : RequestId
  artifact : ArtifactId
  offset : UInt64
  maxBytes : UInt32
  expectedSize : UInt64
  expectedHash : ArtifactId

/- One chunk of a requested artifact. -/
structure ArtifactTransferChunk where
  requestId : RequestId
  artifact : ArtifactId
  (offset totalSize : UInt64)
  data : List UInt8
  finalChunk : Bool

/- A node moves to a new key; both keys sign. -/
structure KeyRotation where
  oldNodeId : NodeId
  oldPublicKey : PublicKey
  newNodeId : NodeId
  newPublicKey : PublicKey
  (sequence validFrom validUntil : UInt64)
  (oldSignature newSignature : List UInt8)
  deriving DecidableEq

/- A frame carried by a relay on behalf of `origin`. -/
structure RelayEnvelope where
  sessionId : RequestId
  origin : NodeId
  originPublicKey : PublicKey
  target : NodeId
  (payload signature : List UInt8)

end IntelligenceNetwork
