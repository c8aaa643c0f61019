import IntelligenceNetwork.Lib.OrderedMap
import IntelligenceNetwork.Protocol.Codec

/-
  The table of peers that the tasks of a node share.

  One half is what the node has learned of other nodes.  The
  other five maps describe the connection that is current for a
  peer, and change together.  Clocks, signatures and the parser
  of socket addresses come in as arguments.

  Main declarations:
    * `PeerState`
    * `Host`
    * `upsertPeer`
    * `SameConnections`
-/

----
-- Errors and Configuration
----

namespace IntelligenceNetwork.Network

variable {announcement : SignedAnnouncement} {update : AddressUpdate} {rotation : KeyRotation}

inductive NetworkError where
  | invalidConfig (reason : String)
  | io
  | quic (reason : String)
  | codec (error : CodecError)
  | notConnected
  | peerTableFull
  | identityVerification
  | peerProtocol (reason : String)
  | storage
  deriving DecidableEq

/- The settings that the tasks below read. -/
structure NetworkConfig where
  maxConnections : Nat
  peerTtlSeconds : UInt64
  allowPrivateAddresses : Bool
  dhtK : UInt64

def maxLearnedPeers : Nat := 2048

/-
  Signatures are checked over serialized fields.  A field that
  cannot be serialized has no bytes.
-/
structure Signing where
  verify : PublicKey → List UInt8 → List UInt8 → Bool
  helloBytes : Nonce → VersionRange → PeerRecord → Except String (List UInt8)
  recordBytes : PeerRecord → Option (List UInt8)
  addressBytes : NodeId → UInt64 → List AddressRecord → Option (List UInt8)
  rotationBytes : KeyRotation → Option (List UInt8)

----
-- Socket Addresses
----

inductive IpAddr where
  | v4 (octets : BitVec 32)
  | v6 (octets : BitVec 128)

structure SocketAddr where
  ip : IpAddr
  port : UInt16

namespace IpAddr

def isLoopback : IpAddr → Bool
| .v4 octets => octets >>> 24 == 127#32
| .v6 octets => octets == 1#128

def isUnspecified : IpAddr → Bool
| .v4 octets => octets == 0#32
| .v6 octets => octets == 0#128

def isMulticast : IpAddr → Bool
| .v4 octets => octets >>> 28 == 0xe#32
| .v6 octets => octets >>> 120 == 0xff#128

/- Private and link-local addresses. -/
def isLocal : IpAddr → Bool
| .v4 octets =>
  octets >>> 24 == 10#32 || octets >>> 20 == 0xac1#32 || octets >>> 16 == 0xc0a8#32 ||
    octets >>> 16 == 0xa9fe#32
| .v6 octets => octets >>> 121 == 0x7e#128 || octets >>> 118 == 0x3fa#128

end IpAddr

def addressAllowed (config : NetworkConfig) (address : SocketAddr)
    (source : AddressSource) : Bool :=
  if address.port == 0 then
    false
  else if source == .configured || source == .localAddress || config.allowPrivateAddresses then
    true
  else if address.ip.isLoopback || address.ip.isUnspecified || address.ip.isMulticast then
    false
  else
    !address.ip.isLocal

/- The first eight different addresses. -/
def dedupeAddresses (addresses : List String) : List String :=
  (addresses.foldl (fun kept address =>
    if kept.contains address then kept
    else kept ++ [address]) []).take 8

----
-- The Peer Table
----

/- A value that says nothing of the connection it is for. -/
structure Owned (α : Type) where
  connectionId : Nat
  value : α

/-
  Senders and connections are named by the id of their
  connection.  Directions and versions remember it, for the
  statements about whose entries are left.
-/
structure PeerState where
  records : Std.TreeMap NodeId PeerRecord
  announcements : Std.TreeMap NodeId SignedAnnouncement
  addressUpdates : Std.TreeMap NodeId AddressUpdate
  rotations : Std.TreeMap NodeId KeyRotation
  (senders connections connectionIds : Std.TreeMap NodeId Nat)
  connectionDirections : Std.TreeMap NodeId (Owned Bool)
  versions : Std.TreeMap NodeId (Owned UInt16)

namespace PeerState

variable (peers : PeerState)

/- What is known of peers before the first connection. -/
def disconnected : PeerState :=
  { peers with
    senders := ∅
    connections := ∅
    connectionIds := ∅
    connectionDirections := ∅
    versions := ∅ }

def unregister (peer : NodeId) : PeerState :=
  { peers with
    senders := peers.senders.erase peer
    connections := peers.connections.erase peer
    connectionIds := peers.connectionIds.erase peer
    connectionDirections := peers.connectionDirections.erase peer
    versions := peers.versions.erase peer }

def register (peer : NodeId) (connectionId : Nat) (outbound : Bool) (minor : UInt16) : PeerState :=
  { peers with
    senders := peers.senders.insert peer connectionId
    connections := peers.connections.insert peer connectionId
    connectionIds := peers.connectionIds.insert peer connectionId
    connectionDirections := peers.connectionDirections.insert peer ⟨connectionId, outbound⟩
    versions := peers.versions.insert peer ⟨connectionId, minor⟩ }

def expireRecords (now : UInt64) : PeerState :=
  { peers with records := peers.records.filter (fun _ record => record.expiresAt ≥ now) }

/- A known peer has its place; a new one needs a free one. -/
def recordsFull (peer : NodeId) : Bool :=
  !peers.records.contains peer && maxLearnedPeers ≤ peers.records.size

end PeerState

def recordIsFresher (previous next : PeerRecord) : Bool :=
  next.announcedAt > previous.announcedAt || (next.announcedAt == previous.announcedAt &&
    next.expiresAt ≥ previous.expiresAt)

def recordTimeValid (config : NetworkConfig) (now : UInt64) (record : PeerRecord) : Bool :=
  record.announcedAt ≤ Saturating.add now 60 && record.expiresAt ≥ now &&
    Saturating.sub record.expiresAt record.announcedAt ≤ Saturating.mul config.peerTtlSeconds 2

/- What a node is, apart from what its tasks share. -/
structure Host where
  node : NodeId
  config : NetworkConfig
  hashing : Hashing
  signing : Signing
  parse : String → Option SocketAddr

----
-- Signed Messages
----

/- The oldest minor version that this node still speaks. -/
def currentMinMinor : UInt16 := 0

section

variable (host : Host)

def verifyHello (now : UInt64) (seenHellos : List (NodeId × Nonce)) (hello : Hello) :
    Except NetworkError UInt16 × List (NodeId × Nonce) :=
  match hello.validate with
  | .error error => (.error (.peerProtocol error.text), seenHellos)
  | .ok () =>
    if hello.record.nodeId == host.node || hello.supported.major != protocolMajor ||
      hello.supported.minMinor > protocolMinor ||
      hello.supported.minMinor > hello.supported.maxMinor ||
      hello.supported.maxMinor < currentMinMinor ||
      hello.record.nodeId != host.hashing.nodeIdFromPublicKey hello.record.publicKey ||
      !recordTimeValid host.config now hello.record then
      (.error .identityVerification, seenHellos)
    else
      match host.signing.helloBytes hello.nonce hello.supported hello.record with
      | .error reason => (.error (.peerProtocol reason), seenHellos)
      | .ok bytes =>
        if !host.signing.verify hello.record.publicKey bytes hello.signature then
          (.error .identityVerification, seenHellos)
        else if seenHellos.contains (hello.record.nodeId, hello.nonce) then
          (.error (.peerProtocol "replayed hello nonce"), seenHellos)
        else
          let seen := (hello.record.nodeId, hello.nonce) :: seenHellos
          (.ok (min protocolMinor hello.supported.maxMinor),
            if seen.length > 4096 then [] else seen)

def verifyAnnouncement (announcement : SignedAnnouncement) : Bool :=
  announcement.record.nodeId == host.hashing.nodeIdFromPublicKey announcement.record.publicKey &&
    (host.signing.recordBytes announcement.record).any (fun bytes =>
      host.signing.verify announcement.record.publicKey bytes announcement.signature)

def verifyAddressUpdate (peers : PeerState) (update : AddressUpdate) : Bool :=
  update.validate.isOk && update.nodeId != host.node &&
    peers.records[update.nodeId]?.any (fun record =>
      (host.signing.addressBytes update.nodeId update.sequence update.addresses).any (fun bytes =>
        host.signing.verify record.publicKey bytes update.signature))

def verifyKeyRotation (now : UInt64) (rotation : KeyRotation) : Bool :=
  (rotation.validate host.hashing).isOk && rotation.validFrom ≤ Saturating.add now 60 &&
    rotation.validUntil ≥ now && (host.signing.rotationBytes rotation).any (fun bytes =>
      host.signing.verify rotation.oldPublicKey bytes rotation.oldSignature &&
        host.signing.verify rotation.newPublicKey bytes rotation.newSignature)

----
-- Learning From Peers
----

/- The clock and the store, while one call is made. -/
structure CallEnv where
  now : UInt64
  saved : Bool

/- A call on the table, and how it came out. -/
abbrev TableResult := PeerState × Except NetworkError Unit

/- The last step of a call writes what the table holds. -/
def persisted (env : CallEnv) (peers : PeerState) : TableResult :=
  (peers, if env.saved then .ok () else .error .storage)

/- Expired peers make room, with their announcements. -/
def makeRoom (now : UInt64) (peers : PeerState) (peer : NodeId) : PeerState :=
  if peers.recordsFull peer then
    let expired := peers.expireRecords now
    { expired with
      announcements := expired.announcements.filter (fun node _ => expired.records.contains node) }
  else
    peers

def addressesRejected (record : PeerRecord) : Bool :=
  record.addresses.any (fun address =>
    match host.parse address with
    | some parsed => !addressAllowed host.config parsed .learned
    | none => true)

end

def insertPeer (env : CallEnv) (peers : PeerState) (announcement : SignedAnnouncement)
    (record : PeerRecord) : TableResult :=
  let room := makeRoom env.now peers record.nodeId
  if room.recordsFull record.nodeId then
    (room, .error .peerTableFull)
  else
    persisted env { room with
      records := room.records.insert record.nodeId record
      announcements := room.announcements.insert record.nodeId announcement }

section

variable (host : Host) (env : CallEnv) (peers : PeerState)

def upsertPeer (announcement : SignedAnnouncement) : TableResult :=
  let record := announcement.record
  if record.nodeId = host.node then
    (peers, .ok ())
  else
    match Validation.peer record with
    | .error error => (peers, .error (.peerProtocol error.text))
    | .ok () =>
      if record.expiresAt < env.now then
        (peers, .ok ())
      else if !recordTimeValid host.config env.now record then
        (peers, .error (.peerProtocol "peer announcement has an invalid lifetime"))
      else if addressesRejected host record then
        (peers, .ok ())
      else
        let record :=
          { record with addresses := dedupeAddresses record.addresses }
        if peers.records[record.nodeId]?.any (fun previous =>
          !recordIsFresher previous record) then
          (peers, .ok ())
        else
          insertPeer env peers announcement record

def upsertAddressUpdate (update : AddressUpdate) : TableResult :=
  if peers.addressUpdates[update.nodeId]?.any (fun previous => previous.sequence ≥ update.sequence)
    then
    (peers, .ok ())
  else
    let addresses := dedupeAddresses
      ((update.addresses.filter (fun address => address.expiresAt ≥ env.now)).filterMap
        (fun address =>
          (host.parse address.address).bind (fun parsed =>
            if addressAllowed host.config parsed .learned
            then some address.address
            else none)))
    persisted env { peers with
      records :=
        match peers.records[update.nodeId]? with
        | none => peers.records
        | some record => peers.records.insert update.nodeId { record with addresses := addresses }
      addressUpdates := peers.addressUpdates.insert update.nodeId update }

end

/- The old key contradicts what is known of the old node. -/
def rotationContradicts (peers : PeerState) (rotation : KeyRotation) : Bool :=
  peers.records[rotation.oldNodeId]?.any (fun record => record.publicKey != rotation.oldPublicKey)

def upsertKeyRotation (env : CallEnv) (peers : PeerState) (rotation : KeyRotation) : TableResult :=
  if rotationContradicts peers rotation then
    (peers, .error .identityVerification)
  else if peers.rotations.values.any (fun previous =>
    previous.oldNodeId == rotation.oldNodeId && previous.sequence ≥ rotation.sequence &&
      previous.newNodeId != rotation.newNodeId) then
    (peers, .ok ())
  else if peers.rotations[rotation.newNodeId]?.any (fun previous =>
    previous.sequence ≥ rotation.sequence) then
    (peers, .ok ())
  else
    persisted env { peers with rotations := peers.rotations.insert rotation.newNodeId rotation }

----
-- What Learning Leaves Alone
----

/- The five maps of connections are the same. -/
structure SameConnections (before after : PeerState) : Prop where
  senders : after.senders = before.senders
  connections : after.connections = before.connections
  connectionIds : after.connectionIds = before.connectionIds
  directions : after.connectionDirections = before.connectionDirections
  versions : after.versions = before.versions

theorem SameConnections.refl (peers : PeerState) : SameConnections peers peers :=
  ⟨rfl, rfl, rfl, rfl, rfl⟩

theorem SameConnections.trans {first second third : PeerState}
    (hFirst : SameConnections first second) (hSecond : SameConnections second third) :
    SameConnections first third :=
  ⟨hSecond.senders.trans hFirst.senders, hSecond.connections.trans hFirst.connections,
    hSecond.connectionIds.trans hFirst.connectionIds, hSecond.directions.trans hFirst.directions,
    hSecond.versions.trans hFirst.versions⟩

theorem makeRoom_sameConnections (now : UInt64) (peers : PeerState) (peer : NodeId) :
    SameConnections peers (makeRoom now peers peer) := by
  unfold makeRoom
  split_ifs
  · exact ⟨rfl, rfl, rfl, rfl, rfl⟩
  · exact .refl peers

variable {env : CallEnv} {peers : PeerState}

theorem insertPeer_sameConnections {record : PeerRecord} :
    SameConnections peers (insertPeer env peers announcement record).1 := by
  have hRoom := makeRoom_sameConnections env.now peers record.nodeId
  unfold insertPeer
  dsimp only
  split_ifs
  · exact hRoom
  · exact hRoom.trans ⟨rfl, rfl, rfl, rfl, rfl⟩

variable {host : Host}

theorem upsertPeer_sameConnections :
    SameConnections peers (upsertPeer host env peers announcement).1 := by
  unfold upsertPeer
  dsimp only
  cases Validation.peer announcement.record with
  | error error =>
    dsimp only
    split_ifs
    · exact .refl peers
    · exact .refl peers
  | ok value =>
    split_ifs
    iterate 5 · exact .refl peers
    · exact insertPeer_sameConnections

theorem upsertAddressUpdate_sameConnections :
    SameConnections peers (upsertAddressUpdate host env peers update).1 := by
  unfold upsertAddressUpdate
  split_ifs
  · exact .refl peers
  · exact ⟨rfl, rfl, rfl, rfl, rfl⟩

theorem upsertKeyRotation_sameConnections :
    SameConnections peers (upsertKeyRotation env peers rotation).1 := by
  unfold upsertKeyRotation
  split_ifs
  iterate 3 · exact .refl peers
  · exact ⟨rfl, rfl, rfl, rfl, rfl⟩

----
-- When Learning Succeeds
----

/- The record has a sound lifetime, and a place in the table. -/
def PeerWelcome (host : Host) (env : CallEnv) (peers : PeerState) (record : PeerRecord) : Prop :=
  Validation.peer record = .ok () ∧
    (record.expiresAt < env.now ∨ recordTimeValid host.config env.now record = true) ∧
    (makeRoom env.now peers record.nodeId).recordsFull record.nodeId = false

theorem persisted_ok (hSaved : env.saved = true) : (persisted env peers).2 = .ok () := by
  rw [persisted, hSaved]
  rfl

theorem upsertPeer_ok (hWelcome : PeerWelcome host env peers announcement.record)
    (hSaved : env.saved = true) : (upsertPeer host env peers announcement).2 = .ok () := by
  rcases hWelcome with ⟨hValid, hLifetime, hRoom⟩
  unfold upsertPeer
  dsimp only
  rw [hValid]
  split_ifs with hSelf hExpired hTime
  · rfl
  · rfl
  · exfalso
    rcases hLifetime with hExpired' | hValidTime
    · exact hExpired hExpired'
    · simp [hValidTime] at hTime
  · rfl
  · rfl
  · unfold insertPeer
    dsimp only
    rw [hRoom]
    exact persisted_ok hSaved

theorem upsertAddressUpdate_ok (hSaved : env.saved = true) :
    (upsertAddressUpdate host env peers update).2 = .ok () := by
  unfold upsertAddressUpdate
  split_ifs
  · rfl
  · exact persisted_ok hSaved

theorem upsertKeyRotation_ok (hKnown : rotationContradicts peers rotation = false)
    (hSaved : env.saved = true) : (upsertKeyRotation env peers rotation).2 = .ok () := by
  unfold upsertKeyRotation
  split_ifs with hContradicts
  · rw [hKnown] at hContradicts
    cases hContradicts
  · rfl
  · rfl
  · exact persisted_ok hSaved

end IntelligenceNetwork.Network
