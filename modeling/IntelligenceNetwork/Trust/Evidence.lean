import Mathlib.Data.List.MinMax
import Mathlib.Data.List.Dedup
import Mathlib.Data.Prod.Lex
import IntelligenceNetwork.Lib.KeyedList
import IntelligenceNetwork.Lib.PostcardFormat
import IntelligenceNetwork.Protocol.Validation.Basic

/-
  Signed evidence about other nodes, and what a node makes of
  it.

  A node keeps at most one record for an issuer, a subject and
  a kind, in a list of bounded length.

  Main declarations:
    * `verifySignedEvidence`
    * `EvidenceGraph`
    * `change_insert`
-/

----
-- Evidence
----

namespace IntelligenceNetwork.Trust

open KeyedList

inductive EvidenceKind where
  | jobCompleted
  | evaluation
  | observedOnline
  | artifactVerified
  | endorsement
  | protocolViolation
  | invalidSignature
  | replayAttempt
  | equivocation
  | corruptArtifact
  | corruptCheckpoint
  | capabilityFailure
  | timeout
  | dhtPoisoning
  | trainingUpdateRejected
  | violationReport
  deriving DecidableEq

structure SignedEvidence where
  issuer : NodeId
  issuerPublicKey : PublicKey
  subject : NodeId
  kind : EvidenceKind
  (sequence observedAt expiresAt : UInt64)
  (payload signature : List UInt8)
  deriving DecidableEq

def isNegative : EvidenceKind → Bool
| .protocolViolation | .invalidSignature | .replayAttempt | .equivocation | .corruptArtifact
| .corruptCheckpoint | .capabilityFailure | .timeout | .dhtPoisoning
| .trainingUpdateRejected => true
| _ => false

def isPositive : EvidenceKind → Bool
| .jobCompleted | .evaluation | .observedOnline | .artifactVerified => true
| _ => false

/- Kinds that count as a success in direct dealings. -/
def isSuccess : EvidenceKind → Bool
| .jobCompleted | .evaluation | .artifactVerified => true
| _ => false

/- Kinds that report dealings of the issuer itself. -/
def isDirect : EvidenceKind → Bool
| .endorsement | .violationReport => false
| _ => true

theorem isDirect_of_isNegative (kind : EvidenceKind) (hNegative : isNegative kind = true) :
    isDirect kind = true := by
  cases kind <;> first | rfl | cases hNegative

theorem isDirect_of_isSuccess (kind : EvidenceKind) (hSuccess : isSuccess kind = true) :
    isDirect kind = true := by
  cases kind <;> first | rfl | cases hSuccess

def kindTag : EvidenceKind → Nat
| .jobCompleted => 0
| .evaluation => 1
| .observedOnline => 2
| .artifactVerified => 3
| .endorsement => 4
| .protocolViolation => 5
| .invalidSignature => 6
| .replayAttempt => 7
| .equivocation => 8
| .corruptArtifact => 9
| .corruptCheckpoint => 10
| .capabilityFailure => 11
| .timeout => 12
| .dhtPoisoning => 13
| .trainingUpdateRejected => 14
| .violationReport => 15

----
-- Signatures
----

def maxEvidencePayload : Nat := 8 * 1024

/- Node ids of keys, and signatures that a key accepts. -/
structure Attesting where
  hashing : Hashing
  verify : PublicKey → List UInt8 → List UInt8 → Bool

open PostcardFormat in
/- Everything but the signature, serialized. -/
def evidenceSigningBytes (evidence : SignedEvidence) : List UInt8 :=
  record [fixedBytes 32 evidence.issuer.bytes, fixedBytes 32 evidence.issuerPublicKey,
    fixedBytes 32 evidence.subject.bytes, varint (kindTag evidence.kind),
    varint evidence.sequence.toNat, varint evidence.observedAt.toNat,
    varint evidence.expiresAt.toNat, seq (fun byte => [byte]) evidence.payload]

section

variable (attesting : Attesting)

open Validation in
def signedEvidence (value : SignedEvidence) : Check := do
  rejectIf (value.issuer != attesting.hashing.nodeIdFromPublicKey value.issuerPublicKey ||
    value.expiresAt < value.observedAt) (.invalid "evidence.identity_or_validity")
  rejectIf (value.payload.length > maxEvidencePayload) (.oversized "evidence.payload")
  signature value.signature "evidence.signature"

def verifySignedEvidence (evidence : SignedEvidence) : Bool :=
  (signedEvidence attesting evidence).toBool &&
    evidence.issuer == attesting.hashing.nodeIdFromPublicKey evidence.issuerPublicKey &&
    attesting.verify evidence.issuerPublicKey (evidenceSigningBytes evidence) evidence.signature

end

----
-- Policy and Decisions
----

structure TrustPolicy where
  maxEvidence : Nat := 4096
  maxClockSkewSeconds : UInt64 := 300
  maxEndorsementsPerIssuer : Nat := 32
  maxEndorsementDepth : UInt8 := 1
  establishedDirectSuccesses : Nat := 3
  establishedIndependentIssuers : Nat := 2
  trustedDirectSuccesses : Nat := 5
  trustedIndependentIssuers : Nat := 3
  quarantineNegativeEvidence : Nat := 3
  maxIndirectNegativeInfluence : Nat := 8
  directObservationTtlSeconds : UInt64 := 900

/- The bounds that a graph needs. -/
structure TrustPolicy.Positive (policy : TrustPolicy) : Prop where
  evidence : policy.maxEvidence ≠ 0
  endorsements : policy.maxEndorsementsPerIssuer ≠ 0
  depth : policy.maxEndorsementDepth ≠ 0
  ttl : policy.directObservationTtlSeconds ≠ 0

instance (policy : TrustPolicy) : Decidable policy.Positive :=
  decidable_of_iff (policy.maxEvidence ≠ 0 ∧ policy.maxEndorsementsPerIssuer ≠ 0 ∧
    policy.maxEndorsementDepth ≠ 0 ∧ policy.directObservationTtlSeconds ≠ 0)
    ⟨fun h => ⟨h.1, h.2.1, h.2.2.1, h.2.2.2⟩, fun h => ⟨h.evidence, h.endorsements, h.depth, h.ttl⟩⟩

inductive TrustError where
  | invalid (detail : String)
  | invalidSignature

inductive IdentityMaturity where
  | new
  | observed
  | established
  | trustedLocally
  | degraded
  | quarantined
  deriving DecidableEq

/- Maturities are ordered as they are listed. -/
def IdentityMaturity.rank : IdentityMaturity → Nat
| new => 0
| observed => 1
| established => 2
| trustedLocally => 3
| degraded => 4
| quarantined => 5

instance : LE IdentityMaturity := ⟨fun a b => a.rank ≤ b.rank⟩

instance (a b : IdentityMaturity) : Decidable (a ≤ b) :=
  inferInstanceAs (Decidable (a.rank ≤ b.rank))

def IdentityMaturity.reason : IdentityMaturity → String
| new => "no independent direct evidence"
| observed => "direct evidence exists but has not matured"
| established => "bounded direct evidence from independent issuers"
| trustedLocally => "local policy threshold satisfied"
| degraded => "negative evidence outweighs positive evidence"
| quarantined => "local quarantine policy is active"

structure TrustDecision where
  subject : NodeId
  score : Nat
  maturity : IdentityMaturity
  (directSuccesses directFailures localDirectSuccesses localDirectFailures : Nat)
  (independentIssuers indirectNegativeReports endorsementInfluence : Nat)
  quarantined : Bool
  (acceptedEvidence rejectedEvidence : Nat)
  reason : String

----
-- The List of Evidence
----

/- What there is one record for. -/
def stream (evidence : SignedEvidence) : NodeId × NodeId × EvidenceKind :=
  (evidence.issuer, evidence.subject, evidence.kind)

def supersedes (existing next : SignedEvidence) : Bool :=
  existing.sequence < next.sequence

/- The record with the lowest key goes first. -/
def evictionKey (evidence : SignedEvidence) : Nat ×ₗ Nat ×ₗ Nat :=
  toLex (evidence.expiresAt.toNat, toLex (evidence.observedAt.toNat, evidence.sequence.toNat))

def oldest (entries : List SignedEvidence) : Nat :=
  ((entries.zipIdx.argmin (fun item => evictionKey item.1)).map Prod.snd).getD 0

/- A full list makes room for one more record. -/
def makeRoom (maxEvidence : Nat) (entries : List SignedEvidence) : List SignedEvidence :=
  if entries.length ≥ maxEvidence then entries.eraseIdx (oldest entries) else entries

/- The list after a record has come in, and whether it took. -/
def placeEntry (maxEvidence : Nat) (entries : List SignedEvidence) (evidence : SignedEvidence) :
    List SignedEvidence × Bool :=
  match refresh stream supersedes evidence entries with
  | some result => result
  | none => (makeRoom maxEvidence entries ++ [evidence], true)

section

variable {maxEvidence : Nat} {entries : List SignedEvidence} {evidence : SignedEvidence}

theorem makeRoom_sublist : (makeRoom maxEvidence entries).Sublist entries := by
  rw [makeRoom]
  split_ifs
  · exact List.eraseIdx_sublist _ _
  · exact List.Sublist.refl _

/- The oldest record is one of the list. -/
theorem oldest_lt (hEntries : entries ≠ []) : oldest entries < entries.length := by
  rw [oldest]
  cases hLeast : entries.zipIdx.argmin (fun item => evictionKey item.1) with
  | none =>
    rw [List.argmin_eq_none, List.zipIdx_eq_nil_iff] at hLeast
    exact absurd hLeast hEntries
  | some item =>
    have hItem := List.snd_lt_of_mem_zipIdx (List.argmin_mem hLeast)
    simpa using hItem

theorem length_makeRoom_lt (hPositive : maxEvidence ≠ 0) (hBounded : entries.length ≤ maxEvidence) :
    (makeRoom maxEvidence entries).length < maxEvidence := by
  rw [makeRoom]
  split_ifs with hFull
  · have hEntries : entries ≠ [] := by
      rintro rfl
      rw [List.length_nil] at hFull
      omega
    have hOldest := oldest_lt hEntries
    rw [List.length_eraseIdx_of_lt hOldest]
    omega
  · omega

theorem makeRoom_of_lt (hRoom : entries.length < maxEvidence) :
    makeRoom maxEvidence entries = entries :=
  if_neg (Nat.not_le.mpr hRoom)

/- One record for a stream stays one. -/
theorem nodup_placeEntry (hDistinct : (entries.map stream).Nodup) :
    ((placeEntry maxEvidence entries evidence).1.map stream).Nodup := by
  rw [placeEntry]
  cases hRefresh : refresh stream supersedes evidence entries with
  | some result =>
    rw [map_key_refresh hRefresh]
    exact hDistinct
  | none =>
    have hFresh := refresh_eq_none_iff.mp hRefresh
    refine nodup_append_fresh (hDistinct.sublist (makeRoom_sublist.map stream)) ?_
    intro existing hExisting
    exact hFresh existing (makeRoom_sublist.subset hExisting)

theorem length_placeEntry_le (hPositive : maxEvidence ≠ 0)
    (hBounded : entries.length ≤ maxEvidence) :
    (placeEntry maxEvidence entries evidence).1.length ≤ maxEvidence := by
  rw [placeEntry]
  cases hRefresh : refresh stream supersedes evidence entries with
  | some result =>
    rw [length_refresh hRefresh]
    exact hBounded
  | none =>
    have hRoom := length_makeRoom_lt hPositive hBounded
    rw [List.length_append, List.length_singleton]
    exact hRoom

end

----
-- The Graph
----

structure EvidenceGraph where
  policy : TrustPolicy
  entries : List SignedEvidence
  rejected : Nat
  localIssuer : Option NodeId
  positive : policy.Positive
  distinct : (entries.map stream).Nodup
  bounded : entries.length ≤ policy.maxEvidence

namespace EvidenceGraph

def new (policy : TrustPolicy) : Except TrustError EvidenceGraph :=
  if hPositive : policy.Positive then
    .ok {
      policy := policy
      entries := []
      rejected := 0
      localIssuer := none
      positive := hPositive
      distinct := List.nodup_nil
      bounded := Nat.zero_le _ }
  else
    .error (.invalid "trust bounds must be positive")

def reject (graph : EvidenceGraph) : EvidenceGraph :=
  { graph with rejected := min Saturating.maxU64.toNat (graph.rejected + 1) }

def place (graph : EvidenceGraph) (evidence : SignedEvidence) : EvidenceGraph :=
  { graph with
    entries := (placeEntry graph.policy.maxEvidence graph.entries evidence).1
    distinct := nodup_placeEntry graph.distinct
    bounded := length_placeEntry_le graph.positive.evidence graph.bounded }

section

variable (attesting : Attesting) (graph : EvidenceGraph)

/- Evidence that is well formed, live, not too early and signed. -/
def admits (evidence : SignedEvidence) (now : UInt64) : Bool :=
  !(!(signedEvidence attesting evidence).toBool || evidence.expiresAt < now ||
    evidence.observedAt > Saturating.add now graph.policy.maxClockSkewSeconds ||
    !verifySignedEvidence attesting evidence)

def insert (evidence : SignedEvidence) (now : UInt64) : EvidenceGraph × Except TrustError Bool :=
  if graph.admits attesting evidence now then
    if (placeEntry graph.policy.maxEvidence graph.entries evidence).2 then
      (graph.place evidence, .ok true)
    else
      (graph.reject, .ok false)
  else
    (graph.reject, .error .invalidSignature)

end

section

variable (attesting : Attesting) (graph : EvidenceGraph) (evidence : SignedEvidence) (now : UInt64)

/-
  What an insert can do to the list: it leaves it, puts a newer
  record in the place of its stream, or adds one at the end.
-/
inductive Change : List SignedEvidence → Prop
  | refused (hRefused : graph.admits attesting evidence now = false) : Change graph.entries
  | stale {existing : SignedEvidence} (hExisting : existing ∈ graph.entries)
    (hStream : stream existing = stream evidence)
    (hStale : evidence.sequence ≤ existing.sequence) : Change graph.entries
  | renewed {before rest : List SignedEvidence} {existing : SignedEvidence}
    (hAdmits : graph.admits attesting evidence now = true)
    (hEntries : graph.entries = before ++ existing :: rest)
    (hStream : stream existing = stream evidence)
    (hNewer : existing.sequence < evidence.sequence) : Change (before ++ evidence :: rest)
  | added (hAdmits : graph.admits attesting evidence now = true)
    (hFresh : ∀ existing ∈ graph.entries, stream existing ≠ stream evidence) :
    Change (makeRoom graph.policy.maxEvidence graph.entries ++ [evidence])

theorem change_insert :
    Change attesting graph evidence now (graph.insert attesting evidence now).1.entries := by
  rw [insert]
  split_ifs with hAdmits hTook
  · change Change attesting graph evidence now
      (placeEntry graph.policy.maxEvidence graph.entries evidence).1
    rw [placeEntry] at hTook ⊢
    cases hRefresh : refresh stream supersedes evidence graph.entries with
    | none => exact .added hAdmits (refresh_eq_none_iff.mp hRefresh)
    | some result =>
      rcases refresh_cases hRefresh with
        ⟨before, existing, rest, hEntries, hStream, -, hChanged, hAfter⟩
      rw [hRefresh] at hTook
      rw [hChanged] at hTook
      rw [hAfter, if_pos hTook]
      exact .renewed hAdmits hEntries hStream (of_decide_eq_true hTook)
  · rw [placeEntry] at hTook
    cases hRefresh : refresh stream supersedes evidence graph.entries with
    | none =>
      rw [hRefresh] at hTook
      exact absurd rfl hTook
    | some result =>
      rcases refresh_cases hRefresh with ⟨before, existing, rest, hEntries, hStream, -, hChanged, -⟩
      rw [hRefresh] at hTook
      rw [hChanged, supersedes, decide_eq_true_iff, UInt64.not_lt] at hTook
      exact .stale (by rw [hEntries]; simp) hStream hTook
  · exact .refused (Bool.eq_false_iff.mpr hAdmits)

end

----
-- Decisions
----

section

variable (graph : EvidenceGraph) (subject : NodeId) (now : UInt64)

def live : List SignedEvidence :=
  graph.entries.filter (fun item => item.subject == subject && item.expiresAt ≥ now)

def direct : List SignedEvidence :=
  (graph.live subject now).filter (fun item => isDirect item.kind)

/- Without a local issuer, everything counts as local. -/
def isLocal (item : SignedEvidence) : Bool :=
  match graph.localIssuer with
  | none => true
  | some issuer => item.issuer == issuer

/- Whether some other node has live positive evidence on it. -/
def endorserHasDirect (endorser : NodeId) : Bool :=
  graph.entries.any (fun candidate =>
    candidate.subject == endorser && candidate.issuer != endorser &&
      candidate.expiresAt ≥ now && isPositive candidate.kind)

/-
  The endorsers that count, in the order of the loop.  Each of
  them adds one accepted endorsement.
-/
def acceptEndorsers : List NodeId → List SignedEvidence → List NodeId
| endorsers, [] => endorsers
| endorsers, item :: items =>
  if item.issuer == subject || endorsers.contains item.issuer ||
      endorsers.length ≥ graph.policy.maxEndorsementsPerIssuer then
    acceptEndorsers endorsers items
  else if graph.endorserHasDirect now item.issuer then
    acceptEndorsers (endorsers ++ [item.issuer]) items
  else
    acceptEndorsers endorsers items

def endorsers : List NodeId :=
  graph.acceptEndorsers subject now []
    ((graph.live subject now).filter (fun item => item.kind == .endorsement))

def independentIssuers : List NodeId :=
  (((graph.direct subject now).map SignedEvidence.issuer).filter
    (fun issuer => issuer != subject)).dedup

end

def saturatingAdd (a b : Nat) : Nat :=
  min Saturating.maxU64.toNat (a + b)

def saturatingMul (a b : Nat) : Nat :=
  min Saturating.maxU64.toNat (a * b)

def positiveScore (localSuccesses remoteSuccesses issuers endorsements : Nat) : Nat :=
  saturatingAdd
    (saturatingAdd
      (saturatingAdd (saturatingMul localSuccesses 15) (saturatingMul remoteSuccesses 5))
      (saturatingMul issuers 10))
    (saturatingMul endorsements 3)

def negativeScore (localFailures remoteFailures reports : Nat) : Nat :=
  saturatingAdd (saturatingAdd (saturatingMul localFailures 20) (saturatingMul remoteFailures 5))
    (saturatingMul reports 2)

def maturity (policy : TrustPolicy)
    (positive negative successes failures issuers directRecords : Nat) : IdentityMaturity :=
  if failures ≥ policy.quarantineNegativeEvidence then
    .quarantined
  else if negative > positive ∧ (failures > 0 ∨ successes > 0) then
    .degraded
  else if successes ≥ policy.trustedDirectSuccesses ∧
    issuers ≥ policy.trustedIndependentIssuers then
    .trustedLocally
  else if successes ≥ policy.establishedDirectSuccesses ∧
    issuers ≥ policy.establishedIndependentIssuers then
    .established
  else if directRecords ≠ 0 then
    .observed
  else
    .new

def decision (graph : EvidenceGraph) (subject : NodeId) (now : UInt64) : TrustDecision :=
  let live := graph.live subject now
  let direct := graph.direct subject now
  let directSuccesses := direct.countP (fun item => isSuccess item.kind)
  let directFailures := direct.countP (fun item => isNegative item.kind)
  let localDirectSuccesses := direct.countP (fun item => graph.isLocal item && isSuccess item.kind)
  let localDirectFailures := direct.countP (fun item => graph.isLocal item && isNegative item.kind)
  let indirectNegativeReports :=
    min (live.countP (fun item => item.kind == .violationReport))
      graph.policy.maxIndirectNegativeInfluence
  let independentIssuers := (graph.independentIssuers subject now).length
  let acceptedEndorsements := (graph.endorsers subject now).length
  let positiveScore := positiveScore localDirectSuccesses (directSuccesses - localDirectSuccesses)
    independentIssuers acceptedEndorsements
  let negativeScore := negativeScore localDirectFailures (directFailures - localDirectFailures)
    indirectNegativeReports
  let maturity := maturity graph.policy positiveScore negativeScore directSuccesses directFailures
    independentIssuers direct.length
  {
    subject := subject
    score := min (positiveScore - negativeScore) 100
    maturity := maturity
    directSuccesses := directSuccesses
    directFailures := directFailures
    localDirectSuccesses := localDirectSuccesses
    localDirectFailures := localDirectFailures
    independentIssuers := independentIssuers
    indirectNegativeReports := indirectNegativeReports
    endorsementInfluence := acceptedEndorsements
    quarantined := decide (directFailures ≥ graph.policy.quarantineNegativeEvidence)
    acceptedEvidence := saturatingAdd direct.length acceptedEndorsements
    rejectedEvidence := graph.rejected
    reason := maturity.reason }

end EvidenceGraph

----
-- A Small Setting
----

/- Keys are their own node ids, and anything is a signature. -/
def plainKeys : Attesting where
  hashing := {
    nodeIdFromPublicKey := fun key => ⟨key⟩
    artifactIdFromBytesHashed := fun _ => ⟨0⟩ }
  verify := fun _ _ _ => true

/- A record that its issuer has signed there. -/
def plainEvidence (issuer subject : NodeId) (kind : EvidenceKind) (sequence expiresAt : UInt64) :
    SignedEvidence where
  issuer := issuer
  issuerPublicKey := issuer.bytes
  subject := subject
  kind := kind
  sequence := sequence
  observedAt := 10
  expiresAt := expiresAt
  payload := []
  signature := List.replicate 64 0

/- A graph of the node with id 1, without any record. -/
def emptyGraph (policy : TrustPolicy) (hPositive : policy.Positive) : EvidenceGraph where
  policy := policy
  entries := []
  rejected := 0
  localIssuer := some ⟨1⟩
  positive := hPositive
  distinct := List.nodup_nil
  bounded := Nat.zero_le _

end IntelligenceNetwork.Trust
