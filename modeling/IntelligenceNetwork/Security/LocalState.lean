import IntelligenceNetwork.Lib.OrderedMap
import IntelligenceNetwork.Protocol.Validation.Basic

/-
  The local security ledger of a node.

  A second, different value for the same key is taken as
  equivocation, and puts its sender into quarantine.  An entry
  that does not fit pushes out the one with the smallest key.

  Main declarations:
    * `observeAuthenticatedClaim`
    * `admitTrainingUpdate`
    * `Admission`
-/

----
-- Policy, Events and Errors
----

namespace IntelligenceNetwork.Security

open OrderedMap

variable {digest : ArtifactId} {now : UInt64}

def maxSecurityDetail : Nat := 256
def maxSecurityScope : Nat := 128
def maxClaimKey : Nat := 128

/- The bounds that the two ledgers read. -/
structure SecurityPolicy where
  maxEvents : Nat := 2048
  maxReplayEntries : Nat := 4096
  maxClaims : Nat := 2048
  quarantineSeconds : UInt64 := 300
  maxTrainingValue : Int := 100 * 1000000

inductive SecurityEventKind where
  | replayRejected
  | staleStateRejected
  | duplicateContributionRejected
  | equivocationDetected
  | invalidStateRejected
  | artifactCorrupt
  | checkpointCorrupt
  | optimizerStateRejected
  | capabilityFailed
  | trainingUpdateRejected
  | evaluatorDisagreement
  | evaluatorSelection
  | dhtPoisoningRejected
  | resourceRateLimited
  | peerQuarantined
  deriving DecidableEq

structure SecurityEvent where
  (sequence observedAt : UInt64)
  subject : Option NodeId
  kind : SecurityEventKind
  (scope detail : String)

/- The errors of the two ledgers. -/
inductive SecurityError where
  | invalidRecord (detail : String)
  | unauthorizedTraining
  | staleTraining
  | duplicateTraining
  | trainingEquivocation
  | quarantined
  | trainingBounds
  deriving DecidableEq

def SecurityError.text : SecurityError → String
| invalidRecord detail => s!"security record is malformed: {detail}"
| unauthorizedTraining => "training contributor is not authorized for this group"
| staleTraining => "training contribution is stale"
| duplicateTraining => "training contribution is a duplicate"
| trainingEquivocation => "training contributor equivocated"
| quarantined => "peer is locally quarantined"
| trainingBounds => "training contribution exceeds the local safety bound"

structure TrainingContribution where
  jobId : JobId
  worker : NodeId
  branch : ArtifactId
  (planGeneration generation sequence : UInt64)
  values : List Int
  deriving DecidableEq

structure TrainingContext where
  jobId : JobId
  branch : ArtifactId
  (planGeneration generation : UInt64)

inductive TrainingAdmission where
  | accepted
  | duplicate
  deriving DecidableEq

----
-- Keys
----

structure ReplayKey where
  jobId : JobId
  worker : NodeId
  branch : ArtifactId
  (generation sequence : UInt64)
  deriving DecidableEq

structure StreamKey where
  jobId : JobId
  worker : NodeId
  branch : ArtifactId
  deriving DecidableEq

structure ClaimKey where
  signer : NodeId
  object : String
  jobId : Option JobId
  branch : Option ArtifactId
  (generation sequence : UInt64)
  deriving DecidableEq

/- Keys are ordered field by field. -/
def ReplayKey.order : ReplayKey → ReplayKey → Ordering :=
  compareLex (compareOn ReplayKey.jobId) (compareLex (compareOn ReplayKey.worker)
    (compareLex (compareOn ReplayKey.branch)
      (compareLex (compareOn ReplayKey.generation) (compareOn ReplayKey.sequence))))

def StreamKey.order : StreamKey → StreamKey → Ordering :=
  compareLex (compareOn StreamKey.jobId)
    (compareLex (compareOn StreamKey.worker) (compareOn StreamKey.branch))

def ClaimKey.order : ClaimKey → ClaimKey → Ordering :=
  compareLex (compareOn ClaimKey.signer) (compareLex (compareOn ClaimKey.object)
    (compareLex (compareOn ClaimKey.jobId) (compareLex (compareOn ClaimKey.branch)
      (compareLex (compareOn ClaimKey.generation) (compareOn ClaimKey.sequence)))))

instance : Ord ReplayKey := ⟨ReplayKey.order⟩
instance : Ord StreamKey := ⟨StreamKey.order⟩
instance : Ord ClaimKey := ⟨ClaimKey.order⟩

instance : Std.TransOrd ReplayKey :=
  inferInstanceAs (Std.TransCmp (compareLex _ _))

instance : Std.TransOrd StreamKey :=
  inferInstanceAs (Std.TransCmp (compareLex _ _))

instance : Std.TransOrd ClaimKey :=
  inferInstanceAs (Std.TransCmp (compareLex _ _))

instance : Std.LawfulEqOrd ReplayKey where
  eq_of_compare := by
    intro a b hEq
    have hOrder : ReplayKey.order a b = .eq := hEq
    simp only [ReplayKey.order, compareLex_eq_eq, compareOn] at hOrder
    cases a
    cases b
    simp_all

instance : Std.LawfulEqOrd StreamKey where
  eq_of_compare := by
    intro a b hEq
    have hOrder : StreamKey.order a b = .eq := hEq
    simp only [StreamKey.order, compareLex_eq_eq, compareOn] at hOrder
    cases a
    cases b
    simp_all

instance : Std.LawfulEqOrd ClaimKey where
  eq_of_compare := by
    intro a b hEq
    have hOrder : ClaimKey.order a b = .eq := hEq
    simp only [ClaimKey.order, compareLex_eq_eq, compareOn] at hOrder
    cases a
    cases b
    simp_all

----
-- The Ledger
----

structure LocalSecurityState where
  policy : SecurityPolicy
  events : List SecurityEvent
  (replay rejectedReplay : Std.TreeMap ReplayKey ArtifactId)
  latest : Std.TreeMap StreamKey (UInt64 × UInt64)
  contexts : Std.TreeMap JobId TrainingContext
  authenticatedClaims : Std.TreeMap ClaimKey ArtifactId
  quarantined : Std.TreeMap NodeId UInt64
  nextEventSequence : UInt64

def LocalSecurityState.new (policy : SecurityPolicy) : LocalSecurityState where
  policy := policy
  events := []
  replay := ∅
  rejectedReplay := ∅
  latest := ∅
  contexts := ∅
  authenticatedClaims := ∅
  quarantined := ∅
  nextEventSequence := 1

/- What a ledger function returns, with the ledger after it. -/
structure Checked (α : Type) where
  result : Except SecurityError α
  security : LocalSecurityState

def truncate (value : String) (max : Nat) : String :=
  String.ofList (value.toList.take max)

/- A bounded list of distinct events, the oldest dropped. -/
def event (security : LocalSecurityState) (observedAt : UInt64) (subject : Option NodeId)
    (kind : SecurityEventKind) (scope detail : String) : LocalSecurityState :=
  let scope := truncate scope maxSecurityScope
  let detail := truncate detail maxSecurityDetail
  if security.events.any (fun event =>
    event.subject == subject && event.kind == kind &&
      event.scope == scope && event.detail == detail) then
    security
  else
    let kept :=
      if security.policy.maxEvents ≤ security.events.length then
        security.events.drop 1
      else
        security.events
    { security with
      events := kept ++ [⟨security.nextEventSequence, observedAt, subject, kind, scope, detail⟩]
      nextEventSequence := Saturating.add security.nextEventSequence 1 }

def quarantine (security : LocalSecurityState) (peer : NodeId) (now : UInt64)
    (kind : SecurityEventKind) (detail : String) : LocalSecurityState :=
  let until_ := Saturating.add now security.policy.quarantineSeconds
  let until_ :=
    match security.quarantined[peer]? with
    | none => until_
    | some value => max value until_
  let security :=
    { security with quarantined := security.quarantined.insert peer until_ }
  let security := event security now (some peer) kind "quarantine" detail
  event security now (some peer) .peerQuarantined "quarantine"
    "local quarantine applied; no network-wide ban was published"

variable (security : LocalSecurityState)

/- Quarantines that are over are dropped first. -/
def isQuarantined (peer : NodeId) (now : UInt64) : Bool × LocalSecurityState :=
  let quarantined := security.quarantined.filter (fun _ until_ => now ≤ until_)
  (quarantined[peer]?.any (fun until_ => now ≤ until_),
    { security with quarantined := quarantined })

def observeContext (context : TrainingContext) (now : UInt64) : Checked Unit :=
  if context.jobId = default ∨ context.branch = default ∨ context.planGeneration = 0 ∨
    context.generation = 0 then
    ⟨.error (.invalidRecord "training context lineage is incomplete"),
      event security now none .invalidStateRejected
        "training_context" "zero or missing lineage field"⟩
  else
    let fresh : Checked Unit := ⟨.ok (),
      { security with contexts := security.contexts.insert context.jobId context }⟩
    match security.contexts[context.jobId]? with
    | none => fresh
    | some previous =>
      if context.planGeneration < previous.planGeneration ∨
        context.generation < previous.generation then
        ⟨.error .staleTraining, event security now none .staleStateRejected "training_context"
          "older plan or model generation"⟩
      else if context.planGeneration = previous.planGeneration ∧
        context.generation = previous.generation ∧ context.branch ≠ previous.branch then
        ⟨.error .trainingEquivocation, event security now none .equivocationDetected
          "training_context" "conflicting branch at the same generation"⟩
      else
        fresh

----
-- Contributions
----

def replayKey (contribution : TrainingContribution) : ReplayKey where
  jobId := contribution.jobId
  worker := contribution.worker
  branch := contribution.branch
  generation := contribution.generation
  sequence := contribution.sequence

def contributionBounded (policy : SecurityPolicy) (contribution : TrainingContribution) : Bool :=
  contribution.jobId != default && contribution.branch != default &&
    contribution.planGeneration != 0 && contribution.generation != 0 &&
    contribution.sequence != 0 && !contribution.values.isEmpty &&
    contribution.values.length ≤ maxV4Vector && contribution.values.all (fun value =>
      value.natAbs ≤ policy.maxTrainingValue.natAbs)

/- The latest admitted position of the stream is later. -/
def behindStream (contribution : TrainingContribution) : Bool :=
  security.latest[(⟨contribution.jobId, contribution.worker,
    contribution.branch⟩ : StreamKey)]?.any (fun latest =>
      contribution.generation < latest.1 ||
        (contribution.generation == latest.1 && contribution.sequence < latest.2))

/- The last checks, on a contribution that is not a replay. -/
def admitFresh (digest : ArtifactId) (contribution : TrainingContribution)
    (now : UInt64) : Checked TrainingAdmission :=
  let key := replayKey contribution
  if behindStream security contribution then
    ⟨.error .staleTraining, event security now (some contribution.worker)
      .staleStateRejected "training_update" "older generation or sequence"⟩
  else if security.replay[key]?.isSome then
    let rejected := bound security.rejectedReplay security.policy.maxReplayEntries
    ⟨.error .trainingEquivocation, quarantine
      { security with rejectedReplay := rejected.insertIfNew key digest }
      contribution.worker now .equivocationDetected
      "same contribution sequence carried different values"⟩
  else
    ⟨.ok .accepted, { security with
      replay := (bound security.replay security.policy.maxReplayEntries).insert key digest
      latest := security.latest.insert
        ⟨contribution.jobId, contribution.worker, contribution.branch⟩
        (contribution.generation, contribution.sequence) }⟩

def admitTrainingUpdate (contributionDigest : TrainingContribution → ArtifactId)
    (security : LocalSecurityState) (contribution : TrainingContribution) (members : List NodeId)
    (now : UInt64) : Checked TrainingAdmission :=
  let digest := contributionDigest contribution
  let key := replayKey contribution
  if contribution.worker ∉ members then
    ⟨.error .unauthorizedTraining, event security now (some contribution.worker)
      .trainingUpdateRejected "training_update"
      "worker is outside the authenticated job membership"⟩
  else if !contributionBounded security.policy contribution then
    ⟨.error .trainingBounds, event security now (some contribution.worker)
      .trainingUpdateRejected "training_update" "lineage, vector, or magnitude bound failed"⟩
  else if security.replay[key]? = some digest ∨ security.rejectedReplay[key]? = some digest then
    ⟨.error .duplicateTraining, event security now (some contribution.worker)
      .duplicateContributionRejected "training_update"
      "same signed contribution was submitted twice"⟩
  else
    let (held, security) := isQuarantined security contribution.worker now
    if held then
      ⟨.error .quarantined, event security now (some contribution.worker)
        .trainingUpdateRejected "training_update" "worker is locally quarantined"⟩
    else
      let checked := observeContext security ⟨contribution.jobId, contribution.branch,
        contribution.planGeneration, contribution.generation⟩
        now
      match checked.result with
      | .error error => ⟨.error error, checked.security⟩
      | .ok () => admitFresh checked.security digest contribution now

----
-- Claims of Authenticated Peers
----

/- A claim that a peer makes by sending a state record. -/
structure AuthenticatedClaim where
  key : ClaimKey
  digest : ArtifactId

def AuthenticatedClaim.bounded (claim : AuthenticatedClaim) : Bool :=
  claim.key.signer != default && claim.key.object != "" &&
    claim.key.object.utf8ByteSize ≤ maxClaimKey && claim.key.generation != 0 &&
    claim.key.sequence != 0 && claim.digest != default

/- A full ledger loses the claim with the smallest key. -/
def makeRoom : Std.TreeMap ClaimKey ArtifactId :=
  if security.policy.maxClaims ≤ security.authenticatedClaims.size then
    match security.authenticatedClaims.minKey? with
    | none => security.authenticatedClaims
    | some key => security.authenticatedClaims.erase key
  else
    security.authenticatedClaims

def observeAuthenticatedClaim (claim : AuthenticatedClaim) (now : UInt64) : Checked Bool :=
  if !claim.bounded then
    ⟨.error (.invalidRecord "authenticated state claim bounds are invalid"),
      event security now (some claim.key.signer) .invalidStateRejected "authenticated_claim"
        "state claim bounds are invalid"⟩
  else
    match security.authenticatedClaims[claim.key]? with
    | some previous =>
      if previous = claim.digest then
        ⟨.ok false, security⟩
      else
        ⟨.error .trainingEquivocation, quarantine security claim.key.signer now
          .equivocationDetected
          "authenticated peer sent conflicting state for one generation and sequence"⟩
    | none =>
      ⟨.ok true,
        { security with authenticatedClaims := (makeRoom security).insert claim.key claim.digest }⟩

----
-- What a Claim Does to the Ledger
----

/- An event changes neither ledger and frees nobody. -/
theorem event_ledger (now : UInt64) (subject : Option NodeId)
    (kind : SecurityEventKind) (scope detail : String) :
    (event security now subject kind scope detail).authenticatedClaims =
      security.authenticatedClaims ∧
      (event security now subject kind scope detail).quarantined = security.quarantined ∧
      (event security now subject kind scope detail).policy = security.policy := by
  unfold event
  dsimp only
  split_ifs
  all_goals exact ⟨rfl, rfl, rfl⟩

/- Making room only takes claims away. -/
theorem getElem?_makeRoom {key : ClaimKey} (hGet : (makeRoom security)[key]? = some digest) :
    security.authenticatedClaims[key]? = some digest := by
  unfold makeRoom at hGet
  split_ifs at hGet with hFull
  · split at hGet
    · exact hGet
    · exact getElem?_of_erase hGet
  · exact hGet

/- What observing a claim comes to. -/
inductive Observed (security : LocalSecurityState) (claim : AuthenticatedClaim)
    (checked : Checked Bool) : Prop
  | refused (hBounds : claim.bounded = false) (hResult : checked.result =
    .error (.invalidRecord "authenticated state claim bounds are invalid"))
    (hClaims : checked.security.authenticatedClaims = security.authenticatedClaims)
    (hQuarantined : checked.security.quarantined = security.quarantined)
  | repeated (hBounds : claim.bounded = true)
    (hKnown : security.authenticatedClaims[claim.key]? = some claim.digest)
    (hChecked : checked = ⟨.ok false, security⟩)
  | conflicting (previous : ArtifactId) (hBounds : claim.bounded = true)
    (hKnown : security.authenticatedClaims[claim.key]? = some previous)
    (hOther : previous ≠ claim.digest) (hResult : checked.result = .error .trainingEquivocation)
    (hClaims : checked.security.authenticatedClaims = security.authenticatedClaims)
  | fresh (hBounds : claim.bounded = true)
    (hUnknown : security.authenticatedClaims[claim.key]? = none) (hChecked : checked = ⟨.ok true,
      { security with
        authenticatedClaims := (makeRoom security).insert claim.key claim.digest }⟩)

section

variable (claim : AuthenticatedClaim) (now : UInt64)

theorem observeClaim_cases :
    Observed security claim (observeAuthenticatedClaim security claim now) := by
  unfold observeAuthenticatedClaim
  cases hBounds : claim.bounded with
  | false =>
    have hEvent := event_ledger security now (some claim.key.signer)
      .invalidStateRejected "authenticated_claim" "state claim bounds are invalid"
    exact .refused hBounds rfl hEvent.1 hEvent.2.1
  | true =>
    rw [if_neg (by simp)]
    cases hKnown : security.authenticatedClaims[claim.key]? with
    | none => exact .fresh hBounds hKnown rfl
    | some previous =>
      dsimp only
      split_ifs with hSame
      · exact .repeated hBounds (hSame ▸ hKnown) rfl
      · refine .conflicting previous hBounds hKnown hSame rfl ?_
        unfold quarantine
        rw [(event_ledger _ _ _ _ _ _).1, (event_ledger _ _ _ _ _ _).1]

/- A claim in the ledger was there or has just been made. -/
theorem getElem?_observeClaim (key : ClaimKey) (digest : ArtifactId)
    (hGet : (observeAuthenticatedClaim security claim now).security.authenticatedClaims[key]? =
      some digest) :
    security.authenticatedClaims[key]? = some digest ∨
      (key = claim.key ∧ digest = claim.digest) := by
  cases observeClaim_cases security claim now with
  | refused hBounds hResult hClaims _ =>
    rw [hClaims] at hGet
    exact Or.inl hGet
  | repeated hBounds hKnown hChecked =>
    rw [hChecked] at hGet
    exact Or.inl hGet
  | conflicting previous hBounds _ _ _ hClaims =>
    rw [hClaims] at hGet
    exact Or.inl hGet
  | fresh _ _ hChecked =>
    rw [hChecked] at hGet
    rcases getElem?_of_insert hGet with ⟨rfl, rfl⟩ | hOld
    · exact Or.inr ⟨rfl, rfl⟩
    · exact Or.inl (getElem?_makeRoom security hOld)

/- A claim is admitted where no other stands in its place. -/
theorem observeClaim_isOk (hBounds : claim.bounded = true)
    (hAgrees : ∀ previous, security.authenticatedClaims[claim.key]? = some previous →
      previous = claim.digest) :
    ∃ fresh, (observeAuthenticatedClaim security claim now).result = .ok fresh := by
  cases observeClaim_cases security claim now with
  | refused hRefused hResult hClaims _ =>
    rw [hBounds] at hRefused
    cases hRefused
  | repeated _ hKnown hChecked => exact ⟨false, by rw [hChecked]⟩
  | conflicting previous _ hKnown hOther _ _ =>
    exact absurd (hAgrees previous hKnown) hOther
  | fresh _ _ hChecked => exact ⟨true, by rw [hChecked]⟩

end

----
-- What a Contribution Does to the Ledger
----

/- The two ledgers and what they are read with are the same. -/
structure SameLedger (security next : LocalSecurityState) : Prop where
  policy : next.policy = security.policy
  replay : next.replay = security.replay
  rejectedReplay : next.rejectedReplay = security.rejectedReplay
  latest : next.latest = security.latest
  contexts : next.contexts = security.contexts
  authenticatedClaims : next.authenticatedClaims = security.authenticatedClaims

theorem SameLedger.refl : SameLedger security security :=
  ⟨rfl, rfl, rfl, rfl, rfl, rfl⟩

theorem SameLedger.trans {security next last : LocalSecurityState}
    (hFirst : SameLedger security next) (hSecond : SameLedger next last) :
    SameLedger security last :=
  ⟨hSecond.policy.trans hFirst.policy, hSecond.replay.trans hFirst.replay,
    hSecond.rejectedReplay.trans hFirst.rejectedReplay, hSecond.latest.trans hFirst.latest,
    hSecond.contexts.trans hFirst.contexts,
    hSecond.authenticatedClaims.trans hFirst.authenticatedClaims⟩

theorem event_sameLedger (now : UInt64) (subject : Option NodeId)
    (kind : SecurityEventKind) (scope detail : String) :
    SameLedger security (event security now subject kind scope detail) := by
  unfold event
  dsimp only
  split_ifs
  · exact .refl security
  · exact ⟨rfl, rfl, rfl, rfl, rfl, rfl⟩
  · exact ⟨rfl, rfl, rfl, rfl, rfl, rfl⟩

/- The ledger without the quarantines that are over. -/
def expire (now : UInt64) : LocalSecurityState :=
  { security with quarantined := security.quarantined.filter (fun _ until_ => now ≤ until_) }

def contextOf (contribution : TrainingContribution) : TrainingContext :=
  ⟨contribution.jobId, contribution.branch, contribution.planGeneration, contribution.generation⟩

def streamKey (contribution : TrainingContribution) : StreamKey :=
  ⟨contribution.jobId, contribution.worker, contribution.branch⟩

/- What the ledger becomes with one more contribution. -/
def enterContribution (digest : ArtifactId) (contribution : TrainingContribution) :
    LocalSecurityState :=
  { security with
    contexts := security.contexts.insert contribution.jobId (contextOf contribution)
    replay := (bound security.replay security.policy.maxReplayEntries).insert
      (replayKey contribution) digest
    latest := security.latest.insert (streamKey contribution)
      (contribution.generation, contribution.sequence) }

/- A context that may come after another of its job. -/
def Precedes (previous context : TrainingContext) : Prop :=
  previous.planGeneration ≤ context.planGeneration ∧ previous.generation ≤ context.generation ∧
    (previous.planGeneration = context.planGeneration →
      previous.generation = context.generation → previous.branch = context.branch)

instance (previous context : TrainingContext) : Decidable (Precedes previous context) :=
  inferInstanceAs (Decidable (_ ∧ _))

/- The ledger that the last checks find. -/
def withContext (security : LocalSecurityState) (contribution : TrainingContribution)
    (now : UInt64) : LocalSecurityState :=
  { expire security now with
    contexts := security.contexts.insert contribution.jobId (contextOf contribution) }

/- The first conflicting contribution is kept with it. -/
def withConflict (security : LocalSecurityState) (digest : ArtifactId)
    (contribution : TrainingContribution) (now : UInt64) : LocalSecurityState :=
  { withContext security contribution now with
    rejectedReplay := (bound security.rejectedReplay
      security.policy.maxReplayEntries).insertIfNew (replayKey contribution) digest }

section

variable (security : LocalSecurityState) (digest : ArtifactId)
variable (contribution : TrainingContribution) (members : List NodeId) (now : UInt64)

/- A contribution that gets to the last checks. -/
@[mk_iff] structure Reaches : Prop where
  member : contribution.worker ∈ members
  bounds : contributionBounded security.policy contribution = true
  fresh : security.replay[replayKey contribution]? ≠ some digest ∧
    security.rejectedReplay[replayKey contribution]? ≠ some digest
  free : (isQuarantined security contribution.worker now).1 = false
  context : ∀ previous ∈ security.contexts[contribution.jobId]?,
    Precedes previous (contextOf contribution)

instance : Decidable (Reaches security digest contribution members now) :=
  decidable_of_iff' _ (reaches_iff security digest contribution members now)

/- Why a contribution does not get there, and the error for it. -/
inductive Refusal : SecurityError → Prop
  | unauthorized (hMember : contribution.worker ∉ members) : Refusal .unauthorizedTraining
  | unbounded (hBounds : contributionBounded security.policy contribution = false) :
    Refusal .trainingBounds
  | repeated (hKnown : security.replay[replayKey contribution]? = some digest ∨
    security.rejectedReplay[replayKey contribution]? = some digest) : Refusal .duplicateTraining
  | held (hFresh : security.replay[replayKey contribution]? ≠ some digest ∧
    security.rejectedReplay[replayKey contribution]? ≠ some digest)
    (hHeld : (isQuarantined security contribution.worker now).1 = true) : Refusal .quarantined
  | lineage (error : SecurityError) (previous : TrainingContext)
    (hPrevious : security.contexts[contribution.jobId]? = some previous)
    (hOlder : ¬ Precedes previous (contextOf contribution)) : Refusal error

/-
  What a contribution comes to: it is refused and both ledgers
  stay as they are, it conflicts with an admitted one and its
  worker is put into quarantine, or it is entered.
-/
inductive Admission (checked : Checked TrainingAdmission) : Prop
  | refused (error : SecurityError)
    (hRefusal : Refusal security digest contribution members now error)
    (hResult : checked.result = .error error) (hLedger : SameLedger security checked.security)
    (hQuarantined : checked.security.quarantined = security.quarantined ∨
      checked.security.quarantined = (expire security now).quarantined)
  | behind (hReaches : Reaches security digest contribution members now)
    (hBehind : behindStream security contribution = true)
    (hResult : checked.result = .error .staleTraining)
    (hLedger : SameLedger (withContext security contribution now) checked.security)
    (hQuarantined : checked.security.quarantined = (expire security now).quarantined)
  | equivocation (hReaches : Reaches security digest contribution members now)
    (other : ArtifactId) (hBehind : behindStream security contribution = false)
    (hKnown : security.replay[replayKey contribution]? = some other) (hOther : other ≠ digest)
    (hChecked : checked = ⟨.error .trainingEquivocation,
      quarantine (withConflict security digest contribution now) contribution.worker now
        .equivocationDetected "same contribution sequence carried different values"⟩)
  | entered (hReaches : Reaches security digest contribution members now)
    (hBehind : behindStream security contribution = false)
    (hUnknown : security.replay[replayKey contribution]? = none) (hChecked : checked =
      ⟨.ok .accepted, enterContribution (expire security now) digest contribution⟩)

end

variable {contribution : TrainingContribution}

theorem Refusal.not_reaches {security : LocalSecurityState} {members : List NodeId}
    {error : SecurityError} (hRefusal : Refusal security digest contribution members now error) :
    ¬ Reaches security digest contribution members now := by
  intro hReaches
  cases hRefusal with
  | unauthorized hMember => exact hMember hReaches.member
  | unbounded hBounds => simp [hReaches.bounds] at hBounds
  | repeated hKnown => exact not_or.mpr hReaches.fresh hKnown
  | held _ hHeld => simp [hReaches.free] at hHeld
  | lineage _ previous hPrevious hOlder => exact hOlder (hReaches.context previous hPrevious)

/- The last checks, once the context of the job is known. -/
theorem admitFresh_cases {security : LocalSecurityState} {members : List NodeId}
    (hReaches : Reaches security digest contribution members now) :
    Admission security digest contribution members now
      (admitFresh (withContext security contribution now) digest contribution now) := by
  unfold admitFresh
  dsimp only
  split_ifs with hBehind hKnown
  · exact .behind hReaches hBehind rfl (event_sameLedger _ _ _ _ _ _) (event_ledger _ _ _ _ _ _).2.1
  · rcases Option.isSome_iff_exists.mp hKnown with ⟨other, hOther⟩
    refine .equivocation hReaches other (Bool.eq_false_of_not_eq_true hBehind) hOther ?_ rfl
    rintro rfl
    exact hReaches.fresh.1 hOther
  · exact .entered hReaches (Bool.eq_false_of_not_eq_true hBehind)
      (Option.not_isSome_iff_eq_none.mp hKnown) rfl

/- The context of a job only moves on. -/
theorem observeContext_cases (security : LocalSecurityState) (context : TrainingContext)
    (now : UInt64)
    (hLineage : ¬ (context.jobId = default ∨ context.branch = default ∨ context.planGeneration = 0 ∨
      context.generation = 0)) :
    ((∀ previous, security.contexts[context.jobId]? = some previous → Precedes previous context) ∧
      observeContext security context now =
        ⟨.ok (), { security with contexts := security.contexts.insert context.jobId context }⟩) ∨
      ∃ error previous, (observeContext security context now).result = .error error ∧
        security.contexts[context.jobId]? = some previous ∧ ¬ Precedes previous context ∧
        SameLedger security (observeContext security context now).security ∧
        (observeContext security context now).security.quarantined = security.quarantined := by
  unfold observeContext Precedes
  rw [if_neg hLineage]
  cases hContext : security.contexts[context.jobId]? with
  | none => exact Or.inl ⟨(fun _ hNone => nomatch hNone), rfl⟩
  | some previous =>
    dsimp only
    split_ifs with hOlder hBranch
    · exact Or.inr ⟨_, previous, rfl, rfl, by grind, event_sameLedger _ _ _ _ _ _,
        (event_ledger _ _ _ _ _ _).2.1⟩
    · exact Or.inr ⟨_, previous, rfl, rfl, by grind, event_sameLedger _ _ _ _ _ _,
        (event_ledger _ _ _ _ _ _).2.1⟩
    · refine Or.inl ⟨?_, rfl⟩
      rintro _ ⟨⟩
      grind

theorem admitTrainingUpdate_cases {contributionDigest : TrainingContribution → ArtifactId}
    {security : LocalSecurityState} (contribution : TrainingContribution) {members : List NodeId}
    {now : UInt64} :
    Admission security (contributionDigest contribution) contribution members now
      (admitTrainingUpdate contributionDigest security contribution members now) := by
  unfold admitTrainingUpdate
  dsimp only
  by_cases hMember : contribution.worker ∈ members
  case neg =>
    rw [if_pos hMember]
    exact .refused _ (.unauthorized hMember) rfl (event_sameLedger _ _ _ _ _ _)
      (Or.inl (event_ledger _ _ _ _ _ _).2.1)
  rw [if_neg (not_not.mpr hMember)]
  cases hBounds : contributionBounded security.policy contribution with
  | false =>
    exact .refused _ (.unbounded hBounds) rfl (event_sameLedger _ _ _ _ _ _)
      (Or.inl (event_ledger _ _ _ _ _ _).2.1)
  | true =>
    by_cases hKnown : security.replay[replayKey contribution]? =
      some (contributionDigest contribution) ∨
      security.rejectedReplay[replayKey contribution]? = some (contributionDigest contribution)
    case pos =>
      rw [if_pos hKnown]
      exact .refused _ (.repeated hKnown) rfl (event_sameLedger _ _ _ _ _ _)
        (Or.inl (event_ledger _ _ _ _ _ _).2.1)
    rw [if_neg hKnown]
    cases hHeld : (isQuarantined security contribution.worker now).1 with
    | true =>
      have hEvent := event_sameLedger (expire security now) now (some contribution.worker)
        .trainingUpdateRejected "training_update" "worker is locally quarantined"
      exact .refused _ (.held (not_or.mp hKnown) hHeld) rfl ⟨hEvent.policy, hEvent.replay,
        hEvent.rejectedReplay, hEvent.latest, hEvent.contexts, hEvent.authenticatedClaims⟩
        (Or.inr (event_ledger _ _ _ _ _ _).2.1)
    | false =>
      rw [if_neg (by simp)]
      have hCases := observeContext_cases (expire security now) (contextOf contribution) now (by
        simp only [contributionBounded, Bool.and_eq_true, bne_iff_ne, ne_eq] at hBounds
        simp only [contextOf]
        tauto)
      generalize hObserved : observeContext (isQuarantined security contribution.worker now).2
        ⟨contribution.jobId, contribution.branch, contribution.planGeneration,
          contribution.generation⟩ now = observed
      change observeContext (expire security now)
        (contextOf contribution) now = observed at hObserved
      rw [hObserved] at hCases
      rcases hCases with
        ⟨hPrecedes, rfl⟩ | ⟨error, previous, hResult, hContext, hOlder, hLedger, hQuarantined⟩
      · exact admitFresh_cases ⟨hMember, hBounds, not_or.mp hKnown, hHeld, hPrecedes⟩
      · rw [hResult]
        exact .refused error (.lineage error previous hContext hOlder) rfl
          ⟨hLedger.policy, hLedger.replay, hLedger.rejectedReplay, hLedger.latest,
            hLedger.contexts, hLedger.authenticatedClaims⟩
          (Or.inr hQuarantined)

end IntelligenceNetwork.Security
