import IntelligenceNetwork.Lib.Saturating
import IntelligenceNetwork.Protocol.Compute

/-
  Checks that every wire record passes before use.

  A check either passes or names the field it rejects.

  Main declarations:
    * `rejectIf`
    * `forEach`
    * `forEachDistinct`
-/

----
-- Limits
----

namespace IntelligenceNetwork

def maxFrameSize : Nat := 1024 * 1024
def maxStringLen : Nat := 256
def maxAddressLen : Nat := 256
def maxCapabilities : Nat := 64
def maxPeers : Nat := 128
def maxMetadata : Nat := 32
def maxJobInput : Nat := 64 * 1024
def maxJobOutput : Nat := 1024 * 1024
def maxArtifactChunk : Nat := 256 * 1024
def maxAddresses : Nat := 16
def maxRelayPayload : Nat := 512 * 1024
def maxDhtRecordValue : Nat := 8 * 1024
def maxDhtRecords : Nat := 64
def maxDhtContacts : Nat := 64
def maxTrainingWorkers : Nat := 64
def maxTrainingGroups : Nat := 32
def maxTrainingSamples : Nat := 256
def maxTrainingContributors : Nat := 64
def maxTrainingShards : Nat := 64
def maxTrainingReplicas : Nat := 16
def maxTrainingStateBytes : UInt64 := 1099511627776
def maxV4Vector : Nat := 128
def maxV4Bytes : Nat := 64 * 1024
def maxV4Stages : Nat := 16
def maxV4Groups : Nat := 32
def maxV4PlanWorkers : Nat := 64
def maxV5Backends : Nat := 8
def maxV5Features : Nat := 16
def maxV5Formats : Nat := 8
def maxV5Assignments : Nat := 128
def maxV5Requirements : Nat := 64

/- The largest magnitude of a scaled model quantity. -/
def maxMagnitude : Nat := 1000000000

----
-- Checks
----

inductive ValidationError where
  | tooLong (field : String) (max : Nat)
  | tooMany (field : String) (max : Nat)
  | empty (field : String)
  | invalid (field : String)
  | oversized (field : String)
  deriving DecidableEq

def ValidationError.text : ValidationError → String
| tooLong field max => s!"{field} exceeds maximum length {max}"
| tooMany field max => s!"{field} exceeds maximum count {max}"
| empty field => s!"{field} must not be empty"
| invalid field => s!"{field} has invalid value"
| oversized field => s!"{field} exceeds the protocol frame limit"

namespace Validation

abbrev Check := Except ValidationError Unit

/- Stop with `error` when the condition holds. -/
def rejectIf (condition : Bool) (error : ValidationError) : Check :=
  if condition then .error error else .ok ()

/- Run the check on an optional value, if there is one. -/
def ifPresent {α : Type} (check : α → Check) : Option α → Check
| none => .ok ()
| some value => check value

/- Run the check on every item, stopping at the first error. -/
def forEach {α : Type} (check : α → Check) : List α → Check
| [] => .ok ()
| item :: items => do
    check item
    forEach check items

/-
  Run the check on every item, with the keys of the earlier
  items, which is what a loop with a `seen` set does.
-/
def forEachSeen {α κ : Type} (key : α → κ) (check : List κ → α → Check) : List κ → List α → Check
| _, [] => .ok ()
| seen, item :: items => do
    check seen item
    forEachSeen key check (key item :: seen) items

/- A loop that rejects a repeated key before each item. -/
def forEachDistinct {α κ : Type} [DecidableEq κ] (key : α → κ) (repeated : ValidationError)
    (check : α → Check) (items : List α) : Check :=
  forEachSeen key (fun seen item => do
    rejectIf (seen.contains (key item)) repeated
    check item)
    [] items

/- A set built from the list would be smaller than it. -/
def repeats {α : Type} [DecidableEq α] (items : List α) : Bool :=
  !decide items.Nodup

@[simp] theorem rejectIf_eq_ok_iff (condition : Bool) (error : ValidationError) (value : Unit) :
    rejectIf condition error = .ok value ↔ condition = false := by
  unfold rejectIf
  cases condition
  · simp
  · simp

/- A sequence of checks passes where each of them does. -/
theorem bind_eq_ok_iff {ε α β : Type} (first : Except ε α) (next : α → Except ε β) (result : β) :
    (first >>= next) = .ok result ↔ ∃ value, first = .ok value ∧ next value = .ok result := by
  cases first with
  | error error | ok value => simp [bind, Except.bind]

theorem isOk_iff (check : Check) : check.isOk = true ↔ check = .ok () := by
  cases check with
  | error error | ok value => simp [Except.isOk, Except.toBool]

section

variable {α κ : Type} (key : α → κ) (check : List κ → α → Check)

/- A list that passes has no key twice, and none seen before. -/
theorem nodup_of_forEachSeen
    (hFresh : ∀ seen item, check seen item = .ok () → key item ∉ seen) (seen : List κ)
    {items : List α} (hOk : forEachSeen key check seen items = .ok ()) :
    (items.map key).Nodup ∧ ∀ item ∈ items, key item ∉ seen := by
  induction items generalizing seen with
  | nil => simp
  | cons item items ih =>
    rw [forEachSeen, bind_eq_ok_iff] at hOk
    rcases hOk with ⟨_, hItem, hItems⟩
    rcases ih (key item :: seen) hItems with ⟨hNodup, hNew⟩
    have hHead := hFresh seen item hItem
    constructor
    · rw [List.map_cons, List.nodup_cons]
      refine ⟨?_, hNodup⟩
      intro hMem
      rcases List.mem_map.mp hMem with ⟨other, hOther, hSame⟩
      apply hNew other hOther
      rw [hSame]
      exact List.mem_cons_self
    · intro other hOther
      rcases List.mem_cons.mp hOther with rfl | hRest
      · exact hHead
      · intro hSeen
        exact hNew other hRest (List.mem_cons_of_mem _ hSeen)

/- Every item of a list that passes has passed its own check. -/
theorem check_of_forEachSeen (seen : List κ)
    {items : List α} (hOk : forEachSeen key check seen items = .ok ()) (item : α)
    (hItem : item ∈ items) : ∃ seen, check seen item = .ok () := by
  induction items generalizing seen with
  | nil => cases hItem
  | cons first items ih =>
    rw [forEachSeen, bind_eq_ok_iff] at hOk
    rcases hOk with ⟨_, hFirst, hItems⟩
    rcases List.mem_cons.mp hItem with rfl | hRest
    · exact ⟨seen, hFirst⟩
    · exact ih (key first :: seen) hItems hRest

end

----
-- Elementary Fields
----

def string (value : String) (field : String) : Check := do
  rejectIf (value.utf8ByteSize == 0) (.empty field)
  rejectIf (value.utf8ByteSize > maxStringLen) (.tooLong field maxStringLen)

def bytes (value : List UInt8) (max : Nat) (field : String) : Check :=
  rejectIf (value.length > max) (.oversized field)

/- Signatures are always 64 bytes. -/
def signature (value : List UInt8) (field : String) : Check :=
  rejectIf (value.length != 64) (.invalid field)

def nodeId (value : NodeId) (field : String) : Check :=
  rejectIf (value == default) (.invalid field)

def artifactId (value : ArtifactId) (field : String) : Check :=
  rejectIf (value == default) (.invalid field)

def trainingJobId (value : JobId) (field : String) : Check :=
  rejectIf (value == default) (.invalid field)

section

variable (nodes : List NodeId) (field : String)

/- Every node is named and none is named twice. -/
def distinctNodes : Check :=
  forEachSeen id (fun seen node => do
    nodeId node field
    rejectIf (seen.contains node) (.invalid field))
    [] nodes

theorem nodup_of_distinctNodes (hOk : distinctNodes nodes field = .ok ()) : nodes.Nodup := by
  have hKeys :=
    (nodup_of_forEachSeen id _ (by
      intro seen node hNode
      rw [bind_eq_ok_iff] at hNode
      rcases hNode with ⟨_, -, hNew⟩
      simpa using hNew) [] hOk).1
  simpa using hKeys

theorem distinctNodes_eq_ok_iff :
    distinctNodes nodes field = .ok () ↔ nodes.Nodup ∧ ∀ node ∈ nodes, node ≠ default := by
  have hSeen : ∀ seen : List NodeId, forEachSeen id (fun seen node => do
    nodeId node field
    rejectIf (seen.contains node) (.invalid field))
    seen nodes = .ok () ↔ nodes.Nodup ∧ ∀ node ∈ nodes, node ≠ default ∧ node ∉ seen := by
    induction nodes with
    | nil => simp [forEachSeen]
    | cons node nodes ih =>
      intro seen
      rw [forEachSeen, bind_eq_ok_iff]
      simp only [ih]
      simp only [bind_eq_ok_iff, nodeId, rejectIf_eq_ok_iff,
        exists_const, beq_eq_false_iff_ne, List.nodup_cons, List.mem_cons, forall_eq_or_imp, id]
      constructor
      · rintro ⟨⟨hNamed, hNew⟩, hNodup, hRest⟩
        refine ⟨⟨?_, hNodup⟩, ⟨hNamed, by simpa using hNew⟩, ?_⟩
        · intro hNode
          exact (hRest node hNode).2 (Or.inl rfl)
        · intro other hOther
          refine ⟨(hRest other hOther).1, ?_⟩
          intro hSeen
          exact (hRest other hOther).2 (Or.inr hSeen)
      · rintro ⟨⟨hFirst, hNodup⟩, ⟨hNamed, hNew⟩, hRest⟩
        refine ⟨⟨hNamed, by simpa using hNew⟩, hNodup, ?_⟩
        intro other hOther
        refine ⟨(hRest other hOther).1, ?_⟩
        rintro (rfl | hSeen)
        · exact hFirst hOther
        · exact (hRest other hOther).2 hSeen
  have hFromNone := hSeen []
  simpa [distinctNodes] using hFromNone

def trainingNodes (max : Nat) : Check := do
  rejectIf (nodes.isEmpty || nodes.length > max) (.tooMany field max)
  distinctNodes nodes field

end

----
-- Compute Backends
----

def backendCapabilities (value : BackendCapabilities) (field : String) : Check := do
  string value.runtimeVersion field
  rejectIf (value.deviceCount == 0 || value.deviceMemoryBytes == 0 || value.availableMemoryBytes >
    Saturating.mul value.deviceMemoryBytes value.deviceCount.toUInt64 ||
    value.availableMemoryBytes == 0 || value.formats.isEmpty ||
    value.formats.length > maxV5Formats || value.maxTensorElements == 0 ||
    value.features.length > maxV5Features || value.maxConcurrentTasks == 0 ||
    value.safetyMarginPermille > 500 || value.observedSuccesses > 1000000 ||
    value.observedFailures > 1000000) (.invalid field)
  ifPresent (string · field) value.deviceArchitecture
  rejectIf (repeats value.features || repeats value.formats) (.invalid field)
  rejectIf (value.physicalVerified && (!value.driverAvailable || !value.runtimeAvailable))
    (.invalid field)

def computeRequirements (value : ComputeRequirements) (field : String) : Check := do
  rejectIf
    (value.requiredMemoryBytes == 0 || value.maxTensorElements == 0 || value.kernelVersion == 0 ||
      value.allowedBackends.length > maxV5Backends ||
      value.fallbackBackends.length > maxV5Backends || value.requiredFormats.isEmpty ||
      value.requiredFormats.length > maxV5Formats || value.requiredFeatures.length > maxV5Features)
    (.invalid field)
  string value.kernelId field
  forEach (fun backends => rejectIf (repeats backends) (.invalid field))
    [value.allowedBackends, value.fallbackBackends]
  rejectIf (value.requiredBackend.isNone && value.allowedBackends.isEmpty) (.invalid field)
  ifPresent (fun required => rejectIf
    (!value.allowedBackends.isEmpty && !value.allowedBackends.contains required) (.invalid field))
    value.requiredBackend
  rejectIf (repeats value.requiredFormats || repeats value.requiredFeatures) (.invalid field)
  rejectIf (!value.fallbackAllowed && !value.fallbackBackends.isEmpty) (.invalid field)

def v5Challenge (value : CapabilityChallenge) : Check :=
  rejectIf (value.challengeId == default || value.jobId == default || value.worker == default ||
    value.taskKind != .capabilityChallenge || value.inputElements == 0 ||
    value.inputElements.toNat > maxV4Vector || value.deadlineMs == 0 || value.deadlineMs > 120000)
    (.invalid "v5.challenge.bounds")

def v5ChallengeResult (value : CapabilityChallengeResult) : Check := do
  rejectIf (value.challengeId == default || value.worker == default || value.elapsedMicros == 0 ||
    value.allocatedBytes > maxTrainingStateBytes) (.invalid "v5.challenge_result.bounds")
  ifPresent (string · "v5.challenge_result.error") value.error

def v5Evidence (value : CapabilityEvidenceRecord) : Check := do
  rejectIf (value.worker == default || value.observedAt == 0 || value.lastThroughputMicros == 0 ||
    value.successfulChallenges > 1000000 || value.failedChallenges > 1000000 ||
    value.successfulTasks > 1000000 || value.failedTasks > 1000000) (.invalid "v5.evidence.bounds")
  ifPresent (string · "v5.evidence.error") value.lastError

end Validation

end IntelligenceNetwork
