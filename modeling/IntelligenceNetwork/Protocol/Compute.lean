import IntelligenceNetwork.Protocol.Ids

/-
  Compute backends as they appear on the wire.

  Main declarations:
    * `BackendCapabilities`
    * `ComputeRequirements`
    * `BackendAssignment`
-/

----
-- Backends
----

namespace IntelligenceNetwork

/- A closed set, so that a planner can reject an assignment early. -/
inductive BackendKind where
  | cpu
  | cuda
  | rocm
  | metal
  deriving DecidableEq

inductive NumericFormat where
  | f32
  | f16
  | bf16
  deriving DecidableEq

inductive BackendHealth where
  | ready
  | busy
  | degraded
  | unavailable
  deriving DecidableEq

inductive ComputeFeature where
  | matrixMultiply
  | tensorParallel
  | pipelineStage
  | peerToPeer
  | unifiedMemory
  | deterministicKernel
  deriving DecidableEq

/- What a node observes or claims of a backend; nothing proves it. -/
structure BackendCapabilities where
  kind : BackendKind
  runtimeVersion : String
  deviceCount : UInt16
  (deviceMemoryBytes availableMemoryBytes : UInt64)
  formats : List NumericFormat
  maxTensorElements : UInt64
  features : List ComputeFeature
  deviceArchitecture : Option String
  (driverAvailable runtimeAvailable peerToPeer unifiedMemory : Bool)
  (maxConcurrentTasks safetyMarginPermille : UInt16)
  health : BackendHealth
  physicalVerified : Bool
  (observedSuccesses observedFailures : UInt32)
  deriving DecidableEq

----
-- Requirements and Assignments
----

inductive ComputeTaskKind where
  | tensorForward
  | tensorBackward
  | pipelineForward
  | pipelineBackward
  | trainingStep
  | capabilityChallenge
  deriving DecidableEq

/- A task names a backend or an allow-list, and fallbacks are opt-in. -/
structure ComputeRequirements where
  taskKind : ComputeTaskKind
  requiredBackend : Option BackendKind
  allowedBackends : List BackendKind
  requiredFormats : List NumericFormat
  (requiredMemoryBytes maxTensorElements : UInt64)
  requiredFeatures : List ComputeFeature
  kernelId : String
  kernelVersion : UInt16
  fallbackBackends : List BackendKind
  fallbackAllowed : Bool
  deriving DecidableEq

structure BackendAssignment where
  taskKind : ComputeTaskKind
  worker : NodeId
  backend : BackendKind
  deviceIndex : UInt16
  requirements : ComputeRequirements
  deriving DecidableEq

----
-- Capability Challenges
----

structure CapabilityChallenge where
  challengeId : RequestId
  jobId : JobId
  worker : NodeId
  backend : BackendKind
  taskKind : ComputeTaskKind
  format : NumericFormat
  inputElements : UInt32
  seed : UInt64
  deadlineMs : UInt32

structure CapabilityChallengeResult where
  challengeId : RequestId
  worker : NodeId
  backend : BackendKind
  success : Bool
  outputHash : ArtifactId
  (elapsedMicros allocatedBytes : UInt64)
  health : BackendHealth
  error : Option String

structure CapabilityEvidenceRecord where
  worker : NodeId
  backend : BackendKind
  observedAt : UInt64
  (successfulChallenges failedChallenges successfulTasks failedTasks : UInt32)
  lastThroughputMicros : UInt64
  lastError : Option String

end IntelligenceNetwork
