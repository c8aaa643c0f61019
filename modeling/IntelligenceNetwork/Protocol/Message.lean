import IntelligenceNetwork.Protocol.Records
import IntelligenceNetwork.Protocol.Training
import IntelligenceNetwork.Protocol.TrainingV4

/-
  Wire messages, their kinds and the versions they need.

  Main declarations:
    * `Message`
    * `Message.kind`
    * `TrainingV4Message.minimumMinor`
-/

----
-- Messages
----

namespace IntelligenceNetwork

/- Capability evidence has its own frame, so that 1.5 peers can read the V4 frame. -/
inductive TrainingV5Message where
  | capabilityChallenge (content : CapabilityChallenge)
  | capabilityChallengeResult (content : CapabilityChallengeResult)
  | capabilityEvidence (content : CapabilityEvidenceRecord)

inductive Message where
  | hello (content : Hello)
  | peerExchange (content : PeerExchange)
  | announcement (content : SignedAnnouncement)
  | jobRequest (content : JobRequest)
  | jobUpdate (content : JobUpdate)
  | cancelJob (content : CancelJob)
  | artifactRequest (content : ArtifactRequest)
  | artifactChunk (content : ArtifactChunk)
  | ping (content : Ping)
  | pong (content : Ping)
  | goodbye (reason : Option String)
  | error (content : ProtocolError)
  | addressUpdate (content : AddressUpdate)
  | addressObservation (content : AddressObservation)
  | artifactTransferRequest (content : ArtifactTransferRequest)
  | artifactTransferChunk (content : ArtifactTransferChunk)
  | keyRotation (content : KeyRotation)
  | relayEnvelope (content : RelayEnvelope)
  | dhtRequest (content : DhtRequest)
  | dhtResponse (content : DhtResponse)
  | training (content : TrainingMessage)
  | trainingV4 (content : TrainingV4Message)
  | trainingV5 (content : TrainingV5Message)

----
-- Versions and Kinds
----

def protocolMajor : UInt16 := 1

def protocolMinor : UInt16 := 6

namespace Message

/- The kind number carried in the frame header. -/
def kind : Message → UInt16
| .hello _ => 1
| .peerExchange _ => 2
| .announcement _ => 3
| .jobRequest _ => 4
| .jobUpdate _ => 5
| .cancelJob _ => 6
| .artifactRequest _ => 7
| .artifactChunk _ => 8
| .ping _ => 9
| .pong _ => 10
| .goodbye _ => 11
| .error _ => 12
| .addressUpdate _ => 13
| .addressObservation _ => 14
| .artifactTransferRequest _ => 15
| .artifactTransferChunk _ => 16
| .keyRotation _ => 17
| .relayEnvelope _ => 18
| .dhtRequest _ => 19
| .dhtResponse _ => 20
| .training _ => 21
| .trainingV4 _ => 22
| .trainingV5 _ => 23

end Message

namespace TrainingV4Message

/- Whether a plan names compute backends anywhere. -/
def planNamesBackends (plan : V4TrainingPlan) : Bool :=
  !plan.backendAssignments.isEmpty || !plan.computeRequirements.isEmpty ||
    plan.workerCapabilities.any (fun worker => !worker.backends.isEmpty)

/-
  The least minor version that can decode the message.
  Durable-job messages need 1.5 and anything that names a
  backend needs 1.6, so that an older peer never receives a
  discriminant it does not know.
-/
def minimumMinor : TrainingV4Message → UInt16
| .integratedStart start =>
  if !start.graph.backendAssignments.isEmpty || !start.plan.backendAssignments.isEmpty ||
      !start.plan.computeRequirements.isEmpty then
    6
  else
    5
| .integratedAck _ | .integratedState _ | .integratedStateAck _ | .integratedElectionRequest _
| .integratedElectionVote _ | .integratedResult _ | .integratedProbe _ | .integratedProbeAck _
| .tensorBackwardResult _ | .tensorReplica _ | .tensorReplicaAck _ | .optimizerStateInstall _
| .optimizerStateAck _ => 5
| .plan named | .planProposal named => if planNamesBackends named then 6 else 4
| _ => 4

end TrainingV4Message

end IntelligenceNetwork
