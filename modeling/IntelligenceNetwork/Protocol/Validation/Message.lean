import IntelligenceNetwork.Protocol.Message
import IntelligenceNetwork.Protocol.Validation.Records
import IntelligenceNetwork.Protocol.Validation.Training
import IntelligenceNetwork.Protocol.Validation.TrainingV4

/-
  The check that every message passes on both sides of the
  wire.

  Main declarations:
    * `Message.validate`
-/

----
-- Messages
----

namespace IntelligenceNetwork

namespace Validation

def trainingV5Message : TrainingV5Message → Check
| .capabilityChallenge value => v5Challenge value
| .capabilityChallengeResult value => v5ChallengeResult value
| .capabilityEvidence value => v5Evidence value

end Validation

open Validation

/- The identity checks of some records hash a public key. -/
def Message.validate (hashing : Hashing) : Message → Check
| .hello value | .peerExchange value | .announcement value | .jobRequest value
| .jobUpdate value => value.validate
| .cancelJob value => string value.reason "cancel.reason"
| .artifactRequest value | .artifactChunk value => value.validate
| .ping _ | .pong _ => .ok ()
| .goodbye reason => ifPresent (string · "goodbye.reason") reason
| .error value => string value.message "protocol_error.message"
| .addressUpdate value | .addressObservation value | .artifactTransferRequest value
| .artifactTransferChunk value => value.validate
| .keyRotation value | .relayEnvelope value | .dhtRequest value | .dhtResponse value =>
  value.validate hashing
| .training value => trainingMessage value
| .trainingV4 value => trainingV4Message value
| .trainingV5 value => trainingV5Message value

end IntelligenceNetwork
