import IntelligenceNetwork.Network.Announcements
import IntelligenceNetwork.Network.ConnectionSetup
import IntelligenceNetwork.Network.DhtRpc
import IntelligenceNetwork.Network.RelayBudget
import IntelligenceNetwork.Network.OlderPeers
import IntelligenceNetwork.Protocol.Canonical
import IntelligenceNetwork.Training.Admission
import IntelligenceNetwork.Training.CheckpointAgreement
import IntelligenceNetwork.Training.CheckpointPair
import IntelligenceNetwork.Training.Converges
import IntelligenceNetwork.Training.ElectionSafety
import IntelligenceNetwork.Training.FinalModel
import IntelligenceNetwork.Training.Lineage
import IntelligenceNetwork.Training.Progress
import IntelligenceNetwork.Frontier.FinalCheckpoint
import IntelligenceNetwork.Frontier.CheckpointRetry
import IntelligenceNetwork.Frontier.ListedHolders
import IntelligenceNetwork.Tensor.DiskState
import IntelligenceNetwork.Tensor.Gradient
import IntelligenceNetwork.Reduction.Provenance
import IntelligenceNetwork.Reduction.Answers
import IntelligenceNetwork.Reduction.Merge
import IntelligenceNetwork.Frontier.CheckpointFiles
import IntelligenceNetwork.Frontier.StartDurable
import IntelligenceNetwork.Tensor.OptimizerHistory
import IntelligenceNetwork.Tensor.RoundAnswers
import IntelligenceNetwork.Jobs.AtMostOnce
import IntelligenceNetwork.Jobs.Transitions
import IntelligenceNetwork.Jobs.Answers
import IntelligenceNetwork.Jobs.Requester
import IntelligenceNetwork.Jobs.Slots
import IntelligenceNetwork.Jobs.LimitedOutput
import IntelligenceNetwork.Security.Rejected
import IntelligenceNetwork.Trust.ClosedCluster
import IntelligenceNetwork.Trust.LocalEvidence
