import IntelligenceNetwork.Frontier.Job
import IntelligenceNetwork.Protocol.RoundTrip

/-
  What peers of an older version are sent.

  The encoder looks for backends in plans and in graphs.  It
  does not look at the records of peers, nor at the workers of a
  plan that comes with the order of a job.

  Main declarations:
    * `Message.NewerListsEmpty`
    * `Message.UncheckedEmpty`
    * `older_peers_iff`
-/

----
-- Backends in Messages
----

namespace IntelligenceNetwork

namespace Message

/- The peer records, plans and graphs in a message. -/
def records : Message → List PeerRecord
| .hello content => [content.record]
| .peerExchange content => content.peers.map (·.record)
| .announcement content => [content.record]
| .dhtResponse ⟨_, _, .nodes contacts⟩ => contacts.map (·.record)
| _ => []

def plans : Message → List V4TrainingPlan
| .trainingV4 (.plan plan) | .trainingV4 (.planProposal plan) => [plan]
| .trainingV4 (.integratedStart start) => [start.plan]
| _ => []

def graphs : Message → List V4ExecutionGraph
| .trainingV4 (.integratedStart start) => [start.graph]
| _ => []

/- The lists that came with minor version 6 are empty. -/
def NewerListsEmpty (message : Message) : Prop :=
  (∀ record ∈ message.records, ∀ capability ∈ record.capabilities,
    capability.computeBackends = []) ∧
  (∀ plan ∈ message.plans, plan.backendAssignments = [] ∧ plan.computeRequirements = [] ∧
    ∀ worker ∈ plan.workerCapabilities, worker.backends = []) ∧
  ∀ graph ∈ message.graphs, graph.backendAssignments = []

/-
  Those lists that no version test looks at: the backends of
  peers, and those of the workers in the order of a job.
-/
def UncheckedEmpty : Message → Prop
| .trainingV4 (.integratedStart start) =>
  ∀ worker ∈ start.plan.workerCapabilities, worker.backends = []
| message => ∀ record ∈ message.records, ∀ capability ∈ record.capabilities,
  capability.computeBackends = []

end Message

/-
  A message that is encoded for an older version is free of the
  newer lists exactly if its peers, and the workers of an order,
  name no backends.
-/
theorem older_peers_iff (hashing : Hashing) (postcard : Postcard) (message : Message) (limit : Nat)
    (minor : UInt16) (frame : List UInt8) (hOlder : minor < 6)
    (hEncoded : encodeMessageAtVersion hashing postcard message limit protocolMajor minor =
      .ok frame) : message.NewerListsEmpty ↔ message.UncheckedEmpty := by
  have hReached := ((encodeMessageAtVersion_eq_ok_iff hashing postcard message limit protocolMajor
    minor).mp hEncoded).2.2.1
  rw [versionTooOld_eq_false_iff] at hReached
  cases message with
  | trainingV4 training =>
    have hMinor : ¬ 6 ≤ training.minimumMinor := by
      rw [MinorReached] at hReached
      grind
    cases training with
    | plan plan | planProposal plan | integratedStart start =>
      -- anything that the test finds in these would ask for version 6
      simp only [TrainingV4Message.minimumMinor] at hMinor
      split_ifs at hMinor with hNames
      · exact absurd (by decide) hMinor
      · simp [Message.NewerListsEmpty, Message.UncheckedEmpty, Message.records, Message.plans,
          Message.graphs, TrainingV4Message.planNamesBackends] at hNames ⊢
        tauto
    | _ =>
      simp [Message.NewerListsEmpty, Message.UncheckedEmpty, Message.plans, Message.graphs]
  | _ => simp [Message.NewerListsEmpty, Message.UncheckedEmpty, Message.plans, Message.graphs]

/- A serializer that writes nothing. -/
def silentPostcard : Postcard := ⟨fun _ => .ok [], fun _ => .error "nothing written"⟩

/- The order of a job in which nothing is assigned to a backend. -/
def plainOrder : V4IntegratedStart :=
  { Frontier.smallStart with
    graph := { Frontier.smallStart.graph with backendAssignments := [] }
    plan := { Frontier.smallStart.plan with computeRequirements := [], backendAssignments := [] } }

/- Its plan, for workers that name no backends. -/
def plainPlan : V4TrainingPlan :=
  { plainOrder.plan with
    workerCapabilities := plainOrder.plan.workerCapabilities.map ({ · with backends := [] }) }

/- A node that can train, announced without its backends. -/
def plainAnnouncement : SignedAnnouncement where
  record :=
    { nodeId := ⟨1⟩
      publicKey := 1
      addresses := []
      capabilities :=
        [{ name := "training.v3"
           version := 1
           model := none
           resources := ⟨1, 1, 1, 1⟩
           evidence := .claimed
           expiresAt := 1
           metadata := []
           computeBackends := [] }]
      announcedAt := 0
      expiresAt := 1
      observedLatencyMs := none }
  signature := List.replicate 64 0

/- Both can go to peers of version 5, and carry no newer list. -/
theorem older_peers_plan_and_record :
    (Message.trainingV4 (.plan plainPlan)).NewerListsEmpty ∧
    (Message.announcement plainAnnouncement).NewerListsEmpty := by
  constructor
  · refine (older_peers_iff noHashing silentPostcard (.trainingV4 (.plan plainPlan)) 16 5
      [73, 78, 80, 49, 1, 0, 5, 0, 22, 0, 0, 0, 0, 0, 0, 0] (by decide) (by decide +kernel)).mpr ?_
    simp [Message.UncheckedEmpty, Message.records]
  · refine (older_peers_iff noHashing silentPostcard (.announcement plainAnnouncement) 16 5
      [73, 78, 80, 49, 1, 0, 5, 0, 3, 0, 0, 0, 0, 0, 0, 0] (by decide) (by decide +kernel)).mpr ?_
    simp [Message.UncheckedEmpty, Message.records, plainAnnouncement]

/- The order goes to peers of version 5, and its workers name backends. -/
theorem older_peers_named : ¬ (Message.trainingV4 (.integratedStart plainOrder)).UncheckedEmpty ∧
    ¬ (Message.trainingV4 (.integratedStart plainOrder)).NewerListsEmpty ∧
    (encodeMessageAtVersion noHashing silentPostcard (.trainingV4 (.integratedStart plainOrder)) 16
      protocolMajor 5).toOption = some [73, 78, 80, 49, 1, 0, 5, 0, 22, 0, 0, 0, 0, 0, 0, 0] := by
  unfold Message.UncheckedEmpty Message.NewerListsEmpty
  decide +kernel

end IntelligenceNetwork
