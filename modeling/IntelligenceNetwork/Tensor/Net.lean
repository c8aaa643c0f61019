import IntelligenceNetwork.Lib.Courier
import IntelligenceNetwork.Tensor.ShardWrites

/-
  The workers of an integrated job and the messages between
  them.  The coordinator runs a program besides its handlers,
  which the answers move on.

  Main declarations:
    * `handleMessage`
    * `reactWith`
    * `IntegratedJob`
-/

----
-- Messages
----

namespace IntelligenceNetwork.Tensor

section

variable (digests : StateDigests)

/- Answers go to the mailbox of the job, not to a handler. -/
def handleMessage (self : NodeId) (node : TensorNode) (peer : NodeId) :
    TrainingV4Message → Outcome Unit
| .tensorInstall install => receiveTensorInstall digests self usualEnv node peer install
| .tensorReplica replica => receiveTensorReplica digests self usualEnv node peer replica
| .tensorForward forward => receiveTensorForward digests self usualEnv node peer forward
| .tensorBackward backward => receiveTensorBackward digests self usualEnv node peer backward
| .optimizerStateInstall install =>
  receiveOptimizerStateInstall digests self usualEnv node peer install
| .pipelineInstall install => receivePipelineInstall digests self usualEnv node peer install
| _ => ⟨node, [], .ok ()⟩

end

----
-- Nets
----

section

abbrev TensorParcel := Courier.Parcel NodeId TrainingV4Message

abbrev TensorReaction (σ : Type) :=
  Courier.Reaction NodeId TensorNode TrainingV4Message σ

abbrev TensorNet (σ : Type) :=
  Courier.Net NodeId TensorNode TrainingV4Message σ

/- How a program takes a message out of its mailbox. -/
abbrev Mailbox (σ : Type) :=
  TensorNode → σ → TrainingV4Message → TensorReaction σ

variable (digests : StateDigests) {σ : Type}

/- A handler does not look at the program. -/
def handlerReaction (stage : σ) (node : TensorNode) (parcel : TensorParcel) : TensorReaction σ :=
  let handled := handleMessage digests parcel.target node parcel.sender parcel.message
  ⟨handled.node, handled.sends, stage⟩

/- The handler, and then the program if it runs there. -/
def reactWith (lead : NodeId) (mailbox : Mailbox σ) (stage : σ) (node : TensorNode)
    (parcel : TensorParcel) : TensorReaction σ :=
  let first := handlerReaction digests stage node parcel
  if parcel.target = lead then first.andThen (mailbox first.node stage parcel.message) else first

/-
  A delivery is a move of the target's handler, and then one of
  the program if the target runs it.
-/
theorem deliver_cases {lead : NodeId} {mailbox : Mailbox σ} {net next : TensorNet σ} {index : Nat}
    (hDeliver : net.deliver (reactWith digests lead mailbox) index = some next) :
    ∃ parcel rest middle, net.flight.Perm (parcel :: rest) ∧ middle =
      Courier.Net.move { net with flight := rest } parcel.target
        (handlerReaction digests net.stage (net.nodes parcel.target) parcel) ∧
      (parcel.target ≠ lead ∧ next = middle ∨ parcel.target = lead ∧
        next = middle.move lead (mailbox (middle.nodes lead) net.stage parcel.message)) := by
  rcases Courier.Net.deliver_spec hDeliver with ⟨parcel, rest, hPerm, rfl⟩
  refine ⟨parcel, rest, _, hPerm, rfl, ?_⟩
  unfold reactWith
  by_cases hLead : parcel.target = lead
  · right
    refine ⟨hLead, ?_⟩
    rw [if_pos hLead, ← hLead, Courier.Net.move_move, Courier.Net.move_nodes_self]
  · left
    exact ⟨hLead, by rw [if_neg hLead]⟩

end

----
-- Integrated Jobs
----

/-
  A graph and a plan as the controller and a reconfiguration
  build them: one belongs to the other, and the optimizer of a
  shard is where the shard is.
-/
structure IntegratedJob (digests : StateDigests) (graph : V4ExecutionGraph)
    (plan : V4TrainingPlan) : Prop where
  graphOk : Frontier.graphIntact digests.toDigests graph = true
  planOk : Frontier.planIntact digests.toDigests plan = true
  job : graph.jobId = plan.jobId
  workers : graph.workers = plan.workers
  shards : graph.shards = plan.shards
  planHash : graph.planHash = plan.planHash
  coordinator : graph.coordinator = plan.proposer
  proposer : graph.proposer = graph.coordinator
  optimizers : graph.optimizerShards = plan.shards.map (fun shard =>
    ⟨shard.shardId, shard.owners.headI, shard.replicas, graph.optimizerGeneration⟩)

/- The node that a shard is placed on. -/
def ownerOf (shard : V4ShardOwnership) : NodeId :=
  shard.owners.headI

end IntelligenceNetwork.Tensor
