import IntelligenceNetwork.Frontier.Claims

/-
  What an acknowledged start leaves for a restart.

  A file is read back only if its hash is that of its content.
  The graph and the plan pass if they were sent with their own
  hashes.

  Main declarations:
    * `SurvivesRestart`
    * `StartOutcome`
    * `durable_start_survives_iff`
-/

----
-- Handled Starts and States
----

namespace IntelligenceNetwork.Frontier

open Validation

variable {digests : Digests} {start : V4IntegratedStart} {home : NodeId} {member : Member}

section

variable (digests : Digests) (home : NodeId)

/- What the node is given, with restarts in between. -/
inductive RecordInput
  | start (env : HandlerEnv) (peer : NodeId) (start : V4IntegratedStart)
  | state (env : HandlerEnv) (peer : NodeId) (state : V4IntegratedStateRecord)
  | restart

def recordStep (member : Member) : RecordInput → Option Member
| .start env peer start => some (receiveIntegratedStart digests home env member peer start).member
| .state env peer state => some (receiveIntegratedState digests home env member peer state).member
| .restart => some (restart digests home member)

/- The graph, the plan and the state are read back as they are. -/
def SurvivesRestart (member : Member) : Prop :=
  (restart digests home member).held.graph = member.held.graph ∧
    (restart digests home member).held.plan = member.held.plan ∧
    (restart digests home member).held.state = member.held.state

def isDurableAck : Effect → Bool
| .send _ (.integratedAck ack) => ack.accepted && ack.reason == "durable graph persisted"
| _ => false

/- The state on disk is the one in memory, and intact. -/
structure StateKept (member : Member) : Prop where
  stored : member.stored.state = member.held.state
  intact : ∀ state, member.held.state = some state → stateIntact digests state = true

end

----
-- State Records
----

/- A state record that is hashed passes by its other fields. -/
theorem stateIntact_iff (state : V4IntegratedStateRecord) : stateIntact digests state = true ↔
    state.stateHash = integratedStateHash digests state ∧ state.stateHash ≠ default ∧
    (state.jobId ≠ default ∧ state.planHash ≠ default ∧ state.branch ≠ default ∧
      state.coordinator ≠ default) ∧ (state.graphGeneration ≠ 0 ∧ state.checkpointGeneration ≠ 0 ∧
      state.optimizerGeneration ≠ 0 ∧ state.membershipEpoch ≠ 0) ∧
    (state.targetWindows ≠ 0 ∧ state.targetWindows ≤ 4096 ∧ state.window ≤ state.targetWindows ∧
      state.modelGeneration ≠ 0 ∧ state.collectiveGeneration ≠ 0) := by
  rw [stateIntact, Bool.and_eq_true, beq_iff_eq, isOk_iff, v4IntegratedState]
  simp only [bind_eq_ok_iff, rejectIf_eq_ok_iff, trainingJobId,
    v4Hash, artifactId, nodeId, exists_and_left, exists_const,
    Bool.or_eq_false_iff, beq_eq_false_iff_ne, decide_eq_false_iff_not, UInt64.not_lt]
  tauto

/- What the state takes from a graph that passes its check. -/
structure GraphFields (graph : V4ExecutionGraph) : Prop where
  named : graph.jobId ≠ default ∧ graph.planHash ≠ default ∧ graph.branch ≠ default ∧
    graph.coordinator ≠ default
  counted : graph.graphGeneration ≠ 0 ∧ graph.checkpointGeneration ≠ 0 ∧
    graph.optimizerGeneration ≠ 0 ∧ graph.membershipEpoch ≠ 0
  collective : graph.collectiveGeneration ≠ 0
  model : (graph.shards.head?.map (·.modelGeneration)).getD 0 ≠ 0

theorem graphFields_of_ok {graph : V4ExecutionGraph} (hOk : v4ExecutionGraph graph = .ok ()) :
    GraphFields graph := by
  unfold v4ExecutionGraph at hOk
  simp only [bind_eq_ok_iff, rejectIf_eq_ok_iff, trainingJobId,
    v4Hash, artifactId, nodeId, Bool.or_eq_false_iff, beq_eq_false_iff_ne] at hOk
  rcases hOk with ⟨_, hJob, _, -, _, hCoordinator, _, -, _, hPlan, _, hBranch, _, -, _, hCounts,
    _, -, _, -, _, -, _, -, _, -, _, -, _, -, _, -, _, -, _, -, _, -, _, -, _, hSome, _, hShards, -⟩
  rcases hCounts with
    ⟨⟨⟨⟨⟨⟨⟨⟨⟨⟨⟨⟨hGraph, -⟩, -⟩, hEpoch⟩, -⟩, hOptimizer⟩, hCheckpoint⟩, hCollective⟩, -⟩, -⟩, -⟩,
      -⟩, -⟩
  refine ⟨⟨hJob, hPlan, hBranch, hCoordinator⟩, ⟨hGraph, hCheckpoint, hOptimizer, hEpoch⟩,
    hCollective, ?_⟩
  cases hList : graph.shards with
  | nil => simp [hList] at hSome
  | cons shard shards =>
    rcases check_of_forEachSeen _ _ _ hShards shard (by simp [hList]) with ⟨seen, hShard⟩
    unfold v4GraphShard at hShard
    simp only [bind_eq_ok_iff, rejectIf_eq_ok_iff, Bool.or_eq_false_iff,
      beq_eq_false_iff_ne] at hShard
    rcases hShard with ⟨_, ⟨⟨⟨⟨⟨⟨⟨-, hModel⟩, -⟩, -⟩, -⟩, -⟩, -⟩, -⟩, -⟩
    exact hModel

/- The parts of a start that passes its check. -/
theorem start_parts_of_ok (hOk : v4IntegratedStart start = .ok ()) :
    (start.windows ≠ 0 ∧ start.windows ≤ 4096) ∧ v4Plan start.plan = .ok () ∧
      v4ExecutionGraph start.graph = .ok () := by
  unfold v4IntegratedStart at hOk
  simp only [bind_eq_ok_iff, rejectIf_eq_ok_iff, Bool.or_eq_false_iff,
    beq_eq_false_iff_ne, decide_eq_false_iff_not, UInt64.not_lt, Bool.not_eq_false',
    isOk_iff] at hOk
  rcases hOk with ⟨_, -, _, -, _, ⟨hWindows, -⟩, ⟨-, hPlan⟩, hGraph⟩
  exact ⟨hWindows, hPlan, hGraph⟩

/- The state that goes with a start is read back. -/
theorem startState_intact (hDigest : ∀ record, digests.state record ≠ default)
    (hOk : v4IntegratedStart start = .ok ()) {existing : Option V4IntegratedStateRecord}
    (hExisting : ∀ state, existing = some state → stateIntact digests state = true) :
    stateIntact digests (startState digests start existing) = true := by
  rcases start_parts_of_ok hOk with ⟨hWindows, -, hGraph⟩
  have hFields := graphFields_of_ok hGraph
  have hFirst : stateIntact digests (existing.getD
    (integratedState digests start.graph .preparing 0 start.windows 0 0 0)) = true := by
    cases existing with
    | some state => exact hExisting state rfl
    | none =>
      rw [Option.getD_none, stateIntact_iff]
      exact ⟨rfl, hDigest _, hFields.named, hFields.counted, hWindows.1, hWindows.2,
        UInt64.zero_le, hFields.model, hFields.collective⟩
  unfold startState
  dsimp only
  split_ifs
  · rw [stateIntact_iff] at hFirst ⊢
    rcases hFirst with ⟨-, -, ⟨hJob, -⟩, -, hRest⟩
    exact ⟨rfl, hDigest _, ⟨hJob, hFields.named.2⟩, hFields.counted, hRest⟩
  · exact hFirst

----
-- Steps
----

section

variable {next : Member}

/- How a start is answered. -/
inductive StartOutcome (digests : Digests) (member : Member) (start : V4IntegratedStart)
    (handled : Handled Unit) : Prop
  | refused (hAnswer : handled.effects.any isDurableAck = false)
    (hHeld : handled.member.held.state = member.held.state)
    (hStored : handled.member.stored.state = member.stored.state)
  | accepted (hValid : v4IntegratedStart start = .ok ()) (hHeld : handled.member.held =
    { member.held with
      plan := some start.plan
      graph := some start.graph
      state := some (startState digests start member.held.state) })
    (hStored : handled.member.stored = { member.stored with
      plan := some start.plan
      graph := some start.graph
      state := some (startState digests start member.held.state) })

theorem receiveIntegratedStart_outcome {env : HandlerEnv} {peer : NodeId} :
    StartOutcome digests member start
      (receiveIntegratedStart digests home env member peer start) := by
  rcases observeClaim_member with ⟨hEffects, hHeld, hStored, -⟩
  unfold receiveIntegratedStart
  cases hValid : v4IntegratedStart start with
  | error error => exact .refused rfl rfl rfl
  | ok value =>
    generalize observeClaim env member (graphClaim peer start.graph) = observed at *
    unfold Handled.andThen
    cases observed.result with
    | error error => exact .refused (by rw [hEffects]; rfl) (by rw [hHeld]) (by rw [hStored])
    | ok _ =>
      dsimp only
      rw [hEffects, List.nil_append]
      split_ifs
      · exact .refused rfl (by rw [reject, hHeld]) (by rw [reject, hStored])
      · split
        · exact .refused rfl (by rw [reject, hHeld]) (by rw [reject, hStored])
        · unfold acceptStart
          generalize (if isInitialController home peer start = true then peer else
            start.graph.coordinator) = target
          split_ifs
          · exact .refused rfl (by rw [rejectWith, hHeld]) (by rw [rejectWith, hStored])
          · exact .refused rfl (by rw [rejectWith, storePlan, hHeld])
              (by rw [rejectWith, storePlan, hStored])
          · exact .refused rfl (by rw [adoptGraph, hHeld]) (by rw [adoptGraph, hStored])
          · exact .accepted hValid (by simp only [recordState, adoptGraph, hHeld])
              (by simp only [recordState, adoptGraph, hHeld, hStored])
          · exact .accepted hValid (by simp only [recordState, adoptGraph, hHeld])
              (by simp only [recordState, adoptGraph, hHeld, hStored])

theorem StateKept.step (hDigest : ∀ record, digests.state record ≠ default)
    (hKept : StateKept digests member) {input : RecordInput}
    (hStep : recordStep digests home member input = some next) : StateKept digests next := by
  cases input with
  | start env peer start =>
    cases hStep
    cases receiveIntegratedStart_outcome with
    | refused _ hHeld hStored =>
      exact ⟨by rw [hHeld, hStored, hKept.stored], by rw [hHeld]; exact hKept.intact⟩
    | accepted hValid hHeld hStored =>
      refine ⟨by rw [hHeld, hStored], ?_⟩
      rw [hHeld]
      rintro state ⟨rfl⟩
      exact startState_intact hDigest hValid hKept.intact
  | state env peer state =>
    cases hStep
    unfold receiveIntegratedState
    cases hValid : v4IntegratedState state with
    | error error => exact hKept
    | ok value =>
      by_cases hHash : state.stateHash ≠ integratedStateHash digests state
      · rw [if_pos hHash]
        exact hKept
      · rw [if_neg hHash]
        cases member.held.graph with
        | none => exact hKept
        | some graph =>
          dsimp only
          split_ifs
          iterate 4 · exact hKept
          · refine ⟨rfl, ?_⟩
            rintro other ⟨rfl⟩
            rw [stateIntact, hValid, Bool.and_eq_true, beq_iff_eq]
            exact ⟨not_not.mp hHash, rfl⟩
  | restart =>
    cases hStep
    have hRead : member.stored.state.filter (stateIntact digests) = member.held.state := by
      rw [hKept.stored]
      cases hState : member.held.state with
      | none => rfl
      | some state => exact Option.filter_some_pos (hKept.intact state hState)
    refine ⟨?_, ?_⟩
    · change member.stored.state = member.stored.state.filter (stateIntact digests)
      rw [hRead, hKept.stored]
    · intro state hState
      exact hKept.intact state (hRead.symm.trans hState)

end

----
-- Acknowledged Starts
----

/-
  A node that answers that a graph is durable has the graph, the
  plan and the state after a restart just if the graph and the
  plan came with their own hashes.
-/
theorem durable_start_survives_iff (digests : Digests) (home : NodeId)
    (policy : Security.SecurityPolicy) (inputs : List RecordInput) (member : Member)
    (env : HandlerEnv) (peer : NodeId) (start : V4IntegratedStart)
    (hDigest : ∀ record, digests.state record ≠ default)
    (hRun : Transition.run (recordStep digests home) (.new policy) inputs = some member)
    (hAnswer : (receiveIntegratedStart digests home env member peer start).effects.any
      isDurableAck = true) :
    SurvivesRestart digests home
      (receiveIntegratedStart digests home env member peer start).member ↔
      start.graph.graphHash = executionGraphHash digests start.graph ∧
        start.plan.planHash = hashPlan digests start.plan := by
  have hKept : StateKept digests member := Transition.always_of_run (StateKept digests)
    (fun _ _ _ hInv hStep => hInv.step hDigest hStep) ⟨rfl, fun _ hState => by cases hState⟩ hRun
  cases receiveIntegratedStart_outcome with
  | refused hRefused => rw [hRefused] at hAnswer; cases hAnswer
  | accepted hValid hHeld hStored =>
    rcases start_parts_of_ok hValid with ⟨-, hPlan, hGraph⟩
    have hState := startState_intact hDigest hValid hKept.intact
    simp only [SurvivesRestart, restart, restored, hHeld, hStored, Option.filter_eq_some_iff,
      Option.filter_some_pos hState, graphIntact, planIntact, hPlan, hGraph, Bool.and_eq_true,
      beq_iff_eq, isOk_iff, true_and, and_true]

theorem smallDigests_state_ne (record : V4IntegratedStateRecord) :
    smallDigests.state record ≠ default := by
  have hGeneration := record.graphGeneration.toNat_lt
  have hCheckpoint := record.checkpointGeneration.toNat_lt
  have hWindow := record.window.toNat_lt
  intro hZero
  have hNat := congrArg (fun digest => digest.bytes.toNat) hZero
  simp only [smallDigests, BitVec.toNat_ofNat] at hNat
  change _ = 0 at hNat
  omega

theorem smallStart_survives : SurvivesRestart smallDigests ⟨2⟩
    (receiveIntegratedStart smallDigests ⟨2⟩ {} (.new {}) smallStart.graph.coordinator
      smallStart).member :=
  (durable_start_survives_iff smallDigests ⟨2⟩ {} [] (.new {}) {} smallStart.graph.coordinator
    smallStart smallDigests_state_ne rfl (by decide +kernel)).mpr
    ⟨by decide +kernel, by decide +kernel⟩

/- The same start, with a hash that is not that of its graph. -/
def mislabelledStart : V4IntegratedStart :=
  { smallStart with graph := { smallStart.graph with graphHash := ⟨99⟩ } }

theorem mislabelledStart_lost :
    (receiveIntegratedStart smallDigests ⟨2⟩ {} (.new {}) smallStart.graph.coordinator
      mislabelledStart).effects.any isDurableAck = true ∧
      ¬ SurvivesRestart smallDigests ⟨2⟩
        (receiveIntegratedStart smallDigests ⟨2⟩ {} (.new {}) smallStart.graph.coordinator
          mislabelledStart).member := by
  refine ⟨by decide +kernel, ?_⟩
  rintro ⟨hGraph, -⟩
  revert hGraph
  decide +kernel

end IntelligenceNetwork.Frontier
