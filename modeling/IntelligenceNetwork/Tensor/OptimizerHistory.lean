import IntelligenceNetwork.Lib.Transition
import IntelligenceNetwork.Tensor.Frame

/-
  The optimizer states of a node, call after call.

  An entry is written only with a hash of its own, and only with
  a later generation or the values that were there.

  Main declarations:
    * `NeverBack`
    * `OptimizerWrite`
    * `optimizer_never_goes_back`
-/

----
-- Calls and Restarts
----

namespace IntelligenceNetwork.Tensor

open OrderedMap

variable {install : V4OptimizerStateInstall} {old : V4LocalOptimizerState}

section

variable (digests : StateDigests) (home : NodeId)

inductive OptimizerCall
  | receive (env : TensorEnv) (peer : NodeId) (install : V4OptimizerStateInstall)
  | installLocal (env : TensorEnv) (install : V4OptimizerStateInstall)
  | update (env : TensorEnv) (jobId : JobId) (planGeneration : UInt64) (shardId : UInt16)
    (gradients : List Int) (sequence : UInt64)

def OptimizerCall.run (node : TensorNode) : OptimizerCall → TensorNode
| .receive env peer install => (receiveOptimizerStateInstall digests home env node peer
    install).node
| .installLocal env install => (installLocalOptimizerState digests env node install).node
| .update env jobId planGeneration shardId gradients sequence =>
  (updateOptimizerStateAndReplicate digests home env node jobId planGeneration shardId gradients
    sequence).node

/- A file that is intact is read back; its name is its key. -/
def restoreOptimizers (node : TensorNode) : TensorNode :=
  { node with
    optimizers := node.optimizerFiles.filter (fun _ state => validLocalOptimizerState digests state)
      }

/-
  A call, a restart between two calls, one inside a call before
  or after its file is written, or other work of the node.
-/
inductive OptimizerEvent
  | call (call : OptimizerCall)
  | restart
  | interrupted (call : OptimizerCall) (written : Bool)
  | elsewhere (plans : Std.TreeMap JobId V4TrainingPlan) (graphs : Std.TreeMap JobId
    V4ExecutionGraph) (shards : Std.TreeMap ShardKey V4LocalTensorShard)

def optimizerEventStep (node : TensorNode) : OptimizerEvent → Option TensorNode
| .call call => some (call.run digests home node)
| .restart => some (restoreOptimizers digests node)
| .interrupted call written =>
  some (restoreOptimizers digests { node with
      optimizerFiles :=
        if written then (call.run digests home node).optimizerFiles else node.optimizerFiles })
| .elsewhere plans graphs shards =>
  some { node with plans := plans, graphs := graphs, shards := shards }

/- A later generation, or the same values. -/
structure Follows (old new : V4LocalOptimizerState) : Prop where
  later : old.stateGeneration ≤ new.stateGeneration
  same : old.stateGeneration = new.stateGeneration →
    new.stateGeneration < 0xffffffffffffffff → new.values = old.values

def NeverBack (before after : TensorNode) : Prop :=
  ∀ (key : ShardKey) old new, before.optimizers[key]? = some old →
    after.optimizers[key]? = some new → Follows old new

/- Every entry is intact, under its own key, and on disk. -/
structure KeptOptimizers (node : TensorNode) : Prop where
  valid : ∀ (key : ShardKey) state, node.optimizers[key]? = some state →
    validLocalOptimizerState digests state = true
  stored : ∀ (key : ShardKey) state, node.optimizers[key]? = some state →
    node.optimizerFiles[key]? = some state
  named : ∀ (key : ShardKey) state, node.optimizerFiles[key]? = some state → state.key = key

/- What a call writes. -/
inductive OptimizerWrite (node next : TensorNode) : Prop
  | nothing (hOptimizers : next.optimizers = node.optimizers)
    (hFiles : next.optimizerFiles = node.optimizerFiles)
  | entry (state : V4LocalOptimizerState) (hValid : validLocalOptimizerState digests state = true)
    (hFollows : ∀ old, node.optimizers[state.key]? = some old → Follows old state)
    (hOptimizers : next.optimizers = node.optimizers.insert state.key state)
    (hFiles : next.optimizerFiles = node.optimizerFiles.insert state.key state)

end

----
-- Writes
----

section

variable {digests : StateDigests} {home : NodeId} {node next : TensorNode}

theorem Follows.refl (state : V4LocalOptimizerState) : Follows state state :=
  ⟨UInt64.le_refl _, fun _ _ => rfl⟩

theorem follows_of_lt {new : V4LocalOptimizerState}
    (hLater : old.stateGeneration < new.stateGeneration) : Follows old new :=
  ⟨UInt64.le_of_lt hLater, fun hEq => absurd (hEq ▸ hLater) (UInt64.lt_irrefl _)⟩

theorem validLocalOptimizerState_iff (state : V4LocalOptimizerState) :
    validLocalOptimizerState digests state = true ↔
      (state.planGeneration ≠ 0 ∧ state.modelGeneration ≠ 0 ∧ state.optimizerGeneration ≠ 0 ∧
        state.stateGeneration ≠ 0) ∧ (state.values ≠ [] ∧ state.values.length ≤ maxV4Vector ∧
        ∀ value ∈ state.values, value.natAbs ≤ maxMagnitude) ∧
      digests.optimizerState { state with stateHash := default } = state.stateHash := by
  unfold validLocalOptimizerState
  split_ifs with hRefused
  · grind
  · simp only [Bool.or_eq_true, beq_iff_eq, List.isEmpty_iff, decide_eq_true_eq,
      List.any_eq_true] at hRefused
    grind

section

variable {existing : V4LocalOptimizerState}

/- A promoted state has the old values and a hash of its own. -/
theorem promoteOptimizerState_valid (hValid : validLocalOptimizerState digests existing = true) :
    validLocalOptimizerState digests (promoteOptimizerState digests existing install) = true := by
  rw [validLocalOptimizerState_iff] at hValid ⊢
  rcases hValid with ⟨⟨hPlan, hModel, hOptimizer, hState⟩, hValues, -⟩
  have hMax : ∀ a b : UInt64, a ≠ 0 → max a b ≠ 0 := by
    intro a b _
    rw [UInt64.max_def]
    grind
  exact ⟨⟨hMax _ _ hPlan, hModel, hMax _ _ hOptimizer, hMax _ _ hState⟩, hValues, rfl⟩

theorem promoteOptimizerState_follows :
    Follows existing (promoteOptimizerState digests existing install) := by
  refine ⟨?_, fun _ _ => rfl⟩
  change existing.stateGeneration ≤ max existing.stateGeneration install.stateGeneration
  rw [UInt64.max_def]
  grind

end

theorem storeOptimizer_write (env : TensorEnv) (state : V4LocalOptimizerState)
    (hValid : validLocalOptimizerState digests state = true)
    (hFollows : ∀ old, node.optimizers[state.key]? = some old → Follows old state) :
    OptimizerWrite digests node (storeOptimizer env node state.key state).node := by
  unfold storeOptimizer
  split_ifs
  · exact .entry state hValid hFollows rfl rfl
  · exact .nothing rfl rfl

theorem incoming_valid_of_check {peer : NodeId}
    (hCheck : optimizerInstallCheck digests home node peer install = .ok ()) :
    validLocalOptimizerState digests (incomingOptimizer install) = true := by
  unfold optimizerInstallCheck at hCheck
  simp only [Validation.bind_eq_ok_iff, failIf_eq_ok_iff, bne_eq_false_iff_eq] at hCheck
  rcases hCheck with ⟨⟨⟩, hValid, ⟨⟩, hHash, -⟩
  rw [Frontier.checked_eq_ok_iff] at hValid
  unfold Validation.v4OptimizerStateInstall at hValid
  simp only [Validation.bind_eq_ok_iff, Validation.rejectIf_eq_ok_iff, Bool.or_eq_false_iff,
    beq_eq_false_iff_ne, Validation.v4Vector_eq_ok_iff] at hValid
  rcases hValid with ⟨_, -, _, -, _, -, _, ⟨⟨⟨⟨⟨hPlan, hModel⟩, hOptimizer⟩, hState⟩, -⟩, -⟩,
    hValues⟩
  rw [validLocalOptimizerState_iff]
  exact ⟨⟨hPlan, hModel, hOptimizer, hState⟩, hValues, hHash⟩

/- What replaces an entry follows it. -/
theorem optimizerVerdict_follows
    (hIncoming : validLocalOptimizerState digests (incomingOptimizer install) = true)
    {current : Option V4LocalOptimizerState}
    (hCurrent : ∀ old, current = some old → old.key = (incomingOptimizer install).key)
    {accepted : Bool} {state : V4LocalOptimizerState}
    (hVerdict : optimizerVerdict digests current install = some (accepted, some state)) :
    state.key = (incomingOptimizer install).key ∧
      validLocalOptimizerState digests state = true ∧ ∀ old, current = some old →
        Follows old state := by
  cases current with
  | none =>
    cases hVerdict
    exact ⟨rfl, hIncoming, fun _ hOld => by cases hOld⟩
  | some old =>
    unfold optimizerVerdict at hVerdict
    dsimp only at hVerdict
    split_ifs at hVerdict with hLineage hOlder hSame hHash hPromoted <;> cases hVerdict
    · rw [Bool.and_eq_true] at hPromoted
      refine ⟨hCurrent old rfl, promoteOptimizerState_valid hPromoted.2, ?_⟩
      rintro _ ⟨rfl⟩
      exact promoteOptimizerState_follows
    · have hLater : old.stateGeneration < (incomingOptimizer install).stateGeneration := by
        grind
      refine ⟨rfl, hIncoming, ?_⟩
      rintro _ ⟨rfl⟩
      exact follows_of_lt hLater

theorem OptimizerWrite.receive (hKept : KeptOptimizers digests node) (env : TensorEnv)
    (peer : NodeId) (install : V4OptimizerStateInstall) :
    OptimizerWrite digests node
      (receiveOptimizerStateInstall digests home env node peer install).node := by
  unfold receiveOptimizerStateInstall
  cases hCheck : optimizerInstallCheck digests home node peer install with
  | error error => exact .nothing rfl rfl
  | ok value =>
    dsimp only
    have hIncoming := incoming_valid_of_check hCheck
    cases hVerdict : optimizerVerdict digests node.optimizers[
      (⟨install.jobId, install.shardId⟩ : ShardKey)]? install with
    | none => exact .nothing rfl rfl
    | some verdict =>
      rcases verdict with ⟨accepted, replacement⟩
      refine (fun hStored => Outcome.andThen_node hStored ?_) ?_
      · intro _
        rw [answer_node]
        exact hStored
      · cases replacement with
        | none => exact .nothing rfl rfl
        | some state =>
          rcases optimizerVerdict_follows hIncoming
            (fun old hOld => hKept.named _ old (hKept.stored _ old hOld)) hVerdict with
            ⟨hKey, hValid, hFollows⟩
          have hWrite := storeOptimizer_write env state hValid (hKey ▸ hFollows)
          rwa [hKey] at hWrite

theorem OptimizerWrite.installLocal (hKept : KeptOptimizers digests node) (env : TensorEnv)
    (install : V4OptimizerStateInstall) :
    OptimizerWrite digests node (installLocalOptimizerState digests env node install).node := by
  unfold installLocalOptimizerState
  have hFirst : (∀ old, node.optimizers[(incomingOptimizer install).key]? = some old →
    Follows old (incomingOptimizer install)) →
    OptimizerWrite digests node
      (if validLocalOptimizerState digests (incomingOptimizer install) then
        storeOptimizer env node ⟨install.jobId, install.shardId⟩ (incomingOptimizer install)
      else
        refuseWith node "V4 local optimizer state is invalid").node := by
    intro hFollows
    split_ifs with hValid
    · exact storeOptimizer_write env (incomingOptimizer install) hValid hFollows
    · exact .nothing rfl rfl
  dsimp only
  cases hExisting : node.optimizers[(⟨install.jobId, install.shardId⟩ : ShardKey)]? with
  | none =>
    apply hFirst
    intro old hOld
    cases hExisting.symm.trans hOld
  | some existing =>
    dsimp only
    have hKey : existing.key = ⟨install.jobId, install.shardId⟩ :=
      hKept.named _ existing (hKept.stored _ existing hExisting)
    split
    · exact .nothing rfl rfl
    · by_cases hOlder : existing.stateGeneration ≥ install.stateGeneration
      · rw [if_pos hOlder, ← hKey]
        apply storeOptimizer_write env (promoteOptimizerState digests existing install)
        · exact promoteOptimizerState_valid (hKept.valid _ existing hExisting)
        · intro old hOld
          rw [← hKey] at hExisting
          cases hExisting.symm.trans hOld
          exact promoteOptimizerState_follows
      · rw [if_neg hOlder]
        apply hFirst
        intro old hOld
        cases hExisting.symm.trans hOld
        exact follows_of_lt (UInt64.not_le.mp hOlder)

/- A step is the next generation, unless there is none. -/
theorem optimizerStep_follows {jobId : JobId} {planGeneration sequence : UInt64}
    {shardId : UInt16} {gradients : List Int} {placement : V4OptimizerPlacement}
    (hStep : optimizerStep digests home node jobId planGeneration shardId gradients sequence =
      .ok (some (placement, install))) :
    (incomingOptimizer install).key = ⟨jobId, shardId⟩ ∧
      validLocalOptimizerState digests (incomingOptimizer install) = true ∧
      ∀ old, node.optimizers[(⟨jobId, shardId⟩ : ShardKey)]? = some old →
        Follows old (incomingOptimizer install) := by
  obtain ⟨⟨modelGeneration, rfl⟩, hValid, -⟩ := optimizerStep_some hStep
  refine ⟨rfl, hValid, ?_⟩
  intro old hOld
  have hNext : (incomingOptimizer (nextOptimizer digests home placement modelGeneration
    node.optimizers[(⟨jobId, shardId⟩ : ShardKey)]? jobId planGeneration shardId gradients
    sequence)).stateGeneration = Saturating.add old.stateGeneration 1 := by
    rw [hOld]
    rfl
  refine ⟨?_, ?_⟩
  · rw [hNext]
    exact Saturating.le_add_left _ _
  · intro hEq hBelow
    rw [hNext] at hEq hBelow
    have hNat := congrArg UInt64.toNat hEq
    rw [UInt64.lt_iff_toNat_lt] at hBelow
    rw [Saturating.toNat_add] at hNat hBelow
    change _ = min _ (_ + 1) at hNat
    change _ < 18446744073709551615 at hBelow
    omega

theorem OptimizerWrite.update (env : TensorEnv) (jobId : JobId) (planGeneration : UInt64)
    (shardId : UInt16) (gradients : List Int) (sequence : UInt64) :
    OptimizerWrite digests node (updateOptimizerStateAndReplicate digests home env node jobId
      planGeneration shardId gradients sequence).node := by
  unfold updateOptimizerStateAndReplicate
  cases hStep : optimizerStep digests home node jobId planGeneration shardId gradients sequence with
  | error error => exact .nothing rfl rfl
  | ok step =>
    cases step with
    | none => exact .nothing rfl rfl
    | some found =>
      rcases found with ⟨placement, install⟩
      rcases optimizerStep_follows hStep with ⟨hKey, hValid, hFollows⟩
      rw [← hKey] at hFollows ⊢
      have hWrite := storeOptimizer_write env (incomingOptimizer install) hValid hFollows
      exact Outcome.andThen_node hWrite (fun _ => hWrite)

theorem OptimizerCall.write (hKept : KeptOptimizers digests node) (call : OptimizerCall) :
    OptimizerWrite digests node (call.run digests home node) := by
  cases call with
  | receive env peer install => exact .receive hKept env peer install
  | installLocal env install => exact .installLocal hKept env install
  | update env jobId planGeneration shardId gradients sequence =>
    exact .update env jobId planGeneration shardId gradients sequence

/- A write goes on from the entries, and keeps them intact. -/
theorem OptimizerWrite.kept (hWrite : OptimizerWrite digests node next)
    (hKept : KeptOptimizers digests node) : KeptOptimizers digests next ∧ NeverBack node next := by
  cases hWrite with
  | nothing hOptimizers hFiles =>
    refine ⟨⟨?_, ?_, ?_⟩, ?_⟩
    · rw [hOptimizers]
      exact hKept.valid
    · rw [hOptimizers, hFiles]
      exact hKept.stored
    · rw [hFiles]
      exact hKept.named
    · intro key old new hOld hNew
      rw [hOptimizers, hOld] at hNew
      cases hNew
      exact .refl old
  | entry state hValid hFollows hOptimizers hFiles =>
    refine ⟨⟨?_, ?_, ?_⟩, ?_⟩
    · intro key found hFound
      rw [hOptimizers] at hFound
      rcases getElem?_of_insert hFound with ⟨-, rfl⟩ | hFound
      · exact hValid
      · exact hKept.valid key found hFound
    · intro key found hFound
      rw [hOptimizers, getElem?_insert] at hFound
      rw [hFiles, getElem?_insert]
      split_ifs at hFound ⊢
      · exact hFound
      · exact hKept.stored key found hFound
    · intro key found hFound
      rw [hFiles] at hFound
      rcases getElem?_of_insert hFound with ⟨hEq, rfl⟩ | hFound
      · exact hEq
      · exact hKept.named key found hFound
    · intro key old new hOld hNew
      rw [hOptimizers] at hNew
      rcases getElem?_of_insert hNew with ⟨hEq, rfl⟩ | hNew
      · exact hFollows old (hEq ▸ hOld)
      · rw [hOld] at hNew
        cases hNew
        exact .refl old

theorem OptimizerWrite.present (hWrite : OptimizerWrite digests node next) {key : ShardKey}
    (hOld : node.optimizers[key]? = some old) :
    ∃ current, next.optimizers[key]? = some current := by
  cases hWrite with
  | nothing hOptimizers hFiles => exact ⟨old, hOptimizers ▸ hOld⟩
  | entry state _ _ hOptimizers _ =>
    rw [hOptimizers, getElem?_insert]
    split_ifs
    · exact ⟨state, rfl⟩
    · exact ⟨old, hOld⟩

/- A restart reads back what the files hold. -/
theorem KeptOptimizers.restore (hKept : KeptOptimizers digests node) :
    KeptOptimizers digests (restoreOptimizers digests node) ∧
      NeverBack node (restoreOptimizers digests node) := by
  have hRead : ∀ (key : ShardKey) state,
    (restoreOptimizers digests node).optimizers[key]? = some state →
      node.optimizerFiles[key]? = some state ∧ validLocalOptimizerState digests state = true := by
    intro key state hState
    change (node.optimizerFiles.filter _)[key]? = _ at hState
    rw [Std.TreeMap.getElem?_filter'] at hState
    exact Option.filter_eq_some_iff.mp hState
  refine ⟨⟨?_, ?_, hKept.named⟩, ?_⟩
  · exact fun key state hState => (hRead key state hState).2
  · exact fun key state hState => (hRead key state hState).1
  · intro key old new hOld hNew
    have hSame := (hKept.stored key old hOld).symm.trans (hRead key new hNew).1
    cases hSame
    exact .refl old

theorem KeptOptimizers.step (hKept : KeptOptimizers digests node) {event : OptimizerEvent}
    (hStep : optimizerEventStep digests home node event = some next) :
    KeptOptimizers digests next ∧ NeverBack node next := by
  cases event with
  | call call =>
    cases hStep
    exact (call.write hKept).kept hKept
  | restart =>
    cases hStep
    exact hKept.restore
  | elsewhere plans graphs shards =>
    cases hStep
    refine ⟨⟨hKept.valid, hKept.stored, hKept.named⟩, ?_⟩
    intro key old new hOld hNew
    cases hOld.symm.trans hNew
    exact .refl old
  | interrupted call written =>
    cases hStep
    cases written with
    | false => exact hKept.restore
    | true =>
      rcases (call.write hKept).kept hKept with ⟨hAfter, hBack⟩
      -- Memory is lost, so only what the call left on disk counts.
      rcases hAfter.restore with ⟨⟨hValid, hStored, hNamed⟩, -⟩
      refine ⟨⟨hValid, hStored, hNamed⟩, ?_⟩
      intro key old new hOld hNew
      rcases (call.write hKept).present hOld with ⟨current, hCurrent⟩
      cases (hAfter.stored key current hCurrent).symm.trans (hStored key new hNew)
      exact hBack key old new hOld hCurrent

end

----
-- Runs
----

/-
  Whatever is called or sent, and wherever the node restarts:
  every entry is intact, and no step takes one back.
-/
theorem optimizer_never_goes_back (digests : StateDigests) (home : NodeId)
    (start node next : TensorNode) (events : List OptimizerEvent) (event : OptimizerEvent)
    (hFresh : start.optimizers = ∅ ∧ start.optimizerFiles = ∅)
    (hRun : Transition.run (optimizerEventStep digests home) start events = some node)
    (hStep : optimizerEventStep digests home node event = some next) :
    (∀ (key : ShardKey) state, next.optimizers[key]? = some state →
      validLocalOptimizerState digests state = true) ∧
      NeverBack node next := by
  have hStart : KeptOptimizers digests start := by
    constructor
    · simp [hFresh.1]
    · simp [hFresh.1]
    · simp [hFresh.2]
  have hKept : KeptOptimizers digests node :=
    Transition.always_of_run (KeptOptimizers digests) (fun _ _ _ hInv hNext => (hInv.step hNext).1)
      hStart hRun
  rcases hKept.step hStep with ⟨hAfter, hBack⟩
  exact ⟨hAfter.valid, hBack⟩

/- The install of a state with one value, and a later one. -/
def stateInstall (value : Int) (stateGeneration : UInt64) : V4OptimizerStateInstall :=
  let install : V4OptimizerStateInstall :=
    ⟨⟨7⟩, 1, 1, 1, 0, [value], ⟨1⟩, stateGeneration, 1, 0, ⟨1⟩⟩
  { install with stateHash := optimizerStateHash modelDigests install }

def installedNode : TensorNode :=
  (installLocalOptimizerState modelDigests {} {} (stateInstall 3 2)).node

theorem optimizer_never_goes_back_install :
    installedNode.optimizers[(⟨⟨7⟩, 0⟩ : ShardKey)]? = some (incomingOptimizer (stateInstall 3 2)) ∧
      NeverBack installedNode
        (installLocalOptimizerState modelDigests {} installedNode (stateInstall 0 1)).node :=
  ⟨by decide +kernel,
    (optimizer_never_goes_back modelDigests ⟨1⟩ {} installedNode _
      [.call (.installLocal {} (stateInstall 3 2))] (.call (.installLocal {} (stateInstall 0 1)))
      ⟨rfl, rfl⟩ rfl rfl).2⟩

end IntelligenceNetwork.Tensor
