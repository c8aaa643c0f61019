import IntelligenceNetwork.Training.Effects
import IntelligenceNetwork.Training.WorkerRun

/-
  Where the updates of a worker come from.

  An update is labelled with the base generation of its window,
  but computed from whatever the worker holds.

  Main declarations:
    * `Lineage`
    * `ContinuesOwn`
    * `worker_lineage`
-/

----
-- Lineage
----

namespace IntelligenceNetwork.Training

open Transition

variable {effect : Effect} {effects : List Effect} {node : NodeId} {context : Context}
variable {window : TrainingWindow} {env : Env}

section

variable (node : NodeId) (log : List Effect)

/-
  An update, or the update that an aggregate starts from, was
  computed from a context that was at its base generation.
-/
def Backed : Effect → Prop
| .sent _ (.update update) =>
  ∃ held window, .computed held window ∈ log ∧ update = computeUpdate held window node ∧
      held.generation = update.baseGeneration
| .produced window own aggregate =>
  ∃ held, .computed held window ∈ log ∧ own = computeUpdate held window node ∧
      held.generation = window.baseGeneration ∧
      aggregate.generation = Saturating.add window.baseGeneration 1
| _ => True

def Lineage : Prop :=
  ∀ effect ∈ log, Backed node log effect

/- A longer log backs no less. -/
theorem Backed.mono {node : NodeId} {log log' : List Effect} (hSubset : log ⊆ log')
    (hBacked : Backed node log effect) : Backed node log' effect := by
  cases effect with
  | sent target message =>
    cases message with
    | update update =>
      rcases hBacked with ⟨held, window, hMem, hRest⟩
      exact ⟨held, window, hSubset hMem, hRest⟩
    | _ => trivial
  | produced window own aggregate =>
    rcases hBacked with ⟨held, hMem, hRest⟩
    exact ⟨held, hSubset hMem, hRest⟩
  | _ => trivial

theorem backed_of_isReceipt (hReceipt : isReceipt effect = true) : Backed node log effect := by
  unfold Backed
  split
  · cases hReceipt
  · cases hReceipt
  · trivial

theorem backed_of_isReply (hReply : isReply effect = true) : Backed node log effect := by
  cases effect with
  | sent target message =>
    cases message with
    | ack ack | state state | checkpointOffer offer => trivial
    | _ => cases hReply
  | _ => cases hReply

end

namespace Lineage

theorem nil (node : NodeId) : Lineage node [] := by
  intro effect hMem
  cases hMem

theorem append {first second : List Effect} (hFirst : Lineage node first)
    (hSecond : Lineage node second) : Lineage node (first ++ second) := by
  intro effect hMem
  rcases List.mem_append.mp hMem with hMem | hMem
  · exact (hFirst effect hMem).mono (List.subset_append_left first second)
  · exact (hSecond effect hMem).mono (List.subset_append_right first second)

theorem cons (hFirst : Backed node [] effect) (hRest : Lineage node effects) :
    Lineage node (effect :: effects) := by
  intro other hMem
  rcases List.mem_cons.mp hMem with rfl | hMem
  · exact hFirst.mono (List.nil_subset _)
  · exact (hRest other hMem).mono (List.subset_cons_self effect effects)

end Lineage

----
-- Windows
----

theorem computeAndSendUpdate_lineage {sent : Bool} {aggregator : NodeId}
    (hBase : window.baseGeneration = context.generation) :
    Lineage node (computeAndSendUpdate node sent context window aggregator).effects := by
  unfold computeAndSendUpdate
  split_ifs
  · intro effect hMem
    rcases List.mem_cons.mp hMem with rfl | hMem
    · trivial
    · rw [List.mem_singleton.mp hMem]
      exact ⟨context, window, List.mem_cons_self, rfl, hBase.symm⟩
  · intro effect hMem
    rw [List.mem_singleton.mp hMem]
    trivial

section

variable (digest : Digest) (node : NodeId)

theorem collectGroupUpdates_lineage (round : Round)
    {context : Context} (group : TrainingGroup) {window : TrainingWindow}
    (hBase : window.baseGeneration = context.generation) :
    Lineage node (collectGroupUpdates digest node round context group window).effects := by
  intro effect hMem
  have hComputed := computed_mem_collectGroupUpdates digest node round context group window
  cases collectGroupUpdates_effects digest node round context group window effect hMem with
  | computed => trivial
  | reply effect hReply => exact backed_of_isReply node _ hReply
  | stored state | announced target state => trivial
  | produced aggregate hGeneration => exact ⟨context, hComputed, rfl, hBase.symm, hGeneration⟩
  | reported target aggregate => trivial

/-
  Each further window starts from the aggregate the context
  has just installed.
-/
theorem aggregateWindows_lineage (rounds : Nat → Round)
    (group : TrainingGroup) (fuel index : Nat) (context : Context) (window : TrainingWindow)
    (hBase : window.baseGeneration = context.generation) :
    Lineage node (aggregateWindows digest node rounds group fuel index context window).effects := by
  induction fuel generalizing index context window with
  | zero => exact .nil node
  | succ fuel ih =>
    have hCollected := collectGroupUpdates_lineage digest node (rounds index) group hBase
    unfold aggregateWindows
    dsimp only
    split
    · exact hCollected
    · split_ifs
      · exact hCollected
      · refine (hCollected.append ?_).append (ih _ _ _ rfl)
        intro effect hMem
        rcases List.mem_map.mp hMem with ⟨member, -, rfl⟩
        trivial

theorem runWindow_lineage (hBase : window.baseGeneration = context.generation) :
    Lineage node (runWindow digest node env context window).effects := by
  unfold runWindow
  split_ifs
  · split
    · exact .nil node
    · exact aggregateWindows_lineage digest node env.rounds _ _ 0 context window hBase
  · exact computeAndSendUpdate_lineage hBase

end

----
-- Runs
----

/- An accepted window continues from the worker's generation. -/
def ContinuesOwn (node : NodeId) (state : WorkerState) : WorkerEvent → Prop
| .message _ peer (.window window) =>
  windowRejected node state.context peer window = false →
    window.baseGeneration = state.context.generation
| _ => True

/- Only a window makes a worker compute. -/
theorem Handles.lineage {digest : Digest} {state : WorkerState} {peer : NodeId}
    {message : TrainingMessage} {after : Context}
    (hHandles : Handles digest node env state.context peer message after effects)
    (hContinues : ContinuesOwn node state (.message env peer message)) : Lineage node effects := by
  have hStores : ∀ (effects : List Effect) (stored : TrainingState), (∀ effect ∈ effects,
    isReceipt effect = true ∨ effect = .persistedState stored) → Lineage node effects := by
    intro effects stored hEffects effect hMem
    rcases hEffects effect hMem with hReceipt | rfl
    · exact backed_of_isReceipt node effects hReceipt
    · trivial
  cases hHandles with
  | keeps _ _ hReceipts =>
    exact fun effect hMem => backed_of_isReceipt node _ (hReceipts effect hMem)
  | votes election =>
    have hReplies := handleElection_replies node state.context peer election
    exact fun effect hMem => backed_of_isReply node _ (hReplies effect hMem)
  | adoptsShard _ hReceipts =>
    exact fun effect hMem => backed_of_isReceipt node _ (hReceipts effect hMem)
  | adoptsState _ hStored => exact hStores _ _ hStored
  | commits _ _ hStored => exact .cons trivial (hStores _ _ hStored)
  | entersTerm _ _ => exact .nil node
  | runs hAccepted hOpens =>
    rcases hOpens with ⟨rfl, rfl⟩ | ⟨-, rfl, rfl⟩
    · exact runWindow_lineage digest node (hContinues hAccepted)
    · exact .cons trivial (runWindow_lineage digest node (hContinues hAccepted))

end IntelligenceNetwork.Training
