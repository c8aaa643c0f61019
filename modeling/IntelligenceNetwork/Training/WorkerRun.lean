import IntelligenceNetwork.Lib.Transition
import IntelligenceNetwork.Training.Frame
import IntelligenceNetwork.Training.Job

/-
  Runs of a worker, with a log of everything it did to the
  outside.  A handler that fails is logged and the loop goes on.

  Main declarations:
    * `workerStep`
    * `workerStep_cases`
-/

----
-- Steps
----

namespace IntelligenceNetwork.Training

structure WorkerState where
  context : Context
  log : List Effect

inductive WorkerEvent where
  | message (env : Env) (peer : NodeId) (message : TrainingMessage)
  | disconnected (peer : NodeId) (connected reconnected : Bool)

/- An autonomous job retires after its final checkpoint. -/
def jobRetired (context : Context) : Bool :=
  context.start.execution == .autonomousLocalSgd && contextCoversFinalModel context

section

variable (digest : Digest) (node : NodeId) (state : WorkerState)

def deliver (env : Env) (peer : NodeId) (message : TrainingMessage) : WorkerState :=
  let outcome := handleWorkerMessage digest node env state.context peer message
  ⟨outcome.context, state.log ++ outcome.effects⟩

/-
  A step is missing where the loop has ended: after the job
  retired, and when the coordinator is lost for good.
-/
def workerStep : WorkerEvent → Option WorkerState
| .message env peer message =>
  if jobRetired state.context then none else some (deliver digest node state env peer message)
| .disconnected peer connected reconnected =>
  let restored := restoreTrainingPeer connected reconnected state.context peer
  if jobRetired state.context then
    none
  else if restored.2 then
    some ⟨restored.1, state.log⟩
  else if peer = state.context.coordinator then
    none
  else
    some ⟨restored.1.fail peer, state.log⟩

end

/- A worker starts with a new context and an empty log. -/
def WorkerState.new (start : TrainingStart) : WorkerState :=
  ⟨Context.new start .worker, []⟩

----
-- What a Step Can Do
----

/-
  A step either handles a message or keeps the log and does
  bookkeeping.
-/
theorem workerStep_cases {digest : Digest} {node : NodeId} {state next : WorkerState}
    {event : WorkerEvent} (hStep : workerStep digest node state event = some next) :
    (∃ env peer message, event = .message env peer message ∧
      next = deliver digest node state env peer message) ∨
      ((∀ env peer message, event ≠ .message env peer message) ∧
        OnlyBookkeeping state.context next.context ∧
        next.log = state.log) := by
  cases event with
  | message env peer message =>
    left
    simp only [workerStep] at hStep
    split_ifs at hStep
    cases hStep
    exact ⟨env, peer, message, rfl, rfl⟩
  | disconnected peer connected reconnected =>
    right
    have hRestored := restoreTrainingPeer_bookkeeping connected reconnected state.context peer
    simp only [workerStep] at hStep
    split_ifs at hStep
    · cases hStep
      exact ⟨by simp, hRestored, rfl⟩
    · cases hStep
      exact ⟨by simp, hRestored.trans (.fail _ peer), rfl⟩

----
-- Events of the Small Job
----

/- A coordinator announces its term and window. -/
def announce (coordinator : NodeId) (term window : UInt64) : WorkerEvent :=
  .message Env.quiet coordinator (.state { (Context.new (smallStart 0) .worker).state with
    coordinator := coordinator
    term := term
    window := window })

/- The first coordinator opens a window of the first group. -/
def openWindow (window baseGeneration : UInt64) : WorkerEvent :=
  .message Env.quiet ⟨9⟩ (.window (smallWindow window baseGeneration))

end IntelligenceNetwork.Training
