import IntelligenceNetwork.Training.Effects
import IntelligenceNetwork.Training.WorkerRun

/-
  Whether a worker holds one manifest per generation.

  A state only fills a generation the worker has nothing for,
  or replaces an older one.  A commit of the worker's own
  generation is taken whatever the worker holds.

  Main declarations:
    * `Agrees`
    * `SameManifest`
    * `adopts_unique_iff`
-/

----
-- Messages That Leave the Checkpoint Alone
----

namespace IntelligenceNetwork.Training

open Transition

variable {after before context : Context} {commit : TrainingCheckpointCommit} {peer node : NodeId}
variable {env : Env}

def heldCheckpoint (context : Context) : UInt64 × Option ArtifactId :=
  (context.checkpointGeneration, context.checkpoint)

theorem OnlyBookkeeping.heldCheckpoint_eq (hOnly : OnlyBookkeeping before after) :
    heldCheckpoint after = heldCheckpoint before := by
  rcases hOnly with ⟨_, _, _, _, _, rfl⟩
  rfl

theorem heldCheckpoint_workTrace (node : NodeId) : WorkTrace node
    (fun before _ after => heldCheckpoint after = heldCheckpoint before) :=
  (WaitRelation.of_bookkeeping node
    (fun before after => heldCheckpoint after = heldCheckpoint before)
    (fun _ => rfl) (fun hFirst hSecond => hSecond.trans hFirst)
    OnlyBookkeeping.heldCheckpoint_eq).workTrace (fun _ _ => rfl)

----
-- Agreement Across One Message
----

/-
  The later context is at a newer generation, or it still
  holds what the earlier one held.
-/
def Agrees (before after : Context) : Prop :=
  before.checkpointGeneration < after.checkpointGeneration ∨
    after.checkpointGeneration = before.checkpointGeneration ∧
      ∀ hash, before.checkpoint = some hash → after.checkpoint = some hash

namespace Agrees

theorem of_heldCheckpoint_eq (hEq : heldCheckpoint after = heldCheckpoint before) :
    Agrees before after := by
  rcases Prod.mk.inj hEq with ⟨hGeneration, hCheckpoint⟩
  right
  refine ⟨hGeneration, ?_⟩
  intro hash hHash
  rw [hCheckpoint]
  exact hHash

theorem refl (context : Context) : Agrees context context :=
  of_heldCheckpoint_eq rfl

theorem trans {first second third : Context} (hFirst : Agrees first second)
    (hSecond : Agrees second third) : Agrees first third := by
  rcases hFirst with hFirst | ⟨hFirst, hKeeps⟩
  · left
    rcases hSecond with hSecond | ⟨hSecond, -⟩
    · exact UInt64.lt_trans hFirst hSecond
    · rw [hSecond]
      exact hFirst
  · rcases hSecond with hSecond | ⟨hSecond, hKeeps'⟩
    · left
      rw [← hFirst]
      exact hSecond
    · right
      refine ⟨hSecond.trans hFirst, ?_⟩
      intro hash hHash
      exact hKeeps' hash (hKeeps hash hHash)

end Agrees

/- A state fills an empty place or names a newer generation. -/
theorem adoptState_agrees {state : TrainingState} : Agrees context (adoptState context state) := by
  by_cases hNewer : state.checkpointGeneration > context.checkpointGeneration
  · left
    have hAdopted : (adoptState context state).checkpointGeneration =
      state.checkpointGeneration := by
      simp [adoptState, adoptedCheckpoint, hNewer]
    rw [hAdopted]
    exact hNewer
  · right
    constructor
    · simp only [adoptState, adoptedCheckpoint, if_neg hNewer]
      split_ifs
      · rfl
      · rfl
    · intro hash hHash
      simp [adoptState, adoptedCheckpoint, hNewer, hHash]

/-
  A commit of the generation that the worker is at names the
  manifest that the worker holds, if it holds one.
-/
def RepeatsManifest (context : Context) (commit : TrainingCheckpointCommit) : Prop :=
  commit.manifest.checkpointGeneration = context.checkpointGeneration →
    ∀ held, context.checkpoint = some held → commit.manifest.hash = held

theorem adoptCommit_agrees {digest : Digest}
    (hAccepted : commitRejected digest context peer commit = false)
    (hRepeats : RepeatsManifest context commit) : Agrees context (adoptCommit context commit) := by
  by_cases hSame : commit.manifest.checkpointGeneration = context.checkpointGeneration
  · right
    refine ⟨hSame, ?_⟩
    intro held hHeld
    rw [← hRepeats hSame held hHeld]
    rfl
  · left
    change context.checkpointGeneration < commit.manifest.checkpointGeneration
    have hNotOlder : ¬ commit.manifest.checkpointGeneration <
      context.checkpointGeneration := by
      intro hOlder
      simp [commitRejected, hOlder] at hAccepted
    grind

----
-- Agreement Along Runs
----

section

variable (digest : Digest)

/-
  Where a commit is accepted and stored, it repeats the
  manifest that the worker holds for its generation.
-/
def SameManifest (state : WorkerState) : WorkerEvent → Prop
| .message env peer (.checkpointCommit commit) =>
  commitRejected digest state.context peer commit = false → env.checkpointWritten = true →
      RepeatsManifest state.context commit
| _ => True

theorem Handles.agrees {state : WorkerState} {message : TrainingMessage} {effects : List Effect}
    (hHandles : Handles digest node env state.context peer message after effects)
    (hSame : SameManifest digest state (.message env peer message)) :
    Agrees state.context after := by
  cases hHandles with
  | keeps _ hOnly _ => exact .of_heldCheckpoint_eq hOnly.heldCheckpoint_eq
  | votes election =>
    exact .of_heldCheckpoint_eq
      (handleElection_bookkeeping node state.context peer election).heldCheckpoint_eq
  | adoptsShard _ _ => exact .of_heldCheckpoint_eq rfl
  | adoptsState _ _ => exact adoptState_agrees
  | commits hAccepted hWritten _ =>
    exact adoptCommit_agrees hAccepted (hSame hAccepted hWritten)
  | entersTerm _ _ => exact .of_heldCheckpoint_eq rfl
  | @runs window opened _ _ hOpens =>
    have hRan := runWindow_trace (heldCheckpoint_workTrace node) (enterWindow opened window) window
      (fun _ _ _ => rfl) digest env
    apply Agrees.of_heldCheckpoint_eq
    rw [hRan]
    rcases hOpens with ⟨rfl, -⟩ | ⟨-, rfl, -⟩
    · rfl
    · rfl

theorem workerStep_agrees (state : WorkerState) (event : WorkerEvent) (next : WorkerState)
    (hSame : SameManifest digest state event)
    (hStep : workerStep digest node state event = some next) :
    Agrees state.context next.context := by
  rcases workerStep_cases hStep with ⟨env, peer, message, rfl, rfl⟩ | ⟨-, hOnly, -⟩
  · have hHandles := handleWorkerMessage_handles digest node env state.context peer message
    exact hHandles.agrees digest hSame
  · exact .of_heldCheckpoint_eq hOnly.heldCheckpoint_eq

/-
  At some moment of the run the worker is at the generation
  and holds the manifest.
-/
def Adopts (node : NodeId) (start : TrainingStart) (events : List WorkerEvent) (generation : UInt64)
    (hash : ArtifactId) : Prop :=
  ∃ earlier later middle, events = earlier ++ later ∧ run (workerStep digest node)
    (WorkerState.new start) earlier = some middle ∧
    heldCheckpoint middle.context = (generation, some hash)

end

/- What agrees and is at one generation holds one manifest. -/
theorem Agrees.hash_eq {generation : UInt64} {hash hash' : ArtifactId}
    (hAgrees : Agrees before after) (hBefore : heldCheckpoint before = (generation, some hash))
    (hAfter : heldCheckpoint after = (generation, some hash')) : hash = hash' := by
  rcases Prod.mk.inj hBefore with ⟨hGeneration, hHeld⟩
  rcases Prod.mk.inj hAfter with ⟨hGeneration', hHeld'⟩
  rcases hAgrees with hNewer | ⟨-, hKeeps⟩
  · rw [hGeneration, hGeneration'] at hNewer
    exact absurd hNewer (UInt64.lt_irrefl generation)
  · rw [hKeeps hash hHeld] at hHeld'
    exact Option.some.inj hHeld'

section

variable (digest : Digest) (node : NodeId)

/- A stored commit is what the worker holds afterwards. -/
theorem handleCheckpointCommit_heldCheckpoint {stateWritten : Bool}
    (hAccepted : commitRejected digest context peer commit = false) :
    heldCheckpoint
      (handleCheckpointCommit digest node true stateWritten context peer commit).context =
      (commit.manifest.checkpointGeneration, some commit.manifest.hash) := by
  unfold handleCheckpointCommit
  rw [hAccepted, if_neg Bool.false_ne_true, Bool.not_true, if_neg Bool.false_ne_true]
  split_ifs
  · rfl
  · rfl

/- The commit's own step is where two manifests would meet. -/
theorem repeatsManifest_of_unique {start : TrainingStart} {earlier later : List WorkerEvent}
    {middle next : WorkerState} (hUnique : ∀ generation hash hash', Adopts digest node start
      (earlier ++ .message env peer (.checkpointCommit commit) :: later) generation hash →
      Adopts digest node start (earlier ++ .message env peer (.checkpointCommit commit) :: later)
        generation hash' → hash = hash') (hMiddle : run (workerStep digest node)
      (WorkerState.new start) earlier = some middle)
    (hNext : workerStep digest node middle (.message env peer (.checkpointCommit commit)) =
      some next) (hAccepted : commitRejected digest middle.context peer commit = false)
    (hWritten : env.checkpointWritten = true) : RepeatsManifest middle.context commit := by
  intro hGeneration held hHeld
  have hAfter : heldCheckpoint next.context =
    (commit.manifest.checkpointGeneration, some commit.manifest.hash) := by
    rcases workerStep_cases hNext with ⟨_, _, _, hEvent, rfl⟩ | ⟨hOther, -, -⟩
    · cases hEvent
      simp only [deliver, handleWorkerMessage, hWritten]
      exact handleCheckpointCommit_heldCheckpoint digest node hAccepted
    · exact absurd rfl (hOther env peer _)
  refine hUnique commit.manifest.checkpointGeneration _ _
    ⟨earlier ++ [.message env peer (.checkpointCommit commit)], later, next, ?_, ?_, hAfter⟩
    ⟨earlier, _, middle, rfl, hMiddle, ?_⟩
  · rw [List.append_assoc, List.singleton_append]
  · refine run_append_eq_some_iff.mpr ⟨middle, hMiddle, ?_⟩
    exact run_cons_eq_some_iff.mpr ⟨next, hNext, rfl⟩
  · rw [heldCheckpoint, ← hGeneration, hHeld]

/-
  A worker holds at most one manifest per generation in
  exactly the runs whose commits repeat what it holds.
-/
theorem adopts_unique_iff (start : TrainingStart) (events : List WorkerEvent) (final : WorkerState)
    (hRun : run (workerStep digest node) (WorkerState.new start) events = some final) :
    (∀ generation hash hash', Adopts digest node start events generation hash →
      Adopts digest node start events generation hash' → hash = hash') ↔
      Meets (workerStep digest node) (SameManifest digest) (WorkerState.new start)
        events := by
  constructor
  · intro hUnique
    apply meets_of_forall_moment
    intro earlier event later middle hSplit hMiddle
    subst hSplit
    rcases run_append_eq_some_iff.mp hRun with ⟨same, hSame, hRest⟩
    rw [hMiddle] at hSame
    cases hSame
    rcases run_cons_eq_some_iff.mp hRest with ⟨next, hNext, -⟩
    -- only commits are asked for anything
    cases event with
    | disconnected peer connected reconnected => trivial
    | message env peer message =>
      cases message with
      | checkpointCommit commit =>
        exact repeatsManifest_of_unique digest node hUnique hMiddle hNext
      | _ => trivial
  · intro hMeets generation hash hash' hAdopts hAdopts'
    rcases hAdopts with ⟨earlier, later, middle, rfl, hMiddle, hHeld⟩
    rcases hAdopts' with ⟨earlier', later', middle', hSplit, hMiddle', hHeld'⟩
    rcases related_of_moments (fun before after : WorkerState =>
      Agrees before.context after.context)
      (fun state => .refl state.context)
      (fun first second third hFirst hSecond =>
        Agrees.trans hFirst hSecond)
      (workerStep_agrees digest) hMeets hSplit hMiddle
      hMiddle' with hAgrees | hAgrees
    · exact hAgrees.hash_eq hHeld hHeld'
    · exact (hAgrees.hash_eq hHeld' hHeld).symm

end

def commitOf (modelGeneration : UInt64) : WorkerEvent :=
  .message Env.quiet ⟨9⟩ (.checkpointCommit (smallCommit ⟨9⟩ 1 modelGeneration))

/- A commit that is delivered twice does no harm. -/
theorem adopts_unique_repeated : ∃ final, run (workerStep smallDigest ⟨1⟩)
    (WorkerState.new (smallStart 0)) [commitOf 2, commitOf 2] = some final ∧
    ∀ generation hash hash', Adopts smallDigest ⟨1⟩ (smallStart 0)
      [commitOf 2, commitOf 2] generation hash →
      Adopts smallDigest ⟨1⟩ (smallStart 0) [commitOf 2, commitOf 2] generation hash' →
      hash = hash' := by
  refine ⟨_, rfl,
    (adopts_unique_iff smallDigest ⟨1⟩ (smallStart 0) [commitOf 2, commitOf 2] _ rfl).mpr ?_⟩
  refine ⟨fun _ _ hGeneration => ?_, fun next hNext => ?_⟩
  · exact absurd hGeneration (by decide)
  · cases hNext
    refine ⟨fun _ _ _ held hHeld => ?_, fun _ _ => trivial⟩
    cases hHeld
    rfl

/-
  Two commits of generation 1 with different models, and the
  worker takes one after the other.
-/
theorem adopts_two_manifests : ∃ hash hash', Adopts smallDigest ⟨1⟩ (smallStart 0)
    [commitOf 2, commitOf 3] 1 hash ∧
    Adopts smallDigest ⟨1⟩ (smallStart 0) [commitOf 2, commitOf 3] 1 hash' ∧ hash ≠ hash' := by
  refine ⟨(smallManifest 1 2).hash, (smallManifest 1 3).hash,
    ⟨[commitOf 2], [commitOf 3], _, rfl, rfl, rfl⟩,
    ⟨[commitOf 2, commitOf 3], [], _, rfl, rfl, rfl⟩, ?_⟩
  decide

end IntelligenceNetwork.Training
