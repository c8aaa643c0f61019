import IntelligenceNetwork.Lib.Transition
import IntelligenceNetwork.Reduction.Handlers

/-
  Where the values of a reduction come from.

  Values that name another worker are only taken from that
  worker.  Values that name the local node are taken from
  anybody: the message is checked against the node that it says
  to answer, which the sender can write as it likes.

  Main declarations:
    * `SpeaksFor`
    * `handle_spec`
    * `taken_from_owner_or_proposer`
-/

----
-- Sites
----

namespace IntelligenceNetwork.Reduction

open Transition OrderedMap
open Security (TrainingContribution)

variable {requestId : JobId} {result : Except Frontier.NodeError (Option Task)}
variable {security : Security.LocalSecurityState} {sends : List (NodeId × TrainingV4Message)}
variable {state : V4CollectiveState} {taken : List (NodeId × List Int)}
variable {contribution : V4CollectiveContribute} {values : List Int} {worker peer self : NodeId}
variable {node : ReduceNode}

section

/- A node and the tasks that its handlers have left. -/
structure Site where
  node : ReduceNode
  tasks : List Task

inductive SiteAction where
  | deliver (now : UInt64) (peer : NodeId) (message : TrainingV4Message)
  | resume (index : Nat)
  | activate (plan : V4TrainingPlan)

variable (digests : Tensor.StateDigests) (contributionDigest : TrainingContribution → ArtifactId)
variable (self : NodeId)

def handle (node : ReduceNode) (now : UInt64) (peer : NodeId) : TrainingV4Message → Handled
| .collectiveContribute contribution =>
  receiveCollectiveContribution digests self node peer contribution
| .collectiveAggregate aggregate => receiveCollectiveAggregate digests self node peer aggregate
| .byzantineUpdate update =>
  receiveByzantineUpdate digests contributionDigest self node now peer update
| _ => ⟨node, [], [], .ok none⟩

def Handled.site (handled : Handled) (tasks : List Task) : Site :=
  ⟨handled.node, tasks ++ handled.task.toList⟩

/- The call that an action makes, if it makes one. -/
def called (site : Site) : SiteAction → Option Handled
| .deliver now peer message =>
  some (handle digests contributionDigest self site.node now peer message)
| .resume index => site.tasks[index]?.map (resume self site.node)
| .activate _ => none

def siteStep (site : Site) : SiteAction → Option Site
| .deliver now peer message =>
  some ((handle digests contributionDigest self site.node now peer message).site site.tasks)
| .resume index =>
  site.tasks[index]?.map (fun task =>
    (resume self site.node task).site (site.tasks.eraseIdx index))
| .activate plan =>
  some { site with node := { site.node with plans := site.node.plans.insert plan.jobId plan } }

----
-- Origins
----

/- The job and the worker that a contribution names. -/
def namedWorker : TrainingV4Message → Option (JobId × NodeId)
| .collectiveContribute contribution => some (contribution.jobId, contribution.contributor)
| .byzantineUpdate update => some (update.jobId, update.worker)
| _ => none

/- The values of a contribution, with its worker. -/
def contributionIn : TrainingV4Message → Option (NodeId × List Int)
| .collectiveContribute contribution => some (contribution.contributor, contribution.values)
| .byzantineUpdate update => some (update.worker, update.values)
| _ => none

def isProposer (node : ReduceNode) (jobId : JobId) (peer : NodeId) : Bool :=
  node.plans[jobId]?.any (fun plan => plan.proposer == peer)

/- Values that a request holds for a worker. -/
def Holds (node : ReduceNode) (requestId : JobId) (worker : NodeId) (values : List Int) : Prop :=
  (∃ state, node.collectives[requestId]? = some state ∧
    state.contributions[worker]? = some values) ∨
  ∃ state sequence, node.byzantine[requestId]? = some state ∧
    state.updates[worker]? = some (sequence, values)

/- All that a call records or passes on is listed as taken. -/
structure Accounted (node : ReduceNode) (handled : Handled) : Prop where
  recorded : ∀ requestId worker values, Holds handled.node requestId worker values →
    Holds node requestId worker values ∨ (worker, values) ∈ handled.taken
  sent : ∀ send ∈ handled.sends, ∀ entry, contributionIn send.2 = some entry → entry ∈ handled.taken

/- The peer may speak for the worker. -/
def SpeaksFor (node : ReduceNode) (jobId : JobId) (peer worker : NodeId) : Prop :=
  peer = worker ∨ isProposer node jobId peer = true

/-
  What the step takes comes in a message of a peer that may
  speak for its worker.
-/
def Sound (site : Site) (action : SiteAction) : Prop :=
  ∀ handled, called digests contributionDigest self site action = some handled →
    Accounted site.node handled ∧ ∀ worker values, (worker, values) ∈ handled.taken →
      ∃ now peer message jobId, action = .deliver now peer message ∧
        namedWorker message = some (jobId, worker) ∧
        contributionIn message = some (worker, values) ∧ SpeaksFor site.node jobId peer worker

/-
  Nobody but its proposer gives a node a contribution in the
  node's own name.
-/
def OwnNameFromOwner (site : Site) : SiteAction → Prop
| .deliver _ peer message =>
  match namedWorker message with
  | some (jobId, worker) => worker = self → SpeaksFor site.node jobId peer self
  | none => True
| _ => True

instance (node : ReduceNode) (jobId : JobId) (peer worker : NodeId) :
    Decidable (SpeaksFor node jobId peer worker) := by
  unfold SpeaksFor
  infer_instance

instance (site : Site) (action : SiteAction) : Decidable (OwnNameFromOwner self site action) := by
  unfold OwnNameFromOwner
  split
  · split
    · infer_instance
    · infer_instance
  · infer_instance

end

----
-- Accounts of the Blocks
----

section

variable (node : ReduceNode)

theorem Accounted.of_node
    (hSent : ∀ send ∈ sends, ∀ entry, contributionIn send.2 = some entry → entry ∈ taken) :
    Accounted node ⟨node, sends, taken, result⟩ where
  recorded := fun _ _ _ hHolds => Or.inl hHolds
  sent := hSent

theorem refuse_accounted {error : Frontier.NodeError} : Accounted node (refuse node error) :=
  .of_node node (by simp)

/- Records of one request are written. -/
theorem Accounted.of_collective
    (hState : ∀ worker values, state.contributions[worker]? = some values →
      Holds node requestId worker values ∨ (worker, values) ∈ taken) :
    Accounted node ⟨putCollective node requestId state, [], taken, result⟩ where
  recorded := by
    rintro request worker values (⟨other, hOther, hValues⟩ | hByz)
    · rcases getElem?_of_insert hOther with ⟨rfl, rfl⟩ | hOther
      · exact hState worker values hValues
      · exact Or.inl (Or.inl ⟨other, hOther, hValues⟩)
    · exact Or.inl (Or.inr hByz)
  sent := by simp

theorem Accounted.of_byzantine {state : V4ByzantineState}
    (hState : ∀ worker sequence values, state.updates[worker]? = some (sequence, values) →
      Holds node requestId worker values ∨ (worker, values) ∈ taken)
    (hSent : ∀ send ∈ sends, contributionIn send.2 = none) :
    Accounted node
      ⟨{ putByzantine node requestId state with security := security }, sends, taken, result⟩ where
  recorded := by
    rintro request worker values (hColl | ⟨other, sequence, hOther, hValues⟩)
    · exact Or.inl (Or.inl hColl)
    · rcases getElem?_of_insert hOther with ⟨rfl, rfl⟩ | hOther
      · exact hState worker sequence values hValues
      · exact Or.inl (Or.inr ⟨other, sequence, hOther, hValues⟩)
  sent := by
    intro send hSend entry hEntry
    rw [hSent send hSend] at hEntry
    cases hEntry

/- The record that a block works on holds nothing new. -/
theorem enterCollective_holds {requestId : JobId}
    {fresh state : V4CollectiveState} (hFresh : fresh.contributions = ∅)
    (hEnter : enterCollective node requestId fresh = .ok state) (worker : NodeId)
    (values : List Int) (hValues : state.contributions[worker]? = some values) :
    Holds node requestId worker values := by
  unfold enterCollective at hEnter
  cases hState : node.collectives[requestId]? with
  | some held =>
    rw [hState] at hEnter
    cases hEnter
    exact Or.inl ⟨state, hState, hValues⟩
  | none =>
    rw [hState] at hEnter
    split_ifs at hEnter
    cases hEnter
    rw [hFresh] at hValues
    simp at hValues

end

theorem mergeGroup_contributions (state : V4CollectiveState)
    (contribution : V4CollectiveContribute) : (mergeGroup state contribution).contributions =
      state.contributions := by
  unfold mergeGroup
  split_ifs
  · rfl
  · rfl

/- Closing a group drops its contributions or keeps them. -/
theorem closeGroup_contributions
    (hValues : (closeGroup requestId contribution state).1.contributions[worker]? = some values) :
    state.contributions[worker]? = some values := by
  unfold closeGroup at hValues
  split_ifs at hValues
  · simp at hValues
  · exact hValues

/- What is taken is the contribution of the message. -/
theorem recordContribution_spec (node : ReduceNode) (contribution : V4CollectiveContribute) :
    Accounted node (recordContribution node contribution) ∧
      ∀ entry ∈ (recordContribution node contribution).taken,
        entry = (contribution.contributor, contribution.values) := by
  unfold recordContribution
  dsimp only
  cases hEnter : enterCollective node contribution.requestId
    (freshFromContribution contribution) with
  | error error => exact ⟨refuse_accounted node, by simp [refuse]⟩
  | ok state =>
    have hHolds := enterCollective_holds node rfl hEnter
    have hMerged : ∀ worker values, (mergeGroup state contribution).contributions[worker]? =
      some values → Holds node contribution.requestId worker values := by
      intro worker values hValues
      rw [mergeGroup_contributions] at hValues
      exact hHolds worker values hValues
    dsimp only
    split_ifs with hConflict
    · exact ⟨.of_collective node (fun worker values hValues =>
        Or.inl (hHolds worker values hValues)), by simp [refuseWith, refuse]⟩
    · split
      · split_ifs
        · exact ⟨.of_collective node (fun worker values hValues =>
            Or.inl (hMerged worker values (closeGroup_contributions hValues))), by simp⟩
        · exact ⟨.of_collective node (fun worker values hValues =>
            Or.inl (hMerged worker values hValues)), by simp [refuseWith, refuse]⟩
      · refine ⟨.of_collective node ?_, by simp⟩
        intro worker values hValues
        have hOpen := closeGroup_contributions hValues
        rcases getElem?_of_insert hOpen with ⟨rfl, rfl⟩ | hOpen
        · exact Or.inr List.mem_cons_self
        · exact Or.inl (hMerged worker values hOpen)

/- The sum of a group takes nothing from a worker. -/
theorem recordGroup_spec {fresh : V4CollectiveState} {group : GroupSum}
    {conflict duplicate : String} (hFresh : fresh.contributions = ∅) :
    Accounted node (recordGroup node fresh group conflict duplicate) ∧
      (recordGroup node fresh group conflict duplicate).taken = [] := by
  unfold recordGroup
  cases hEnter : enterCollective node group.requestId fresh with
  | error error => exact ⟨refuse_accounted node, rfl⟩
  | ok state =>
    have hHolds : ∀ worker values, state.contributions[worker]? = some values →
      Holds node group.requestId worker values ∨ (worker, values) ∈ ([] : List (NodeId × List Int))
      := by
      intro worker values hValues
      exact Or.inl (enterCollective_holds node hFresh hEnter worker values hValues)
    dsimp only
    split_ifs with hConflict
    · exact ⟨.of_collective node hHolds, rfl⟩
    · split
      · split_ifs
        · exact ⟨.of_collective node hHolds, rfl⟩
        · exact ⟨.of_collective node hHolds, rfl⟩
      · exact ⟨.of_collective node hHolds, rfl⟩

theorem resume_spec (self : NodeId) (node : ReduceNode) (task : Task) :
    Accounted node (resume self node task) ∧ (resume self node task).taken = [] := by
  cases task with
  | announce completion parent =>
    refine ⟨.of_node node ?_, rfl⟩
    intro send hSend entry hEntry
    rcases List.mem_map.mp hSend with ⟨peer, -, rfl⟩
    cases hEntry
  | finish completion => exact recordGroup_spec rfl
  | report replyTo result =>
    refine ⟨⟨?_, ?_⟩, rfl⟩
    · rintro request worker values (⟨state, hState, hValues⟩ | hByz)
      · exact Or.inl (Or.inl ⟨state, getElem?_of_erase hState, hValues⟩)
      · exact Or.inl (Or.inr hByz)
    · intro send hSend entry hEntry
      rw [List.mem_singleton.mp hSend] at hEntry
      cases hEntry

----
-- Accounts of the Handlers
----

section

section

variable (node : ReduceNode) (now : UInt64) (update : V4ByzantineUpdate)

theorem closeByzantine_spec (state : V4ByzantineState) (taken : List (NodeId × List Int))
    (hState : ∀ worker sequence values, state.updates[worker]? = some (sequence, values) →
      Holds node update.requestId worker values ∨ (worker, values) ∈ taken) :
    Accounted node (closeByzantine node now update state taken) ∧
      (closeByzantine node now update state taken).taken = taken := by
  unfold closeByzantine
  split_ifs with hAll
  · split
    · exact ⟨.of_byzantine node hState (by simp), rfl⟩
    · refine ⟨.of_byzantine node ?_ ?_, rfl⟩
      · simp
      · intro send hSend
        rw [List.mem_singleton.mp hSend]
        rfl
  · exact ⟨.of_byzantine node hState (by simp), rfl⟩

theorem recordUpdate_spec {state : V4ByzantineState}
    (hState : ∀ worker sequence values, state.updates[worker]? = some (sequence, values) →
      Holds node update.requestId worker values) :
    Accounted node (recordUpdate node now update state) ∧
      ∀ entry ∈ (recordUpdate node now update state).taken,
        entry = (update.worker, update.values) := by
  have hKept : ∀ worker sequence values, state.updates[worker]? = some (sequence, values) →
    Holds node update.requestId worker values ∨
      (worker, values) ∈ ([] : List (NodeId × List Int)) :=
    fun worker sequence values hValues =>
      Or.inl (hState worker sequence values hValues)
  unfold recordUpdate
  split_ifs with hConflict
  · exact ⟨.of_byzantine node hKept (by simp), by simp [refuseWith, refuse]⟩
  · split
    · split_ifs
      · have hClose := closeByzantine_spec node now update state [] hKept
        exact ⟨hClose.1, by simp [hClose.2]⟩
      · exact ⟨.of_byzantine node hKept (by simp), by simp [refuseWith, refuse]⟩
    · have hClose := closeByzantine_spec node now update { state with
        updates := state.updates.insert update.worker (update.sequence, update.values) }
        [(update.worker, update.values)] (by
          intro worker sequence values hValues
          rcases getElem?_of_insert hValues with ⟨rfl, ⟨⟩⟩ | hValues
          · exact Or.inr List.mem_cons_self
          · exact Or.inl (hState worker sequence values hValues))
      exact ⟨hClose.1, by simp [hClose.2]⟩

theorem takeUpdate_spec :
    Accounted node (takeUpdate node now update) ∧ ∀ entry ∈ (takeUpdate node now update).taken,
      entry = (update.worker, update.values) := by
  unfold takeUpdate
  cases hState : node.byzantine[update.requestId]? with
  | none =>
    split_ifs
    · exact ⟨refuse_accounted node, by simp [refuseWith, refuse]⟩
    · exact recordUpdate_spec node now update (by
        intro worker sequence values hValues
        simp [freshByzantine] at hValues)
  | some state =>
    dsimp only
    cases state.completed with
    | none =>
      exact recordUpdate_spec node now update (by
        intro worker sequence values hValues
        exact Or.inr ⟨state, sequence, hState, hValues⟩)
    | some result =>
      split_ifs
      · exact ⟨refuse_accounted node, by simp [refuseWith, refuse]⟩
      · refine ⟨.of_node node ?_, by simp⟩
        intro send hSend entry hEntry
        rw [List.mem_singleton.mp hSend] at hEntry
        cases hEntry

end

/- Another ledger does not change what is recorded. -/
theorem Accounted.of_security {handled : Handled}
    (hAccounted : Accounted { node with security := security } handled) : Accounted node handled :=
  ⟨hAccounted.recorded, hAccounted.sent⟩

/- A route is only found for the peer or for the local node. -/
theorem route_eq_ok {aggregator : NodeId} {notForwarded notBound : String} {chosen : Route}
    (hRoute : route self peer worker aggregator notForwarded notBound = .ok chosen) :
    worker = self ∨ worker = peer := by
  unfold route at hRoute
  split_ifs at hRoute with hAggregator hWorker hBound
  · exact Or.inl (not_ne_iff.mp hWorker)
  · by_cases hSelf : worker = self
    · exact Or.inl hSelf
    · exact Or.inr (not_ne_iff.mp (fun hPeer =>
        hBound ⟨hSelf, hPeer⟩))

/- What a handler takes names the peer or the local node. -/
def TakesNamed (self peer : NodeId) (message : TrainingV4Message) (handled : Handled) : Prop :=
  ∀ worker values, (worker, values) ∈ handled.taken → (worker = self ∨ worker = peer) ∧
    contributionIn message = some (worker, values)

/- Nothing is taken but the contribution of the message. -/
theorem TakesNamed.of_one {message : TrainingV4Message} {handled : Handled}
    (hIn : contributionIn message = some (worker, values)) (hNamed : worker = self ∨ worker = peer)
    (hTaken : ∀ entry ∈ handled.taken, entry = (worker, values)) :
    TakesNamed self peer message handled := by
  intro other found hFound
  cases hTaken _ hFound
  exact ⟨hNamed, hIn⟩

variable (digests : Tensor.StateDigests)

theorem receiveCollectiveContribution_spec :
    Accounted node (receiveCollectiveContribution digests self node peer contribution) ∧
      TakesNamed self peer (.collectiveContribute contribution)
        (receiveCollectiveContribution digests self node peer contribution) := by
  unfold receiveCollectiveContribution
  cases contributionPlan digests self node contribution with
  | error error => exact ⟨refuse_accounted node, by simp [refuse, TakesNamed]⟩
  | ok plan =>
    generalize hRoute : route self peer contribution.contributor
      contribution.aggregator _ _ = routed
    cases routed with
    | error error => exact ⟨refuse_accounted node, by simp [refuse, TakesNamed]⟩
    | ok chosen =>
      have hNamed := route_eq_ok hRoute
      cases chosen with
      | forward => exact ⟨.of_node node (by simp [contributionIn]), .of_one rfl hNamed (by simp)⟩
      | record =>
        have hSpec := recordContribution_spec node contribution
        exact ⟨hSpec.1, .of_one rfl hNamed hSpec.2⟩

variable (contributionDigest : TrainingContribution → ArtifactId) (self : NodeId)
variable (node : ReduceNode) (now : UInt64) (peer : NodeId)

theorem receiveByzantineUpdate_spec {update : V4ByzantineUpdate} :
    Accounted node (receiveByzantineUpdate digests contributionDigest self node now peer update) ∧
      TakesNamed self peer (.byzantineUpdate update)
        (receiveByzantineUpdate digests contributionDigest self node now peer update) := by
  unfold receiveByzantineUpdate
  cases updatePlan digests self node update with
  | error error => exact ⟨refuse_accounted node, by simp [refuse, TakesNamed]⟩
  | ok plan =>
    generalize hRoute : route self peer update.worker update.aggregator _ _ = routed
    cases routed with
    | error error => exact ⟨refuse_accounted node, by simp [refuse, TakesNamed]⟩
    | ok chosen =>
      have hNamed := route_eq_ok hRoute
      cases chosen with
      | forward => exact ⟨.of_node node (by simp [contributionIn]), .of_one rfl hNamed (by simp)⟩
      | record =>
        dsimp only
        generalize Security.admitTrainingUpdate contributionDigest
          node.security (contributionOf plan update) plan.workers now = checked
        cases hResult : checked.result with
        | error error =>
          exact ⟨.of_security (refuse_accounted _), by simp [refuseWith, refuse, TakesNamed]⟩
        | ok admission =>
          have hSpec := takeUpdate_spec { node with security := checked.security } now update
          exact ⟨.of_security hSpec.1, .of_one rfl hNamed hSpec.2⟩

theorem receiveCollectiveAggregate_spec (self : NodeId)
    (node : ReduceNode) (peer : NodeId) (aggregate : V4CollectiveAggregate) :
    Accounted node (receiveCollectiveAggregate digests self node peer aggregate) ∧
      (receiveCollectiveAggregate digests self node peer aggregate).taken = [] := by
  unfold receiveCollectiveAggregate
  split
  · exact ⟨refuse_accounted node, rfl⟩
  · exact recordGroup_spec rfl

theorem handle_spec (message : TrainingV4Message) :
    Accounted node (handle digests contributionDigest self node now peer message) ∧
      TakesNamed self peer message
        (handle digests contributionDigest self node now peer message) := by
  cases message with
  | collectiveContribute contribution =>
    exact receiveCollectiveContribution_spec digests
  | collectiveAggregate aggregate =>
    have hSpec := receiveCollectiveAggregate_spec digests self node peer aggregate
    refine ⟨hSpec.1, ?_⟩
    intro worker values hTaken
    rw [handle, hSpec.2] at hTaken
    cases hTaken
  | byzantineUpdate update =>
    exact receiveByzantineUpdate_spec digests contributionDigest self node now peer
  | _ =>
    exact ⟨.of_node node (by simp), by simp [TakesNamed, handle]⟩

end

----
-- Runs
----

section

variable (digests : Tensor.StateDigests) (contributionDigest : TrainingContribution → ArtifactId)
variable (self : NodeId)

/- The worker of the values is the worker that is named. -/
theorem exists_namedWorker {message : TrainingV4Message}
    (hIn : contributionIn message = some (worker, values)) :
    ∃ jobId, namedWorker message = some (jobId, worker) := by
  cases message
  all_goals
    simp only [contributionIn, Option.some.injEq, Prod.mk.injEq, reduceCtorEq] at hIn
  all_goals
    rcases hIn with ⟨rfl, -⟩
    exact ⟨_, rfl⟩

theorem sound_of_ownNameFromOwner {site : Site} {action : SiteAction}
    (hOwn : OwnNameFromOwner self site action) :
    Sound digests contributionDigest self site action := by
  intro handled hCalled
  cases action with
  | deliver now peer message =>
    cases hCalled
    have hSpec := handle_spec digests contributionDigest self site.node now peer message
    refine ⟨hSpec.1, ?_⟩
    intro worker values hTaken
    rcases hSpec.2 worker values hTaken with ⟨hWorker, hIn⟩
    rcases exists_namedWorker hIn with ⟨jobId, hNamed⟩
    refine ⟨now, peer, message, jobId, rfl, hNamed, hIn, ?_⟩
    rcases hWorker with rfl | rfl
    · simp only [OwnNameFromOwner, hNamed] at hOwn
      exact hOwn trivial
    · exact Or.inl rfl
  | resume index =>
    rcases Option.map_eq_some_iff.mp hCalled with ⟨task, -, rfl⟩
    have hSpec := resume_spec self site.node task
    refine ⟨hSpec.1, ?_⟩
    intro worker values hTaken
    rw [hSpec.2] at hTaken
    cases hTaken
  | activate plan => cases hCalled

/-
  In every run in which nobody but the proposer writes in the
  name of the local node, all values that are recorded for a
  worker or passed on come from that worker or the proposer.
-/
theorem taken_from_owner_or_proposer (start : Site) (actions : List SiteAction)
    (hOwn : Meets (siteStep digests contributionDigest self)
      (OwnNameFromOwner self) start actions) :
    Meets (siteStep digests contributionDigest self)
      (Sound digests contributionDigest self) start actions := by
  induction actions generalizing start with
  | nil => trivial
  | cons action actions ih =>
    refine ⟨sound_of_ownNameFromOwner digests contributionDigest self hOwn.1, ?_⟩
    intro next hNext
    exact ih next (hOwn.2 next hNext)

end

----
-- A Small Run
----

def sgdSite : Site := ⟨sgdNode {}, []⟩

/-
  Worker 2 passes on what the proposer gave it, and records as
  an aggregator what worker 4 sent.
-/
def ownedActions : List SiteAction :=
  [.deliver 0 sgdPlan.proposer (.byzantineUpdate (sgdUpdate ⟨2⟩ ⟨3⟩ [5])),
    .deliver 0 ⟨4⟩ (.byzantineUpdate (sgdUpdate ⟨4⟩ ⟨2⟩ [6]))]

theorem taken_from_owner_of_four :
    (run (siteStep Tensor.modelDigests sgdDigest ⟨2⟩) sgdSite ownedActions).any (fun site =>
      (site.node.byzantine[(⟨11⟩ : JobId)]?.any (fun state => state.updates.size == 1))) = true ∧
      Meets (siteStep Tensor.modelDigests sgdDigest ⟨2⟩)
        (Sound Tensor.modelDigests sgdDigest ⟨2⟩) sgdSite
        ownedActions := by
  refine ⟨by decide +kernel, ?_⟩
  exact taken_from_owner_or_proposer Tensor.modelDigests
    sgdDigest ⟨2⟩ sgdSite ownedActions (by decide +kernel)

/- Node 8, a stranger, writes an update of worker 2. -/
def forgedActions : List SiteAction :=
  [.deliver 0 ⟨8⟩ (.byzantineUpdate (sgdUpdate ⟨2⟩ ⟨3⟩ [5]))]

/- Worker 2 passes it on as its own. -/
theorem stranger_speaks_for_worker : ¬ Meets (siteStep Tensor.modelDigests sgdDigest ⟨2⟩)
    (Sound Tensor.modelDigests sgdDigest ⟨2⟩) sgdSite
    forgedActions := by
  intro hMeets
  have hTaken : ((⟨2⟩ : NodeId), [(5 : Int)]) ∈
    (handle Tensor.modelDigests sgdDigest ⟨2⟩ sgdSite.node 0
      ⟨8⟩ (.byzantineUpdate (sgdUpdate ⟨2⟩ ⟨3⟩ [5]))).taken := by
    decide +kernel
  rcases (hMeets.1 _ rfl).2 _ _ hTaken with ⟨now, peer, message, jobId, hAction, hNamed, -, hSpeaks⟩
  cases hAction
  cases hNamed
  revert hSpeaks
  decide +kernel

end IntelligenceNetwork.Reduction
