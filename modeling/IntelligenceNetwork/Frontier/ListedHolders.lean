import IntelligenceNetwork.Frontier.ShardKept

/-
  The holders that a committed plan names.

  The plan that a migration commits lists its old owner as a
  replica, and the old owner drops its copy as soon as the plan
  is acknowledged.

  Main declarations:
    * `ListedHold`
    * `PlanInv`
    * `listed_hold_iff_unplanned`
-/

----
-- Committed Plans
----

namespace IntelligenceNetwork.Frontier

open Transition Validation

variable {after member : Member} {confirmed : Prop} {digests : Digests}
variable {first plan : V4TrainingPlan} {migrated : Migrated} {route : Route}
variable {shard : V4LocalDataShard} {stage : Option MigrateStage} {nodes : NodeId → Member}

section

def ownershipIn (plan : V4TrainingPlan) (shardId : UInt16) : Option V4ShardOwnership :=
  plan.shards.find? (·.shardId == shardId)

/- All holders that the plan names for the shard have it. -/
def ListedHold (digests : Digests) (nodes : NodeId → Member) (shardId : UInt16)
    (plan : V4TrainingPlan) (node : NodeId) : Prop :=
  ∀ ownership, ownershipIn plan shardId = some ownership →
    node ∈ ownership.owners ++ ownership.replicas → HoldsBytes digests (nodes node) shardId
      ownership.contentHash

/- The later plan names no new holder but the target. -/
def HoldersFrom (route : Route) (first plan : V4TrainingPlan) : Prop :=
  ∀ ownership, ownershipIn plan route.shardId = some ownership →
    ∃ before, ownershipIn first route.shardId = some before ∧
      ownership.contentHash = before.contentHash ∧
      ∀ node ∈ ownership.owners ++ ownership.replicas, node = route.target ∨
        node ∈ before.owners ++ before.replicas

theorem dedupAdjacent_cons {node : NodeId} {nodes : List NodeId} :
    ∃ rest, dedupAdjacent (node :: nodes) = node :: rest := by
  rw [dedupAdjacent]
  cases dedupAdjacent nodes with
  | nil => exact ⟨[], rfl⟩
  | cons next rest =>
    dsimp only
    split_ifs with hSame
    · exact ⟨rest, by rw [hSame]⟩
    · exact ⟨next :: rest, rfl⟩

theorem find?_set_findIdx {α : Type} {accepts : α → Bool} {items : List α} {item found : α}
    (hFound : items.find? accepts = some found) (hItem : accepts item = true) :
    (items.set (items.findIdx accepts) item).find? accepts = some item := by
  induction items with
  | nil => cases hFound
  | cons first items ih =>
    rw [List.findIdx_cons]
    cases hFirst : accepts first with
    | true =>
      simp only [cond_true, List.set_cons_zero]
      rw [List.find?_cons, hItem]
    | false =>
      simp only [cond_false, List.set_cons_succ]
      rw [List.find?_cons, hFirst] at hFound ⊢
      exact ih hFound

/- A plan that is committed keeps its old owner as a replica. -/
structure Committed (route : Route) (plan next : V4TrainingPlan) : Prop where
  valid : v4Plan next = .ok ()
  holders : HoldersFrom route plan next
  source : ∃ ownership, ownershipIn next route.shardId = some ownership ∧
    route.source ∈ ownership.replicas

theorem commitPlanShardMigration_committed {next : V4TrainingPlan} {ownershipGeneration : UInt64}
    {contentHash : ArtifactId} {stateBytes : UInt64} (hValid : v4Plan plan = .ok ())
    (hNext : commitPlanShardMigration digests route.source plan
      route.shardId route.target ownershipGeneration contentHash stateBytes =
      .ok next) : Committed route plan next := by
  unfold commitPlanShardMigration at hNext
  cases hFound : plan.shards.find? (·.shardId == route.shardId) with
  | none =>
    rw [hFound] at hNext
    cases hNext
  | some shard =>
    rw [hFound] at hNext
    dsimp only at hNext
    split_ifs at hNext with hOwner hGeneration hWorker hContent
    rw [not_or, not_not, not_not] at hContent
    split at hNext
    · cases hNext
    · rename_i hNextOk
      cases hNext
      have hMember := List.mem_of_find?_eq_some hFound
      have hFacts := (planFacts_of_ok hValid).shards shard hMember
      -- a shard of a checked plan has one owner: the source
      have hOwners : shard.owners = [route.source] := by
        rcases List.length_eq_one_iff.mp hFacts.owner with ⟨owner, hOnly⟩
        have hSelf : route.source ∈ shard.owners := by
          simpa using hOwner
        rw [hOnly, List.mem_singleton] at hSelf
        rw [hOnly, hSelf]
      have hMoved : ownershipIn (movedPlan digests plan route.shardId
        (movedOwnership route.target ownershipGeneration contentHash stateBytes shard))
        route.shardId =
        some
          (movedOwnership route.target ownershipGeneration contentHash stateBytes shard) := by
        apply find?_set_findIdx hFound
        have hSame := List.find?_some hFound
        exact hSame
      refine ⟨hNextOk, ?_, _, hMoved, ?_⟩
      · intro ownership hOwnership
        rw [hMoved] at hOwnership
        cases hOwnership
        refine ⟨shard, hFound, hContent.1.symm, ?_⟩
        intro node hNode
        rcases List.mem_append.mp hNode with hNew | hKept
        · exact Or.inl (List.mem_singleton.mp hNew)
        · right
          have hListed := mem_dedupAdjacent.mp (List.mem_of_mem_take hKept)
          exact (List.mem_filter.mp hListed).1
      · change route.source ∈ (dedupAdjacent _).take 16
        have hFirst : (shard.owners ++ shard.replicas).filter (· ≠ route.target) = route.source ::
          shard.replicas.filter (· ≠ route.target) := by
          rw [hOwners, List.singleton_append, List.filter_cons,
            if_pos (decide_eq_true route.distinct)]
        rw [hFirst]
        rcases dedupAdjacent_cons with ⟨rest, hRest⟩
        rw [hRest]
        exact List.mem_cons_self

theorem HoldersFrom.refl (plan : V4TrainingPlan) : HoldersFrom route plan plan := by
  intro ownership hOwnership
  exact ⟨ownership, hOwnership, rfl, fun node => Or.inr⟩

theorem HoldersFrom.trans {second third : V4TrainingPlan}
    (hFirst : HoldersFrom route first second) (hSecond : HoldersFrom route second third) :
    HoldersFrom route first third := by
  intro ownership hOwnership
  rcases hSecond ownership hOwnership with ⟨middle, hMiddle, hHash, hHolders⟩
  rcases hFirst middle hMiddle with ⟨before, hBefore, hMiddleHash, hMiddleHolders⟩
  refine ⟨before, hBefore, hHash.trans hMiddleHash, ?_⟩
  intro node hNode
  rcases hHolders node hNode with hTarget | hOld
  · exact Or.inl hTarget
  · exact hMiddleHolders node hOld

/- The source has a plan if it had one, with the same holders. -/
def PlanKept (route : Route) : Option V4TrainingPlan → Option V4TrainingPlan → Prop
| none, none => True
| some first, some plan => v4Plan plan = .ok () ∧ HoldersFrom route first plan
| _, _ => False

/- What a call that succeeds may return. -/
def Returned (route : Route) : Option V4TrainingPlan → Option V4TrainingPlan → Prop
| none, none => True
| some first, some plan =>
  HoldersFrom route first plan ∧ ∃ ownership, ownershipIn plan route.shardId = some ownership ∧
        route.source ∈ ownership.replicas
| _, _ => False

structure PlanMove (route : Route) (first : Option V4TrainingPlan)
    (migrated : Migrated) : Prop where
  plan : PlanKept route first migrated.member.held.plan
  updating : ∀ shard plan pending, migrated.next.stage = some (.updating shard plan pending) →
    Returned route first (some plan)
  returned : ∀ committed, migrated.next.result = some (.ok committed) →
    migrated.member.held.dataShards[route.shardId]? = none ∧ Returned route first committed

variable {first : Option V4TrainingPlan}

/- A committed plan is one that a call may return. -/
theorem Commits.kept (hCommits : Commits digests route member plan after)
    (hPlan : PlanKept route first member.held.plan) :
    PlanKept route first after.held.plan ∧ Returned route first (some plan) := by
  cases hCommits with
  | intro hHeld hNext =>
    rw [hHeld] at hPlan
    cases first with
    | none => cases hPlan
    | some start =>
      have hCommitted := commitPlanShardMigration_committed hPlan.1 hNext
      have hHolders := hPlan.2.trans hCommitted.holders
      exact ⟨⟨hCommitted.valid, hHolders⟩, hHolders, hCommitted.source⟩

variable (hPlan : PlanKept route first member.held.plan)
  (hUpdating : ∀ shard plan pending, stage = some (.updating shard plan pending) →
    Returned route first (some plan))

include hPlan hUpdating

theorem Drops.kept {plan : Option V4TrainingPlan}
    (hDrops : Drops digests route member stage after plan) :
    PlanKept route first after.held.plan ∧ Returned route first plan := by
  cases hDrops with
  | unplanned hNone =>
    refine ⟨hPlan, ?_⟩
    rw [hNone] at hPlan
    cases first with
    | none => trivial
    | some start => cases hPlan
  | updated hStage => exact ⟨hPlan, hUpdating _ _ _ hStage⟩
  | committed hCommits => exact hCommits.kept hPlan

theorem CallMove.planMove (hMove : CallMove digests route shard member stage confirmed migrated) :
    PlanMove route first migrated := by
  cases hMove with
  | fails error => exact ⟨hPlan, fun _ _ _ => nofun, fun _ => nofun⟩
  | aborts error => exact ⟨hPlan, fun _ _ _ => nofun, fun _ => nofun⟩
  | sends next state phase sent hShard hConfirmed hNext _ _ =>
    cases sent with
    | false => exact ⟨hPlan, fun _ _ _ => nofun, fun _ => nofun⟩
    | true =>
      refine ⟨hPlan, ?_, fun _ => nofun⟩
      intro shard plan pending hStage
      exact absurd (Option.some.inj hStage) (hNext shard plan pending)
  | waits next _ hConfirmed hUpdates =>
    refine ⟨hPlan, ?_, fun _ => nofun⟩
    intro shard plan pending hStage
    rcases hUpdates shard plan pending (Option.some.inj hStage) with ⟨shard, pending, hBefore⟩
    exact hUpdating shard plan pending hBefore
  | updates hConfirmed hCommits =>
    rcases hCommits.kept hPlan with ⟨hKept, hReturned⟩
    refine ⟨hKept, ?_, fun _ => nofun⟩
    intro _ _ _ hStage
    cases hStage
    exact hReturned
  | retires env _ hDrops =>
    rcases hDrops.kept hPlan hUpdating with ⟨hKept, hReturned⟩
    unfold retireShard
    split_ifs
    · refine ⟨hKept, fun _ _ _ => nofun, ?_⟩
      rintro committed ⟨⟩
      refine ⟨?_, hReturned⟩
      rw [OrderedMap.getElem?_erase, if_pos rfl]
    · exact ⟨hKept, fun _ _ _ => nofun, fun _ => nofun⟩

end

----
-- Holders That Plans Name
----

variable {net next : MigrationNet}

/- What holds in every run that starts from these nodes. -/
structure PlanInv (route : Route) (nodes : NodeId → Member) (net : MigrationNet) : Prop where
  addressed : ∀ parcel ∈ net.log, ∃ shard, Sound route shard parcel.target parcel.message
  plan : PlanKept route (nodes route.source).held.plan (net.nodes route.source).held.plan
  updating : ∀ shard plan pending, net.stage = some (.updating shard plan pending) →
    Returned route (nodes route.source).held.plan (some plan)
  returned : ∀ committed, net.result = some (.ok committed) → sourceShard route net = none ∧
    Returned route (nodes route.source).held.plan committed
  others : ∀ node, node ≠ route.source → node ≠ route.target →
    ∀ bytes, Copied (nodes node) route.shardId bytes → Copied (net.nodes node) route.shardId bytes

theorem planInv_initial (hValid : ∀ plan, (nodes route.source).held.plan = some plan →
    v4Plan plan = .ok ()) :
    PlanInv route nodes (MigrationNet.initial nodes) where
  addressed := fun _ => nofun
  plan := by
    change PlanKept route _ (nodes route.source).held.plan
    cases hPlan : (nodes route.source).held.plan with
    | none => trivial
    | some plan => exact ⟨hValid plan hPlan, HoldersFrom.refl plan⟩
  updating := fun _ _ _ => nofun
  returned := fun _ => nofun
  others := fun _ _ _ _ hCopied => hCopied

theorem PlanInv.moved (hInv : PlanInv route nodes net)
    (hMoves : PlanMove route (nodes route.source).held.plan migrated)
    (hSends : ∀ send ∈ migrated.sends, ∃ shard, Sound route shard send.1 send.2) :
    PlanInv route nodes (net.moved route.source migrated) := by
  constructor
  · intro parcel hParcel
    rcases mem_moved_log hParcel with hOld | ⟨send, hSend, rfl⟩
    · exact hInv.addressed parcel hOld
    · exact hSends send hSend
  · simpa only [MigrationNet.moved, Function.update_self] using hMoves.plan
  · exact hMoves.updating
  · intro committed hResult
    rw [sourceShard_moved]
    exact hMoves.returned committed hResult
  · intro node hSource hTarget bytes hCopied
    have hBefore := hInv.others node hSource hTarget bytes hCopied
    simpa only [MigrationNet.moved, Function.update_of_ne hSource] using hBefore

theorem PlanInv.callMoved (hInv : PlanInv route nodes net)
    (hMove : CallMove digests route shard (net.nodes route.source) net.stage confirmed migrated) :
    PlanInv route nodes (net.moved route.source migrated) :=
  hInv.moved (hMove.planMove hInv.plan hInv.updating)
    (fun send hSend => ⟨shard, hMove.sourceMove.sound send hSend⟩)

theorem PlanInv.handled {parcel : Parcel} {handled : Handled Unit} (hInv : PlanInv route nodes net)
    (hOther : parcel.target ≠ route.source)
    (hCopies : parcel.target ≠ route.target → ∀ shardId bytes,
      Copied (net.nodes parcel.target) shardId bytes → Copied handled.member shardId bytes)
    (hAnswers : ∀ target message, .send target message ∈ handled.effects →
      ∃ shard, Sound route shard target message) :
    PlanInv route nodes (net.handled parcel handled) := by
  constructor
  · intro entry hEntry
    rcases List.mem_append.mp hEntry with hOld | hNew
    · exact hInv.addressed entry hOld
    · rcases List.mem_filterMap.mp hNew with ⟨effect, hEffect, hMade⟩
      cases effect with
      | send target message =>
        cases hMade
        exact hAnswers target message hEffect
      | _ => cases hMade
  · simpa only [MigrationNet.handled, Function.update_of_ne hOther.symm] using hInv.plan
  · exact hInv.updating
  · intro committed hResult
    simpa only [sourceShard, MigrationNet.handled, Function.update_of_ne hOther.symm]
      using hInv.returned committed hResult
  · intro node hSource hTarget bytes hCopied
    have hBefore := hInv.others node hSource hTarget bytes hCopied
    by_cases hHere : node = parcel.target
    · subst hHere
      simpa only [MigrationNet.handled, Function.update_self]
        using hCopies hTarget route.shardId bytes hBefore
    · simpa only [MigrationNet.handled, Function.update_of_ne hHere] using hBefore

theorem PlanInv.step {action : MigrationAction} (hInv : PlanInv route nodes net)
    (hStep : migrationStep digests route net action = some next) : PlanInv route nodes next := by
  cases action with
  | call env =>
    rw [migrationStep] at hStep
    split_ifs at hStep with hBusy
    cases hStep
    have hCalled : PlanInv route nodes { net with calls := net.calls + 1 } :=
      ⟨hInv.addressed, hInv.plan, hInv.updating, hInv.returned, hInv.others⟩
    rcases migrateShard_moves digests with ⟨error, hRefused⟩ | ⟨shard, -, hMoves⟩
    · rw [hRefused]
      refine hCalled.moved ⟨hInv.plan, ?_, ?_⟩ ?_
      · intro _ _ _ hStage
        cases hStage
      · intro _ hReturned
        cases hReturned
      · intro _ hSend
        cases hSend
    · have hIdle : net.stage = none := by
        simpa using hBusy
      exact hCalled.callMoved (hIdle ▸ hMoves)
  | deliver index handler env =>
    rcases Option.bind_eq_some_iff.mp hStep with ⟨parcel, hFound, hDeliver⟩
    have hParcel := List.mem_of_getElem? hFound
    rcases hInv.addressed parcel hParcel with ⟨shard, hSound⟩
    unfold MigrationNet.deliver at hDeliver
    rcases handleMessage_of_sound hSound with
      ⟨migration, hMessage, hHandled⟩ | ⟨plan, hMessage, hHandled⟩ | hMailbox
    · rw [hHandled] at hDeliver
      cases hDeliver
      rw [hMessage] at hSound
      apply hInv.handled
      · rw [hSound.1]
        exact route.distinct.symm
      · intro hOther
        exact absurd hSound.1 hOther
      · intro target message hSend
        rcases (receiveShardMigration_copies digests parcel.target).2 target message hSend with
          ⟨rfl, -⟩
        exact ⟨shard, trivial⟩
    · rw [hHandled] at hDeliver
      cases hDeliver
      rw [hMessage] at hSound
      have hKeeps := receivePlan_copies digests parcel.target handler
        (net.nodes parcel.target) parcel.sender plan
      apply hInv.handled hSound
      · exact fun _ => hKeeps.copies
      · intro target message hSend
        rcases hKeeps.sends target message hSend with ⟨ack, rfl⟩
        exact ⟨shard, trivial⟩
    · rw [hMailbox] at hDeliver
      split_ifs at hDeliver with hHere
      rcases Option.map_eq_some_iff.mp hDeliver with ⟨stage, hStage, rfl⟩
      exact hInv.callMoved (hStage ▸ migrateReceive_moves digests route env (net.nodes route.source)
        stage parcel.sender parcel.message)
  | timeout =>
    rcases Option.map_eq_some_iff.mp hStep with ⟨stage, hStage, rfl⟩
    exact hInv.callMoved
      (hStage ▸ migrateTimeout_moves digests route (net.nodes route.source) stage)

theorem holdsBytes_iff_copied {shardId : UInt16} {hash : ArtifactId} :
    HoldsBytes digests member shardId hash ↔ ∃ bytes, Copied member shardId bytes ∧
      digests.bytes bytes = hash := by
  constructor
  · rintro ⟨shard, hShard, hHash⟩
    exact ⟨shard.bytes, ⟨shard, hShard, rfl⟩, hHash⟩
  · rintro ⟨bytes, ⟨shard, hShard, rfl⟩, hHash⟩
    exact ⟨shard, hShard, hHash⟩

/- The source was among the holders that the plan named. -/
theorem PlanInv.sourceListed (hInv : PlanInv route nodes net)
    (hPlan : (nodes route.source).held.plan = some first)
    (hResult : net.result = some (.ok (some plan))) :
    ∃ before, ownershipIn first route.shardId = some before ∧
      route.source ∈ before.owners ++ before.replicas := by
  have hReturned := (hInv.returned (some plan) hResult).2
  rw [hPlan] at hReturned
  rcases hReturned with ⟨hHolders, ownership, hOwnership, hReplica⟩
  rcases hHolders ownership hOwnership with ⟨before, hBefore, -, hNodes⟩
  refine ⟨before, hBefore, ?_⟩
  rcases hNodes route.source (List.mem_append_right _ hReplica) with hTarget | hOld
  · exact absurd hTarget route.distinct
  · exact hOld

/-
  All holders but the source have the bytes, if the source has
  not dropped them too early.
-/
theorem PlanInv.listed (hInv : PlanInv route nodes net) (hKept : MigrationInv route shard net)
    (hShard : (nodes route.source).held.dataShards[route.shardId]? = some shard)
    (hFirst : ∀ first, (nodes route.source).held.plan = some first →
      ∀ node, ListedHold digests nodes route.shardId first node)
    (hResult : net.result = some (.ok (some plan))) (node : NodeId) (hOther : node ≠ route.source) :
    ListedHold digests net.nodes route.shardId plan node := by
  rcases hInv.returned (some plan) hResult with ⟨hDropped, hReturned⟩
  cases hPlan : (nodes route.source).held.plan with
  | none =>
    rw [hPlan] at hReturned
    cases hReturned
  | some first =>
    rw [hPlan] at hReturned
    intro ownership hOwnership hListed
    rcases hReturned.1 ownership hOwnership with ⟨before, hBefore, hHash, hHolders⟩
    rw [hHash, holdsBytes_iff_copied]
    by_cases hTarget : node = route.target
    · subst hTarget
      rcases hKept.source with hHeld | ⟨-, -, hCopied⟩
      · rw [hDropped] at hHeld
        cases hHeld
      · refine ⟨shard.bytes, hCopied, ?_⟩
        rcases hInv.sourceListed hPlan hResult with ⟨same, hSame, hOwned⟩
        rw [hBefore] at hSame
        cases hSame
        rcases hFirst first hPlan route.source before hBefore hOwned with ⟨held, hHeld, hBytes⟩
        rw [hShard] at hHeld
        cases hHeld
        exact hBytes
    · have hWas : node ∈ before.owners ++ before.replicas := by
        rcases hHolders node hListed with hNew | hOld
        · exact absurd hNew hTarget
        · exact hOld
      rcases holdsBytes_iff_copied.mp (hFirst first hPlan node before hBefore hWas) with
        ⟨bytes, hCopied, hBytes⟩
      exact ⟨bytes, hInv.others node hOther hTarget bytes hCopied, hBytes⟩

/-
  The holders that a committed plan names have the bytes only
  where there is no plan.  All of them but the source do, if
  neither aborts nor answers outlive their call.
-/
theorem listed_hold_iff_unplanned (digests : Digests) (route : Route) (nodes : NodeId → Member)
    (actions : List MigrationAction) (final : MigrationNet) (committed : Option V4TrainingPlan)
    (hValid : ∀ plan, (nodes route.source).held.plan = some plan → v4Plan plan = .ok ())
    (hListed : ∀ plan, (nodes route.source).held.plan = some plan →
      ∀ node, ListedHold digests nodes route.shardId plan node)
    (hRun : run (migrationStep digests route) (MigrationNet.initial nodes) actions = some final)
    (hReturned : final.result = some (.ok committed)) :
    ((∀ plan, committed = some plan → ∀ node, ListedHold digests final.nodes route.shardId plan
      node) ↔ (nodes route.source).held.plan = none) ∧
    (Meets (migrationStep digests route) (fun net action => fresh net action = true)
      (MigrationNet.initial nodes) actions →
      ∀ plan, committed = some plan → ∀ node, node ≠ route.source →
        ListedHold digests final.nodes route.shardId plan node) := by
  have hInv : PlanInv route nodes final := always_of_run (PlanInv route nodes)
    (fun _ _ _ hInv hStep => hInv.step hStep) (planInv_initial hValid) hRun
  rcases hInv.returned committed hReturned with ⟨hDropped, hPlans⟩
  constructor
  · constructor
    · intro hAll
      cases hPlan : (nodes route.source).held.plan with
      | none => rfl
      | some first =>
        rw [hPlan] at hPlans
        cases committed with
        | none => cases hPlans
        | some plan =>
          rcases hPlans.2 with ⟨ownership, hOwnership, hReplica⟩
          rcases hAll plan rfl route.source ownership hOwnership
            (List.mem_append_right _ hReplica) with
            ⟨shard, hHeld, -⟩
          rw [sourceShard, hHeld] at hDropped
          cases hDropped
    · rintro hNone plan rfl
      rw [hNone] at hPlans
      cases hPlans
  · rintro hMeets plan rfl node hOther
    cases hPlan : (nodes route.source).held.plan with
    | none =>
      rw [hPlan] at hPlans
      cases hPlans
    | some first =>
      rcases hInv.sourceListed hPlan hReturned with ⟨before, hBefore, hOwned⟩
      rcases hListed first hPlan route.source before hBefore hOwned with ⟨shard, hShard, -⟩
      have hKept : MigrationInv route shard final := by
        apply invariant_of_run (MigrationInv route shard) _ (migrationInv_initial hShard)
          hMeets hRun
        intro net action next hInv hFresh hStep
        exact hInv.step hFresh hStep
      exact hInv.listed hKept hShard hListed hReturned node hOther

/- The two bytes as shard 0 of the plan: node 1, then node 3. -/
def shardedPlan : V4TrainingPlan :=
  let plan : V4TrainingPlan :=
    { smallStart.plan with
      shards := smallStart.plan.shards.map (fun shard =>
        { shard with contentHash := ⟨3⟩, stateBytes := 2 }) }
  { plan with planHash := hashPlan smallDigests plan }

def plannedNodes (node : NodeId) : Member :=
  let holder :=
    if node = ⟨1⟩ ∨ node = ⟨3⟩ then withShard (Member.new {}) else Member.new {}
  { holder with held := { holder.held with plan := some shardedPlan } }

/- A call, with the plan acknowledged by three nodes. -/
def plannedCall : List MigrationAction :=
  .call {} :: (List.range 10).map delivered

theorem plannedCall_runs :
    (run (migrationStep smallDigests smallRoute) (MigrationNet.initial plannedNodes)
      plannedCall).isSome = true := by
  decide +kernel

def plannedNet : MigrationNet :=
  (run (migrationStep smallDigests smallRoute)
    (MigrationNet.initial plannedNodes) plannedCall).get plannedCall_runs

theorem shardedPlan_held (node : NodeId) :
    ListedHold smallDigests plannedNodes 0 shardedPlan node := by
  have hNames : (ownershipIn shardedPlan 0).all (fun ownership =>
    ownership.contentHash == ⟨3⟩ && (ownership.owners ++ ownership.replicas).all
      (fun node => node == ⟨1⟩ || node == ⟨3⟩)) = true := by
    decide +kernel
  intro ownership hOwnership hListed
  rw [hOwnership, Option.all_some, Bool.and_eq_true, beq_iff_eq, List.all_eq_true] at hNames
  have hNode := hNames.2 node hListed
  rw [Bool.or_eq_true, beq_iff_eq, beq_iff_eq] at hNode
  rw [hNames.1]
  refine ⟨smallShard, ?_, by decide +kernel⟩
  rcases hNode with rfl | rfl
  · decide +kernel
  · decide +kernel

/- The call returns a plan with node 1 as a replica. -/
theorem plannedCall_returns : ∃ plan ownership, plannedNet.result = some (.ok (some plan)) ∧
    ownershipIn plan 0 = some ownership ∧ ⟨1⟩ ∈ ownership.replicas := by
  have hMoved : (plannedNet.result.bind (·.toOption.join)).any (fun plan =>
      (ownershipIn plan 0).any (fun ownership => ownership.replicas.contains ⟨1⟩)) = true := by
    decide +kernel
  rcases (Option.any_eq_true _ _).mp hMoved with ⟨plan, hPlan, hListed⟩
  rcases (Option.any_eq_true _ _).mp hListed with ⟨ownership, hOwnership, hOne⟩
  rcases Option.bind_eq_some_iff.mp hPlan with ⟨result, hResult, hJoin⟩
  cases result with
  | error error => cases hJoin
  | ok returned =>
    cases hJoin
    exact ⟨plan, ownership, hResult, hOwnership, by simpa using hOne⟩

/- The other holders of the new plan have the bytes. -/
theorem listed_hold_plannedCall : ∃ plan, plannedNet.result = some (.ok (some plan)) ∧
    (¬ ∀ node, ListedHold smallDigests plannedNet.nodes 0 plan node) ∧
    ∀ node, node ≠ ⟨1⟩ → ListedHold smallDigests plannedNet.nodes 0 plan node := by
  obtain ⟨plan, -, hReturned, -, -⟩ := plannedCall_returns
  have hPlan : (plannedNodes ⟨1⟩).held.plan = some shardedPlan := rfl
  have hBoth := listed_hold_iff_unplanned smallDigests smallRoute plannedNodes plannedCall
    plannedNet (some plan) (by
      rintro _ ⟨⟩
      decide +kernel)
    (by
      rintro _ ⟨⟩
      exact shardedPlan_held)
    (Option.some_get plannedCall_runs).symm hReturned
  refine ⟨plan, hReturned, ?_, hBoth.2 (by decide +kernel) plan rfl⟩
  intro hAll
  have hNone := hBoth.1.mp (by
    rintro _ ⟨⟩
    exact hAll)
  cases hPlan.symm.trans hNone

/- Node 1 is a replica of the new plan and has nothing. -/
theorem listed_hold_fails_plannedCall : v4Plan shardedPlan = .ok () ∧
    (plannedNodes ⟨1⟩).held.plan = some shardedPlan ∧
    (∀ node, ListedHold smallDigests plannedNodes 0 shardedPlan node) ∧
    smallRoute.target ∈ shardedPlan.workers ∧
    run (migrationStep smallDigests smallRoute)
      (MigrationNet.initial plannedNodes) plannedCall = some plannedNet ∧
    ∃ plan, plannedNet.result = some (.ok (some plan)) ∧ ¬ ∀ node,
      ListedHold smallDigests plannedNet.nodes 0 plan
        node := by
  have hDropped : (plannedNet.nodes ⟨1⟩).held.dataShards[(0 : UInt16)]? = none := by
    decide +kernel
  refine ⟨by decide +kernel, rfl, shardedPlan_held,
    by decide +kernel, (Option.some_get plannedCall_runs).symm, ?_⟩
  obtain ⟨plan, ownership, hReturned, hOwnership, hOne⟩ := plannedCall_returns
  refine ⟨plan, hReturned, ?_⟩
  intro hAll
  rcases hAll ⟨1⟩ ownership hOwnership (List.mem_append_right _ hOne) with ⟨shard, hHeld, -⟩
  rw [hDropped] at hHeld
  cases hHeld

end IntelligenceNetwork.Frontier
