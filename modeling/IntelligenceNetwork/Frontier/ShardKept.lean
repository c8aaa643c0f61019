import IntelligenceNetwork.Frontier.Migration

/-
  What a migration keeps.

  A shard is at the source until the source drops it, and the
  target has a copy from its first answer on.  If no abort and
  no answer outlives its call, one of the two has the bytes.

  Main declarations:
    * `CallMove`
    * `fresh`
    * `MigrationInv`
    * `shard_kept`
-/

----
-- Handlers and Copies
----

namespace IntelligenceNetwork.Frontier

open Transition OrderedMap

variable {member : Member} {message : TrainingV4Message} {migration : V4ShardMigration}
variable {peer self : NodeId} {plan : V4TrainingPlan} {env : MigrateEnv} {migrated : Migrated}
variable {route : Route} {stage : Option MigrateStage} {net : MigrationNet} {parcel : Parcel}

section

variable (digests : Digests) (self : NodeId)

/- The node has the bytes under the shard's id. -/
def Copied (member : Member) (shardId : UInt16) (bytes : List UInt8) : Prop :=
  ∃ shard, member.held.dataShards[shardId]? = some shard ∧ shard.bytes = bytes

/- A handler keeps the copies that are there and sends only some messages. -/
structure KeepsCopies (member : Member) (answers : TrainingV4Message → Prop)
    (handled : Handled Unit) : Prop where
  copies : ∀ shardId bytes, Copied member shardId bytes → Copied handled.member shardId bytes
  sends : ∀ target message, .send target message ∈ handled.effects → answers message

section

variable {answers : TrainingV4Message → Prop}

theorem KeepsCopies.rejected (error : NodeError) :
    KeepsCopies member answers (rejectWith member error) :=
  ⟨fun _ _ hCopied => hCopied, fun _ _ => nofun⟩

theorem KeepsCopies.answered {after : Member} {result : Except NodeError Unit}
    (hMessage : answers message)
    (hCopies : ∀ shardId bytes, Copied member shardId bytes → Copied after shardId bytes) :
    KeepsCopies member answers ⟨after, [.send peer message], result⟩ := by
  refine ⟨hCopies, ?_⟩
  intro target sent hSend
  cases List.mem_singleton.mp hSend
  exact hMessage

end

/- A preparation keeps what is there, and answers for a copy. -/
theorem prepareMigration_copies (env : HandlerEnv) (member : Member) (peer : NodeId)
    (migration : V4ShardMigration) :
    let handled := prepareMigration digests self env member peer migration
    KeepsCopies member (fun message => message = migrationAck self migration ∧
      Copied handled.member migration.shardId migration.state) handled := by
  intro handled
  unfold handled prepareMigration
  by_cases hShape : (migration.state.isEmpty || migration.state.length > v4MaxStateBytes) = true
  · rw [if_pos hShape]
    exact .rejected _
  rw [if_neg hShape]
  by_cases hHash : digests.bytes migration.state ≠ migration.contentHash
  · rw [if_pos hHash]
    exact .rejected _
  cases hExisting : member.held.dataShards[migration.shardId]? with
  | some existing =>
    dsimp only
    split_ifs with hSame
    · simp only [Bool.and_eq_true, beq_iff_eq] at hSame
      exact .answered ⟨rfl, existing, hExisting, hSame.2⟩ (fun _ _ hCopied => hCopied)
    · exact .rejected _
  | none =>
    split_ifs with hWritten
    · exact .rejected _
    · refine .answered ⟨rfl, migratedShard migration, ?_, rfl⟩ ?_
      · change (member.held.dataShards.insert _ _)[migration.shardId]? = _
        rw [getElem?_insert, if_pos rfl]
      · rintro shardId bytes ⟨shard, hShard, hBytes⟩
        have hOther : migration.shardId ≠ shardId := by
          rintro rfl
          rw [hExisting] at hShard
          cases hShard
        refine ⟨shard, ?_, hBytes⟩
        rw [getElem?_insert, if_neg hOther]
        exact hShard

/-
  Only an abort takes anything away, and every answer to a
  preparation comes with a copy.
-/
theorem receiveShardMigration_copies {env : HandlerEnv} :
    let handled := receiveShardMigration digests self env member peer migration
    (migration.phase ≠ .abort → ∀ shardId bytes, Copied member shardId bytes →
      Copied handled.member shardId bytes) ∧
      ∀ target message, .send target message ∈ handled.effects →
        message = migrationAck self migration ∧
          (migration.phase = .prepare → Copied handled.member migration.shardId
            migration.state) := by
  intro handled
  unfold handled receiveShardMigration
  by_cases hBound : (!migrationBound self peer migration) = true
  · rw [if_pos hBound]
    exact ⟨fun _ _ _ hCopied => hCopied, fun _ _ => nofun⟩
  rw [if_neg hBound]
  cases hPhase : migration.phase with
  | prepare =>
    have hKeeps := prepareMigration_copies digests self env member peer migration
    refine ⟨fun _ => hKeeps.copies, ?_⟩
    intro target message hSend
    exact (hKeeps.sends target message hSend).imp_right (fun hCopied _ => hCopied)
  | commit =>
    refine ⟨fun _ => ?_, ?_⟩
    all_goals
      split_ifs
    · exact fun _ _ hCopied => hCopied
    · exact fun _ _ hCopied => hCopied
    · intro target message hSend
      cases List.mem_singleton.mp hSend
      exact ⟨rfl, nofun⟩
    · exact fun _ _ => nofun
  | abort =>
    refine ⟨fun hOther => absurd rfl hOther, ?_⟩
    intro target message hSend
    unfold abortMigration at hSend
    split_ifs at hSend with hPrepared hWritten <;> cases hSend

/- A plan moves generations, not bytes. -/
theorem syncLocalDataShardsToPlan_copied {written : UInt16 → Bool} {shardId : UInt16}
    {bytes : List UInt8} (hCopied : Copied member shardId bytes) :
    Copied (syncLocalDataShardsToPlan self written member plan) shardId bytes := by
  rcases hCopied with ⟨shard, hShard, rfl⟩
  refine ⟨(carriedShard self plan shardId shard).getD shard, ?_, ?_⟩
  · change (member.held.dataShards.map _)[shardId]? = _
    rw [Std.TreeMap.getElem?_map, hShard]
    rfl
  · unfold carriedShard
    cases plan.shards.find? (·.shardId == shardId) with
    | none => rfl
    | some ownership =>
      rw [Option.bind_some]
      split_ifs <;> rfl

theorem receivePlan_copies (env : HandlerEnv) (member : Member) (peer : NodeId)
    (plan : V4TrainingPlan) :
    KeepsCopies member (fun message => ∃ ack, message = .planAck ack)
      (receivePlan digests self env member peer plan) := by
  unfold receivePlan
  dsimp only
  split_ifs
  all_goals refine .answered ⟨_, rfl⟩ ?_
  all_goals first
    | exact fun shardId bytes hCopied => hCopied
    | exact fun shardId bytes hCopied =>
      syncLocalDataShardsToPlan_copied self hCopied

end

----
-- The Source
----

section

variable (digests : Digests)

def MigrateStage.shard : MigrateStage → V4LocalDataShard
| .preparing shard | .committing shard | .updating shard _ _ => shard

/- The target has answered the preparation. -/
def MigrateStage.confirmed : MigrateStage → Bool
| .preparing _ => false
| .committing _ | .updating _ _ _ => true

/- What may be sent to whom while the shard moves. -/
def Sound (route : Route) (shard : V4LocalDataShard) (target : NodeId) : TrainingV4Message → Prop
| .shardMigration migration =>
  target = route.target ∧ migration.shardId = route.shardId ∧
    (migration.phase = .prepare → migration.state = shard.bytes)
| .plan _ => target ≠ route.source
| .shardMigrationAck _ | .planAck _ => True
| _ => False

def isAbort : TrainingV4Message → Bool
| .shardMigration migration => migration.phase == .abort
| _ => false

/- What makes a message count as the answer to a preparation. -/
def isPrepareAck : TrainingV4Message → Bool
| .shardMigrationAck ack => ack.phase == .prepare
| _ => false

/-
  A move of the call at the source.  The copy is only dropped
  by a call whose preparation was answered.
-/
structure SourceMove (route : Route) (shard : V4LocalDataShard) (member : Member) (confirmed : Prop)
    (migrated : Migrated) : Prop where
  kept : migrated.member.held.dataShards = member.held.dataShards ∨
    (confirmed ∧ migrated.next.stage = none ∧
      migrated.member.held.dataShards[route.shardId]? = none)
  staged : ∀ stage, migrated.next.stage = some stage →
    stage.shard = shard ∧ (stage.confirmed = true → confirmed)
  sound : ∀ send ∈ migrated.sends, Sound route shard send.1 send.2
  asks : ∀ send ∈ migrated.sends, isPrepareAck send.2 = false
  aborts : ∀ send ∈ migrated.sends, isAbort send.2 = true → migrated.next.stage = none ∧
    migrated.member.held.dataShards = member.held.dataShards

/- The plan that a call commits, and the member that has it. -/
inductive Commits (route : Route) (member : Member) : V4TrainingPlan → Member → Prop where
  | intro {plan next : V4TrainingPlan} {generation : UInt64} {hash : ArtifactId} {bytes : UInt64}
    (hPlan : member.held.plan = some plan)
    (hNext : commitPlanShardMigration digests route.source plan route.shardId route.target
      generation hash bytes = .ok next) :
    Commits route member next { member with
      held := { member.held with plan := some next }
      stored := { member.stored with plan := some next } }

/- The plan with which a copy is dropped was committed, now or before, or there is none. -/
inductive Drops (route : Route) (member : Member) (stage : Option MigrateStage) :
    Member → Option V4TrainingPlan → Prop where
  | unplanned (hPlan : member.held.plan = none) : Drops route member stage member none
  | updated {shard : V4LocalDataShard} {plan : V4TrainingPlan} {pending : Finset NodeId}
    (hStage : stage = some (.updating shard plan pending)) :
    Drops route member stage member (some plan)
  | committed {plan : V4TrainingPlan} {after : Member}
    (hCommits : Commits digests route member plan after) :
    Drops route member stage after (some plan)

/-
  What a move of the call from a stage does.  It is confirmed
  once the target has answered the preparation.
-/
inductive CallMove (route : Route) (shard : V4LocalDataShard) (member : Member)
    (stage : Option MigrateStage) (confirmed : Prop) : Migrated → Prop where
  | fails (error : NodeError) :
    CallMove route shard member stage confirmed ⟨member, [], .returns (.error error)⟩
  | aborts (error : NodeError) :
    CallMove route shard member stage confirmed ⟨member, [(route.target,
      migrationMessage route.source route.target shard route.shardId [] .abort)],
      .returns (.error error)⟩
  | sends (next : MigrateStage) (state : List UInt8) (phase : V4ShardMigrationPhase) (sent : Bool)
    (hShard : next.shard = shard) (hConfirmed : next.confirmed = true → confirmed)
    (hNext : ∀ shard plan pending, next ≠ .updating shard plan pending)
    (hForward : phase ≠ .abort) (hState : phase = .prepare → state = shard.bytes) :
    CallMove route shard member stage confirmed ⟨member, [(route.target,
      migrationMessage route.source route.target shard route.shardId state phase)],
      if sent then .waits next else .returns (.error .network)⟩
  | waits (next : MigrateStage) (hShard : next.shard = shard)
    (hConfirmed : next.confirmed = true → confirmed)
    (hUpdates : ∀ shard plan pending, next = .updating shard plan pending →
      ∃ shard pending, stage = some (.updating shard plan pending)) :
    CallMove route shard member stage confirmed ⟨member, [], .waits next⟩
  | updates {plan : V4TrainingPlan} {after : Member} (hConfirmed : confirmed)
    (hCommits : Commits digests route member plan after) :
    CallMove route shard member stage confirmed
      ⟨after, (planRecipients route.source plan).map (·, .plan plan),
        .waits (.updating shard plan (planRecipients route.source plan).toFinset)⟩
  | retires (env : MigrateEnv) {plan : Option V4TrainingPlan} {after : Member}
    (hConfirmed : confirmed) (hDrops : Drops digests route member stage after plan) :
    CallMove route shard member stage confirmed (retireShard env after route.shardId plan)

theorem CallMove.sourceMove {shard : V4LocalDataShard} {confirmed : Prop}
    (hMove : CallMove digests route shard member stage confirmed migrated) :
    SourceMove route shard member confirmed migrated := by
  cases hMove with
  | fails error =>
    exact ⟨Or.inl rfl, fun _ => nofun, fun _ => nofun, fun _ => nofun, fun _ => nofun⟩
  | aborts error =>
    refine ⟨Or.inl rfl, fun _ => nofun, ?_, ?_, fun _ _ _ => ⟨rfl, rfl⟩⟩
    · intro send hSend
      obtain rfl := List.mem_singleton.mp hSend
      exact ⟨rfl, rfl, nofun⟩
    · intro send hSend
      obtain rfl := List.mem_singleton.mp hSend
      rfl
  | sends next state phase sent hShard hConfirmed hNext hForward hState =>
    refine ⟨Or.inl rfl, ?_, ?_, ?_, ?_⟩
    · intro stage hStage
      cases sent with
      | false => cases hStage
      | true =>
        cases hStage
        exact ⟨hShard, hConfirmed⟩
    · intro send hSend
      obtain rfl := List.mem_singleton.mp hSend
      exact ⟨rfl, rfl, hState⟩
    · intro send hSend
      obtain rfl := List.mem_singleton.mp hSend
      rfl
    · intro send hSend hAbort
      obtain rfl := List.mem_singleton.mp hSend
      exact absurd (eq_of_beq hAbort) hForward
  | waits next hShard hConfirmed hUpdates =>
    refine ⟨Or.inl rfl, ?_, fun _ => nofun, fun _ => nofun, fun _ => nofun⟩
    rintro stage ⟨⟩
    exact ⟨hShard, hConfirmed⟩
  | updates hConfirmed hCommits =>
    cases hCommits
    refine ⟨Or.inl rfl, ?_, ?_, ?_, ?_⟩
    · rintro stage ⟨⟩
      exact ⟨rfl, fun _ => hConfirmed⟩
    · intro send hSend
      rcases List.mem_map.mp hSend with ⟨node, hNode, rfl⟩
      change node ≠ _
      exact of_decide_eq_true (List.mem_filter.mp hNode).2
    · intro send hSend
      rcases List.mem_map.mp hSend with ⟨node, hNode, rfl⟩
      rfl
    · intro send hSend hAbort
      rcases List.mem_map.mp hSend with ⟨node, hNode, rfl⟩
      cases hAbort
  | @retires env plan after hConfirmed hDrops =>
    have hErased : (after.held.dataShards.erase route.shardId)[route.shardId]? = none := by
      rw [getElem?_erase, if_pos rfl]
    unfold retireShard
    split_ifs
    all_goals exact ⟨Or.inr ⟨hConfirmed, rfl, hErased⟩, fun _ => nofun, fun _ => nofun,
      fun _ => nofun, fun _ => nofun⟩

/- The call is refused, or begins with the shard that is there. -/
theorem migrateShard_moves :
    (∃ error, migrateShard route.source env member route.shardId route.target =
      ⟨member, [], .returns (.error error)⟩) ∨
      ∃ shard, member.held.dataShards[route.shardId]? = some shard ∧
        CallMove digests route shard member none False
          (migrateShard route.source env member route.shardId route.target) := by
  unfold migrateShard
  rw [if_neg route.distinct.symm]
  cases member.held.dataShards[route.shardId]? with
  | none => exact Or.inl ⟨_, rfl⟩
  | some shard =>
    dsimp only
    cases migrationRefusal route.source member.held.plan route.shardId shard with
    | some detail => exact Or.inl ⟨_, rfl⟩
    | none =>
      exact Or.inr ⟨shard, rfl, .sends (.preparing shard) _ .prepare _ rfl nofun
        (fun _ _ _ => nofun) nofun (fun _ => rfl)⟩

theorem updatePlan_moves {shard : V4LocalDataShard} {confirmed : Prop} (hConfirmed : confirmed) :
    CallMove digests route shard member stage confirmed
      (updatePlan digests route.source env member route.shardId route.target shard) := by
  unfold updatePlan
  cases hPlan : member.held.plan with
  | none => exact .retires env hConfirmed (.unplanned hPlan)
  | some plan =>
    dsimp only
    cases hNext : commitPlanShardMigration digests route.source plan route.shardId route.target
      (Saturating.add shard.ownershipGeneration 1)
      shard.hash (UInt64.ofNat shard.bytes.length) with
    | error error => exact .fails _
    | ok next =>
      dsimp only
      split_ifs
      · exact .fails _
      · exact .retires env hConfirmed (.committed (.intro hPlan hNext))
      · exact .updates hConfirmed (.intro hPlan hNext)

theorem migrateReceive_moves (route : Route) (env : MigrateEnv) (member : Member)
    (stage : MigrateStage) (peer : NodeId) (message : TrainingV4Message) :
    CallMove digests route stage.shard member (some stage)
      (stage.confirmed = true ∨ isPrepareAck message = true)
      (migrateReceive digests route.source env member
        route.shardId route.target stage peer message) := by
  have hIgnored : CallMove digests route stage.shard member (some stage)
    (stage.confirmed = true ∨ isPrepareAck message = true) ⟨member, [], .waits stage⟩ :=
    .waits stage rfl Or.inl (fun shard plan pending hStage => ⟨shard, pending, hStage ▸ rfl⟩)
  unfold migrateReceive
  split
  · rename_i shard ack
    by_cases hAnswered : peer = route.target ∧ prepareAnswered shard ack
    · rw [if_pos hAnswered]
      have hPrepared : isPrepareAck (.shardMigrationAck ack) = true := by
        have hChecked := hAnswered.2
        simp only [prepareAnswered, Bool.and_eq_true] at hChecked
        exact hChecked.1.2
      exact .sends (.committing shard) [] .commit _ rfl (fun _ => Or.inr hPrepared)
        (fun _ _ _ => nofun) nofun nofun
    · rw [if_neg hAnswered]
      exact hIgnored
  · rename_i shard ack
    split_ifs
    · exact updatePlan_moves digests (Or.inl rfl)
    · exact hIgnored
  · rename_i shard plan pending ack
    split_ifs
    · exact .fails _
    · exact .retires env (Or.inl rfl) (.updated rfl)
    · refine .waits _ rfl (fun _ => Or.inl rfl) ?_
      rintro - - - ⟨⟩
      exact ⟨shard, pending, rfl⟩
    · exact hIgnored
  · exact hIgnored

theorem migrateTimeout_moves (route : Route) (member : Member) (stage : MigrateStage) :
    CallMove digests route stage.shard member (some stage) False
      (migrateTimeout route.source member route.shardId route.target stage) := by
  cases stage with
  | preparing shard => exact .fails _
  | committing shard => exact .aborts _
  | updating shard plan pending => exact .fails _

end

----
-- One Copy Is Left
----

variable {digests : Digests} {shard : V4LocalDataShard} {next : MigrationNet}

/- What an earlier call has no business with any more. -/
def bindsCall : TrainingV4Message → Bool
| .shardMigrationAck _ => true
| message => isAbort message

/- Neither aborts nor answers outlive their call. -/
def fresh (net : MigrationNet) : MigrationAction → Bool
| .deliver index _ _ =>
  net.log[index]?.all (fun parcel =>
    !bindsCall parcel.message || parcel.call == net.calls)
| _ => true

def sourceShard (route : Route) (net : MigrationNet) : Option V4LocalDataShard :=
  (net.nodes route.source).held.dataShards[route.shardId]?

def TargetCopied (route : Route) (shard : V4LocalDataShard) (net : MigrationNet) : Prop :=
  Copied (net.nodes route.target) route.shardId shard.bytes

structure MigrationInv (route : Route) (shard : V4LocalDataShard) (net : MigrationNet) : Prop where
  source : sourceShard route net = some shard ∨
    (sourceShard route net = none ∧ net.stage = none ∧ TargetCopied route shard net)
  calls : ∀ parcel ∈ net.log, parcel.call ≤ net.calls
  sound : ∀ parcel ∈ net.log, Sound route shard parcel.target parcel.message
  staged : ∀ stage, net.stage = some stage →
    stage.shard = shard ∧ sourceShard route net = some shard ∧
      (stage.confirmed = true → TargetCopied route shard net)
  prepared : net.stage.isSome = true → ∀ parcel ∈ net.log, parcel.call = net.calls →
    isPrepareAck parcel.message = true → TargetCopied route shard net
  aborted : ∀ parcel ∈ net.log, parcel.call = net.calls → isAbort parcel.message = true →
    net.stage = none ∧ sourceShard route net = some shard

theorem migrationInv_initial {shard : V4LocalDataShard} {nodes : NodeId → Member}
    (hHeld : (nodes route.source).held.dataShards[route.shardId]? = some shard) :
    MigrationInv route shard (MigrationNet.initial nodes) :=
  ⟨Or.inl hHeld, fun _ => nofun, fun _ => nofun, fun _ => nofun, nofun, fun _ => nofun⟩

/- A new call leaves the messages of the others behind. -/
theorem MigrationInv.called (hInv : MigrationInv route shard net) (hIdle : net.stage = none) :
    MigrationInv route shard { net with calls := net.calls + 1 } where
  source := hInv.source
  calls := by
    intro parcel hParcel
    exact Nat.le_succ_of_le (hInv.calls parcel hParcel)
  sound := hInv.sound
  staged := hInv.staged
  prepared := by
    intro hStage
    rw [hIdle] at hStage
    cases hStage
  aborted := by
    intro parcel hParcel hCall
    have hBefore := hInv.calls parcel hParcel
    dsimp only at hCall
    omega

theorem sourceShard_moved : sourceShard route (net.moved route.source migrated) =
    migrated.member.held.dataShards[route.shardId]? := by
  simp only [sourceShard, MigrationNet.moved, Function.update_self]

theorem targetCopied_moved :
    TargetCopied route shard (net.moved route.source migrated) ↔ TargetCopied route shard net := by
  simp only [TargetCopied, MigrationNet.moved, Function.update_of_ne route.distinct.symm]

theorem mem_moved_log (hParcel : parcel ∈ (net.moved route.source migrated).log) :
    parcel ∈ net.log ∨ ∃ send ∈ migrated.sends,
      parcel = ⟨route.source, send.1, net.calls, send.2⟩ := by
  rcases List.mem_append.mp hParcel with hOld | hNew
  · exact Or.inl hOld
  · rcases List.mem_map.mp hNew with ⟨send, hSend, rfl⟩
    exact Or.inr ⟨send, hSend, rfl⟩

/- The call at the source moves on. -/
theorem MigrationInv.moved {confirmed : Prop} (hInv : MigrationInv route shard net)
    (hMoves : SourceMove route shard (net.nodes route.source) confirmed migrated)
    (hHeld : sourceShard route net = some shard)
    (hConfirmed : confirmed → TargetCopied route shard net)
    (hPrepared : ∀ parcel ∈ net.log, parcel.call = net.calls → isPrepareAck parcel.message = true →
      TargetCopied route shard net)
    (hOpen : ∀ parcel ∈ net.log, parcel.call = net.calls → isAbort parcel.message = false) :
    MigrationInv route shard (net.moved route.source migrated) := by
  have hSame : migrated.member.held.dataShards = (net.nodes route.source).held.dataShards →
    sourceShard route (net.moved route.source migrated) = some shard := by
    intro hKept
    rw [sourceShard_moved, hKept]
    exact hHeld
  constructor
  · rcases hMoves.kept with hKept | ⟨hDrops, hStage, hDropped⟩
    · exact Or.inl (hSame hKept)
    · right
      refine ⟨?_, hStage, ?_⟩
      · rw [sourceShard_moved]
        exact hDropped
      · exact targetCopied_moved.mpr (hConfirmed hDrops)
  · intro parcel hParcel
    rcases mem_moved_log hParcel with hOld | ⟨send, hSend, rfl⟩
    · exact hInv.calls parcel hOld
    · exact Nat.le_refl _
  · intro parcel hParcel
    rcases mem_moved_log hParcel with hOld | ⟨send, hSend, rfl⟩
    · exact hInv.sound parcel hOld
    · exact hMoves.sound send hSend
  · intro stage hStage
    rcases hMoves.staged stage hStage with ⟨hShard, hAllows⟩
    refine ⟨hShard, ?_, ?_⟩
    · rcases hMoves.kept with hKept | ⟨-, hNone, -⟩
      · exact hSame hKept
      · change migrated.next.stage = some stage at hStage
        rw [hNone] at hStage
        cases hStage
    · intro hStaged
      exact targetCopied_moved.mpr (hConfirmed (hAllows hStaged))
  · intro _ parcel hParcel hCall hAck
    rw [targetCopied_moved]
    rcases mem_moved_log hParcel with hOld | ⟨send, hSend, rfl⟩
    · exact hPrepared parcel hOld hCall hAck
    · rw [hMoves.asks send hSend] at hAck
      cases hAck
  · intro parcel hParcel hCall hAbort
    rcases mem_moved_log hParcel with hOld | ⟨send, hSend, rfl⟩
    · rw [hOpen parcel hOld hCall] at hAbort
      cases hAbort
    · rcases hMoves.aborts send hSend hAbort with ⟨hStage, hKept⟩
      exact ⟨hStage, hSame hKept⟩

/- A call that is refused changes nothing. -/
theorem MigrationInv.refused (hInv : MigrationInv route shard net) (hIdle : net.stage = none)
    (error : NodeError) :
    MigrationInv route shard
      (net.moved route.source ⟨net.nodes route.source, [], .returns (.error error)⟩) := by
  have hSame : net.moved route.source ⟨net.nodes route.source, [], .returns (.error error)⟩ =
    { net with result := some (.error error) } := by
    unfold MigrationNet.moved
    rw [Function.update_eq_self, List.map_nil, List.append_nil, hIdle]
    rfl
  rw [hSame]
  exact ⟨hInv.source, hInv.calls, hInv.sound, hInv.staged, hInv.prepared, hInv.aborted⟩

/- A handler takes a parcel. -/
theorem MigrationInv.handled {handled : Handled Unit} (hInv : MigrationInv route shard net)
    (hParcel : parcel ∈ net.log) (hOther : parcel.target ≠ route.source)
    (hCopied : TargetCopied route shard net →
      TargetCopied route shard (net.handled parcel handled) ∨
        (net.stage = none ∧ sourceShard route net = some shard))
    (hAnswers : ∀ target message, .send target message ∈ handled.effects →
      Sound route shard target message ∧ isAbort message = false ∧
        (isPrepareAck message = true → TargetCopied route shard (net.handled parcel handled))) :
    MigrationInv route shard (net.handled parcel handled) := by
  have hSource : sourceShard route (net.handled parcel handled) = sourceShard route net := by
    simp only [sourceShard, MigrationNet.handled, Function.update_of_ne hOther.symm]
  have hLog : ∀ entry ∈ (net.handled parcel handled).log, entry ∈ net.log ∨ ∃ target message,
    .send target message ∈ handled.effects ∧ entry =
      ⟨parcel.target, target, parcel.call, message⟩ := by
    intro entry hEntry
    rcases List.mem_append.mp hEntry with hOld | hNew
    · exact Or.inl hOld
    · rcases List.mem_filterMap.mp hNew with ⟨effect, hEffect, hMade⟩
      cases effect with
      | send target message =>
        cases hMade
        exact Or.inr ⟨target, message, hEffect, rfl⟩
      | _ => cases hMade
  constructor
  · rw [hSource]
    rcases hInv.source with hHeld | ⟨hNone, hIdle, hTarget⟩
    · exact Or.inl hHeld
    · rcases hCopied hTarget with hStill | ⟨-, hHeld⟩
      · exact Or.inr ⟨hNone, hIdle, hStill⟩
      · exact Or.inl hHeld
  · intro entry hEntry
    rcases hLog entry hEntry with hOld | ⟨target, message, -, rfl⟩
    · exact hInv.calls entry hOld
    · exact hInv.calls parcel hParcel
  · intro entry hEntry
    rcases hLog entry hEntry with hOld | ⟨target, message, hSend, rfl⟩
    · exact hInv.sound entry hOld
    · exact (hAnswers target message hSend).1
  · intro stage hStage
    rw [hSource]
    rcases hInv.staged stage hStage with ⟨hShard, hHeld, hTarget⟩
    refine ⟨hShard, hHeld, ?_⟩
    intro hConfirmed
    rcases hCopied (hTarget hConfirmed) with hStill | ⟨hIdle, -⟩
    · exact hStill
    · change net.stage = some stage at hStage
      rw [hIdle] at hStage
      cases hStage
  · intro hStage entry hEntry hCall hAck
    rcases hLog entry hEntry with hOld | ⟨target, message, hSend, rfl⟩
    · rcases hCopied (hInv.prepared hStage entry hOld hCall hAck) with hStill | ⟨hIdle, -⟩
      · exact hStill
      · change net.stage.isSome = true at hStage
        rw [hIdle] at hStage
        cases hStage
    · exact (hAnswers target message hSend).2.2 hAck
  · intro entry hEntry hCall hAbort
    rw [hSource]
    rcases hLog entry hEntry with hOld | ⟨target, message, hSend, rfl⟩
    · exact hInv.aborted entry hOld hCall hAbort
    · rw [(hAnswers target message hSend).2.1] at hAbort
      cases hAbort

section

variable (hInv : MigrationInv route shard net) (hParcel : parcel ∈ net.log)
include hInv hParcel

/- The target takes a migration message. -/
theorem MigrationInv.migrationHandled (hMessage : parcel.message = .shardMigration migration)
    (hFresh : isAbort parcel.message = true → parcel.call = net.calls) (handler : HandlerEnv) :
    MigrationInv route shard (net.handled parcel
      (receiveShardMigration digests parcel.target handler (net.nodes parcel.target) parcel.sender
        migration)) := by
  have hSound := hInv.sound parcel hParcel
  rw [hMessage] at hSound
  rcases hSound with ⟨hTarget, hShardId, hState⟩
  rcases receiveShardMigration_copies digests parcel.target with ⟨hKeeps, hAnswers⟩
  have hAfter : ∀ bytes, Copied (receiveShardMigration digests parcel.target handler
    (net.nodes parcel.target) parcel.sender migration).member route.shardId bytes →
    Copied ((net.handled parcel (receiveShardMigration digests parcel.target
      handler (net.nodes parcel.target) parcel.sender migration)).nodes route.target)
      route.shardId bytes := by
    intro bytes hCopied
    rw [← hTarget]
    simpa only [MigrationNet.handled, Function.update_self] using hCopied
  apply hInv.handled hParcel
  · rw [hTarget]
    exact route.distinct.symm
  · intro hCopied
    by_cases hAbort : migration.phase = .abort
    · right
      have hIsAbort : isAbort parcel.message = true := by
        rw [hMessage, isAbort, hAbort]
        rfl
      exact hInv.aborted parcel hParcel (hFresh hIsAbort) hIsAbort
    · left
      apply hAfter
      apply hKeeps hAbort
      rw [hTarget]
      exact hCopied
  · intro target message hSend
    rcases hAnswers target message hSend with ⟨rfl, hPrepared⟩
    refine ⟨trivial, rfl, ?_⟩
    intro hAck
    have hPhase : migration.phase = .prepare := eq_of_beq hAck
    have hCopied := hPrepared hPhase
    rw [hShardId, hState hPhase] at hCopied
    exact hAfter shard.bytes hCopied

/- A node of the plan takes a plan. -/
theorem MigrationInv.planHandled (hMessage : parcel.message = .plan plan) (handler : HandlerEnv) :
    MigrationInv route shard (net.handled parcel (receivePlan digests parcel.target handler
      (net.nodes parcel.target) parcel.sender plan)) := by
  have hSound := hInv.sound parcel hParcel
  rw [hMessage] at hSound
  have hKeeps := receivePlan_copies digests parcel.target handler
    (net.nodes parcel.target) parcel.sender plan
  apply hInv.handled hParcel hSound
  · intro hCopied
    left
    by_cases hTarget : route.target = parcel.target
    · have hAfter := hKeeps.copies route.shardId shard.bytes (hTarget ▸ hCopied)
      unfold TargetCopied
      rw [hTarget]
      simpa only [MigrationNet.handled, Function.update_self] using hAfter
    · simpa only [TargetCopied, MigrationNet.handled, Function.update_of_ne hTarget] using hCopied
  · intro target message hSend
    rcases hKeeps.sends target message hSend with ⟨ack, rfl⟩
    refine ⟨trivial, rfl, ?_⟩
    intro hAck
    cases hAck

end

/- Sound messages are handled in one of two ways, or waited for. -/
theorem handleMessage_of_sound {handler : HandlerEnv} {target : NodeId}
    (hSound : Sound route shard target message) :
    (∃ migration, message = .shardMigration migration ∧
      handleMessage digests self handler member peer message =
        some (receiveShardMigration digests self handler member peer migration)) ∨
      (∃ plan, message = .plan plan ∧ handleMessage digests self handler member peer message =
        some (receivePlan digests self handler member peer plan)) ∨
      handleMessage digests self handler member peer message = none := by
  cases message with
  | shardMigration migration => exact Or.inl ⟨_, rfl, rfl⟩
  | plan plan => exact Or.inr (Or.inl ⟨_, rfl, rfl⟩)
  | shardMigrationAck ack | planAck ack => exact Or.inr (Or.inr rfl)
  | _ => cases hSound

theorem MigrationInv.step {action : MigrationAction} (hInv : MigrationInv route shard net)
    (hFresh : fresh net action = true)
    (hStep : migrationStep digests route net action = some next) :
    MigrationInv route shard next := by
  cases action with
  | call env =>
    rw [migrationStep] at hStep
    split_ifs at hStep with hBusy
    cases hStep
    have hIdle : net.stage = none := by
      simpa using hBusy
    have hCalled := hInv.called hIdle
    have hNew : ∀ parcel ∈ net.log, parcel.call ≠ net.calls + 1 := by
      intro parcel hParcel
      have hBefore := hInv.calls parcel hParcel
      omega
    rcases migrateShard_moves digests with ⟨error, hRefused⟩ | ⟨held, hFound, hMoves⟩
    · rw [hRefused]
      exact hCalled.refused hIdle error
    · rcases hInv.source with hHeld | ⟨hNone, -, -⟩
      · obtain rfl := Option.some.inj (hFound.symm.trans hHeld)
        exact hCalled.moved hMoves.sourceMove hHeld False.elim
          (fun parcel hParcel hCall => absurd hCall (hNew parcel hParcel))
          (fun parcel hParcel hCall => absurd hCall (hNew parcel hParcel))
      · rw [sourceShard, hFound] at hNone
        cases hNone
  | deliver index handler env =>
    rcases Option.bind_eq_some_iff.mp hStep with ⟨parcel, hFound, hDeliver⟩
    have hParcel := List.mem_of_getElem? hFound
    have hBound : bindsCall parcel.message = true → parcel.call = net.calls := by
      intro hBinds
      rw [fresh, hFound, Option.all_some, hBinds] at hFresh
      exact eq_of_beq hFresh
    unfold MigrationNet.deliver at hDeliver
    rcases handleMessage_of_sound (hInv.sound parcel hParcel) with
      ⟨migration, hMessage, hHandled⟩ | ⟨plan, hMessage, hHandled⟩ | hMailbox
    · rw [hHandled] at hDeliver
      cases hDeliver
      apply hInv.migrationHandled hParcel hMessage
      intro hAbort
      apply hBound
      rw [hMessage]
      rw [hMessage] at hAbort
      exact hAbort
    · rw [hHandled] at hDeliver
      cases hDeliver
      exact hInv.planHandled hParcel hMessage handler
    · rw [hMailbox] at hDeliver
      split_ifs at hDeliver with hHere
      rcases Option.map_eq_some_iff.mp hDeliver with ⟨stage, hStage, rfl⟩
      rcases hInv.staged stage hStage with ⟨hShard, hHeld, hTarget⟩
      have hSome : net.stage.isSome = true := by
        rw [hStage]
        rfl
      have hMoves := migrateReceive_moves digests route env
        (net.nodes route.source) stage parcel.sender parcel.message
      rw [hShard] at hMoves
      apply hInv.moved hMoves.sourceMove hHeld
      · rintro (hConfirmed | hAck)
        · exact hTarget hConfirmed
        · apply hInv.prepared hSome parcel hParcel _ hAck
          apply hBound
          cases hMessage : parcel.message with
          | shardMigrationAck ack => rfl
          | _ =>
            rw [hMessage] at hAck
            cases hAck
      · exact hInv.prepared hSome
      · intro entry hEntry hCall
        by_contra hAbort
        have hIdle := (hInv.aborted entry hEntry hCall (by simpa using hAbort)).1
        rw [hIdle] at hStage
        cases hStage
  | timeout =>
    rcases Option.map_eq_some_iff.mp hStep with ⟨stage, hStage, rfl⟩
    rcases hInv.staged stage hStage with ⟨hShard, hHeld, -⟩
    have hMoves := migrateTimeout_moves digests route (net.nodes route.source) stage
    rw [hShard] at hMoves
    apply hInv.moved hMoves.sourceMove hHeld
    · exact False.elim
    · apply hInv.prepared
      rw [hStage]
      rfl
    · intro entry hEntry hCall
      by_contra hAbort
      have hIdle := (hInv.aborted entry hEntry hCall (by simpa using hAbort)).1
      rw [hIdle] at hStage
      cases hStage

/- The bytes are at the source or at the target. -/
theorem MigrationInv.held {hash : ArtifactId} (hInv : MigrationInv route shard net)
    (hHash : digests.bytes shard.bytes = hash) :
    HoldsBytes digests (net.nodes route.source) route.shardId hash ∨
      HoldsBytes digests (net.nodes route.target) route.shardId
        hash := by
  rcases hInv.source with hHeld | ⟨-, -, copy, hCopy, hBytes⟩
  · exact Or.inl ⟨shard, hHeld, hHash⟩
  · refine Or.inr ⟨copy, hCopy, ?_⟩
    rw [hBytes]
    exact hHash

/-
  If neither aborts nor answers outlive their call, the bytes
  are at the source or at the target in every state.
-/
theorem shard_kept (digests : Digests) (route : Route) (nodes : NodeId → Member) (hash : ArtifactId)
    (actions : List MigrationAction) (final : MigrationNet)
    (hHeld : HoldsBytes digests (nodes route.source) route.shardId hash)
    (hMeets : Meets (migrationStep digests route)
      (fun net action => fresh net action = true) (MigrationNet.initial nodes) actions)
    (hRun : run (migrationStep digests route) (MigrationNet.initial nodes) actions = some final) :
    HoldsBytes digests (final.nodes route.source) route.shardId hash ∨
      HoldsBytes digests (final.nodes route.target) route.shardId hash := by
  rcases hHeld with ⟨shard, hShard, hHash⟩
  have hInv : MigrationInv route shard final := by
    apply invariant_of_run (MigrationInv route shard)
      _ (migrationInv_initial hShard) hMeets
      hRun
    intro net action next hInv hFresh hStep
    exact hInv.step hFresh hStep
  exact hInv.held hHash

/- Node 1 moves two bytes to node 2. -/
def smallRoute : Route where
  source := ⟨1⟩
  target := ⟨2⟩
  shardId := 0
  distinct := by decide

def smallShard : V4LocalDataShard where
  jobId := ⟨7⟩
  shardId := 0
  planGeneration := 1
  ownershipGeneration := 1
  hash := ⟨3⟩
  bytes := [1, 2]

def withShard (member : Member) : Member :=
  { member with
    held := { member.held with dataShards := member.held.dataShards.insert 0 smallShard }
    stored := { member.stored with dataShards := member.stored.dataShards.insert 0 smallShard } }

def unplannedNodes (node : NodeId) : Member :=
  if node = ⟨1⟩ then withShard (Member.new {}) else Member.new {}

theorem unplannedNodes_held : HoldsBytes smallDigests (unplannedNodes ⟨1⟩) 0 ⟨3⟩ :=
  ⟨smallShard, by decide +kernel, by decide +kernel⟩

def delivered (index : Nat) : MigrationAction :=
  .deliver index {} {}

/- A call that is committed, but whose answer is lost. -/
def unansweredCall : List MigrationAction :=
  [.call {}, delivered 0, delivered 1, delivered 2, .timeout]

/- The next call, which goes through. -/
def answeredCall : List MigrationAction :=
  [.call {}, delivered 5, delivered 6, delivered 7, delivered 8]

/- The abort of the first call comes before the second call. -/
theorem promptAbort_runs :
    (run (migrationStep smallDigests smallRoute) (MigrationNet.initial unplannedNodes)
      (unansweredCall ++ delivered 4 :: answeredCall)).isSome = true := by
  decide +kernel

def promptAbort : MigrationNet :=
  (run (migrationStep smallDigests smallRoute) (MigrationNet.initial unplannedNodes)
    (unansweredCall ++ delivered 4 :: answeredCall)).get promptAbort_runs

theorem shard_kept_promptAbort : HoldsBytes smallDigests (promptAbort.nodes ⟨1⟩) 0 ⟨3⟩ ∨
    HoldsBytes smallDigests (promptAbort.nodes ⟨2⟩) 0 ⟨3⟩ := by
  apply shard_kept smallDigests smallRoute unplannedNodes ⟨3⟩
    (unansweredCall ++ delivered 4 :: answeredCall) promptAbort unplannedNodes_held
  · decide +kernel
  · exact (Option.some_get promptAbort_runs).symm

/- The same abort comes after the second call. -/
theorem lateAbort_runs :
    (run (migrationStep smallDigests smallRoute) (MigrationNet.initial unplannedNodes)
      (unansweredCall ++ answeredCall ++ [delivered 4])).isSome = true := by
  decide +kernel

def lateAbort : MigrationNet :=
  (run (migrationStep smallDigests smallRoute) (MigrationNet.initial unplannedNodes)
    (unansweredCall ++ answeredCall ++ [delivered 4])).get lateAbort_runs

theorem shard_lost_lateAbort : HoldsBytes smallDigests (unplannedNodes ⟨1⟩) 0 ⟨3⟩ ∧
    run (migrationStep smallDigests smallRoute) (MigrationNet.initial unplannedNodes)
      (unansweredCall ++ answeredCall ++ [delivered 4]) = some lateAbort ∧
    ¬ (HoldsBytes smallDigests (lateAbort.nodes ⟨1⟩) 0 ⟨3⟩ ∨
      HoldsBytes smallDigests (lateAbort.nodes ⟨2⟩) 0 ⟨3⟩) := by
  have hSource : (lateAbort.nodes ⟨1⟩).held.dataShards[(0 : UInt16)]? =
    none := by
    decide +kernel
  have hTarget : (lateAbort.nodes ⟨2⟩).held.dataShards[(0 : UInt16)]? =
    none := by
    decide +kernel
  refine ⟨unplannedNodes_held, (Option.some_get lateAbort_runs).symm, ?_⟩
  rintro (⟨shard, hHeld, -⟩ | ⟨shard, hHeld, -⟩)
  · cases hHeld
  · cases hHeld

end IntelligenceNetwork.Frontier
