import IntelligenceNetwork.Frontier.Job
import IntelligenceNetwork.Lib.Transition

/-
  The migration of a data shard.

  The source sends the bytes, asks the target to commit them,
  moves the plan on, and then drops its own copy.  The nodes
  share a log of what was sent, and a parcel can be delivered
  at any later time, any number of times, or never.  Each
  carries the number of its call, which no message shows.

  Main declarations:
    * `migrateShard`
    * `commitPlanShardMigration`
    * `migrationStep`
-/

----
-- The Call
----

namespace IntelligenceNetwork.Frontier

section

/- What the call meets outside: the net and the disk. -/
structure MigrateEnv where
  sent : Bool := true
  planWritten : Bool := true
  fileRemoved : Bool := true

/- Where a call waits, with the shard that it read first. -/
inductive MigrateStage where
  | preparing (shard : V4LocalDataShard)
  | committing (shard : V4LocalDataShard)
  | updating (shard : V4LocalDataShard) (plan : V4TrainingPlan) (pending : Finset NodeId)

/- A call that succeeds returns the plan it has committed. -/
abbrev MigrateResult := Except NodeError (Option V4TrainingPlan)

inductive MigrateNext where
  | waits (stage : MigrateStage)
  | returns (result : MigrateResult)

/- What a move of the call leaves. -/
structure Migrated where
  member : Member
  sends : List (NodeId × TrainingV4Message)
  next : MigrateNext

def Migrated.failed (member : Member) (detail : String) : Migrated :=
  ⟨member, [], .returns (.error (.invalidConfig detail))⟩

variable (self : NodeId)

def migrationMessage (target : NodeId) (shard : V4LocalDataShard) (shardId : UInt16)
    (state : List UInt8) (phase : V4ShardMigrationPhase) : TrainingV4Message :=
  .shardMigration
    { jobId := shard.jobId
      planGeneration := shard.planGeneration
      shardId := shardId
      fromNode := self
      toNode := target
      ownershipGeneration := Saturating.add shard.ownershipGeneration 1
      contentHash := shard.hash
      state := state
      phase := phase }

/- Why the plan does not let the shard go, if it does not. -/
def migrationRefusal (plan : Option V4TrainingPlan) (shardId : UInt16)
    (shard : V4LocalDataShard) : Option String :=
  plan.bind (fun plan =>
    match plan.shards.find? (·.shardId == shardId) with
    | none => some "V4 plan does not contain the local shard"
    | some planShard =>
      if !planShard.owners.contains self || shard.planGeneration != plan.planGeneration ||
        shard.ownershipGeneration != planShard.ownershipGeneration ||
        shard.hash != planShard.contentHash then
        some "V4 local shard is stale relative to its active plan"
      else
        none)

variable (env : MigrateEnv) (member : Member) (shardId : UInt16)

/- The call up to the first wait. -/
def migrateShard (target : NodeId) : Migrated :=
  if target = self then
    .failed member "V4 shard migration target must be another peer"
  else
    match member.held.dataShards[shardId]? with
    | none => .failed member "V4 shard is not local"
    | some shard =>
      match migrationRefusal self member.held.plan shardId shard with
      | some detail => .failed member detail
      | none =>
        ⟨member, [(target, migrationMessage self target shard shardId shard.bytes .prepare)],
          if env.sent then .waits (.preparing shard) else .returns (.error .network)⟩

/- The last part: the source drops its copy. -/
def retireShard (plan : Option V4TrainingPlan) : Migrated :=
  let held :=
    { member.held with dataShards := member.held.dataShards.erase shardId }
  if env.fileRemoved then
    ⟨{ member with
      held := held
      stored := { member.stored with dataShards := member.stored.dataShards.erase shardId } },
      [], .returns (.ok plan)⟩
  else
    ⟨{ member with held := held }, [], .returns (.error .storage)⟩

end

----
-- The Plan
----

variable (digests : Digests) (self : NodeId)

/- The record of a shard that the target owns from now on. -/
def movedOwnership (target : NodeId) (ownershipGeneration : UInt64) (contentHash : ArtifactId)
    (stateBytes : UInt64) (shard : V4ShardOwnership) : V4ShardOwnership :=
  { shard with
    owners := [target]
    replicas := (dedupAdjacent ((shard.owners ++ shard.replicas).filter (· ≠ target))).take 16
    ownershipGeneration := ownershipGeneration
    contentHash := contentHash
    stateBytes := stateBytes
    memoryBytes := max shard.memoryBytes stateBytes
    lifecycle := .active }

section

variable (plan : V4TrainingPlan)

/- The next plan, with one shard at its new owner. -/
def movedPlan (shardId : UInt16) (moved : V4ShardOwnership) : V4TrainingPlan :=
  let next : V4TrainingPlan :=
    { plan with
      shards := plan.shards.set (plan.shards.findIdx (·.shardId == shardId)) moved
      planGeneration := Saturating.add plan.planGeneration 1
      membershipEpoch := Saturating.add plan.membershipEpoch 1
      coordinationTerm := Saturating.add plan.coordinationTerm 1
      parentPlanHash := some plan.planHash }
  { next with planHash := hashPlan digests next }

def commitPlanShardMigration (shardId : UInt16) (target : NodeId)
    (ownershipGeneration : UInt64) (contentHash : ArtifactId)
    (stateBytes : UInt64) : Except NodeError V4TrainingPlan :=
  match plan.shards.find? (·.shardId == shardId) with
  | none => .error (.invalidConfig "V4 plan does not contain the migrated shard")
  | some shard =>
    if !shard.owners.contains self then
      .error (.invalidConfig "V4 plan does not authorize the local node as the current shard owner")
    else if ownershipGeneration ≠ Saturating.add shard.ownershipGeneration 1 then
      .error (.invalidConfig "V4 migration ownership generation is stale or skipped")
    else if !plan.workers.contains target then
      .error (.invalidConfig "V4 migration target is not a worker in the current V4 plan")
    else if shard.contentHash ≠ contentHash ∨ shard.stateBytes ≠ stateBytes then
      .error (.invalidConfig "V4 migration content does not match the active shard record")
    else
      let next := movedPlan digests plan shardId
        (movedOwnership target ownershipGeneration contentHash stateBytes shard)
      match Validation.v4Plan next with
      | .error error => .error (.ofValidation error)
      | .ok () => .ok next

/-
  Who has to acknowledge a plan.  The source sorts the list
  before it turns it into a set.
-/
def planRecipients : List NodeId :=
  (plan.workers ++ [plan.proposer]).dedup.filter (· ≠ self)

end

/- The target has committed: the plan moves on. -/
def updatePlan (env : MigrateEnv) (member : Member) (shardId : UInt16) (target : NodeId)
    (shard : V4LocalDataShard) : Migrated :=
  match member.held.plan with
  | none => retireShard env member shardId none
  | some plan =>
    match commitPlanShardMigration digests self plan shardId
      target (Saturating.add shard.ownershipGeneration 1)
      shard.hash (UInt64.ofNat shard.bytes.length) with
    | .error error => ⟨member, [], .returns (.error error)⟩
    | .ok next =>
      if !env.planWritten then
        ⟨member, [], .returns (.error .storage)⟩
      else
        let member :=
          { member with
            held := { member.held with plan := some next }
            stored := { member.stored with plan := some next } }
        let recipients := planRecipients self next
        if recipients.isEmpty then
          retireShard env member shardId (some next)
        else
          ⟨member, recipients.map (·, .plan next), .waits
            (.updating shard next recipients.toFinset)⟩

----
-- Waiting
----

section

variable (shard : V4LocalDataShard) (ack : V4ShardMigrationAck)

def prepareAnswered : Bool :=
  ack.verified && ack.phase == .prepare && ack.contentHash == shard.hash

def commitAnswered : Bool :=
  ack.verified && ack.phase == .commit && ack.contentHash == shard.hash &&
    ack.ownershipGeneration == Saturating.add shard.ownershipGeneration 1

end

def planAnswered (plan : V4TrainingPlan) (ack : V4PlanAck) : Bool :=
  ack.jobId == plan.jobId && ack.planGeneration == plan.planGeneration &&
    ack.planHash == plan.planHash

/- A message in the mailbox of the call. -/
def migrateReceive (env : MigrateEnv) (member : Member) (shardId : UInt16) (target : NodeId)
    (stage : MigrateStage) (peer : NodeId) (message : TrainingV4Message) : Migrated :=
  let ignored : Migrated := ⟨member, [], .waits stage⟩
  match stage, message with
  | .preparing shard, .shardMigrationAck ack =>
    if peer = target ∧ prepareAnswered shard ack then
      ⟨member, [(target, migrationMessage self target shard shardId [] .commit)],
        if env.sent then .waits (.committing shard) else .returns (.error .network)⟩
    else
      ignored
  | .committing shard, .shardMigrationAck ack =>
    if peer = target ∧ commitAnswered shard ack then
      updatePlan digests self env member shardId target shard
    else
      ignored
  | .updating shard plan pending, .planAck ack =>
    if peer ∈ pending ∧ planAnswered plan ack then
      if !ack.accepted then
        .failed member
          (s!"V4 participant {peer.bytes.toHex} rejected active plan generation " ++
            s!"{plan.planGeneration}: {ack.reason}")
      else if pending.erase peer = ∅ then
        retireShard env member shardId (some plan)
      else
        ⟨member, [], .waits (.updating shard plan (pending.erase peer))⟩
    else
      ignored
  | _, _ => ignored

/- The call gives up.  Only a commit is taken back. -/
def migrateTimeout (member : Member) (shardId : UInt16) (target : NodeId) : MigrateStage → Migrated
| .preparing _ => .failed member "V4 operation timed out"
| .committing shard =>
  ⟨member, [(target, migrationMessage self target shard shardId [] .abort)],
    .returns (.error (.invalidConfig "V4 shard migration commit was not acknowledged"))⟩
| .updating _ plan pending =>
  .failed member
    (s!"V4 active plan generation {plan.planGeneration} was not acknowledged by " ++
      s!"{pending.card} of {(planRecipients self plan).length} participant(s)")

----
-- The Nodes
----

structure Parcel where
  (sender target : NodeId)
  call : Nat
  message : TrainingV4Message

/-
  The nodes, the call at the source, what its last call
  returned, and everything that was sent.
-/
structure MigrationNet where
  nodes : NodeId → Member
  calls : Nat
  stage : Option MigrateStage
  result : Option MigrateResult
  log : List Parcel

inductive MigrationAction where
  | call (env : MigrateEnv)
  | deliver (index : Nat) (handler : HandlerEnv) (env : MigrateEnv)
  | timeout

/- One shard moves from one node to another. -/
structure Route where
  (source target : NodeId)
  shardId : UInt16
  distinct : source ≠ target

def MigrateNext.stage : MigrateNext → Option MigrateStage
| .waits stage => some stage
| .returns _ => none

def MigrateNext.result : MigrateNext → Option MigrateResult
| .waits _ => none
| .returns result => some result

/- The call at the source has moved on. -/
def MigrationNet.moved (net : MigrationNet) (source : NodeId)
    (migrated : Migrated) : MigrationNet where
  nodes := Function.update net.nodes source migrated.member
  calls := net.calls
  stage := migrated.next.stage
  result := migrated.next.result
  log := net.log ++ migrated.sends.map (fun send =>
    ⟨source, send.1, net.calls, send.2⟩)

/- What a handler sends in answer to a parcel. -/
def answersTo (parcel : Parcel) : Effect → Option Parcel
| .send target message => some ⟨parcel.target, target, parcel.call, message⟩
| _ => none

/- A handler has taken a parcel. -/
def MigrationNet.handled (net : MigrationNet) (parcel : Parcel)
    (handled : Handled Unit) : MigrationNet :=
  { net with
    nodes := Function.update net.nodes parcel.target handled.member
    log := net.log ++ handled.effects.filterMap (answersTo parcel) }

variable (route : Route)

/- A parcel goes to a handler or to the mailbox of the call. -/
def MigrationNet.deliver (net : MigrationNet) (parcel : Parcel) (handler : HandlerEnv)
    (env : MigrateEnv) : Option MigrationNet :=
  match handleMessage digests parcel.target handler
    (net.nodes parcel.target) parcel.sender parcel.message with
  | some handled => some (net.handled parcel handled)
  | none =>
    if parcel.target = route.source then
      net.stage.map (fun stage =>
        net.moved route.source
          (migrateReceive digests route.source env (net.nodes route.source) route.shardId
            route.target stage parcel.sender parcel.message))
    else
      none

def migrationStep (net : MigrationNet) : MigrationAction → Option MigrationNet
| .call env =>
  if net.stage.isSome then
    none
  else
    some (MigrationNet.moved { net with calls := net.calls + 1 } route.source
        (migrateShard route.source env (net.nodes route.source) route.shardId route.target))
| .deliver index handler env =>
  net.log[index]?.bind (fun parcel =>
    net.deliver digests route parcel handler env)
| .timeout =>
  net.stage.map (fun stage =>
    net.moved route.source
      (migrateTimeout route.source (net.nodes route.source) route.shardId route.target stage))

/- No call is under way and nothing has been sent. -/
def MigrationNet.initial (nodes : NodeId → Member) : MigrationNet where
  nodes := nodes
  calls := 0
  stage := none
  result := none
  log := []

/- The node has the bytes of that hash under the shard's id. -/
def HoldsBytes (member : Member) (shardId : UInt16) (hash : ArtifactId) : Prop :=
  ∃ shard, member.held.dataShards[shardId]? = some shard ∧ digests.bytes shard.bytes = hash

end IntelligenceNetwork.Frontier
