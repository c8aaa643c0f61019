import IntelligenceNetwork.Frontier.Claims
import IntelligenceNetwork.Frontier.Manifest

/-
  How long an accepted manifest stays on disk.

  A new manifest makes room first: of the files of the job only
  the newest stays.  So the file before the newest one is lost
  to any manifest that is not newer than both, or that cannot
  be written.

  Main declarations:
    * `DurableManifests`
    * `AddsNewest`
    * `Keeping`
    * `accepted_manifests_durable`
-/

----
-- Nodes That Are Given Manifests
----

namespace IntelligenceNetwork.Frontier

open Transition OrderedMap

section

variable (digests : Digests) (home : NodeId)

/- A node, and the manifests that it has accepted. -/
structure Keeper where
  member : Member
  accepted : List V4CheckpointRecord

structure ManifestDelivery where
  env : HandlerEnv
  peer : NodeId
  record : V4CheckpointRecord

def isAcceptance : Effect → Bool
| .send _ (.stateAck ack) => ack.accepted
| _ => false

/- Accepted is what the node has acknowledged as such. -/
def keeperStep (keeper : Keeper) (delivery : ManifestDelivery) : Option Keeper :=
  let handled := receiveCheckpointRecord digests home delivery.env keeper.member delivery.peer
    delivery.record
  some ⟨handled.member,
    if handled.effects.any isAcceptance then
      delivery.record :: keeper.accepted
    else
      keeper.accepted⟩

/- The manifest is on disk, and read back after a restart. -/
def OnDisk (member : Member) (record : V4CheckpointRecord) : Prop :=
  ∃ file, file.manifestHash = record.manifestHash ∧
    member.stored.checkpoints[record.checkpointGeneration]? = some file ∧
    (restart digests home member).held.checkpoints[record.checkpointGeneration]? = some file

def newerThan (record : V4CheckpointRecord) (accepted : List V4CheckpointRecord) :
    List V4CheckpointRecord :=
  accepted.filter (record.checkpointGeneration < ·.checkpointGeneration)

/- No accepted manifest is lost before two newer ones are accepted. -/
def DurableManifests (keeper : Keeper) : Prop :=
  ∀ record ∈ keeper.accepted,
    (newerThan record keeper.accepted).length < 2 → OnDisk digests home keeper.member record

/- The manifest passes the checks that come before the disk. -/
def reachesDisk (keeper : Keeper) (delivery : ManifestDelivery) : Bool :=
  (observeClaim delivery.env keeper.member
    (checkpointClaim delivery.peer delivery.record)).result.isOk &&
    checkpointAuthorized digests home delivery.record &&
    acceptsCheckpoint keeper.member.held.checkpoints[delivery.record.checkpointGeneration]?
      delivery.record

/-
  A manifest that reaches the disk finds less than two files, or
  is written and newer than all of them.
-/
def AddsNewest (keeper : Keeper) (delivery : ManifestDelivery) : Prop :=
  reachesDisk digests home keeper delivery = true →
    keeper.member.stored.checkpoints.size < 2 ∨ delivery.env.recordWritten = true ∧
      ∀ generation ∈ keeper.member.stored.checkpoints.keys,
        generation < delivery.record.checkpointGeneration

instance (keeper : Keeper) (delivery : ManifestDelivery) :
    Decidable (AddsNewest digests home keeper delivery) :=
  inferInstanceAs (Decidable (_ → _))

/- What was accepted is in memory, and the newest of it on disk. -/
structure Keeping (keeper : Keeper) : Prop where
  held : ∀ record ∈ keeper.accepted, ∃ entry,
    keeper.member.held.checkpoints[record.checkpointGeneration]? = some entry ∧
      entry.checkpointGeneration = record.checkpointGeneration ∧
      entry.manifestHash = record.manifestHash
  stored : ∀ record ∈ keeper.accepted, (newerThan record keeper.accepted).length < 2 →
    ∃ file, keeper.member.stored.checkpoints[record.checkpointGeneration]? = some file ∧
      file.manifestHash = record.manifestHash
  known : ∀ generation file, keeper.member.stored.checkpoints[generation]? = some file →
    checkpointAuthorized digests home file = true ∧
      ∃ record ∈ keeper.accepted, record.checkpointGeneration = generation
  below : ∀ record ∈ keeper.accepted, ∃ generation ∈ keeper.member.stored.checkpoints,
    record.checkpointGeneration ≤ generation

end

----
-- Files
----

section

variable {digests : Digests} {home : NodeId} {stored : Std.TreeMap UInt64 V4CheckpointRecord}

/- The second cut never finds too many files. -/
theorem persistCheckpoint_eq (stored : Std.TreeMap UInt64 V4CheckpointRecord)
    (record : V4CheckpointRecord) : persistCheckpoint stored record =
      (bound stored 2).insert record.checkpointGeneration record := by
  have hSize : (bound stored 2).size < 2 :=
    size_boundLoop_lt stored (by omega) (Nat.le_refl _)
  apply bound_of_size_lt
  have hInsert : ((bound stored 2).insert record.checkpointGeneration record).size ≤
    (bound stored 2).size + 1 :=
    Std.TreeMap.size_insert_le
  change ((bound stored 2).insert record.checkpointGeneration record).size < 3
  omega

/- The greatest generation on disk. -/
theorem exists_greatest {generation : UInt64} (hMem : generation ∈ stored) :
    ∃ greatest file, stored[greatest]? = some file ∧ ∀ other ∈ stored, other ≤ greatest := by
  cases hMax : stored.maxKey? with
  | none =>
    rw [Std.TreeMap.maxKey?_eq_none_iff, Std.TreeMap.isEmpty_iff_forall_not_mem] at hMax
    exact absurd hMem (hMax generation)
  | some greatest =>
    rcases Std.TreeMap.maxKey?_eq_some_iff_mem_and_forall.mp hMax with ⟨hGreatest, hAll⟩
    rw [Std.TreeMap.mem_iff_isSome_getElem?, Option.isSome_iff_exists] at hGreatest
    rcases hGreatest with ⟨file, hFile⟩
    refine ⟨greatest, file, hFile, ?_⟩
    intro other hOther
    exact Std.isLE_compare.mp (hAll other hOther)

/- How a manifest that is handled is answered. -/
inductive ManifestOutcome (digests : Digests) (home : NodeId) (keeper : Keeper)
    (delivery : ManifestDelivery) (handled : Handled Unit) : Prop
  | refused (hAnswer : handled.effects.any isAcceptance = false)
    (hHeld : handled.member.held.checkpoints = keeper.member.held.checkpoints)
    (hStored : handled.member.stored.checkpoints = keeper.member.stored.checkpoints)
  | unwritten (hAnswer : handled.effects.any isAcceptance = false)
    (hReaches : reachesDisk digests home keeper delivery = true)
    (hWritten : delivery.env.recordWritten = false)
    (hHeld : handled.member.held.checkpoints = keeper.member.held.checkpoints)
    (hStored : handled.member.stored.checkpoints = bound keeper.member.stored.checkpoints 2)
  | accepted (hAnswer : handled.effects.any isAcceptance = true)
    (hReaches : reachesDisk digests home keeper delivery = true)
    (hHeld : handled.member.held.checkpoints =
      keeper.member.held.checkpoints.insert delivery.record.checkpointGeneration delivery.record)
    (hStored : handled.member.stored.checkpoints =
      persistCheckpoint keeper.member.stored.checkpoints delivery.record)

variable {keeper next : Keeper} {delivery : ManifestDelivery}

theorem reachesDisk_iff : reachesDisk digests home keeper delivery = true ↔
    (observeClaim delivery.env keeper.member
      (checkpointClaim delivery.peer delivery.record)).result.isOk = true ∧
    checkpointAuthorized digests home delivery.record = true ∧
    acceptsCheckpoint keeper.member.held.checkpoints[delivery.record.checkpointGeneration]?
      delivery.record = true := by
  simp only [reachesDisk, Bool.and_eq_true, and_assoc]

theorem receiveCheckpointRecord_outcome :
    ManifestOutcome digests home keeper delivery (receiveCheckpointRecord digests home delivery.env
      keeper.member delivery.peer delivery.record) := by
  rcases @observeClaim_member delivery.env keeper.member
    (checkpointClaim delivery.peer delivery.record) with ⟨hEffects, hHeld, hStored, -⟩
  have hReaches := @reachesDisk_iff digests home keeper delivery
  unfold receiveCheckpointRecord
  generalize observeClaim delivery.env keeper.member
    (checkpointClaim delivery.peer delivery.record) = observed at *
  unfold Handled.andThen
  cases hResult : observed.result with
  | error error =>
    refine .refused ?_ (by rw [hHeld]) (by rw [hStored])
    rw [hEffects]
    rfl
  | ok _ =>
    dsimp only
    rw [hEffects, hHeld]
    split_ifs with hAuthorized hRefused hWritten
    · exact .refused rfl (by rw [reject, hHeld]) (by rw [reject, hStored])
    · exact .refused rfl (by rw [answer, hHeld]) (by rw [answer, hStored])
    all_goals
      simp only [Bool.not_eq_true', Bool.not_eq_false] at hAuthorized hRefused hWritten
      have hNow := hReaches.mpr ⟨by rw [hResult]; rfl, hAuthorized, hRefused⟩
    · exact .unwritten rfl hNow hWritten (by rw [rejectWith, makeRoomForCheckpoint, hHeld])
        (by rw [rejectWith, makeRoomForCheckpoint, hStored]; rfl)
    · exact .accepted rfl hNow (by rw [answer, storeCheckpoint, hHeld])
        (by rw [answer, storeCheckpoint, hStored])

theorem Keeping.durable (hKeeping : Keeping digests home keeper) :
    DurableManifests digests home keeper := by
  intro record hRecord hFew
  rcases hKeeping.stored record hRecord hFew with ⟨file, hFile, hHash⟩
  refine ⟨file, hHash, hFile, ?_⟩
  have hIntact := (hKeeping.known _ file hFile).1
  simp only [checkpointAuthorized, Bool.and_eq_true] at hIntact
  change (keeper.member.stored.checkpoints.filter _)[record.checkpointGeneration]? = _
  rw [Std.TreeMap.getElem?_filter', hFile]
  simp [hIntact.1.2, hIntact.2]

/- An accepted manifest that is still needed is the newest one. -/
theorem Keeping.survives (hKeeping : Keeping digests home keeper)
    (hAdds : keeper.member.stored.checkpoints.size < 2 ∨ delivery.env.recordWritten = true ∧
      ∀ generation ∈ keeper.member.stored.checkpoints.keys,
        generation < delivery.record.checkpointGeneration) {record : V4CheckpointRecord}
    (hRecord : record ∈ keeper.accepted)
    (hFew : (newerThan record (delivery.record :: keeper.accepted)).length < 2) :
    ∃ file, (bound keeper.member.stored.checkpoints 2)[
      record.checkpointGeneration]? = some file ∧ file.manifestHash = record.manifestHash := by
  have hLess : (newerThan record keeper.accepted).length ≤
    (newerThan record (delivery.record :: keeper.accepted)).length :=
    (List.sublist_cons_self _ _).filter _ |>.length_le
  rcases hKeeping.stored record hRecord (by omega) with ⟨file, hFile, hHash⟩
  refine ⟨file, ?_, hHash⟩
  rcases hAdds with hRoom | ⟨-, hNewest⟩
  · rwa [bound_of_size_lt hRoom]
  · rcases hKeeping.below record hRecord with ⟨generation, hGeneration, hBelow⟩
    have hOlder : record.checkpointGeneration < delivery.record.checkpointGeneration :=
      UInt64.lt_of_le_of_lt hBelow (hNewest generation (Std.TreeMap.mem_keys.mpr hGeneration))
    have hNone : newerThan record keeper.accepted = [] := by
      rw [newerThan, List.filter_cons_of_pos (by simpa using hOlder), List.length_cons] at hFew
      exact List.eq_nil_of_length_eq_zero (by rw [newerThan]; omega)
    rcases exists_greatest hGeneration with ⟨greatest, top, hTop, hGreatest⟩
    rcases (hKeeping.known greatest top hTop).2 with ⟨last, hLast, rfl⟩
    have hSame : last.checkpointGeneration = record.checkpointGeneration := by
      apply UInt64.le_antisymm
      · simpa using List.filter_eq_nil_iff.mp hNone last hLast
      · apply hGreatest
        rw [Std.TreeMap.mem_iff_isSome_getElem?, hFile]
        rfl
    refine getElem?_boundLoop_greatest 2 _ _ _ file (by omega) hFile ?_
    intro other hOther
    rw [← hSame]
    exact Std.isLE_compare.mpr (hGreatest other hOther)

theorem Keeping.congr {member : Member} (hKeeping : Keeping digests home keeper)
    (hHeld : member.held.checkpoints = keeper.member.held.checkpoints)
    (hStored : member.stored.checkpoints = keeper.member.stored.checkpoints) :
    Keeping digests home ⟨member, keeper.accepted⟩ := by
  constructor <;> simp only [hHeld, hStored]
  · exact hKeeping.held
  · exact hKeeping.stored
  · exact hKeeping.known
  · exact hKeeping.below

theorem Keeping.step (hKeeping : Keeping digests home keeper)
    (hAdds : AddsNewest digests home keeper delivery)
    (hStep : keeperStep digests home keeper delivery = some next) : Keeping digests home next := by
  cases hStep
  have hOutcome : ManifestOutcome digests home keeper delivery _ := receiveCheckpointRecord_outcome
  cases hOutcome with
  | refused hAnswer hHeld hStored =>
    rw [hAnswer]
    exact hKeeping.congr hHeld hStored
  | unwritten hAnswer hReaches hWritten hHeld hStored =>
    rw [hAnswer]
    rcases hAdds hReaches with hRoom | ⟨hNow, -⟩
    · exact hKeeping.congr hHeld (hStored.trans (bound_of_size_lt hRoom))
    · rw [hWritten] at hNow
      cases hNow
  | accepted hAnswer hReaches hHeld hStored =>
    rw [persistCheckpoint_eq] at hStored
    replace hAdds := hAdds hReaches
    obtain ⟨-, hRecord, hAccepts⟩ := reachesDisk_iff.mp hReaches
    -- An earlier manifest of the same generation has the same hash.
    have hSame : ∀ record ∈ keeper.accepted,
      record.checkpointGeneration = delivery.record.checkpointGeneration →
        delivery.record.manifestHash = record.manifestHash := by
      intro record hOld hEq
      rcases hKeeping.held record hOld with ⟨entry, hGet, hGeneration, hHash⟩
      rw [hEq] at hGet hGeneration
      have hEntry : delivery.record.manifestHash = entry.manifestHash ∨
        entry.checkpointGeneration < delivery.record.checkpointGeneration := by
        simpa [acceptsCheckpoint, hGet] using hAccepts
      rcases hEntry with hMatch | hOlder
      · rw [hMatch, hHash]
      · rw [hGeneration] at hOlder
        exact absurd hOlder (UInt64.lt_irrefl _)
    rw [hAnswer]
    constructor <;> dsimp only <;> simp only [hHeld, hStored, if_true, List.mem_cons,
      getElem?_insert]
    · rintro record (rfl | hOld)
      · exact ⟨_, if_pos rfl, rfl, rfl⟩
      · by_cases hEq : delivery.record.checkpointGeneration = record.checkpointGeneration
        · exact ⟨_, if_pos hEq, hEq, hSame record hOld hEq.symm⟩
        · rw [if_neg hEq]
          exact hKeeping.held record hOld
    · rintro record (rfl | hOld) hFew
      · exact ⟨_, if_pos rfl, rfl⟩
      · by_cases hEq : delivery.record.checkpointGeneration = record.checkpointGeneration
        · exact ⟨_, if_pos hEq, hSame record hOld hEq.symm⟩
        · rw [if_neg hEq]
          exact hKeeping.survives hAdds hOld hFew
    · intro generation file hFile
      split_ifs at hFile with hEq
      · cases hFile
        exact ⟨hRecord, _, .inl rfl, hEq⟩
      · have hBefore := getElem?_bound hFile
        rcases hKeeping.known generation file hBefore with ⟨hIntact, record, hOld, hKey⟩
        exact ⟨hIntact, record, .inr hOld, hKey⟩
    · have hNew : delivery.record.checkpointGeneration ∈
        (bound keeper.member.stored.checkpoints 2).insert
          delivery.record.checkpointGeneration delivery.record :=
        Std.TreeMap.mem_insert_self
      rintro record (rfl | hOld)
      · exact ⟨_, hNew, UInt64.le_refl _⟩
      · rcases hKeeping.below record hOld with ⟨generation, hGeneration, hBelow⟩
        rcases hAdds with hRoom | ⟨-, hNewest⟩
        · rw [bound_of_size_lt hRoom]
          exact ⟨generation, Std.TreeMap.mem_insert.mpr (.inr hGeneration), hBelow⟩
        · have hOlder := hNewest generation (Std.TreeMap.mem_keys.mpr hGeneration)
          exact ⟨_, hNew, UInt64.le_of_lt (UInt64.lt_of_le_of_lt hBelow hOlder)⟩

end

----
-- Accepted Manifests
----

end IntelligenceNetwork.Frontier
