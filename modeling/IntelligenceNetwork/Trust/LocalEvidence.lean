import IntelligenceNetwork.Lib.Transition
import IntelligenceNetwork.Trust.Evidence

/-
  Whether the evidence of others can push out that of the node
  itself.

  A full list gives up the record that runs out first, whoever
  issued it, and the issuers choose how long their records
  run.

  Main declarations:
    * `GoesBefore`
    * `Spares`
    * `local_evidence_kept_iff`
-/

----
-- Local Records
----

namespace IntelligenceNetwork.Trust

section

variable (attesting : Attesting) (owner : NodeId) (horizon : UInt64)

/- A record of the node that has not expired by then. -/
def Guarded (item : SignedEvidence) : Prop :=
  item.issuer = owner ∧ horizon ≤ item.expiresAt

instance (item : SignedEvidence) : Decidable (Guarded owner horizon item) :=
  inferInstanceAs (Decidable (_ ∧ _))

def insertOne (graph : EvidenceGraph) (insert : SignedEvidence × UInt64) : EvidenceGraph :=
  (graph.insert attesting insert.1 insert.2).1

def insertAll (graph : EvidenceGraph) (inserts : List (SignedEvidence × UInt64)) : EvidenceGraph :=
  inserts.foldl (insertOne attesting) graph

/-
  Of two records in a list, with their places, the first one
  runs out sooner; of equal times it was observed sooner, then
  has the lower sequence number, then the lower place.
-/
def GoesBefore (first second : SignedEvidence × Nat) : Prop :=
  evictionKey first.1 < evictionKey second.1 ∨
    (evictionKey first.1 = evictionKey second.1 ∧ first.2 < second.2)

instance (first second : SignedEvidence × Nat) : Decidable (GoesBefore first second) :=
  inferInstanceAs (Decidable (_ ∨ _))

/-
  A new record that is admitted to a full list finds a record
  there that goes before each of the node's own.
-/
def Spares (graph : EvidenceGraph) (insert : SignedEvidence × UInt64) : Prop :=
  graph.admits attesting insert.1 insert.2 = true →
    (∀ existing ∈ graph.entries, stream existing ≠ stream insert.1) →
    graph.policy.maxEvidence ≤ graph.entries.length →
    ∀ item ∈ graph.entries.zipIdx, Guarded owner horizon item.1 →
      ∃ other ∈ graph.entries.zipIdx, GoesBefore other item

instance (graph : EvidenceGraph) (insert : SignedEvidence × UInt64) :
    Decidable (Spares attesting owner horizon graph insert) :=
  inferInstanceAs (Decidable (_ → _))

end

----
-- One Insert
----

section

variable {attesting : Attesting} {owner : NodeId} {horizon : UInt64} {graph : EvidenceGraph}

/- A record stands where its number says. -/
theorem idxOf_zipIdx [BEq (SignedEvidence × Nat)] [LawfulBEq (SignedEvidence × Nat)]
    {entries : List SignedEvidence} {item : SignedEvidence × Nat}
    (hItem : item ∈ entries.zipIdx) : entries.zipIdx.idxOf item = item.2 := by
  have hThere : entries.zipIdx[item.2]? = some item := by
    rw [List.getElem?_zipIdx, List.mem_zipIdx_iff_getElem?.mp hItem]
    simp
  rcases List.getElem?_eq_some_iff.mp hThere with ⟨hLess, hEq⟩
  have hDistinct : entries.zipIdx.Nodup := by
    apply List.Nodup.of_map Prod.snd
    rw [List.zipIdx_map_snd]
    exact List.nodup_range'
  have hPlace := hDistinct.idxOf_getElem item.2 hLess
  rwa [hEq] at hPlace

/- The record that makes room is the one that none goes before. -/
theorem oldest_eq_iff {entries : List SignedEvidence} {item : SignedEvidence × Nat}
    (hItem : item ∈ entries.zipIdx) :
    oldest entries = item.2 ↔ ∀ other ∈ entries.zipIdx, ¬ GoesBefore other item := by
  have hIndex := @idxOf_zipIdx instBEqOfDecidableEq _ entries
  have hLeast : item ∈ entries.zipIdx.argmin (fun item => evictionKey item.1) ↔
    ∀ other ∈ entries.zipIdx, ¬ GoesBefore other item := by
    rw [List.mem_argmin_iff]
    constructor
    · rintro ⟨-, hKeys, hPlaces⟩ other hOther hBefore
      rcases hBefore with hLess | ⟨hSame, hLess⟩
      · exact not_lt_of_ge (hKeys other hOther) hLess
      · have hPlace := hPlaces other hOther hSame.le
        rw [hIndex hItem, hIndex hOther] at hPlace
        omega
    · intro hNone
      have hKeys : ∀ other ∈ entries.zipIdx, evictionKey item.1 ≤ evictionKey other.1 := by
        intro other hOther
        exact not_lt.mp (fun hLess => hNone other hOther (Or.inl hLess))
      refine ⟨hItem, hKeys, ?_⟩
      intro other hOther hKey
      rw [hIndex hItem, hIndex hOther]
      exact not_lt.mp (fun hLess =>
        hNone other hOther (Or.inr ⟨le_antisymm hKey (hKeys other hOther), hLess⟩))
  rw [← hLeast, oldest]
  cases hFound : entries.zipIdx.argmin (fun item => evictionKey item.1) with
  | none =>
    rw [List.argmin_eq_none] at hFound
    rw [hFound] at hItem
    cases hItem
  | some least =>
    have hThere := List.mem_zipIdx_iff_getElem?.mp (List.argmin_mem hFound)
    have hHere := List.mem_zipIdx_iff_getElem?.mp hItem
    constructor
    · intro hPlace
      change least.2 = item.2 at hPlace
      rw [← hPlace, hThere] at hHere
      exact congrArg some (Prod.ext (Option.some.inj hHere) hPlace)
    · intro hSame
      cases hSame
      rfl

/- All other records stay when the oldest goes. -/
theorem mem_eraseIdx_oldest_iff {item : SignedEvidence × Nat}
    (hItem : item ∈ graph.entries.zipIdx) :
    item.1 ∈ graph.entries.eraseIdx (oldest graph.entries) ↔
      ∃ other ∈ graph.entries.zipIdx, GoesBefore other item := by
  have hHere := List.mem_zipIdx_iff_getElem?.mp hItem
  have hMoves : (∃ other ∈ graph.entries.zipIdx, GoesBefore other item) ↔
    oldest graph.entries ≠ item.2 := by
    rw [Ne, oldest_eq_iff hItem]
    simp
  rw [hMoves, List.mem_eraseIdx_iff_getElem?]
  constructor
  · rintro ⟨place, hPlace, hThere⟩ hOldest
    have hLess := (List.getElem?_eq_some_iff.mp hThere).1
    have hDistinct := List.Nodup.of_map stream graph.distinct
    have hSame := (List.getElem?_inj hLess hDistinct).mp (hThere.trans hHere.symm)
    exact hPlace (hSame.trans hOldest.symm)
  · intro hOther
    exact ⟨item.2, hOther.symm, hHere⟩

section

variable {evidence : SignedEvidence} (time : UInt64) (hRemote : evidence.issuer ≠ owner)

include hRemote in
/- An insert of another issuer brings in no guarded record. -/
theorem guarded_of_mem_insertOne {item : SignedEvidence} (hGuarded : Guarded owner horizon item)
    (hItem : item ∈ (insertOne attesting graph (evidence, time)).entries) :
    item ∈ graph.entries := by
  have hOther : item ≠ evidence := by
    rintro rfl
    exact hRemote hGuarded.1
  have hChange := EvidenceGraph.change_insert attesting graph evidence time
  rw [insertOne] at hItem
  generalize (graph.insert attesting evidence time).1.entries = after at hItem hChange
  cases hChange with
  | refused _ | stale hExisting hStream hStale => exact hItem
  | renewed hAdmits hEntries _ _ =>
    rw [hEntries]
    simp only [List.mem_append, List.mem_cons, hOther, false_or] at hItem ⊢
    tauto
  | added _ _ =>
    rcases List.mem_append.mp hItem with hOld | hNew
    · exact makeRoom_sublist.subset hOld
    · exact absurd (List.mem_singleton.mp hNew) hOther

include hRemote in
theorem guarded_kept_step_iff : (∀ item ∈ graph.entries, Guarded owner horizon item →
    item ∈ (insertOne attesting graph (evidence, time)).entries) ↔
    Spares attesting owner horizon graph (evidence, time) := by
  have hChange := EvidenceGraph.change_insert attesting graph evidence time
  rw [insertOne, Spares]
  generalize (graph.insert attesting evidence time).1.entries = after at hChange ⊢
  cases hChange with
  | refused hRefused =>
    refine ⟨fun _ hAdmits => ?_, fun _ item hItem _ => hItem⟩
    simp [hRefused] at hAdmits
  | stale hExisting hStream _ =>
    exact ⟨fun _ _ hFresh => absurd hStream (hFresh _ hExisting), fun _ item hItem _ => hItem⟩
  | @renewed before rest existing hAdmits hEntries hStream _ =>
    constructor
    · intro _ _ hFresh
      exact absurd hStream (hFresh existing (by rw [hEntries]; simp))
    · intro _ item hItem hGuarded
      have hOther : item ≠ existing := by
        rintro rfl
        exact hRemote ((congrArg Prod.fst hStream).symm.trans hGuarded.1)
      rw [hEntries] at hItem
      simp only [List.mem_append, List.mem_cons, hOther, false_or] at hItem ⊢
      tauto
  | added hAdmits hFresh =>
    by_cases hFull : graph.policy.maxEvidence ≤ graph.entries.length
    · rw [makeRoom, if_pos hFull]
      constructor
      · intro hKept _ _ _ item hItem hGuarded
        have hThere := List.fst_mem_of_mem_zipIdx hItem
        rcases List.mem_append.mp (hKept item.1 hThere hGuarded) with hStays | hNew
        · exact (mem_eraseIdx_oldest_iff hItem).mp hStays
        · rw [List.mem_singleton.mp hNew] at hGuarded
          exact absurd hGuarded.1 hRemote
      · intro hSpares item hItem hGuarded
        rcases List.mem_iff_getElem?.mp hItem with ⟨place, hThere⟩
        have hPlaced : (item, place) ∈ graph.entries.zipIdx :=
          List.mem_zipIdx_iff_getElem?.mpr hThere
        apply List.mem_append_left
        exact (mem_eraseIdx_oldest_iff hPlaced).mpr
          (hSpares hAdmits hFresh hFull (item, place) hPlaced hGuarded)
    · rw [makeRoom_of_lt (Nat.not_le.mp hFull)]
      constructor
      · intro _ _ _ hThis
        exact absurd hThis hFull
      · intro _ item hItem _
        exact List.mem_append_left _ hItem

end

----
-- All Inserts
----

theorem guarded_of_mem_insertAll {inserts : List (SignedEvidence × UInt64)}
    (hRemote : ∀ insert ∈ inserts, insert.1.issuer ≠ owner) {item : SignedEvidence}
    (hGuarded : Guarded owner horizon item)
    (hItem : item ∈ (insertAll attesting graph inserts).entries) : item ∈ graph.entries := by
  induction inserts generalizing graph with
  | nil => exact hItem
  | cons insert inserts ih =>
    rcases List.forall_mem_cons.mp hRemote with ⟨hFirst, hRest⟩
    exact guarded_of_mem_insertOne insert.2 hFirst hGuarded (ih hRest hItem)

theorem guarded_kept_iff {inserts : List (SignedEvidence × UInt64)}
    (hRemote : ∀ insert ∈ inserts, insert.1.issuer ≠ owner) :
    (∀ item ∈ graph.entries, Guarded owner horizon item →
      item ∈ (insertAll attesting graph inserts).entries) ↔
    Transition.Meets (fun graph insert => some (insertOne attesting graph insert))
      (Spares attesting owner horizon) graph inserts := by
  induction inserts generalizing graph with
  | nil => exact ⟨fun _ => trivial, fun _ item hItem _ => hItem⟩
  | cons insert inserts ih =>
    rcases List.forall_mem_cons.mp hRemote with ⟨hFirst, hRest⟩
    have hStep := @guarded_kept_step_iff attesting owner horizon graph insert.1 insert.2 hFirst
    rw [Transition.Meets, ← hStep]
    constructor
    · intro hKept
      refine ⟨?_, ?_⟩
      · -- what is there in the end was there after the first insert
        intro item hItem hGuarded
        exact guarded_of_mem_insertAll hRest hGuarded (hKept item hItem hGuarded)
      · rintro next ⟨⟩
        refine (ih hRest).mp ?_
        intro item hItem hGuarded
        exact hKept item (guarded_of_mem_insertOne insert.2 hFirst hGuarded hItem) hGuarded
    · rintro ⟨hHere, hLater⟩ item hItem hGuarded
      exact (ih hRest).mpr (hLater _ rfl) item (hHere item hItem hGuarded) hGuarded

end

/-
  The node's own records outlast all inserts of others exactly
  if each new record that finds the list full also finds, by
  time of expiry, observation and sequence, a record there that
  goes before them.
-/
theorem local_evidence_kept_iff (attesting : Attesting) (graph : EvidenceGraph) (owner : NodeId)
    (hOwner : graph.localIssuer = some owner) (horizon : UInt64)
    (inserts : List (SignedEvidence × UInt64))
    (hRemote : ∀ insert ∈ inserts, some insert.1.issuer ≠ graph.localIssuer) :
    (∀ item ∈ graph.entries, some item.issuer = graph.localIssuer → horizon ≤ item.expiresAt →
      item ∈ (insertAll attesting graph inserts).entries) ↔
    Transition.Meets (fun graph insert => some (insertOne attesting graph insert))
      (Spares attesting owner horizon) graph inserts := by
  have hOthers : ∀ insert ∈ inserts, insert.1.issuer ≠ owner := by
    intro insert hInsert hSame
    exact hRemote insert hInsert (by rw [hOwner, hSame])
  rw [← guarded_kept_iff hOthers]
  simp only [hOwner, Option.some.injEq, Guarded, and_imp]

/- One record of the node itself, in a list of some size. -/
def sharedGraph (policy : TrustPolicy) (hPositive : policy.Positive) : EvidenceGraph :=
  insertOne plainKeys (emptyGraph policy hPositive) (plainEvidence ⟨1⟩ ⟨3⟩ .timeout 1 50, 10)

def sharedByTwo : EvidenceGraph :=
  sharedGraph { maxEvidence := 2 } (by decide)

def sharedByOne : EvidenceGraph :=
  sharedGraph { maxEvidence := 1 } (by decide)

/- Of two records of others, the second pushes out the first. -/
theorem local_evidence_kept_two : sharedByTwo.localIssuer = some ⟨1⟩ ∧
    ∀ item ∈ sharedByTwo.entries, some item.issuer = sharedByTwo.localIssuer →
      (10 : UInt64) ≤ item.expiresAt →
      item ∈ (insertAll plainKeys sharedByTwo [(plainEvidence ⟨2⟩ ⟨3⟩ .jobCompleted 1 20, 10),
        (plainEvidence ⟨4⟩ ⟨3⟩ .jobCompleted 1 100, 10)]).entries := by
  refine ⟨rfl, ?_⟩
  exact (local_evidence_kept_iff plainKeys sharedByTwo ⟨1⟩ rfl 10
    [(plainEvidence ⟨2⟩ ⟨3⟩ .jobCompleted 1 20, 10),
      (plainEvidence ⟨4⟩ ⟨3⟩ .jobCompleted 1 100, 10)] (by decide)).mpr (by decide +kernel)

/- In a list of one, the record that runs longer stays. -/
theorem local_evidence_pushed_out : plainEvidence ⟨1⟩ ⟨3⟩ .timeout 1 50 ∈ sharedByOne.entries ∧
    (insertAll plainKeys sharedByOne [(plainEvidence ⟨2⟩ ⟨3⟩ .jobCompleted 1 100, 10)]).entries =
      [plainEvidence ⟨2⟩ ⟨3⟩ .jobCompleted 1 100] := by
  decide +kernel

end IntelligenceNetwork.Trust
