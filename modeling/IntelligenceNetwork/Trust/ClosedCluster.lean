import IntelligenceNetwork.Trust.Evidence

/-
  What identities that only have evidence of each other can
  make of themselves.

  Direct evidence counts whoever issues it.  Nothing asks
  whether the issuers are outside of the group that they vouch
  for.

  Main declarations:
    * `Unvouched`
    * `Unaccused`
    * `closed_cluster_iff`
-/

----
-- Evidence on a Member
----

namespace IntelligenceNetwork.Trust

section

variable (graph : EvidenceGraph) (member : NodeId) (now : UInt64)

/- The live records of some kinds about a member. -/
def about (kinds : EvidenceKind → Bool) : List SignedEvidence :=
  graph.entries.filter (fun item =>
    item.subject == member && item.expiresAt ≥ now && kinds item.kind)

/- The others that have direct evidence on it. -/
def vouchers : Finset NodeId :=
  ((about graph member now isDirect).map SignedEvidence.issuer).toFinset.erase member

/- Somebody endorses it who has positive evidence of another. -/
def Backed : Prop :=
  ∃ endorsement ∈ about graph member now (fun kind => kind == .endorsement),
    endorsement.issuer ≠ member ∧ ∃ backing ∈ about graph endorsement.issuer now isPositive,
      backing.issuer ≠ endorsement.issuer

/- So much success, attested by so many others. -/
def Reaches (successes issuers : Nat) : Prop :=
  successes ≤ (about graph member now isSuccess).length ∧ issuers ≤ (vouchers graph member now).card

def Unvouched : Prop :=
  ¬ Backed graph member now ∧
    ¬ Reaches graph member now graph.policy.establishedDirectSuccesses
      graph.policy.establishedIndependentIssuers ∧
    ¬ Reaches graph member now graph.policy.trustedDirectSuccesses
      graph.policy.trustedIndependentIssuers

/- What the records that speak for it count, unendorsed. -/
def credit : Nat :=
  let successes := (about graph member now isSuccess).length
  let issuers := (vouchers graph member now).card
  match graph.localIssuer with
  | none => EvidenceGraph.positiveScore successes 0 issuers 0
  | some _ => EvidenceGraph.positiveScore 0 successes issuers 0

/- What the records that speak against it count. -/
def blame : Nat :=
  let failures := (about graph member now isNegative).length
  let reports := min (about graph member now (fun kind => kind == .violationReport)).length
    graph.policy.maxIndirectNegativeInfluence
  match graph.localIssuer with
  | none => EvidenceGraph.negativeScore failures 0 reports
  | some _ => EvidenceGraph.negativeScore 0 failures reports

/- Neither enough negative records nor too heavy ones. -/
def Unaccused : Prop :=
  (about graph member now isNegative).length < graph.policy.quarantineNegativeEvidence ∧
    (blame graph member now ≤ credit graph member now ∨
      (about graph member now isNegative).length = 0 ∧
        (about graph member now isSuccess).length = 0)

instance : Decidable (Backed graph member now) :=
  inferInstanceAs (Decidable (∃ endorsement ∈ about _ _ _ _, _))

instance (successes issuers : Nat) : Decidable (Reaches graph member now successes issuers) :=
  inferInstanceAs (Decidable (_ ∧ _))

instance : Decidable (Unvouched graph member now) :=
  inferInstanceAs (Decidable (_ ∧ _))

instance : Decidable (Unaccused graph member now) :=
  inferInstanceAs (Decidable (_ ∧ _))

end

----
-- Endorsements
----

section

variable {graph : EvidenceGraph} {member : NodeId} {now : UInt64}

/- Endorsers that count are never taken back. -/
theorem prefix_acceptEndorsers (endorsers : List NodeId) (items : List SignedEvidence) :
    endorsers <+: graph.acceptEndorsers member now endorsers items := by
  induction items generalizing endorsers with
  | nil => exact List.prefix_rfl
  | cons item items ih =>
    rw [EvidenceGraph.acceptEndorsers]
    split_ifs
    · exact ih endorsers
    · exact (List.prefix_append _ _).trans (ih _)
    · exact ih endorsers

theorem acceptEndorsers_eq_nil_iff (items : List SignedEvidence) :
    graph.acceptEndorsers member now [] items = [] ↔
      ∀ item ∈ items, item.issuer ≠ member → graph.endorserHasDirect now item.issuer = false := by
  have hSome : ¬ 0 ≥ graph.policy.maxEndorsementsPerIssuer :=
    Nat.not_le.mpr (Nat.pos_of_ne_zero graph.positive.endorsements)
  induction items with
  | nil => simp [EvidenceGraph.acceptEndorsers]
  | cons item items ih =>
    rw [EvidenceGraph.acceptEndorsers, List.forall_mem_cons]
    by_cases hSelf : item.issuer = member
    · simp [hSelf, ih]
    · by_cases hDirect : graph.endorserHasDirect now item.issuer = true
      · have hPrefix := @prefix_acceptEndorsers graph member now [item.issuer] items
        have hFirst : graph.acceptEndorsers member now [item.issuer] items ≠ [] := by
          intro hNil
          rw [hNil, List.prefix_nil] at hPrefix
          cases hPrefix
        simp [hSelf, hDirect, hSome, hFirst]
      · simp [hSelf, hDirect, ih]

theorem endorserHasDirect_iff {endorser : NodeId} : graph.endorserHasDirect now endorser = true ↔
    ∃ backing ∈ about graph endorser now isPositive, backing.issuer ≠ endorser := by
  simp only [EvidenceGraph.endorserHasDirect, List.any_eq_true, about, List.mem_filter,
    Bool.and_eq_true, bne_iff_ne]
  constructor
  · rintro ⟨backing, hBacking, ⟨⟨hSubject, hIssuer⟩, hLive⟩, hPositive⟩
    exact ⟨backing, ⟨hBacking, ⟨hSubject, hLive⟩, hPositive⟩, hIssuer⟩
  · rintro ⟨backing, ⟨hBacking, ⟨hSubject, hLive⟩, hPositive⟩, hIssuer⟩
    exact ⟨backing, hBacking, ⟨⟨hSubject, hIssuer⟩, hLive⟩, hPositive⟩

/- The live records of some kinds are those of the decision. -/
theorem filter_live_eq_about (kinds : EvidenceKind → Bool) :
    (graph.live member now).filter (fun item => kinds item.kind) =
      about graph member now kinds := by
  rw [EvidenceGraph.live, List.filter_filter, about]
  congr 1
  funext item
  rw [Bool.and_comm]

theorem endorsers_eq_nil_iff : graph.endorsers member now = [] ↔ ¬ Backed graph member now := by
  rw [EvidenceGraph.endorsers, acceptEndorsers_eq_nil_iff,
    filter_live_eq_about (fun kind => kind == .endorsement), Backed]
  push Not
  refine forall₃_congr ?_
  intro item _ _
  rw [← Bool.not_eq_true, endorserHasDirect_iff]
  push Not
  rfl

----
-- Maturity
----

theorem maturity_le_observed_iff (policy : TrustPolicy)
    (positive negative successes failures issuers directRecords : Nat) :
    EvidenceGraph.maturity policy positive negative successes failures issuers directRecords ≤
      .observed ↔ failures < policy.quarantineNegativeEvidence ∧
      ¬ (negative > positive ∧ (failures > 0 ∨ successes > 0)) ∧
      ¬ (policy.trustedDirectSuccesses ≤ successes ∧ policy.trustedIndependentIssuers ≤ issuers) ∧
      ¬ (policy.establishedDirectSuccesses ≤ successes ∧
        policy.establishedIndependentIssuers ≤ issuers) := by
  rw [EvidenceGraph.maturity]
  split_ifs with hQuarantined hDegraded hTrusted hEstablished hDirect
  · refine ⟨fun hLow => absurd hLow (by decide), fun hHigh => absurd hHigh.1 ?_⟩
    exact Nat.not_lt.mpr hQuarantined
  · exact ⟨fun hLow => absurd hLow (by decide), fun hHigh => absurd hDegraded hHigh.2.1⟩
  · exact ⟨fun hLow => absurd hLow (by decide), fun hHigh => absurd hTrusted hHigh.2.2.1⟩
  · exact ⟨fun hLow => absurd hLow (by decide), fun hHigh => absurd hEstablished hHigh.2.2.2⟩
  · exact ⟨fun _ => ⟨Nat.not_le.mp hQuarantined, hDegraded, hTrusted, hEstablished⟩,
      fun _ => by decide⟩
  · exact ⟨fun _ => ⟨Nat.not_le.mp hQuarantined, hDegraded, hTrusted, hEstablished⟩,
      fun _ => by decide⟩

/- Direct records of some kinds, counted. -/
theorem countP_direct {kinds : EvidenceKind → Bool}
    (hDirect : ∀ kind, kinds kind = true → isDirect kind = true) :
    (graph.direct member now).countP (fun item => kinds item.kind) =
      (about graph member now kinds).length := by
  rw [← filter_live_eq_about, ← List.countP_eq_length_filter, EvidenceGraph.direct,
    List.countP_filter]
  apply List.countP_congr
  intro item _
  rw [Bool.and_eq_true]
  tauto

theorem length_independentIssuers :
    (graph.independentIssuers member now).length = (vouchers graph member now).card := by
  rw [EvidenceGraph.independentIssuers, vouchers, ← List.card_toFinset, List.toFinset_filter,
    ← filter_live_eq_about isDirect]
  congr 1
  ext issuer
  simp only [Finset.mem_filter, Finset.mem_erase, bne_iff_ne]
  exact and_comm

variable {cluster : Set NodeId}
  (hLocal : ∀ issuer, graph.localIssuer = some issuer → issuer ∉ cluster)
  (hClosed : ∀ item ∈ graph.entries, item.subject ∈ cluster → item.issuer ∈ cluster)
  (hMember : member ∈ cluster)

include hLocal hClosed hMember in
/- No record about a member is from the local issuer. -/
theorem isLocal_of_mem_direct {item : SignedEvidence} (hItem : item ∈ graph.direct member now) :
    graph.isLocal item = graph.localIssuer.isNone := by
  simp only [EvidenceGraph.direct, EvidenceGraph.live, List.mem_filter, Bool.and_eq_true,
    beq_iff_eq] at hItem
  have hIssuer := hClosed item hItem.1.1 (hItem.1.2.1 ▸ hMember)
  rw [EvidenceGraph.isLocal]
  cases hSome : graph.localIssuer with
  | none => rfl
  | some issuer =>
    simp only [Option.isNone_some, beq_eq_false_iff_ne]
    rintro rfl
    exact hLocal item.issuer hSome hIssuer

include hLocal hClosed hMember in
/- So all of them count alike. -/
theorem countP_local (kinds : EvidenceKind → Bool) :
    (graph.direct member now).countP (fun item => graph.isLocal item && kinds item.kind) =
      if graph.localIssuer.isNone then
        (graph.direct member now).countP (fun item => kinds item.kind)
      else 0 := by
  have hSame : (graph.direct member now).countP
    (fun item => graph.isLocal item && kinds item.kind) =
    (graph.direct member now).countP
      (fun item => graph.localIssuer.isNone && kinds item.kind) := by
    apply List.countP_congr
    intro item hItem
    rw [isLocal_of_mem_direct hLocal hClosed hMember hItem]
  rw [hSame]
  cases graph.localIssuer.isNone with
  | true | false => simp

include hLocal hClosed hMember in
theorem maturity_decision (hNone : graph.endorsers member now = []) :
    (graph.decision member now).maturity =
      EvidenceGraph.maturity graph.policy (credit graph member now) (blame graph member now)
        (about graph member now isSuccess).length (about graph member now isNegative).length
        (vouchers graph member now).card (graph.direct member now).length := by
  have hReports : (graph.live member now).countP (fun item => item.kind == .violationReport) =
    (about graph member now (fun kind => kind == .violationReport)).length := by
    rw [← filter_live_eq_about, ← List.countP_eq_length_filter]
  simp only [EvidenceGraph.decision, countP_local hLocal hClosed hMember,
    countP_direct isDirect_of_isSuccess, countP_direct isDirect_of_isNegative,
    length_independentIssuers, hNone, hReports, List.length_nil, credit, blame]
  cases graph.localIssuer with
  | none | some issuer => simp

end

----
-- Closed Clusters
----

/-
  Members of a group that has only evidence of its own stay
  without influence and below an established maturity exactly
  if none of them vouches for another to any effect, or
  accuses another to any effect.
-/
theorem closed_cluster_iff (graph : EvidenceGraph) (cluster : Set NodeId)
    (hLocal : ∀ issuer, graph.localIssuer = some issuer → issuer ∉ cluster)
    (hClosed : ∀ item ∈ graph.entries, item.subject ∈ cluster → item.issuer ∈ cluster)
    (member : NodeId) (hMember : member ∈ cluster) (now : UInt64) :
    ((graph.decision member now).endorsementInfluence = 0 ∧
      (graph.decision member now).maturity ≤ .observed) ↔
    Unvouched graph member now ∧ Unaccused graph member now := by
  have hInfluence : (graph.decision member now).endorsementInfluence = 0 ↔
    ¬ Backed graph member now := by
    rw [← endorsers_eq_nil_iff]
    exact List.length_eq_zero_iff
  rw [hInfluence, Unvouched, Unaccused, Reaches, Reaches, and_assoc]
  refine and_congr_right ?_
  intro hUnbacked
  rw [maturity_decision hLocal hClosed hMember (endorsers_eq_nil_iff.mpr hUnbacked),
    maturity_le_observed_iff]
  have hOutweighed : (blame graph member now ≤ credit graph member now ∨
    (about graph member now isNegative).length = 0 ∧
      (about graph member now isSuccess).length = 0) ↔
    ¬ (blame graph member now > credit graph member now ∧
      ((about graph member now isNegative).length > 0 ∨
        (about graph member now isSuccess).length > 0)) := by
    omega
  rw [hOutweighed]
  tauto

/- One member that has been seen by another, and no more. -/
def seenGraph : EvidenceGraph :=
  ((emptyGraph {} (by decide)).insert plainKeys (plainEvidence ⟨2⟩ ⟨3⟩ .observedOnline 1 100) 10).1

theorem closed_cluster_seen :
    (∀ issuer, seenGraph.localIssuer = some issuer → issuer ∉ ({⟨2⟩, ⟨3⟩} : Set NodeId)) ∧
    ((seenGraph.decision ⟨3⟩ 10).endorsementInfluence = 0 ∧
      (seenGraph.decision ⟨3⟩ 10).maturity ≤ .observed) := by
  have hLocal : ∀ issuer, seenGraph.localIssuer = some issuer →
    issuer ∉ ({⟨2⟩, ⟨3⟩} : Set NodeId) := by
    rintro issuer ⟨⟩
    simp
  have hClosed : ∀ item ∈ seenGraph.entries, item.subject ∈ ({⟨2⟩, ⟨3⟩} : Set NodeId) →
    item.issuer ∈ ({⟨2⟩, ⟨3⟩} : Set NodeId) := by
    have hEntries : seenGraph.entries = [plainEvidence ⟨2⟩ ⟨3⟩ .observedOnline 1 100] := by
      decide +kernel
    rw [hEntries]
    simp [plainEvidence]
  refine ⟨hLocal, ?_⟩
  exact (closed_cluster_iff seenGraph {⟨2⟩, ⟨3⟩} hLocal hClosed ⟨3⟩ (by simp) 10).mpr
    (by decide +kernel)

/-
  Three identities that vouch for each other: two of them
  attest three successes of the third, and one of the two,
  which the other has seen, endorses it.
-/
def vouchingRecords : List SignedEvidence :=
  [plainEvidence ⟨3⟩ ⟨2⟩ .jobCompleted 1 100, plainEvidence ⟨3⟩ ⟨2⟩ .evaluation 1 100,
    plainEvidence ⟨4⟩ ⟨2⟩ .jobCompleted 1 100, plainEvidence ⟨4⟩ ⟨3⟩ .observedOnline 1 100,
    plainEvidence ⟨3⟩ ⟨2⟩ .endorsement 1 100]

def vouchingGraph : EvidenceGraph :=
  vouchingRecords.foldl (fun graph evidence => (graph.insert plainKeys evidence 10).1)
    (emptyGraph {} (by decide))

theorem cluster_established :
    vouchingGraph.localIssuer = some ⟨1⟩ ∧ vouchingGraph.entries = vouchingRecords ∧
    (∀ item ∈ vouchingGraph.entries, item.subject ∈ [⟨2⟩, ⟨3⟩, ⟨4⟩] ∧
      item.issuer ∈ [⟨2⟩, ⟨3⟩, ⟨4⟩]) ∧ (vouchingGraph.decision ⟨2⟩ 10).endorsementInfluence = 1 ∧
    (vouchingGraph.decision ⟨2⟩ 10).maturity = .established := by
  decide +kernel

end IntelligenceNetwork.Trust
