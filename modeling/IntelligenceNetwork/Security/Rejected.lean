import IntelligenceNetwork.Security.Contributions

/-
  What a rejected contribution leaves behind.

  The context of the job is written before the position in the
  stream is looked at.

  Main declarations:
    * `Agrees`
    * `rejected_without_trace_iff`
-/

----
-- Ledgers That Judge Alike
----

namespace IntelligenceNetwork.Security

open OrderedMap

/- The tables are the same, and so is who is held from the time on. -/
structure Agrees (clock : UInt64) (first second : LocalSecurityState) : Prop where
  policy : second.policy = first.policy
  replay : second.replay = first.replay
  rejectedReplay : second.rejectedReplay = first.rejectedReplay
  latest : second.latest = first.latest
  contexts : ∀ job : JobId, second.contexts[job]? = first.contexts[job]?
  held : ∀ (peer : NodeId) (time : UInt64), clock ≤ time →
    (isQuarantined second peer time).1 = (isQuarantined first peer time).1

section

variable {clock now : UInt64} {first second : LocalSecurityState}
variable (hAgrees : Agrees clock first second)

include hAgrees

theorem Agrees.event (subject : Option NodeId) (kind : SecurityEventKind) (scope detail : String) :
    Agrees clock (event first now subject kind scope detail)
      (event second now subject kind scope detail) := by
  rcases hAgrees with ⟨hPolicy, hReplay, hRejected, hLatest, hContexts, hHeld⟩
  unfold Security.event
  dsimp only
  split_ifs
  all_goals exact ⟨hPolicy, hReplay, hRejected, hLatest, hContexts, hHeld⟩

theorem Agrees.quarantine (peer : NodeId) (kind : SecurityEventKind) (detail : String) :
    Agrees clock (quarantine first peer now kind detail)
      (quarantine second peer now kind detail) := by
  have hFirst := quarantine_sameLedger first peer now kind detail
  have hSecond := quarantine_sameLedger second peer now kind detail
  refine ⟨?_, ?_, ?_, ?_, ?_, ?_⟩
  · rw [hSecond.policy, hFirst.policy, hAgrees.policy]
  · rw [hSecond.replay, hFirst.replay, hAgrees.replay]
  · rw [hSecond.rejectedReplay, hFirst.rejectedReplay, hAgrees.rejectedReplay]
  · rw [hSecond.latest, hFirst.latest, hAgrees.latest]
  · rw [hSecond.contexts, hFirst.contexts]
    exact hAgrees.contexts
  · intro other time hTime
    have hHeld := hAgrees.held other time hTime
    rw [held_eq, held_eq] at hHeld
    rw [held_eq, held_eq, held_quarantine, held_quarantine, hHeld, hAgrees.policy]

/- Who is held after the clean-up is held at its time, and later. -/
theorem Agrees.expire (hNow : clock ≤ now) :
    Agrees clock (expire first now) (expire second now) := by
  have hBoth : ∀ (security : LocalSecurityState) (peer : NodeId) (time : UInt64),
    (isQuarantined (Security.expire security now) peer time).1 =
      ((isQuarantined security peer now).1 && (isQuarantined security peer time).1) := by
    intro security peer time
    simp only [held_eq, Security.expire, Std.TreeMap.getElem?_filter']
    cases security.quarantined[peer]? with
    | none => rfl
    | some until_ => by_cases hOver : now ≤ until_ <;> simp [hOver]
  refine ⟨hAgrees.policy, hAgrees.replay, hAgrees.rejectedReplay, hAgrees.latest,
    hAgrees.contexts, ?_⟩
  intro peer time hTime
  rw [hBoth, hBoth, hAgrees.held peer now hNow, hAgrees.held peer time hTime]

theorem Agrees.observeContext (context : TrainingContext) (now : UInt64) :
    (observeContext second context now).result = (observeContext first context now).result ∧
      Agrees clock (observeContext first context now).security
        (observeContext second context now).security := by
  have hMoved : Agrees clock
    { first with contexts := first.contexts.insert context.jobId context }
    { second with contexts := second.contexts.insert context.jobId context } := by
    refine ⟨hAgrees.policy, hAgrees.replay, hAgrees.rejectedReplay, hAgrees.latest, ?_,
      hAgrees.held⟩
    simp only [getElem?_insert, hAgrees.contexts, implies_true]
  unfold Security.observeContext
  rw [hAgrees.contexts]
  split_ifs
  · exact ⟨rfl, hAgrees.event _ _ _ _⟩
  cases first.contexts[context.jobId]? with
  | none => exact ⟨rfl, hMoved⟩
  | some previous =>
    dsimp only
    split_ifs
    · exact ⟨rfl, hAgrees.event _ _ _ _⟩
    · exact ⟨rfl, hAgrees.event _ _ _ _⟩
    · exact ⟨rfl, hMoved⟩

theorem Agrees.admitFresh (digest : ArtifactId) (contribution : TrainingContribution) :
    (admitFresh second digest contribution now).result =
      (admitFresh first digest contribution now).result ∧
      Agrees clock (admitFresh first digest contribution now).security
        (admitFresh second digest contribution now).security := by
  unfold Security.admitFresh behindStream
  rw [hAgrees.replay, hAgrees.rejectedReplay, hAgrees.latest, hAgrees.policy]
  dsimp only
  split_ifs
  · exact ⟨rfl, hAgrees.event _ _ _ _⟩
  · refine ⟨rfl, Agrees.quarantine ?_ _ _ _⟩
    exact ⟨rfl, rfl, rfl, rfl, hAgrees.contexts, hAgrees.held⟩
  · exact ⟨rfl, rfl, rfl, rfl, rfl, hAgrees.contexts, hAgrees.held⟩

theorem Agrees.judge (digest : TrainingContribution → ArtifactId) {call : Call}
    (hNow : clock ≤ call.now) :
    (judge digest second call).result = (judge digest first call).result ∧
      Agrees clock (judge digest first call).security (judge digest second call).security := by
  unfold Security.judge admitTrainingUpdate
  have hExpired : Agrees clock (isQuarantined first call.contribution.worker call.now).2
    (isQuarantined second call.contribution.worker call.now).2 := hAgrees.expire hNow
  rw [hAgrees.policy, hAgrees.replay, hAgrees.rejectedReplay]
  dsimp only
  rw [hAgrees.held _ _ hNow, (hExpired.observeContext _ _).1]
  split_ifs
  · exact ⟨rfl, hAgrees.event _ _ _ _⟩
  · exact ⟨rfl, hAgrees.event _ _ _ _⟩
  · exact ⟨rfl, hExpired.event _ _ _ _⟩
  · have hContext := (hExpired.observeContext (contextOf call.contribution) call.now).2
    split
    · exact ⟨rfl, hContext⟩
    · exact hContext.admitFresh _ _
  · exact ⟨rfl, hAgrees.event _ _ _ _⟩

end

----
-- What Is Left Behind
----

/- What the calls return, one after the other. -/
def results (digest : TrainingContribution → ArtifactId) :
    LocalSecurityState → List Call → List (Except SecurityError TrainingAdmission)
| _, [] => []
| security, call :: calls =>
  (judge digest security call).result :: results digest (judge digest security call).security calls

theorem Agrees.results {digest : TrainingContribution → ArtifactId} {clock : UInt64}
    {first second : LocalSecurityState} (hAgrees : Agrees clock first second) {calls : List Call}
    (hLater : ∀ call ∈ calls, clock ≤ call.now) :
    results digest second calls = results digest first calls := by
  induction calls generalizing first second with
  | nil => rfl
  | cons call calls ih =>
    rcases List.forall_mem_cons.mp hLater with ⟨hNow, hRest⟩
    rcases hAgrees.judge digest hNow with ⟨hResult, hNext⟩
    rw [Security.results, Security.results, hResult, ih hNext hRest]

/-
  A rejected contribution leaves the tables as they are, and
  nothing later tells the difference, exactly if one that is
  only too late for its stream finds its own context there.
-/
theorem rejected_without_trace_iff (digest : TrainingContribution → ArtifactId)
    (security : LocalSecurityState) (call : Call) :
    (∀ error, (judge digest security call).result = .error error → error ≠ .trainingEquivocation →
      Agrees call.now security (judge digest security call).security ∧
        ∀ calls : List Call, (∀ later ∈ calls, call.now ≤ later.now) →
          results digest (judge digest security call).security calls =
            results digest security calls) ↔
    (Reaches security (digest call.contribution) call.contribution call.members call.now →
      behindStream security call.contribution = true →
        security.contexts[call.contribution.jobId]? = some (contextOf call.contribution)) := by
  constructor
  · intro hWithout hReaches hBehind
    cases judge_cases digest security call with
    | refused _ hRefusal => exact absurd hReaches hRefusal.not_reaches
    | behind _ _ hResult hLedger =>
      rw [← (hWithout _ hResult nofun).1.contexts, hLedger.contexts]
      exact Std.TreeMap.getElem?_insert_self
    | equivocation _ _ hNot | entered _ hNot => simp [hBehind] at hNot
  · intro hOwn error hError hOther
    suffices hAgrees : Agrees call.now security (judge digest security call).security from
      ⟨hAgrees, fun calls hLater => hAgrees.results hLater⟩
    have hHeld : ∀ {next : LocalSecurityState}, (next.quarantined = security.quarantined ∨
      next.quarantined = (expire security call.now).quarantined) → ∀ peer time, call.now ≤ time →
      (isQuarantined next peer time).1 = (isQuarantined security peer time).1 := by
      intro next hQuarantined peer time hTime
      rcases hQuarantined with hKept | hExpired
      · rw [held_eq, held_eq, hKept]
      · exact held_expire hTime hExpired
    cases judge_cases digest security call with
    | refused _ _ _ hLedger hQuarantined =>
      exact ⟨hLedger.policy, hLedger.replay, hLedger.rejectedReplay, hLedger.latest,
        by simp [hLedger.contexts], hHeld hQuarantined⟩
    | behind hReaches hBehind _ hLedger hExpired =>
      refine ⟨hLedger.policy, hLedger.replay, hLedger.rejectedReplay, hLedger.latest, ?_,
        hHeld (Or.inr hExpired)⟩
      intro job
      rw [hLedger.contexts, withContext, getElem?_insert]
      split_ifs with hJob
      · rw [← hJob, hOwn hReaches hBehind]
      · rfl
    | equivocation _ _ _ _ _ hChecked =>
      rw [hChecked] at hError
      cases hError
      exact absurd rfl hOther
    | entered _ _ _ hChecked =>
      rw [hChecked] at hError
      cases hError

/- A plan moves on, with a contribution that is late in its stream. -/
def lateCall : Call :=
  ⟨⟨⟨1⟩, ⟨1⟩, ⟨1⟩, 2, 1, 1, [3]⟩, [⟨1⟩, ⟨2⟩], 5⟩

/- It is rejected, and worker 2 is then shut out of the job. -/
theorem rejected_shuts_out :
    results sameDigest (.new {}) [smallCall ⟨1⟩ 2 [3], smallCall ⟨2⟩ 1 [3]] =
      [.ok .accepted, .ok .accepted] ∧
      results sameDigest (.new {}) [smallCall ⟨1⟩ 2 [3], lateCall, smallCall ⟨2⟩ 1 [3]] =
        [.ok .accepted, .error .staleTraining, .error .staleTraining] := by
  decide +kernel

end IntelligenceNetwork.Security
