import IntelligenceNetwork.Lib.Transition
import IntelligenceNetwork.Security.LocalState

/-
  Contributions over whole runs of the ledger.

  The replay table remembers the admitted contributions, the
  latest positions keep older ones out, and the context of a
  job is shared by all its workers.

  Main declarations:
    * `admitted_once`
    * `judged_alike_iff`
    * `others_judged_alike`
-/

----
-- Calls
----

namespace IntelligenceNetwork.Security

open Transition OrderedMap

variable {key : ReplayKey} {next security : LocalSecurityState}
variable {digest : TrainingContribution → ArtifactId} {order : List (List Int)}
variable {policy : SecurityPolicy}

structure Call where
  contribution : TrainingContribution
  members : List NodeId
  now : UInt64
  deriving DecidableEq

def ReplayKey.stream (key : ReplayKey) : StreamKey :=
  ⟨key.jobId, key.worker, key.branch⟩

def ReplayKey.position (key : ReplayKey) : UInt64 × UInt64 :=
  (key.generation, key.sequence)

section

variable (digest : TrainingContribution → ArtifactId)

def judge (security : LocalSecurityState) (call : Call) : Checked TrainingAdmission :=
  admitTrainingUpdate digest security call.contribution call.members call.now

theorem judge_cases (security : LocalSecurityState) (call : Call) :
    Admission security (digest call.contribution) call.contribution call.members call.now
      (judge digest security call) :=
  admitTrainingUpdate_cases call.contribution

def callStep (security : LocalSecurityState) (call : Call) : Option LocalSecurityState :=
  some (judge digest security call).security

/- The contribution of the call passes every check. -/
def Passes (security : LocalSecurityState) (call : Call) : Prop :=
  Reaches security (digest call.contribution) call.contribution call.members call.now ∧
    behindStream security call.contribution = false ∧
    security.replay[replayKey call.contribution]? = none

/- The call admits a contribution under the key. -/
def admits (key : ReplayKey) (security : LocalSecurityState) (call : Call) : Bool :=
  replayKey call.contribution == key && (judge digest security call).result matches .ok .accepted

end

----
-- One Admission for a Key
----

/- Room for an entry is made at the cost of older positions only. -/
def KeepsLatest (digest : TrainingContribution → ArtifactId) (security : LocalSecurityState)
    (call : Call) : Prop :=
  Passes digest security call → ∀ key ∈ security.replay.keys,
    security.latest[key.stream]? = some key.position →
      key ∈ bound security.replay security.policy.maxReplayEntries

instance (digest : TrainingContribution → ArtifactId) (security : LocalSecurityState)
    (call : Call) : Decidable (KeepsLatest digest security call) :=
  have : Decidable (Passes digest security call) := inferInstanceAs (Decidable (_ ∧ _))
  inferInstanceAs (Decidable (_ → ∀ key ∈ security.replay.keys, _))

def Earlier (position other : UInt64 × UInt64) : Prop :=
  position.1 < other.1 ∨ position.1 = other.1 ∧ position.2 < other.2

theorem behindStream_iff {security : LocalSecurityState} {contribution : TrainingContribution} :
    behindStream security contribution = true ↔
      ∃ latest, security.latest[streamKey contribution]? = some latest ∧
        Earlier (contribution.generation, contribution.sequence) latest := by
  unfold behindStream
  rw [Option.any_eq_true]
  simp [streamKey, Earlier]

/- No contribution is admitted under the key any more. -/
def Spent (key : ReplayKey) (security : LocalSecurityState) : Prop :=
  ∃ latest, security.latest[key.stream]? = some latest ∧
    (Earlier key.position latest ∨ latest = key.position ∧ key ∈ security.replay)

theorem Spent.congr (hSpent : Spent key security) (hLatest : next.latest = security.latest)
    (hReplay : next.replay = security.replay) : Spent key next := by
  unfold Spent
  rw [hLatest, hReplay]
  exact hSpent

theorem quarantine_sameLedger (security : LocalSecurityState) (peer : NodeId) (now : UInt64)
    (kind : SecurityEventKind) (detail : String) :
    SameLedger security (quarantine security peer now kind detail) := by
  refine .trans (.trans ?_ (event_sameLedger _ _ _ _ _ _))
    (event_sameLedger _ _ _ _ _ _)
  exact ⟨rfl, rfl, rfl, rfl, rfl, rfl⟩

/- An admission moves its stream on, every other call leaves the table alone. -/
theorem judge_moves {security : LocalSecurityState} {call : Call} :
    ((judge digest security call).result ≠ .ok .accepted ∧
      (judge digest security call).security.latest = security.latest ∧
      (judge digest security call).security.replay = security.replay) ∨
    (Passes digest security call ∧ judge digest security call = ⟨.ok .accepted,
      enterContribution (expire security call.now) (digest call.contribution)
        call.contribution⟩) := by
  cases judge_cases digest security call with
  | refused _ _ hResult hLedger | behind _ _ hResult hLedger =>
    exact Or.inl ⟨by rw [hResult]; exact nofun, hLedger.latest, hLedger.replay⟩
  | equivocation _ _ _ _ _ hChecked =>
    refine Or.inl ⟨by rw [hChecked]; exact nofun, ?_, ?_⟩
    · rw [hChecked]
      exact (quarantine_sameLedger _ _ _ _ _).latest
    · rw [hChecked]
      exact (quarantine_sameLedger _ _ _ _ _).replay
  | entered hReaches hBehind hUnknown hChecked =>
    exact Or.inr ⟨⟨hReaches, hBehind, hUnknown⟩, hChecked⟩

/- A contribution that nothing speaks against is admitted. -/
theorem judge_accepts {call : Call} (hMember : call.contribution.worker ∈ call.members)
    (hBounds : contributionBounded security.policy call.contribution = true)
    (hUnknown : security.replay[replayKey call.contribution]? = none)
    (hUnrejected : security.rejectedReplay[replayKey call.contribution]? = none)
    (hFree : (isQuarantined security call.contribution.worker call.now).1 = false)
    (hContext : security.contexts[call.contribution.jobId]?.all
      (fun previous => decide (Precedes previous (contextOf call.contribution))) = true)
    (hBehind : behindStream security call.contribution = false) :
    judge digest security call = ⟨.ok .accepted,
      enterContribution (expire security call.now) (digest call.contribution)
        call.contribution⟩ := by
  cases judge_cases digest security call with
  | refused _ hRefusal =>
    refine absurd ⟨hMember, hBounds, by simp [hUnknown, hUnrejected], hFree, ?_⟩
      hRefusal.not_reaches
    intro previous hPrevious
    simpa [Option.mem_def.mp hPrevious] using hContext
  | behind _ hLate => simp [hBehind] at hLate
  | equivocation _ _ _ hKnown => simp [hUnknown] at hKnown
  | entered _ _ _ hChecked => exact hChecked

theorem Spent.judge (hSpent : Spent key security) (call : Call)
    (hKeeps : KeepsLatest digest security call) :
    Spent key (judge digest security call).security := by
  rcases judge_moves with ⟨-, hLatest, hReplay⟩ | ⟨hPasses, hChecked⟩
  · exact hSpent.congr hLatest hReplay
  · rcases hSpent with ⟨latest, hStream, hWhere⟩
    have hNot : ¬ behindStream security call.contribution = true := by simp [hPasses.2.1]
    rw [behindStream_iff] at hNot
    rw [hChecked]
    unfold Spent enterContribution
    simp only [getElem?_insert, Std.TreeMap.mem_insert]
    by_cases hSame : streamKey call.contribution = key.stream
    · -- The stream has moved on, or is where it was with the same contribution.
      refine ⟨_, if_pos hSame, ?_⟩
      by_cases hKey : replayKey call.contribution = key
      · exact Or.inr ⟨by rw [← hKey]; rfl, Or.inl (by simp [hKey])⟩
      · left
        have hOther :
            key.position ≠ (call.contribution.generation, call.contribution.sequence) := by
          intro _
          apply hKey
          cases key
          simp_all [replayKey, streamKey, ReplayKey.stream, ReplayKey.position]
        unfold Earlier at *
        grind
    · refine ⟨latest, by rw [if_neg hSame]; exact hStream, ?_⟩
      rcases hWhere with hEarlier | ⟨rfl, hMem⟩
      · exact Or.inl hEarlier
      · exact Or.inr ⟨rfl, Or.inr (hKeeps hPasses key (Std.TreeMap.mem_keys.mpr hMem) hStream)⟩

/- A contribution is admitted where its key is not spent, and spends it. -/
theorem spent_of_admits {call : Call} (hAdmits : admits digest key security call = true) :
    ¬ Spent key security ∧ Spent key (judge digest security call).security := by
  simp only [admits, Bool.and_eq_true, beq_iff_eq] at hAdmits
  rcases hAdmits with ⟨rfl, hResult⟩
  rcases judge_moves with ⟨_, -, -⟩ | ⟨⟨-, hBehind, hUnknown⟩, hChecked⟩
  · split at hResult
    · contradiction
    · cases hResult
  · constructor
    · rintro ⟨latest, hStream, hEarlier | ⟨-, hMem⟩⟩
      · rw [behindStream_iff.mpr ⟨latest, hStream, hEarlier⟩] at hBehind
        cases hBehind
      · simp [Std.TreeMap.mem_iff_isSome_getElem?, hUnknown] at hMem
    · rw [hChecked]
      exact ⟨(replayKey call.contribution).position, Std.TreeMap.getElem?_insert_self,
        Or.inr ⟨rfl, Std.TreeMap.mem_insert_self⟩⟩

/-
  If the latest position of a stream is never pushed out of
  the replay table, no key is admitted twice.
-/
theorem admitted_once (digest : TrainingContribution → ArtifactId) (policy : SecurityPolicy)
    (calls : List Call) (key : ReplayKey)
    (hKeeps : Meets (callStep digest) (KeepsLatest digest) (.new policy) calls) :
    count (callStep digest) (admits digest key) (.new policy) calls ≤ 1 := by
  refine (count_le_one (fun _ => True) (Spent key) ?_ ?_ _ trivial hKeeps).1
  · rintro security call _ - hKeep ⟨⟩
    exact ⟨trivial, fun hSpent => hSpent.judge call hKeep⟩
  · rintro security call _ - - ⟨⟩ hAdmits
    exact spent_of_admits hAdmits

/- A contribution of a worker to job 1, in generation 1. -/
def smallCall (worker : NodeId) (sequence : UInt64) (values : List Int) : Call :=
  ⟨⟨⟨1⟩, worker, ⟨1⟩, 1, 1, sequence, values⟩, [⟨1⟩, ⟨2⟩], 5⟩

def sameDigest (_ : TrainingContribution) : ArtifactId := ⟨7⟩

theorem admitted_once_small : count (callStep sameDigest)
    (admits sameDigest ⟨⟨1⟩, ⟨1⟩, ⟨1⟩, 1, 1⟩) (.new {})
    [smallCall ⟨1⟩ 1 [3], smallCall ⟨2⟩ 1 [3], smallCall ⟨1⟩ 1 [3]] ≤ 1 :=
  admitted_once sameDigest {} _ _ (by decide +kernel)

/- A table of one entry, after workers 1 and 2. -/
def oneLedger : LocalSecurityState :=
  (judge sameDigest (.new { maxReplayEntries := 1 }) (smallCall ⟨1⟩ 1 [3])).security

def twoLedger : LocalSecurityState :=
  (judge sameDigest oneLedger (smallCall ⟨2⟩ 1 [3])).security

/- The entry of worker 1 is gone, and its stream still stands there. -/
theorem admitted_twice : count (callStep sameDigest)
    (admits sameDigest ⟨⟨1⟩, ⟨1⟩, ⟨1⟩, 1, 1⟩) (.new { maxReplayEntries := 1 })
    [smallCall ⟨1⟩ 1 [3], smallCall ⟨2⟩ 1 [3], smallCall ⟨1⟩ 1 [3]] = 2 := by
  have hSecond : twoLedger = enterContribution (expire oneLedger 5) ⟨7⟩
    (smallCall ⟨2⟩ 1 [3]).contribution :=
    congrArg Checked.security (judge_accepts (by decide) (by decide +kernel) (by decide +kernel)
      (by decide +kernel) (by decide +kernel) (by decide +kernel) (by decide +kernel))
  have hGone : twoLedger.replay[replayKey (smallCall ⟨1⟩ 1 [3]).contribution]? = none := by
    rw [hSecond, enterContribution, getElem?_insert, if_neg (by decide)]
    exact getElem?_bound_one
  have hAgain : admits sameDigest ⟨⟨1⟩, ⟨1⟩, ⟨1⟩, 1, 1⟩ twoLedger (smallCall ⟨1⟩ 1 [3]) = true := by
    rw [admits, judge_accepts (by decide) (by decide +kernel) hGone (by decide +kernel)
      (by decide +kernel) (by decide +kernel) (by decide +kernel)]
    rfl
  change 1 + (0 + ((if admits _ _ twoLedger _ = true then 1 else 0) + 0)) = 2
  rw [if_pos hAgain]

----
-- Copies in Any Order
----

section

variable {call : Call} {first values : List Int} {second : Option (List Int)}

theorem held_eq (security : LocalSecurityState) (peer : NodeId) (now : UInt64) :
    (isQuarantined security peer now).1 =
      security.quarantined[peer]?.any (fun until_ => decide (now ≤ until_)) := by
  simp [isQuarantined]

/- A peer that is put into quarantine stays there at least as long. -/
theorem held_quarantine (security : LocalSecurityState) (peer other : NodeId) (now time : UInt64)
    (kind : SecurityEventKind) (detail : String) :
    (quarantine security peer now kind detail).quarantined[other]?.any (fun until_ =>
      decide (time ≤ until_)) =
      (security.quarantined[other]?.any (fun until_ => decide (time ≤ until_)) ||
        (decide (peer = other) &&
          decide (time ≤ Saturating.add now security.policy.quarantineSeconds))) := by
  unfold quarantine
  rw [(event_ledger _ _ _ _ _ _).2.1, (event_ledger _ _ _ _ _ _).2.1]
  rw [getElem?_insert]
  by_cases hPeer : peer = other
  · subst hPeer
    cases security.quarantined[peer]? with
    | none => simp
    | some until_ =>
      have hMax : ∀ other, time ≤ max until_ other ↔ time ≤ until_ ∨ time ≤ other := by
        grind [UInt64.max_def]
      simp [hMax]
  · simp [hPeer]

theorem admits_of_error {error : SecurityError}
    (hResult : (judge digest security call).result = .error error) :
    admits digest key security call = false := by
  simp [admits, hResult]

/- The ledger after the calls. -/
def ledgerAfter (digest : TrainingContribution → ArtifactId) (security : LocalSecurityState)
    (calls : List Call) : LocalSecurityState :=
  calls.foldl (fun security call => (judge digest security call).security) security

/- The same call with other values. -/
def Call.withValues (call : Call) (values : List Int) : Call :=
  { call with contribution := { call.contribution with values := values } }

/-
  One of the contributions counts, two different ones put their
  worker into quarantine, and a copy is a duplicate.
-/
structure JudgedAlike (digest : TrainingContribution → ArtifactId) (policy : SecurityPolicy)
    (call : Call) (order : List (List Int)) : Prop where
  once : count (callStep digest) (admits digest (replayKey call.contribution))
    (.new policy) (order.map call.withValues) = 1
  quarantined : (isQuarantined (ledgerAfter digest (.new policy) (order.map call.withValues))
    call.contribution.worker call.now).1 = true ↔
    ∃ values ∈ order, ∃ other ∈ order, values ≠ other
  copies : ∀ before values after, order = before ++ values :: after → values ∈ before →
    (judge digest (ledgerAfter digest (.new policy) (before.map call.withValues))
      (call.withValues values)).result = .error .duplicateTraining

/- The contributions differ in their values, and so do their digests. -/
structure OnePosition (digest : TrainingContribution → ArtifactId) (policy : SecurityPolicy)
    (call : Call) (order : List (List Int)) : Prop where
  member : call.contribution.worker ∈ call.members
  bounds : ∀ values ∈ order, contributionBounded policy (call.withValues values).contribution = true
  distinct : ∀ values ∈ order, ∀ other ∈ order,
    digest (call.withValues values).contribution = digest (call.withValues other).contribution →
      values = other

/- The first vector, and the first that differs from it. -/
def remembered : List (List Int) → List (List Int)
| [] => []
| first :: rest => first :: (rest.find? (fun values => values ≠ first)).toList

/- What is left of contributions that all take one position. -/
structure Stands (digest : TrainingContribution → ArtifactId) (policy : SecurityPolicy)
    (call : Call) (first : List Int) (second : Option (List Int))
    (security : LocalSecurityState) : Prop where
  policy : security.policy = policy
  replay : security.replay[replayKey call.contribution]? =
    some (digest (call.withValues first).contribution)
  rejected : security.rejectedReplay[replayKey call.contribution]? =
    second.map (fun values => digest (call.withValues values).contribution)
  latest : security.latest[streamKey call.contribution]? =
    some (call.contribution.generation, call.contribution.sequence)
  context : security.contexts[call.contribution.jobId]? = some (contextOf call.contribution)
  held : security.quarantined[call.contribution.worker]?.any
    (fun until_ => decide (call.now ≤ until_)) = second.isSome

theorem Stands.congr (hStands : Stands digest policy call first second security)
    (hLedger : SameLedger security next) (hQuarantined : next.quarantined = security.quarantined ∨
      next.quarantined = (expire security call.now).quarantined) :
    Stands digest policy call first second next where
  policy := hLedger.policy.trans hStands.policy
  replay := hLedger.replay ▸ hStands.replay
  rejected := hLedger.rejectedReplay ▸ hStands.rejected
  latest := hLedger.latest ▸ hStands.latest
  context := hLedger.contexts ▸ hStands.context
  held := by
    rcases hQuarantined with hSame | hSame
    · rw [hSame]
      exact hStands.held
    · rw [hSame, ← hStands.held]
      simp [expire]

/- The first conflict is kept and puts the worker into quarantine. -/
theorem Stands.conflict {kind : SecurityEventKind} {detail : String}
    (hStands : Stands digest policy call first none security) :
    Stands digest policy call first (some values)
      (quarantine (withConflict security (digest (call.withValues values).contribution)
        (call.withValues values).contribution call.now) call.contribution.worker call.now
        kind detail) := by
  have hLedger := quarantine_sameLedger (withConflict security
    (digest (call.withValues values).contribution) (call.withValues values).contribution call.now)
    call.contribution.worker call.now kind detail
  refine ⟨hLedger.policy.trans hStands.policy, hLedger.replay ▸ hStands.replay, ?_,
    hLedger.latest ▸ hStands.latest, ?_, ?_⟩
  · have hNone : replayKey call.contribution ∉
      bound security.rejectedReplay security.policy.maxReplayEntries := by
      rw [Std.TreeMap.mem_iff_isSome_getElem?, Option.isSome_iff_exists]
      rintro ⟨digest, hGet⟩
      cases hStands.rejected.symm.trans (getElem?_bound hGet)
    rw [hLedger.rejectedReplay]
    exact Std.TreeMap.getElem?_insertIfNew.trans (if_pos ⟨Std.ReflCmp.compare_self, hNone⟩)
  · rw [hLedger.contexts]
    exact Std.TreeMap.getElem?_insert_self
  · rw [held_quarantine]
    have hLater := Saturating.le_add_left call.now policy.quarantineSeconds
    simp [withConflict, withContext, expire, hStands.policy, hLater]

variable {rest : List (List Int)} (hOne : OnePosition digest policy call order)
include hOne

/- The first contribution is admitted, whatever its values. -/
theorem stands_first (hFirst : first ∈ order) :
    admits digest (replayKey call.contribution) (.new policy) (call.withValues first) = true ∧
      Stands digest policy call first none
        (judge digest (.new policy) (call.withValues first)).security := by
  have hAccepted : judge digest (.new policy) (call.withValues first) = ⟨.ok .accepted,
    enterContribution (expire (.new policy) call.now)
      (digest (call.withValues first).contribution) (call.withValues first).contribution⟩ :=
    judge_accepts hOne.member (hOne.bounds first hFirst) rfl rfl rfl rfl rfl
  rw [admits, hAccepted]
  refine ⟨by simp [replayKey, Call.withValues], ⟨rfl, ?_, rfl, ?_, ?_, rfl⟩⟩
  all_goals exact Std.TreeMap.getElem?_insert_self

/- Only the first two vectors are remembered. -/
theorem Stands.judge (hStands : Stands digest policy call first second security)
    (hFirst : first ∈ order) (hSecond : ∀ values ∈ second, values ∈ order)
    (hValues : values ∈ order) :
    ((judge digest security (call.withValues values)).result = .error .duplicateTraining ↔
      values = first ∨ second = some values) ∧
      admits digest (replayKey call.contribution) security (call.withValues values) = false ∧
      Stands digest policy call first (second.or (if values = first then none else some values))
        (Security.judge digest security (call.withValues values)).security := by
  -- A digest that is known is the digest of one of the two.
  have hKnown : (security.replay[replayKey call.contribution]? =
    some (digest (call.withValues values).contribution) ∨
    security.rejectedReplay[replayKey call.contribution]? =
      some (digest (call.withValues values).contribution)) ↔
    values = first ∨ second = some values := by
    rw [hStands.replay, hStands.rejected, Option.some.injEq, Option.map_eq_some_iff]
    constructor
    · rintro (hSame | ⟨other, hOther, hSame⟩)
      · exact Or.inl (hOne.distinct first hFirst values hValues hSame).symm
      · exact Or.inr (hOne.distinct other (hSecond other hOther) values hValues hSame ▸ hOther)
    · rintro (rfl | hSame)
      · exact Or.inl rfl
      · exact Or.inr ⟨values, hSame, rfl⟩
  have hHeld := held_eq security call.contribution.worker call.now
  rw [hStands.held] at hHeld
  cases judge_cases digest security (call.withValues values) with
  | refused error hRefusal hResult hLedger hQuarantined =>
    have hNext := hStands.congr hLedger hQuarantined
    cases hRefusal with
    | unauthorized hOutside => exact absurd hOne.member hOutside
    | unbounded hUnbounded =>
      rw [hStands.policy, hOne.bounds values hValues] at hUnbounded
      cases hUnbounded
    | repeated hRepeated =>
      have hSame := hKnown.mp hRepeated
      have hStays : second.or (if values = first then none else some values) = second := by
        rcases hSame with rfl | rfl <;> simp
      rw [hStays]
      exact ⟨iff_of_true hResult hSame, admits_of_error hResult, hNext⟩
    | held hFresh hIn =>
      rcases Option.isSome_iff_exists.mp (hHeld.symm.trans hIn) with ⟨other, rfl⟩
      refine ⟨iff_of_false ?_ (hKnown.not.mp (not_or.mpr hFresh)), admits_of_error hResult, hNext⟩
      rw [hResult]
      exact nofun
    | lineage _ previous hPrevious hOlder =>
      cases hStands.context.symm.trans hPrevious
      exact absurd ⟨UInt64.le_refl _, UInt64.le_refl _, fun _ _ => rfl⟩ hOlder
  | behind hReaches hBehind hResult _ _ =>
    rcases behindStream_iff.mp hBehind with ⟨latest, hLatest, hEarlier⟩
    cases hStands.latest.symm.trans hLatest
    exact absurd hEarlier (by simp [Earlier, Call.withValues])
  | equivocation hReaches other hBehind _ _ hChecked =>
    have hNone : second = none :=
      Option.not_isSome_iff_eq_none.mp (by rw [← hHeld]; exact ne_true_of_eq_false hReaches.free)
    subst hNone
    have hNew := hKnown.not.mp (not_or.mpr hReaches.fresh)
    have hResult := congrArg Checked.result hChecked
    refine ⟨iff_of_false ?_ hNew, admits_of_error hResult, ?_⟩
    · rw [hResult]
      exact nofun
    · rw [hChecked, Option.none_or, if_neg (not_or.mp hNew).1]
      exact hStands.conflict
  | entered _ _ hUnknown _ =>
    cases hStands.replay.symm.trans hUnknown

/- A run from there admits nothing more. -/
theorem Stands.run (hStands : Stands digest policy call first second security)
    (hFirst : first ∈ order) (hSecond : ∀ values ∈ second, values ∈ order) (hRest : rest ⊆ order) :
    Stands digest policy call first (second.or (rest.find? (fun values => values ≠ first)))
      (ledgerAfter digest security (rest.map call.withValues)) ∧
      count (callStep digest) (admits digest (replayKey call.contribution)) security
        (rest.map call.withValues) = 0 := by
  induction rest generalizing second security with
  | nil => exact ⟨by simpa [ledgerAfter] using hStands, rfl⟩
  | cons values rest ih =>
    rcases List.cons_subset.mp hRest with ⟨hValues, hRest⟩
    rcases hStands.judge hOne hFirst hSecond hValues with ⟨-, hNot, hNext⟩
    have hLater : ∀ other ∈ second.or (if values = first then none else some values),
      other ∈ order := by
      intro other hOther
      rcases Option.or_eq_some_iff.mp hOther with hOld | ⟨-, hNew⟩
      · exact hSecond other hOld
      · split_ifs at hNew
        cases hNew
        exact hValues
    rcases ih hNext hLater hRest with ⟨hStands, hCount⟩
    constructor
    · have hFind : (values :: rest).find? (fun values => values ≠ first) =
        (if values = first then none else some values).or
          (rest.find? (fun values => values ≠ first)) := by
        by_cases hSame : values = first <;> simp [hSame]
      rw [hFind, ← Option.or_assoc]
      exact hStands
    · rw [List.map_cons, count, callStep]
      simp only [hNot, Bool.false_eq_true, if_false, Nat.zero_add]
      exact hCount

/- What is known after the first contribution and some others. -/
theorem stands_after (hOrder : first :: rest ⊆ order) :
    Stands digest policy call first (rest.find? (fun values => values ≠ first))
      (ledgerAfter digest (.new policy) ((first :: rest).map call.withValues)) ∧
      count (callStep digest) (admits digest (replayKey call.contribution))
        (.new policy) ((first :: rest).map call.withValues) = 1 := by
  rcases List.cons_subset.mp hOrder with ⟨hFirst, hRest⟩
  rcases stands_first hOne hFirst with ⟨hAdmits, hStands⟩
  rcases hStands.run hOne hFirst (by simp) hRest with ⟨hAfter, hCount⟩
  refine ⟨hAfter, ?_⟩
  rw [List.map_cons, count, callStep]
  simp only [hAdmits, if_true, hCount]

/- A copy is a duplicate if it is one of the first two vectors. -/
theorem copy_iff (hOrder : first :: rest ⊆ order) (hValues : values ∈ order) :
    (judge digest (ledgerAfter digest (.new policy) ((first :: rest).map call.withValues))
      (call.withValues values)).result = .error .duplicateTraining ↔
      values = first ∨ rest.find? (fun values => values ≠ first) = some values := by
  rcases List.cons_subset.mp hOrder with ⟨hFirst, hRest⟩
  refine ((stands_after hOne hOrder).1.judge hOne hFirst ?_ hValues).1
  intro other hOther
  exact hRest (List.mem_of_find?_eq_some hOther)

end

/- Some copy of a vector that is sent twice comes after another. -/
theorem exists_copy {values : List Int} (hTwice : 1 < order.count values) :
    ∃ before after, order = before ++ values :: after ∧ values ∈ before := by
  rcases List.append_of_mem (List.count_pos_iff.mp (Nat.zero_lt_of_lt hTwice)) with
    ⟨before, after, rfl⟩
  by_cases hBefore : values ∈ before
  · exact ⟨before, after, rfl, hBefore⟩
  · have hAfter : 0 < after.count values := by
      rw [List.count_append, List.count_cons_self, List.count_eq_zero_of_not_mem hBefore] at hTwice
      omega
    rcases List.append_of_mem (List.count_pos_iff.mp hAfter) with ⟨between, rest, rfl⟩
    exact ⟨before ++ values :: between, rest, by simp, by simp⟩

/-
  The contributions are judged as they should be exactly if
  there is one, and those that are sent more than once are
  copies of the first or of the first that differs from it.
-/
theorem judged_alike_iff (digest : TrainingContribution → ArtifactId) (policy : SecurityPolicy)
    (call : Call) (order : List (List Int)) (hOne : OnePosition digest policy call order) :
    JudgedAlike digest policy call order ↔
      order ≠ [] ∧ ∀ values ∈ order, 1 < order.count values → values ∈ remembered order := by
  cases order with
  | nil => exact iff_of_false (fun hAlike => nomatch hAlike.once) (by simp)
  | cons first rest =>
    rcases stands_after hOne (List.Subset.refl _) with ⟨hStands, hOnce⟩
    -- The vectors that are known when a copy comes are known at the end.
    have hKnown : ∀ before values after, rest = before ++ values :: after →
      values ∈ first :: before →
      (values = first ∨ before.find? (fun values => values ≠ first) = some values ↔
        values ∈ remembered (first :: rest)) := by
      rintro before values after rfl hCopy
      by_cases hFirst : values = first
      · simp [hFirst, remembered]
      · have hFound : (before.find? (fun values => values ≠ first)).isSome = true :=
          List.find?_isSome.mpr ⟨values, List.mem_of_ne_of_mem hFirst hCopy, by simpa using hFirst⟩
        rw [remembered, List.find?_append, Option.or_of_isSome hFound]
        simp [hFirst]
    constructor
    · intro hAlike
      refine ⟨List.cons_ne_nil _ _, ?_⟩
      rintro values - hTwice
      rcases exists_copy hTwice with ⟨before, after, hSplit, hCopy⟩
      have hDuplicate := hAlike.copies before values after hSplit hCopy
      cases before with
      | nil => cases hCopy
      | cons head before =>
        cases hSplit
        rw [copy_iff hOne (by simp) (by simp)] at hDuplicate
        exact (hKnown before values after rfl hCopy).mp hDuplicate
    · rintro ⟨-, hCopies⟩
      refine ⟨hOnce, ?_, ?_⟩
      · rw [held_eq, hStands.held, List.find?_isSome]
        constructor
        · rintro ⟨values, hValues, hNe⟩
          exact ⟨values, List.mem_cons_of_mem first hValues, first, List.mem_cons_self,
            by simpa using hNe⟩
        · rintro ⟨values, hValues, other, hOther, hNe⟩
          by_contra hNone
          have hAll : ∀ values ∈ first :: rest, values = first := by simpa using hNone
          exact hNe ((hAll values hValues).trans (hAll other hOther).symm)
      · intro before values after hSplit hCopy
        cases before with
        | nil => cases hCopy
        | cons head before =>
          cases hSplit
          rw [copy_iff hOne (by simp) (by simp)]
          refine (hKnown before values after rfl hCopy).mpr (hCopies values (by simp) ?_)
          change 1 < ((first :: before) ++ values :: after).count values
          have hBefore := List.count_pos_iff.mpr hCopy
          rw [List.count_append, List.count_cons_self]
          omega

/- A digest that tells small vectors apart. -/
def firstDigest (contribution : TrainingContribution) : ArtifactId :=
  ⟨BitVec.ofInt 256 (contribution.values.headD 0)⟩

theorem judged_alike_two : JudgedAlike firstDigest {} (smallCall ⟨1⟩ 1 []) [[1], [2], [1], [2]] :=
  (judged_alike_iff firstDigest {} (smallCall ⟨1⟩ 1 []) _
    ⟨by decide, by decide, by decide⟩).mpr (by decide)

/- The third vector is not remembered, and its copy is not seen as one. -/
theorem not_judged_alike_three :
    ¬ JudgedAlike firstDigest {} (smallCall ⟨1⟩ 1 []) [[1], [2], [3], [3]] := by
  intro hAlike
  have hCopy := hAlike.copies [[1], [2], [3]] [3] [] rfl (by decide)
  exact absurd hCopy (by decide +kernel)

----
-- What One Worker Can Do to Others
----

/- Whether each of the calls is accepted. -/
def verdicts (digest : TrainingContribution → ArtifactId) :
    LocalSecurityState → List Call → List (Call × Bool)
| _, [] => []
| security, call :: calls =>
  (call, (judge digest security call).result matches .ok .accepted) ::
    verdicts digest (judge digest security call).security calls

/- No entry of the two replay tables is lost. -/
def NothingEvicted (digest : TrainingContribution → ArtifactId) (security : LocalSecurityState)
    (call : Call) : Prop :=
  (∀ key ∈ security.replay.keys,
    (judge digest security call).security.replay[key]? = security.replay[key]?) ∧
    ∀ key ∈ security.rejectedReplay.keys,
      (judge digest security call).security.rejectedReplay[key]? = security.rejectedReplay[key]?

instance (digest : TrainingContribution → ArtifactId) (security : LocalSecurityState)
    (call : Call) : Decidable (NothingEvicted digest security call) :=
  inferInstanceAs (Decidable (_ ∧ _))

section

variable (digest : TrainingContribution → ArtifactId) (worker : NodeId)

/-
  The clock does not go back, and the worker is not ahead of
  the others: what it says of a job, where that gets as far as
  the job's context, may be followed by what they say later.
-/
def LeavesContext (security : LocalSecurityState) (call later : Call) : Prop :=
  call.now ≤ later.now ∧ (call.contribution.worker = worker →
    later.contribution.worker ≠ worker → call.contribution.jobId = later.contribution.jobId →
    Reaches security (digest call.contribution) call.contribution call.members call.now →
      Precedes (contextOf call.contribution) (contextOf later.contribution))

instance (security : LocalSecurityState) (call later : Call) :
    Decidable (LeavesContext digest worker security call later) :=
  inferInstanceAs (Decidable (_ ∧ _))

/- Every call of the run leaves the context to those after it. -/
def LeavesContexts : LocalSecurityState → List Call → Prop
| _, [] => True
| security, call :: calls => (∀ later ∈ calls, LeavesContext digest worker security call later) ∧
    LeavesContexts (judge digest security call).security calls

instance decidableLeavesContexts :
    ∀ security calls, Decidable (LeavesContexts digest worker security calls)
| _, [] => isTrue trivial
| security, call :: calls =>
  have := decidableLeavesContexts (judge digest security call).security calls
  inferInstanceAs (Decidable (_ ∧ _))

end

inductive Outcome where
  | refused
  | behind
  | conflict
  | entered
  deriving DecidableEq

/- What a call leaves if nothing is evicted. -/
structure Moved (digest : TrainingContribution → ArtifactId) (security : LocalSecurityState)
    (call : Call) (outcome : Outcome) (next : LocalSecurityState) : Prop where
  policy : next.policy = security.policy
  reaches : outcome ≠ .refused ↔ Reaches security (digest call.contribution) call.contribution
    call.members call.now
  behind : outcome = .behind → behindStream security call.contribution = true
  conflict : outcome = .conflict → behindStream security call.contribution = false ∧
    security.replay[replayKey call.contribution]? ≠ none
  entered : outcome = .entered → behindStream security call.contribution = false ∧
    security.replay[replayKey call.contribution]? = none
  replay : ∀ key : ReplayKey, next.replay[key]? =
    if outcome = .entered ∧ replayKey call.contribution = key then
      some (digest call.contribution)
    else
      security.replay[key]?
  rejected : ∀ key : ReplayKey, next.rejectedReplay[key]? =
    if outcome = .conflict ∧ replayKey call.contribution = key ∧ key ∉ security.rejectedReplay then
      some (digest call.contribution)
    else
      security.rejectedReplay[key]?
  latest : ∀ key : StreamKey, next.latest[key]? =
    if outcome = .entered ∧ streamKey call.contribution = key then
      some (call.contribution.generation, call.contribution.sequence)
    else
      security.latest[key]?
  contexts : ∀ job : JobId, next.contexts[job]? =
    if outcome ≠ .refused ∧ call.contribution.jobId = job then
      some (contextOf call.contribution)
    else
      security.contexts[job]?
  held : ∀ (peer : NodeId) (time : UInt64), call.now ≤ time →
    (isQuarantined next peer time).1 = ((isQuarantined security peer time).1 ||
      (decide (outcome = .conflict ∧ call.contribution.worker = peer) &&
        decide (time ≤ Saturating.add call.now security.policy.quarantineSeconds)))

section

variable {call : Call}

section

variable {map : Std.TreeMap ReplayKey ArtifactId} {limit : Nat} {a : ReplayKey} {value : ArtifactId}

/- A bound only takes away what is there. -/
theorem getElem?_bound_of_mem (hKept : a ∈ map.keys → (bound map limit)[a]? = map[a]?) :
    (bound map limit)[a]? = map[a]? := by
  cases hBound : (bound map limit)[a]? with
  | some held => exact (getElem?_bound hBound).symm
  | none =>
    by_cases hMem : a ∈ map
    · rw [← hBound]
      exact hKept (Std.TreeMap.mem_keys.mpr hMem)
    · exact (Std.TreeMap.getElem?_eq_none hMem).symm

theorem getElem?_insertIfNew_of_kept (hKept : a ∈ map.keys →
    ((bound map limit).insertIfNew key value)[a]? = map[a]?) :
    ((bound map limit).insertIfNew key value)[a]? =
      if key = a ∧ a ∉ map then some value else map[a]? := by
  by_cases hMem : a ∈ map
  · rw [if_neg (fun hNew => hNew.2 hMem)]
    exact hKept (Std.TreeMap.mem_keys.mpr hMem)
  · have hBound : (bound map limit)[a]? = map[a]? :=
      getElem?_bound_of_mem (fun hKey => absurd (Std.TreeMap.mem_keys.mp hKey) hMem)
    have hNot : a ∉ bound map limit := by
      rw [Std.TreeMap.mem_iff_isSome_getElem?, hBound, ← Std.TreeMap.mem_iff_isSome_getElem?]
      exact hMem
    rw [Std.TreeMap.getElem?_insertIfNew, hBound]
    by_cases hKey : key = a
    · subst hKey
      simp [hMem, hNot]
    · simp [hKey]

end

theorem held_expire {peer : NodeId} {now time : UInt64} (hTime : now ≤ time)
    (hQuarantined : next.quarantined = (expire security now).quarantined) :
    (isQuarantined next peer time).1 = (isQuarantined security peer time).1 := by
  rw [held_eq, held_eq, hQuarantined]
  simp only [expire, Std.TreeMap.getElem?_filter']
  cases security.quarantined[peer]? with
  | none => rfl
  | some until_ =>
    by_cases hOver : now ≤ until_ <;> grind

/- A call that is refused early changes nothing that is read later. -/
theorem Moved.refuse (hNot : ¬ Reaches security (digest call.contribution) call.contribution
    call.members call.now) (hLedger : SameLedger security next)
    (hQuarantined : next.quarantined = security.quarantined ∨
      next.quarantined = (expire security call.now).quarantined) :
    Moved digest security call .refused next := by
  refine ⟨hLedger.policy, iff_of_false (absurd rfl) hNot, nofun, nofun, nofun, ?_, ?_, ?_, ?_, ?_⟩
  · simp [hLedger.replay]
  · simp [hLedger.rejectedReplay]
  · simp [hLedger.latest]
  · simp [hLedger.contexts]
  · intro peer time hTime
    rcases hQuarantined with hSame | hSame
    · rw [held_eq, held_eq, hSame]
      simp
    · simpa using held_expire hTime hSame

theorem judge_moved (hKept : NothingEvicted digest security call) :
    ∃ outcome, Moved digest security call outcome (judge digest security call).security ∧
      ((judge digest security call).result = .ok .accepted ↔ outcome = .entered) := by
  cases judge_cases digest security call with
  | refused error hRefusal hResult hLedger hQuarantined =>
    exact ⟨_, .refuse hRefusal.not_reaches hLedger hQuarantined, by simp [hResult]⟩
  | behind hReaches hBehind hResult hLedger hQuarantined =>
    refine ⟨.behind, ⟨hLedger.policy, iff_of_true nofun hReaches, fun _ => hBehind, nofun, nofun,
      ?_, ?_, ?_, ?_, ?_⟩, by simp [hResult]⟩
    · simp [hLedger.replay, withContext, expire]
    · simp [hLedger.rejectedReplay, withContext, expire]
    · simp [hLedger.latest, withContext, expire]
    · simp [hLedger.contexts, withContext, getElem?_insert]
    · intro peer time hTime
      simpa using held_expire hTime hQuarantined
  | equivocation hReaches other hBehind hKnown _ hChecked =>
    have hLedger : SameLedger (withConflict security (digest call.contribution) call.contribution
      call.now) (judge digest security call).security := by
      rw [hChecked]
      exact quarantine_sameLedger _ _ _ _ _
    refine ⟨.conflict, ⟨hLedger.policy, iff_of_true nofun hReaches, nofun,
      fun _ => ⟨hBehind, by simp [hKnown]⟩, nofun, ?_, ?_, ?_, ?_, ?_⟩, by simp [hChecked]⟩
    · simp [hLedger.replay, withConflict, withContext, expire]
    · intro key
      have hRejected := hKept.2
      rw [hLedger.rejectedReplay] at hRejected ⊢
      simpa [withConflict] using getElem?_insertIfNew_of_kept (hRejected key)
    · simp [hLedger.latest, withConflict, withContext, expire]
    · simp [hLedger.contexts, withConflict, withContext, getElem?_insert]
    · intro peer time hTime
      have hExpired : (isQuarantined (withConflict security (digest call.contribution)
        call.contribution call.now) peer time).1 = (isQuarantined security peer time).1 :=
        held_expire hTime rfl
      rw [held_eq] at hExpired
      rw [held_eq, hChecked, held_quarantine, hExpired]
      simp [withConflict, withContext, expire]
      congr
  | entered hReaches hBehind hUnknown hChecked =>
    have hReplay := hKept.1
    rw [hChecked] at hReplay ⊢
    refine ⟨.entered, ⟨rfl, iff_of_true nofun hReaches, nofun, nofun, fun _ => ⟨hBehind, hUnknown⟩,
      ?_, ?_, ?_, ?_, ?_⟩, by simp⟩
    · intro key
      simp only [enterContribution, getElem?_insert] at hReplay ⊢
      by_cases hKey : replayKey call.contribution = key
      · simp [hKey]
      · rw [if_neg hKey, if_neg (by simp [hKey])]
        have hGet := hReplay key
        rw [if_neg hKey] at hGet
        exact getElem?_bound_of_mem hGet
    · simp [enterContribution, expire]
    · intro key
      rw [enterContribution, getElem?_insert]
      simp [expire]
    · intro job
      rw [enterContribution, getElem?_insert]
      simp [expire]
    · intro peer time hTime
      have hExpired : (isQuarantined (enterContribution (expire security call.now)
        (digest call.contribution) call.contribution) peer time).1 =
        (isQuarantined security peer time).1 :=
        held_expire hTime rfl
      simpa using hExpired

end

theorem Precedes.trans {first second third : TrainingContext} (hFirst : Precedes first second)
    (hSecond : Precedes second third) : Precedes first third := by
  unfold Precedes at *
  grind

/-
  What the ledgers with and without a worker say of the others
  from some time on.  Their contexts may differ if either may
  be followed by those of the calls that are left.
-/
structure Alike (worker : NodeId) (clock : UInt64) (rest : List Call)
    (first second : LocalSecurityState) : Prop where
  policy : second.policy = first.policy
  replay : ∀ key : ReplayKey, key.worker ≠ worker → second.replay[key]? = first.replay[key]?
  rejected : ∀ key : ReplayKey, key.worker ≠ worker →
    second.rejectedReplay[key]? = first.rejectedReplay[key]?
  latest : ∀ key : StreamKey, key.worker ≠ worker → second.latest[key]? = first.latest[key]?
  held : ∀ (peer : NodeId) (time : UInt64), peer ≠ worker → clock ≤ time →
    (isQuarantined second peer time).1 = (isQuarantined first peer time).1
  contexts : ∀ call ∈ rest, call.contribution.worker ≠ worker →
    second.contexts[call.contribution.jobId]? = first.contexts[call.contribution.jobId]? ∨
      ∀ previous, first.contexts[call.contribution.jobId]? = some previous ∨
        second.contexts[call.contribution.jobId]? = some previous →
        Precedes previous (contextOf call.contribution)

section

variable {worker : NodeId} {clock : UInt64} {call : Call} {rest : List Call}
variable {first second next' : LocalSecurityState} {outcome outcome' : Outcome}
variable (hAlike : Alike worker clock (call :: rest) first second) (hClock : clock ≤ call.now)

include hAlike hClock

/- A call of the worker itself. -/
theorem Alike.own (hMoved : Moved digest first call outcome next)
    (hOwn : call.contribution.worker = worker)
    (hLeaves : ∀ later ∈ rest, LeavesContext digest worker first call later) :
    Alike worker call.now rest next second where
  policy := hAlike.policy.trans hMoved.policy.symm
  replay := by
    intro key hKey
    rw [hMoved.replay, if_neg]
    · exact hAlike.replay key hKey
    · rintro ⟨-, rfl⟩
      exact hKey hOwn
  rejected := by
    intro key hKey
    rw [hMoved.rejected, if_neg]
    · exact hAlike.rejected key hKey
    · rintro ⟨-, rfl, -⟩
      exact hKey hOwn
  latest := by
    intro key hKey
    rw [hMoved.latest, if_neg]
    · exact hAlike.latest key hKey
    · rintro ⟨-, rfl⟩
      exact hKey hOwn
  held := by
    intro peer time hPeer hTime
    rw [hMoved.held peer time hTime, hAlike.held peer time hPeer (UInt64.le_trans hClock hTime)]
    simp [hOwn, Ne.symm hPeer]
  contexts := by
    intro later hLater hOther
    have hBefore := hAlike.contexts later (List.mem_cons_of_mem call hLater) hOther
    rw [hMoved.contexts]
    split_ifs with hJob
    · have hReaches := hMoved.reaches.mp hJob.1
      have hNext := (hLeaves later hLater).2 hOwn hOther hJob.2 hReaches
      right
      rintro previous (hOwn | hSecond)
      · cases hOwn
        exact hNext
      · rcases hBefore with hSame | hBoth
        · rw [hSame, ← hJob.2] at hSecond
          exact (hReaches.context previous hSecond).trans hNext
        · exact hBoth previous (Or.inr hSecond)
    · exact hBefore

/- A call of another worker fares the same in both. -/
theorem Alike.reaches_iff (hOther : call.contribution.worker ≠ worker) :
    Reaches second (digest call.contribution) call.contribution call.members call.now ↔
      Reaches first (digest call.contribution) call.contribution call.members call.now := by
  have hKey : (replayKey call.contribution).worker ≠ worker := hOther
  have hReplay := hAlike.replay _ hKey
  have hRejected := hAlike.rejected _ hKey
  have hHeld := hAlike.held _ call.now hOther hClock
  have hContext : (∀ previous, second.contexts[call.contribution.jobId]? = some previous →
    Precedes previous (contextOf call.contribution)) ↔
    ∀ previous, first.contexts[call.contribution.jobId]? = some previous →
      Precedes previous (contextOf call.contribution) := by
    rcases hAlike.contexts call List.mem_cons_self hOther with hSame | hBoth
    · rw [hSame]
    · exact iff_of_true (fun previous hSecond => hBoth previous (Or.inr hSecond))
        (fun previous hFirst => hBoth previous (Or.inl hFirst))
  constructor
  · rintro ⟨hMember, hBounds, hFresh, hFree, hPrecedes⟩
    rw [hAlike.policy] at hBounds
    rw [hReplay, hRejected] at hFresh
    exact ⟨hMember, hBounds, hFresh, hHeld ▸ hFree, hContext.mp hPrecedes⟩
  · rintro ⟨hMember, hBounds, hFresh, hFree, hPrecedes⟩
    rw [← hAlike.policy] at hBounds
    rw [← hReplay, ← hRejected] at hFresh
    exact ⟨hMember, hBounds, hFresh, hHeld ▸ hFree, hContext.mpr hPrecedes⟩

theorem Alike.outcome_eq (hFirst : Moved digest first call outcome next)
    (hSecond : Moved digest second call outcome' next')
    (hOther : call.contribution.worker ≠ worker) :
    outcome' = outcome := by
  have hReaches : outcome' ≠ .refused ↔ outcome ≠ .refused :=
    (hSecond.reaches.trans (hAlike.reaches_iff hClock hOther)).trans hFirst.reaches.symm
  have hReplay := hAlike.replay (replayKey call.contribution) hOther
  have hBehind : behindStream second call.contribution = behindStream first call.contribution := by
    unfold behindStream
    rw [hAlike.latest ⟨_, call.contribution.worker, _⟩ hOther]
  have hLate := hSecond.behind
  have hConflict := hSecond.conflict
  have hEntered := hSecond.entered
  have hLate' := hFirst.behind
  have hConflict' := hFirst.conflict
  have hEntered' := hFirst.entered
  cases outcome <;> cases outcome' <;> simp_all

theorem Alike.other (hFirst : Moved digest first call outcome next)
    (hSecond : Moved digest second call outcome next') : Alike worker call.now rest next next' where
  policy := hSecond.policy.trans (hAlike.policy.trans hFirst.policy.symm)
  replay := by
    intro key hKey
    rw [hFirst.replay, hSecond.replay, hAlike.replay key hKey]
  rejected := by
    intro key hKey
    have hSame := hAlike.rejected key hKey
    rw [hFirst.rejected, hSecond.rejected, hSame]
    simp only [Std.TreeMap.mem_iff_isSome_getElem?, hSame]
  latest := by
    intro key hKey
    rw [hFirst.latest, hSecond.latest, hAlike.latest key hKey]
  held := by
    intro peer time hPeer hTime
    rw [hFirst.held peer time hTime, hSecond.held peer time hTime,
      hAlike.held peer time hPeer (UInt64.le_trans hClock hTime), hAlike.policy]
  contexts := by
    intro later hLater hLaterOther
    rw [hFirst.contexts, hSecond.contexts]
    split_ifs
    · exact Or.inl rfl
    · exact hAlike.contexts later (List.mem_cons_of_mem call hLater) hLaterOther

omit hAlike hClock in
/- By induction over the calls. -/
theorem Alike.run {calls : List Call} :
    ∀ {clock : UInt64} {first second : LocalSecurityState},
      Alike worker clock calls first second → LeavesContexts digest worker first calls →
      (∀ call ∈ calls, clock ≤ call.now) →
      Meets (callStep digest) (NothingEvicted digest) first calls →
      Meets (callStep digest) (NothingEvicted digest) second
        (calls.filter (fun call => call.contribution.worker ≠ worker)) →
      (verdicts digest first calls).filter (fun entry => entry.1.contribution.worker ≠ worker) =
        verdicts digest second (calls.filter (fun call => call.contribution.worker ≠ worker)) := by
  induction calls with
  | nil =>
    intro clock first second _ _ _ _ _
    rfl
  | cons call calls ih =>
    intro clock first second hAlike hLeaves hClock hFirst hSecond
    have hNow := hClock call List.mem_cons_self
    have hLater : ∀ later ∈ calls, call.now ≤ later.now :=
      fun later hLater => (hLeaves.1 later hLater).1
    rcases judge_moved hFirst.1 with ⟨outcome, hMoved, _⟩
    by_cases hOwn : call.contribution.worker = worker
    · simp only [ne_eq, verdicts, List.filter_cons, hOwn, not_true_eq_false, decide_false,
        Bool.false_eq_true, if_false] at hSecond ⊢
      exact ih (hAlike.own hNow hMoved hOwn hLeaves.1) hLeaves.2 hLater (hFirst.2 _ rfl) hSecond
    · simp only [ne_eq, verdicts, List.filter_cons, hOwn, not_false_eq_true, decide_true,
        if_true] at hSecond ⊢
      rcases judge_moved hSecond.1 with ⟨outcome', hMoved', _⟩
      have hSame := hAlike.outcome_eq hNow hMoved hMoved' hOwn
      subst hSame
      rw [List.cons.injEq, Prod.mk.injEq]
      refine ⟨⟨rfl, ?_⟩, ?_⟩
      · split <;> split <;> simp_all
      · exact ih (hAlike.other hNow hMoved hMoved') hLeaves.2 hLater (hFirst.2 _ rfl)
          (hSecond.2 _ rfl)

end

/-
  Without the contributions of a worker those of the others
  fare as they do with them, if it is never ahead of them and
  the clock does not go back.
-/
theorem others_judged_alike (digest : TrainingContribution → ArtifactId) (policy : SecurityPolicy)
    (worker : NodeId) (calls : List Call)
    (hLeaves : LeavesContexts digest worker (.new policy) calls)
    (hKept : Meets (callStep digest) (NothingEvicted digest) (.new policy) calls)
    (hKeptWithout : Meets (callStep digest) (NothingEvicted digest) (.new policy)
      (calls.filter (fun call => call.contribution.worker ≠ worker))) :
    (verdicts digest (.new policy) calls).filter
      (fun entry => entry.1.contribution.worker ≠ worker) =
      verdicts digest (.new policy)
        (calls.filter (fun call => call.contribution.worker ≠ worker)) :=
  Alike.run ⟨rfl, fun _ _ => rfl, fun _ _ => rfl, fun _ _ => rfl, fun _ _ _ _ => rfl,
    fun _ _ _ => Or.inl rfl⟩ hLeaves (fun _ _ => UInt64.zero_le) hKept hKeptWithout

theorem others_judged_alike_small :
    (verdicts sameDigest (.new {}) [smallCall ⟨1⟩ 1 [3], smallCall ⟨2⟩ 2 [3]]).filter
      (fun entry => entry.1.contribution.worker ≠ ⟨1⟩) =
      verdicts sameDigest (.new {}) [smallCall ⟨2⟩ 2 [3]] :=
  others_judged_alike sameDigest {} ⟨1⟩ _ (by decide +kernel) (by decide +kernel)
    (by decide +kernel)

/- One contribution of worker 1 for a later generation keeps worker 2 out. -/
def aheadCall : Call :=
  ⟨⟨⟨1⟩, ⟨1⟩, ⟨1⟩, 1, 9, 1, [3]⟩, [⟨1⟩, ⟨2⟩], 5⟩

theorem others_shut_out :
    verdicts sameDigest (.new {}) [smallCall ⟨2⟩ 2 [3]] = [(smallCall ⟨2⟩ 2 [3], true)] ∧
      (smallCall ⟨2⟩ 2 [3], false) ∈
        verdicts sameDigest (.new {}) [aheadCall, smallCall ⟨2⟩ 2 [3]] := by
  decide +kernel

end IntelligenceNetwork.Security
