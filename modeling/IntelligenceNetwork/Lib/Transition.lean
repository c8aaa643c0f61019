import Mathlib.Data.List.Basic
import Mathlib.Logic.Basic

/-
  Runs of executable transition systems.

  An action that is not enabled in a state has no result.  A
  condition on steps is a predicate on the state before the
  step and the action.

  Main declarations:
    * `run`
    * `Meets`
    * `invariant_of_run`
    * `meets_iff_of_invariant`
-/

----
-- Runs
----

namespace Transition

variable {S A : Type*}

/- Take the actions in order, stopping when one is disabled. -/
def run (step : S → A → Option S) : S → List A → Option S
| state, [] => some state
| state, action :: actions => (step state action).bind (fun next => run step next actions)

/-
  Take actions as long as they are enabled; what is left
  starts with one that is not.
-/
def drain (step : S → A → Option S) : S → List A → S × List A
| state, [] => (state, [])
| state, action :: actions =>
  match step state action with
  | none => (state, action :: actions)
  | some next => drain step next actions

/- How many of the steps that are taken are of some kind. -/
def count (step : S → A → Option S) (kind : S → A → Bool) : S → List A → Nat
| _, [] => 0
| state, action :: actions =>
  match step state action with
  | none => 0
  | some next => (if kind state action then 1 else 0) + count step kind next actions

/- Every step of the run is taken where `cond` holds. -/
def Meets (step : S → A → Option S) (cond : S → A → Prop) : S → List A → Prop
| _, [] => True
| state, action :: actions =>
  cond state action ∧ ∀ next, step state action = some next → Meets step cond next actions

/- Whether a run meets a condition can be computed. -/
instance decidableMeets (step : S → A → Option S) (cond : S → A → Prop)
    [∀ state action, Decidable (cond state action)] :
    ∀ state actions, Decidable (Meets step cond state actions)
| _, [] => isTrue trivial
| state, action :: actions =>
  match hStep : step state action with
  | none =>
    decidable_of_iff (cond state action) (by
      simp [Meets, hStep])
  | some next =>
    have := decidableMeets step cond next actions
    decidable_of_iff (cond state action ∧ Meets step cond next actions) (by simp [Meets, hStep])

section

variable {step : S → A → Option S}

variable {state final : S} {earlier later actions : List A} {cond : S → A → Prop}

/- A run that takes a first action continues after it. -/
theorem run_cons_eq_some_iff {action : A} :
    run step state (action :: actions) = some final ↔ ∃ next, step state action = some next ∧
      run step next actions = some final := by
  simp [run, Option.bind_eq_some_iff]

/- Draining is the longest run there is. -/
theorem drain_eq_iff {step : S → A → Option S} (state : S) {rest : List A} :
    drain step state actions = (final, rest) ↔ ∃ consumed, actions = consumed ++ rest ∧
      run step state consumed = some final ∧
      ∀ action ∈ rest.head?, step final action = none := by
  induction actions generalizing state with
  | nil =>
    constructor
    · intro hDrain
      cases hDrain
      exact ⟨[], rfl, rfl, by simp⟩
    · rintro ⟨consumed, hSplit, hRun, -⟩
      rcases List.append_eq_nil_iff.mp hSplit.symm with ⟨rfl, rfl⟩
      cases hRun
      rfl
  | cons action actions ih =>
    cases hStep : step state action with
    | none =>
      rw [drain, hStep]
      constructor
      · intro hDrain
        cases hDrain
        refine ⟨[], rfl, rfl, ?_⟩
        intro first hFirst
        cases hFirst
        exact hStep
      · rintro ⟨consumed, hSplit, hRun, -⟩
        cases consumed with
        | nil =>
          cases hRun
          cases hSplit
          rfl
        | cons first consumed =>
          cases hSplit
          rw [run, hStep] at hRun
          cases hRun
    | some next =>
      rw [drain, hStep]
      rw [ih next]
      constructor
      · rintro ⟨consumed, rfl, hRun, hHead⟩
        refine ⟨action :: consumed, rfl, ?_, hHead⟩
        exact run_cons_eq_some_iff.mpr ⟨next, hStep, hRun⟩
      · rintro ⟨consumed, hSplit, hRun, hHead⟩
        cases consumed with
        | nil =>
          cases hRun
          subst hSplit
          have hNone := hHead action rfl
          rw [hStep] at hNone
          cases hNone
        | cons first consumed =>
          cases hSplit
          rw [run, hStep] at hRun
          exact ⟨consumed, rfl, hRun, hHead⟩

/- A run of two parts passes through a middle state. -/
theorem run_append_eq_some_iff :
    run step state (earlier ++ later) = some final ↔
      ∃ middle, run step state earlier = some middle ∧ run step middle later = some final := by
  induction earlier generalizing state with
  | nil => simp [run]
  | cons action earlier ih =>
    rw [List.cons_append, run_cons_eq_some_iff]
    constructor
    · rintro ⟨next, hNext, hRest⟩
      rcases ih.mp hRest with ⟨middle, hMiddle, hFinal⟩
      exact ⟨middle, run_cons_eq_some_iff.mpr ⟨next, hNext, hMiddle⟩, hFinal⟩
    · rintro ⟨middle, hMiddle, hFinal⟩
      rcases run_cons_eq_some_iff.mp hMiddle with ⟨next, hNext, hRest⟩
      exact ⟨next, hNext, ih.mpr ⟨middle, hRest, hFinal⟩⟩

/- Nothing counts after a run has stopped. -/
theorem count_of_stopped {kind : S → A → Bool} {last : S}
    (hRun : run step state earlier = some last) (hStopped : ∀ action, step last action = none) :
    count step kind state (earlier ++ later) = count step kind state earlier := by
  induction earlier generalizing state with
  | nil =>
    cases hRun
    cases later with
    | nil => rfl
    | cons action later => simp only [List.nil_append, count, hStopped]
  | cons action earlier ih =>
    rcases run_cons_eq_some_iff.mp hRun with ⟨next, hNext, hRest⟩
    rw [List.cons_append, count, count, hNext]
    dsimp only
    rw [ih hRest]

/- What is left of a run that meets the condition meets it. -/
theorem meets_append {middle : S} (hMeets : Meets step cond state (earlier ++ later))
    (hEarlier : run step state earlier = some middle) : Meets step cond middle later := by
  induction earlier generalizing state with
  | nil =>
    cases hEarlier
    exact hMeets
  | cons action earlier ih =>
    rcases run_cons_eq_some_iff.mp hEarlier with ⟨next, hNext, hRest⟩
    exact ih (hMeets.2 next hNext) hRest

/- The beginning of a run that meets the condition meets it. -/
theorem meets_of_append (hMeets : Meets step cond state (earlier ++ later)) :
    Meets step cond state earlier := by
  induction earlier generalizing state with
  | nil => trivial
  | cons action earlier ih =>
    refine ⟨hMeets.1, ?_⟩
    intro next hNext
    exact ih (hMeets.2 next hNext)

end

section

variable {step : S → A → Option S} {cond : S → A → Prop} {state : S} {actions : List A}

theorem meets_and {cond' : S → A → Prop} (hMeets : Meets step cond state actions)
    (hMeets' : Meets step cond' state actions) : Meets step (fun state action =>
      cond state action ∧ cond' state action)
      state actions := by
  induction actions generalizing state with
  | nil => trivial
  | cons action actions ih =>
    refine ⟨⟨hMeets.1, hMeets'.1⟩, ?_⟩
    intro next hNext
    exact ih (hMeets.2 next hNext) (hMeets'.2 next hNext)

/-
  A run meets the condition when the condition holds at every
  one of its moments.
-/
theorem meets_of_forall_moment
    (hMoment : ∀ earlier action later middle, actions = earlier ++ action :: later →
      run step state earlier = some middle → cond middle action) :
    Meets step cond state actions := by
  induction actions generalizing state with
  | nil => trivial
  | cons action actions ih =>
    refine ⟨hMoment [] action actions state rfl rfl, ?_⟩
    intro next hNext
    apply ih
    intro earlier later rest middle hSplit hMiddle
    refine hMoment (action :: earlier) later rest middle (by rw [hSplit, List.cons_append]) ?_
    exact run_cons_eq_some_iff.mpr ⟨next, hNext, hMiddle⟩

end

----
-- Induction Over Runs
----

variable {step : S → A → Option S} {cond : S → A → Prop}

section

variable (Inv : S → Prop) {state final : S} {actions : List A}

/-
  What every step under the condition preserves holds at the
  end of every run that meets the condition.
-/
theorem invariant_of_run
    (hStep : ∀ state action next, Inv state → cond state action → step state action = some next →
      Inv next)
    (hInv : Inv state) (hMeets : Meets step cond state actions)
    (hRun : run step state actions = some final) : Inv final := by
  induction actions generalizing state with
  | nil =>
    cases hRun
    exact hInv
  | cons action actions ih =>
    rcases run_cons_eq_some_iff.mp hRun with ⟨next, hNext, hRest⟩
    exact ih (hStep state action next hInv hMeets.1 hNext) (hMeets.2 next hNext) hRest

/- What every step preserves holds at the end of every run. -/
theorem always_of_run
    (hStep : ∀ state action next, Inv state → step state action = some next → Inv next)
    (hInv : Inv state) (hRun : run step state actions = some final) : Inv final :=
  invariant_of_run Inv (fun state action next hInv (_ : True) hNext =>
    hStep state action next hInv hNext)
    hInv
    (meets_of_forall_moment (fun _ _ _ _ _ _ => trivial))
    hRun

/-
  Two conditions that agree wherever the invariant holds are
  met by the same runs, if steps under them preserve it.
-/
theorem meets_iff_of_invariant {cond' : S → A → Prop}
    (hStep : ∀ state action next, Inv state → step state action = some next → (cond state action ↔
      cond' state action) ∧ (cond state action → Inv next))
    (hInv : Inv state) (hRun : run step state actions = some final) :
    Meets step cond state actions ↔ Meets step cond' state actions := by
  induction actions generalizing state with
  | nil => exact Iff.rfl
  | cons action actions ih =>
    rcases run_cons_eq_some_iff.mp hRun with ⟨next, hNext, hRest⟩
    rcases hStep state action next hInv hNext with ⟨hIff, hKeeps⟩
    simp only [Meets, hNext, Option.some.injEq, forall_eq']
    constructor
    · rintro ⟨hHere, hLater⟩
      exact ⟨hIff.mp hHere, (ih (hKeeps hHere) hRest).mp hLater⟩
    · rintro ⟨hHere, hLater⟩
      have hCond := hIff.mpr hHere
      exact ⟨hCond, (ih (hKeeps hCond) hRest).mpr hLater⟩

end

variable (Rel : S → S → Prop) {state : S} {actions : List A} {cond : S → A → Prop} (Inv : S → Prop)

section

variable (hRefl : ∀ state, Rel state state)
  (hTrans : ∀ first second third, Rel first second → Rel second third → Rel first third)
  (hStep : ∀ state action next, cond state action → step state action = some next → Rel state next)

include hRefl hTrans hStep

/-
  A reflexive and transitive relation that every step under
  the condition respects holds along every run that meets it.
-/
theorem related_of_run {final : S} (hMeets : Meets step cond state actions)
    (hRun : run step state actions = some final) : Rel state final := by
  induction actions generalizing state with
  | nil =>
    cases hRun
    exact hRefl final
  | cons action actions ih =>
    rcases run_cons_eq_some_iff.mp hRun with ⟨next, hNext, hRest⟩
    exact hTrans state next final (hStep state action next hMeets.1 hNext)
      (ih (hMeets.2 next hNext) hRest)

/-
  Any two moments of such a run are related, the earlier one
  to the later one.
-/
theorem related_of_moments {middle middle' : S} {earlier later earlier' later' : List A}
    (hMeets : Meets step cond state (earlier ++ later))
    (hSplit : earlier ++ later = earlier' ++ later')
    (hMiddle : run step state earlier = some middle)
    (hMiddle' : run step state earlier' = some middle') :
    Rel middle middle' ∨ Rel middle' middle := by
  have hMeets' : Meets step cond state (earlier' ++ later') := hSplit ▸ hMeets
  -- one list of actions continues the other
  rcases List.append_eq_append_iff.mp hSplit with ⟨between, rfl, rfl⟩ | ⟨between, rfl, rfl⟩
  · left
    rcases run_append_eq_some_iff.mp hMiddle' with ⟨first, hFirst, hBetween⟩
    rw [hMiddle] at hFirst
    cases hFirst
    exact related_of_run Rel hRefl hTrans hStep
      (meets_of_append (meets_append hMeets hMiddle)) hBetween
  · right
    rcases run_append_eq_some_iff.mp hMiddle with ⟨first, hFirst, hBetween⟩
    rw [hMiddle'] at hFirst
    cases hFirst
    exact related_of_run Rel hRefl hTrans hStep (meets_of_append (meets_append hMeets' hMiddle'))
      hBetween

end

/- The same for a system whose actions are always enabled. -/
theorem meets_iff_of_total {next : S → A → S} {cond' : S → A → Prop}
    (hStep : ∀ state action, Inv state → (cond state action ↔ cond' state action) ∧
      (cond state action → Inv (next state action)))
    (state : S) (hInv : Inv state) :
    Meets (fun state action => some (next state action)) cond state actions ↔
      Meets (fun state action => some (next state action)) cond' state actions := by
  induction actions generalizing state with
  | nil => exact Iff.rfl
  | cons action actions ih =>
    rcases hStep state action hInv with ⟨hIff, hNext⟩
    constructor
    · rintro ⟨hHere, hRest⟩
      refine ⟨hIff.mp hHere, ?_⟩
      rintro later ⟨⟩
      exact (ih _ (hNext hHere)).mp (hRest _ rfl)
    · rintro ⟨hHere, hRest⟩
      have hCond := hIff.mpr hHere
      refine ⟨hCond, ?_⟩
      rintro later ⟨⟩
      exact (ih _ (hNext hCond)).mpr (hRest _ rfl)

/-
  Steps of a kind that pass a point which no step goes back
  behind are at most one.
-/
theorem count_le_one {kind : S → A → Bool} (Passed : S → Prop)
    (hStep : ∀ state action next, Inv state → cond state action →
      step state action = some next → Inv next ∧ (Passed state → Passed next))
    (hKind : ∀ state action next, Inv state → cond state action →
      step state action = some next → kind state action = true → ¬ Passed state ∧ Passed next)
    (state : S) (hInv : Inv state) (hMeets : Meets step cond state actions) :
    count step kind state actions ≤ 1 ∧ (Passed state → count step kind state actions = 0) := by
  induction actions generalizing state with
  | nil => exact ⟨Nat.zero_le 1, fun _ => rfl⟩
  | cons action actions ih =>
    rw [count]
    cases hNext : step state action with
    | none => exact ⟨Nat.zero_le 1, fun _ => rfl⟩
    | some next =>
      rcases hStep state action next hInv hMeets.1 hNext with ⟨hLater, hPassed⟩
      rcases ih next hLater (hMeets.2 next hNext) with ⟨hOne, hNone⟩
      dsimp only
      cases hKindOf : kind state action with
      | false =>
        rw [if_neg Bool.false_ne_true, Nat.zero_add]
        exact ⟨hOne, fun hHere => hNone (hPassed hHere)⟩
      | true =>
        rcases hKind state action next hInv hMeets.1 hNext hKindOf with ⟨hBefore, hAfter⟩
        rw [if_pos rfl, hNone hAfter]
        exact ⟨Nat.le_refl 1, fun hHere => absurd hHere hBefore⟩

end Transition
