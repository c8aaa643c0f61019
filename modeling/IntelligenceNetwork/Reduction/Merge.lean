import IntelligenceNetwork.Protocol.TrainingV4
import Mathlib.Algebra.Group.Nat.Even

/-
  Two branches of a training job become one.

  The name of the merged branch is the hash of a text in which
  the branches stand in the order of the call, so the two sides
  of a partition give it two names.

  Main declarations:
    * `mergeText`
    * `reconcileBranches`
    * `merge_never_swaps`
-/

----
-- The Text That Is Hashed
----

namespace IntelligenceNetwork.Reduction

/- An identifier as it is displayed. -/
def displayId (id : ArtifactId) : List Char :=
  hexDigits 64 id.bytes.toNat

/- All characters are ASCII, so these are the bytes of the text. -/
def mergeText (left right : ArtifactId) (parentGeneration : UInt64) : List Char :=
  "v4-merge:".toList ++ displayId left ++ [':'] ++ displayId right ++ [':'] ++
    Nat.toDigits 10 parentGeneration.toNat

theorem length_hexDigits (width value : Nat) : (hexDigits width value).length = width := by
  induction width generalizing value with
  | zero => rfl
  | succ width ih => simp [hexDigits, ih]

theorem digitChar_inj : ∀ first < 16, ∀ second < 16,
    Nat.digitChar first = Nat.digitChar second → first = second := by
  decide

/- The digits say which number it was, up to their width. -/
theorem mod_eq_of_hexDigits_eq {width first second : Nat}
    (hSame : hexDigits width first = hexDigits width second) :
    first % 16 ^ width = second % 16 ^ width := by
  induction width generalizing first second with
  | zero => rw [Nat.pow_zero, Nat.mod_one, Nat.mod_one]
  | succ width ih =>
    rcases List.append_inj' hSame rfl with ⟨hHigh, hLow⟩
    have hDigit := digitChar_inj (first % 16) (Nat.mod_lt first (by decide)) (second % 16)
      (Nat.mod_lt second (by decide)) (List.singleton_inj.mp hLow)
    rw [Nat.pow_succ', Nat.mod_mul, Nat.mod_mul, hDigit, ih hHigh]

theorem displayId_injective : Function.Injective displayId := by
  intro first second hSame
  have hBytes := mod_eq_of_hexDigits_eq hSame
  rcases first with ⟨first⟩
  rcases second with ⟨second⟩
  rw [ArtifactId.mk.injEq, ← BitVec.toNat_inj]
  have hFirst := first.isLt
  have hSecond := second.isLt
  simp only at hBytes
  omega

/- The text keeps the order of the branches. -/
theorem mergeText_swap_ne {left right : ArtifactId} (hOther : left ≠ right)
    (parentGeneration : UInt64) :
    mergeText left right parentGeneration ≠ mergeText right left parentGeneration := by
  intro hSame
  unfold mergeText at hSame
  generalize Nat.toDigits 10 parentGeneration.toNat = parent at hSame
  simp only [List.append_assoc] at hSame
  -- the first name ends at the same place in both texts
  have hFirst := List.append_inj (List.append_cancel_left hSame) (by
    rw [displayId, displayId, length_hexDigits, length_hexDigits])
  exact hOther (displayId_injective hFirst.1)

----
-- Reconciling Branches
----

inductive V4PlannerError where
  | incompatibleBranches

structure V4BranchDecision where
  accepted : Bool
  branch : Option ArtifactId
  value : Option Int
  reason : String

/- The hash of a text is given. -/
variable (hash : List Char → ArtifactId) (left right : V4TrainingBranch)
variable (policy : V4ReconciliationPolicy) (leftValue rightValue : Int)

/- Two branches from one point, each with the same progress. -/
def compatible : Bool :=
  left.jobId == right.jobId && left.parentGeneration == right.parentGeneration &&
    left.modelGeneration == right.modelGeneration &&
    left.optimizerGeneration == right.optimizerGeneration &&
    left.datasetProgress == right.datasetProgress && left.planGeneration == right.planGeneration &&
    left.branch != right.branch

def reconcileBranches : Except V4PlannerError V4BranchDecision :=
  if !compatible left right then
    match policy with
    | .abortBranch | .manualOperatorRequired | .selectBranch =>
      .ok ⟨false, none, none, "incompatible branch lineage requires explicit operator policy"⟩
    | _ => .error .incompatibleBranches
  else
    match policy with
    | .averageCompatibleState | .mergeLocalSgdState =>
      .ok ⟨true, hash (mergeText left.branch right.branch left.parentGeneration),
        (leftValue + rightValue).tdiv 2,
        "compatible local-SGD branches with equal data progress merged from a common generation"⟩
    | .selectBranch =>
      .ok ⟨true, left.branch, leftValue,
        "operator-selected branch retained; the alternate branch was not merged"⟩
    | .abortBranch | .manualOperatorRequired =>
      .ok ⟨false, none, none, "policy does not permit automatic branch reconciliation"⟩

theorem compatible_comm : compatible left right = compatible right left := by
  unfold compatible
  grind

section

variable {left right policy}

/- The decision on branches that are merged. -/
theorem reconcileBranches_merging (hCompatible : compatible left right = true)
    (hPolicy : policy = .averageCompatibleState ∨ policy = .mergeLocalSgdState) :
    reconcileBranches hash left right policy leftValue rightValue =
      .ok ⟨true, hash (mergeText left.branch right.branch left.parentGeneration),
        (leftValue + rightValue).tdiv 2,
        "compatible local-SGD branches with equal data progress merged from a common generation"⟩
    := by
  unfold reconcileBranches
  rw [hCompatible]
  rcases hPolicy with rfl | rfl <;> rfl

end

/-
  Both orders are accepted, refused or fail alike.  Where
  branches are merged, the two sides agree in all but the name
  of the new branch, and never in that: the hash would have to
  be the same for two different texts.
-/
theorem merge_never_swaps :
    (reconcileBranches hash left right policy leftValue rightValue).map (·.accepted) =
      (reconcileBranches hash right left policy rightValue leftValue).map (·.accepted) ∧
    (compatible left right = true →
      policy = .averageCompatibleState ∨ policy = .mergeLocalSgdState →
      (hash (mergeText left.branch right.branch left.parentGeneration) =
          hash (mergeText right.branch left.branch left.parentGeneration) →
        mergeText left.branch right.branch left.parentGeneration =
          mergeText right.branch left.branch left.parentGeneration) →
      ∃ one other, reconcileBranches hash left right policy leftValue rightValue = .ok one ∧
        reconcileBranches hash right left policy rightValue leftValue = .ok other ∧
        one.value = other.value ∧ one.reason = other.reason ∧ one.branch ≠ other.branch) := by
  constructor
  · unfold reconcileBranches
    rw [compatible_comm right left]
    cases policy <;> cases compatible left right <;> simp [Except.map]
  · intro hCompatible hPolicy hNoCollision
    have hParent : left.parentGeneration = right.parentGeneration := by
      grind [compatible]
    have hBranches : left.branch ≠ right.branch := by
      grind [compatible]
    have hNames := mt hNoCollision (mergeText_swap_ne hBranches left.parentGeneration)
    have hSwapped := hCompatible
    rw [compatible_comm] at hSwapped
    rw [reconcileBranches_merging hash leftValue rightValue hCompatible hPolicy,
      reconcileBranches_merging hash rightValue leftValue hSwapped hPolicy, ← hParent,
      Int.add_comm rightValue]
    exact ⟨_, _, rfl, rfl, rfl, rfl, fun hSame => hNames (Option.some.inj hSame)⟩

/- A branch of job 7 that starts at generation 1. -/
def smallBranch (branch : ArtifactId) : V4TrainingBranch := ⟨⟨7⟩, branch, 1, 2, 2, 5, 1, ⟨1⟩⟩

/- A hash that adds up the characters by their places. -/
def placeHash (text : List Char) : ArtifactId :=
  ⟨BitVec.ofNat 256 (text.foldl (fun sum letter => 31 * sum + letter.toNat) 7)⟩

theorem merge_never_swaps_small :
    ∃ one other, reconcileBranches placeHash (smallBranch ⟨1⟩) (smallBranch ⟨2⟩)
        .averageCompatibleState 4 7 = .ok one ∧
      reconcileBranches placeHash (smallBranch ⟨2⟩) (smallBranch ⟨1⟩)
        .averageCompatibleState 7 4 = .ok other ∧
      one.value = other.value ∧ one.reason = other.reason ∧ one.branch ≠ other.branch :=
  (merge_never_swaps placeHash (smallBranch ⟨1⟩) (smallBranch ⟨2⟩) .averageCompatibleState 4 7).2
    (by decide) (Or.inl rfl) (by decide +kernel)

/- Whatever the hash, two ids mean two decisions. -/
theorem merge_differs : compatible (smallBranch ⟨1⟩) (smallBranch ⟨2⟩) = true ∧
    placeHash (mergeText ⟨1⟩ ⟨2⟩ 1) ≠ placeHash (mergeText ⟨2⟩ ⟨1⟩ 1) ∧
    ∀ hash, hash (mergeText ⟨1⟩ ⟨2⟩ 1) ≠ hash (mergeText ⟨2⟩ ⟨1⟩ 1) →
      reconcileBranches hash (smallBranch ⟨1⟩) (smallBranch ⟨2⟩) .averageCompatibleState 4 7 ≠
        reconcileBranches hash (smallBranch ⟨2⟩) (smallBranch ⟨1⟩) .averageCompatibleState 7 4 := by
  refine ⟨by decide, by decide +kernel, ?_⟩
  intro hash hNames hSame
  rw [reconcileBranches_merging hash 4 7 (by decide) (Or.inl rfl),
    reconcileBranches_merging hash 7 4 (by decide) (Or.inl rfl)] at hSame
  simp only [smallBranch, Except.ok.injEq, V4BranchDecision.mk.injEq, Option.some.injEq] at hSame
  exact hNames hSame.2.1

end IntelligenceNetwork.Reduction
