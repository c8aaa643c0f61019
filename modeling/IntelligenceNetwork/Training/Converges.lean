import IntelligenceNetwork.Training.Handlers
import IntelligenceNetwork.Training.Job

/-
  The reference model learns its target.

  A step passes the target by eleven fortieths of its way at
  most, and thirteen steps end at the target itself.

  Main declarations:
    * `wayLeft`
    * `localStep_eq`
    * `computeUpdate_converges`
-/

----
-- One Step
----

namespace IntelligenceNetwork.Training

open Saturating

/- The value that fits all samples of a reference shard. -/
def target (shardId : UInt16) : Int := if shardId == 0 then 2 else 3

/- What a step leaves of the way to the target. -/
def wayLeft (way : Int) : Int := way - ((204 * way).tdiv 8 * 50000).tdiv trainingScale

theorem natAbs_wayLeft_le (way : Int) : 40 * (wayLeft way).natAbs ≤ 11 * way.natAbs := by
  rcases (by omega : way = 0 ∨ way = 1 ∨ way = -1 ∨ 2 ≤ way ∨ way ≤ -2) with
    rfl | rfl | rfl | hAhead | hBehind
  · decide
  · decide
  · decide
  -- truncating moves each of the two quotients by less than one
  all_goals
    rw [wayLeft, trainingScale, Int.tdiv_eq_ediv, Int.tdiv_eq_ediv,
      Int.sign_eq_one_of_pos (by decide : 0 < (8 : Int)),
      Int.sign_eq_one_of_pos (by decide : 0 < (1000000 : Int))]
    omega

section

variable {value : Int} {shardId : UInt16} (hNear : (value - target shardId).natAbs ≤ 10000003)
include hNear

theorem gradientSum_eq :
    gradientSum value (samplesForShard shardId) = 204 * (value - target shardId) := by
  have hClamp : ∀ {x : Int}, -9223372036854775808 ≤ x → x ≤ 9223372036854775807 →
    clampI64 x = x := by
    unfold clampI64 minI64 maxI64
    omega
  unfold target samplesForShard at *
  split_ifs at * <;>
  · simp (disch := omega) only [List.map, gradientSum, List.foldl, sampleError, hClamp]
    omega

theorem localStep_eq (optimizer : Int) :
    (localStep (samplesForShard shardId) (value, optimizer)).1 - target shardId =
      wayLeft (value - target shardId) := by
  have hLess := natAbs_wayLeft_le (value - target shardId)
  have hTarget : (target shardId).natAbs ≤ 3 := by
    unfold target
    split_ifs <;> decide
  have hSamples : max ((samplesForShard shardId).length : Int) 1 = 8 := rfl
  rw [localStep, gradientSum_eq hNear, hSamples]
  unfold wayLeft clampI64 minI64 maxI64 at *
  dsimp only
  omega

----
-- All Steps
----

theorem natAbs_iterate_le (optimizer : Int) (steps : Nat) :
    40 ^ steps * (((localStep (samplesForShard shardId))^[steps] (value, optimizer)).1 -
      target shardId).natAbs ≤ 11 ^ steps * (value - target shardId).natAbs := by
  induction steps generalizing value optimizer with
  | zero => exact Nat.le_refl _
  | succ steps ih =>
    have hLess := natAbs_wayLeft_le (value - target shardId)
    rw [← localStep_eq hNear optimizer] at hLess
    have hRest := @ih (localStep (samplesForShard shardId) (value, optimizer)).1 (by omega)
      (localStep (samplesForShard shardId) (value, optimizer)).2
    rw [Function.iterate_succ_apply, Nat.pow_succ', Nat.pow_succ, Nat.mul_assoc, Nat.mul_assoc]
    refine (Nat.mul_le_mul_left 40 hRest).trans ?_
    rw [Nat.mul_left_comm]
    exact Nat.mul_le_mul_left _ hLess

theorem iterate_eq_target (optimizer : Int) {steps : Nat} (hSteps : 13 ≤ steps) :
    ((localStep (samplesForShard shardId))^[steps] (value, optimizer)).1 = target shardId := by
  have hClose := natAbs_iterate_le hNear optimizer steps
  have hFirst := Nat.mul_le_mul_left (11 ^ steps) hNear
  obtain ⟨more, rfl⟩ := Nat.exists_eq_add_of_le hSteps
  have hMore := Nat.pow_le_pow_left (by decide : 11 ≤ 40) more
  have hPos : 0 < 40 ^ more := Nat.pow_pos (by decide)
  by_contra hApart
  have hLeft := Nat.le_mul_of_pos_right (40 ^ (13 + more))
    (Int.natAbs_pos.mpr (sub_ne_zero.mpr hApart))
  rw [Nat.pow_add, Nat.pow_add] at *
  omega

end

/-
  An update is geometrically closer to the target than the
  worker's value.  With thirteen steps it is the target, and
  the model fits all samples.
-/
theorem computeUpdate_converges (context : Context) (window : TrainingWindow) (worker : NodeId)
    (shardId : UInt16) (hSamples : context.samples = samplesForShard shardId)
    (hValue : context.value.natAbs ≤ v3MaxDelta) :
    40 ^ window.localSteps.toNat *
        ((computeUpdate context window worker).value - target shardId).natAbs ≤
      11 ^ window.localSteps.toNat * (context.value - target shardId).natAbs ∧
    (13 ≤ window.localSteps →
      (computeUpdate context window worker).value = target shardId ∧
        (computeUpdate context window worker).loss = 0) := by
  have hNear : (context.value - target shardId).natAbs ≤ 10000003 := by
    unfold v3MaxDelta trainingScale at hValue
    unfold target
    split_ifs <;> omega
  unfold computeUpdate
  rw [hSamples]
  refine ⟨natAbs_iterate_le hNear context.optimizer _, ?_⟩
  intro hSteps
  have hThere := iterate_eq_target hNear context.optimizer (UInt16.le_iff_toNat_le.mp hSteps)
  refine ⟨hThere, ?_⟩
  dsimp only
  rw [hThere]
  unfold target samplesForShard
  split_ifs <;> decide

/- A new worker arrives in one window. -/
theorem computeUpdate_converges_small : (computeUpdate (Context.new (smallStart 1) .worker)
    ⟨⟨7⟩, ⟨9⟩, 1, 1, ⟨1⟩, 1, 1, 1, ⟨2⟩, [⟨2⟩], 0, 13, 13⟩ ⟨2⟩).value = target 1 :=
  ((computeUpdate_converges _ _ ⟨2⟩ 1 rfl (by decide)).2 (by decide)).1

end IntelligenceNetwork.Training
