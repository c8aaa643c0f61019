import IntelligenceNetwork.Lib.Saturating

/-
  The tensor operations of the CPU backend.

  A product of a row is summed in 128 bits and cut to the bound
  on values; an elementwise product saturates, and a column's
  products are summed with wrap-around.

  Main declarations:
    * `matrixVector`
    * `matrixTransposeVector`
    * `elementwiseMultiply`
-/

----
-- Values
----

namespace IntelligenceNetwork.Tensor

/- The nearest value within the bound on values. -/
def clampValue (value : Int) : Int :=
  max (-1000000000) (min value 1000000000)

theorem natAbs_clampValue_le {value : Int} : (clampValue value).natAbs ≤ 1000000000 := by
  unfold clampValue
  omega

/- One weight after one step against its gradient. -/
def descend (rateMicros weight gradient : Int) : Int :=
  clampValue (weight - (gradient * rateMicros).tdiv 1000000)

/- One optimizer value after one gradient. -/
def accumulate (value gradient : Int) : Int :=
  clampValue (Saturating.clampI64 (value + gradient))

----
-- Tasks
----

section

variable (rows cols : UInt16) (weights input : List Int)

def matrixVector : Option (List Int) :=
  if weights.length = (rows * cols).toNat ∧ input.length = cols.toNat then
    some ((List.range rows.toNat).map (fun row =>
      let line := (weights.drop (row * cols.toNat)).take cols.toNat
      clampValue (List.zipWith (· * ·) line input).sum))
  else
    none

def matrixTransposeVector : Option (List Int) :=
  if weights.length = (rows * cols).toNat ∧ input.length = rows.toNat then
    some ((List.range cols.toNat).map (fun col =>
      Saturating.wrapI64 ((List.range rows.toNat).map (fun row =>
        Saturating.clampI64 (weights.getD (row * cols.toNat + col) 0 * input.getD row 0))).sum))
  else
    none

end

def elementwiseMultiply (left right : List Int) : Option (List Int) :=
  if left.length = right.length then
    some (List.zipWith (fun left right => Saturating.clampI64 (left * right)) left right)
  else
    none

/- Each row's upstream value, once for each of its columns. -/
def repeatedUpstream (rows cols : UInt16) (upstream : List Int) : List Int :=
  (List.range rows.toNat).flatMap (fun row =>
    List.replicate cols.toNat (upstream.getD row 0))

/- A gradient has one entry for each weight. -/
theorem length_of_elementwiseMultiply {left right gradients : List Int}
    (hRun : elementwiseMultiply left right = some gradients) : gradients.length = left.length := by
  unfold elementwiseMultiply at hRun
  split_ifs at hRun with hLength
  cases hRun
  rw [List.length_zipWith, hLength, Nat.min_self]

end IntelligenceNetwork.Tensor
