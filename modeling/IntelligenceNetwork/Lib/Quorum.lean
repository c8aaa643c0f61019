import Mathlib.Algebra.Group.Nat.Even
import Mathlib.Data.Finset.Card

/-
  Strict majorities of finite sets.

  Main declarations:
    * `StrictMajority`
    * `inter_nonempty`
-/

----
-- Strict Majorities
----

namespace Quorum

variable {α : Type*} [DecidableEq α]

/- More than half of `whole` belongs to `part`. -/
def StrictMajority (part whole : Finset α) : Prop :=
  whole.card < 2 * (whole ∩ part).card

instance (part whole : Finset α) : Decidable (StrictMajority part whole) :=
  inferInstanceAs (Decidable (_ < _))

namespace StrictMajority

variable {part part' whole : Finset α}

theorem mono (hSubset : part ⊆ part') (hMajority : StrictMajority part whole) :
    StrictMajority part' whole := by
  have hLe : (whole ∩ part).card ≤ (whole ∩ part').card := Finset.card_le_card
    (Finset.inter_subset_inter_left hSubset)
  unfold StrictMajority at *
  omega

/- Only the members of the whole matter. -/
theorem congr (hSame : ∀ member ∈ whole, member ∈ part ↔ member ∈ part') :
    StrictMajority part whole ↔ StrictMajority part' whole := by
  have hInter : whole ∩ part = whole ∩ part' := by
    ext member
    simp only [Finset.mem_inter]
    exact and_congr_right (hSame member)
  rw [StrictMajority, StrictMajority, hInter]

/- Any two majorities of one set share a member. -/
theorem inter_nonempty (hMajority : StrictMajority part whole)
    (hMajority' : StrictMajority part' whole) : (part ∩ part').Nonempty := by
  have hShared : ((whole ∩ part) ∩ (whole ∩ part')).Nonempty := by
    apply Finset.inter_nonempty_of_card_lt_card_add_card (s := whole)
    · exact Finset.inter_subset_left
    · exact Finset.inter_subset_left
    · unfold StrictMajority at *
      omega
  rcases hShared with ⟨member, hMember⟩
  rw [Finset.mem_inter, Finset.mem_inter, Finset.mem_inter] at hMember
  exact ⟨member, Finset.mem_inter.mpr ⟨hMember.1.2, hMember.2.2⟩⟩

end StrictMajority

/-
  Half of a set, rounded up, together with one node that is
  counted on either side: this is a strict majority when the
  half lies in the set, unless the node was in the set and
  the set is even.
-/
theorem strictMajority_insert_iff {half whole : Finset α} {node : α}
    (hNode : node ∈ whole → node ∈ half) (hHalf : half.card = (whole.card + 1) / 2) :
    StrictMajority (insert node half) (insert node whole) ↔
      half ⊆ whole ∧ ¬ (node ∈ whole ∧ Even whole.card) := by
  have hLe : (whole ∩ half).card ≤ half.card := Finset.card_le_card Finset.inter_subset_right
  have hSubset : half.card ≤ (whole ∩ half).card ↔ half ⊆ whole := by
    constructor
    · intro hCard
      have hEq : whole ∩ half = half := Finset.eq_of_subset_of_card_le
        Finset.inter_subset_right hCard
      exact Finset.inter_eq_right.mp hEq
    · intro hSub
      rw [Finset.inter_eq_right.mpr hSub]
  rw [← hSubset, Nat.even_iff]
  by_cases hMem : node ∈ whole
  · rw [StrictMajority, Finset.insert_eq_of_mem hMem, Finset.insert_eq_of_mem (hNode hMem)]
    simp only [hMem, true_and]
    omega
  · have hInter : insert node whole ∩ insert node half = insert node (whole ∩ half) :=
      (Finset.insert_inter_distrib whole half node).symm
    have hNot : node ∉ whole ∩ half := by
      intro hIn
      exact hMem (Finset.mem_inter.mp hIn).1
    rw [StrictMajority, hInter, Finset.card_insert_of_notMem hMem,
      Finset.card_insert_of_notMem hNot]
    simp only [hMem, false_and, not_false_eq_true, and_true]
    omega

end Quorum
