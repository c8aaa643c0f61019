import Mathlib.Data.List.Nodup

/-
  Lists that are searched by a key of their items.

  An item that comes in takes the place of the first one with
  its key, if it is newer.

  Main declarations:
    * `refresh`
    * `refresh_cases`
-/

----
-- Refreshing an Item
----

namespace KeyedList

variable {α κ : Type} [DecidableEq κ] (key : α → κ) (newer : α → α → Bool)

/-
  The list after the item has met the one with its key, and
  whether it took its place.
-/
def refresh (item : α) : List α → Option (List α × Bool)
| [] => none
| existing :: items =>
  if key existing = key item then
    if newer existing item then
      some (item :: items, true)
    else
      some (existing :: items, false)
  else
    (refresh item items).map (fun result => (existing :: result.1, result.2))

variable {key newer}

variable {item : α} {items after : List α} {changed : Bool}

theorem refresh_eq_none_iff :
    refresh key newer item items = none ↔ ∀ existing ∈ items, key existing ≠ key item := by
  induction items with
  | nil => simp [refresh]
  | cons existing items ih =>
    rw [refresh]
    by_cases hKey : key existing = key item
    · by_cases hNewer : newer existing item = true
      · simp [hNewer, hKey]
      · simp [hNewer, hKey]
    · rw [if_neg hKey, Option.map_eq_none_iff, ih]
      simp [hKey]

variable (hRefresh : refresh key newer item items = some (after, changed))

include hRefresh

/- The one place in which an item can be refreshed. -/
theorem refresh_cases :
    ∃ before existing rest, items = before ++ existing :: rest ∧ key existing = key item ∧
      (∀ other ∈ before, key other ≠ key item) ∧ changed = newer existing item ∧
      after = before ++ (if newer existing item then item else existing) :: rest := by
  induction items generalizing after with
  | nil => simp [refresh] at hRefresh
  | cons first items ih =>
    rw [refresh] at hRefresh
    by_cases hKey : key first = key item
    · rw [if_pos hKey] at hRefresh
      refine ⟨[], first, items, rfl, hKey, by simp, ?_⟩
      by_cases hNewer : newer first item = true
      · rw [if_pos hNewer, Option.some.injEq, Prod.mk.injEq] at hRefresh
        rcases hRefresh with ⟨rfl, rfl⟩
        simp [hNewer]
      · rw [if_neg hNewer, Option.some.injEq, Prod.mk.injEq] at hRefresh
        rcases hRefresh with ⟨rfl, rfl⟩
        simp [hNewer]
    · rw [if_neg hKey, Option.map_eq_some_iff] at hRefresh
      rcases hRefresh with ⟨⟨later, moved⟩, hLater, hEq⟩
      cases hEq
      rcases ih hLater with ⟨before, existing, rest, rfl, hSame, hBefore, hChanged, rfl⟩
      refine ⟨first :: before, existing, rest, rfl, hSame, ?_, hChanged, rfl⟩
      intro other hOther
      rcases List.mem_cons.mp hOther with rfl | hOther
      · exact hKey
      · exact hBefore other hOther

/- Refreshing leaves every key where it is. -/
theorem map_key_refresh : after.map key = items.map key := by
  rcases refresh_cases hRefresh with ⟨before, existing, rest, rfl, hKey, -, -, rfl⟩
  by_cases hNewer : newer existing item = true
  · simp [hNewer, hKey]
  · simp [hNewer]

theorem length_refresh : after.length = items.length := by
  have hKeys := congrArg List.length (map_key_refresh hRefresh)
  simpa using hKeys

omit [DecidableEq κ] hRefresh in
/- An item with a new key may be put at the end. -/
theorem nodup_append_fresh (hNodup : (items.map key).Nodup)
    (hFresh : ∀ existing ∈ items, key existing ≠ key item) : ((items ++ [item]).map key).Nodup := by
  rw [List.map_append, List.map_singleton]
  refine hNodup.append (List.nodup_singleton _) ?_
  rw [List.disjoint_singleton]
  intro hMem
  rcases List.mem_map.mp hMem with ⟨existing, hExisting, hSame⟩
  exact hFresh existing hExisting hSame

end KeyedList
