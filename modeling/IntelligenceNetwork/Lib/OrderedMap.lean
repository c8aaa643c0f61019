import Mathlib.Data.Finset.Card

/-
  Finite maps with ordered keys, and loops of insertions.

  Main declarations:
    * `insertAll`
    * `bound`
    * `insertUpTo`
-/

namespace OrderedMap

variable {κ ν α μ : Type} [Ord κ]

----
-- Insertions
----

section

/- The map that a loop of insertions builds. -/
def insertAll (key : α → κ) (value : α → ν) (map : Std.TreeMap κ ν)
    (items : List α) : Std.TreeMap κ ν :=
  items.foldl (fun map item => map.insert (key item) (value item)) map

variable [Std.TransOrd κ] [Std.LawfulEqOrd κ] [DecidableEq κ]

theorem getElem?_insert {map : Std.TreeMap κ ν} {k a : κ} {v : ν} :
    (map.insert k v)[a]? = if k = a then some v else map[a]? := by
  rw [Std.TreeMap.getElem?_insert]
  by_cases hEq : k = a
  · simp [hEq]
  · simp [hEq]

theorem getElem?_erase (map : Std.TreeMap κ ν) (k a : κ) :
    (map.erase k)[a]? = if k = a then none else map[a]? := by
  rw [Std.TreeMap.getElem?_erase]
  by_cases hEq : k = a
  · simp [hEq]
  · simp [hEq]

/- What is found after an insertion was inserted or was there. -/
theorem getElem?_of_insert {map : Std.TreeMap κ ν} {k a : κ} {v w : ν}
    (hGet : (map.insert k v)[a]? = some w) : (k = a ∧ v = w) ∨ map[a]? = some w := by
  rw [getElem?_insert] at hGet
  split_ifs at hGet with hKey
  · exact Or.inl ⟨hKey, Option.some.inj hGet⟩
  · exact Or.inr hGet

theorem getElem?_of_erase {map : Std.TreeMap κ ν} {k a : κ} {w : ν}
    (hGet : (map.erase k)[a]? = some w) : map[a]? = some w := by
  rw [getElem?_erase] at hGet
  split_ifs at hGet
  exact hGet

variable (key : α → κ) (value : α → ν) (map : Std.TreeMap κ ν) (items : List α)

/- What a loop leaves at a key is an item or was there. -/
theorem getElem?_insertAll {a : κ} {v : ν} (hGet : (insertAll key value map items)[a]? = some v) :
    (∃ item ∈ items, key item = a ∧ value item = v) ∨ map[a]? = some v := by
  induction items generalizing map with
  | nil => exact Or.inr hGet
  | cons item items ih =>
    rcases ih (map.insert (key item) (value item)) hGet with ⟨later, hMem, hLater⟩ | hHere
    · exact Or.inl ⟨later, List.mem_cons_of_mem item hMem, hLater⟩
    · exact (getElem?_of_insert hHere).imp_left (fun hItem => ⟨item, List.mem_cons_self, hItem⟩)

/- A loop never removes a key. -/
theorem exists_getElem?_insertAll {a : κ} (v : ν) (hGet : map[a]? = some v) :
    ∃ v', (insertAll key value map items)[a]? = some v' := by
  induction items generalizing map v with
  | nil => exact ⟨v, hGet⟩
  | cons item items ih =>
    by_cases hKey : key item = a
    · exact ih (map.insert (key item) (value item)) (value item) (by simp [hKey])
    · exact ih (map.insert (key item) (value item)) v (by simpa [getElem?_insert, hKey] using hGet)

theorem exists_getElem?_insertAll_of_mem {item : α} (hItem : item ∈ items) :
    ∃ v, (insertAll key value map items)[key item]? = some v := by
  induction items generalizing map with
  | nil => cases hItem
  | cons first items ih =>
    rcases List.mem_cons.mp hItem with rfl | hItem
    · exact exists_getElem?_insertAll key value _ items (value item) (by simp)
    · exact ih (map.insert (key first) (value first)) hItem

end

----
-- Values
----

theorem values_eq_map_snd (map : Std.TreeMap κ ν) : map.values = map.toList.map Prod.snd := by
  change map.inner.inner.values =
    (Std.DTreeMap.Internal.Impl.Const.toList map.inner.inner).map Prod.snd
  rw [Std.DTreeMap.Internal.Impl.values_eq_map_snd,
    Std.DTreeMap.Internal.Impl.Const.toList_eq_toListModel_map, List.map_map]
  rfl

/- The values of a map are what its keys lead to. -/
theorem mem_values_iff [Std.TransOrd κ] [Std.LawfulEqOrd κ] {map : Std.TreeMap κ ν} {v : ν} :
    v ∈ map.values ↔ ∃ k : κ, map[k]? = some v := by
  rw [values_eq_map_snd, List.mem_map]
  constructor
  · rintro ⟨⟨k, other⟩, hMem, rfl⟩
    exact ⟨k, Std.TreeMap.mem_toList_iff_getElem?_eq_some.mp hMem⟩
  · rintro ⟨k, hGet⟩
    exact ⟨(k, v), Std.TreeMap.mem_toList_iff_getElem?_eq_some.mpr hGet, rfl⟩

theorem size_eq_zero [Std.TransOrd κ] (map : Std.TreeMap κ ν) (hNone : ∀ a : κ, map[a]? = none) :
    map.size = 0 := by
  have hEmpty : map.isEmpty = true := by
    rw [Std.TreeMap.isEmpty_iff_forall_not_mem]
    intro a hMem
    rw [Std.TreeMap.mem_iff_isSome_getElem?, hNone a] at hMem
    cases hMem
  simpa [Std.TreeMap.isEmpty_eq_size_eq_zero] using hEmpty

theorem size_erase_lt [Std.TransOrd κ] {map : Std.TreeMap κ ν} {k : κ} {v : ν}
    (hGet : map[k]? = some v) : (map.erase k).size < map.size := by
  have hMem : k ∈ map := by
    rw [Std.TreeMap.mem_iff_isSome_getElem?, hGet]
    rfl
  have hSize : map.size ≠ 0 := by
    intro hZero
    have hEmpty : map.isEmpty = true := by
      simp [Std.TreeMap.isEmpty_eq_size_eq_zero, hZero]
    rw [Std.TreeMap.isEmpty_iff_forall_not_mem] at hEmpty
    exact hEmpty k hMem
  rw [Std.TreeMap.size_erase, if_pos (Std.TreeMap.mem_iff_contains.mp hMem)]
  omega

----
-- Bounded Maps
----

section

/- Drop the smallest keys of a map that is too large. -/
def boundLoop (maxEntries : Nat) : Nat → Std.TreeMap κ ν → Std.TreeMap κ ν
| 0, map => map
| fuel + 1, map =>
  if maxEntries ≤ map.size then
    match map.minKey? with
    | none => map
    | some key => boundLoop maxEntries fuel (map.erase key)
  else
    map

/- Make room for one more entry among `maxEntries`. -/
def bound (map : Std.TreeMap κ ν) (maxEntries : Nat) : Std.TreeMap κ ν :=
  boundLoop maxEntries map.size map

variable [Std.TransOrd κ] [Std.LawfulEqOrd κ] [DecidableEq κ]

theorem getElem?_boundLoop {maxEntries fuel : Nat} (map : Std.TreeMap κ ν) (a : κ) (v : ν)
    (hGet : (boundLoop maxEntries fuel map)[a]? = some v) : map[a]? = some v := by
  induction fuel generalizing map with
  | zero => exact hGet
  | succ fuel ih =>
    rw [boundLoop] at hGet
    split_ifs at hGet with hFull
    · split at hGet
      · exact hGet
      · exact getElem?_of_erase (ih _ hGet)
    · exact hGet

/- A bound only takes entries away. -/
theorem getElem?_bound {map : Std.TreeMap κ ν} {maxEntries : Nat} {a : κ} {v : ν}
    (hGet : (bound map maxEntries)[a]? = some v) : map[a]? = some v :=
  getElem?_boundLoop map a v hGet

omit [DecidableEq κ] in
/- A loop with enough fuel makes room. -/
theorem size_boundLoop_lt {maxEntries fuel : Nat} (map : Std.TreeMap κ ν) (hSome : 0 < maxEntries)
    (hFuel : map.size ≤ fuel) : (boundLoop maxEntries fuel map).size < maxEntries := by
  induction fuel generalizing map with
  | zero =>
    rw [boundLoop]
    omega
  | succ fuel ih =>
    rw [boundLoop]
    split_ifs with hFull
    · cases hMin : map.minKey? with
      | none =>
        have hEmpty := Std.TreeMap.minKey?_eq_none_iff.mp hMin
        rw [Std.TreeMap.isEmpty_eq_size_eq_zero, beq_iff_eq] at hEmpty
        omega
      | some key =>
        have hMem : key ∈ map := (Std.TreeMap.minKey?_eq_some_iff_mem_and_forall.mp hMin).1
        rw [Std.TreeMap.mem_iff_isSome_getElem?, Option.isSome_iff_exists] at hMem
        rcases hMem with ⟨value, hValue⟩
        have hLess := size_erase_lt hValue
        exact ih (map.erase key) (by omega)
    · omega

omit [DecidableEq κ] in
/- With room for one entry only, nothing else is kept. -/
theorem getElem?_bound_one {map : Std.TreeMap κ ν} {a : κ} : (bound map 1)[a]? = none := by
  have hSize : (bound map 1).size < 1 := size_boundLoop_lt map (by omega) (Nat.le_refl _)
  have hEmpty : (bound map 1).isEmpty = true := by
    rw [Std.TreeMap.isEmpty_eq_size_eq_zero, beq_iff_eq]
    omega
  exact Std.TreeMap.getElem?_of_isEmpty hEmpty

end

----
-- Sizes
----

section

variable [Std.TransOrd κ] [Std.LawfulEqOrd κ]

theorem nodup_keys (map : Std.TreeMap κ ν) : map.keys.Nodup := by
  refine List.Pairwise.imp ?_ Std.TreeMap.distinct_keys
  intro a b hCompare hEq
  subst hEq
  exact hCompare Std.ReflCmp.compare_self

/- A map with all the keys of another has its size. -/
theorem size_le_of_forall_mem {map : Std.TreeMap κ ν} (other : Std.TreeMap κ μ)
    (hMem : ∀ k : κ, k ∈ map → k ∈ other) : map.size ≤ other.size := by
  have hSubset : map.keys ⊆ other.keys := by
    intro k hKey
    rw [Std.TreeMap.mem_keys] at hKey ⊢
    exact hMem k hKey
  rw [← Std.TreeMap.length_keys, ← Std.TreeMap.length_keys]
  exact ((nodup_keys map).subperm hSubset).length_le

omit [Std.LawfulEqOrd κ] in
theorem size_insert_le_iff {map : Std.TreeMap κ ν} {k : κ} {v : ν} {limit : Nat}
    (hSize : map.size ≤ limit) : (map.insert k v).size ≤ limit ↔ k ∈ map ∨ map.size < limit := by
  rw [Std.TreeMap.size_insert]
  by_cases hMem : k ∈ map
  · simp [hMem, hSize]
  · rw [if_neg (by simpa using hMem), or_iff_right hMem]
    omega

end

----
-- What a Bound Keeps
----

section

variable [Std.TransOrd κ] [Std.LawfulEqOrd κ] [DecidableEq κ]

omit [Std.TransOrd κ] [Std.LawfulEqOrd κ] [DecidableEq κ] in
theorem bound_of_size_lt {map : Std.TreeMap κ ν} {maxEntries : Nat}
    (hRoom : map.size < maxEntries) : bound map maxEntries = map := by
  unfold bound
  cases map.size with
  | zero => rfl
  | succ fuel => rw [boundLoop, if_neg (by omega)]

/- The greatest key is the last to go. -/
theorem getElem?_boundLoop_greatest (maxEntries fuel : Nat) (map : Std.TreeMap κ ν) (greatest : κ)
    (v : ν) (hMore : 1 < maxEntries) (hGet : map[greatest]? = some v)
    (hGreatest : ∀ a ∈ map, (compare a greatest).isLE) :
    (boundLoop maxEntries fuel map)[greatest]? = some v := by
  induction fuel generalizing map with
  | zero => exact hGet
  | succ fuel ih =>
    rw [boundLoop]
    split_ifs with hFull
    · cases hMin : map.minKey? with
      | none => exact hGet
      | some least =>
        rcases Std.TreeMap.minKey?_eq_some_iff_mem_and_forall.mp hMin with ⟨-, hLeast⟩
        -- Were it the least key as well, it would be the only one.
        have hNe : greatest ≠ least := by
          rintro rfl
          have hOnly : map.keys ⊆ [greatest] := by
            intro a hKey
            rw [Std.TreeMap.mem_keys] at hKey
            have hBelow := hGreatest a hKey
            have hAbove := hLeast a hKey
            exact List.mem_singleton.mpr
              (Std.LawfulEqOrd.eq_of_compare (Std.OrientedCmp.isLE_antisymm hBelow hAbove))
          have hSize := (List.subperm_of_subset (nodup_keys map) hOnly).length_le
          rw [Std.TreeMap.length_keys, List.length_singleton] at hSize
          omega
        refine ih (map.erase least) ?_ ?_
        · rw [getElem?_erase, if_neg hNe.symm, hGet]
        · intro a hMem
          exact hGreatest a (Std.TreeMap.mem_of_mem_erase hMem)
    · exact hGet

end

----
-- Loops With a Limit
----

/-
  The map that a loop builds from the items worth keeping, up
  to a limit on its size.
-/
def insertUpTo (limit : Nat) (keep : ν → Bool) (key : ν → κ) (map : Std.TreeMap κ ν)
    (items : List ν) : Std.TreeMap κ ν :=
  items.foldl (fun map item =>
    if keep item && map.size < limit then map.insert (key item) item else map)
    map

variable [Std.TransOrd κ] [Std.LawfulEqOrd κ] [DecidableEq κ]
variable (limit : Nat) (keep : ν → Bool) (key : ν → κ)

omit [Std.LawfulEqOrd κ] [DecidableEq κ] in
theorem size_insertUpTo_le (map : Std.TreeMap κ ν) (items : List ν) (hSize : map.size ≤ limit) :
    (insertUpTo limit keep key map items).size ≤ limit := by
  induction items generalizing map with
  | nil => exact hSize
  | cons item items ih =>
    rw [insertUpTo, List.foldl_cons]
    apply ih
    split_ifs with hRoom
    · rw [Bool.and_eq_true, decide_eq_true_eq] at hRoom
      exact (size_insert_le_iff hSize).mpr (Or.inr hRoom.2)
    · exact hSize

/- Items with other keys leave an entry alone. -/
theorem getElem?_insertUpTo_of_forall_ne (map : Std.TreeMap κ ν) {items : List ν} {k : κ}
    (hNe : ∀ item ∈ items, key item ≠ k) : (insertUpTo limit keep key map items)[k]? = map[k]? := by
  induction items generalizing map with
  | nil => rfl
  | cons item items ih =>
    have hItem := hNe item List.mem_cons_self
    rw [insertUpTo, List.foldl_cons]
    refine (ih _ (fun other hOther =>
      hNe other (List.mem_cons_of_mem item hOther))).trans ?_
    split_ifs
    · rw [getElem?_insert, if_neg hItem]
    · rfl

/- While there is room for all of them, every item is kept. -/
theorem getElem?_insertUpTo_of_mem (map : Std.TreeMap κ ν) (items : List ν)
    (hKeep : ∀ item ∈ items, keep item = true) (hKeys : (items.map key).Nodup)
    (hRoom : map.size + items.length ≤ limit) (item : ν) (hItem : item ∈ items) :
    (insertUpTo limit keep key map items)[key item]? = some item := by
  induction items generalizing map with
  | nil => cases hItem
  | cons first items ih =>
    rw [List.map_cons, List.nodup_cons] at hKeys
    rw [List.length_cons] at hRoom
    have hTaken : (keep first && decide (map.size < limit)) = true := by
      have hLimit : map.size < limit := by omega
      simp [hKeep first List.mem_cons_self, hLimit]
    rw [insertUpTo, List.foldl_cons, if_pos hTaken]
    have hSize : (map.insert (key first) first).size ≤ map.size + 1 := Std.TreeMap.size_insert_le
    rcases List.mem_cons.mp hItem with rfl | hLater
    · refine (getElem?_insertUpTo_of_forall_ne limit keep key _ ?_).trans ?_
      · intro other hOther hEq
        exact hKeys.1 (hEq ▸ List.mem_map_of_mem hOther)
      · rw [getElem?_insert, if_pos rfl]
    · exact ih (map.insert (key first) first) (fun other hOther =>
        hKeep other (List.mem_cons_of_mem first hOther))
        hKeys.2 (by omega) hLater

end OrderedMap
