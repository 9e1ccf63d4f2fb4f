import Mathlib

/-!
# Counting the members of a changed set

A counter that is kept in step with the size of a set is changed by adding, for every
element whose membership changed, `1` if it joined and `-1` if it left.
`ncard_eq_add_sum_of_eqOn` says this is right: a finite set changed only at the
elements of a list has, as its new size, the old size plus the sum over the list of the
membership each element gained or lost.
-/

namespace DockSubstrate.Lib

variable {α : Type}

/-- Summing, over a list without duplicates, a value at one element and zero elsewhere
gives the value if the element is listed. -/
theorem sum_map_ite_eq_of_nodup {M : Type} [AddMonoid M] [DecidableEq α] {l : List α} (distinct : l.Nodup)
    (a : α) (value : M) : (l.map fun x => if x = a then value else 0).sum = if a ∈ l then value else 0 := by
  induction l with
  | nil => simp
  | cons x rest ih =>
      obtain ⟨fresh, distinctRest⟩ := List.nodup_cons.mp distinct
      rw [List.map_cons, List.sum_cons, ih distinctRest]
      by_cases same : x = a
      · subst same
        simp [fresh]
      · simp [same, Ne.symm same]

open Classical

/-- `1` for a member of the set, `0` otherwise. -/
noncomputable def memIndicator (set : Set α) (x : α) : ℤ :=
  if x ∈ set then 1 else 0

/-- Changing a finite set at one element, to its membership in `after`, changes its size
by what that element gained or lost. -/
theorem ncard_update_eq {before : Set α} (finiteBefore : before.Finite) (after : Set α) (y : α) :
    ({x | if x = y then x ∈ after else x ∈ before}.ncard : ℤ) =
      before.ncard + (memIndicator after y - memIndicator before y) := by
  by_cases inAfter : y ∈ after <;> by_cases inBefore : y ∈ before
  · have same : {x | if x = y then x ∈ after else x ∈ before} = before := by
      ext x
      by_cases hx : x = y
      · subst hx
        simp [inAfter, inBefore]
      · simp [hx]
    rw [same]
    simp [memIndicator, inAfter, inBefore]
  · have added : {x | if x = y then x ∈ after else x ∈ before} = insert y before := by
      ext x
      by_cases hx : x = y
      · subst hx
        simp [inAfter]
      · simp [hx]
    rw [added, Set.ncard_insert_of_notMem inBefore finiteBefore]
    simp [memIndicator, inAfter, inBefore]
  · have removed : {x | if x = y then x ∈ after else x ∈ before} = before \ {y} := by
      ext x
      by_cases hx : x = y
      · subst hx
        simp [inAfter]
      · simp [hx]
    have size := Set.ncard_sdiff_singleton_add_one inBefore finiteBefore
    rw [removed]
    simp only [memIndicator, if_neg inAfter, if_pos inBefore]
    omega
  · have same : {x | if x = y then x ∈ after else x ∈ before} = before := by
      ext x
      by_cases hx : x = y
      · subst hx
        simp [inAfter, inBefore]
      · simp [hx]
    rw [same]
    simp [memIndicator, inAfter, inBefore]

/-- A finite set changed only at the elements of a duplicate-free list: its new size is
the old one plus the membership each listed element gained or lost. -/
theorem ncard_eq_add_sum_of_eqOn {before after : Set α} (finiteBefore : before.Finite)
    {changed : List α} (distinct : changed.Nodup) (same : ∀ x ∉ changed, x ∈ after ↔ x ∈ before) :
    (after.ncard : ℤ) =
      before.ncard + (changed.map fun x => memIndicator after x - memIndicator before x).sum := by
  induction changed generalizing before with
  | nil =>
      have unchanged : after = before := Set.ext fun x => same x List.not_mem_nil
      simp [unchanged]
  | cons y rest ih =>
      obtain ⟨fresh, distinctRest⟩ := List.nodup_cons.mp distinct
      -- `middle` has changed at `y` already and at the rest of the list not yet
      let middle : Set α := {x | if x = y then x ∈ after else x ∈ before}
      have finiteMiddle : middle.Finite := (finiteBefore.insert y).subset fun x mem => by
        by_cases hx : x = y
        · exact Or.inl hx
        · exact Or.inr (by simpa [middle, hx] using mem)
      have sameRest : ∀ x ∉ rest, x ∈ after ↔ x ∈ middle := by
        intro x notRest
        by_cases hx : x = y
        · simp [middle, hx]
        · simpa [middle, hx] using same x (by simp [hx, notRest])
      have middleSize := ncard_update_eq finiteBefore after y
      have restTerms : (rest.map fun x => memIndicator after x - memIndicator middle x) =
          rest.map fun x => memIndicator after x - memIndicator before x := by
        refine List.map_congr_left fun x mem => ?_
        have hx : x ≠ y := fun hxy => fresh (hxy ▸ mem)
        simp [memIndicator, middle, hx]
      rw [ih finiteMiddle distinctRest sameRest, restTerms, middleSize, List.map_cons, List.sum_cons]
      omega

end DockSubstrate.Lib
