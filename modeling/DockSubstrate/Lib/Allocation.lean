import Mathlib
import DockSubstrate.Lib.LimitedClear

/-!
# Identifiers handed out by a counter

A store keeps its entries under identifiers that a counter hands out one after the
other, `1, 2, …`; the counter holds the last identifier given.  `IdsBelow entries counter`
says every entry is under an identifier from `1` to `counter`.  The identifier after the
counter is then free (`next_free`), so storing there overwrites nothing and keeps the
property for the moved counter (`store_next`), and removing entries keeps it too.

The identifiers in use are then no more than the counter (`encard_held_le`), and those
whose entry has a property (`idsWith`) finitely many, at most the counter, and `ncard_store_next` and `ncard_idsWith_eraseIds` say how their number moves
when an entry is stored under the next identifier or a set of entries is removed: this
is what a counter of such entries has to follow.
-/

namespace DockSubstrate.Lib

variable {V : Type}

/-- Every entry is under an identifier from `1` to `counter`. -/
def IdsBelow (entries : Nat → Option V) (counter : Nat) : Prop :=
  ∀ id value, entries id = some value → 1 ≤ id ∧ id ≤ counter

/-- The identifiers whose entry has the property. -/
def idsWith (entries : Nat → Option V) (p : V → Bool) : Set Nat :=
  {id | (entries id).any p}

/-- The entries once those under a set of identifiers are removed. -/
def eraseIds (entries : Nat → Option V) (removed : Finset Nat) : Nat → Option V :=
  fun id => if id ∈ removed then none else entries id

theorem idsWith_eraseIds (entries : Nat → Option V) (removed : Finset Nat) (p : V → Bool) :
    idsWith (eraseIds entries removed) p = idsWith entries p \ ↑removed := by
  ext id
  by_cases gone : id ∈ removed <;> simp [idsWith, eraseIds, gone]

namespace IdsBelow

variable {entries : Nat → Option V} {counter : Nat}

theorem of_none (counter : Nat) : IdsBelow (fun _ => (none : Option V)) counter := by
  intro id value stored
  cases stored

/-- The identifier after the counter holds nothing. -/
theorem next_free (below : IdsBelow entries counter) : entries (counter + 1) = none := by
  cases stored : entries (counter + 1) with
  | none => rfl
  | some value =>
      have bound := (below _ value stored).2
      omega

theorem mono (below : IdsBelow entries counter) {bound : Nat} (le : counter ≤ bound) : IdsBelow entries bound :=
  fun id value stored => ⟨(below id value stored).1, (below id value stored).2.trans le⟩

/-- Storing under the next identifier moves the counter to it. -/
theorem store_next (below : IdsBelow entries counter) (value : V) :
    IdsBelow (Function.update entries (counter + 1) (some value)) (counter + 1) := by
  intro id stored found
  by_cases next : id = counter + 1
  · exact ⟨by omega, next.le⟩
  · rw [Function.update_of_ne next] at found
    exact below.mono (Nat.le_succ counter) id stored found

/-- Storing under the next identifier keeps every entry. -/
theorem store_next_keeps (below : IdsBelow entries counter) (value : V) {id : Nat} {stored : V}
    (found : entries id = some stored) : Function.update entries (counter + 1) (some value) id = some stored := by
  have differs : id ≠ counter + 1 := by
    have bound := (below id stored found).2
    omega
  rw [Function.update_of_ne differs, found]

/-- Removing entries keeps the bound. -/
theorem eraseIds (below : IdsBelow entries counter) (removed : Finset Nat) :
    IdsBelow (Lib.eraseIds entries removed) counter := by
  intro id value found
  by_cases gone : id ∈ removed
  · simp [Lib.eraseIds, gone] at found
  · simp only [Lib.eraseIds, gone, if_false] at found
    exact below id value found

/-- Removing one entry keeps the bound. -/
theorem erase (below : IdsBelow entries counter) (removed : Nat) :
    IdsBelow (Function.update entries removed none) counter := by
  intro id value found
  by_cases gone : id = removed
  · simp [gone] at found
  · rw [Function.update_of_ne gone] at found
    exact below id value found

theorem idsWith_subset (below : IdsBelow entries counter) (p : V → Bool) : idsWith entries p ⊆ Set.Icc 1 counter := by
  intro id has
  obtain ⟨value, found, -⟩ := (Option.any_eq_true p _).mp has
  exact below id value found

/-- The identifiers in use are among `1, …, counter`. -/
theorem encard_held_le (below : IdsBelow entries counter) : (held none entries).encard ≤ counter := by
  have within : held none entries ⊆ (Finset.Icc 1 counter : Set Nat) := by
    intro id stored
    obtain ⟨value, found⟩ := Option.ne_none_iff_exists'.mp stored
    exact Finset.mem_coe.mpr (Finset.mem_Icc.mpr (below id value found))
  calc (held none entries).encard ≤ (Finset.Icc 1 counter).card := encard_held_le_of_subset within
    _ = counter := by rw [Nat.card_Icc, Nat.add_sub_cancel]

theorem finite (below : IdsBelow entries counter) (p : V → Bool) : (idsWith entries p).Finite :=
  (Set.finite_Icc 1 counter).subset (below.idsWith_subset p)

/-- At most `counter` entries have the property. -/
theorem ncard_le (below : IdsBelow entries counter) (p : V → Bool) : (idsWith entries p).ncard ≤ counter :=
  calc (idsWith entries p).ncard
      _ ≤ (Set.Icc 1 counter).ncard := Set.ncard_le_ncard (below.idsWith_subset p) (Set.finite_Icc 1 counter)
      _ = counter := by rw [Set.ncard_Icc_nat, Nat.add_sub_cancel]

theorem idsWith_store_next (below : IdsBelow entries counter) (p : V → Bool) (value : V) :
    idsWith (Function.update entries (counter + 1) (some value)) p =
      if p value then insert (counter + 1) (idsWith entries p) else idsWith entries p := by
  ext id
  by_cases next : id = counter + 1
  · subst next
    cases has : p value <;> simp [idsWith, has, below.next_free]
  · cases p value <;> simp [idsWith, next]

/-- Storing under the next identifier adds one to the entries with the property if the
stored value has it. -/
theorem ncard_store_next (below : IdsBelow entries counter) (p : V → Bool) (value : V) :
    (idsWith (Function.update entries (counter + 1) (some value)) p).ncard =
      (idsWith entries p).ncard + if p value then 1 else 0 := by
  rw [below.idsWith_store_next p value]
  cases p value
  · rfl
  · have fresh : counter + 1 ∉ idsWith entries p := by
      simp [idsWith, below.next_free]
    exact Set.ncard_insert_of_notMem fresh (below.finite p)

end IdsBelow

/-- Removing a set of entries takes off those of them with the property. -/
theorem ncard_idsWith_eraseIds {entries : Nat → Option V} {counter : Nat} (below : IdsBelow entries counter)
    (removed : Finset Nat) (p : V → Bool) :
    (idsWith (eraseIds entries removed) p).ncard =
      (idsWith entries p).ncard - (idsWith entries p ∩ ↑removed).ncard := by
  rw [idsWith_eraseIds, ← Set.sdiff_inter_self_eq_sdiff, Set.inter_comm,
    Set.ncard_sdiff Set.inter_subset_left ((below.finite p).subset Set.inter_subset_left)]

end DockSubstrate.Lib
