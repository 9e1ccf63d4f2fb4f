import Mathlib
import DockSubstrate.Util.Action
import DockSubstrate.Lib.SortedMap
import DockSubstrate.Lib.KMerge
import DockSubstrate.Lib.KMergeOrder

/-!
# Rules over sets of items

The rest of `util/set.rs`: `MaybeDoubleSet`, the intersection and the union of two sets
either of which may be absent, and `InclusionRule::apply_rule`, which turns the items of a
rule into the set of what they map to.  For `AnyOf`, that is everything any item maps to.
For `All`, the iterators of the items are merged with `kmerge`, each first deduplicated, and
a value is kept when its run in the merge is as long as the rule has items: a value every
item maps to, provided that equal values of different items meet in the merge, which the
source asks for by requiring every iterator to be ascending.

Whatever the order of the iterators, `apply_rule` keeps only values the rule allows
(`applyRule_satisfiedBy`) when no iterator repeats a value: the merge holds each value as often
as the iterators do, and a run as long as the rule has items then needs every item.  When the
iterators ascend, as the source asks, it keeps exactly what the rule selects
(`mem_applyRule`): the merge then ascends too, and a value every item maps to has one run,
as long as the rule has items.  Iterators that repeat values do as well, since each is
deduplicated first: `AnyOf` is then the union of what the items map to, and `All` over some
items the intersection (`applyRule_anyOf_eq_biUnion`, `applyRule_all_eq_inf'`).
-/

namespace DockSubstrate.Util

open DockSubstrate.Lib

/-- `MaybeDoubleSet`: two sets, each maybe absent. -/
structure MaybeDoubleSet (V : Type) where
  first : Option (Finset V)
  second : Option (Finset V)

namespace MaybeDoubleSet

variable {V : Type}

/-- What an optional set lets through: an absent set lets every value through. -/
def Admits (set : Option (Finset V)) (value : V) : Prop :=
  ∀ members, set = some members → value ∈ members

@[simp]
theorem admits_none (value : V) : Admits none value := fun _ absent => nomatch absent

@[simp]
theorem admits_some {members : Finset V} {value : V} : Admits (some members) value ↔ value ∈ members :=
  ⟨fun admits => admits members rfl, fun member _ same => Option.some.inj same ▸ member⟩

theorem admits_of_mem_getD {set : Option (Finset V)} {value : V} (member : value ∈ set.getD ∅) :
    Admits set value := by
  cases set with
  | none => simp at member
  | some members => exact admits_some.mpr member

theorem mem_getD {set : Option (Finset V)} {value : V} : value ∈ set.getD ∅ ↔ set.isSome ∧ Admits set value := by
  cases set with
  | none => simp
  | some members => simp

@[simp]
theorem admits_map {W : Type} {set : Option W} {members : W → Finset V} {value : V} :
    Admits (set.map members) value ↔ ∀ item, set = some item → value ∈ members item := by
  cases set with
  | none => simp
  | some item => simp

variable [DecidableEq V]

/-- `MaybeDoubleSet::intersection`: an absent set does not restrict. -/
def intersection : MaybeDoubleSet V → Option (Finset V)
  | ⟨some first, some second⟩ => some (first ∩ second)
  | ⟨some first, none⟩ => some first
  | ⟨none, some second⟩ => some second
  | ⟨none, none⟩ => none

/-- `MaybeDoubleSet::union`. -/
def union : MaybeDoubleSet V → Option (Finset V)
  | ⟨some first, some second⟩ => some (first ∪ second)
  | ⟨some first, none⟩ => some first
  | ⟨none, some second⟩ => some second
  | ⟨none, none⟩ => none

@[simp]
theorem isSome_intersection {set : MaybeDoubleSet V} :
    set.intersection.isSome = (set.first.isSome || set.second.isSome) := by
  obtain ⟨first, second⟩ := set
  cases first <;> cases second <;> rfl

/-- The intersection lets through what both sets let through. -/
@[simp]
theorem admits_intersection {set : MaybeDoubleSet V} {value : V} :
    Admits set.intersection value ↔ Admits set.first value ∧ Admits set.second value := by
  obtain ⟨first, second⟩ := set
  cases first <;> cases second <;> simp [intersection]

@[simp]
theorem intersection_eq_none {set : MaybeDoubleSet V} :
    set.intersection = none ↔ set.first = none ∧ set.second = none := by
  obtain ⟨first, second⟩ := set
  cases first <;> cases second <;> simp [intersection]

@[simp]
theorem isSome_union {set : MaybeDoubleSet V} :
    set.union.isSome = (set.first.isSome || set.second.isSome) := by
  obtain ⟨first, second⟩ := set
  cases first <;> cases second <;> rfl

/-- The union of two absent sets lets every value through; otherwise an absent set holds
nothing, and the union holds what one of the sets holds. -/
theorem admits_union {set : MaybeDoubleSet V} {value : V} :
    Admits set.union value ↔
      (set.first = none ∧ set.second = none) ∨ value ∈ set.first.getD ∅ ∨ value ∈ set.second.getD ∅ := by
  obtain ⟨first, second⟩ := set
  cases first <;> cases second <;> simp [union]

end MaybeDoubleSet

namespace InclusionRule

/-- What a rule asks of its items: that one of them holds, or all. -/
def SatisfiedBy {V : Type} (rule : InclusionRule V) (holds : V → Prop) : Prop :=
  match rule with
  | .anyOf items => ∃ item ∈ items, holds item
  | .all items => ∀ item ∈ items, holds item

theorem SatisfiedBy.imp {V : Type} {rule : InclusionRule V} {holds implied : V → Prop}
    (implies : ∀ item, holds item → implied item) (satisfied : rule.SatisfiedBy holds) :
    rule.SatisfiedBy implied := by
  cases rule with
  | anyOf items =>
      obtain ⟨item, member, held⟩ := satisfied
      exact ⟨item, member, implies item held⟩
  | all items => exact fun item member => implies item (satisfied item member)

variable {V W : Type} [LinearOrder V] [LinearOrder W]

/-- `InclusionRule::apply_rule`, each iterator of `f` a list, the items taken in ascending
order as a `BTreeSet` yields them. -/
def applyRule (rule : InclusionRule V) (f : V → List W) : Finset W :=
  match rule with
  | .anyOf items => ((ascending items).flatMap f).toFinset
  | .all items =>
      ((dedupWithCount (KMerge.kmerge ((ascending items).map fun item => dedup (f item)))).filterMap
        fun run => if run.1 = items.card then some run.2 else none).toFinset

theorem length_ascending (items : Finset V) : (ascending items).length = items.card := by
  rcases items with ⟨⟨elements⟩, nodup⟩
  exact List.length_insertionSort _ elements

/-- A value that `apply_rule` keeps is one the rule allows, when no iterator repeats a value:
under `All` its run in the merge is as long as the rule has items, and each item's iterator
holds it once at most. -/
theorem applyRule_satisfiedBy {rule : InclusionRule V} {f : V → List W} (nodup : ∀ item, (f item).Nodup)
    {value : W} (kept : value ∈ rule.applyRule f) : rule.SatisfiedBy fun item => value ∈ f item := by
  cases rule with
  | anyOf items =>
      simp only [applyRule, List.mem_toFinset, List.mem_flatMap, mem_ascending] at kept
      exact kept
  | all items =>
      simp only [applyRule, List.mem_toFinset, List.mem_filterMap] at kept
      obtain ⟨run, mem, chosen⟩ := kept
      split_ifs at chosen with long
      cases chosen
      have counted := le_count_of_mem_dedupWithCount mem
      rw [long, (KMerge.perm_kmerge _).count_eq, List.count_flatten, List.map_map] at counted
      intro item member
      by_contra missing
      -- every item's iterator holds the value once at most, and this one not at all
      have atMostOnce : ∀ other ∈ ascending items, (List.count run.2 ∘ fun item => dedup (f item)) other ≤ 1 :=
        fun other _ => by simpa [dedup_of_nodup (nodup other)] using List.nodup_iff_count_le_one.mp (nodup other) run.2
      have fewer := List.sum_lt_sum _ (fun _ => 1) atMostOnce
        ⟨item, mem_ascending.mpr member, by simp [dedup_of_nodup (nodup item), List.count_eq_zero.mpr missing]⟩
      simp only [List.map_const', List.sum_replicate, Nat.nsmul_eq_mul, Nat.mul_one, length_ascending] at fewer
      omega

/-- What `apply_rule` keeps of ascending iterators: a value that one item maps to, or that
every item of at least one maps to. -/
def Selects (rule : InclusionRule V) (holds : V → Prop) : Prop :=
  match rule with
  | .anyOf items => ∃ item ∈ items, holds item
  | .all items => items.Nonempty ∧ ∀ item ∈ items, holds item

theorem mem_applyRule_anyOf {items : Finset V} {f : V → List W} {value : W} :
    value ∈ applyRule (.anyOf items) f ↔ ∃ item ∈ items, value ∈ f item := by
  simp only [applyRule, List.mem_toFinset, List.mem_flatMap, mem_ascending]

/-- Under `All`, a value every item's ascending iterator holds has a run in the merge as long
as the rule has items: the merge is ascending, and holds the value once for each item. -/
theorem mem_applyRule_all {items : Finset V} {f : V → List W} (sorted : ∀ item, (f item).Pairwise (· < ·))
    {value : W} : value ∈ applyRule (.all items) f ↔ items.Nonempty ∧ ∀ item ∈ items, value ∈ f item := by
  have nodup : ∀ item, (f item).Nodup := fun item => (sorted item).nodup
  constructor
  · intro kept
    refine ⟨?_, applyRule_satisfiedBy nodup kept⟩
    -- nothing is kept of a rule without items
    rw [Finset.nonempty_iff_ne_empty]
    rintro rfl
    have none : ascending (∅ : Finset V) = [] := List.eq_nil_of_length_eq_zero (length_ascending ∅)
    have empty : applyRule (.all (∅ : Finset V)) f = ∅ := by
      simp [applyRule, none, KMerge.kmerge, KMerge.heapify, KMerge.size, KMerge.drain, dedupWithCount]
    exact Finset.notMem_empty _ (empty ▸ kept)
  · rintro ⟨nonempty, everywhere⟩
    have same : ((ascending items).map fun item => dedup (f item)) = (ascending items).map f :=
      List.map_congr_left fun item _ => dedup_of_nodup (nodup item)
    have merged : (KMerge.kmerge ((ascending items).map f)).Pairwise (· ≤ ·) := by
      refine KMerge.pairwise_kmerge fun iterator member => ?_
      obtain ⟨item, -, rfl⟩ := List.mem_map.mp member
      exact (sorted item).imp le_of_lt
    have counted : (KMerge.kmerge ((ascending items).map f)).count value = items.card := by
      have once : ∀ item ∈ ascending items, (List.count value ∘ f) item = 1 := fun item member =>
        List.count_eq_one_of_mem (nodup item) (everywhere item (mem_ascending.mp member))
      rw [(KMerge.perm_kmerge _).count_eq, List.count_flatten, List.map_map, List.map_congr_left once,
        List.map_const', List.sum_replicate, length_ascending, Nat.nsmul_eq_mul, Nat.mul_one]
    have present : value ∈ KMerge.kmerge ((ascending items).map f) :=
      List.count_pos_iff.mp (counted ▸ nonempty.card_pos)
    have run := mem_dedupWithCount_of_mem merged present
    rw [counted] at run
    simp only [applyRule, same, List.mem_toFinset, List.mem_filterMap]
    exact ⟨_, run, if_pos rfl⟩

/-- Over ascending iterators, `apply_rule` keeps exactly what the rule selects. -/
theorem mem_applyRule {rule : InclusionRule V} {f : V → List W} (sorted : ∀ item, (f item).Pairwise (· < ·))
    {value : W} : value ∈ rule.applyRule f ↔ rule.Selects fun item => value ∈ f item := by
  cases rule with
  | anyOf items => exact mem_applyRule_anyOf
  | all items => exact mem_applyRule_all sorted

/-- `All` reads each item's iterator only through its `dedup`. -/
theorem applyRule_all_congr {items : Finset V} {f g : V → List W}
    (same : ∀ item ∈ items, dedup (f item) = dedup (g item)) : applyRule (.all items) f = applyRule (.all items) g := by
  have merged : ((ascending items).map fun item => dedup (f item)) = (ascending items).map fun item => dedup (g item) :=
    List.map_congr_left fun item member => same item (mem_ascending.mp member)
  simp only [applyRule, merged]

/-- Under `All`, iterators that only ascend, with repeated values, are as good as strictly
ascending ones: `apply_rule` deduplicates each first. -/
theorem mem_applyRule_all_of_monotone {items : Finset V} {f : V → List W}
    (sorted : ∀ item ∈ items, (f item).Pairwise (· ≤ ·)) {value : W} :
    value ∈ applyRule (.all items) f ↔ items.Nonempty ∧ ∀ item ∈ items, value ∈ f item := by
  -- the deduplicated iterators of the items, and nothing for any other value
  let strict : V → List W := fun item => if item ∈ items then dedup (f item) else []
  have strictSorted : ∀ item, (strict item).Pairwise (· < ·) := by
    intro item
    by_cases member : item ∈ items
    · simpa [strict, member] using pairwise_dedup (sorted item member)
    · simp [strict, member]
  have same : applyRule (.all items) f = applyRule (.all items) strict := by
    refine applyRule_all_congr fun item member => ?_
    simp only [strict, member, if_true]
    exact (dedup_of_nodup (pairwise_dedup (sorted item member)).nodup).symm
  rw [same, mem_applyRule_all strictSorted]
  refine and_congr_right fun _ => forall₂_congr fun item member => ?_
  simp [strict, member]

theorem applyRule_anyOf_eq_biUnion (items : Finset V) (f : V → List W) :
    applyRule (.anyOf items) f = items.biUnion fun item => (f item).toFinset := by
  ext value
  simp [mem_applyRule_anyOf]

theorem applyRule_all_eq_inf' {items : Finset V} (nonempty : items.Nonempty) {f : V → List W}
    (sorted : ∀ item ∈ items, (f item).Pairwise (· ≤ ·)) :
    applyRule (.all items) f = items.inf' nonempty fun item => (f item).toFinset := by
  ext value
  rw [mem_applyRule_all_of_monotone sorted, ← Finset.singleton_subset_iff,
    Finset.le_inf'_iff]
  simp [nonempty]

theorem ascending_pair {first second : V} (less : first < second) :
    ascending ({first, second} : Finset V) = [first, second] :=
  ascending_eq (by simpa using less) (by simp)

/-- An `All` rule over two items whose iterators both yield the greater value first keeps
nothing: in the merge, no value has a run as long as the rule has items. -/
theorem applyRule_all_descending {first second : V} {lower higher : W} (items : first < second)
    (values : lower < higher) {f : V → List W} (firstValues : f first = [higher, lower])
    (secondValues : f second = [higher, lower]) :
    applyRule (.all {first, second}) f = ∅ := by
  have card : ({first, second} : Finset V).card = 2 := Finset.card_pair items.ne
  simp [applyRule, ascending_pair items, firstValues, secondValues, card, dedup, dedupWithCount, values.ne',
    values.ne, KMerge.kmerge_descending_twice values]

end InclusionRule

end DockSubstrate.Util
