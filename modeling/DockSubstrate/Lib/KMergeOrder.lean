import DockSubstrate.Lib.KMerge

/-!
# The merge of ascending iterators

What the source of `kmerge` asks for, and `InclusionRule::apply_rule` relies on: when every
iterator is ascending, so is the merge.  The heap is ordered when every entry's head is at
most its children's, the children of the entry at `pos` being at `2 * pos + 1` and
`2 * pos + 2`.  `sift_down` restores the order from a heap ordered but at one entry
(`DownOrder`, as for the sifts of a priority queue): each exchange moves the hole down to the
lesser child, and the sift stops where no child is less.  `heapify` sifts every entry with
children from the last, each sift extending the order by one entry, and each step of the
merge changes the root only.  The root of an ordered heap of ascending iterators holds the
least item left, so the merge yields its items in ascending order (`pairwise_kmerge`).

In an ascending list equal items are neighbours, so each run of `dedup_with_count` holds every
occurrence of its item (`mem_dedupWithCount_of_mem`), and `dedup` leaves the list strictly
ascending (`pairwise_dedup`).
-/

namespace DockSubstrate.Lib

namespace KMerge

variable {α : Type}

/-- `child` is one of the two children of `parent` in the heap's array. -/
def IsChild (child parent : Nat) : Prop := child = 2 * parent + 1 ∨ child = 2 * parent + 2

theorem IsChild.lt {child parent : Nat} (isChild : IsChild child parent) : parent < child := by
  unfold IsChild at isChild
  omega

theorem IsChild.unique {child parent other : Nat} (isChild : IsChild child parent) (also : IsChild child other) :
    parent = other := by
  unfold IsChild at isChild also
  omega

theorem getElem?_swap (heap : List (HeadTail α)) {i j : Nat} (hi : i < heap.length) (hj : j < heap.length)
    (k : Nat) :
    (swap heap i j hi hj)[k]? = if k = j then some heap[i] else if k = i then some heap[j] else heap[k]? := by
  simp only [swap, List.getElem?_set, List.length_set]
  by_cases kj : k = j
  · simp [kj, hj]
  · by_cases ki : k = i
    · subst ki
      simp [kj, Ne.symm kj, hi]
    · simp [kj, ki, Ne.symm kj, Ne.symm ki]

/-- Past the root, `swap_remove(0)` leaves the entries where they were. -/
theorem getElem?_swapRemoveRoot {heap : List (HeadTail α)} {pos : Nat} (past : 0 < pos) {entry : HeadTail α}
    (atPos : (swapRemoveRoot heap)[pos]? = some entry) : heap[pos]? = some entry := by
  match heap, pos, past with
  | root :: rest, pos + 1, _ =>
      unfold swapRemoveRoot at atPos
      cases last : rest.getLast? with
      | none => simp [last] at atPos
      | some final =>
          simp only [last, List.getElem?_cons_succ, List.getElem?_dropLast] at atPos
          split_ifs at atPos
          exact atPos

variable [LinearOrder α]

/-! ## sift_down and heapify -/

/-- Every entry from `lo` on, but the one at `hole`, has a head at most its children's. -/
def OrderedExcept (heap : List (HeadTail α)) (lo hole : Nat) : Prop :=
  ∀ ⦃parent child⦄, IsChild child parent → lo ≤ parent → parent ≠ hole →
    ∀ ⦃above below : HeadTail α⦄, heap[parent]? = some above → heap[child]? = some below → above.1 ≤ below.1

/-- Every entry from `lo` on has a head at most its children's. -/
def HeapOrdered (heap : List (HeadTail α)) (lo : Nat) : Prop :=
  ∀ ⦃parent child⦄, IsChild child parent → lo ≤ parent →
    ∀ ⦃above below : HeadTail α⦄, heap[parent]? = some above → heap[child]? = some below → above.1 ≤ below.1

/-- What sifting the entry at `pos` down needs of the order: the entries from `lo` on are in
order but the one at `pos`, and the children of `pos` are at or after its parent. -/
structure DownOrder (heap : List (HeadTail α)) (lo pos : Nat) : Prop where
  start : lo ≤ pos
  except : OrderedExcept heap lo pos
  grand : ∀ ⦃parent child⦄, IsChild pos parent → lo ≤ parent → IsChild child pos →
    ∀ ⦃above below : HeadTail α⦄, heap[parent]? = some above → heap[child]? = some below → above.1 ≤ below.1

/-- The entry at `pos` exchanged with its lesser child, when that child's head is less,
leaves the hole at the child. -/
theorem DownOrder.move {heap : List (HeadTail α)} {lo pos child : Nat} (order : DownOrder heap lo pos)
    (hp : pos < heap.length) (hc : child < heap.length) (isChild : IsChild child pos)
    (least : ∀ ⦃sibling⦄, IsChild sibling pos → ∀ ⦃entry⦄, heap[sibling]? = some entry → heap[child].1 ≤ entry.1)
    (less : heap[child].1 < heap[pos].1) :
    DownOrder (swap heap pos child hp hc) lo child := by
  have below := isChild.lt
  constructor
  · have := order.start
    omega
  · intro parent other isOther lower notHole above entry atParent atOther
    rw [getElem?_swap] at atParent atOther
    by_cases atPos : parent = pos
    · -- the lesser child now stands at `pos`, over its former place and its sibling
      subst atPos
      simp only [show parent ≠ child by omega, if_false, if_true, Option.some.injEq] at atParent
      subst atParent
      by_cases same : other = child
      · simp only [same, if_true, Option.some.injEq] at atOther
        subst atOther
        exact less.le
      · simp only [same, show other ≠ parent by have := isOther.lt; omega, if_false] at atOther
        exact least isOther atOther
    · simp only [notHole, atPos, if_false] at atParent
      have otherNotChild : other ≠ child := fun same => atPos (isOther.unique (same ▸ isChild))
      by_cases otherPos : other = pos
      · simp only [otherPos, show pos ≠ child by omega, if_false, if_true, Option.some.injEq] at atOther
        subst atOther
        exact order.grand (otherPos ▸ isOther) lower isChild atParent (List.getElem?_eq_getElem hc)
      · simp only [otherNotChild, otherPos, if_false] at atOther
        exact order.except isOther lower atPos atParent atOther
  · intro parent other isParent lower isOther above entry atParent atOther
    obtain rfl := isParent.unique isChild
    have otherBelow := isOther.lt
    rw [getElem?_swap] at atParent atOther
    simp only [show parent ≠ child by omega, if_false, if_true, Option.some.injEq] at atParent
    simp only [show other ≠ child by omega, show other ≠ parent by omega, if_false] at atOther
    subst atParent
    exact order.except isOther (by omega) (by omega) (List.getElem?_eq_getElem hc) atOther

/-- With no child of `pos` before its head, the hole closes. -/
theorem DownOrder.finish {heap : List (HeadTail α)} {lo pos : Nat} (order : DownOrder heap lo pos)
    (stop : ∀ ⦃child⦄, IsChild child pos →
      ∀ ⦃above below : HeadTail α⦄, heap[pos]? = some above → heap[child]? = some below → above.1 ≤ below.1) :
    HeapOrdered heap lo := by
  intro parent child isChild lower above below atParent atChild
  by_cases atPos : parent = pos
  · subst atPos
    exact stop isChild atParent atChild
  · exact order.except isChild lower atPos atParent atChild

/-- The child `sift_down` takes: of two children, the one with the lesser head, the first when
they are level. -/
theorem lesser_child {heap : List (HeadTail α)} {pos child : Nat} (one : 2 * pos + 1 < heap.length)
    (two : 2 * pos + 2 < heap.length)
    (chosen : child = if heap[2 * pos + 2].1 < heap[2 * pos + 1].1 then 2 * pos + 2 else 2 * pos + 1)
    (hc : child < heap.length) :
    IsChild child pos ∧
      ∀ ⦃sibling⦄, IsChild sibling pos → ∀ ⦃entry⦄, heap[sibling]? = some entry → heap[child].1 ≤ entry.1 := by
  by_cases second : heap[2 * pos + 2].1 < heap[2 * pos + 1].1
  · rw [if_pos second] at chosen
    subst chosen
    refine ⟨.inr rfl, ?_⟩
    rintro sibling (rfl | rfl) entry atSibling <;>
      obtain ⟨_, rfl⟩ := List.getElem?_eq_some_iff.mp atSibling
    · exact second.le
    · exact le_rfl
  · rw [if_neg second] at chosen
    subst chosen
    refine ⟨.inl rfl, ?_⟩
    rintro sibling (rfl | rfl) entry atSibling <;>
      obtain ⟨_, rfl⟩ := List.getElem?_eq_some_iff.mp atSibling
    · exact le_rfl
    · exact not_lt.mp second

/-- `sift_down` closes the hole at `pos`. -/
theorem heapOrdered_siftDown {heap : List (HeadTail α)} {lo pos : Nat} (order : DownOrder heap lo pos) :
    HeapOrdered (siftDown heap pos) lo := by
  fun_induction siftDown heap pos with
  | case1 heap pos two child childBound less ih =>
      obtain ⟨isChild, least⟩ := lesser_child (by omega) two rfl childBound
      exact ih (order.move _ childBound isChild least less)
  | case2 heap pos two child childBound kept =>
      obtain ⟨isChild, least⟩ := lesser_child (by omega) two rfl childBound
      refine order.finish fun other isOther above below atPos atOther => ?_
      obtain ⟨_, rfl⟩ := List.getElem?_eq_some_iff.mp atPos
      exact (not_lt.mp kept).trans (least isOther atOther)
  | case3 heap pos _ last less =>
      -- the only child has no children of its own
      refine (order.move _ _ (.inl rfl) ?_ less).finish fun child isChild _ _ _ atChild => ?_
      · rintro sibling (rfl | rfl) entry atSibling
        · obtain ⟨_, rfl⟩ := List.getElem?_eq_some_iff.mp atSibling
          exact le_rfl
        · simp [List.getElem?_eq_none (show heap.length ≤ 2 * pos + 2 by omega)] at atSibling
      · have far : heap.length ≤ child := by
          unfold IsChild at isChild
          omega
        rw [getElem?_swap, if_neg (by omega), if_neg (by omega), List.getElem?_eq_none far] at atChild
        cases atChild
  | case4 heap pos _ last kept =>
      refine order.finish fun child isChild above below atPos atChild => ?_
      obtain ⟨_, rfl⟩ := List.getElem?_eq_some_iff.mp atPos
      rcases isChild with rfl | rfl
      · obtain ⟨_, rfl⟩ := List.getElem?_eq_some_iff.mp atChild
        exact not_lt.mp kept
      · simp [List.getElem?_eq_none (show heap.length ≤ 2 * pos + 2 by omega)] at atChild
  | case5 heap pos none notLast =>
      refine order.finish fun child isChild _ _ _ atChild => ?_
      unfold IsChild at isChild
      simp [List.getElem?_eq_none (show heap.length ≤ child by omega)] at atChild


/-- Entries from half the heap on have no children. -/
theorem heapOrdered_half (heap : List (HeadTail α)) : HeapOrdered heap (heap.length / 2) := by
  intro parent child isChild lower _ below _ atChild
  have far : heap.length ≤ child := by
    unfold IsChild at isChild
    omega
  simp [List.getElem?_eq_none far] at atChild

/-- A heap ordered after `pos` has its hole at `pos`, with nothing above it to respect. -/
theorem HeapOrdered.downOrder {heap : List (HeadTail α)} {pos : Nat} (ordered : HeapOrdered heap (pos + 1)) :
    DownOrder heap pos pos where
  start := Nat.le_refl pos
  except _ _ isChild lower notHole := ordered isChild (by omega)
  grand _ _ isParent lower := by
    have := isParent.lt
    omega

/-- `heapify` sifts down every entry with children, from the last: each sift extends the
order by one entry. -/
theorem heapOrdered_heapify (heap : List (HeadTail α)) : HeapOrdered (heapify heap) 0 := by
  unfold heapify
  have sifted : ∀ count (sifting : List (HeadTail α)), HeapOrdered sifting count →
      HeapOrdered ((List.range count).reverse.foldl siftDown sifting) 0 := by
    intro count
    induction count with
    | zero => exact fun _ ordered => ordered
    | succ count ih =>
        intro sifting ordered
        rw [List.range_succ, List.reverse_append, List.reverse_singleton, List.singleton_append, List.foldl_cons]
        exact ih _ (heapOrdered_siftDown ordered.downOrder)
  exact sifted _ heap (heapOrdered_half heap)


/-! ## The steps of the merge -/

/-- Every iterator a heap holds is ascending. -/
def TailsAscending (heap : List (HeadTail α)) : Prop :=
  ∀ entry ∈ heap, (entry.1 :: entry.2).Pairwise (· ≤ ·)

/-- The root of an ordered heap has the least head. -/
theorem root_le_getElem? {heap : List (HeadTail α)} {root : HeadTail α} (ordered : HeapOrdered heap 0)
    (atRoot : heap[0]? = some root) : ∀ (pos : Nat) {entry : HeadTail α}, heap[pos]? = some entry → root.1 ≤ entry.1 := by
  intro pos
  induction pos using Nat.strongRecOn with
  | ind pos ih =>
      intro entry atPos
      cases pos with
      | zero =>
          obtain rfl := Option.some.inj (atRoot.symm.trans atPos)
          exact le_rfl
      | succ pos =>
          -- through the parent, which is nearer the root
          have isChild : IsChild (pos + 1) (pos / 2) := by
            unfold IsChild
            omega
          obtain ⟨bound, _⟩ := List.getElem?_eq_some_iff.mp atPos
          have atParent : heap[pos / 2]? = some heap[pos / 2] := List.getElem?_eq_getElem (by omega)
          exact (ih (pos / 2) (by omega) atParent).trans (ordered isChild (Nat.zero_le _) atParent atPos)

/-- The root of an ordered heap of ascending iterators has the least of the heap's items. -/
theorem root_le_items {root : HeadTail α} {others : List (HeadTail α)} (ordered : HeapOrdered (root :: others) 0)
    (ascending : TailsAscending (root :: others)) : ∀ item ∈ items (root :: others), root.1 ≤ item := by
  intro item member
  obtain ⟨entry, present, within⟩ := List.mem_flatMap.mp member
  obtain ⟨pos, atPos⟩ := List.mem_iff_getElem?.mp present
  have first := root_le_getElem? ordered rfl pos atPos
  rcases List.mem_cons.mp within with rfl | later
  · exact first
  · exact first.trans (List.rel_of_pairwise_cons (ascending entry present) later)


/-- A new root over the entries of an ordered heap leaves its hole at the root. -/
theorem HeapOrdered.downOrder_root {heap changed : List (HeadTail α)} (ordered : HeapOrdered heap 0)
    (kept : ∀ pos, 0 < pos → ∀ {entry}, changed[pos]? = some entry → heap[pos]? = some entry) :
    DownOrder changed 0 0 where
  start := Nat.le_refl 0
  except _ _ isChild _ notRoot _ _ atParent atChild :=
    ordered isChild (Nat.zero_le _) (kept _ (Nat.pos_of_ne_zero notRoot) atParent)
      (kept _ (by have := isChild.lt; omega) atChild)
  grand _ _ isRoot := by
    unfold IsChild at isRoot
    omega

/-- A step of the merge keeps the heap ordered. -/
theorem heapOrdered_next? {heap rest : List (HeadTail α)} {item : α} (ordered : HeapOrdered heap 0)
    (stepped : next? heap = some (item, rest)) : HeapOrdered rest 0 := by
  match heap, stepped with
  | (head, tail) :: others, stepped =>
      simp only [next?, Option.some.injEq, Prod.mk.injEq] at stepped
      obtain ⟨rfl, rfl⟩ := stepped
      apply heapOrdered_siftDown
      apply ordered.downOrder_root
      intro pos past entry atPos
      -- the root moves on to its next item, or the last entry takes its place
      cases tail with
      | cons next tail =>
          obtain ⟨pos, rfl⟩ := Nat.exists_eq_add_of_lt past
          simpa using atPos
      | nil => exact getElem?_swapRemoveRoot past atPos

/-- A step of the merge keeps every iterator in the heap ascending. -/
theorem tailsAscending_next? {heap rest : List (HeadTail α)} {item : α} (ascending : TailsAscending heap)
    (stepped : next? heap = some (item, rest)) : TailsAscending rest := by
  match heap, stepped with
  | (head, tail) :: others, stepped =>
      simp only [next?, Option.some.injEq, Prod.mk.injEq] at stepped
      obtain ⟨rfl, rfl⟩ := stepped
      intro entry member
      have held := (perm_siftDown _ 0).subset member
      cases tail with
      | cons next tail =>
          rcases List.mem_cons.mp held with rfl | other
          · exact (ascending _ List.mem_cons_self).of_cons
          · exact ascending entry (List.mem_cons_of_mem _ other)
      | nil => exact ascending entry (List.mem_cons_of_mem _ ((perm_swapRemoveRoot _ others).subset held))

/-- What the merge yields from a heap is among the heap's items. -/
theorem mem_items_of_mem_drain {fuel : Nat} {heap : List (HeadTail α)} {item : α} (yielded : item ∈ drain fuel heap) :
    item ∈ items heap := by
  induction fuel generalizing heap with
  | zero => cases yielded
  | succ fuel ih =>
      cases stepped : next? heap with
      | none => simp [drain, stepped] at yielded
      | some step =>
          obtain ⟨first, rest⟩ := step
          simp only [drain, stepped] at yielded
          have moved := (perm_items_next? stepped).subset
          rcases List.mem_cons.mp yielded with rfl | later
          · exact moved List.mem_cons_self
          · exact moved (List.mem_cons_of_mem _ (ih later))

/-- From an ordered heap of ascending iterators, the merge yields its items in ascending order. -/
theorem pairwise_drain (fuel : Nat) {heap : List (HeadTail α)} (ordered : HeapOrdered heap 0)
    (ascending : TailsAscending heap) : (drain fuel heap).Pairwise (· ≤ ·) := by
  induction fuel generalizing heap with
  | zero => exact List.Pairwise.nil
  | succ fuel ih =>
      cases stepped : next? heap with
      | none => simp [drain, stepped]
      | some step =>
          obtain ⟨first, rest⟩ := step
          simp only [drain, stepped]
          refine List.Pairwise.cons (fun later yielded => ?_) (ih (heapOrdered_next? ordered stepped)
            (tailsAscending_next? ascending stepped))
          -- the step yields the root's head, the least item of the heap
          cases heap with
          | nil => simp [next?] at stepped
          | cons root others =>
              have isRoot : first = root.1 := by
                simp only [next?, Option.some.injEq, Prod.mk.injEq] at stepped
                exact stepped.1.symm
              have held := (perm_items_next? stepped).subset (List.mem_cons_of_mem _ (mem_items_of_mem_drain yielded))
              exact isRoot ▸ root_le_items ordered ascending later held

/-- The merge of ascending iterators is ascending. -/
theorem pairwise_kmerge {iterators : List (List α)} (ascending : ∀ iterator ∈ iterators, iterator.Pairwise (· ≤ ·)) :
    (kmerge iterators).Pairwise (· ≤ ·) := by
  have heads : TailsAscending (iterators.filterMap headTail) := by
    intro entry member
    obtain ⟨iterator, present, split⟩ := List.mem_filterMap.mp member
    match iterator, split with
    | head :: tail, rfl => exact ascending _ present
  exact pairwise_drain _ (heapOrdered_heapify _) fun entry member => heads entry ((perm_heapify _).subset member)


end KMerge

/-! ## Runs of an ascending list -/

section Dedup

variable {α : Type} [DecidableEq α]

/-- The first run of a list is of its head. -/
theorem dedupWithCount_cons (item : α) (rest : List α) :
    ∃ count runs, dedupWithCount (item :: rest) = (count, item) :: runs := by
  unfold dedupWithCount
  cases dedupWithCount rest with
  | nil => exact ⟨1, [], rfl⟩
  | cons first runs =>
      obtain ⟨count, next⟩ := first
      dsimp only
      split_ifs with same
      · exact ⟨count + 1, runs, by rw [same]⟩
      · exact ⟨1, _, rfl⟩

/-- Every item of a list has a run. -/
theorem exists_mem_dedupWithCount {items : List α} {value : α} (member : value ∈ items) :
    ∃ count, (count, value) ∈ dedupWithCount items := by
  induction items with
  | nil => cases member
  | cons item rest ih =>
      obtain ⟨count, runs, first⟩ := dedupWithCount_cons item rest
      rcases List.mem_cons.mp member with rfl | later
      · exact ⟨count, first ▸ List.mem_cons_self⟩
      -- the rest's run of the value stays, or grows by the head
      obtain ⟨count, mem⟩ := ih later
      unfold dedupWithCount
      cases runs : dedupWithCount rest with
      | nil => simp [runs] at mem
      | cons head others =>
          obtain ⟨headCount, next⟩ := head
          rw [runs] at mem
          dsimp only
          split_ifs with same
          · rcases List.mem_cons.mp mem with found | other
            · obtain ⟨-, rfl⟩ := Prod.mk.inj found
              exact ⟨headCount + 1, List.mem_cons_self⟩
            · exact ⟨count, List.mem_cons_of_mem _ other⟩
          · exact ⟨count, List.mem_cons_of_mem _ mem⟩

/-- Every run is of an item of the list. -/
theorem mem_of_mem_dedupWithCount {items : List α} {run : Nat × α} (mem : run ∈ dedupWithCount items) :
    run.2 ∈ items := by
  induction items generalizing run with
  | nil => cases mem
  | cons item rest ih =>
      unfold dedupWithCount at mem
      cases runs : dedupWithCount rest with
      | nil =>
          rw [runs] at mem
          obtain rfl := List.mem_singleton.mp mem
          exact List.mem_cons_self
      | cons first others =>
          obtain ⟨count, next⟩ := first
          have earlier : ∀ other ∈ dedupWithCount rest, other.2 ∈ item :: rest := fun other found =>
            List.mem_cons_of_mem _ (ih found)
          rw [runs] at mem earlier
          dsimp only at mem
          split_ifs at mem with same
          · -- the head joined the first run of the rest, which is of the same item
            rcases List.mem_cons.mp mem with rfl | later
            · exact earlier (count, next) List.mem_cons_self
            · exact earlier run (List.mem_cons_of_mem _ later)
          · rcases List.mem_cons.mp mem with rfl | later
            · exact List.mem_cons_self
            · exact earlier run later

/-- `dedup` keeps every item and adds none. -/
@[simp]
theorem mem_dedup {items : List α} {value : α} : value ∈ dedup items ↔ value ∈ items := by
  constructor
  · intro kept
    obtain ⟨run, mem, rfl⟩ := List.mem_map.mp kept
    exact mem_of_mem_dedupWithCount mem
  · intro member
    obtain ⟨count, mem⟩ := exists_mem_dedupWithCount member
    exact List.mem_map.mpr ⟨_, mem, rfl⟩

end Dedup

section DedupAscending

variable {α : Type} [LinearOrder α]

/-- The runs of an ascending list ascend. -/
theorem pairwise_dedupWithCount {items : List α} (ascending : items.Pairwise (· ≤ ·)) :
    (dedupWithCount items).Pairwise fun run later => run.2 < later.2 := by
  induction items with
  | nil => exact List.Pairwise.nil
  | cons item rest ih =>
      obtain ⟨least, ascendingRest⟩ := List.pairwise_cons.mp ascending
      have runsRest := ih ascendingRest
      unfold dedupWithCount
      cases rest with
      | nil => simp [dedupWithCount]
      | cons next more =>
          obtain ⟨count, runs, first⟩ := dedupWithCount_cons next more
          rw [first] at runsRest ⊢
          dsimp only
          obtain ⟨above, runsAfter⟩ := List.pairwise_cons.mp runsRest
          split_ifs with same
          · exact List.Pairwise.cons above runsAfter
          · -- the head is below the next item, and so below every later run
            have below : item < next := lt_of_le_of_ne (least next List.mem_cons_self) same
            refine List.Pairwise.cons ?_ runsRest
            intro run member
            rcases List.mem_cons.mp member with rfl | later
            · exact below
            · exact below.trans (above run later)

/-- `dedup` of an ascending list is strictly ascending. -/
theorem pairwise_dedup {items : List α} (ascending : items.Pairwise (· ≤ ·)) : (dedup items).Pairwise (· < ·) :=
  List.pairwise_map.mpr (pairwise_dedupWithCount ascending)

/-- In an ascending list, a run is as long as its item is frequent. -/
theorem count_of_mem_dedupWithCount {items : List α} (ascending : items.Pairwise (· ≤ ·)) {run : Nat × α}
    (mem : run ∈ dedupWithCount items) : run.1 = items.count run.2 := by
  induction items generalizing run with
  | nil => cases mem
  | cons item rest ih =>
      obtain ⟨least, ascendingRest⟩ := List.pairwise_cons.mp ascending
      unfold dedupWithCount at mem
      cases rest with
      | nil =>
          simp only [dedupWithCount, List.mem_singleton] at mem
          subst mem
          simp
      | cons next more =>
          obtain ⟨count, runs, first⟩ := dedupWithCount_cons next more
          have counted : count = (next :: more).count next := ih ascendingRest (first ▸ List.mem_cons_self)
          have runsAbove : ∀ later ∈ runs, next < later.2 :=
            (List.pairwise_cons.mp (first ▸ pairwise_dedupWithCount ascendingRest)).1
          rw [first] at mem
          dsimp only at mem
          split_ifs at mem with same
          · -- the head joins the first run, and no later run is of its item
            rcases List.mem_cons.mp mem with rfl | later
            · simp [counted, same]
            · have differs : item ≠ run.2 := same ▸ (runsAbove _ later).ne
              rw [List.count_cons_of_ne differs]
              exact ih ascendingRest (first ▸ List.mem_cons_of_mem _ later)
          · -- the head is below every item of the rest, and starts a run of its own
            have below : item < next := lt_of_le_of_ne (least next List.mem_cons_self) same
            have absent : item ∉ next :: more := fun member =>
              (lt_of_lt_of_le below (List.pairwise_cons.mp ascendingRest |>.1 item
                (List.mem_of_ne_of_mem (ne_of_lt below) member))).false
            rcases List.mem_cons.mp mem with rfl | later
            · simp [List.count_eq_zero.mpr absent]
            · have differs : item ≠ run.2 := by
                rcases List.mem_cons.mp later with rfl | latest
                · exact ne_of_lt below
                · exact ne_of_lt (below.trans (runsAbove _ latest))
              rw [List.count_cons_of_ne differs]
              exact ih ascendingRest (first ▸ later)

/-- Every item of an ascending list has a run as long as the item is frequent. -/
theorem mem_dedupWithCount_of_mem {items : List α} (ascending : items.Pairwise (· ≤ ·)) {value : α}
    (member : value ∈ items) : (items.count value, value) ∈ dedupWithCount items := by
  obtain ⟨count, mem⟩ := exists_mem_dedupWithCount member
  have counted := count_of_mem_dedupWithCount ascending mem
  dsimp only at counted
  rwa [← counted]

end DedupAscending

end DockSubstrate.Lib
