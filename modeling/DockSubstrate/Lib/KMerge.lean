import Mathlib

/-!
# Merging iterators

`kmerge` of the `itertools` crate merges iterators by always yielding the least of their
heads.  Each iterator that still yields is kept as its head and its tail in a binary heap
ordered by the heads: `heapify` builds the heap, and each step yields the root's head, moves
the root on to its next item (or removes it, the last entry taking its place) and sifts the
root down.  The result is ascending when every iterator is; otherwise it is whatever order
the heap extracts the heads in.  In any order it yields every item of every iterator, each as
often as the iterators do (`perm_kmerge`): every step of the heap only moves entries, and each
step of the merge yields one of the items the heap holds.

`merge` merges two iterators the same way, by their heads.

`dedupWithCount` is `dedup_with_count`: the runs of equal neighbours, each with its length;
`dedup` keeps one item of each run.  A run is never longer than its item's count.
-/

namespace DockSubstrate.Lib

namespace KMerge

variable {α : Type}

/-- `HeadTail`: an iterator that has yielded its head, with the items it has left. -/
abbrev HeadTail (α : Type) := α × List α

/-- `HeadTail::new`: an iterator split into its first item and the rest, if it has one. -/
def headTail : List α → Option (HeadTail α)
  | [] => none
  | head :: tail => some (head, tail)

/-- `<[T]>::swap`: two entries of the heap exchanged. -/
def swap (heap : List (HeadTail α)) (i j : Nat) (hi : i < heap.length) (hj : j < heap.length) :
    List (HeadTail α) :=
  (heap.set i heap[j]).set j heap[i]

@[simp]
theorem length_swap {heap : List (HeadTail α)} {i j : Nat} (hi : i < heap.length) (hj : j < heap.length) :
    (swap heap i j hi hj).length = heap.length := by
  simp [swap]

/-- `Vec::swap_remove(0)`: the root leaves, and the last entry takes its place. -/
def swapRemoveRoot : List (HeadTail α) → List (HeadTail α)
  | [] => []
  | _ :: rest =>
      match rest.getLast? with
      | some last => last :: rest.dropLast
      | none => []

/-- The number of items a heap has left to yield. -/
def size (heap : List (HeadTail α)) : Nat :=
  (heap.map fun entry => entry.2.length + 1).sum

/-- The items a heap has left to yield: each entry's head, then its tail. -/
def items (heap : List (HeadTail α)) : List α :=
  heap.flatMap fun entry => entry.1 :: entry.2

theorem size_eq_length_items (heap : List (HeadTail α)) : size heap = (items heap).length := by
  simp [size, items, List.length_flatMap]

theorem items_filterMap_headTail (iterators : List (List α)) :
    items (iterators.filterMap headTail) = iterators.flatten := by
  induction iterators with
  | nil => rfl
  | cons iterator rest ih =>
      cases iterator with
      | nil =>
          simp only [List.filterMap_cons, headTail, List.flatten_cons, List.nil_append]
          exact ih
      | cons head tail => simp [headTail, items, ← ih]

theorem perm_swapRemoveRoot (root : HeadTail α) (rest : List (HeadTail α)) :
    (swapRemoveRoot (root :: rest)).Perm rest := by
  unfold swapRemoveRoot
  cases last : rest.getLast? with
  | none => simp_all
  | some entry =>
      have split : rest.dropLast ++ [entry] = rest := List.dropLast_append_getLast? entry (by simp [last])
      simp only [last]
      conv_rhs => rw [← split]
      exact (List.perm_append_singleton entry rest.dropLast).symm

variable [LinearOrder α]

/-- `sift_down`: the entry at `pos` goes down, exchanged with the lesser of its children
while that child's head is less than its own. -/
def siftDown (heap : List (HeadTail α)) (pos : Nat) : List (HeadTail α) :=
  if twoChildren : 2 * pos + 2 < heap.length then
    let child := if heap[2 * pos + 2].1 < heap[2 * pos + 1].1 then 2 * pos + 2 else 2 * pos + 1
    have childBound : child < heap.length := by
      dsimp only [child]
      split <;> omega
    if heap[child].1 < heap[pos].1 then siftDown (swap heap pos child (by omega) childBound) child
    else heap
  else if lastChild : 2 * pos + 2 = heap.length then
    if heap[2 * pos + 1].1 < heap[pos].1 then swap heap pos (2 * pos + 1) (by omega) (by omega) else heap
  else heap
termination_by heap.length - pos
decreasing_by
  simp only [length_swap]
  split <;> omega

/-- `heapify`: every entry with children sifted down, the last of them first. -/
def heapify (heap : List (HeadTail α)) : List (HeadTail α) :=
  (List.range (heap.length / 2)).reverse.foldl siftDown heap

/-- `KMergeBy::next`: the root's head, and the heap once the root has moved on. -/
def next? : List (HeadTail α) → Option (α × List (HeadTail α))
  | [] => none
  | (head, tail) :: rest =>
      let heap := match tail with
        | next :: tail => (next, tail) :: rest
        | [] => swapRemoveRoot ((head, tail) :: rest)
      some (head, siftDown heap 0)

/-- The items the merge yields from a heap, `fuel` of them at most: each step yields one of
the heap's items, so its size is fuel enough. -/
def drain : Nat → List (HeadTail α) → List α
  | 0, _ => []
  | fuel + 1, heap =>
      match next? heap with
      | some (item, heap) => item :: drain fuel heap
      | none => []

/-- `kmerge`. -/
def kmerge (iterators : List (List α)) : List α :=
  drain (size (heapify (iterators.filterMap headTail))) (heapify (iterators.filterMap headTail))

/-- `Itertools::merge` of two iterators: the head of the first while it is at most the head of
the second, else the head of the second. -/
def merge (first second : List α) : List α :=
  List.merge first second fun a b => decide (a ≤ b)

/-! ## The merge yields every item -/

theorem perm_swap (heap : List (HeadTail α)) {i j : Nat} (hi : i < heap.length) (hj : j < heap.length) :
    (swap heap i j hi hj).Perm heap := by
  rw [List.perm_iff_count]
  intro entry
  unfold swap
  rw [List.count_set (by simpa using hj), List.count_set hi]
  simp only [List.getElem_set, ite_self, beq_iff_eq]
  -- the entry at `i` leaves and comes back; it was counted, so the subtraction is exact
  by_cases own : heap[i] = entry
  · have present : 0 < heap.count entry := List.count_pos_iff.mpr (own ▸ List.getElem_mem hi)
    split_ifs <;> omega
  · split_ifs <;> omega

theorem perm_siftDown (heap : List (HeadTail α)) (pos : Nat) : (siftDown heap pos).Perm heap := by
  fun_induction siftDown heap pos with
  | case1 _ _ _ _ _ _ ih => exact ih.trans (perm_swap _ _ _)
  | case3 => exact perm_swap _ _ _
  | case2 | case4 | case5 => exact List.Perm.refl _

theorem perm_heapify (heap : List (HeadTail α)) : (heapify heap).Perm heap := by
  unfold heapify
  generalize (List.range (heap.length / 2)).reverse = positions
  induction positions generalizing heap with
  | nil => exact List.Perm.refl _
  | cons pos rest ih => exact (ih _).trans (perm_siftDown heap pos)

/-- A step of the merge yields one of the heap's items and leaves the others. -/
theorem perm_items_next? {heap rest : List (HeadTail α)} {item : α} (stepped : next? heap = some (item, rest)) :
    (item :: items rest).Perm (items heap) := by
  match heap, stepped with
  | (head, tail) :: others, stepped =>
      simp only [next?, Option.some.injEq, Prod.mk.injEq] at stepped
      obtain ⟨rfl, rfl⟩ := stepped
      have sifted := (perm_siftDown (match tail with
        | next :: tail => (next, tail) :: others
        | [] => swapRemoveRoot ((head, tail) :: others)) 0).flatMap_right fun entry => entry.1 :: entry.2
      refine (sifted.cons head).trans ?_
      -- the root moves on to its next item, or leaves the heap
      cases tail with
      | cons next tail => exact List.Perm.refl _
      | nil =>
          have removed := (perm_swapRemoveRoot (head, []) others).flatMap_right fun entry => entry.1 :: entry.2
          exact removed.cons head

/-- With as much fuel as the heap has items, the merge yields all of them. -/
theorem perm_drain {fuel : Nat} {heap : List (HeadTail α)} (enough : size heap ≤ fuel) :
    (drain fuel heap).Perm (items heap) := by
  induction fuel generalizing heap with
  | zero =>
      have empty : items heap = [] := List.eq_nil_of_length_eq_zero (by rw [← size_eq_length_items]; omega)
      rw [empty]
      rfl
  | succ fuel ih =>
      cases heap with
      | nil => rfl
      | cons root others =>
          obtain ⟨item, rest, stepped⟩ : ∃ item rest, next? (root :: others) = some (item, rest) := ⟨_, _, rfl⟩
          have yielded := perm_items_next? stepped
          have fewer : size rest ≤ fuel := by
            have lengths := yielded.length_eq
            rw [size_eq_length_items] at enough ⊢
            simp only [List.length_cons] at lengths
            omega
          simp only [drain, stepped]
          exact ((ih fewer).cons item).trans yielded

/-- The merge yields every item of every iterator, each as often as the iterators do. -/
theorem perm_kmerge (iterators : List (List α)) : (kmerge iterators).Perm iterators.flatten := by
  have heaped := (perm_heapify (iterators.filterMap headTail)).flatMap_right fun entry => entry.1 :: entry.2
  rw [← items_filterMap_headTail]
  exact (perm_drain (Nat.le_refl _)).trans heaped

/-! ## Heaps of one and two entries -/

theorem siftDown_singleton (entry : HeadTail α) : siftDown [entry] 0 = [entry] := by
  rw [siftDown]
  simp

/-- With two entries the root has one child, exchanged with it when its head is less. -/
theorem siftDown_pair (root child : HeadTail α) :
    siftDown [root, child] 0 = if child.1 < root.1 then [child, root] else [root, child] := by
  rw [siftDown]
  simp [swap]

/-- Two iterators that both yield the greater item first are not merged into one ascending
sequence: each item is yielded twice, but never twice in a row. -/
theorem kmerge_descending_twice {lower higher : α} (less : lower < higher) :
    kmerge [[higher, lower], [higher, lower]] = [higher, lower, higher, lower] := by
  simp [kmerge, headTail, heapify, siftDown_pair, siftDown_singleton, lt_asymm less, size, drain, next?,
    swapRemoveRoot]

end KMerge

/-- `dedup_with_count`: the runs of equal neighbours, each as its length and its item. -/
def dedupWithCount {α : Type} [DecidableEq α] : List α → List (Nat × α)
  | [] => []
  | item :: rest =>
      match dedupWithCount rest with
      | (count, next) :: runs => if item = next then (count + 1, next) :: runs else (1, item) :: (count, next) :: runs
      | [] => [(1, item)]

/-- `dedup`: one item of each run of equal neighbours. -/
def dedup {α : Type} [DecidableEq α] (items : List α) : List α :=
  (dedupWithCount items).map Prod.snd

section Dedup

variable {α : Type} [DecidableEq α]

/-- A run is at most as long as its item is frequent. -/
theorem le_count_of_mem_dedupWithCount {items : List α} {run : Nat × α} (mem : run ∈ dedupWithCount items) :
    run.1 ≤ items.count run.2 := by
  induction items generalizing run with
  | nil => cases mem
  | cons item rest ih =>
      -- the head joins the first run of the rest, or starts a run of its own
      unfold dedupWithCount at mem
      cases runs : dedupWithCount rest with
      | nil =>
          rw [runs] at mem
          obtain rfl := List.mem_singleton.mp mem
          simp
      | cons first others =>
          obtain ⟨count, next⟩ := first
          have earlier : ∀ other ∈ dedupWithCount rest, other.1 ≤ (item :: rest).count other.2 :=
            fun other found => Nat.le_trans (ih found) List.count_le_count_cons
          rw [runs] at mem earlier
          dsimp only at mem
          split_ifs at mem with same
          · rcases List.mem_cons.mp mem with rfl | later
            · have head := ih (runs ▸ List.mem_cons_self : (count, next) ∈ dedupWithCount rest)
              simp only [List.count_cons, same, beq_self_eq_true, if_true] at head ⊢
              omega
            · exact earlier run (List.mem_cons_of_mem _ later)
          · rcases List.mem_cons.mp mem with rfl | later
            · simp
            · exact earlier run later

/-- A list without repetitions is its own `dedup`. -/
theorem dedup_of_nodup {items : List α} (nodup : items.Nodup) : dedup items = items := by
  have runs : dedupWithCount items = items.map ((1, ·)) := by
    induction items with
    | nil => rfl
    | cons item rest ih =>
        obtain ⟨fresh, nodupRest⟩ := List.nodup_cons.mp nodup
        unfold dedupWithCount
        rw [ih nodupRest]
        cases rest with
        | nil => rfl
        | cons next more =>
            have distinct : item ≠ next := fun same => fresh (same ▸ List.mem_cons_self)
            simp [distinct]
  rw [dedup, runs, List.map_map]
  exact List.map_id'' (fun _ => rfl) items

end Dedup

end DockSubstrate.Lib
