import DockSubstrate.Lib.SortedMap

/-!
# Merge join of two sorted sequences

`mergeJoinBy cmp xs ys` walks two sequences that are sorted for `cmp` and pairs up
their elements: an element found only on the left, only on the right, or on both
sides at once.  On key-sorted entry lists the result has exactly one element per key
of either list, again in key order; `find?_mergeJoinEntries` says which one.

The definition is structurally recursive (an outer recursion on the left list and an
inner one on the right list), so that it evaluates by `decide`.
-/

namespace DockSubstrate.Lib

/-- One step of a merge join: a left element, a right element, or a matching pair. -/
inductive EitherOrBoth (α β : Type) where
  | left (a : α)
  | right (b : β)
  | both (a : α) (b : β)
  deriving DecidableEq, Repr

/-- Merge the left element `x` into the right list; `rest` joins the remaining left
elements with what is left of the right list. -/
def insertLeft {α β : Type} (cmp : α → β → Ordering) (x : α)
    (rest : List β → List (EitherOrBoth α β)) : List β → List (EitherOrBoth α β)
  | [] => .left x :: rest []
  | y :: ys =>
      match cmp x y with
      | .lt => .left x :: rest (y :: ys)
      | .eq => .both x y :: rest ys
      | .gt => .right y :: insertLeft cmp x rest ys

def mergeJoinBy {α β : Type} (cmp : α → β → Ordering) :
    List α → List β → List (EitherOrBoth α β)
  | [], ys => ys.map .right
  | x :: xs, ys => insertLeft cmp x (mergeJoinBy cmp xs) ys

example : mergeJoinBy (fun (a b : Nat) => compare a b) [1, 3, 5] [2, 3, 6] =
    [.left 1, .right 2, .both 3 3, .left 5, .right 6] := by decide

section Entries

variable {K A B : Type}

namespace EitherOrBoth

/-- The key of a joined pair of entries. -/
def key : EitherOrBoth (K × A) (K × B) → K
  | left a => a.1
  | right b => b.1
  | both a _ => a.1

/-- The joined element for `key` when the two sides hold `left` and `right` there. -/
def ofLookups (key : K) : Option A → Option B → Option (EitherOrBoth (K × A) (K × B))
  | some a, some b => some (both (key, a) (key, b))
  | some a, none => some (left (key, a))
  | none, some b => some (right (key, b))
  | none, none => none

@[simp]
theorem key_left (a : K × A) : (left a : EitherOrBoth (K × A) (K × B)).key = a.1 := rfl

@[simp]
theorem key_right (b : K × B) : (right b : EitherOrBoth (K × A) (K × B)).key = b.1 := rfl

@[simp]
theorem key_both (a : K × A) (b : K × B) : (both a b).key = a.1 := rfl

end EitherOrBoth

open EitherOrBoth

variable [LinearOrder K]

/-- The merge join of two entry lists by key. -/
def mergeJoinEntries (xs : List (K × A)) (ys : List (K × B)) :
    List (EitherOrBoth (K × A) (K × B)) :=
  mergeJoinBy (fun x y => compare x.1 y.1) xs ys

@[simp]
theorem mergeJoinEntries_nil_left (ys : List (K × B)) :
    mergeJoinEntries ([] : List (K × A)) ys = ys.map right := rfl

theorem mergeJoinEntries_cons_nil (x : K × A) (xs : List (K × A)) :
    mergeJoinEntries (x :: xs) ([] : List (K × B)) = left x :: mergeJoinEntries xs [] := rfl

theorem mergeJoinEntries_cons_cons (x : K × A) (xs : List (K × A)) (y : K × B)
    (ys : List (K × B)) :
    mergeJoinEntries (x :: xs) (y :: ys) =
      if x.1 < y.1 then left x :: mergeJoinEntries xs (y :: ys)
      else if x.1 = y.1 then both x y :: mergeJoinEntries xs ys
      else right y :: mergeJoinEntries (x :: xs) ys := by
  unfold mergeJoinEntries
  rcases lt_trichotomy x.1 y.1 with below | same | above
  · simp only [mergeJoinBy, insertLeft, compare_lt_iff_lt.mpr below, if_pos below]
  · have notBelow : ¬ x.1 < y.1 := same ▸ lt_irrefl _
    simp only [mergeJoinBy, insertLeft, compare_eq_iff_eq.mpr same, if_neg notBelow,
      if_pos same]
  · have notBelow : ¬ x.1 < y.1 := not_lt.mpr above.le
    simp only [mergeJoinBy, insertLeft, compare_gt_iff_gt.mpr above, if_neg notBelow,
      if_neg above.ne']

/-- Every key of the join is a key of one of the two sides. -/
theorem key_mem_of_mem_mergeJoinEntries {xs : List (K × A)} {ys : List (K × B)}
    {joined : EitherOrBoth (K × A) (K × B)} (mem : joined ∈ mergeJoinEntries xs ys) :
    joined.key ∈ xs.map Prod.fst ∨ joined.key ∈ ys.map Prod.fst := by
  induction xs generalizing ys with
  | nil =>
      obtain ⟨entry, hentry, rfl⟩ := List.mem_map.mp mem
      exact .inr (List.mem_map_of_mem hentry)
  | cons x xs ih =>
      induction ys with
      | nil =>
          rw [mergeJoinEntries_cons_nil] at mem
          rcases List.mem_cons.mp mem with rfl | later
          · exact .inl (List.mem_cons_self ..)
          · rcases ih later with inLeft | inRight
            · exact .inl (List.mem_cons_of_mem _ inLeft)
            · simp at inRight
      | cons y ys ihRight =>
          rw [mergeJoinEntries_cons_cons] at mem
          split_ifs at mem
          · rcases List.mem_cons.mp mem with rfl | later
            · exact .inl (List.mem_cons_self ..)
            · exact (ih later).imp (List.mem_cons_of_mem _) id
          · rcases List.mem_cons.mp mem with rfl | later
            · exact .inl (List.mem_cons_self ..)
            · exact (ih later).imp (List.mem_cons_of_mem _) (List.mem_cons_of_mem _)
          · rcases List.mem_cons.mp mem with rfl | later
            · exact .inr (List.mem_cons_self ..)
            · exact (ihRight later).imp id (List.mem_cons_of_mem _)

/-- The join of two key-sorted lists is key-sorted. -/
theorem sorted_mergeJoinEntries {xs : List (K × A)} {ys : List (K × B)}
    (sortedLeft : Entries.Sorted xs) (sortedRight : Entries.Sorted ys) :
    (mergeJoinEntries xs ys).Pairwise (fun a b => a.key < b.key) := by
  induction xs generalizing ys with
  | nil => exact List.pairwise_map.mpr sortedRight
  | cons x xs ih =>
      obtain ⟨xBelow, sortedXs⟩ := List.pairwise_cons.mp sortedLeft
      induction ys with
      | nil =>
          rw [mergeJoinEntries_cons_nil]
          refine List.pairwise_cons.mpr ⟨fun joined mem => ?_, ih sortedXs Entries.sorted_nil⟩
          rcases key_mem_of_mem_mergeJoinEntries mem with inLeft | inRight
          · obtain ⟨entry, hentry, hkey⟩ := List.mem_map.mp inLeft
            exact hkey ▸ xBelow entry hentry
          · simp at inRight
      | cons y ys ihRight =>
          obtain ⟨yBelow, sortedYs⟩ := List.pairwise_cons.mp sortedRight
          rw [mergeJoinEntries_cons_cons]
          split_ifs with below same
          · refine List.pairwise_cons.mpr ⟨fun joined mem => ?_, ih sortedXs sortedRight⟩
            rcases key_mem_of_mem_mergeJoinEntries mem with inLeft | inRight
            · obtain ⟨entry, hentry, hkey⟩ := List.mem_map.mp inLeft
              exact hkey ▸ xBelow entry hentry
            · obtain ⟨entry, hentry, hkey⟩ := List.mem_map.mp inRight
              exact hkey ▸ Entries.forall_lt_of_lt_head sortedRight below entry hentry
          · refine List.pairwise_cons.mpr ⟨fun joined mem => ?_, ih sortedXs sortedYs⟩
            rcases key_mem_of_mem_mergeJoinEntries mem with inLeft | inRight
            · obtain ⟨entry, hentry, hkey⟩ := List.mem_map.mp inLeft
              exact hkey ▸ xBelow entry hentry
            · obtain ⟨entry, hentry, hkey⟩ := List.mem_map.mp inRight
              exact hkey ▸ (same ▸ yBelow entry hentry : x.1 < entry.1)
          · have above : y.1 < x.1 := lt_of_le_of_ne (not_lt.mp below) (Ne.symm same)
            refine List.pairwise_cons.mpr ⟨fun joined mem => ?_, ihRight sortedYs⟩
            rcases key_mem_of_mem_mergeJoinEntries mem with inLeft | inRight
            · obtain ⟨entry, hentry, hkey⟩ := List.mem_map.mp inLeft
              exact hkey ▸ Entries.forall_lt_of_lt_head sortedLeft above entry hentry
            · obtain ⟨entry, hentry, hkey⟩ := List.mem_map.mp inRight
              exact hkey ▸ yBelow entry hentry

/-- Searching a joined list by key looks at the head first. -/
theorem find?_cons_key (joined : EitherOrBoth (K × A) (K × B)) (rest : List _) (key : K) :
    (joined :: rest).find? (fun other => other.key = key) =
      if joined.key = key then some joined else rest.find? (fun other => other.key = key) := by
  by_cases hkey : joined.key = key <;> simp [hkey]

/-- The element of the join for a key: both sides' entries, whichever exist. -/
theorem find?_mergeJoinEntries {xs : List (K × A)} {ys : List (K × B)}
    (sortedLeft : Entries.Sorted xs) (sortedRight : Entries.Sorted ys) (key : K) :
    (mergeJoinEntries xs ys).find? (fun joined => joined.key = key) =
      ofLookups key (Entries.lookup key xs) (Entries.lookup key ys) := by
  induction xs generalizing ys with
  | nil =>
      induction ys with
      | nil => rfl
      | cons y ys ih =>
          rw [mergeJoinEntries_nil_left, List.map_cons, find?_cons_key, key_right]
          by_cases hkey : y.1 = key
          · subst hkey
            simp [ofLookups]
          · rw [if_neg hkey, Entries.lookup_cons, if_neg (Ne.symm hkey)]
            exact ih (Entries.sorted_cons.mp sortedRight).2
  | cons x xs ih =>
      have sortedXs := (Entries.sorted_cons.mp sortedLeft).2
      induction ys with
      | nil =>
          rw [mergeJoinEntries_cons_nil, find?_cons_key, key_left]
          by_cases hkey : x.1 = key
          · subst hkey
            simp [ofLookups]
          · rw [if_neg hkey, Entries.lookup_cons, if_neg (Ne.symm hkey)]
            exact ih sortedXs Entries.sorted_nil
      | cons y ys ihRight =>
          have sortedYs := (Entries.sorted_cons.mp sortedRight).2
          rw [mergeJoinEntries_cons_cons]
          split_ifs with below same
          · -- only the left side holds the smaller key `x.1`
            rw [find?_cons_key, key_left]
            by_cases hkey : x.1 = key
            · subst hkey
              have absent : Entries.lookup x.1 (y :: ys) = none :=
                Entries.lookup_eq_none_of_lt (Entries.forall_lt_of_lt_head sortedRight below)
              simp [ofLookups, absent]
            · rw [if_neg hkey, Entries.lookup_cons _ x, if_neg (Ne.symm hkey)]
              exact ih sortedXs sortedRight
          · rw [find?_cons_key, key_both]
            by_cases hkey : x.1 = key
            · subst hkey
              simp [ofLookups, Prod.ext_iff, same]
            · have other : key ≠ y.1 := same ▸ Ne.symm hkey
              rw [if_neg hkey, Entries.lookup_cons _ x, if_neg (Ne.symm hkey),
                Entries.lookup_cons _ y, if_neg other]
              exact ih sortedXs sortedYs
          · -- only the right side holds the smaller key `y.1`
            have above : y.1 < x.1 := lt_of_le_of_ne (not_lt.mp below) (Ne.symm same)
            rw [find?_cons_key, key_right]
            by_cases hkey : y.1 = key
            · subst hkey
              have absent : Entries.lookup y.1 (x :: xs) = none :=
                Entries.lookup_eq_none_of_lt (Entries.forall_lt_of_lt_head sortedLeft above)
              simp [ofLookups, absent]
            · rw [if_neg hkey, Entries.lookup_cons _ y, if_neg (Ne.symm hkey)]
              exact ihRight sortedYs

end Entries

end DockSubstrate.Lib
