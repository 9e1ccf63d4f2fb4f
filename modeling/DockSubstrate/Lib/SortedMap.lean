import Mathlib

/-!
# Strictly sorted association lists

A finite map kept as the list of its entries in strictly ascending key order.
This is an ordered B-tree map seen through its in-order iteration: lookups are
by key, every traversal visits keys in ascending order, and two maps with the
same lookups are the same map.  Sets are maps to `Unit`.

`ascending` iterates a finite set in ascending order, as a `BTreeSet` does; it
sorts the set's underlying list by insertion, so that it computes by reduction.
-/

namespace DockSubstrate.Lib

/-! ## Entry lists -/

namespace Entries

variable {K V : Type} [LinearOrder K]

/-- Entries whose keys strictly increase along the list. -/
def Sorted (entries : List (K × V)) : Prop :=
  entries.Pairwise (fun a b => a.1 < b.1)

def lookup (key : K) : List (K × V) → Option V
  | [] => none
  | (k, v) :: rest => if key = k then some v else lookup key rest

/-- Insert in key order, replacing the value of an equal key. -/
def insert (key : K) (value : V) : List (K × V) → List (K × V)
  | [] => [(key, value)]
  | (k, v) :: rest =>
      if key < k then (key, value) :: (k, v) :: rest
      else if key = k then (key, value) :: rest
      else (k, v) :: insert key value rest

def erase (key : K) : List (K × V) → List (K × V)
  | [] => []
  | (k, v) :: rest => if k = key then erase key rest else (k, v) :: erase key rest

theorem sorted_nil : Sorted ([] : List (K × V)) := List.Pairwise.nil

theorem sorted_cons {entry : K × V} {rest : List (K × V)} :
    Sorted (entry :: rest) ↔ (∀ other ∈ rest, entry.1 < other.1) ∧ Sorted rest :=
  List.pairwise_cons

@[simp]
theorem lookup_nil (key : K) : lookup key ([] : List (K × V)) = none := rfl

@[simp]
theorem lookup_cons (key : K) (entry : K × V) (rest : List (K × V)) :
    lookup key (entry :: rest) = if key = entry.1 then some entry.2 else lookup key rest := rfl

/-- A key below the head of a sorted list is below every key of the list. -/
theorem forall_lt_of_lt_head {key : K} {entry : K × V} {rest : List (K × V)}
    (sorted : Sorted (entry :: rest)) (below : key < entry.1) :
    ∀ other ∈ entry :: rest, key < other.1 := by
  intro other mem
  rcases List.mem_cons.mp mem with rfl | later
  · exact below
  · exact below.trans ((sorted_cons.mp sorted).1 other later)

theorem lookup_eq_none_of_forall_ne {key : K} {entries : List (K × V)}
    (absent : ∀ entry ∈ entries, entry.1 ≠ key) : lookup key entries = none := by
  induction entries with
  | nil => rfl
  | cons entry rest ih =>
      obtain ⟨k, v⟩ := entry
      have hne : key ≠ k := fun same => absent (k, v) (by simp) same.symm
      simp only [lookup, hne, if_false]
      exact ih fun other mem => absent other (by simp [mem])

theorem lookup_eq_none_of_lt {key : K} {entries : List (K × V)}
    (below : ∀ entry ∈ entries, key < entry.1) : lookup key entries = none :=
  lookup_eq_none_of_forall_ne fun entry mem same => (below entry mem).ne' same

theorem mem_of_lookup_eq_some {key : K} {value : V} {entries : List (K × V)}
    (found : lookup key entries = some value) : (key, value) ∈ entries := by
  induction entries with
  | nil => cases found
  | cons entry rest ih =>
      obtain ⟨k, v⟩ := entry
      by_cases same : key = k
      · simp only [lookup, same, if_true, Option.some.injEq] at found
        simp [same, found]
      · simp only [lookup, same, if_false] at found
        exact List.mem_cons_of_mem _ (ih found)

theorem lookup_eq_some_of_mem {key : K} {value : V} {entries : List (K × V)}
    (sorted : Sorted entries) (mem : (key, value) ∈ entries) :
    lookup key entries = some value := by
  induction entries with
  | nil => cases mem
  | cons entry rest ih =>
      obtain ⟨k, v⟩ := entry
      obtain ⟨head, tail⟩ := sorted_cons.mp sorted
      rcases List.mem_cons.mp mem with here | there
      · cases here
        simp [lookup]
      · have hne : key ≠ k := (head (key, value) there).ne'
        simp only [lookup, hne, if_false]
        exact ih tail there

theorem mem_insert {key : K} {value : V} {entries : List (K × V)} {entry : K × V}
    (mem : entry ∈ insert key value entries) : entry = (key, value) ∨ entry ∈ entries := by
  induction entries with
  | nil => simpa [insert] using mem
  | cons first rest ih =>
      obtain ⟨k, v⟩ := first
      unfold insert at mem
      split_ifs at mem with hlt heq
      · simpa using mem
      · subst heq
        rcases List.mem_cons.mp mem with here | there
        · exact .inl here
        · exact .inr (List.mem_cons_of_mem _ there)
      · rcases List.mem_cons.mp mem with here | there
        · exact .inr (here ▸ List.mem_cons_self)
        · rcases ih there with same | old
          · exact .inl same
          · exact .inr (List.mem_cons_of_mem _ old)

theorem sorted_insert (key : K) (value : V) {entries : List (K × V)}
    (sorted : Sorted entries) : Sorted (insert key value entries) := by
  induction entries with
  | nil => exact List.pairwise_singleton _ _
  | cons first rest ih =>
      obtain ⟨k, v⟩ := first
      obtain ⟨head, tail⟩ := sorted_cons.mp sorted
      unfold insert
      split_ifs with hlt heq
      · refine sorted_cons.mpr ⟨fun other mem => ?_, sorted⟩
        rcases List.mem_cons.mp mem with here | there
        · exact here ▸ hlt
        · exact hlt.trans (head other there)
      · subst heq
        exact sorted_cons.mpr ⟨head, tail⟩
      · have hgt : k < key := lt_of_le_of_ne (not_lt.mp hlt) (Ne.symm heq)
        refine sorted_cons.mpr ⟨fun other mem => ?_, ih tail⟩
        rcases mem_insert mem with here | there
        · exact here ▸ hgt
        · exact head other there

theorem lookup_insert_self (key : K) (value : V) (entries : List (K × V)) :
    lookup key (insert key value entries) = some value := by
  induction entries with
  | nil => simp [insert]
  | cons first rest ih =>
      obtain ⟨k, v⟩ := first
      unfold insert
      split_ifs with hlt heq
      · simp [lookup]
      · simp [lookup]
      · simp [lookup, heq, ih]

theorem lookup_insert_of_ne {key other : K} (value : V) (entries : List (K × V))
    (hne : other ≠ key) : lookup other (insert key value entries) = lookup other entries := by
  induction entries with
  | nil => simp [insert, lookup, hne]
  | cons first rest ih =>
      obtain ⟨k, v⟩ := first
      unfold insert
      split_ifs with hlt heq
      · simp [lookup, hne]
      · subst heq
        simp [lookup, hne]
      · by_cases same : other = k <;> simp [lookup, same, ih]

theorem length_insert (key : K) (value : V) {entries : List (K × V)} (sorted : Sorted entries) :
    (insert key value entries).length =
      if (lookup key entries).isSome then entries.length else entries.length + 1 := by
  induction entries with
  | nil => simp [insert, lookup]
  | cons first rest ih =>
      obtain ⟨k, v⟩ := first
      obtain ⟨head, tail⟩ := sorted_cons.mp sorted
      by_cases hlt : key < k
      · -- the new key is below every key of a sorted list, so it was absent
        have absent : lookup key ((k, v) :: rest) = none := by
          refine lookup_eq_none_of_lt fun entry mem => ?_
          rcases List.mem_cons.mp mem with here | there
          · exact here ▸ hlt
          · exact hlt.trans (head entry there)
        simp [insert, hlt, absent]
      · by_cases heq : key = k
        · subst heq
          simp [insert, lookup]
        · simp only [insert, hlt, heq, if_false, List.length_cons, lookup, ih tail]
          split <;> rfl

theorem erase_of_forall_ne {key : K} {entries : List (K × V)}
    (absent : ∀ entry ∈ entries, entry.1 ≠ key) : erase key entries = entries := by
  induction entries with
  | nil => rfl
  | cons first rest ih =>
      obtain ⟨k, v⟩ := first
      have hk : k ≠ key := absent (k, v) List.mem_cons_self
      simp only [erase, hk, if_false]
      rw [ih fun entry mem => absent entry (List.mem_cons_of_mem _ mem)]

theorem erase_sublist (key : K) (entries : List (K × V)) :
    List.Sublist (erase key entries) entries := by
  induction entries with
  | nil => exact List.Sublist.slnil
  | cons first rest ih =>
      obtain ⟨k, v⟩ := first
      by_cases hk : k = key
      · simpa [erase, hk] using ih.cons (k, v)
      · simpa [erase, hk] using ih.cons_cons (k, v)

theorem sorted_erase (key : K) {entries : List (K × V)} (sorted : Sorted entries) :
    Sorted (erase key entries) :=
  List.Pairwise.sublist (erase_sublist key entries) sorted

theorem lookup_erase_self (key : K) (entries : List (K × V)) :
    lookup key (erase key entries) = none := by
  induction entries with
  | nil => rfl
  | cons first rest ih =>
      obtain ⟨k, v⟩ := first
      by_cases hk : k = key
      · simp [erase, hk, ih]
      · simp [erase, Ne.symm hk, hk, ih]

theorem lookup_erase_of_ne {key other : K} (entries : List (K × V)) (hne : other ≠ key) :
    lookup other (erase key entries) = lookup other entries := by
  induction entries with
  | nil => rfl
  | cons first rest ih =>
      obtain ⟨k, v⟩ := first
      by_cases hk : k = key
      · subst hk
        simp [erase, lookup, hne, ih]
      · by_cases same : other = k <;> simp [erase, lookup, hk, same, ih]

theorem length_erase (key : K) {entries : List (K × V)} (sorted : Sorted entries) :
    (erase key entries).length =
      if (lookup key entries).isSome then entries.length - 1 else entries.length := by
  induction entries with
  | nil => rfl
  | cons first rest ih =>
      obtain ⟨k, v⟩ := first
      obtain ⟨head, tail⟩ := sorted_cons.mp sorted
      by_cases hk : k = key
      · -- the only entry with this key is the head, so the rest is kept whole
        subst hk
        have kept : erase k rest = rest :=
          erase_of_forall_ne fun entry mem => (head entry mem).ne'
        have dropped : erase k ((k, v) :: rest) = rest := by
          simp [erase, kept]
        simp [dropped, lookup]
      · have kept : erase key ((k, v) :: rest) = (k, v) :: erase key rest := by
          simp [erase, hk]
        have hne : key ≠ k := Ne.symm hk
        rw [kept, List.length_cons, ih tail]
        simp only [lookup, hne, if_false, List.length_cons]
        split
        · have nonempty : rest.length ≠ 0 := by
            intro empty
            rename_i found
            rw [List.length_eq_zero_iff.mp empty] at found
            cases found
          omega
        · rfl

/-- Two sorted entry lists with the same lookups are equal. -/
theorem eq_of_lookup_eq : ∀ {first second : List (K × V)}, Sorted first → Sorted second →
    (∀ key, lookup key first = lookup key second) → first = second
  | [], [], _, _, _ => rfl
  | [], (k, v) :: _, _, _, same => by simpa [lookup] using same k
  | (k, v) :: _, [], _, _, same => by simpa [lookup] using same k
  | (k₁, v₁) :: rest₁, (k₂, v₂) :: rest₂, sorted₁, sorted₂, same => by
      obtain ⟨head₁, tail₁⟩ := sorted_cons.mp sorted₁
      obtain ⟨head₂, tail₂⟩ := sorted_cons.mp sorted₂
      -- each head key is the least key of its list, so the heads must agree
      have hk : k₁ = k₂ := by
        rcases lt_trichotomy k₁ k₂ with hlt | heq | hgt
        · have missing : lookup k₁ ((k₂, v₂) :: rest₂) = none := by
            refine lookup_eq_none_of_lt fun entry mem => ?_
            rcases List.mem_cons.mp mem with here | there
            · exact here ▸ hlt
            · exact hlt.trans (head₂ entry there)
          have contra := same k₁
          rw [missing] at contra
          simp [lookup] at contra
        · exact heq
        · have missing : lookup k₂ ((k₁, v₁) :: rest₁) = none := by
            refine lookup_eq_none_of_lt fun entry mem => ?_
            rcases List.mem_cons.mp mem with here | there
            · exact here ▸ hgt
            · exact hgt.trans (head₁ entry there)
          have contra := same k₂
          rw [missing] at contra
          simp [lookup] at contra
      subst hk
      have hv : v₁ = v₂ := by simpa [lookup] using same k₁
      have tails : ∀ key, lookup key rest₁ = lookup key rest₂ := by
        intro key
        by_cases hkey : key = k₁
        · subst hkey
          rw [lookup_eq_none_of_lt fun entry mem => head₁ entry mem,
            lookup_eq_none_of_lt fun entry mem => head₂ entry mem]
        · simpa [lookup, hkey] using same key
      rw [hv, eq_of_lookup_eq tail₁ tail₂ tails]

theorem lookup_append (key : K) (first second : List (K × V)) :
    lookup key (first ++ second) = (lookup key first).or (lookup key second) := by
  induction first with
  | nil => rfl
  | cons entry rest ih =>
      rw [List.cons_append, lookup_cons, lookup_cons, ih]
      split <;> simp

/-- The entries of a list of keys all paired with one value. -/
theorem lookup_map_pair (key : K) (keys : List K) (value : V) :
    lookup key (keys.map fun other => (other, value)) = if key ∈ keys then some value else none := by
  induction keys with
  | nil => simp
  | cons first rest ih =>
      rw [List.map_cons, lookup_cons, ih]
      by_cases same : key = first <;> simp [same]

/-- Entries made one by one from a list of sources, each keyed as its source: the entry
found for a key is the one made from the first source with that key. -/
theorem lookup_of_forall₂ {β : Type} {keyOf : β → K} {made : β → K × V → Prop}
    (keyed : ∀ source entry, made source entry → entry.1 = keyOf source) {sources : List β}
    {entries : List (K × V)} (related : List.Forall₂ made sources entries) (key : K) :
    Option.Rel (fun source value => made source (key, value))
      (sources.find? fun source => keyOf source = key) (lookup key entries) := by
  induction related with
  | nil => exact .none
  | @cons source entry sources entries madeHead _ ih =>
      have sameKey := keyed source entry madeHead
      rw [List.find?_cons, lookup_cons]
      by_cases found : keyOf source = key
      · have atKey : key = entry.1 := sameKey.trans found |>.symm
        rw [if_pos atKey]
        simp only [found, decide_true]
        exact .some (by rw [atKey]; exact madeHead)
      · have notKey : key ≠ entry.1 := fun same => found (sameKey ▸ same.symm)
        rw [if_neg notKey]
        simpa [found] using ih

omit [LinearOrder K] in
/-- Entries made one by one from a list of sources, each keyed as its source, have the
sources' keys in the same order. -/
theorem map_fst_of_forall₂ {β : Type} {keyOf : β → K} {made : β → K × V → Prop}
    (keyed : ∀ source entry, made source entry → entry.1 = keyOf source) {sources : List β}
    {entries : List (K × V)} (related : List.Forall₂ made sources entries) :
    entries.map Prod.fst = sources.map keyOf := by
  induction related with
  | nil => rfl
  | cons madeHead _ ih => rw [List.map_cons, List.map_cons, keyed _ _ madeHead, ih]

/-- Keep the entries for which `f` gives a value, paired with that value. -/
def filterMap {W : Type} (f : K → V → Option W) (entries : List (K × V)) : List (K × W) :=
  entries.filterMap fun entry => (f entry.1 entry.2).map (entry.1, ·)

theorem sorted_filterMap {W : Type} (f : K → V → Option W) {entries : List (K × V)}
    (sorted : Sorted entries) : Sorted (filterMap f entries) := by
  refine List.Pairwise.filterMap _ (fun first second below kept hkept kept' hkept' => ?_) sorted
  obtain ⟨value, -, rfl⟩ := Option.map_eq_some_iff.mp hkept
  obtain ⟨value', -, rfl⟩ := Option.map_eq_some_iff.mp hkept'
  exact below

theorem lookup_filterMap {W : Type} (f : K → V → Option W) {entries : List (K × V)}
    (sorted : Sorted entries) (key : K) :
    lookup key (filterMap f entries) = (lookup key entries).bind (f key) := by
  induction entries with
  | nil => rfl
  | cons entry rest ih =>
      obtain ⟨above, sortedRest⟩ := sorted_cons.mp sorted
      cases hf : f entry.1 entry.2 with
      | none =>
          have dropped : filterMap f (entry :: rest) = filterMap f rest := by
            simp [filterMap, hf]
          rw [dropped, lookup_cons, ih sortedRest]
          by_cases same : key = entry.1
          · subst same
            rw [if_pos rfl, lookup_eq_none_of_lt above]
            simp [hf]
          · rw [if_neg same]
      | some kept =>
          have retained : filterMap f (entry :: rest) = (entry.1, kept) :: filterMap f rest := by
            simp [filterMap, hf]
          rw [retained, lookup_cons, lookup_cons, ih sortedRest]
          by_cases same : key = entry.1
          · subst same
            simp [hf]
          · simp [same]

end Entries

/-! ## Sorted maps -/

/-- A finite map whose entries are listed in strictly ascending key order. -/
structure SortedMap (K : Type) (V : Type) [LinearOrder K] where
  entries : List (K × V)
  sorted : Entries.Sorted entries

/-- A finite set is a sorted map to `Unit`. -/
abbrev SortedSet (K : Type) [LinearOrder K] := SortedMap K Unit

namespace SortedMap

variable {K V : Type} [LinearOrder K]

instance : EmptyCollection (SortedMap K V) := ⟨⟨[], Entries.sorted_nil⟩⟩

instance : Inhabited (SortedMap K V) := ⟨∅⟩

def get? (map : SortedMap K V) (key : K) : Option V :=
  Entries.lookup key map.entries

def contains (map : SortedMap K V) (key : K) : Bool :=
  (map.get? key).isSome

def insert (map : SortedMap K V) (key : K) (value : V) : SortedMap K V :=
  ⟨Entries.insert key value map.entries, Entries.sorted_insert key value map.sorted⟩

def erase (map : SortedMap K V) (key : K) : SortedMap K V :=
  ⟨Entries.erase key map.entries, Entries.sorted_erase key map.sorted⟩

def size (map : SortedMap K V) : Nat :=
  map.entries.length

/-- Keys in ascending order. -/
def keys (map : SortedMap K V) : List K :=
  map.entries.map Prod.fst

/-- Collect entries in order; a later entry overwrites an earlier one with the same key. -/
def ofList (entries : List (K × V)) : SortedMap K V :=
  entries.foldl (fun map entry => map.insert entry.1 entry.2) ∅

theorem entries_injective {first second : SortedMap K V}
    (same : first.entries = second.entries) : first = second := by
  cases first
  cases second
  cases same
  rfl

instance [DecidableEq V] : DecidableEq (SortedMap K V) := fun first second =>
  decidable_of_iff (first.entries = second.entries)
    ⟨entries_injective, fun same => same ▸ rfl⟩

/-- Maps with the same lookups are equal. -/
@[ext]
theorem ext {first second : SortedMap K V} (same : ∀ key, first.get? key = second.get? key) :
    first = second :=
  entries_injective (Entries.eq_of_lookup_eq first.sorted second.sorted same)

@[simp]
theorem get?_empty (key : K) : (∅ : SortedMap K V).get? key = none := rfl

@[simp]
theorem size_empty : (∅ : SortedMap K V).size = 0 := rfl

@[simp]
theorem get?_insert_self (map : SortedMap K V) (key : K) (value : V) :
    (map.insert key value).get? key = some value :=
  Entries.lookup_insert_self key value map.entries

theorem get?_insert_of_ne (map : SortedMap K V) {key other : K} (value : V)
    (hne : other ≠ key) : (map.insert key value).get? other = map.get? other :=
  Entries.lookup_insert_of_ne value map.entries hne

theorem get?_insert (map : SortedMap K V) (key other : K) (value : V) :
    (map.insert key value).get? other = if other = key then some value else map.get? other := by
  by_cases same : other = key
  · subst same
    simp
  · simp [same, get?_insert_of_ne map value same]

@[simp]
theorem get?_erase_self (map : SortedMap K V) (key : K) : (map.erase key).get? key = none :=
  Entries.lookup_erase_self key map.entries

theorem get?_erase_of_ne (map : SortedMap K V) {key other : K} (hne : other ≠ key) :
    (map.erase key).get? other = map.get? other :=
  Entries.lookup_erase_of_ne map.entries hne

theorem get?_erase (map : SortedMap K V) (key other : K) :
    (map.erase key).get? other = if other = key then none else map.get? other := by
  by_cases same : other = key
  · subst same
    simp
  · simp [same, get?_erase_of_ne map same]

theorem size_insert (map : SortedMap K V) (key : K) (value : V) :
    (map.insert key value).size = if map.contains key then map.size else map.size + 1 :=
  Entries.length_insert key value map.sorted

theorem size_erase (map : SortedMap K V) (key : K) :
    (map.erase key).size = if map.contains key then map.size - 1 else map.size :=
  Entries.length_erase key map.sorted

/-- Inserting a list of entries with distinct keys: a listed key takes its listed value. -/
theorem get?_foldl_insert {entries : List (K × V)} (distinct : (entries.map Prod.fst).Nodup)
    (map : SortedMap K V) (key : K) :
    (entries.foldl (fun acc entry => acc.insert entry.1 entry.2) map).get? key =
      (Entries.lookup key entries).or (map.get? key) := by
  induction entries generalizing map with
  | nil => simp [Entries.lookup]
  | cons first rest ih =>
      obtain ⟨k, v⟩ := first
      obtain ⟨fresh, distinctRest⟩ := List.nodup_cons.mp distinct
      rw [List.foldl_cons, ih distinctRest]
      by_cases same : key = k
      · subst same
        have absent : Entries.lookup key rest = none :=
          Entries.lookup_eq_none_of_forall_ne fun entry mem hkey =>
            fresh (List.mem_map.mpr ⟨entry, mem, hkey⟩)
        simp [Entries.lookup, absent]
      · simp [Entries.lookup, same, get?_insert_of_ne map v same]

theorem get?_ofList {entries : List (K × V)} (distinct : (entries.map Prod.fst).Nodup)
    (key : K) : (ofList entries).get? key = Entries.lookup key entries := by
  simp [ofList, get?_foldl_insert distinct]

theorem mem_keys {map : SortedMap K V} {key : K} : key ∈ map.keys ↔ map.contains key := by
  constructor
  · intro mem
    obtain ⟨entry, hentry, rfl⟩ := List.mem_map.mp mem
    have found := Entries.lookup_eq_some_of_mem map.sorted hentry
    simp [contains, get?, found]
  · intro found
    obtain ⟨value, hvalue⟩ := Option.isSome_iff_exists.mp found
    exact List.mem_map.mpr ⟨(key, value), Entries.mem_of_lookup_eq_some hvalue, rfl⟩

theorem pairwise_keys (map : SortedMap K V) : map.keys.Pairwise (· < ·) :=
  List.pairwise_map.mpr map.sorted

theorem keys_nodup (map : SortedMap K V) : map.keys.Nodup :=
  (List.pairwise_map.mpr map.sorted).imp ne_of_lt

theorem size_eq_length_keys (map : SortedMap K V) : map.size = map.keys.length := by
  simp [size, keys]

/-- The entries for which `f` gives a value, with that value (keys are kept). -/
def filterMap {W : Type} (f : K → V → Option W) (map : SortedMap K V) : SortedMap K W :=
  ⟨Entries.filterMap f map.entries, Entries.sorted_filterMap f map.sorted⟩

/-- Apply `f` to every value. -/
def map {W : Type} (f : V → W) (map : SortedMap K V) : SortedMap K W :=
  map.filterMap fun _ value => some (f value)

@[simp]
theorem get?_filterMap {W : Type} (f : K → V → Option W) (map : SortedMap K V) (key : K) :
    (map.filterMap f).get? key = (map.get? key).bind (f key) :=
  Entries.lookup_filterMap f map.sorted key

@[simp]
theorem get?_map {W : Type} (f : V → W) (map : SortedMap K V) (key : K) :
    (map.map f).get? key = (map.get? key).map f := by
  simp only [SortedMap.map, get?_filterMap]
  cases map.get? key <;> rfl

end SortedMap

/-! ## Finite sets in ascending order -/

section Ascending

variable {α : Type} [LinearOrder α]

/-- The members of a finite set in ascending order. -/
def ascending (s : Finset α) : List α :=
  Quot.liftOn s.val (List.insertionSort (· ≤ ·)) fun _ _ perm =>
    ((List.perm_insertionSort _ _).trans (perm.trans (List.perm_insertionSort _ _).symm)).eq_of_pairwise'
      (List.pairwise_insertionSort _ _) (List.pairwise_insertionSort _ _)

theorem mem_ascending {s : Finset α} {a : α} : a ∈ ascending s ↔ a ∈ s := by
  rcases s with ⟨⟨members⟩, -⟩
  exact List.mem_insertionSort _

theorem nodup_ascending (s : Finset α) : (ascending s).Nodup := by
  rcases s with ⟨⟨members⟩, nodup⟩
  exact (List.perm_insertionSort _ members).nodup_iff.mpr nodup

theorem pairwise_ascending (s : Finset α) : (ascending s).Pairwise (· < ·) := by
  rcases s with ⟨⟨members⟩, nodup⟩
  have distinct : (List.insertionSort (· ≤ ·) members).Nodup :=
    (List.perm_insertionSort _ members).nodup_iff.mpr nodup
  exact ((List.pairwise_insertionSort _ _).and distinct).imp fun both => lt_of_le_of_ne both.1 both.2

theorem toFinset_ascending (s : Finset α) : (ascending s).toFinset = s := by
  ext a
  rw [List.mem_toFinset, mem_ascending]

theorem length_ascending (s : Finset α) : (ascending s).length = s.card := by
  rw [← List.toFinset_card_of_nodup (nodup_ascending s), toFinset_ascending]

/-- A strictly ascending list of the members of a set is the order `ascending` gives. -/
theorem ascending_eq {s : Finset α} {items : List α} (sorted : items.Pairwise (· < ·))
    (members : ∀ a, a ∈ items ↔ a ∈ s) : ascending s = items := by
  rcases s with ⟨⟨elements⟩, nodup⟩
  have perm : elements.Perm items :=
    (List.perm_ext_iff_of_nodup nodup (sorted.imp ne_of_lt)).mpr fun a => (members a).symm
  exact ((List.perm_insertionSort _ _).trans perm).eq_of_pairwise' (List.pairwise_insertionSort _ _)
    (sorted.imp le_of_lt)

end Ascending

end DockSubstrate.Lib
