import DockSubstrate.Lib.BoundedMap

/-!
# Key-value containers

`KeyValue` (`util/key_value.rs`) is the interface through which batch updates
read and write keyed containers: a capacity (absent for unbounded maps), the
number of entries, lookup, removal of one entry (`take`), insertion that may be
refused by a full container (`try_add`) and the ascending key list.  It is
implemented by bounded and unbounded B-tree maps and sets; sets are maps to
`Unit`.  The pallets wrap these containers in newtypes (`impl_wrapper!`) that reach
the container through `Deref`; a `Wrapper` instance gives such a newtype the
container's interface and laws.

`LawfulKeyValue` collects what the batch-update proofs use of an
implementation: a container is determined by its lookups, never holds more
entries than its capacity, and `take`/`try_add` change exactly one key.
-/

namespace DockSubstrate.Util

open DockSubstrate.Lib

class KeyValue (C : Type) (K V : outParam Type) where
  capacity : C → Option Nat
  len : C → Nat
  get : C → K → Option V
  take : C → K → Option V × C
  tryAdd : C → K → V → Option C
  keys : C → List K

namespace KeyValue

variable {C K V : Type} [KeyValue C K V]

def containsKey (entity : C) (key : K) : Bool :=
  (get entity key).isSome

def isEmpty (entity : C) : Bool :=
  len entity == 0

end KeyValue

open KeyValue

class LawfulKeyValue (C K V : Type) [KeyValue C K V] [DecidableEq K] : Prop where
  ext : ∀ {first second : C}, (∀ key, get first key = get second key) → first = second
  len_le_capacity : ∀ (entity : C) (cap : Nat), capacity entity = some cap → len entity ≤ cap
  take_fst : ∀ (entity : C) (key : K), (take entity key).1 = get entity key
  get_take : ∀ (entity : C) (key other : K),
    get (take entity key).2 other = if other = key then none else get entity other
  len_take : ∀ (entity : C) (key : K),
    len (take entity key).2 = if (get entity key).isSome then len entity - 1 else len entity
  capacity_take : ∀ (entity : C) (key : K), capacity (take entity key).2 = capacity entity
  tryAdd_isSome : ∀ (entity : C) (key : K) (value : V), get entity key = none →
    ((tryAdd entity key value).isSome ↔ ∀ cap, capacity entity = some cap → len entity < cap)
  get_tryAdd : ∀ {entity result : C} {key : K} {value : V}, tryAdd entity key value = some result →
    ∀ other, get result other = if other = key then some value else get entity other
  len_tryAdd : ∀ {entity result : C} {key : K} {value : V}, tryAdd entity key value = some result →
    len result = if (get entity key).isSome then len entity else len entity + 1
  capacity_tryAdd : ∀ {entity result : C} {key : K} {value : V},
    tryAdd entity key value = some result → capacity result = capacity entity
  mem_keys : ∀ (entity : C) (key : K), key ∈ keys entity ↔ (get entity key).isSome
  keys_nodup : ∀ entity : C, (keys entity).Nodup
  len_eq_length_keys : ∀ entity : C, len entity = (keys entity).length

namespace KeyValue

variable {C K V : Type} [KeyValue C K V] [DecidableEq K] [LawfulKeyValue C K V]

/-- A container is empty exactly when it holds no key. -/
theorem isEmpty_eq_true_iff {entity : C} : isEmpty entity = true ↔ ∀ key, containsKey entity key = false := by
  rw [isEmpty, beq_iff_eq, LawfulKeyValue.len_eq_length_keys (V := V), List.length_eq_zero_iff,
    List.eq_nil_iff_forall_not_mem]
  simp [LawfulKeyValue.mem_keys, containsKey]

/-- A container whose keys are all keys of another, and which misses one key of it, is
shorter. -/
theorem len_lt_of_presence {smaller larger : C} {missing : K}
    (within : ∀ key, (get smaller key).isSome → (get larger key).isSome)
    (absent : get smaller missing = none) (present : (get larger missing).isSome) :
    len smaller < len larger := by
  rw [LawfulKeyValue.len_eq_length_keys (V := V) smaller, LawfulKeyValue.len_eq_length_keys (V := V) larger]
  have fresh : missing ∉ keys smaller := by simp [LawfulKeyValue.mem_keys, absent]
  have nodup : (missing :: keys smaller).Nodup :=
    List.nodup_cons.mpr ⟨fresh, LawfulKeyValue.keys_nodup smaller⟩
  have included : missing :: keys smaller ⊆ keys larger := by
    intro key mem
    rw [LawfulKeyValue.mem_keys]
    rcases List.mem_cons.mp mem with rfl | kept
    · exact present
    · exact within key ((LawfulKeyValue.mem_keys smaller key).mp kept)
  exact (nodup.subperm included).length_le

end KeyValue

/-! ## Bounded B-tree maps and sets -/

instance (K V : Type) [LinearOrder K] (bound : Nat) : KeyValue (BoundedMap K V bound) K V where
  capacity _ := some bound
  len map := map.size
  get map key := map.get? key
  take map key := (map.get? key, map.remove key)
  tryAdd map key value := map.tryInsert key value
  keys map := map.keys

instance (K V : Type) [LinearOrder K] (bound : Nat) : LawfulKeyValue (BoundedMap K V bound) K V where
  ext same := BoundedMap.ext same
  len_le_capacity map cap fixed := by
    cases fixed
    exact map.size_le_bound
  take_fst _ _ := rfl
  get_take map key other := BoundedMap.get?_remove map key other
  len_take map key := BoundedMap.size_remove map key
  capacity_take _ _ := rfl
  tryAdd_isSome map key value absent := by
    have missing : map.get? key = none := absent
    change (map.tryInsert key value).isSome ↔ ∀ cap, some bound = some cap → map.size < cap
    rw [BoundedMap.tryInsert_eq_some_iff, BoundedMap.contains_eq_isSome, missing]
    simp
  get_tryAdd inserted other := BoundedMap.get?_of_tryInsert inserted other
  len_tryAdd inserted := BoundedMap.size_of_tryInsert inserted
  capacity_tryAdd _ := rfl
  mem_keys map key := BoundedMap.mem_keys
  keys_nodup map := SortedMap.keys_nodup map.map
  len_eq_length_keys map := SortedMap.size_eq_length_keys map.map

/-! ## Unbounded B-tree maps and sets -/

instance (K V : Type) [LinearOrder K] : KeyValue (SortedMap K V) K V where
  capacity _ := none
  len map := map.size
  get map key := map.get? key
  take map key := (map.get? key, map.erase key)
  tryAdd map key value := some (map.insert key value)
  keys map := map.keys

instance (K V : Type) [LinearOrder K] : LawfulKeyValue (SortedMap K V) K V where
  ext same := SortedMap.ext same
  len_le_capacity _ _ unbounded := by cases unbounded
  take_fst _ _ := rfl
  get_take map key other := SortedMap.get?_erase map key other
  len_take map key := SortedMap.size_erase map key
  capacity_take _ _ := rfl
  tryAdd_isSome _ _ _ _ := by simp [capacity, tryAdd]
  get_tryAdd inserted other := by
    cases inserted
    exact SortedMap.get?_insert _ _ other _
  len_tryAdd inserted := by
    cases inserted
    exact SortedMap.size_insert _ _ _
  capacity_tryAdd _ := rfl
  mem_keys _ _ := SortedMap.mem_keys
  keys_nodup map := SortedMap.keys_nodup map
  len_eq_length_keys map := SortedMap.size_eq_length_keys map

/-! ## Newtypes over a container -/

/-- A newtype over a keyed container, reached through `Deref` in the source. -/
class Wrapper (W : Type) (C : outParam Type) where
  unwrap : W → C
  wrap : C → W
  wrap_unwrap : ∀ entity, wrap (unwrap entity) = entity

namespace Wrapper

variable {W C K V : Type} [Wrapper W C] [KeyValue C K V]

instance : KeyValue W K V where
  capacity entity := capacity (unwrap entity)
  len entity := len (unwrap entity)
  get entity := get (unwrap entity)
  take entity key := ((take (unwrap entity) key).1, wrap (take (unwrap entity) key).2)
  tryAdd entity key value := (tryAdd (unwrap entity) key value).map wrap
  keys entity := keys (unwrap entity)

/-- `Default` of a newtype: the empty container. -/
instance [EmptyCollection C] : EmptyCollection W := ⟨wrap ∅⟩

theorem unwrap_injective : Function.Injective (unwrap : W → C) := fun first second same => by
  rw [← wrap_unwrap first, ← wrap_unwrap second, same]

/-- The laws of the container hold of the newtype, provided `wrap` is undone by `unwrap`. -/
theorem lawfulKeyValue [DecidableEq K] [LawfulKeyValue C K V]
    (unwrap_wrap : ∀ entity : C, unwrap (wrap entity : W) = entity) : LawfulKeyValue W K V where
  ext same := unwrap_injective (LawfulKeyValue.ext (K := K) (V := V) same)
  len_le_capacity entity := LawfulKeyValue.len_le_capacity (unwrap entity)
  take_fst entity := LawfulKeyValue.take_fst (unwrap entity)
  get_take entity key other := by
    change get (unwrap (wrap _ : W)) other = _
    rw [unwrap_wrap]
    exact LawfulKeyValue.get_take (unwrap entity) key other
  len_take entity key := by
    change len (unwrap (wrap _ : W)) = _
    rw [unwrap_wrap]
    exact LawfulKeyValue.len_take (unwrap entity) key
  capacity_take entity key := by
    change capacity (unwrap (wrap _ : W)) = _
    rw [unwrap_wrap]
    exact LawfulKeyValue.capacity_take (V := V) (unwrap entity) key
  tryAdd_isSome entity key value absent := by
    change ((tryAdd (unwrap entity) key value).map wrap).isSome ↔ _
    rw [Option.isSome_map]
    exact LawfulKeyValue.tryAdd_isSome (unwrap entity) key value absent
  get_tryAdd added other := by
    obtain ⟨result, inner, rfl⟩ := Option.map_eq_some_iff.mp added
    change get (unwrap (wrap result : W)) other = _
    rw [unwrap_wrap]
    exact LawfulKeyValue.get_tryAdd inner other
  len_tryAdd added := by
    obtain ⟨result, inner, rfl⟩ := Option.map_eq_some_iff.mp added
    change len (unwrap (wrap result : W)) = _
    rw [unwrap_wrap]
    exact LawfulKeyValue.len_tryAdd (K := K) inner
  capacity_tryAdd added := by
    obtain ⟨result, inner, rfl⟩ := Option.map_eq_some_iff.mp added
    change capacity (unwrap (wrap result : W)) = _
    rw [unwrap_wrap]
    exact LawfulKeyValue.capacity_tryAdd (K := K) inner
  mem_keys entity key := LawfulKeyValue.mem_keys (unwrap entity) key
  keys_nodup entity := LawfulKeyValue.keys_nodup (V := V) (unwrap entity)
  len_eq_length_keys entity := LawfulKeyValue.len_eq_length_keys (V := V) (unwrap entity)

end Wrapper

end DockSubstrate.Util
