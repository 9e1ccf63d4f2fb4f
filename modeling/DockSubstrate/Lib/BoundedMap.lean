import Mathlib
import DockSubstrate.Lib.SortedMap

/-!
# Sorted maps, strings and byte vectors with a length bound

A bounded map never holds more entries than its bound.  Insertion of a new key
into a full map is refused and leaves the map as it was; insertion of a key that
is already present replaces its value and always succeeds.  A bounded set is a
bounded map to `Unit`.  Bounded strings and byte vectors carry their bound in the
same way, and are built from unbounded ones by a checked conversion.
-/

namespace DockSubstrate.Lib

/-- A sorted map that carries the proof that it respects its bound. -/
structure BoundedMap (K V : Type) [LinearOrder K] (bound : Nat) where
  map : SortedMap K V
  size_le : map.size ≤ bound

abbrev BoundedSet (K : Type) [LinearOrder K] (bound : Nat) := BoundedMap K Unit bound

namespace BoundedMap

variable {K V : Type} [LinearOrder K] {bound : Nat}

instance : EmptyCollection (BoundedMap K V bound) := ⟨⟨∅, Nat.zero_le _⟩⟩

instance : Inhabited (BoundedMap K V bound) := ⟨∅⟩

def get? (map : BoundedMap K V bound) (key : K) : Option V :=
  map.map.get? key

def contains (map : BoundedMap K V bound) (key : K) : Bool :=
  map.map.contains key

def size (map : BoundedMap K V bound) : Nat :=
  map.map.size

def keys (map : BoundedMap K V bound) : List K :=
  map.map.keys

/-- Insert unless this would add a key to a map that is already full. -/
def tryInsert (map : BoundedMap K V bound) (key : K) (value : V) :
    Option (BoundedMap K V bound) :=
  if fits : map.size < bound ∨ map.contains key = true then
    some ⟨map.map.insert key value, by
      rw [SortedMap.size_insert]
      split
      · exact map.size_le
      · rename_i absent
        rcases fits with room | present
        · exact room
        · exact absent.elim present⟩
  else none

def remove (map : BoundedMap K V bound) (key : K) : BoundedMap K V bound :=
  ⟨map.map.erase key, by
    rw [SortedMap.size_erase]
    split
    · exact Nat.le_trans (Nat.sub_le _ _) map.size_le
    · exact map.size_le⟩

/-- Checked conversion of an unbounded map. -/
def ofSortedMap? (map : SortedMap K V) : Option (BoundedMap K V bound) :=
  if fits : map.size ≤ bound then some ⟨map, fits⟩ else none

theorem map_injective {first second : BoundedMap K V bound}
    (same : first.map = second.map) : first = second := by
  cases first
  cases second
  cases same
  rfl

instance [DecidableEq V] : DecidableEq (BoundedMap K V bound) := fun first second =>
  decidable_of_iff (first.map = second.map) ⟨map_injective, fun same => same ▸ rfl⟩

@[ext]
theorem ext {first second : BoundedMap K V bound}
    (same : ∀ key, first.get? key = second.get? key) : first = second :=
  map_injective (SortedMap.ext same)

@[simp]
theorem get?_empty (key : K) : (∅ : BoundedMap K V bound).get? key = none := rfl

@[simp]
theorem size_empty : (∅ : BoundedMap K V bound).size = 0 := rfl

theorem size_le_bound (map : BoundedMap K V bound) : map.size ≤ bound :=
  map.size_le

theorem contains_eq_isSome (map : BoundedMap K V bound) (key : K) :
    map.contains key = (map.get? key).isSome := rfl

theorem tryInsert_eq_some_iff {map : BoundedMap K V bound} {key : K} {value : V} :
    (map.tryInsert key value).isSome ↔ map.size < bound ∨ map.contains key = true := by
  unfold tryInsert
  split <;> simp_all

theorem get?_of_tryInsert {map result : BoundedMap K V bound} {key : K} {value : V}
    (inserted : map.tryInsert key value = some result) (other : K) :
    result.get? other = if other = key then some value else map.get? other := by
  unfold tryInsert at inserted
  split at inserted
  · cases inserted
    exact SortedMap.get?_insert map.map key other value
  · cases inserted

theorem size_of_tryInsert {map result : BoundedMap K V bound} {key : K} {value : V}
    (inserted : map.tryInsert key value = some result) :
    result.size = if map.contains key then map.size else map.size + 1 := by
  unfold tryInsert at inserted
  split at inserted
  · cases inserted
    exact SortedMap.size_insert map.map key value
  · cases inserted

@[simp]
theorem get?_remove (map : BoundedMap K V bound) (key other : K) :
    (map.remove key).get? other = if other = key then none else map.get? other :=
  SortedMap.get?_erase map.map key other

theorem size_remove (map : BoundedMap K V bound) (key : K) :
    (map.remove key).size = if map.contains key then map.size - 1 else map.size :=
  SortedMap.size_erase map.map key

theorem mem_keys {map : BoundedMap K V bound} {key : K} :
    key ∈ map.keys ↔ map.contains key = true :=
  SortedMap.mem_keys

end BoundedMap

/-! ## Bounded strings and byte vectors -/

/-- A string whose UTF-8 encoding has at most `bound` bytes. -/
structure BoundedString (bound : Nat) where
  value : String
  size_le : value.utf8ByteSize ≤ bound

namespace BoundedString

variable {bound : Nat}

theorem value_injective : Function.Injective (value : BoundedString bound → String) :=
  fun ⟨_, _⟩ ⟨_, _⟩ same => by cases same; rfl

instance : LinearOrder (BoundedString bound) := LinearOrder.lift' value value_injective

/-- The checked conversion from a string. -/
def ofString? (value : String) : Option (BoundedString bound) :=
  if fits : value.utf8ByteSize ≤ bound then some ⟨value, fits⟩ else none

end BoundedString

/-- A byte vector of at most `bound` bytes. -/
structure BoundedBytes (bound : Nat) where
  bytes : List UInt8
  length_le : bytes.length ≤ bound
  deriving DecidableEq

/-- The checked conversion from a byte vector. -/
def BoundedBytes.ofBytes? {bound : Nat} (bytes : List UInt8) : Option (BoundedBytes bound) :=
  if fits : bytes.length ≤ bound then some ⟨bytes, fits⟩ else none

end DockSubstrate.Lib
