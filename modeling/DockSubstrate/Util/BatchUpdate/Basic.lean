import DockSubstrate.Util.KeyValue
import DockSubstrate.Lib.MachineInt

/-!
# Batch updates: kinds, errors and interfaces

`util/batch_update.rs` describes an update of an entity as a value that is first
validated against an actor and the current entity (`ensure_valid`), then applied
(`apply_update`).  Updates nest: a keyed update of a map carries one inner update per
key, which acts on the optional value stored there.  The traits of the source are the
classes below; the combinators are the data types at the end of this file, and their
instances live in `Combinators` and `MultiTarget`.

`apply_update` mutates in place and panics on the branches validation should have
excluded; here it returns the new entity or the panic that stops the execution.
-/

namespace DockSubstrate.Util

open DockSubstrate.Lib

/-- What applying an update does to the entity (`UpdateKind`). -/
inductive UpdateKind where
  | add
  | remove
  | replace
  | none
  deriving DecidableEq, Repr

/-- `UpdateKind::default()`. -/
instance : Inhabited UpdateKind := ⟨.none⟩

namespace UpdateKind

/-- The change of a container's length counted by `MultiTargetUpdate::ensure_valid`. -/
def lenDiff : UpdateKind → Int
  | add => 1
  | remove => -1
  | _ => 0

end UpdateKind

/-- `UpdateError`: why a validation failed. -/
inductive UpdateError where
  | doesntExist
  | alreadyExists
  | invalidActor
  | overflow
  | underflow
  | capacityOverflow
  | validationFailed
  deriving DecidableEq, Repr

/-- The panics of the update machinery: every `panic!`, `expect` and `unwrap_modify` of
`batch_update.rs`, and the `expect` of the trust registry's `record_inner_diff`. -/
inductive Panic where
  | updateFailed
  | entityAlreadyExists
  | cantRemoveNonExisting
  | onlyExistentFailed
  | overflow
  | absentCounter
  | underflow
  | setOrModifySet
  | entityExpected
  deriving DecidableEq, Repr

/-- The message each panic prints. -/
def Panic.message : Panic → String
  | .updateFailed => "`MultiTargetUpdate` update failed"
  | .entityAlreadyExists => "Entity already exists"
  | .cantRemoveNonExisting => "Can't remove non-existing entity"
  | .onlyExistentFailed => "`OnlyExistent` update failed"
  | .overflow => "Overflow"
  | .absentCounter => "Attempt to decrement an absent counter"
  | .underflow => "Underflow"
  | .setOrModifySet => "Panic on `SetOrModify::Set`"
  | .entityExpected => "An entity expected"

/-- How a call ends when it does not succeed: with an error of its pallet, which
discards its changes, or with a panic, which aborts the whole block. -/
inductive Failure (E : Type) where
  | error (error : E)
  | panic (panic : Panic)
  deriving DecidableEq, Repr

/-- Change the error of a failure; a panic stays a panic. -/
def Failure.mapError {E E' : Type} (f : E → E') : Failure E → Failure E'
  | .error cause => .error (f cause)
  | .panic reason => .panic reason

/-- `DuplicateKey`: a diff already holds an entry for the key. -/
structure DuplicateKey where
  deriving DecidableEq, Repr

/-! ## The traits -/

/-- `CanUpdate`: may the actor add, replace or remove an entity?  Every method
defaults to `false`, as in the source. -/
class CanUpdate (A : Type) (E : Type) where
  canAdd : A → E → Bool := fun _ _ => false
  /-- `can_replace(actor, new, current)`. -/
  canReplace : A → E → E → Bool := fun _ _ _ => false
  canRemove : A → E → Bool := fun _ _ => false

/-- `CanUpdateKeyed`: may the actor apply a keyed update touching the given targets?
The implementations of the source only read the update's targets, so the update is
passed as its target list. -/
class CanUpdateKeyed (A : Type) (C : Type) (K : outParam Type) where
  canUpdateKeyed : A → C → List K → Bool := fun _ _ _ => false

/-- `GetUpdateKind`. -/
class GetUpdateKind (U : Type) (E : Type) where
  kind : U → E → UpdateKind

/-- `ApplyUpdate`: the entity after the update, or the panic it raises. -/
class ApplyUpdate (U : Type) (E : Type) where
  applyUpdate : U → E → Except Panic E

/-- `ValidateUpdate`. -/
class ValidateUpdate (A : Type) (U : Type) (E : Type) where
  ensureValid : U → A → E → Except UpdateError Unit

/-- `CombineUpdates` with `Combined = Self`, the only form the source uses. -/
class CombineUpdates (U : Type) (Error : outParam Type) where
  combine : U → U → Except Error U

/-- `TranslateUpdate` for the infallible translations between updates. -/
class TranslateUpdate (U : Type) (ToUpdate : Type) where
  translateUpdate : U → ToUpdate

/-- A counter value: `Deref<Target = NonZeroU32> + From<NonZeroU32>`. -/
class CounterValue (V : Type) where
  toNonZero : V → NonZeroU32
  ofNonZero : NonZeroU32 → V

export CanUpdate (canAdd canReplace canRemove)
export CanUpdateKeyed (canUpdateKeyed)
export GetUpdateKind (kind)
export ApplyUpdate (applyUpdate)
export ValidateUpdate (ensureValid)

/-- `impl<T> CanUpdate<()> for T`: every actor may add, replace and remove `()`. -/
instance (A : Type) : CanUpdate A Unit where
  canAdd _ _ := true
  canReplace _ _ _ := true
  canRemove _ _ := true

/-! ## The unit update `()` -/

instance (V : Type) : GetUpdateKind Unit V := ⟨fun _ _ => .none⟩

instance (V : Type) : ApplyUpdate Unit V := ⟨fun _ entity => .ok entity⟩

instance (A V : Type) : ValidateUpdate A Unit V := ⟨fun _ _ _ => .ok ()⟩

instance : TranslateUpdate Unit Unit := ⟨id⟩

/-! ## The update combinators -/

/-- `MultiTargetUpdate`: one update per key of a keyed container. -/
structure MultiTargetUpdate (K : Type) (U : Type) [LinearOrder K] where
  updates : SortedMap K U

/-- `SingleTargetUpdate`: an update of one key. -/
structure SingleTargetUpdate (K : Type) (U : Type) where
  key : K
  update : U
  deriving DecidableEq, Repr

/-- Set, add or remove a value, or apply a nested update. -/
inductive SetOrAddOrRemoveOrModify (V : Type) (U : Type) where
  | set (value : V)
  | add (value : V)
  | remove
  | modify (update : U)
  deriving DecidableEq, Repr

/-- Add or remove a value, or apply a nested update. -/
inductive AddOrRemoveOrModify (V : Type) (U : Type) where
  | add (value : V)
  | remove
  | modify (update : U)
  deriving DecidableEq, Repr

/-- Set a value or apply a nested update. -/
inductive SetOrModify (V : Type) (U : Type) where
  | set (value : V)
  | modify (update : U)
  deriving DecidableEq, Repr

/-- Apply an update to an entity that must exist. -/
structure OnlyExistent (U : Type) where
  update : U
  deriving DecidableEq, Repr

/-- Increase or decrease a counter. -/
inductive IncOrDec where
  | inc (value : NonZeroU32)
  | dec (value : NonZeroU32)
  | none
  deriving DecidableEq, Repr

namespace MultiTargetUpdate

variable {K U : Type} [LinearOrder K]

instance : EmptyCollection (MultiTargetUpdate K U) := ⟨⟨∅⟩⟩

instance : Inhabited (MultiTargetUpdate K U) := ⟨∅⟩

instance [DecidableEq U] : DecidableEq (MultiTargetUpdate K U) := fun first second =>
  decidable_of_iff (first.updates = second.updates)
    ⟨fun same => by cases first; cases second; cases same; rfl, fun same => same ▸ rfl⟩

/-- The update of one key. -/
def get? (update : MultiTargetUpdate K U) (key : K) : Option U :=
  update.updates.get? key

/-- The updated keys, in ascending order. -/
def keys (update : MultiTargetUpdate K U) : List K :=
  update.updates.keys

def isEmpty (update : MultiTargetUpdate K U) : Bool :=
  update.updates.entries.isEmpty

/-- `BTreeMap::insert`: set the update of a key, replacing an earlier one. -/
def insert (update : MultiTargetUpdate K U) (key : K) (inner : U) : MultiTargetUpdate K U :=
  ⟨update.updates.insert key inner⟩

/-- `collect` from a list of keyed updates. -/
def ofList (entries : List (K × U)) : MultiTargetUpdate K U :=
  ⟨SortedMap.ofList entries⟩

@[simp]
theorem get?_empty (key : K) : (∅ : MultiTargetUpdate K U).get? key = none := rfl

@[simp]
theorem get?_insert (update : MultiTargetUpdate K U) (key other : K) (inner : U) :
    (update.insert key inner).get? other = if other = key then some inner else update.get? other :=
  SortedMap.get?_insert _ _ _ _

@[simp]
theorem isEmpty_empty : (∅ : MultiTargetUpdate K U).isEmpty = true := rfl

@[simp]
theorem isEmpty_insert (update : MultiTargetUpdate K U) (key : K) (inner : U) :
    (update.insert key inner).isEmpty = false := by
  have found : (update.insert key inner).get? key = some inner := by simp
  unfold isEmpty
  cases entries : (update.insert key inner).updates.entries with
  | nil =>
      change Entries.lookup key (update.insert key inner).updates.entries = some inner at found
      rw [entries] at found
      cases found
  | cons => rfl

theorem get?_of_isEmpty {update : MultiTargetUpdate K U} (empty : update.isEmpty = true) (key : K) :
    update.get? key = none := by
  change Entries.lookup key update.updates.entries = none
  rw [List.isEmpty_iff.mp empty]
  rfl

@[ext]
theorem ext {first second : MultiTargetUpdate K U} (same : ∀ key, first.get? key = second.get? key) :
    first = second := by
  cases first
  cases second
  exact congrArg _ (SortedMap.ext same)

end MultiTargetUpdate

/-- `KeyedUpdate`: an update applied over some keys of a container.  `keysDiff` lists
the keys the update adds and removes. -/
class KeyedUpdate (U : Type) (C : Type) (K : outParam Type) [LinearOrder K] where
  targets : U → C → List K
  size : U → Nat
  keysDiff : U → C → MultiTargetUpdate K (AddOrRemoveOrModify Unit Unit)

end DockSubstrate.Util
