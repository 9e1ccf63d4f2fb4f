import DockSubstrate.Util.BatchUpdate.Combinators
import DockSubstrate.Lib.MergeJoin

/-!
# Keyed updates

`MultiTargetUpdate` applies one inner update per key of a keyed container
(`KeyValue`), `SingleTargetUpdate` is its one-key form, and `SetOrModify` over a
container either replaces it or applies a keyed update.  Besides kind, application
and validation, keyed updates report the keys they add and remove (`keys_diff`); the
trust registry records those diffs to maintain its indices.

Application follows the source step by step: the entries whose kind is `Remove` (for
the entity as it was) are applied first, then the others, each in key order; every
entry takes its value out, updates it and puts the result back, and a container that
refuses the value makes the whole application panic.
-/

namespace DockSubstrate.Util

open DockSubstrate.Lib KeyValue

namespace MultiTargetUpdate

variable {A C K V U : Type} [LinearOrder K]

/-- `insert_update`: record an update of a key that has none yet. -/
def insertUpdate (update : MultiTargetUpdate K U) (key : K) (value : U) :
    Except DuplicateKey (MultiTargetUpdate K U) :=
  match update.get? key with
  | .some _ => .error ⟨⟩
  | .none => .ok (update.insert key value)

/-- `insert_update_or_remove_duplicate_if`: an update of a key that already has one
cancels it when `removeIf` holds of the recorded update. -/
def insertUpdateOrRemoveDuplicateIf (update : MultiTargetUpdate K U) (key : K) (value : U)
    (removeIf : U → Bool) : Except DuplicateKey (MultiTargetUpdate K U) :=
  match update.get? key with
  | .some existing => if removeIf existing then .ok ⟨update.updates.erase key⟩ else .error ⟨⟩
  | .none => .ok (update.insert key value)

/-- One element of the merge join in `combine`: the entry of the side that has the key, or
the two updates of the key combined. -/
def combineJoined {E : Type} [CombineUpdates U E] :
    EitherOrBoth (K × U) (K × U) → Except E (K × U)
  | .left entry => pure entry
  | .right entry => pure entry
  | .both (key, leftUpdate) (_, rightUpdate) => do
      pure (key, ← CombineUpdates.combine leftUpdate rightUpdate)

/-- `combine`: a merge join of the two updates, combining the updates of common keys. -/
def combine {E : Type} [CombineUpdates U E] (self other : MultiTargetUpdate K U) :
    Except E (MultiTargetUpdate K U) := do
  let entries ← (mergeJoinEntries self.updates.entries other.updates.entries).mapM combineJoined
  pure (ofList entries)

instance {E : Type} [CombineUpdates U E] : CombineUpdates (MultiTargetUpdate K U) E := ⟨combine⟩

@[simp]
theorem combine_eq {E : Type} [CombineUpdates U E] (self other : MultiTargetUpdate K U) :
    CombineUpdates.combine self other = self.combine other := rfl

instance {UU : Type} [TranslateUpdate U UU] :
    TranslateUpdate (MultiTargetUpdate K U) (MultiTargetUpdate K UU) :=
  ⟨fun update => ⟨update.updates.map TranslateUpdate.translateUpdate⟩⟩

section Container

variable [KeyValue C K V]

/-- One step of `apply_update`: take the key's value out, apply the inner update, and
put the result back. -/
def applyEntry [ApplyUpdate U (Option V)] (entity : C) (entry : K × U) : Except Panic C := do
  let taken := take entity entry.1
  match ← ApplyUpdate.applyUpdate entry.2 taken.1 with
  | .some newValue =>
      match tryAdd taken.2 entry.1 newValue with
      | .some updated => pure updated
      | .none => throw .updateFailed
  | .none => pure taken.2

/-- The entries whose kind is `Remove` on the original entity. -/
def isRemoval [GetUpdateKind U (Option V)] (entity : C) (entry : K × U) : Bool :=
  GetUpdateKind.kind entry.2 (get entity entry.1) == .remove

def applyUpdate [GetUpdateKind U (Option V)] [ApplyUpdate U (Option V)]
    (update : MultiTargetUpdate K U) (entity : C) : Except Panic C :=
  let parts := update.updates.entries.partition (isRemoval entity)
  (parts.1 ++ parts.2).foldlM applyEntry entity

/-- `Replace` if some inner update does something, `None` otherwise. -/
def kind [GetUpdateKind U (Option V)] (update : MultiTargetUpdate K U) (entity : C) :
    UpdateKind :=
  if update.updates.entries.any fun entry => GetUpdateKind.kind entry.2 (get entity entry.1) != .none
  then .replace else .none

/-- The length `ensure_valid` predicts, after validating every inner update against the
current value of its key. -/
def newLen [GetUpdateKind U (Option V)] [ValidateUpdate A U (Option V)]
    (update : MultiTargetUpdate K U) (actor : A) (entity : C) : Except UpdateError Int :=
  update.updates.entries.foldlM (fun acc entry => do
      let valueOpt := get entity entry.1
      ValidateUpdate.ensureValid entry.2 actor valueOpt
      pure (acc + (GetUpdateKind.kind entry.2 valueOpt).lenDiff))
    (len entity : Int)

def ensureValid [CanUpdateKeyed A C K] [GetUpdateKind U (Option V)] [ValidateUpdate A U (Option V)]
    (update : MultiTargetUpdate K U) (actor : A) (entity : C) : Except UpdateError Unit := do
  unless canUpdateKeyed actor entity update.keys do throw .invalidActor
  let newLen ← update.newLen actor entity
  if newLen < 0 then throw .validationFailed
  else if (capacity entity).all fun cap => newLen.toNat ≤ cap then pure ()
  else throw .capacityOverflow

/-- `keys_diff`: the keys whose update adds or removes them. -/
def keysDiff [GetUpdateKind U (Option V)] (update : MultiTargetUpdate K U) (entity : C) :
    MultiTargetUpdate K (AddOrRemoveOrModify Unit Unit) :=
  ⟨update.updates.filterMap fun key inner =>
    match GetUpdateKind.kind inner (get entity key) with
    | .add => .some (.add ())
    | .remove => .some .remove
    | _ => .none⟩

instance [GetUpdateKind U (Option V)] [ApplyUpdate U (Option V)] :
    ApplyUpdate (MultiTargetUpdate K U) C := ⟨applyUpdate⟩

instance [GetUpdateKind U (Option V)] : GetUpdateKind (MultiTargetUpdate K U) C := ⟨kind⟩

instance [CanUpdateKeyed A C K] [GetUpdateKind U (Option V)] [ValidateUpdate A U (Option V)] :
    ValidateUpdate A (MultiTargetUpdate K U) C := ⟨ensureValid⟩

instance [GetUpdateKind U (Option V)] : KeyedUpdate (MultiTargetUpdate K U) C K where
  targets update _ := update.keys
  size update := update.updates.size
  keysDiff := keysDiff

@[simp]
theorem applyUpdate_eq [GetUpdateKind U (Option V)] [ApplyUpdate U (Option V)]
    (update : MultiTargetUpdate K U) (entity : C) :
    ApplyUpdate.applyUpdate update entity = update.applyUpdate entity := rfl

@[simp]
theorem kind_eq [GetUpdateKind U (Option V)] (update : MultiTargetUpdate K U) (entity : C) :
    GetUpdateKind.kind update entity = update.kind entity := rfl

@[simp]
theorem ensureValid_eq [CanUpdateKeyed A C K] [GetUpdateKind U (Option V)]
    [ValidateUpdate A U (Option V)] (update : MultiTargetUpdate K U) (actor : A) (entity : C) :
    ValidateUpdate.ensureValid update actor entity = update.ensureValid actor entity := rfl

@[simp]
theorem keysDiff_eq [GetUpdateKind U (Option V)] (update : MultiTargetUpdate K U) (entity : C) :
    KeyedUpdate.keysDiff update entity = update.keysDiff entity := rfl

end Container

end MultiTargetUpdate

/-- `record_inner_keys_diff`: file the keys the update adds and removes under `innerKey`
in a diff keyed by those keys; a key already filed under `innerKey` is an error. -/
def KeyedUpdate.recordInnerKeysDiff {U C K K' : Type} [LinearOrder K] [LinearOrder K']
    [KeyedUpdate U C K] (update : U) (entity : C) (innerKey : K')
    (map : MultiTargetUpdate K (MultiTargetUpdate K' (AddOrRemoveOrModify Unit Unit))) :
    Except DuplicateKey (MultiTargetUpdate K (MultiTargetUpdate K' (AddOrRemoveOrModify Unit Unit))) :=
  (KeyedUpdate.keysDiff update entity).updates.entries.foldlM (fun map entry => do
      let inner ← ((map.get? entry.1).getD ∅).insertUpdate innerKey entry.2
      pure (map.insert entry.1 inner))
    map

/-! ## `SingleTargetUpdate` -/

namespace SingleTargetUpdate

variable {A C K V U : Type} [LinearOrder K] [KeyValue C K V]

/-- `MultiTargetUpdate::from`. -/
def toMulti (update : SingleTargetUpdate K U) : MultiTargetUpdate K U :=
  MultiTargetUpdate.ofList [(update.key, update.update)]

def kind [GetUpdateKind U (Option V)] (update : SingleTargetUpdate K U) (entity : C) : UpdateKind :=
  if GetUpdateKind.kind update.update (get entity update.key) != .none then .replace else .none

/-- `keys_diff` matches on the kind of the whole update, which is never `Add` or `Remove`. -/
def keysDiff [GetUpdateKind U (Option V)] (update : SingleTargetUpdate K U) (entity : C) :
    MultiTargetUpdate K (AddOrRemoveOrModify Unit Unit) :=
  match update.kind entity with
  | .add => (SingleTargetUpdate.mk update.key (AddOrRemoveOrModify.add ())).toMulti
  | .remove => (SingleTargetUpdate.mk update.key AddOrRemoveOrModify.remove).toMulti
  | _ => ∅

instance [GetUpdateKind U (Option V)] [ApplyUpdate U (Option V)] :
    ApplyUpdate (SingleTargetUpdate K U) C := ⟨fun update => update.toMulti.applyUpdate⟩

instance [GetUpdateKind U (Option V)] : GetUpdateKind (SingleTargetUpdate K U) C := ⟨kind⟩

instance [CanUpdateKeyed A C K] [GetUpdateKind U (Option V)] [ValidateUpdate A U (Option V)] :
    ValidateUpdate A (SingleTargetUpdate K U) C := ⟨fun update => update.toMulti.ensureValid⟩

instance [GetUpdateKind U (Option V)] : KeyedUpdate (SingleTargetUpdate K U) C K where
  targets update _ := [update.key]
  size _ := 1
  keysDiff := keysDiff

end SingleTargetUpdate

/-! ## `SetOrModify` over a keyed container -/

namespace SetOrModify

variable {C K V U : Type} [LinearOrder K] [KeyValue C K V]

/-- The diff of replacing `entity` by `item`: its new keys are added and its missing
keys removed. -/
def setKeysDiff (item entity : C) : MultiTargetUpdate K (AddOrRemoveOrModify Unit Unit) :=
  MultiTargetUpdate.ofList
    (((keys item).filter fun key => decide (key ∉ keys entity)).map (·, .add ()) ++
      ((keys entity).filter fun key => decide (key ∉ keys item)).map (·, .remove))

instance [KeyedUpdate U C K] : KeyedUpdate (SetOrModify C U) C K where
  targets
    | .set item, entity => keys item ++ keys entity
    | .modify update, entity => KeyedUpdate.targets update entity
  size
    | .set item => len item
    | .modify update => KeyedUpdate.size (C := C) update
  keysDiff
    | .set item, entity => setKeysDiff item entity
    | .modify update, entity => KeyedUpdate.keysDiff update entity

end SetOrModify

end DockSubstrate.Util
