import DockSubstrate.Util.BatchUpdate.Basic

/-!
# The value combinators

Kind, application and validation of the updates that act on one value:
`SetOrAddOrRemoveOrModify` and `AddOrRemoveOrModify` on an optional value,
`SetOrModify` on a value, `OnlyExistent` lifting an update of a value to an optional
value that must be present, and the counter update `IncOrDec`.  Each function follows
the `match` of its `impl` in `batch_update.rs`; the instances at the end of each
section register them under the source's traits.
-/

namespace DockSubstrate.Util

open DockSubstrate.Lib

/-! ## `SetOrAddOrRemoveOrModify` -/

namespace SetOrAddOrRemoveOrModify

variable {A V U : Type}

def applyUpdate [ApplyUpdate U (Option V)] :
    SetOrAddOrRemoveOrModify V U → Option V → Except Panic (Option V)
  | set value, _ => .ok (.some value)
  | add value, entity => if entity.isSome then .error .entityAlreadyExists else .ok (.some value)
  | remove, entity => if entity.isSome then .ok .none else .error .cantRemoveNonExisting
  | modify update, entity => ApplyUpdate.applyUpdate update entity

def kind [DecidableEq V] [GetUpdateKind U (Option V)] :
    SetOrAddOrRemoveOrModify V U → Option V → UpdateKind
  | set _, .none => .add
  | set newValue, .some value => if newValue = value then .none else .replace
  | add _, entity => if entity.isNone then .add else .none
  | remove, entity => if entity.isSome then .remove else .none
  | modify update, entity => GetUpdateKind.kind update entity

def ensureValid [CanUpdate A V] [ValidateUpdate A U (Option V)] :
    SetOrAddOrRemoveOrModify V U → A → Option V → Except UpdateError Unit
  | set new, actor, entity =>
      let allowed := match entity with
        | .some current => canReplace actor new current
        | .none => canAdd actor new
      if allowed then .ok () else .error .invalidActor
  | add value, actor, entity =>
      if !canAdd actor value then .error .invalidActor
      else if entity.isSome then .error .alreadyExists
      else .ok ()
  | remove, actor, entity =>
      match entity with
      | .none => .error .doesntExist
      | .some existing => if canRemove actor existing then .ok () else .error .invalidActor
  | modify update, actor, entity => ValidateUpdate.ensureValid update actor entity

instance [ApplyUpdate U (Option V)] : ApplyUpdate (SetOrAddOrRemoveOrModify V U) (Option V) :=
  ⟨applyUpdate⟩

instance [DecidableEq V] [GetUpdateKind U (Option V)] :
    GetUpdateKind (SetOrAddOrRemoveOrModify V U) (Option V) :=
  ⟨kind⟩

instance [CanUpdate A V] [ValidateUpdate A U (Option V)] :
    ValidateUpdate A (SetOrAddOrRemoveOrModify V U) (Option V) :=
  ⟨ensureValid⟩

@[simp]
theorem applyUpdate_eq [ApplyUpdate U (Option V)] (update : SetOrAddOrRemoveOrModify V U)
    (entity : Option V) : ApplyUpdate.applyUpdate update entity = update.applyUpdate entity := rfl

@[simp]
theorem kind_eq [DecidableEq V] [GetUpdateKind U (Option V)] (update : SetOrAddOrRemoveOrModify V U)
    (entity : Option V) : GetUpdateKind.kind update entity = update.kind entity := rfl

@[simp]
theorem ensureValid_eq [CanUpdate A V] [ValidateUpdate A U (Option V)]
    (update : SetOrAddOrRemoveOrModify V U) (actor : A) (entity : Option V) :
    ValidateUpdate.ensureValid update actor entity = update.ensureValid actor entity := rfl

end SetOrAddOrRemoveOrModify

/-! ## `AddOrRemoveOrModify` -/

namespace AddOrRemoveOrModify

variable {A V U : Type}

def applyUpdate [ApplyUpdate U (Option V)] :
    AddOrRemoveOrModify V U → Option V → Except Panic (Option V)
  | add value, entity => if entity.isSome then .error .entityAlreadyExists else .ok (.some value)
  | remove, entity => if entity.isSome then .ok .none else .error .cantRemoveNonExisting
  | modify update, entity => ApplyUpdate.applyUpdate update entity

def kind [GetUpdateKind U (Option V)] : AddOrRemoveOrModify V U → Option V → UpdateKind
  | add _, entity => if entity.isNone then .add else .none
  | remove, entity => if entity.isSome then .remove else .none
  | modify update, entity => GetUpdateKind.kind update entity

def ensureValid [CanUpdate A V] [ValidateUpdate A U (Option V)] :
    AddOrRemoveOrModify V U → A → Option V → Except UpdateError Unit
  | add value, actor, entity =>
      if !canAdd actor value then .error .invalidActor
      else if entity.isSome then .error .alreadyExists
      else .ok ()
  | remove, actor, entity =>
      match entity with
      | .none => .error .doesntExist
      | .some existing => if canRemove actor existing then .ok () else .error .invalidActor
  | modify update, actor, entity => ValidateUpdate.ensureValid update actor entity

instance [ApplyUpdate U (Option V)] : ApplyUpdate (AddOrRemoveOrModify V U) (Option V) :=
  ⟨applyUpdate⟩

instance [GetUpdateKind U (Option V)] : GetUpdateKind (AddOrRemoveOrModify V U) (Option V) :=
  ⟨kind⟩

instance [CanUpdate A V] [ValidateUpdate A U (Option V)] :
    ValidateUpdate A (AddOrRemoveOrModify V U) (Option V) :=
  ⟨ensureValid⟩

@[simp]
theorem applyUpdate_eq [ApplyUpdate U (Option V)] (update : AddOrRemoveOrModify V U)
    (entity : Option V) : ApplyUpdate.applyUpdate update entity = update.applyUpdate entity := rfl

@[simp]
theorem kind_eq [GetUpdateKind U (Option V)] (update : AddOrRemoveOrModify V U)
    (entity : Option V) : GetUpdateKind.kind update entity = update.kind entity := rfl

@[simp]
theorem ensureValid_eq [CanUpdate A V] [ValidateUpdate A U (Option V)]
    (update : AddOrRemoveOrModify V U) (actor : A) (entity : Option V) :
    ValidateUpdate.ensureValid update actor entity = update.ensureValid actor entity := rfl

end AddOrRemoveOrModify

/-! ## `SetOrModify` -/

namespace SetOrModify

variable {A V U : Type}

/-- `unwrap_modify`. -/
def unwrapModify : SetOrModify V U → Except Panic U
  | modify update => .ok update
  | set _ => .error .setOrModifySet

def applyUpdate [ApplyUpdate U V] : SetOrModify V U → V → Except Panic V
  | set value, _ => .ok value
  | modify update, entity => ApplyUpdate.applyUpdate update entity

def kind [DecidableEq V] [GetUpdateKind U V] : SetOrModify V U → V → UpdateKind
  | set newValue, entity => if newValue = entity then .none else .replace
  | modify update, entity => GetUpdateKind.kind update entity

def ensureValid [CanUpdate A V] [ValidateUpdate A U V] : SetOrModify V U → A → V → Except UpdateError Unit
  | set new, actor, entity => if canReplace actor new entity then .ok () else .error .invalidActor
  | modify update, actor, entity => ValidateUpdate.ensureValid update actor entity

instance [ApplyUpdate U V] : ApplyUpdate (SetOrModify V U) V := ⟨applyUpdate⟩

instance [DecidableEq V] [GetUpdateKind U V] : GetUpdateKind (SetOrModify V U) V := ⟨kind⟩

instance [CanUpdate A V] [ValidateUpdate A U V] : ValidateUpdate A (SetOrModify V U) V :=
  ⟨ensureValid⟩

@[simp]
theorem applyUpdate_eq [ApplyUpdate U V] (update : SetOrModify V U) (entity : V) :
    ApplyUpdate.applyUpdate update entity = update.applyUpdate entity := rfl

@[simp]
theorem kind_eq [DecidableEq V] [GetUpdateKind U V] (update : SetOrModify V U) (entity : V) :
    GetUpdateKind.kind update entity = update.kind entity := rfl

@[simp]
theorem ensureValid_eq [CanUpdate A V] [ValidateUpdate A U V] (update : SetOrModify V U)
    (actor : A) (entity : V) :
    ValidateUpdate.ensureValid update actor entity = update.ensureValid actor entity := rfl

end SetOrModify

/-! ## `OnlyExistent` -/

namespace OnlyExistent

variable {A V U : Type}

def applyUpdate [ApplyUpdate U V] : OnlyExistent U → Option V → Except Panic (Option V)
  | ⟨_⟩, .none => .error .onlyExistentFailed
  | ⟨update⟩, .some value => (ApplyUpdate.applyUpdate update value).map .some

def kind [GetUpdateKind U V] : OnlyExistent U → Option V → UpdateKind
  | _, .none => .none
  | ⟨update⟩, .some value => GetUpdateKind.kind update value

def ensureValid [ValidateUpdate A U V] : OnlyExistent U → A → Option V → Except UpdateError Unit
  | _, _, .none => .error .doesntExist
  | ⟨update⟩, actor, .some value => ValidateUpdate.ensureValid update actor value

instance [ApplyUpdate U V] : ApplyUpdate (OnlyExistent U) (Option V) := ⟨applyUpdate⟩

instance [GetUpdateKind U V] : GetUpdateKind (OnlyExistent U) (Option V) := ⟨kind⟩

instance [ValidateUpdate A U V] : ValidateUpdate A (OnlyExistent U) (Option V) := ⟨ensureValid⟩

@[simp]
theorem applyUpdate_eq [ApplyUpdate U V] (update : OnlyExistent U) (entity : Option V) :
    ApplyUpdate.applyUpdate update entity = update.applyUpdate entity := rfl

@[simp]
theorem kind_eq [GetUpdateKind U V] (update : OnlyExistent U) (entity : Option V) :
    GetUpdateKind.kind update entity = update.kind entity := rfl

@[simp]
theorem ensureValid_eq [ValidateUpdate A U V] (update : OnlyExistent U) (actor : A)
    (entity : Option V) :
    ValidateUpdate.ensureValid update actor entity = update.ensureValid actor entity := rfl

end OnlyExistent

/-! ## `IncOrDec` -/

namespace IncOrDec

variable {A V : Type} [CounterValue V]

open CounterValue

/-- `IncOrDec::ONE`. -/
def ONE : NonZeroU32 := NonZeroU32.one

/-- The signed amount of the update (`raw`). -/
def raw : IncOrDec → Int
  | inc value => value.get
  | dec value => -(value.get : Int)
  | none => 0

def applyUpdate : IncOrDec → Option V → Except Panic (Option V)
  | inc amount, .some value =>
      match (toNonZero value).checkedAdd amount.get with
      | .some sum => .ok (.some (ofNonZero sum))
      | .none => .error .overflow
  | inc amount, .none => .ok (.some (ofNonZero amount))
  | dec _, .none => .error .absentCounter
  | dec amount, .some value =>
      match checkedSub (toNonZero value).get amount.get with
      | .some rest => .ok ((NonZeroU32.new rest).map ofNonZero)
      | .none => .error .underflow
  | none, entity => .ok entity

def ensureValid [CanUpdate A V] : IncOrDec → A → Option V → Except UpdateError Unit
  | inc amount, actor, entity =>
      let sum : Option NonZeroU32 := match entity with
        | .none => .some amount
        | .some value => (toNonZero value).checkedAdd amount.get
      match sum.map ofNonZero with
      | .none => .error .overflow
      | .some new =>
          let allowed := match entity with
            | .none => canAdd actor new
            | .some current => canReplace actor new current
          if allowed then .ok () else .error .invalidActor
  | dec amount, actor, entity =>
      match entity with
      | .none => .error .doesntExist
      | .some current =>
          match checkedSub (toNonZero current).get amount.get with
          | .none => .error .underflow
          | .some new =>
              let allowed := match NonZeroU32.new new with
                | .none => canRemove actor current
                | .some new => canReplace actor (ofNonZero new) current
              if allowed then .ok () else .error .invalidActor
  | none, _, _ => .ok ()

/-- `IncOrDec::kind`: a decrement of a present counter is reported as a removal, whatever
the counter's value. -/
def kind : IncOrDec → Option V → UpdateKind
  | inc _, entity => if entity.isSome then .replace else .add
  | dec _, entity => if entity.isSome then .remove else .replace
  | none, _ => .none

/-- Add two counter updates; a sum that does not fit a `u32` is an error. -/
def combine (self other : IncOrDec) : Except UpdateError IncOrDec :=
  let rawCtr := self.raw + other.raw
  if 0 ≤ rawCtr then
    if rawCtr.natAbs ≤ u32Max then .ok ((NonZeroU32.new rawCtr.natAbs).elim none inc)
    else .error .overflow
  else
    if rawCtr.natAbs ≤ u32Max then .ok ((NonZeroU32.new rawCtr.natAbs).elim none dec)
    else .error .underflow

/-- `TranslateUpdate<IncOrDec> for AddOrRemoveOrModify<()>`. -/
def ofKeyUpdate : AddOrRemoveOrModify Unit Unit → IncOrDec
  | .add () => inc ONE
  | .remove => dec ONE
  | .modify () => none

instance : ApplyUpdate IncOrDec (Option V) := ⟨applyUpdate⟩

instance : GetUpdateKind IncOrDec (Option V) := ⟨kind⟩

instance [CanUpdate A V] : ValidateUpdate A IncOrDec (Option V) := ⟨ensureValid⟩

instance : CombineUpdates IncOrDec UpdateError := ⟨combine⟩

instance : TranslateUpdate (AddOrRemoveOrModify Unit Unit) IncOrDec := ⟨ofKeyUpdate⟩

instance : TranslateUpdate IncOrDec IncOrDec := ⟨id⟩

@[simp]
theorem applyUpdate_eq (update : IncOrDec) (entity : Option V) :
    ApplyUpdate.applyUpdate update entity = update.applyUpdate entity := rfl

omit [CounterValue V] in
@[simp]
theorem kind_eq (update : IncOrDec) (entity : Option V) :
    GetUpdateKind.kind update entity = update.kind entity := rfl

@[simp]
theorem ensureValid_eq [CanUpdate A V] (update : IncOrDec) (actor : A) (entity : Option V) :
    ValidateUpdate.ensureValid update actor entity = update.ensureValid actor entity := rfl

@[simp]
theorem combine_eq (self other : IncOrDec) : CombineUpdates.combine self other = self.combine other :=
  rfl

@[simp]
theorem translateUpdate_eq (update : AddOrRemoveOrModify Unit Unit) :
    (TranslateUpdate.translateUpdate update : IncOrDec) = ofKeyUpdate update := rfl

end IncOrDec

end DockSubstrate.Util
