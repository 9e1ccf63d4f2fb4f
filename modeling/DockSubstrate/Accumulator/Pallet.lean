import Mathlib
import DockSubstrate.Common.SignedExecution
import DockSubstrate.Lib.BoundedMap

/-!
# Accumulators

The accumulator pallet (`modules/accumulator`).  An owner, a DID or DID method key, stores
accumulator parameters and public keys under identifiers that its own counters hand out
(`AccumulatorOwnerCounters`, `IncId`s moved by `+= 1` on a `u32`), and accumulators under
ids of their own, each with the block it was created at and the block of its last update.
Every call is an action signed by one signer with its next nonce (`SignedActionWithNonce`):

* `add_params` and `add_public_key` target the signer's own counters
  (`signed_with_signer_target`), so they store under the signer;
* `remove_params` and `remove_public_key` target the stored value, and the wrapper's check
  requires the signer to be the owner named by its key;
* `add_accumulator`, `update_accumulator` and `remove_accumulator` target the accumulator's
  id; their bodies require the signer to own the accumulator's public key.

The block number is the chain's, read by the calls.  The model's `StateChange` lists the DID
pallet's actions; the accumulator's variants of the runtime's `StateChange` are taken into
it by `encode`, as the verification of signatures is a parameter too.
-/

namespace DockSubstrate.AccumulatorModule

open DockSubstrate.Lib DockSubstrate.Util DockSubstrate.Common DockSubstrate.DidModule

/-- The bounds of the pallet's byte values. -/
structure Limits where
  maxAccumulatorLabelSize : Nat
  maxAccumulatorParamsSize : Nat
  maxAccumulatorPublicKeySize : Nat
  maxAccumulatorAccumulatedSize : Nat
  deriving DecidableEq, Repr

/-- `AccumulatorOwner`: the DID or DID method key that owns parameters, keys and
accumulators. -/
structure AccumulatorOwner where
  did : DidOrDidMethodKey
  deriving DecidableEq, Repr

/-- `AccumulatorId`: 32 bytes, a number here. -/
structure AccumulatorId where
  raw : Nat
  deriving DecidableEq, Repr

/-- `AccumParametersStorageKey`: the owner and the identifier of parameters. -/
structure AccumParametersStorageKey where
  owner : AccumulatorOwner
  id : Nat
  deriving DecidableEq, Repr

/-- `AccumPublicKeyStorageKey`: the owner and the identifier of a public key. -/
structure AccumPublicKeyStorageKey where
  owner : AccumulatorOwner
  id : Nat
  deriving DecidableEq, Repr

/-- `CurveType`. -/
inductive CurveType where
  | bls12381
  deriving DecidableEq, Repr

section Types

variable (limits : Limits)

/-- `AccumulatorParameters`. -/
structure AccumulatorParameters where
  label : Option (BoundedBytes limits.maxAccumulatorLabelSize)
  curveType : CurveType
  bytes : BoundedBytes limits.maxAccumulatorParamsSize

/-- `AccumulatorPublicKey`: `params_ref` names the parameters the key was made with. -/
structure AccumulatorPublicKey where
  curveType : CurveType
  bytes : BoundedBytes limits.maxAccumulatorPublicKeySize
  paramsRef : Option AccumParametersStorageKey

/-- `AccumulatorCommon`. -/
structure AccumulatorCommon where
  accumulated : BoundedBytes limits.maxAccumulatorAccumulatedSize
  keyRef : AccumPublicKeyStorageKey

/-- `UniversalAccumulator`: `max_size` is metadata only. -/
structure UniversalAccumulator where
  common : AccumulatorCommon limits
  maxSize : Nat

/-- `Accumulator`. -/
inductive Accumulator where
  | positive (accumulator : AccumulatorCommon limits)
  | universal (accumulator : UniversalAccumulator limits)
  | kbUniversal (accumulator : AccumulatorCommon limits)

/-- `StoredAccumulatorOwnerCounters`: the last identifiers of an owner's parameters and keys. -/
structure StoredAccumulatorOwnerCounters where
  paramsCounter : Nat
  keyCounter : Nat
  deriving DecidableEq, Repr

/-- `AccumulatorWithUpdateInfo`. -/
structure AccumulatorWithUpdateInfo where
  createdAt : Nat
  lastUpdatedAt : Nat
  accumulator : Accumulator limits

end Types

variable {limits : Limits}

namespace Accumulator

/-- `Accumulator::key_ref`. -/
def keyRef : Accumulator limits → AccumPublicKeyStorageKey
  | .positive accumulator => accumulator.keyRef
  | .universal accumulator => accumulator.common.keyRef
  | .kbUniversal accumulator => accumulator.keyRef

/-- `Accumulator::owner_did`. -/
def ownerDid : Accumulator limits → AccumulatorOwner
  | .positive accumulator => accumulator.keyRef.owner
  | .universal accumulator => accumulator.common.keyRef.owner
  | .kbUniversal accumulator => accumulator.keyRef.owner

/-- `Accumulator::accumulated`. -/
def accumulated : Accumulator limits → List UInt8
  | .positive accumulator => accumulator.accumulated.bytes
  | .universal accumulator => accumulator.common.accumulated.bytes
  | .kbUniversal accumulator => accumulator.accumulated.bytes

/-- `Accumulator::set_new_accumulated`: `none` where the bytes do not fit. -/
def setNewAccumulated (accumulator : Accumulator limits) (newAccumulated : List UInt8) :
    Option (Accumulator limits) := do
  let accumulated ← BoundedBytes.ofBytes? newAccumulated
  match accumulator with
  | .positive common => pure (.positive { common with accumulated })
  | .universal wrapped => pure (.universal { wrapped with common := { wrapped.common with accumulated } })
  | .kbUniversal common => pure (.kbUniversal { common with accumulated })

/-- The owner is the owner of the key the accumulator names. -/
theorem ownerDid_eq_keyRef_owner (accumulator : Accumulator limits) :
    accumulator.ownerDid = accumulator.keyRef.owner := by
  cases accumulator <;> rfl

/-- A new accumulated value keeps the key, and so the owner. -/
theorem keyRef_of_setNewAccumulated {accumulator updated : Accumulator limits} {newAccumulated : List UInt8}
    (set : accumulator.setNewAccumulated newAccumulated = some updated) : updated.keyRef = accumulator.keyRef := by
  simp only [setNewAccumulated, Option.bind_eq_bind, Option.bind_eq_some_iff] at set
  obtain ⟨accumulated, -, set⟩ := set
  cases accumulator <;> cases set <;> rfl

end Accumulator

/-- `AccumulatorWithUpdateInfo::new`: created and last updated at the given block. -/
def AccumulatorWithUpdateInfo.new (accumulator : Accumulator limits) (createdAt : Nat) :
    AccumulatorWithUpdateInfo limits :=
  ⟨createdAt, createdAt, accumulator⟩

/-! ## Storage -/

variable (limits) in
/-- The pallet's storage.  `AccumulatorOwnerCounters` is a `ValueQuery`: an owner with no
entry reads the default counters. -/
structure State where
  accumulatorOwnerCounters : AccumulatorOwner → StoredAccumulatorOwnerCounters
  accumulatorParams : AccumulatorOwner → Nat → Option (AccumulatorParameters limits)
  accumulatorKeys : AccumulatorOwner → Nat → Option (AccumulatorPublicKey limits)
  accumulators : AccumulatorId → Option (AccumulatorWithUpdateInfo limits)

/-- The default counters. -/
def StoredAccumulatorOwnerCounters.default : StoredAccumulatorOwnerCounters :=
  ⟨0, 0⟩

/-- The storage at genesis, which only sets the storage version. -/
def State.empty : State limits where
  accumulatorOwnerCounters _ := .default
  accumulatorParams _ _ := none
  accumulatorKeys _ _ := none
  accumulators _ := none

namespace State

/-- `try_mutate_exists` on `AccumulatorOwnerCounters`: removing the entry leaves the default. -/
def writeCounters (owner : AccumulatorOwner) (state : State limits) (counters : Option StoredAccumulatorOwnerCounters) :
    State limits :=
  { state with
    accumulatorOwnerCounters := Function.update state.accumulatorOwnerCounters owner (counters.getD .default) }

/-- `try_mutate_exists` on `AccumulatorParams`. -/
def writeParams (key : AccumParametersStorageKey) (state : State limits)
    (params : Option (AccumulatorParameters limits)) : State limits :=
  { state with accumulatorParams := update₂ state.accumulatorParams key.owner key.id params }

/-- `try_mutate_exists` on `AccumulatorKeys`. -/
def writeKey (key : AccumPublicKeyStorageKey) (state : State limits) (publicKey : Option (AccumulatorPublicKey limits)) :
    State limits :=
  { state with accumulatorKeys := update₂ state.accumulatorKeys key.owner key.id publicKey }

/-- `try_mutate_exists` on `Accumulators`. -/
def writeAccumulator (id : AccumulatorId) (state : State limits)
    (accumulator : Option (AccumulatorWithUpdateInfo limits)) : State limits :=
  { state with accumulators := Function.update state.accumulators id accumulator }

end State

/-! ## Actions and errors -/

section Actions

variable (limits : Limits)

/-- `AddAccumulatorParams`. -/
structure AddAccumulatorParams where
  params : AccumulatorParameters limits
  nonce : Nat

/-- `AddAccumulatorPublicKey`. -/
structure AddAccumulatorPublicKey where
  publicKey : AccumulatorPublicKey limits
  nonce : Nat

/-- `RemoveAccumulatorParams`. -/
structure RemoveAccumulatorParams where
  paramsRef : AccumParametersStorageKey
  nonce : Nat

/-- `RemoveAccumulatorPublicKey`. -/
structure RemoveAccumulatorPublicKey where
  keyRef : AccumPublicKeyStorageKey
  nonce : Nat

/-- `AddAccumulator`. -/
structure AddAccumulator where
  id : AccumulatorId
  accumulator : Accumulator limits
  nonce : Nat

/-- `UpdateAccumulator`: the additions, removals and witness update information go to the
event only. -/
structure UpdateAccumulator where
  id : AccumulatorId
  newAccumulated : List UInt8
  nonce : Nat

/-- `RemoveAccumulator`. -/
structure RemoveAccumulator where
  id : AccumulatorId
  nonce : Nat

/-- The accumulator's variants of the runtime's `StateChange`. -/
inductive AccumulatorStateChange where
  | addAccumulatorParams (action : AddAccumulatorParams limits)
  | addAccumulatorPublicKey (action : AddAccumulatorPublicKey limits)
  | removeAccumulatorParams (action : RemoveAccumulatorParams)
  | removeAccumulatorPublicKey (action : RemoveAccumulatorPublicKey)
  | addAccumulator (action : AddAccumulator limits)
  | updateAccumulator (action : UpdateAccumulator)
  | removeAccumulator (action : RemoveAccumulator)

/-- A call of the pallet with its signature. -/
inductive Call where
  | addParams (params : AddAccumulatorParams limits) (signature : DidOrDidMethodKeySignature)
  | addPublicKey (publicKey : AddAccumulatorPublicKey limits) (signature : DidOrDidMethodKeySignature)
  | removeParams (remove : RemoveAccumulatorParams) (signature : DidOrDidMethodKeySignature)
  | removePublicKey (remove : RemoveAccumulatorPublicKey) (signature : DidOrDidMethodKeySignature)
  | addAccumulator (addAccumulator : AddAccumulator limits) (signature : DidOrDidMethodKeySignature)
  | updateAccumulator (update : UpdateAccumulator) (signature : DidOrDidMethodKeySignature)
  | removeAccumulator (remove : RemoveAccumulator) (signature : DidOrDidMethodKeySignature)

end Actions

/-- `accumulator::Error`. -/
inductive Error where
  | paramsDontExist
  | publicKeyDoesntExist
  | accumulatedTooBig
  | accumulatorAlreadyExists
  | accumulatorDoesntExist
  | notPublicKeyOwner
  | notParamsOwner
  | notAccumulatorOwner
  | incorrectNonce
  deriving DecidableEq, Repr

/-- A failed call: the errors of the signed execution, of the DID pallet that the
verification raises, and of the pallet. -/
abbrev DispatchError := IntermediateError (DidModule.Error ⊕ Error)

/-! ## Call bodies -/

/-- `add_params_`: the parameters are stored under the owner's next parameters identifier. -/
def addParams_ (action : AddAccumulatorParams limits) (counters : StoredAccumulatorOwnerCounters)
    (owner : AccumulatorOwner) (state : State limits) :
    Except Error (Unit × StoredAccumulatorOwnerCounters × State limits) :=
  let paramsCounter := wrappingInc counters.paramsCounter
  pure ((), { counters with paramsCounter },
    { state with accumulatorParams := update₂ state.accumulatorParams owner paramsCounter (some action.params) })

/-- `add_public_key_`: parameters the key names must exist; the key is stored under the
owner's next key identifier. -/
def addPublicKey_ (action : AddAccumulatorPublicKey limits) (counters : StoredAccumulatorOwnerCounters)
    (owner : AccumulatorOwner) (state : State limits) :
    Except Error (Unit × StoredAccumulatorOwnerCounters × State limits) := do
  (match action.publicKey.paramsRef with
    | some paramsRef =>
        unless (state.accumulatorParams paramsRef.owner paramsRef.id).isSome do throw .paramsDontExist
    | none => pure ())
  let keyCounter := wrappingInc counters.keyCounter
  pure ((), { counters with keyCounter },
    { state with accumulatorKeys := update₂ state.accumulatorKeys owner keyCounter (some action.publicKey) })

/-- `remove_params_`: the parameters must exist and are taken. -/
def removeParams_ (params : Option (AccumulatorParameters limits)) :
    Except Error (Unit × Option (AccumulatorParameters limits)) := do
  let some _ := params | throw .paramsDontExist
  pure ((), none)

/-- `remove_public_key_`: the key must exist and is taken. -/
def removePublicKey_ (publicKey : Option (AccumulatorPublicKey limits)) :
    Except Error (Unit × Option (AccumulatorPublicKey limits)) := do
  let some _ := publicKey | throw .publicKeyDoesntExist
  pure ((), none)

/-- `add_accumulator_`: the key the accumulator names must exist unless its identifier is
zero, it must be the signer's, and the id must be free; the accumulator is created at the
current block. -/
def addAccumulator_ (now : Nat) (action : AddAccumulator limits) (stored : Option (AccumulatorWithUpdateInfo limits))
    (owner : AccumulatorOwner) (state : State limits) :
    Except Error (Unit × Option (AccumulatorWithUpdateInfo limits)) := do
  let keyRef := action.accumulator.keyRef
  (if keyRef.id ≠ 0 then
    unless (state.accumulatorKeys keyRef.owner keyRef.id).isSome do throw .publicKeyDoesntExist
  else pure ())
  (unless keyRef.owner == owner do throw .notPublicKeyOwner)
  (unless stored.isNone do throw .accumulatorAlreadyExists)
  pure ((), some (.new action.accumulator now))

/-- `update_accumulator_`: only the accumulator's owner updates it, with a value that fits. -/
def updateAccumulator_ (now : Nat) (action : UpdateAccumulator) (stored : AccumulatorWithUpdateInfo limits)
    (owner : AccumulatorOwner) : Except Error (Unit × AccumulatorWithUpdateInfo limits) := do
  (unless stored.accumulator.ownerDid == owner do throw .notAccumulatorOwner)
  let some accumulator := stored.accumulator.setNewAccumulated action.newAccumulated
    | throw .accumulatedTooBig
  pure ((), { stored with accumulator, lastUpdatedAt := now })

/-- `remove_accumulator_`: the accumulator must exist, and only its owner removes it. -/
def removeAccumulator_ (stored : Option (AccumulatorWithUpdateInfo limits)) (signer : AccumulatorOwner) :
    Except Error (Unit × Option (AccumulatorWithUpdateInfo limits)) := do
  let some accumulator := stored | throw .accumulatorDoesntExist
  (unless accumulator.accumulator.ownerDid == signer do throw .notAccumulatorOwner)
  pure ((), none)

/-! ## Checks of the signed actions -/

/-- `AuthorizeTarget` of `AccumParametersStorageKey`: the signer owns the parameters. -/
def paramsOwnerCheck (key : AccumParametersStorageKey) (signer : DidOrDidMethodKey) : Except Error Unit :=
  if key.owner = ⟨signer⟩ then pure () else throw .notParamsOwner

/-- `AuthorizeTarget` of `AccumPublicKeyStorageKey`: the signer owns the key. -/
def publicKeyOwnerCheck (key : AccumPublicKeyStorageKey) (signer : DidOrDidMethodKey) : Except Error Unit :=
  if key.owner = ⟨signer⟩ then pure () else throw .notPublicKeyOwner

/-- The default `AuthorizeTarget`, which accepts every signer. -/
def noCheck (_ : DidOrDidMethodKey) : Except Error Unit :=
  pure ()

/-- A body's error, as `SignedActionWithNonce` passes it on. -/
def lift {α : Type} (body : Except Error α) : Except DispatchError α :=
  body.mapError fun error => .dispatch (.inr error)

/-! ## Calls -/

section Dispatch

variable (crypto : SignatureVerification StateChange) (encode : AccumulatorStateChange limits → StateChange)
  (now : Nat)

open SignedActionWithNonce in
/-- A call, at block `now`.  Each returns the DID pallet's storage, where the signer's
nonce moved, and the pallet's. -/
def dispatch (call : Call limits) (did : DidModule.State) (state : State limits) :
    Except DispatchError (DidModule.State × State limits) := do
  match call with
  | .addParams action signature =>
      let owner : AccumulatorOwner := ⟨signature.signer⟩
      let ((), did, state) ← execute crypto 1 action.nonce (fun state => some (state.accumulatorOwnerCounters owner))
        (State.writeCounters owner) signature (encode (.addAccumulatorParams action)) (fun _ => noCheck)
        (fun counters signer state => lift (addParams_ action counters ⟨signer⟩ state)) did state
      pure (did, state)
  | .addPublicKey action signature =>
      let owner : AccumulatorOwner := ⟨signature.signer⟩
      let ((), did, state) ← execute crypto 1 action.nonce (fun state => some (state.accumulatorOwnerCounters owner))
        (State.writeCounters owner) signature (encode (.addAccumulatorPublicKey action)) (fun _ => noCheck)
        (fun counters signer state => lift (addPublicKey_ action counters ⟨signer⟩ state)) did state
      pure (did, state)
  | .removeParams action signature =>
      let ((), did, state) ← executeRemovable crypto 1 action.nonce
        (fun state => state.accumulatorParams action.paramsRef.owner action.paramsRef.id)
        (State.writeParams action.paramsRef) signature (encode (.removeAccumulatorParams action))
        (fun _ => paramsOwnerCheck action.paramsRef)
        (fun params _ state => do
          let (result, params) ← lift (removeParams_ params)
          pure (result, params, state)) did state
      pure (did, state)
  | .removePublicKey action signature =>
      let ((), did, state) ← executeRemovable crypto 1 action.nonce
        (fun state => state.accumulatorKeys action.keyRef.owner action.keyRef.id)
        (State.writeKey action.keyRef) signature (encode (.removeAccumulatorPublicKey action))
        (fun _ => publicKeyOwnerCheck action.keyRef)
        (fun publicKey _ state => do
          let (result, publicKey) ← lift (removePublicKey_ publicKey)
          pure (result, publicKey, state)) did state
      pure (did, state)
  | .addAccumulator action signature =>
      let ((), did, state) ← executeRemovable crypto 1 action.nonce (fun state => state.accumulators action.id)
        (State.writeAccumulator action.id) signature (encode (.addAccumulator action)) (fun _ => noCheck)
        (fun stored signer state => do
          let (result, stored) ← lift (addAccumulator_ now action stored ⟨signer⟩ state)
          pure (result, stored, state)) did state
      pure (did, state)
  | .updateAccumulator action signature =>
      let ((), did, state) ← execute crypto 1 action.nonce (fun state => state.accumulators action.id)
        (State.writeAccumulator action.id) signature (encode (.updateAccumulator action)) (fun _ => noCheck)
        (fun stored signer state => do
          let (result, stored) ← lift (updateAccumulator_ now action stored ⟨signer⟩)
          pure (result, stored, state)) did state
      pure (did, state)
  | .removeAccumulator action signature =>
      let ((), did, state) ← executeRemovable crypto 1 action.nonce (fun state => state.accumulators action.id)
        (State.writeAccumulator action.id) signature (encode (.removeAccumulator action)) (fun _ => noCheck)
        (fun stored signer state => do
          let (result, stored) ← lift (removeAccumulator_ stored ⟨signer⟩)
          pure (result, stored, state)) did state
      pure (did, state)

end Dispatch

/-- The signer of a call. -/
def Call.signer : Call limits → DidOrDidMethodKey
  | .addParams _ signature => signature.signer
  | .addPublicKey _ signature => signature.signer
  | .removeParams _ signature => signature.signer
  | .removePublicKey _ signature => signature.signer
  | .addAccumulator _ signature => signature.signer
  | .updateAccumulator _ signature => signature.signer
  | .removeAccumulator _ signature => signature.signer

/-! ## What each call leaves -/

namespace State

variable {state : State limits}

@[simp]
theorem writeCounters_accumulatorOwnerCounters {owner : AccumulatorOwner} {counters : Option StoredAccumulatorOwnerCounters} :
    (state.writeCounters owner counters).accumulatorOwnerCounters =
      Function.update state.accumulatorOwnerCounters owner (counters.getD .default) :=
  rfl

@[simp]
theorem writeCounters_accumulatorParams {owner : AccumulatorOwner} {counters : Option StoredAccumulatorOwnerCounters} :
    (state.writeCounters owner counters).accumulatorParams = state.accumulatorParams :=
  rfl

@[simp]
theorem writeCounters_accumulatorKeys {owner : AccumulatorOwner} {counters : Option StoredAccumulatorOwnerCounters} :
    (state.writeCounters owner counters).accumulatorKeys = state.accumulatorKeys :=
  rfl

@[simp]
theorem writeCounters_accumulators {owner : AccumulatorOwner} {counters : Option StoredAccumulatorOwnerCounters} :
    (state.writeCounters owner counters).accumulators = state.accumulators :=
  rfl

end State

section Calls

variable {crypto : SignatureVerification StateChange} {encode : AccumulatorStateChange limits → StateChange}
  {now : Nat} {signature : DidOrDidMethodKeySignature} {did did' : DidModule.State} {state state' : State limits}

theorem lift_eq_ok {α : Type} {body : Except Error α} {result : α} : lift body = .ok result ↔ body = .ok result :=
  Except.mapError_eq_ok

/-- `add_params` stores the parameters under the signer's next identifier and moves the
signer's counter there. -/
theorem dispatch_addParams {action : AddAccumulatorParams limits}
    (done : dispatch crypto encode now (.addParams action signature) did state = .ok (did', state')) :
    let owner : AccumulatorOwner := ⟨signature.signer⟩
    let paramsCounter := wrappingInc (state.accumulatorOwnerCounters owner).paramsCounter
    state' = State.writeCounters owner
      { state with accumulatorParams := update₂ state.accumulatorParams owner paramsCounter (some action.params) }
      (some { state.accumulatorOwnerCounters owner with paramsCounter }) := by
  simp only [dispatch, Except.bind_eq_ok, Except.pure_eq_ok, Prod.mk.injEq] at done
  obtain ⟨⟨⟨⟩, did'', state''⟩, ran, rfl, rfl⟩ := done
  obtain ⟨-, value, found, -, -, -, -, -, data, after, body, -, rfl⟩ := SignedActionWithNonce.execute_eq_ok ran
  cases found
  simp only [lift_eq_ok, addParams_, Except.pure_eq_ok, Prod.mk.injEq] at body
  obtain ⟨-, rfl, rfl⟩ := body
  rfl

/-- `add_public_key` stores the key under the signer's next identifier, once parameters it
names exist, and moves the signer's counter there. -/
theorem dispatch_addPublicKey {action : AddAccumulatorPublicKey limits}
    (done : dispatch crypto encode now (.addPublicKey action signature) did state = .ok (did', state')) :
    let owner : AccumulatorOwner := ⟨signature.signer⟩
    let keyCounter := wrappingInc (state.accumulatorOwnerCounters owner).keyCounter
    (∀ paramsRef, action.publicKey.paramsRef = some paramsRef →
      (state.accumulatorParams paramsRef.owner paramsRef.id).isSome) ∧
    state' = State.writeCounters owner
      { state with accumulatorKeys := update₂ state.accumulatorKeys owner keyCounter (some action.publicKey) }
      (some { state.accumulatorOwnerCounters owner with keyCounter }) := by
  simp only [dispatch, Except.bind_eq_ok, Except.pure_eq_ok, Prod.mk.injEq] at done
  obtain ⟨⟨⟨⟩, did'', state''⟩, ran, rfl, rfl⟩ := done
  obtain ⟨-, value, found, -, -, -, -, -, data, after, body, -, rfl⟩ := SignedActionWithNonce.execute_eq_ok ran
  cases found
  rw [lift_eq_ok] at body
  obtain ⟨⟨⟩, checked, stored⟩ := Except.bind_eq_ok.mp body
  simp only [Except.pure_eq_ok, Prod.mk.injEq] at stored
  obtain ⟨-, rfl, rfl⟩ := stored
  refine ⟨fun paramsRef named => ?_, rfl⟩
  simp only [named] at checked
  exact Except.unless_eq_ok.mp checked

/-- `remove_params` takes parameters the signer owns. -/
theorem dispatch_removeParams {action : RemoveAccumulatorParams}
    (done : dispatch crypto encode now (.removeParams action signature) did state = .ok (did', state')) :
    action.paramsRef.owner = ⟨signature.signer⟩ ∧
      (state.accumulatorParams action.paramsRef.owner action.paramsRef.id).isSome ∧
      state' = state.writeParams action.paramsRef none := by
  simp only [dispatch, Except.bind_eq_ok, Except.pure_eq_ok, Prod.mk.injEq] at done
  obtain ⟨⟨⟨⟩, did'', state''⟩, ran, rfl, rfl⟩ := done
  obtain ⟨-, checked, -, -, -, -, data, after, body, -, rfl⟩ := SignedActionWithNonce.executeRemovable_eq_ok ran
  obtain ⟨⟨⟨⟩, removed⟩, ranBody, packed⟩ := Except.bind_eq_ok.mp body
  simp only [Except.pure_eq_ok, Prod.mk.injEq] at packed
  obtain ⟨-, rfl, rfl⟩ := packed
  rw [lift_eq_ok] at ranBody
  have owned : action.paramsRef.owner = ⟨signature.signer⟩ := by
    simp only [paramsOwnerCheck] at checked
    split_ifs at checked with same
    exact same
  cases stored : state.accumulatorParams action.paramsRef.owner action.paramsRef.id with
  | none => simp [stored, removeParams_] at ranBody
  | some params =>
      simp only [stored, removeParams_, Except.pure_eq_ok, Prod.mk.injEq] at ranBody
      exact ⟨owned, rfl, by rw [← ranBody.2]⟩

/-- `remove_public_key` takes a key the signer owns. -/
theorem dispatch_removePublicKey {action : RemoveAccumulatorPublicKey}
    (done : dispatch crypto encode now (.removePublicKey action signature) did state = .ok (did', state')) :
    action.keyRef.owner = ⟨signature.signer⟩ ∧
      (state.accumulatorKeys action.keyRef.owner action.keyRef.id).isSome ∧
      state' = state.writeKey action.keyRef none := by
  simp only [dispatch, Except.bind_eq_ok, Except.pure_eq_ok, Prod.mk.injEq] at done
  obtain ⟨⟨⟨⟩, did'', state''⟩, ran, rfl, rfl⟩ := done
  obtain ⟨-, checked, -, -, -, -, data, after, body, -, rfl⟩ := SignedActionWithNonce.executeRemovable_eq_ok ran
  obtain ⟨⟨⟨⟩, removed⟩, ranBody, packed⟩ := Except.bind_eq_ok.mp body
  simp only [Except.pure_eq_ok, Prod.mk.injEq] at packed
  obtain ⟨-, rfl, rfl⟩ := packed
  rw [lift_eq_ok] at ranBody
  have owned : action.keyRef.owner = ⟨signature.signer⟩ := by
    simp only [publicKeyOwnerCheck] at checked
    split_ifs at checked with same
    exact same
  cases stored : state.accumulatorKeys action.keyRef.owner action.keyRef.id with
  | none => simp [stored, removePublicKey_] at ranBody
  | some publicKey =>
      simp only [stored, removePublicKey_, Except.pure_eq_ok, Prod.mk.injEq] at ranBody
      exact ⟨owned, rfl, by rw [← ranBody.2]⟩

/-- The guards of `add_accumulator_`: the key must exist unless its identifier is zero, be
the signer's, and the id must be free. -/
theorem addAccumulator_guards {action : AddAccumulator limits} {stored : Option (AccumulatorWithUpdateInfo limits)}
    {owner : AccumulatorOwner} {result : Option (AccumulatorWithUpdateInfo limits)}
    (ran : addAccumulator_ now action stored owner state = .ok ((), result)) :
    (action.accumulator.keyRef.id ≠ 0 →
        (state.accumulatorKeys action.accumulator.keyRef.owner action.accumulator.keyRef.id).isSome) ∧
      action.accumulator.keyRef.owner = owner ∧ stored = none ∧ result = some (.new action.accumulator now) := by
  simp only [addAccumulator_, Except.bind_eq_ok] at ran
  obtain ⟨⟨⟩, keyChecked, ⟨⟩, ownerChecked, ⟨⟩, freeChecked, added⟩ := ran
  refine ⟨fun nonZero => ?_, ?_, ?_, ?_⟩
  · rw [if_pos nonZero] at keyChecked
    exact Except.unless_eq_ok.mp keyChecked
  · simpa using Except.unless_eq_ok.mp ownerChecked
  · simpa using Except.unless_eq_ok.mp freeChecked
  · rw [Except.pure_eq_ok, Prod.mk.injEq] at added
    exact added.2.symm

/-- `add_accumulator` stores a new accumulator, created at the current block, under a free
id, when the signer owns the key it names and the key exists unless its identifier is 0. -/
theorem dispatch_addAccumulator {action : AddAccumulator limits}
    (done : dispatch crypto encode now (.addAccumulator action signature) did state = .ok (did', state')) :
    action.accumulator.keyRef.owner = ⟨signature.signer⟩ ∧
      (action.accumulator.keyRef.id ≠ 0 →
        (state.accumulatorKeys action.accumulator.keyRef.owner action.accumulator.keyRef.id).isSome) ∧
      state.accumulators action.id = none ∧
      state' = state.writeAccumulator action.id (some (.new action.accumulator now)) := by
  simp only [dispatch, Except.bind_eq_ok, Except.pure_eq_ok, Prod.mk.injEq] at done
  obtain ⟨⟨⟨⟩, did'', state''⟩, ran, rfl, rfl⟩ := done
  obtain ⟨-, -, -, -, -, -, data, after, body, -, rfl⟩ := SignedActionWithNonce.executeRemovable_eq_ok ran
  obtain ⟨⟨⟨⟩, added⟩, ranBody, packed⟩ := Except.bind_eq_ok.mp body
  simp only [Except.pure_eq_ok, Prod.mk.injEq] at packed
  obtain ⟨-, rfl, rfl⟩ := packed
  rw [lift_eq_ok] at ranBody
  obtain ⟨keyExists, owned, free, rfl⟩ := addAccumulator_guards ranBody
  exact ⟨owned, keyExists, free, rfl⟩

/-- `update_accumulator` gives an accumulator its owner signs a new value that fits, and
the current block as the block of its last update. -/
theorem dispatch_updateAccumulator {action : UpdateAccumulator}
    (done : dispatch crypto encode now (.updateAccumulator action signature) did state = .ok (did', state')) :
    ∃ stored updated, state.accumulators action.id = some stored ∧
      stored.accumulator.ownerDid = ⟨signature.signer⟩ ∧
      stored.accumulator.setNewAccumulated action.newAccumulated = some updated ∧
      state' = state.writeAccumulator action.id (some { stored with accumulator := updated, lastUpdatedAt := now }) := by
  simp only [dispatch, Except.bind_eq_ok, Except.pure_eq_ok, Prod.mk.injEq] at done
  obtain ⟨⟨⟨⟩, did'', state''⟩, ran, rfl, rfl⟩ := done
  obtain ⟨-, stored, found, -, -, -, -, -, data, after, body, -, rfl⟩ := SignedActionWithNonce.execute_eq_ok ran
  obtain ⟨⟨⟨⟩, written⟩, ranBody, packed⟩ := Except.bind_eq_ok.mp body
  simp only [Except.pure_eq_ok, Prod.mk.injEq] at packed
  obtain ⟨-, rfl, rfl⟩ := packed
  rw [lift_eq_ok] at ranBody
  obtain ⟨⟨⟩, ownerChecked, set⟩ := Except.bind_eq_ok.mp ranBody
  cases updated : stored.accumulator.setNewAccumulated action.newAccumulated with
  | none => simp [updated] at set
  | some accumulator =>
      simp only [updated, Except.pure_eq_ok, Prod.mk.injEq] at set
      obtain ⟨-, rfl⟩ := set
      exact ⟨stored, accumulator, found, by simpa using Except.unless_eq_ok.mp ownerChecked, updated, rfl⟩

/-- `remove_accumulator` takes an accumulator its owner signs for. -/
theorem dispatch_removeAccumulator {action : RemoveAccumulator}
    (done : dispatch crypto encode now (.removeAccumulator action signature) did state = .ok (did', state')) :
    ∃ stored, state.accumulators action.id = some stored ∧ stored.accumulator.ownerDid = ⟨signature.signer⟩ ∧
      state' = state.writeAccumulator action.id none := by
  simp only [dispatch, Except.bind_eq_ok, Except.pure_eq_ok, Prod.mk.injEq] at done
  obtain ⟨⟨⟨⟩, did'', state''⟩, ran, rfl, rfl⟩ := done
  obtain ⟨-, -, -, -, -, -, data, after, body, -, rfl⟩ := SignedActionWithNonce.executeRemovable_eq_ok ran
  obtain ⟨⟨⟨⟩, removed⟩, ranBody, packed⟩ := Except.bind_eq_ok.mp body
  simp only [Except.pure_eq_ok, Prod.mk.injEq] at packed
  obtain ⟨-, rfl, rfl⟩ := packed
  rw [lift_eq_ok] at ranBody
  cases found : state.accumulators action.id with
  | none => simp [found, removeAccumulator_] at ranBody
  | some stored =>
      simp only [found, removeAccumulator_] at ranBody
      obtain ⟨⟨⟩, ownerChecked, removed⟩ := Except.bind_eq_ok.mp ranBody
      simp only [Except.pure_eq_ok, Prod.mk.injEq] at removed
      obtain ⟨-, rfl⟩ := removed
      exact ⟨stored, rfl, by simpa using Except.unless_eq_ok.mp ownerChecked, rfl⟩

end Calls

end DockSubstrate.AccumulatorModule
