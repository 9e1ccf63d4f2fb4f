import Mathlib
import DockSubstrate.Did.Types
import DockSubstrate.Lib.DoubleMap
import DockSubstrate.Lib.SortedMap
import DockSubstrate.Lib.Except
import DockSubstrate.Lib.LimitedClear

/-!
# The DID pallet

The storage of `modules/did` and the public keys of `modules/offchain_signatures`, the
bodies of their calls (`base/onchain.rs`, `base/offchain.rs`, `keys.rs`,
`controllers.rs`, `service_endpoints.rs`, `offchain_signatures/public_key.rs`), and the
way a call signed by a controller runs them (`execute_removable_from_controller`):

* the controller's signature is checked against the key it names and against the
  target's controllers;
* a DID controller's nonce is updated with `execute_and_increase_nonce` on its own entry
  of `Dids`, and when it is not the target, the action runs on the target's entry with
  `execute_without_increasing_nonce`; when it is the target, one update of the entry
  does both;
* a DID method key's nonce is updated in `DidMethodKeys`.

Each storage write happens where the source's `try_mutate_exists` writes: after the
function it wraps has run.  A failed call changes nothing, as a failed extrinsic is
rolled back.  `u32` counters and identifiers wrap, as `+=` and `-=` do without overflow
checks.  The removal of a DID clears its rows with `clear_prefix(did, u32::MAX, None)`,
which deletes at most `u32::MAX` entries of a row; which ones is the storage's affair, so
the clears are a parameter (`Backend`).

`Step` relates two states by one successful call, and `Reachable` holds of the states a
run of successful calls leads to from a genesis state.
-/

namespace DockSubstrate.DidModule

open DockSubstrate.Lib DockSubstrate.Util

/-- `did::Error`: the errors the modelled calls raise. -/
inductive Error where
  | didAlreadyExists
  | didMethodKeyExists
  | didDoesNotExist
  | didNotOwnedByAccount
  | noControllerProvided
  | expectedOffChainDid
  | expectedOnChainDid
  | invalidSignature
  | onlyControllerCanUpdate
  | noKeyForDid
  | noControllerForDid
  | incompatibleSignaturePublicKey
  | insufficientVerificationRelationship
  | controllerIsAlreadyAdded
  | invalidServiceEndpoint
  | serviceEndpointAlreadyExists
  | serviceEndpointDoesNotExist
  | keyAgreementCantBeUsedForSigning
  | signingKeyCantBeUsedForKeyAgreement
  | invalidNonce
  | onchainDidDoesntExist
  | noEntity
  | emptyPayload
  | conversionError
  deriving DecidableEq, Repr

/-- `From<DidKeyError> for Error`. -/
def Error.ofDidKeyError : DidKeyError → Error
  | .keyAgreementCantBeUsedForSigning => .keyAgreementCantBeUsedForSigning
  | .signingKeyCantBeUsedForKeyAgreement => .signingKeyCantBeUsedForKeyAgreement

/-- `offchain_signatures::Error`: the errors of its public keys. -/
inductive OffchainSignaturesError where
  | paramsDontExist
  | incorrectParamsScheme
  | publicKeyDoesntExist
  | notOwner
  deriving DecidableEq, Repr

/-- Why a call fails: an error of the DID pallet or of the off-chain signatures pallet. -/
inductive DispatchError where
  | did (error : Error)
  | offchainSignatures (error : OffchainSignaturesError)
  deriving DecidableEq, Repr

/-- The storage of both pallets.  `DidControllers` holds `()`, so it is a set of pairs;
`SignatureParams` is read for the scheme of the parameters only. -/
structure State where
  dids : Did → Option StoredDidDetails
  didMethodKeys : DidMethodKey → Option (WithNonce Unit)
  didKeys : Did → Nat → Option DidKey
  didControllers : Did → Controller → Bool
  didServiceEndpoints : Did → List Nat → Option ServiceEndpoint
  signatureParams : DidOrDidMethodKey → Nat → Option SignatureScheme
  publicKeys : Did → Nat → Option OffchainPublicKey

namespace State

/-- Nothing stored. -/
def empty : State where
  dids _ := none
  didMethodKeys _ := none
  didKeys _ _ := none
  didControllers _ _ := false
  didServiceEndpoints _ _ := none
  signatureParams _ _ := none
  publicKeys _ _ := none

/-- `Pallet::is_controller`. -/
def isController (state : State) (controlled : Did) (controller : Controller) : Bool :=
  state.didControllers controlled controller

/-- `Pallet::is_self_controlled`. -/
def isSelfControlled (state : State) (did : Did) : Bool :=
  state.isController did ⟨.did did⟩

/-- `Pallet::offchain_did_details`. -/
def offchainDidDetails (state : State) (did : Did) : Except Error OffChainDidDetails :=
  match state.dids did with
  | none => .error .didDoesNotExist
  | some (.offChain details) => .ok details
  | some (.onChain _) => .error .expectedOffChainDid

/-- `Pallet::onchain_did_details`. -/
def onchainDidDetails (state : State) (did : Did) : Except Error (WithNonce OnChainDidDetails) :=
  match state.dids did with
  | none => .error .didDoesNotExist
  | some (.onChain details) => .ok details
  | some (.offChain _) => .error .expectedOnChainDid

end State

/-- The genesis configuration: each DID with its one key, under identifier 1, as its own
controller, with nonce 0. -/
def genesis (dids : List (Did × DidKey)) : State :=
  dids.foldl (fun state (did, key) =>
    { state with
      dids := Function.update state.dids did (some (.onChain ⟨0, ⟨1, 1, 1⟩⟩))
      didKeys := update₂ state.didKeys did 1 (some key)
      didControllers := update₂ state.didControllers did ⟨.did did⟩ true }) State.empty

/-! ## Call bodies -/

/-- The loop `for (key, key_id) in keys.zip(&mut last_key_id)`: each key is stored under
the next identifier, which `IncId::inc` makes with `+= 1` on a `u32`. -/
def insertKeys (did : Did) :
    List DidKey → Nat → (Did → Nat → Option DidKey) → Nat × (Did → Nat → Option DidKey)
  | [], lastKeyId, didKeys => (lastKeyId, didKeys)
  | key :: rest, lastKeyId, didKeys =>
      insertKeys did rest (wrappingInc lastKeyId) (update₂ didKeys did (wrappingInc lastKeyId) (some key))

/-- The keys are stored under `did` only. -/
theorem insertKeys_of_ne {did other : Did} (differs : other ≠ did) (keys : List DidKey) (lastKeyId : Nat)
    (didKeys : Did → Nat → Option DidKey) : (insertKeys did keys lastKeyId didKeys).2 other = didKeys other := by
  induction keys generalizing lastKeyId didKeys with
  | nil => rfl
  | cons key rest ih => rw [insertKeys, ih, update₂_of_ne differs]

/-- `keys.iter().filter(|key| key.can_control()).count() as u32`. -/
def controllerKeysCount (keys : List DidKey) : Nat :=
  (keys.filter DidKey.canControl).length % 2 ^ 32

/-- Every unchecked key as a `DidKey`, or the first key's error. -/
def checkKeys (keys : List UncheckedDidKey) : Except Error (List DidKey) :=
  (keys.mapM UncheckedDidKey.check).mapError Error.ofDidKeyError

/-- The controllers of `did` with those of a set added. -/
def withControllers (didControllers : Did → Controller → Bool) (did : Did) (controllers : Finset Controller)
    (present : Bool) : Did → Controller → Bool :=
  fun controlled controller =>
    if controlled = did ∧ controller ∈ controllers then present else didControllers controlled controller

/-- The controllers of the other DIDs stay. -/
theorem withControllers_of_ne {didControllers : Did → Controller → Bool} {did other : Did} (differs : other ≠ did)
    (controllers : Finset Controller) (present : Bool) :
    withControllers didControllers did controllers present other = didControllers other := by
  funext controller
  simp [withControllers, differs]

/-- `new_onchain_`: the keys get the identifiers 1, 2, …, and a DID with a controller key
controls itself. -/
def newOnchain_ (did : Did) (keys : List UncheckedDidKey) (controllers : Finset Controller)
    (state : State) : Except Error State := do
  if (state.dids did).isSome then throw .didAlreadyExists
  let keys ← checkKeys keys
  let controllerKeysCount := controllerKeysCount keys
  let controllers := if 0 < controllerKeysCount then insert ⟨.did did⟩ controllers else controllers
  if controllers = ∅ then throw .noControllerProvided
  let (lastKeyId, didKeys) := insertKeys did keys 0 state.didKeys
  pure { state with
    didKeys
    didControllers := withControllers state.didControllers did controllers true
    dids := Function.update state.dids did
      (some (.onChain ⟨0, ⟨lastKeyId, controllerKeysCount, controllers.card % 2 ^ 32⟩⟩)) }

/-- `add_keys_`: a DID that did not control itself does so once it has a controller key. -/
def addKeys_ (action : AddKeys) (details : OnChainDidDetails) (state : State) :
    Except Error (OnChainDidDetails × State) := do
  let keys ← checkKeys action.keys
  let controllerKeysCount := controllerKeysCount keys
  let activeControllerKeys := wrappingAdd details.activeControllerKeys controllerKeysCount
  let addSelfControlled := 0 < controllerKeysCount && !state.isSelfControlled action.did
  let didControllers :=
    if addSelfControlled then update₂ state.didControllers action.did ⟨.did action.did⟩ true
    else state.didControllers
  let activeControllers :=
    if addSelfControlled then wrappingInc details.activeControllers else details.activeControllers
  let (lastKeyId, didKeys) := insertKeys action.did keys details.lastKeyId state.didKeys
  pure (⟨lastKeyId, activeControllerKeys, activeControllers⟩, { state with didKeys, didControllers })

/-- The loop of `remove_keys_` over the keys in ascending order: each must exist, and each
controller key takes one off the count. -/
def countRemovedKeys (state : State) (did : Did) (keys : List Nat) (count : Nat) : Except Error Nat :=
  keys.foldlM (fun count keyId =>
    match state.didKeys did keyId with
    | none => throw .noKeyForDid
    | some key => pure (if key.canControl then wrappingSub count 1 else count)) count

/-- `remove_keys_`: a DID left without a controller key stops controlling itself. -/
def removeKeys_ (action : RemoveKeys) (details : OnChainDidDetails) (state : State) :
    Except Error (OnChainDidDetails × State) := do
  let activeControllerKeys ←
    countRemovedKeys state action.did (ascending action.keys) details.activeControllerKeys
  let didKeys := fun did keyId =>
    if did = action.did ∧ keyId ∈ action.keys then none else state.didKeys did keyId
  let removeSelfControlled := activeControllerKeys == 0 && state.isSelfControlled action.did
  let didControllers :=
    if removeSelfControlled then update₂ state.didControllers action.did ⟨.did action.did⟩ false
    else state.didControllers
  let activeControllers :=
    if removeSelfControlled then wrappingSub details.activeControllers 1 else details.activeControllers
  pure ({ details with activeControllerKeys, activeControllers }, { state with didKeys, didControllers })

/-- `add_controllers_`. -/
def addControllers_ (action : AddControllers) (details : OnChainDidDetails) (state : State) :
    Except Error (OnChainDidDetails × State) := do
  if (ascending action.controllers).any (state.isController action.did) then
    throw .controllerIsAlreadyAdded
  let activeControllers :=
    (ascending action.controllers).foldl (fun count _ => wrappingInc count) details.activeControllers
  pure ({ details with activeControllers },
    { state with didControllers := withControllers state.didControllers action.did action.controllers true })

/-- `remove_controllers_`. -/
def removeControllers_ (action : RemoveControllers) (details : OnChainDidDetails) (state : State) :
    Except Error (OnChainDidDetails × State) := do
  if !(ascending action.controllers).all (state.isController action.did) then
    throw .noControllerForDid
  let activeControllers :=
    (ascending action.controllers).foldl (fun count _ => wrappingSub count 1) details.activeControllers
  pure ({ details with activeControllers },
    { state with didControllers := withControllers state.didControllers action.did action.controllers false })

/-- `add_service_endpoint_`. -/
def addServiceEndpoint_ (action : AddServiceEndpoint) (details : OnChainDidDetails) (state : State) :
    Except Error (OnChainDidDetails × State) := do
  if action.id.isEmpty then throw .invalidServiceEndpoint
  if !action.endpoint.isValid then throw .invalidServiceEndpoint
  if (state.didServiceEndpoints action.did action.id).isSome then throw .serviceEndpointAlreadyExists
  pure (details, { state with
    didServiceEndpoints := update₂ state.didServiceEndpoints action.did action.id (some action.endpoint) })

/-- `remove_service_endpoint_`. -/
def removeServiceEndpoint_ (action : RemoveServiceEndpoint) (details : OnChainDidDetails) (state : State) :
    Except Error (OnChainDidDetails × State) := do
  if action.id.isEmpty then throw .invalidServiceEndpoint
  if (state.didServiceEndpoints action.did action.id).isNone then throw .serviceEndpointDoesNotExist
  pure (details, { state with
    didServiceEndpoints := update₂ state.didServiceEndpoints action.did action.id none })

/-- The storage's `clear_prefix` on the rows of a DID that its removal clears: `DidKeys`,
`DidControllers` and `DidServiceEndpoints`, and the `PublicKeys` of the off-chain signatures
pallet. -/
structure Backend where
  didKeys : LimitedClear Nat (Option DidKey) none
  didControllers : LimitedClear Controller Bool false
  didServiceEndpoints : LimitedClear (List Nat) (Option ServiceEndpoint) none
  publicKeys : LimitedClear Nat (Option OffchainPublicKey) none

/-- The clears that iterate the keys in the order of their encodings. -/
def Backend.byEncoding : Backend :=
  ⟨.byEncoding none, .byEncoding false, .byEncoding none, .byEncoding none⟩

/-- `remove_onchain_did_`: the details are taken, the DID's keys, controllers and service
endpoints cleared with `clear_prefix(did, u32::MAX, None)`, and `OnDidRemoval` (the
off-chain signatures pallet) clears its public keys the same way. -/
def removeOnchainDid_ (backend : Backend) (action : DidRemoval) (details : Option OnChainDidDetails)
    (state : State) : Except Error (Option OnChainDidDetails × State) := do
  let some _ := details | throw .onchainDidDoesntExist
  pure (none, { state with
    didKeys := Function.update state.didKeys action.did
      (backend.didKeys.left u32Max (state.didKeys action.did))
    didControllers := Function.update state.didControllers action.did
      (backend.didControllers.left u32Max (state.didControllers action.did))
    didServiceEndpoints := Function.update state.didServiceEndpoints action.did
      (backend.didServiceEndpoints.left u32Max (state.didServiceEndpoints action.did))
    publicKeys := Function.update state.publicKeys action.did
      (backend.publicKeys.left u32Max (state.publicKeys action.did)) })

/-- `OffchainPublicKey::ensure_valid`: parameters it refers to exist, of its scheme. -/
def OffchainPublicKey.ensureValid (key : OffchainPublicKey) (state : State) :
    Except OffchainSignaturesError Unit :=
  match key.paramsRef with
  | none => .ok ()
  | some (owner, paramsId) =>
      match state.signatureParams owner paramsId with
      | none => .error .paramsDontExist
      | some scheme => if scheme = key.scheme then .ok () else .error .incorrectParamsScheme

/-- `add_public_key_`: the key is stored under the owner's next key identifier. -/
def addPublicKey_ (action : AddOffchainSignaturePublicKey) (details : OnChainDidDetails) (state : State) :
    Except OffchainSignaturesError (OnChainDidDetails × State) := do
  OffchainPublicKey.ensureValid action.key state
  let lastKeyId := wrappingInc details.lastKeyId
  pure ({ details with lastKeyId }, { state with
    publicKeys := update₂ state.publicKeys action.did lastKeyId (some action.key) })

/-- `remove_public_key_`. -/
def removePublicKey_ (action : RemoveOffchainSignaturePublicKey) (details : OnChainDidDetails)
    (state : State) : Except OffchainSignaturesError (OnChainDidDetails × State) := do
  if (state.publicKeys action.keyRef.1 action.keyRef.2).isNone then throw .publicKeyDoesntExist
  if action.keyRef.1 ≠ action.did then throw .notOwner
  pure (details, { state with publicKeys := update₂ state.publicKeys action.keyRef.1 action.keyRef.2 none })

/-- `new_offchain_`. -/
def newOffchain_ (caller : Nat) (did : Did) (docRef : OffChainDidDocRef) (state : State) : Except Error State := do
  if (state.dids did).isSome then throw .didAlreadyExists
  pure { state with dids := Function.update state.dids did (some (.offChain ⟨caller, docRef⟩)) }

/-- `set_offchain_did_doc_ref_`: only the owning account. -/
def setOffchainDidDocRef_ (caller : Nat) (did : Did) (docRef : OffChainDidDocRef) (state : State) :
    Except Error State := do
  let details ← state.offchainDidDetails did
  if details.accountId ≠ caller then throw .didNotOwnedByAccount
  pure { state with dids := Function.update state.dids did (some (.offChain ⟨caller, docRef⟩)) }

/-- `remove_offchain_did_`: only the owning account. -/
def removeOffchainDid_ (caller : Nat) (did : Did) (state : State) : Except Error State := do
  let details ← state.offchainDidDetails did
  if details.accountId ≠ caller then throw .didNotOwnedByAccount
  pure { state with dids := Function.update state.dids did none }

/-- `new_did_method_key_`: its nonce starts at 0. -/
def newDidMethodKey_ (didKey : DidMethodKey) (state : State) : Except Error State := do
  if (state.didMethodKeys didKey).isSome then throw .didMethodKeyExists
  pure { state with didMethodKeys := Function.update state.didMethodKeys didKey (some ⟨0, ()⟩) }

/-! ## Signed calls -/

section Signed

variable (crypto : SignatureVerification StateChange)

/-- `authorizes_signed_action` of a signature by a controller of `target`: the signature's
key must exist; a DID's key must authenticate or control (the check of `Did`), and
control (the check of `Controller`); the signer must control the target; and the
signature must verify. -/
def authorizeController (state : State) (signature : DidOrDidMethodKeySignature) (target : Did)
    (message : StateChange) : Except Error Controller :=
  match signature with
  | .didSignature sig => do
      let some key := state.didKeys sig.did sig.keyId | throw .noKeyForDid
      unless key.canAuthenticateOrControl do throw .insufficientVerificationRelationship
      unless key.canControl do throw .insufficientVerificationRelationship
      unless state.isController target ⟨.did sig.did⟩ do throw .onlyControllerCanUpdate
      let verified ← (sig.sig.verify crypto message key.publicKey).mapError
        fun _ => .incompatibleSignaturePublicKey
      if verified then pure ⟨.did sig.did⟩ else throw .invalidSignature
  | .didMethodKeySignature sig => do
      unless state.isController target ⟨.didMethodKey sig.didMethodKey⟩ do throw .onlyControllerCanUpdate
      let verified ← (sig.sig.verify crypto message sig.didMethodKey).mapError
        fun _ => .incompatibleSignaturePublicKey
      if verified then pure ⟨.didMethodKey sig.didMethodKey⟩ else throw .invalidSignature

/-- A function run on the on-chain details of a DID, which it may remove. -/
abbrev OnDetails := Option OnChainDidDetails → State → Except DispatchError (Option OnChainDidDetails × State)

/-- The run of a function on the entry of `did` in `Dids` through its on-chain details:
the entry must exist (`NoEntity`) and be on-chain (`ConversionError`, the failed
conversion of `update_with`), `renew` gives the nonce it is written back with, and
the function's details are written back after it ran. -/
def executeOnDid (len : Nat) (did : Did) (renew : WithNonce OnChainDidDetails → Except DispatchError Nat)
    (f : OnDetails) (state : State) : Except DispatchError State := do
  if len = 0 then throw (.did .emptyPayload)
  let some stored := state.dids did | throw (.did .noEntity)
  let some details := stored.intoOnchain | throw (.did .conversionError)
  let nonce ← renew details
  let (data, state) ← f (some details.data) state
  pure { state with dids := Function.update state.dids did (data.map fun data => .onChain ⟨nonce, data⟩) }

/-- `execute_and_increase_nonce` on a DID: the action's nonce must be the next one. -/
def executeAndIncreaseNonce (len : Nat) (did : Did) (nonce : Nat) (f : OnDetails) (state : State) :
    Except DispatchError State :=
  executeOnDid len did (fun details =>
    ((details.tryUpdate nonce).map WithNonce.nonce).mapError fun _ => .did .invalidNonce) f state

/-- `execute_without_increasing_nonce` on a DID. -/
def executeWithoutIncreasingNonce (len : Nat) (did : Did) (f : OnDetails) (state : State) :
    Except DispatchError State :=
  executeOnDid len did (fun details => pure details.nonce) f state

/-- `execute_and_increase_nonce` on a DID method key, whose stored data is `()`. -/
def executeAndIncreaseNonceOfKey (len : Nat) (key : DidMethodKey) (nonce : Nat)
    (f : State → Except DispatchError State) (state : State) : Except DispatchError State := do
  if len = 0 then throw (.did .emptyPayload)
  let some stored := state.didMethodKeys key | throw (.did .noEntity)
  let updated ← (stored.tryUpdate nonce).mapError fun _ => .did .invalidNonce
  let state ← f state
  pure { state with didMethodKeys := Function.update state.didMethodKeys key (some updated) }

/-- `execute_removable_from_controller`: the controller's nonce is increased, and the
function runs on the target's details; a DID that controls itself does both in one
update of its entry. -/
def executeRemovableFromController (len : Nat) (target : Did) (nonce : Nat) (message : StateChange)
    (f : OnDetails) (signature : DidOrDidMethodKeySignature) (state : State) : Except DispatchError State := do
  let signer ← (authorizeController crypto state signature target message).mapError .did
  match signer.id with
  | .did controller =>
      if controller = target then executeAndIncreaseNonce len controller nonce f state
      else
        executeAndIncreaseNonce len controller nonce (fun details state => do
          let state ← executeWithoutIncreasingNonce len target f state
          pure (details, state)) state
  | .didMethodKey key =>
      executeAndIncreaseNonceOfKey len key nonce (executeWithoutIncreasingNonce len target f) state

/-- A call body on existing details, as `execute_from_controller` runs it. -/
def onExisting {ε : Type} (lift : ε → DispatchError)
    (body : OnChainDidDetails → State → Except ε (OnChainDidDetails × State)) : OnDetails :=
  fun details state => do
    let some data := details | throw (.did .noEntity)
    let (data, state) ← (body data state).mapError lift
    pure (some data, state)

/-- `execute_from_controller`. -/
def executeFromController {ε : Type} (len : Nat) (target : Did) (nonce : Nat) (message : StateChange)
    (lift : ε → DispatchError) (body : OnChainDidDetails → State → Except ε (OnChainDidDetails × State))
    (signature : DidOrDidMethodKeySignature) (state : State) : Except DispatchError State :=
  executeRemovableFromController crypto len target nonce message (onExisting lift body) signature state

end Signed

/-! ## Calls -/

/-- A call of the two pallets; an unsigned call carries the calling account. -/
inductive Call where
  | newOffchain (caller : Nat) (did : Did) (docRef : OffChainDidDocRef)
  | setOffchainDidDocRef (caller : Nat) (did : Did) (docRef : OffChainDidDocRef)
  | removeOffchainDid (caller : Nat) (did : Did)
  | newOnchain (did : Did) (keys : List UncheckedDidKey) (controllers : Finset Controller)
  | addKeys (keys : AddKeys) (sig : DidOrDidMethodKeySignature)
  | removeKeys (keys : RemoveKeys) (sig : DidOrDidMethodKeySignature)
  | addControllers (controllers : AddControllers) (sig : DidOrDidMethodKeySignature)
  | removeControllers (controllers : RemoveControllers) (sig : DidOrDidMethodKeySignature)
  | addServiceEndpoint (serviceEndpoint : AddServiceEndpoint) (sig : DidOrDidMethodKeySignature)
  | removeServiceEndpoint (serviceEndpoint : RemoveServiceEndpoint) (sig : DidOrDidMethodKeySignature)
  | removeOnchainDid (removal : DidRemoval) (sig : DidOrDidMethodKeySignature)
  | newDidMethodKey (didKey : DidMethodKey)
  | addPublicKey (publicKey : AddOffchainSignaturePublicKey) (sig : DidOrDidMethodKeySignature)
  | removePublicKey (remove : RemoveOffchainSignaturePublicKey) (sig : DidOrDidMethodKeySignature)

section Dispatch

variable (crypto : SignatureVerification StateChange) (backend : Backend)

/-- A call of the two pallets. -/
def dispatch (call : Call) (state : State) : Except DispatchError State :=
  match call with
  | .newOffchain caller did docRef => (newOffchain_ caller did docRef state).mapError .did
  | .setOffchainDidDocRef caller did docRef => (setOffchainDidDocRef_ caller did docRef state).mapError .did
  | .removeOffchainDid caller did => (removeOffchainDid_ caller did state).mapError .did
  | .newOnchain did keys controllers => (newOnchain_ did keys controllers state).mapError .did
  | .addKeys action sig =>
      executeFromController crypto action.keys.length action.did action.nonce (.addKeys action) .did
        (addKeys_ action) sig state
  | .removeKeys action sig =>
      executeFromController crypto action.keys.card action.did action.nonce (.removeKeys action) .did
        (removeKeys_ action) sig state
  | .addControllers action sig =>
      executeFromController crypto action.controllers.card action.did action.nonce (.addControllers action)
        .did (addControllers_ action) sig state
  | .removeControllers action sig =>
      executeFromController crypto action.controllers.card action.did action.nonce
        (.removeControllers action) .did (removeControllers_ action) sig state
  | .addServiceEndpoint action sig =>
      executeFromController crypto 1 action.did action.nonce (.addServiceEndpoint action) .did
        (addServiceEndpoint_ action) sig state
  | .removeServiceEndpoint action sig =>
      executeFromController crypto 1 action.did action.nonce (.removeServiceEndpoint action) .did
        (removeServiceEndpoint_ action) sig state
  | .removeOnchainDid action sig =>
      executeRemovableFromController crypto 1 action.did action.nonce (.didRemoval action)
        (fun details state => (removeOnchainDid_ backend action details state).mapError .did) sig state
  | .newDidMethodKey didKey => (newDidMethodKey_ didKey state).mapError .did
  | .addPublicKey action sig =>
      executeFromController crypto 1 action.did action.nonce (.addOffchainSignaturePublicKey action)
        .offchainSignatures (addPublicKey_ action) sig state
  | .removePublicKey action sig =>
      executeFromController crypto 1 action.did action.nonce (.removeOffchainSignaturePublicKey action)
        .offchainSignatures (removePublicKey_ action) sig state

/-- One successful call. -/
def Step (state next : State) : Prop :=
  ∃ call, dispatch crypto backend call state = .ok next

/-- The states a run of successful calls leads to from the genesis of a configuration. -/
def Reachable (config : List (Did × DidKey)) (state : State) : Prop :=
  Relation.ReflTransGen (Step crypto backend) (genesis config) state

/-- The calls of a list, one after the other; the run stops at the first that fails. -/
def runCalls (calls : List Call) (state : State) : Except DispatchError State :=
  calls.foldlM (fun state call => dispatch crypto backend call state) state

variable {crypto backend}

theorem runCalls_append {calls more : List Call} {state : State} :
    runCalls crypto backend (calls ++ more) state =
      runCalls crypto backend calls state >>= runCalls crypto backend more := by
  simp only [runCalls, List.foldlM_append]
  rfl

theorem runCalls_singleton {call : Call} {state : State} :
    runCalls crypto backend [call] state = dispatch crypto backend call state := by
  simp [runCalls]

/-- A run of calls that succeeds from a reachable state ends in a reachable state. -/
theorem Reachable.runCalls {config : List (Did × DidKey)} {calls : List Call} {state next : State}
    (reachable : Reachable crypto backend config state) (ran : runCalls crypto backend calls state = .ok next) :
    Reachable crypto backend config next :=
  Except.foldlM_invariant (fun current _ => Reachable crypto backend config current) reachable
    (fun _ call _ _ current stepped => current.tail ⟨call, stepped⟩) ran

end Dispatch

end DockSubstrate.DidModule
