import Mathlib
import DockSubstrate.Common.SignedExecution
import DockSubstrate.Common.WithDid

/-!
# Signature parameters

The parameters calls of the off-chain signatures pallet (`modules/offchain_signatures`).
`add_params` is an action signed by its owner with the owner's next nonce, whose target is
the signer itself (`signed_with_signer_target`): `add_params_` moves the owner's
`ParamsCounter`, a `ValueQuery`, to the next identifier and stores the parameters under
it.  `remove_params` is signed by anyone with a nonce; `remove_params_` lets only the owner
remove parameters, and only existing ones.

The parameters are read by the DID pallet's `add_public_key`, whose model keeps
`SignatureParams` in the DID pallet's storage; so the calls here run on `ParamsCounter` and
a copy of `SignatureParams`, which they write back there.  Of the parameters, only their
scheme is read (their bytes and label are only stored).  The message a signature covers is
the runtime's `StateChange` of the action, which `encode` gives.
-/

namespace DockSubstrate.OffchainSignaturesModule

open DockSubstrate.Lib DockSubstrate.Util DockSubstrate.Common DockSubstrate.DidModule

/-- `AddOffchainSignatureParams`, with the parameters by their scheme. -/
structure AddOffchainSignatureParams where
  params : SignatureScheme
  nonce : Nat
  deriving DecidableEq, Repr

/-- `RemoveOffchainSignatureParams`: the parameters by their owner and identifier. -/
structure RemoveOffchainSignatureParams where
  paramsRef : DidOrDidMethodKey × Nat
  nonce : Nat
  deriving DecidableEq, Repr

/-- The actions a signature of this module covers. -/
inductive Action where
  | addOffchainSignatureParams (action : AddOffchainSignatureParams)
  | removeOffchainSignatureParams (action : RemoveOffchainSignatureParams)

/-- `ParamsCounter`, by `SignatureParamsOwner`: `0` for an owner that never added parameters. -/
structure State where
  paramsCounter : DidOrDidMethodKey → Nat

/-- No parameters added yet. -/
def initial : State :=
  ⟨fun _ => 0⟩

/-- What the parameters calls run on: `ParamsCounter` and `SignatureParams`. -/
structure Storage where
  paramsCounter : DidOrDidMethodKey → Nat
  signatureParams : DidOrDidMethodKey → Nat → Option SignatureScheme

/-- A call of the parameters calls with its signature. -/
inductive Call where
  | addParams (params : AddOffchainSignatureParams) (signature : DidOrDidMethodKeySignature)
  | removeParams (remove : RemoveOffchainSignatureParams) (signature : DidOrDidMethodKeySignature)

/-- The signer a call's signature names. -/
def Call.signer : Call → DidOrDidMethodKey
  | .addParams _ signature => signature.signer
  | .removeParams _ signature => signature.signer

/-- `try_mutate_exists` on `ParamsCounter`: a removed counter reads as `0`. -/
def Storage.writeParamsCounter (owner : DidOrDidMethodKey) (storage : Storage) (counter : Option Nat) : Storage :=
  { storage with paramsCounter := Function.update storage.paramsCounter owner (counter.getD 0) }

/-- `add_params_`: the parameters are stored under the owner's next parameters identifier. -/
def addParams_ (action : AddOffchainSignatureParams) (paramsCounter : Nat) (signer : DidOrDidMethodKey)
    (storage : Storage) : Except OffchainSignaturesError (Unit × Nat × Storage) :=
  let paramsCounter := wrappingInc paramsCounter
  pure ((), paramsCounter,
    { storage with signatureParams := update₂ storage.signatureParams signer paramsCounter (some action.params) })

/-- `remove_params_`: only the owner removes parameters, which must exist. -/
def removeParams_ (action : RemoveOffchainSignatureParams) (owner : DidOrDidMethodKey) (storage : Storage) :
    Except OffchainSignaturesError (Unit × Storage) := do
  (unless action.paramsRef.1 == owner do throw .notOwner)
  (unless (storage.signatureParams action.paramsRef.1 action.paramsRef.2).isSome do throw .paramsDontExist)
  pure ((), { storage with
    signatureParams := update₂ storage.signatureParams action.paramsRef.1 action.paramsRef.2 none })

/-- The default `AuthorizeTarget` of `SignatureParamsOwner` and of `()`, which accepts every signer. -/
def noCheck (_ : DidOrDidMethodKey) : Except OffchainSignaturesError Unit :=
  pure ()

/-- A body's error, as `SignedActionWithNonce` passes it on. -/
def lift {α : Type} (body : Except OffchainSignaturesError α) :
    Except (IntermediateError (DidModule.Error ⊕ OffchainSignaturesError)) α :=
  body.mapError fun error => .dispatch (.inr error)

section Dispatch

variable (crypto : SignatureVerification StateChange) (encode : Action → StateChange)

open SignedActionWithNonce in
/-- `add_params` through `execute` on the signer's counter, and `remove_params` through
`execute_view` on `()`; `SignatureParams` is written back to the DID pallet's storage. -/
def dispatch (call : Call) (did : DidModule.State) (state : State) :
    Except (IntermediateError (DidModule.Error ⊕ OffchainSignaturesError)) (DidModule.State × State) := do
  let storage : Storage := ⟨state.paramsCounter, did.signatureParams⟩
  let ((), did, storage) ← match call with
    | .addParams action signature =>
        execute crypto 1 action.nonce (fun storage => some (storage.paramsCounter signature.signer))
          (Storage.writeParamsCounter signature.signer) signature (encode (.addOffchainSignatureParams action))
          (fun _ => noCheck) (fun paramsCounter signer storage => lift (addParams_ action paramsCounter signer storage))
          did storage
    | .removeParams action signature =>
        executeView crypto 1 action.nonce (fun _ => some ()) signature
          (encode (.removeOffchainSignatureParams action)) (fun _ => noCheck)
          (fun _ owner storage => lift (removeParams_ action owner storage)) did storage
  pure ({ did with signatureParams := storage.signatureParams }, ⟨storage.paramsCounter⟩)

end Dispatch

/-! ## What a call leaves -/

@[simp]
theorem writeSigner_signatureParams (did : DidModule.State) (signer : DidOrDidMethodKey)
    (value : Option (WithNonce DidDetailsOrDidMethodKeyDetails)) :
    (did.writeSigner signer value).signatureParams = did.signatureParams := by
  cases signer <;> rfl

@[simp]
theorem writeSigner_publicKeys (did : DidModule.State) (signer : DidOrDidMethodKey)
    (value : Option (WithNonce DidDetailsOrDidMethodKeyDetails)) :
    (did.writeSigner signer value).publicKeys = did.publicKeys := by
  cases signer <;> rfl

theorem removeParams_eq_ok {action : RemoveOffchainSignatureParams} {owner : DidOrDidMethodKey}
    {storage written : Storage} {done : Unit} :
    removeParams_ action owner storage = .ok (done, written) ↔
      action.paramsRef.1 = owner ∧ (storage.signatureParams action.paramsRef.1 action.paramsRef.2).isSome ∧
        written = { storage with
          signatureParams := update₂ storage.signatureParams action.paramsRef.1 action.paramsRef.2 none } := by
  unfold removeParams_
  by_cases named : action.paramsRef.1 = owner
  · cases (storage.signatureParams action.paramsRef.1 action.paramsRef.2).isSome <;>
      simp [named, @eq_comm _ written]
  · simp [named]

section Calls

variable {crypto : SignatureVerification StateChange} {encode : Action → StateChange}
  {did did' : DidModule.State} {state state' : State}

/-- `add_params` renews its signer's nonce, moves the signer's counter to the next
identifier and stores the parameters under it. -/
theorem dispatch_addParams {action : AddOffchainSignatureParams} {signature : DidOrDidMethodKeySignature}
    (done : dispatch crypto encode (.addParams action signature) did state = .ok (did', state')) :
    ∃ current, did.signerValue signature.signer = some current ∧ action.nonce = current.nonce + 1 ∧
      action.nonce ≤ u32Max ∧
      did' = { did.writeSigner signature.signer (some { current with nonce := action.nonce }) with
        signatureParams := update₂ did.signatureParams signature.signer
          (wrappingInc (state.paramsCounter signature.signer)) (some action.params) } ∧
      state' = ⟨Function.update state.paramsCounter signature.signer
        (wrappingInc (state.paramsCounter signature.signer))⟩ := by
  simp only [dispatch, Except.bind_eq_ok, Except.pure_eq_ok, Prod.mk.injEq] at done
  obtain ⟨⟨⟨⟩, renewed, storage⟩, ran, rfl, rfl⟩ := done
  obtain ⟨-, counter, found, -, current, signer, fresh, fits, moved, written, body, rfl, rfl⟩ :=
    SignedActionWithNonce.execute_eq_ok ran
  cases found
  rw [lift, Except.mapError_eq_ok] at body
  cases body
  exact ⟨current, signer, fresh, fits, rfl, rfl⟩

/-- `remove_params` renews its signer's nonce and removes the signer's own parameters,
which must exist; the counters stay. -/
theorem dispatch_removeParams {action : RemoveOffchainSignatureParams} {signature : DidOrDidMethodKeySignature}
    (done : dispatch crypto encode (.removeParams action signature) did state = .ok (did', state')) :
    action.paramsRef.1 = signature.signer ∧ (did.signatureParams action.paramsRef.1 action.paramsRef.2).isSome ∧
      ∃ current, did.signerValue signature.signer = some current ∧ action.nonce = current.nonce + 1 ∧
        action.nonce ≤ u32Max ∧
        did' = { did.writeSigner signature.signer (some { current with nonce := action.nonce }) with
          signatureParams := update₂ did.signatureParams action.paramsRef.1 action.paramsRef.2 none } ∧
        state' = state := by
  simp only [dispatch, Except.bind_eq_ok, Except.pure_eq_ok, Prod.mk.injEq] at done
  obtain ⟨⟨⟨⟩, renewed, storage⟩, ran, rfl, rfl⟩ := done
  obtain ⟨-, -, -, -, current, found, fresh, fits, body, rfl⟩ := SignedActionWithNonce.executeView_eq_ok ran
  rw [lift, Except.mapError_eq_ok] at body
  obtain ⟨owner, stored, rfl⟩ := removeParams_eq_ok.mp body
  exact ⟨owner, stored, current, found, fresh, fits, rfl, rfl⟩

end Calls

end DockSubstrate.OffchainSignaturesModule
