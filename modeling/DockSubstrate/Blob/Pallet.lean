import Mathlib
import DockSubstrate.Common.SignedExecution
import DockSubstrate.Common.WithDid
import DockSubstrate.Lib.BoundedMap

/-!
# Blobs

The blob pallet (`modules/blob`): `Blobs` maps a blob's id to its owner and bytes.  Its one
call, `new`, is an action signed by one signer with its next nonce
(`SignedActionWithNonce::execute_removable` on the blob's id); `new_` stores the bytes, if
they fit `MaxBlobSize`, under a free id, with the signer as owner.  No call changes or
removes a blob, so a stored blob stays, whatever calls of the DID pallet come between
(`blob_permanent`).  The message a signature covers is the runtime's `StateChange` of the
action, which `encode` gives.
-/

namespace DockSubstrate.BlobModule

open DockSubstrate.Lib DockSubstrate.Common DockSubstrate.DidModule

/-- The bound of a blob's bytes. -/
structure Limits where
  maxBlobSize : Nat
  deriving DecidableEq, Repr

/-- `BlobOwner`. -/
structure BlobOwner where
  did : DidOrDidMethodKey
  deriving DecidableEq, Repr

/-- `BlobId`: 32 bytes, a number here. -/
structure BlobId where
  raw : Nat
  deriving DecidableEq, Repr

/-- `Blob`. -/
structure Blob where
  id : BlobId
  blob : List UInt8
  deriving DecidableEq, Repr

/-- `StoredBlob`: the owner and the bounded bytes. -/
abbrev StoredBlob (limits : Limits) := BlobOwner × BoundedBytes limits.maxBlobSize

/-- `AddBlob`. -/
structure AddBlob where
  blob : Blob
  nonce : Nat
  deriving DecidableEq, Repr

/-- `blob::Error`. -/
inductive Error where
  | blobAlreadyExists
  | didDoesNotExist
  | tooBig
  deriving DecidableEq, Repr

/-- `Blobs`. -/
structure State (limits : Limits) where
  blobs : BlobId → Option (StoredBlob limits)

/-- A call of the pallet with its signature. -/
inductive Call where
  | new (addBlob : AddBlob) (signature : DidOrDidMethodKeySignature)

variable {limits : Limits}

/-- `try_mutate_exists` on `Blobs`. -/
def State.writeBlob (id : BlobId) (state : State limits) (blob : Option (StoredBlob limits)) : State limits :=
  ⟨Function.update state.blobs id blob⟩

/-- `new_`: the bytes must fit and the id be free; the blob is stored with the signer as owner. -/
def new_ (action : AddBlob) (stored : Option (StoredBlob limits)) (signer : BlobOwner) :
    Except Error (Unit × Option (StoredBlob limits)) := do
  let some blobBytes := BoundedBytes.ofBytes? action.blob.blob | throw .tooBig
  (unless stored.isNone do throw .blobAlreadyExists)
  pure ((), some (signer, blobBytes))

/-- The default `AuthorizeTarget` of `BlobOwner`, which accepts every signer. -/
def noCheck (_ : DidOrDidMethodKey) : Except Error Unit :=
  pure ()

/-- A body's error, as `SignedActionWithNonce` passes it on. -/
def lift {α : Type} (body : Except Error α) : Except (IntermediateError (DidModule.Error ⊕ Error)) α :=
  body.mapError fun error => .dispatch (.inr error)

section Dispatch

variable (crypto : SignatureVerification StateChange) (encode : AddBlob → StateChange)

open SignedActionWithNonce in
/-- `new`: `execute_removable` on the blob's id, with `new_`. -/
def dispatch (call : Call) (did : DidModule.State) (state : State limits) :
    Except (IntermediateError (DidModule.Error ⊕ Error)) (DidModule.State × State limits) := do
  match call with
  | .new action signature =>
      let ((), did, state) ← executeRemovable crypto 1 action.nonce (fun state => state.blobs action.blob.id)
        (State.writeBlob action.blob.id) signature (encode action) (fun _ => noCheck)
        (fun stored signer state => do
          let (result, stored) ← lift (new_ action stored ⟨signer⟩)
          pure (result, stored, state)) did state
      pure (did, state)

end Dispatch

/-! ## What a call leaves -/

section Calls

variable {crypto : SignatureVerification StateChange} {backend : Backend} {encode : AddBlob → StateChange}

theorem new_eq_ok {action : AddBlob} {stored written : Option (StoredBlob limits)} {signer : BlobOwner} {done : Unit} :
    new_ action stored signer = .ok (done, written) ↔
      stored = none ∧ ∃ blobBytes, BoundedBytes.ofBytes? action.blob.blob = some blobBytes ∧
        written = some (signer, blobBytes) := by
  unfold new_
  cases fits : (BoundedBytes.ofBytes? action.blob.blob : Option (BoundedBytes limits.maxBlobSize)) with
  | none => simp
  | some blobBytes =>
      cases stored <;> simp [@eq_comm _ written]

/-- `new` stores the blob, under a free id, with its signer as owner. -/
theorem dispatch_new {action : AddBlob} {signature : DidOrDidMethodKeySignature} {did did' : DidModule.State}
    {state state' : State limits} (done : dispatch crypto encode (.new action signature) did state = .ok (did', state')) :
    state.blobs action.blob.id = none ∧ ∃ blobBytes, BoundedBytes.ofBytes? action.blob.blob = some blobBytes ∧
      state' = state.writeBlob action.blob.id (some (⟨signature.signer⟩, blobBytes)) := by
  simp only [dispatch, Except.bind_eq_ok, Except.pure_eq_ok, Prod.mk.injEq] at done
  obtain ⟨⟨⟨⟩, did'', state''⟩, ran, rfl, rfl⟩ := done
  obtain ⟨-, -, -, -, -, -, data, after, body, -, rfl⟩ := SignedActionWithNonce.executeRemovable_eq_ok ran
  obtain ⟨⟨⟨⟩, written⟩, ranBody, packed⟩ := Except.bind_eq_ok.mp body
  simp only [Except.pure_eq_ok, Prod.mk.injEq] at packed
  obtain ⟨-, rfl, rfl⟩ := packed
  rw [lift, Except.mapError_eq_ok] at ranBody
  obtain ⟨free, blobBytes, fits, rfl⟩ := new_eq_ok.mp ranBody
  exact ⟨free, blobBytes, fits, rfl⟩

/-- A call changes no stored blob. -/
theorem dispatch_keeps_blob {call : Call} {did did' : DidModule.State} {state state' : State limits}
    (done : dispatch crypto encode call did state = .ok (did', state')) {id : BlobId} {stored : StoredBlob limits}
    (found : state.blobs id = some stored) : state'.blobs id = some stored := by
  cases call with
  | new action signature =>
      obtain ⟨free, blobBytes, -, rfl⟩ := dispatch_new done
      have other : id ≠ action.blob.id := by
        rintro rfl
        rw [found] at free
        cases free
      exact (Function.update_of_ne other _ _).trans found

/-- Along any interleaving of DID calls and blob calls, from any state, a stored blob keeps its
owner and bytes: no call changes or removes it. -/
theorem blob_permanent (chain : WithDid (State limits)) (events : List (WithDid.Event Call)) {id : BlobId}
    {stored : StoredBlob limits} (found : chain.pallet.blobs id = some stored) :
    (Lib.run (WithDid.apply crypto backend (dispatch crypto encode)) chain events).pallet.blobs id = some stored :=
  WithDid.run_keeps (fun _ _ _ _ _ _ done kept => dispatch_keeps_blob done kept) found

theorem blob_permanent_resubmitted :
    (⟨DidModule.genesis [(⟨0⟩, controlKey 0)], ⟨fun _ => some (⟨.did ⟨0⟩⟩, ⟨[], Nat.zero_le 0⟩)⟩⟩ :
        WithDid (State ⟨0⟩)).pallet.blobs ⟨0⟩ = some (⟨.did ⟨0⟩⟩, ⟨[], Nat.zero_le 0⟩) ∧
      (Lib.run (WithDid.apply acceptAll .byEncoding (dispatch acceptAll fun _ => .masterVote [] 0 0))
          (⟨DidModule.genesis [(⟨0⟩, controlKey 0)], ⟨fun _ => some (⟨.did ⟨0⟩⟩, ⟨[], Nat.zero_le 0⟩)⟩⟩ :
            WithDid (State ⟨0⟩))
          [.pallet (.new ⟨⟨⟨0⟩, []⟩, 1⟩ (.didSignature ⟨⟨0⟩, 1, .sr25519 0⟩))]).pallet.blobs ⟨0⟩ =
        some (⟨.did ⟨0⟩⟩, ⟨[], Nat.zero_le 0⟩) :=
  ⟨rfl, blob_permanent _ _ rfl⟩

end Calls

end DockSubstrate.BlobModule
