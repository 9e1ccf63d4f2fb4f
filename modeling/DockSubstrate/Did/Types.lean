import DockSubstrate.Did.Base
import DockSubstrate.Util.Action

/-!
# DID keys, controllers, signatures and actions

The data of the DID pallet (`modules/did`) and of the public keys that the off-chain
signatures pallet stores under a DID (`modules/offchain_signatures/public_key.rs`):

* a DID key is a public key with its verification relationships (`VerRelType`, a set of
  four flags), and `DidKey::new` is the check an unchecked key passes to become one;
* a controller is a DID or a DID method key, and a DID's details count its keys able to
  control it and its controllers;
* a signature by a DID names one of its keys, a signature by a DID method key is made
  with that key; `SignatureVerification` stands for the signature schemes themselves;
* the signed actions carry a nonce, and what is signed is the action as a `StateChange`.

Byte strings are numbers or lists of numbers; the bounds that decoding puts on them are
not modelled.
-/

namespace DockSubstrate

open DockSubstrate.Util

/-! ## Keys -/

/-- `PublicKey`: the key types a DID key can hold; `X25519` keys only agree on keys. -/
inductive PublicKey where
  | sr25519 (bytes : Nat)
  | ed25519 (bytes : Nat)
  | secp256k1 (bytes : Nat)
  | x25519 (bytes : Nat)
  deriving DecidableEq, Repr

/-- `PublicKey::can_sign`. -/
def PublicKey.canSign : PublicKey → Bool
  | .x25519 _ => false
  | _ => true

/-- `VerRelType`: the verification relationships of a key, the bits `AUTHENTICATION`,
`ASSERTION`, `CAPABILITY_INVOCATION` and `KEY_AGREEMENT` of the source's flags. -/
structure VerRelType where
  authentication : Bool
  assertion : Bool
  capabilityInvocation : Bool
  keyAgreement : Bool
  deriving DecidableEq, Repr

namespace VerRelType

def NONE : VerRelType := ⟨false, false, false, false⟩

def AUTHENTICATION : VerRelType := ⟨true, false, false, false⟩

def ASSERTION : VerRelType := ⟨false, true, false, false⟩

def CAPABILITY_INVOCATION : VerRelType := ⟨false, false, true, false⟩

def KEY_AGREEMENT : VerRelType := ⟨false, false, false, true⟩

def ALL_FOR_SIGNING : VerRelType := ⟨true, true, true, false⟩

/-- `|` of two sets of flags. -/
def union (self other : VerRelType) : VerRelType :=
  ⟨self.authentication || other.authentication, self.assertion || other.assertion,
    self.capabilityInvocation || other.capabilityInvocation, self.keyAgreement || other.keyAgreement⟩

def isEmpty (self : VerRelType) : Bool :=
  self == NONE

/-- Whether two sets of flags share one. -/
def intersects (self other : VerRelType) : Bool :=
  (self.authentication && other.authentication) || (self.assertion && other.assertion) ||
    (self.capabilityInvocation && other.capabilityInvocation) || (self.keyAgreement && other.keyAgreement)

end VerRelType

/-- `DidKey`: a public key with the verification relationships `DidKey::new` accepted. -/
structure DidKey where
  publicKey : PublicKey
  verRels : VerRelType
  deriving DecidableEq, Repr

/-- `UncheckedDidKey`: a key as a caller supplies it. -/
structure UncheckedDidKey where
  publicKey : PublicKey
  verRels : VerRelType
  deriving DecidableEq, Repr

/-- `DidKeyError`. -/
inductive DidKeyError where
  | keyAgreementCantBeUsedForSigning
  | signingKeyCantBeUsedForKeyAgreement
  deriving DecidableEq, Repr

namespace DidKey

/-- `DidKey::new_with_all_relationships`. -/
def newWithAllRelationships (publicKey : PublicKey) : DidKey :=
  ⟨publicKey, if publicKey.canSign then .ALL_FOR_SIGNING else .KEY_AGREEMENT⟩

/-- `DidKey::new`: no relationship stands for all of the key's; a signing key does not
agree on keys, and a key-agreement key does nothing else. -/
def new (publicKey : PublicKey) (verRels : VerRelType) : Except DidKeyError DidKey :=
  if verRels.isEmpty then .ok (newWithAllRelationships publicKey)
  else if publicKey.canSign then
    if verRels.intersects .KEY_AGREEMENT then .error .signingKeyCantBeUsedForKeyAgreement
    else .ok ⟨publicKey, verRels⟩
  else if verRels ≠ .KEY_AGREEMENT then .error .keyAgreementCantBeUsedForSigning
  else .ok ⟨publicKey, verRels⟩

/-- `DidKey::can_control`. -/
def canControl (key : DidKey) : Bool :=
  key.verRels.intersects .CAPABILITY_INVOCATION

/-- `DidKey::can_authenticate_or_control`. -/
def canAuthenticateOrControl (key : DidKey) : Bool :=
  key.verRels.intersects (VerRelType.AUTHENTICATION.union .CAPABILITY_INVOCATION)

/-- A key that can control can authenticate or control. -/
theorem canAuthenticateOrControl_of_canControl {key : DidKey} (controls : key.canControl = true) :
    key.canAuthenticateOrControl = true := by
  obtain ⟨publicKey, ⟨authentication, assertion, capabilityInvocation, keyAgreement⟩⟩ := key
  cases capabilityInvocation <;>
    simp_all [canControl, canAuthenticateOrControl, VerRelType.intersects, VerRelType.union,
      VerRelType.CAPABILITY_INVOCATION, VerRelType.AUTHENTICATION]

end DidKey

/-- `TryFrom<UncheckedDidKey> for DidKey`. -/
def UncheckedDidKey.check (key : UncheckedDidKey) : Except DidKeyError DidKey :=
  DidKey.new key.publicKey key.verRels

/-- `From<DidKey> for UncheckedDidKey`. -/
def DidKey.toUnchecked (key : DidKey) : UncheckedDidKey :=
  ⟨key.publicKey, key.verRels⟩

/-! ## Controllers and details -/

/-- `Controller`: a DID or DID method key that controls a DID. -/
structure Controller where
  id : DidOrDidMethodKey
  deriving Repr

instance : LinearOrder Controller :=
  LinearOrder.lift' Controller.id fun ⟨_⟩ ⟨_⟩ same => congrArg Controller.mk same

instance : Encodable Controller := Encodable.ofLeftInjection Controller.id (fun id => some ⟨id⟩) fun _ => rfl

/-- `OnChainDidDetails`: the last key identifier given out (an `IncId`, a `u32`), and the
numbers of controller keys and of controllers. -/
structure OnChainDidDetails where
  lastKeyId : Nat
  activeControllerKeys : Nat
  activeControllers : Nat
  deriving DecidableEq, Repr

/-- `OffChainDidDocRef`: where the document of an off-chain DID is. -/
inductive OffChainDidDocRef where
  | cid (bytes : List Nat)
  | url (bytes : List Nat)
  | custom (bytes : List Nat)
  deriving DecidableEq, Repr

/-- `OffChainDidDetails`: the account owning an off-chain DID, and its document. -/
structure OffChainDidDetails where
  accountId : Nat
  docRef : OffChainDidDocRef
  deriving DecidableEq, Repr

/-- `StoredDidDetails`: an off-chain DID, or an on-chain one with its nonce. -/
inductive StoredDidDetails where
  | offChain (details : OffChainDidDetails)
  | onChain (details : WithNonce OnChainDidDetails)
  deriving DecidableEq, Repr

namespace StoredDidDetails

/-- `StoredDidDetails::into_onchain`. -/
def intoOnchain : StoredDidDetails → Option (WithNonce OnChainDidDetails)
  | onChain details => some details
  | offChain _ => none

/-- `StoredDidDetails::nonce`: the nonce of an on-chain DID. -/
def nonce (details : StoredDidDetails) : Option Nat :=
  details.intoOnchain.map WithNonce.nonce

end StoredDidDetails

/-- `DidDetailsOrDidMethodKeyDetails`: what a `DidOrDidMethodKey` signer has stored. -/
inductive DidDetailsOrDidMethodKeyDetails where
  | didDetails (details : StoredDidDetails)
  | didMethodKeyDetails
  deriving DecidableEq, Repr

/-! ## Service endpoints and off-chain public keys -/

/-- `ServiceEndpoint`: its types (the `u16` flags of `ServiceEndpointType`) and origins. -/
structure ServiceEndpoint where
  types : Nat
  origins : List (List Nat)
  deriving DecidableEq, Repr

/-- `ServiceEndpoint::is_valid`. -/
def ServiceEndpoint.isValid (endpoint : ServiceEndpoint) : Bool :=
  endpoint.types != 0 && !endpoint.origins.isEmpty && !endpoint.origins.any List.isEmpty

/-- The signature schemes of the off-chain signatures pallet. -/
inductive SignatureScheme where
  | bbs
  | bbsPlus
  | ps
  | bbdt16
  deriving DecidableEq, Repr

/-- `OffchainPublicKey`: a key of a scheme, and the parameters it was made with, by their
owner and identifier. -/
structure OffchainPublicKey where
  scheme : SignatureScheme
  paramsRef : Option (DidOrDidMethodKey × Nat)
  deriving DecidableEq, Repr

/-! ## Signatures -/

/-- `SigValue`: a signature by a DID key. -/
inductive SigValue where
  | sr25519 (bytes : Nat)
  | ed25519 (bytes : Nat)
  | secp256k1 (bytes : Nat)
  deriving DecidableEq, Repr

/-- `DidMethodKeySigValue`: a signature by a DID method key. -/
inductive DidMethodKeySigValue where
  | ed25519 (bytes : Nat)
  | secp256k1 (bytes : Nat)
  deriving DecidableEq, Repr

/-- `VerificationError`: a signature of another scheme than the key. -/
inductive VerificationError where
  | incompatibleKey
  deriving DecidableEq, Repr

/-- The verification of each signature scheme: whether a signature is one of a message by
the public key with the given bytes. -/
structure SignatureVerification (Message : Type) where
  sr25519 : Nat → Message → Nat → Bool
  ed25519 : Nat → Message → Nat → Bool
  secp256k1 : Nat → Message → Nat → Bool

variable {Message : Type}

/-- `SigValue::verify`. -/
def SigValue.verify (crypto : SignatureVerification Message) (sig : SigValue) (message : Message) :
    PublicKey → Except VerificationError Bool
  | .sr25519 key => match sig with
    | .sr25519 bytes => .ok (crypto.sr25519 bytes message key)
    | _ => .error .incompatibleKey
  | .ed25519 key => match sig with
    | .ed25519 bytes => .ok (crypto.ed25519 bytes message key)
    | _ => .error .incompatibleKey
  | .secp256k1 key => match sig with
    | .secp256k1 bytes => .ok (crypto.secp256k1 bytes message key)
    | _ => .error .incompatibleKey
  | .x25519 _ => .error .incompatibleKey

/-- `DidMethodKeySigValue::verify`. -/
def DidMethodKeySigValue.verify (crypto : SignatureVerification Message) (sig : DidMethodKeySigValue)
    (message : Message) : DidMethodKey → Except VerificationError Bool
  | .ed25519 key => match sig with
    | .ed25519 bytes => .ok (crypto.ed25519 bytes message key)
    | _ => .error .incompatibleKey
  | .secp256k1 key => match sig with
    | .secp256k1 bytes => .ok (crypto.secp256k1 bytes message key)
    | _ => .error .incompatibleKey

/-- `DidSignature`: a signature by the key of a DID with the given identifier. -/
structure DidSignature where
  did : Did
  keyId : Nat
  sig : SigValue
  deriving DecidableEq, Repr

/-- `DidMethodKeySignature`. -/
structure DidMethodKeySignature where
  didMethodKey : DidMethodKey
  sig : DidMethodKeySigValue
  deriving DecidableEq, Repr

/-- `DidOrDidMethodKeySignature`. -/
inductive DidOrDidMethodKeySignature where
  | didSignature (sig : DidSignature)
  | didMethodKeySignature (sig : DidMethodKeySignature)
  deriving DecidableEq, Repr

/-- `Signature::signer` of a `DidOrDidMethodKeySignature`. -/
def DidOrDidMethodKeySignature.signer : DidOrDidMethodKeySignature → DidOrDidMethodKey
  | didSignature sig => .did sig.did
  | didMethodKeySignature sig => .didMethodKey sig.didMethodKey

/-! ## Actions -/

/-- `AddKeys`. -/
structure AddKeys where
  did : Did
  keys : List UncheckedDidKey
  nonce : Nat
  deriving DecidableEq, Repr

/-- `RemoveKeys`: the identifiers of the keys, a `BTreeSet<IncId>`. -/
structure RemoveKeys where
  did : Did
  keys : Finset Nat
  nonce : Nat
  deriving DecidableEq

/-- `AddControllers`. -/
structure AddControllers where
  did : Did
  controllers : Finset Controller
  nonce : Nat
  deriving DecidableEq

/-- `RemoveControllers`. -/
structure RemoveControllers where
  did : Did
  controllers : Finset Controller
  nonce : Nat
  deriving DecidableEq

/-- `AddServiceEndpoint`. -/
structure AddServiceEndpoint where
  did : Did
  id : List Nat
  endpoint : ServiceEndpoint
  nonce : Nat
  deriving DecidableEq, Repr

/-- `RemoveServiceEndpoint`. -/
structure RemoveServiceEndpoint where
  did : Did
  id : List Nat
  nonce : Nat
  deriving DecidableEq, Repr

/-- `DidRemoval`. -/
structure DidRemoval where
  did : Did
  nonce : Nat
  deriving DecidableEq, Repr

/-- `AddOffchainSignaturePublicKey`. -/
structure AddOffchainSignaturePublicKey where
  key : OffchainPublicKey
  did : Did
  nonce : Nat
  deriving DecidableEq, Repr

/-- `RemoveOffchainSignaturePublicKey`: the key by its owner and identifier. -/
structure RemoveOffchainSignaturePublicKey where
  keyRef : Did × Nat
  did : Did
  nonce : Nat
  deriving DecidableEq, Repr

/-- `StateChange`: what a signature signs, the action with its nonce.  Only the actions
modelled here are listed. -/
inductive StateChange where
  | addKeys (action : AddKeys)
  | addControllers (action : AddControllers)
  | removeKeys (action : RemoveKeys)
  | removeControllers (action : RemoveControllers)
  | addServiceEndpoint (action : AddServiceEndpoint)
  | removeServiceEndpoint (action : RemoveServiceEndpoint)
  | didRemoval (action : DidRemoval)
  | addOffchainSignaturePublicKey (action : AddOffchainSignaturePublicKey)
  | removeOffchainSignaturePublicKey (action : RemoveOffchainSignaturePublicKey)
  | masterVote (proposal : List Nat) (roundNo : Nat) (nonce : Nat)
  deriving DecidableEq

end DockSubstrate
