import DockSubstrate.Util.BatchUpdate.Laws
import DockSubstrate.Did.Base

/-!
# Trust registry types

The identifiers, actors, stored values and updates of `modules/trust_registry/types.rs`
and `update.rs`.  The bounds of the containers are the runtime constants of `Limits`,
so every container type takes the limits as a parameter; each of the source's newtypes
over a bounded B-tree map or set is a one-field structure with a `Wrapper` instance,
through which it gets the `KeyValue` interface and its laws.

An actor is a DID (`DidOrDidMethodKey`) seen in one role.  The role decides which
update rules apply (`UpdateRules`); `ConvenerOrIssuerOrVerifier.validateUpdate` picks
the convener's rules when the signer is the registry's convener and the
issuer-or-verifier rules otherwise.
-/

namespace DockSubstrate.TrustRegistry

open DockSubstrate.Lib DockSubstrate.Util

/-- `Limits`: the bounds of the trust registry's stored values. -/
structure Limits where
  maxIssuerPriceCurrencySymbolSize : Nat
  maxIssuersPerSchema : Nat
  maxVerifiersPerSchema : Nat
  maxIssuerPriceCurrencies : Nat
  maxTrustRegistryNameSize : Nat
  maxConvenerRegistries : Nat
  maxDelegatedIssuers : Nat
  maxSchemasPerIssuer : Nat
  maxSchemasPerVerifier : Nat
  maxRegistriesPerIssuer : Nat
  maxRegistriesPerVerifier : Nat
  maxTrustRegistryGovFrameworkSize : Nat
  maxSchemasPerRegistry : Nat
  maxParticipantsPerRegistry : Nat
  maxRegistryParticipantOrgNameSize : Nat
  maxRegistryParticipantDescriptionSize : Nat
  maxRegistryParticipantLogoSize : Nat
  deriving DecidableEq, Repr

/-- The limits of the test runtime (`tests/common.rs`). -/
def Limits.test : Limits where
  maxIssuerPriceCurrencySymbolSize := 10
  maxIssuersPerSchema := 20
  maxVerifiersPerSchema := 20
  maxIssuerPriceCurrencies := 20
  maxTrustRegistryNameSize := 100
  maxConvenerRegistries := 5
  maxDelegatedIssuers := 20
  maxSchemasPerIssuer := 100
  maxSchemasPerVerifier := 100
  maxRegistriesPerIssuer := 250
  maxRegistriesPerVerifier := 250
  maxTrustRegistryGovFrameworkSize := 1000
  maxSchemasPerRegistry := 1000
  maxParticipantsPerRegistry := 10000
  maxRegistryParticipantOrgNameSize := 100
  maxRegistryParticipantDescriptionSize := 500
  maxRegistryParticipantLogoSize := 500

/-! ## Identifiers and actors -/

/-- `TrustRegistryId`: 32 raw bytes in the source. -/
structure TrustRegistryId where
  raw : Nat
  deriving Repr

instance : LinearOrder TrustRegistryId :=
  LinearOrder.lift' TrustRegistryId.raw fun ⟨_⟩ ⟨_⟩ same => congrArg _ same

/-- `TrustRegistrySchemaId`: 32 raw bytes in the source. -/
structure TrustRegistrySchemaId where
  raw : Nat
  deriving Repr

instance : LinearOrder TrustRegistrySchemaId :=
  LinearOrder.lift' TrustRegistrySchemaId.raw fun ⟨_⟩ ⟨_⟩ same => congrArg _ same

/-- `Convener`: the DID that created a registry. -/
structure Convener where
  did : DidOrDidMethodKey
  deriving DecidableEq, Repr

/-- `IssuerOrVerifier`: a participant of a registry, maybe an issuer or a verifier but
not acting as the convener. -/
structure IssuerOrVerifier where
  did : DidOrDidMethodKey
  deriving Repr

instance : LinearOrder IssuerOrVerifier :=
  LinearOrder.lift' IssuerOrVerifier.did fun ⟨_⟩ ⟨_⟩ same => congrArg _ same

/-- `Issuer`: a DID that may issue credentials of some schemas. -/
structure Issuer where
  did : DidOrDidMethodKey
  deriving Repr

instance : LinearOrder Issuer := LinearOrder.lift' Issuer.did fun ⟨_⟩ ⟨_⟩ same => congrArg _ same

/-- `Verifier`: a DID that may verify credentials of some schemas. -/
structure Verifier where
  did : DidOrDidMethodKey
  deriving Repr

instance : LinearOrder Verifier :=
  LinearOrder.lift' Verifier.did fun ⟨_⟩ ⟨_⟩ same => congrArg _ same

/-- `ConvenerOrIssuerOrVerifier`: the signer of a call open to every role. -/
structure ConvenerOrIssuerOrVerifier where
  did : DidOrDidMethodKey
  deriving Repr

instance : LinearOrder ConvenerOrIssuerOrVerifier :=
  LinearOrder.lift' ConvenerOrIssuerOrVerifier.did fun ⟨_⟩ ⟨_⟩ same => congrArg _ same

/-- `IssuersOrVerifiers`: the signers of a multi-signed call, as a set of participants. -/
structure IssuersOrVerifiers where
  members : List IssuerOrVerifier

namespace IssuersOrVerifiers

def contains (self : IssuersOrVerifiers) (member : IssuerOrVerifier) : Bool :=
  decide (member ∈ self.members)

def issuers (self : IssuersOrVerifiers) : List Issuer :=
  self.members.map fun member => ⟨member.did⟩

def verifiers (self : IssuersOrVerifiers) : List Verifier :=
  self.members.map fun member => ⟨member.did⟩

end IssuersOrVerifiers

/-- The errors of the pallet (`Error<T>`). -/
inductive Error where
  | tooManyRegistries
  | notTheConvener
  | noRegistry
  | noSuchIssuer
  | alreadySuspended
  | notSuspended
  | trustRegistryNameSizeExceeded
  | govFrameworkSizeExceeded
  | delegatedIssuersSizeExceeded
  | issuersSizeExceeded
  | verifiersSizeExceeded
  | verificationPricesSizeExceeded
  | priceCurrencySymbolSizeExceeded
  | schemasPerRegistrySizeExceeded
  | issuerCantDelegateToHimself
  | invalidIssuerTarget
  | underflow
  | entityDoesntExist
  | entityAlreadyExists
  | senderCantApplyThisUpdate
  | tooManySchemasPerDelegatedIssuer
  | tooManyEntities
  | updateValidationFailed
  | duplicateKey
  | notAParticipant
  | participantOrgNameSizeExceededLimit
  | participantLogoSizeExceededLimit
  | participantDescriptionSizeExceededLimit
  deriving DecidableEq, Repr

/-- `From<UpdateError> for Error<T>`. -/
def Error.ofUpdateError : UpdateError → Error
  | .doesntExist => .entityDoesntExist
  | .alreadyExists => .entityAlreadyExists
  | .invalidActor => .senderCantApplyThisUpdate
  | .overflow => .tooManySchemasPerDelegatedIssuer
  | .underflow => .underflow
  | .capacityOverflow => .tooManyEntities
  | .validationFailed => .updateValidationFailed

/-! ## Stored values -/

/-- `VerificationPrice`: a price in the lowest denomination of its currency. -/
structure VerificationPrice where
  amount : Nat
  deriving DecidableEq, Repr

section Containers

variable (limits : Limits)

/-- `VerificationPrices`: an issuer's prices, by currency symbol. -/
structure VerificationPrices where
  prices : BoundedMap (BoundedString limits.maxIssuerPriceCurrencySymbolSize) VerificationPrice
    limits.maxIssuerPriceCurrencies
  deriving DecidableEq

/-- `TrustRegistrySchemaIssuers` (`IssuersWith<VerificationPrices>`): the issuers of a
schema with their prices. -/
structure TrustRegistrySchemaIssuers where
  issuers : BoundedMap Issuer (VerificationPrices limits) limits.maxIssuersPerSchema
  deriving DecidableEq

/-- `TrustRegistrySchemaVerifiers`: the verifiers of a schema. -/
structure TrustRegistrySchemaVerifiers where
  verifiers : BoundedSet Verifier limits.maxVerifiersPerSchema
  deriving DecidableEq

/-- `DelegatedIssuers`: the issuers an issuer delegates to. -/
structure DelegatedIssuers where
  issuers : BoundedSet Issuer limits.maxDelegatedIssuers
  deriving DecidableEq

/-- `TrustRegistryStoredSchemas`: the schemas of a registry. -/
structure TrustRegistryStoredSchemas where
  schemas : BoundedSet TrustRegistrySchemaId limits.maxSchemasPerRegistry
  deriving DecidableEq

/-- `TrustRegistryStoredParticipants`: the participants of a registry. -/
structure TrustRegistryStoredParticipants where
  participants : BoundedSet IssuerOrVerifier limits.maxParticipantsPerRegistry
  deriving DecidableEq

/-- `IssuerSchemas`: the schemas an issuer issues in a registry. -/
structure IssuerSchemas where
  schemas : BoundedSet TrustRegistrySchemaId limits.maxSchemasPerIssuer
  deriving DecidableEq

/-- `VerifierSchemas`: the schemas a verifier verifies in a registry. -/
structure VerifierSchemas where
  schemas : BoundedSet TrustRegistrySchemaId limits.maxSchemasPerVerifier
  deriving DecidableEq

/-- `DelegatedSchemaCounter`: how many issuers delegate a schema to a delegated issuer. -/
structure DelegatedSchemaCounter where
  count : NonZeroU32
  deriving DecidableEq, Repr

/-- `DelegatedIssuerSchemas`: the schemas a delegated issuer may issue in a registry, each
with the number of issuers that delegate it. -/
structure DelegatedIssuerSchemas where
  schemas : BoundedMap TrustRegistrySchemaId DelegatedSchemaCounter limits.maxSchemasPerIssuer
  deriving DecidableEq

/-- `IssuerTrustRegistries`: the registries an issuer has schemas in. -/
structure IssuerTrustRegistries where
  registries : BoundedSet TrustRegistryId limits.maxRegistriesPerIssuer
  deriving DecidableEq

/-- `VerifierTrustRegistries`: the registries a verifier has schemas in. -/
structure VerifierTrustRegistries where
  registries : BoundedSet TrustRegistryId limits.maxRegistriesPerVerifier
  deriving DecidableEq

/-- `TrustRegistryIdSet`: the registries of a convener. -/
structure TrustRegistryIdSet where
  registries : BoundedSet TrustRegistryId limits.maxConvenerRegistries
  deriving DecidableEq

/-- `TrustRegistrySchemaMetadata`: the issuers and the verifiers of a schema. -/
structure TrustRegistrySchemaMetadata where
  issuers : TrustRegistrySchemaIssuers limits
  verifiers : TrustRegistrySchemaVerifiers limits
  deriving DecidableEq

/-- `Schemas`: the complete schema metadata of a registry, as a `Set` update carries it. -/
structure Schemas where
  schemas : BoundedMap TrustRegistrySchemaId (TrustRegistrySchemaMetadata limits)
    limits.maxSchemasPerRegistry

/-- `TrustRegistryIssuerConfiguration`. -/
structure TrustRegistryIssuerConfiguration where
  suspended : Bool
  delegated : DelegatedIssuers limits

/-- `TrustRegistryInfo`. -/
structure TrustRegistryInfo where
  convener : Convener
  name : BoundedString limits.maxTrustRegistryNameSize
  govFramework : BoundedBytes limits.maxTrustRegistryGovFrameworkSize

/-- `TrustRegistryStoredParticipantInformation`. -/
structure TrustRegistryStoredParticipantInformation where
  orgName : BoundedString limits.maxRegistryParticipantOrgNameSize
  logo : BoundedString limits.maxRegistryParticipantLogoSize
  description : BoundedString limits.maxRegistryParticipantDescriptionSize

end Containers

variable {limits : Limits}

instance : Wrapper (VerificationPrices limits)
    (BoundedMap (BoundedString limits.maxIssuerPriceCurrencySymbolSize) VerificationPrice
      limits.maxIssuerPriceCurrencies) :=
  ⟨VerificationPrices.prices, .mk, fun _ => rfl⟩
instance : Wrapper (TrustRegistrySchemaIssuers limits)
    (BoundedMap Issuer (VerificationPrices limits) limits.maxIssuersPerSchema) :=
  ⟨TrustRegistrySchemaIssuers.issuers, .mk, fun _ => rfl⟩
instance : Wrapper (TrustRegistrySchemaVerifiers limits)
    (BoundedSet Verifier limits.maxVerifiersPerSchema) :=
  ⟨TrustRegistrySchemaVerifiers.verifiers, .mk, fun _ => rfl⟩
instance : Wrapper (DelegatedIssuers limits) (BoundedSet Issuer limits.maxDelegatedIssuers) :=
  ⟨DelegatedIssuers.issuers, .mk, fun _ => rfl⟩
instance : Wrapper (TrustRegistryStoredSchemas limits)
    (BoundedSet TrustRegistrySchemaId limits.maxSchemasPerRegistry) :=
  ⟨TrustRegistryStoredSchemas.schemas, .mk, fun _ => rfl⟩
instance : Wrapper (TrustRegistryStoredParticipants limits)
    (BoundedSet IssuerOrVerifier limits.maxParticipantsPerRegistry) :=
  ⟨TrustRegistryStoredParticipants.participants, .mk, fun _ => rfl⟩
instance : Wrapper (IssuerSchemas limits)
    (BoundedSet TrustRegistrySchemaId limits.maxSchemasPerIssuer) :=
  ⟨IssuerSchemas.schemas, .mk, fun _ => rfl⟩
instance : Wrapper (VerifierSchemas limits)
    (BoundedSet TrustRegistrySchemaId limits.maxSchemasPerVerifier) :=
  ⟨VerifierSchemas.schemas, .mk, fun _ => rfl⟩
instance : Wrapper (DelegatedIssuerSchemas limits)
    (BoundedMap TrustRegistrySchemaId DelegatedSchemaCounter limits.maxSchemasPerIssuer) :=
  ⟨DelegatedIssuerSchemas.schemas, .mk, fun _ => rfl⟩
instance : Wrapper (IssuerTrustRegistries limits)
    (BoundedSet TrustRegistryId limits.maxRegistriesPerIssuer) :=
  ⟨IssuerTrustRegistries.registries, .mk, fun _ => rfl⟩
instance : Wrapper (VerifierTrustRegistries limits)
    (BoundedSet TrustRegistryId limits.maxRegistriesPerVerifier) :=
  ⟨VerifierTrustRegistries.registries, .mk, fun _ => rfl⟩
instance : Wrapper (TrustRegistryIdSet limits)
    (BoundedSet TrustRegistryId limits.maxConvenerRegistries) :=
  ⟨TrustRegistryIdSet.registries, .mk, fun _ => rfl⟩
instance : Wrapper (Schemas limits)
    (BoundedMap TrustRegistrySchemaId (TrustRegistrySchemaMetadata limits) limits.maxSchemasPerRegistry) :=
  ⟨Schemas.schemas, .mk, fun _ => rfl⟩

instance : LawfulKeyValue (VerificationPrices limits) _ _ := Wrapper.lawfulKeyValue fun _ => rfl
instance : LawfulKeyValue (TrustRegistrySchemaIssuers limits) _ _ :=
  Wrapper.lawfulKeyValue fun _ => rfl
instance : LawfulKeyValue (TrustRegistrySchemaVerifiers limits) _ _ :=
  Wrapper.lawfulKeyValue fun _ => rfl
instance : LawfulKeyValue (DelegatedIssuers limits) _ _ := Wrapper.lawfulKeyValue fun _ => rfl
instance : LawfulKeyValue (TrustRegistryStoredSchemas limits) _ _ :=
  Wrapper.lawfulKeyValue fun _ => rfl
instance : LawfulKeyValue (TrustRegistryStoredParticipants limits) _ _ :=
  Wrapper.lawfulKeyValue fun _ => rfl
instance : LawfulKeyValue (IssuerSchemas limits) _ _ := Wrapper.lawfulKeyValue fun _ => rfl
instance : LawfulKeyValue (VerifierSchemas limits) _ _ := Wrapper.lawfulKeyValue fun _ => rfl
instance : LawfulKeyValue (DelegatedIssuerSchemas limits) _ _ := Wrapper.lawfulKeyValue fun _ => rfl
instance : LawfulKeyValue (IssuerTrustRegistries limits) _ _ := Wrapper.lawfulKeyValue fun _ => rfl
instance : LawfulKeyValue (VerifierTrustRegistries limits) _ _ :=
  Wrapper.lawfulKeyValue fun _ => rfl
instance : LawfulKeyValue (TrustRegistryIdSet limits) _ _ := Wrapper.lawfulKeyValue fun _ => rfl

/-- `Deref<Target = NonZeroU32> + From<NonZeroU32>` of the counter. -/
instance : CounterValue DelegatedSchemaCounter := ⟨DelegatedSchemaCounter.count, .mk⟩

/-- `TrustRegistryIssuerConfiguration::default()`. -/
instance : Inhabited (TrustRegistryIssuerConfiguration limits) := ⟨⟨false, ∅⟩⟩

namespace Convener

/-- `Convener::controls`: the registry was created by this convener. -/
def controls (self : Convener) (info : TrustRegistryInfo limits) : Bool :=
  info.convener == self

def ensureControls (self : Convener) (info : TrustRegistryInfo limits) : Except Error Unit :=
  if self.controls info then .ok () else .error .notTheConvener

end Convener

/-! ## Updates -/

/-- `VerificationPricesUpdate`: an update of an issuer's existing prices. -/
abbrev VerificationPricesUpdate (limits : Limits) :=
  OnlyExistent (MultiTargetUpdate (BoundedString limits.maxIssuerPriceCurrencySymbolSize)
    (SetOrAddOrRemoveOrModify VerificationPrice Unit))

/-- `IssuerUpdate`: an update of one issuer of a schema. -/
abbrev IssuerUpdate (limits : Limits) :=
  SetOrAddOrRemoveOrModify (VerificationPrices limits) (VerificationPricesUpdate limits)

/-- `IssuersUpdate`: an update of the issuers of a schema. -/
abbrev IssuersUpdate (limits : Limits) :=
  SetOrModify (TrustRegistrySchemaIssuers limits) (MultiTargetUpdate Issuer (IssuerUpdate limits))

/-- `VerifiersUpdate`: an update of the verifiers of a schema. -/
abbrev VerifiersUpdate (limits : Limits) :=
  SetOrModify (TrustRegistrySchemaVerifiers limits)
    (MultiTargetUpdate Verifier (AddOrRemoveOrModify Unit Unit))

/-- `RegistryIdUpdate`: keys added to or removed from a set of registries. -/
abbrev RegistryIdUpdate (U : Type := AddOrRemoveOrModify Unit Unit) :=
  MultiTargetUpdate TrustRegistryId U

/-- `SchemaIdUpdate`: one update per schema. -/
abbrev SchemaIdUpdate (U : Type := AddOrRemoveOrModify Unit Unit) :=
  MultiTargetUpdate TrustRegistrySchemaId U

/-- `MultiSchemaIdUpdate`: one schema update per key. -/
abbrev MultiSchemaIdUpdate (Key : Type) [LinearOrder Key] (U : Type := AddOrRemoveOrModify Unit Unit) :=
  MultiTargetUpdate Key (SchemaIdUpdate U)

/-- `DelegatedUpdate`: an update of the issuers an issuer delegates to. -/
abbrev DelegatedUpdate (limits : Limits) :=
  SetOrModify (DelegatedIssuers limits) (MultiTargetUpdate Issuer (AddOrRemoveOrModify Unit Unit))

/-- `TrustRegistrySchemaMetadataUpdate`: updates of the issuers and of the verifiers of
a schema, each optional. -/
structure TrustRegistrySchemaMetadataUpdate (limits : Limits) where
  issuers : Option (IssuersUpdate limits)
  verifiers : Option (VerifiersUpdate limits)

/-- `SchemaMetadataModification`: the update of one schema of a registry. -/
abbrev SchemaMetadataModification (limits : Limits) :=
  SetOrAddOrRemoveOrModify (TrustRegistrySchemaMetadata limits)
    (OnlyExistent (TrustRegistrySchemaMetadataUpdate limits))

/-- `SchemasUpdate`: the whole schema metadata of a registry, or an update per schema. -/
abbrev SchemasUpdate (limits : Limits) :=
  SetOrModify (Schemas limits) (SchemaIdUpdate (SchemaMetadataModification limits))

namespace TrustRegistrySchemaMetadataUpdate

def applyUpdate (self : TrustRegistrySchemaMetadataUpdate limits)
    (entity : TrustRegistrySchemaMetadata limits) : Except Panic (TrustRegistrySchemaMetadata limits) := do
  let issuers ← match self.issuers with
    | .some update => ApplyUpdate.applyUpdate update entity.issuers
    | .none => pure entity.issuers
  let verifiers ← match self.verifiers with
    | .some update => ApplyUpdate.applyUpdate update entity.verifiers
    | .none => pure entity.verifiers
  pure ⟨issuers, verifiers⟩

/-- `None` when neither part does anything, `Replace` otherwise. -/
def kind (self : TrustRegistrySchemaMetadataUpdate limits) (entity : TrustRegistrySchemaMetadata limits) :
    UpdateKind :=
  match (self.issuers.map fun update => GetUpdateKind.kind update entity.issuers).getD default,
      (self.verifiers.map fun update => GetUpdateKind.kind update entity.verifiers).getD default with
  | .none, .none => .none
  | _, _ => .replace

def ensureValid {A : Type} [CanUpdate A (TrustRegistrySchemaIssuers limits)]
    [CanUpdateKeyed A (TrustRegistrySchemaIssuers limits) Issuer]
    [CanUpdate A (TrustRegistrySchemaVerifiers limits)]
    [CanUpdateKeyed A (TrustRegistrySchemaVerifiers limits) Verifier]
    [CanUpdate A (VerificationPrices limits)]
    [CanUpdateKeyed A (VerificationPrices limits) (BoundedString limits.maxIssuerPriceCurrencySymbolSize)]
    [CanUpdate A VerificationPrice]
    (self : TrustRegistrySchemaMetadataUpdate limits) (actor : A)
    (entity : TrustRegistrySchemaMetadata limits) : Except UpdateError Unit := do
  if let .some update := self.issuers then
    ValidateUpdate.ensureValid update actor entity.issuers
  if let .some update := self.verifiers then
    ValidateUpdate.ensureValid update actor entity.verifiers

instance : ApplyUpdate (TrustRegistrySchemaMetadataUpdate limits) (TrustRegistrySchemaMetadata limits) :=
  ⟨applyUpdate⟩

instance : GetUpdateKind (TrustRegistrySchemaMetadataUpdate limits) (TrustRegistrySchemaMetadata limits) :=
  ⟨kind⟩

instance {A : Type} [CanUpdate A (TrustRegistrySchemaIssuers limits)]
    [CanUpdateKeyed A (TrustRegistrySchemaIssuers limits) Issuer]
    [CanUpdate A (TrustRegistrySchemaVerifiers limits)]
    [CanUpdateKeyed A (TrustRegistrySchemaVerifiers limits) Verifier]
    [CanUpdate A (VerificationPrices limits)]
    [CanUpdateKeyed A (VerificationPrices limits) (BoundedString limits.maxIssuerPriceCurrencySymbolSize)]
    [CanUpdate A VerificationPrice] :
    ValidateUpdate A (TrustRegistrySchemaMetadataUpdate limits) (TrustRegistrySchemaMetadata limits) :=
  ⟨ensureValid⟩

/-- The update of the metadata is reported as `Replace` or `None`. -/
theorem kind_replacing (self : TrustRegistrySchemaMetadataUpdate limits)
    (entity : TrustRegistrySchemaMetadata limits) :
    self.kind entity = .replace ∨ self.kind entity = .none := by
  unfold kind
  split
  · exact .inr rfl
  · exact .inl rfl

instance : ReplacingKind (TrustRegistrySchemaMetadataUpdate limits) (TrustRegistrySchemaMetadata limits) :=
  ⟨kind_replacing⟩

/-- A metadata update applies each of its parts to its own part of the metadata; a missing
part keeps it. -/
theorem applyUpdate_eq_ok {self : TrustRegistrySchemaMetadataUpdate limits}
    {entity result : TrustRegistrySchemaMetadata limits} :
    self.applyUpdate entity = .ok result ↔
      (self.issuers.elim (.ok entity.issuers) fun update => ApplyUpdate.applyUpdate update entity.issuers) =
          .ok result.issuers ∧
        (self.verifiers.elim (.ok entity.verifiers) fun update =>
          ApplyUpdate.applyUpdate update entity.verifiers) = .ok result.verifiers := by
  obtain ⟨issuers, verifiers⟩ := result
  unfold applyUpdate
  cases self.issuers <;> cases self.verifiers <;>
    simp [Option.elim, Except.bind_eq_ok, Except.pure_eq_ok, Except.fmap_eq_ok, and_comm]

/-- A metadata update is valid when each of its parts is valid for its own part of the
metadata. -/
theorem ensureValid_eq_ok {A : Type} [CanUpdate A (TrustRegistrySchemaIssuers limits)]
    [CanUpdateKeyed A (TrustRegistrySchemaIssuers limits) Issuer]
    [CanUpdate A (TrustRegistrySchemaVerifiers limits)]
    [CanUpdateKeyed A (TrustRegistrySchemaVerifiers limits) Verifier]
    [CanUpdate A (VerificationPrices limits)]
    [CanUpdateKeyed A (VerificationPrices limits) (BoundedString limits.maxIssuerPriceCurrencySymbolSize)]
    [CanUpdate A VerificationPrice] {self : TrustRegistrySchemaMetadataUpdate limits} {actor : A}
    {entity : TrustRegistrySchemaMetadata limits} :
    self.ensureValid actor entity = .ok () ↔
      (∀ update, self.issuers = some update → ValidateUpdate.ensureValid update actor entity.issuers = .ok ()) ∧
        ∀ update, self.verifiers = some update →
          ValidateUpdate.ensureValid update actor entity.verifiers = .ok () := by
  unfold ensureValid
  cases self.issuers <;> cases self.verifiers <;>
    simp [Except.bind_eq_ok, Except.pure_eq_ok, Unique.exists_iff]

end TrustRegistrySchemaMetadataUpdate

/-- `ConvenerOrIssuerOrVerifier::validate_update`: the signer validates as the convener
when it controls the registry, as an issuer or verifier otherwise. -/
def ConvenerOrIssuerOrVerifier.validateUpdate {U E : Type} [ValidateUpdate Convener U E]
    [ValidateUpdate IssuerOrVerifier U E] (self : ConvenerOrIssuerOrVerifier)
    (info : TrustRegistryInfo limits) (update : U) (entity : E) : Except UpdateError Unit :=
  if (Convener.mk self.did).controls info then ValidateUpdate.ensureValid update (Convener.mk self.did) entity
  else ValidateUpdate.ensureValid update (IssuerOrVerifier.mk self.did) entity

end DockSubstrate.TrustRegistry
