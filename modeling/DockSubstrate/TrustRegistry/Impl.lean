import DockSubstrate.TrustRegistry.Update
import DockSubstrate.Util.Action

/-!
# The trust registry's calls

The actions of `modules/trust_registry/actions.rs` and the bodies of the calls
(`impl.rs`, the functions ending in `_`), each on the data its action wrapper hands
it.  An action's updates are the bounded updates the source obtains from the
submitted ones by `translate_update`; their size checks, which only reject oversized
input, are not part of the model.

`Pallet` puts each body behind the checks of its action wrapper.
-/

namespace DockSubstrate.TrustRegistry

open DockSubstrate.Lib DockSubstrate.Util KeyValue

variable {limits : Limits}

/-! ## Actions -/

/-- `InitOrUpdateTrustRegistry`. -/
structure InitOrUpdateTrustRegistry where
  registryId : TrustRegistryId
  name : String
  govFramework : List UInt8
  nonce : Nat

/-- `SetSchemasMetadata`. -/
structure SetSchemasMetadata (limits : Limits) where
  registryId : TrustRegistryId
  schemas : SchemasUpdate limits
  nonce : Nat

/-- `UpdateDelegatedIssuers`. -/
structure UpdateDelegatedIssuers (limits : Limits) where
  registryId : TrustRegistryId
  delegated : DelegatedUpdate limits
  nonce : Nat

/-- `SuspendIssuers`; the set of issuers is a sorted map to `Unit`, as a `BTreeSet` is. -/
structure SuspendIssuers where
  registryId : TrustRegistryId
  issuers : SortedMap Issuer Unit
  nonce : Nat

/-- `UnsuspendIssuers`. -/
structure UnsuspendIssuers where
  registryId : TrustRegistryId
  issuers : SortedMap Issuer Unit
  nonce : Nat

/-- `ChangeParticipantsRaw`: participants to add or remove. -/
structure ChangeParticipantsRaw where
  registryId : TrustRegistryId
  participants : MultiTargetUpdate IssuerOrVerifier (AddOrRemoveOrModify Unit Unit)

/-- `UnboundedTrustRegistryParticipantInformation`. -/
structure UnboundedTrustRegistryParticipantInformation where
  orgName : String
  logo : String
  description : String

/-- `SetParticipantInformationRaw`. -/
structure SetParticipantInformationRaw where
  registryId : TrustRegistryId
  participant : IssuerOrVerifier
  participantInformation : UnboundedTrustRegistryParticipantInformation

/-- The `len` of `SetSchemasMetadata`: one for a `Set`, the number of schemas updated
otherwise. -/
def SetSchemasMetadata.len (action : SetSchemasMetadata limits) : Nat :=
  match action.schemas with
  | .set _ => 1
  | .modify update => update.updates.size

/-! ## The bodies -/

/-- `init_or_update_trust_registry_`: (re)write the registry's information and add the
registry to the convener's registries. -/
def initOrUpdateTrustRegistry_ (action : InitOrUpdateTrustRegistry)
    (registries : TrustRegistryIdSet limits) (convener : Convener) :
    Except Error (TrustRegistryIdSet limits × TrustRegistryInfo limits) := do
  let some name := BoundedString.ofString? action.name | throw .trustRegistryNameSizeExceeded
  let some govFramework := BoundedBytes.ofBytes? action.govFramework | throw .govFrameworkSizeExceeded
  let some registries := tryAdd registries action.registryId () | throw .tooManyRegistries
  pure (registries, ⟨convener, name, govFramework⟩)

/-- `set_schemas_metadata_`: validate, then execute. -/
def setSchemasMetadata_ (action : SetSchemasMetadata limits) (registryInfo : TrustRegistryInfo limits)
    (actor : ConvenerOrIssuerOrVerifier) (state : State limits) : Except (Failure Error) (State limits) := do
  let update ← action.schemas.validateAndRecordDiff actor action.registryId registryInfo state
  (update.execute action.registryId state).mapError .panic

/-- The counter update of a delegated issuer for each schema of its delegating issuer. -/
def schemaIdsUpdate (issuerSchemaIds : IssuerSchemas limits) (update : IncOrDec) : SchemaIdUpdate IncOrDec :=
  MultiTargetUpdate.ofList ((keys issuerSchemaIds).map fun schemaId => (schemaId, update))

/-- The second loop of `update_delegated_issuers_`: the counter update of the signer's
schemas, with the step of each delegated issuer in the diff, applied to that issuer's
counters. -/
def applySchemaIdsUpdates (issuersDiff : MultiTargetUpdate Issuer IncOrDec) (issuerSchemaIds : IssuerSchemas limits)
    (registryId : TrustRegistryId) (state : State limits) : Except Panic (State limits) :=
  issuersDiff.updates.entries.foldlM (fun (state : State limits) (delegatedIssuer, update) => do
      let schemaIds ← ApplyUpdate.applyUpdate (schemaIdsUpdate issuerSchemaIds update)
        (state.trustRegistryDelegatedIssuerSchemas registryId delegatedIssuer)
      pure { state with
        trustRegistryDelegatedIssuerSchemas :=
          update₂ state.trustRegistryDelegatedIssuerSchemas registryId delegatedIssuer schemaIds })
    state

/-- `update_delegated_issuers_`: change the issuers the signer delegates to, and count the
signer's schemas in, or out of, the schemas of each added, or removed, delegated
issuer.  Returns the storage and the signer's new configuration. -/
def updateDelegatedIssuers_ (action : UpdateDelegatedIssuers limits)
    (config : TrustRegistryIssuerConfiguration limits) (issuer : Issuer) (state : State limits) :
    Except (Failure Error) (State limits × TrustRegistryIssuerConfiguration limits) := do
  let registryId := action.registryId
  unless state.containsIssuerSchemas registryId issuer do throw (.error .noSuchIssuer)
  let delegated := action.delegated
  (liftUpdateError (ValidateUpdate.ensureValid delegated issuer config.delegated)).mapError .error
  let issuerSchemaIds := state.issuerSchemas registryId issuer
  let participants := state.trustRegistriesParticipants registryId
  let issuersDiff : MultiTargetUpdate Issuer IncOrDec :=
    TranslateUpdate.translateUpdate (KeyedUpdate.keysDiff delegated config.delegated)
  for (delegatedIssuer, update) in issuersDiff.updates.entries do
    let schemaIds := state.trustRegistryDelegatedIssuerSchemas registryId delegatedIssuer
    if isEmpty schemaIds then
      unless containsKey participants (IssuerOrVerifier.mk delegatedIssuer.did) do
        throw (.error .notAParticipant)
    (liftUpdateError (ValidateUpdate.ensureValid (schemaIdsUpdate issuerSchemaIds update) issuer
      schemaIds)).mapError .error
  let state ← (applySchemaIdsUpdates issuersDiff issuerSchemaIds registryId state).mapError .panic
  let delegatedIssuers ← (ApplyUpdate.applyUpdate delegated config.delegated).mapError .panic
  pure (state, { config with delegated := delegatedIssuers })

/-- Set the `suspended` flag of every issuer of the set; each must have schemas in the
registry and must not have the flag set already (`suspend_issuers_` with
`suspended = true`, `unsuspend_issuers_` with `suspended = false`). -/
def setIssuersSuspended (registryId : TrustRegistryId) (issuers : SortedMap Issuer Unit)
    (suspended : Bool) (alreadySet : Error) (state : State limits) : Except Error (State limits) := do
  for issuer in issuers.keys do
    unless state.containsIssuerSchemas registryId issuer do throw .noSuchIssuer
    if (state.trustRegistryIssuerConfigurations registryId issuer).suspended = suspended then
      throw alreadySet
  pure (issuers.keys.foldl (fun state issuer =>
      let config := state.trustRegistryIssuerConfigurations registryId issuer
      { state with
        trustRegistryIssuerConfigurations :=
          update₂ state.trustRegistryIssuerConfigurations registryId issuer { config with suspended } })
    state)

/-- `suspend_issuers_`. -/
def suspendIssuers_ (action : SuspendIssuers) (state : State limits) : Except Error (State limits) :=
  setIssuersSuspended action.registryId action.issuers true .alreadySuspended state

/-- `unsuspend_issuers_`. -/
def unsuspendIssuers_ (action : UnsuspendIssuers) (state : State limits) : Except Error (State limits) :=
  setIssuersSuspended action.registryId action.issuers false .notSuspended state

/-- `change_participants_`: the update is valid only if every participant it names
signed; then it is applied. -/
def changeParticipants_ (action : ChangeParticipantsRaw)
    (trustRegistryParticipants : TrustRegistryStoredParticipants limits)
    (signers : List ConvenerOrIssuerOrVerifier) :
    Except (Failure Error) (TrustRegistryStoredParticipants limits) := do
  let actors : IssuersOrVerifiers := ⟨signers.map fun signer => ⟨signer.did⟩⟩
  (liftUpdateError (ValidateUpdate.ensureValid action.participants actors trustRegistryParticipants)).mapError
    .error
  (ApplyUpdate.applyUpdate action.participants trustRegistryParticipants).mapError .panic

/-- `TryFrom<UnboundedTrustRegistryParticipantInformation>`. -/
def UnboundedTrustRegistryParticipantInformation.bound (info : UnboundedTrustRegistryParticipantInformation) :
    Except Error (TrustRegistryStoredParticipantInformation limits) := do
  let some orgName := BoundedString.ofString? info.orgName | throw .participantOrgNameSizeExceededLimit
  let some logo := BoundedString.ofString? info.logo | throw .participantLogoSizeExceededLimit
  let some description := BoundedString.ofString? info.description
    | throw .participantDescriptionSizeExceededLimit
  pure ⟨orgName, logo, description⟩

/-- `set_participant_information_`: only a participant has information. -/
def setParticipantInformation_ (action : SetParticipantInformationRaw)
    (participants : TrustRegistryStoredParticipants limits) :
    Except Error (TrustRegistryStoredParticipantInformation limits) := do
  unless containsKey participants action.participant do throw .notAParticipant
  action.participantInformation.bound

end DockSubstrate.TrustRegistry
