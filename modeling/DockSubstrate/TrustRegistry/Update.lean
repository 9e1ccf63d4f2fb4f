import DockSubstrate.TrustRegistry.Storage

/-!
# Validating, recording and executing a schema metadata update

`modules/trust_registry/update.rs`.  `set_schemas_metadata` works in two passes.  The
first validates the update of every schema against the stored metadata and records,
for every issuer and verifier, which schemas the update adds to it or removes from it
(`record_inner_diff`), and which schemas the registry gains or loses.  It then
validates those recorded updates against the issuers' and verifiers' stored schema
sets, and combines, for every delegated issuer, the counter updates that the changes
of its delegating issuers imply.  The second pass executes everything that was
validated.  Validation returns an error and changes nothing; execution cannot return
an error, but panics where an update does not apply.
-/

namespace DockSubstrate.TrustRegistry

open DockSubstrate.Lib DockSubstrate.Util KeyValue

variable {limits : Limits}

/-- The error of a failed validation, as the pallet reports it. -/
def liftUpdateError {α : Type} (result : Except UpdateError α) : Except Error α :=
  result.mapError Error.ofUpdateError

/-- `IssuersVerifiersSchemas`: the schemas added to and removed from every issuer and
every verifier, and the schemas added to and removed from the registry. -/
structure IssuersVerifiersSchemas where
  issuers : MultiSchemaIdUpdate Issuer
  verifiers : MultiSchemaIdUpdate Verifier
  schemas : SchemaIdUpdate

instance : EmptyCollection IssuersVerifiersSchemas := ⟨⟨∅, ∅, ∅⟩⟩

/-! ## Recording the differences -/

/-- `map.entry(key).or_default()` followed by `record_update` on the entry. -/
def recordAt {K : Type} [LinearOrder K] (map : MultiSchemaIdUpdate K) (key : K)
    (recordUpdate : SchemaIdUpdate → Except DuplicateKey SchemaIdUpdate) :
    Except DuplicateKey (MultiSchemaIdUpdate K) := do
  pure (map.insert key (← recordUpdate ((map.get? key).getD ∅)))

/-- `TrustRegistrySchemaMetadata::record_inner_issuers_and_verifiers_diff`: record an
update of the schema for each of its issuers, then for each of its verifiers. -/
def TrustRegistrySchemaMetadata.recordInnerIssuersAndVerifiersDiff
    (self : TrustRegistrySchemaMetadata limits) (issuers : MultiSchemaIdUpdate Issuer)
    (verifiers : MultiSchemaIdUpdate Verifier)
    (recordUpdate : SchemaIdUpdate → Except DuplicateKey SchemaIdUpdate) :
    Except DuplicateKey (MultiSchemaIdUpdate Issuer × MultiSchemaIdUpdate Verifier) := do
  let issuers ← (keys self.issuers).foldlM (fun issuers issuer => recordAt issuers issuer recordUpdate)
    issuers
  let verifiers ← (keys self.verifiers).foldlM
    (fun verifiers verifier => recordAt verifiers verifier recordUpdate) verifiers
  pure (issuers, verifiers)

/-- `TrustRegistrySchemaMetadataUpdate::record_inner_issuers_and_verifiers_diff`: record
the keys diff of the verifiers' update, then of the issuers' update. -/
def TrustRegistrySchemaMetadataUpdate.recordInnerIssuersAndVerifiersDiff
    (self : TrustRegistrySchemaMetadataUpdate limits) (schemaId : TrustRegistrySchemaId)
    (entity : TrustRegistrySchemaMetadata limits) (issuers : MultiSchemaIdUpdate Issuer)
    (verifiers : MultiSchemaIdUpdate Verifier) :
    Except DuplicateKey (MultiSchemaIdUpdate Issuer × MultiSchemaIdUpdate Verifier) := do
  let verifiers ← match self.verifiers with
    | .some update => KeyedUpdate.recordInnerKeysDiff update entity.verifiers schemaId verifiers
    | .none => pure verifiers
  let issuers ← match self.issuers with
    | .some update => KeyedUpdate.recordInnerKeysDiff update entity.issuers schemaId issuers
    | .none => pure issuers
  pure (issuers, verifiers)

/-- The first `match` of `record_inner_diff`: the schema is recorded as added to or
removed from the registry by the kind of its update. -/
def recordSchemaKind (kind : UpdateKind) (schemaId : TrustRegistrySchemaId) (schemas : SchemaIdUpdate) :
    Except DuplicateKey SchemaIdUpdate :=
  match kind with
  | .add => schemas.insertUpdate schemaId (.add ())
  | .remove => schemas.insertUpdate schemaId .remove
  | _ => pure schemas

/-- The second `match` of `record_inner_diff`: the schema is recorded as added to or
removed from each issuer and verifier by what the update does to its metadata. -/
def SchemaMetadataModification.recordInnerRows (self : SchemaMetadataModification limits)
    (schemaId : TrustRegistrySchemaId) (entity : Option (TrustRegistrySchemaMetadata limits))
    (issuers : MultiSchemaIdUpdate Issuer) (verifiers : MultiSchemaIdUpdate Verifier) :
    Except (Failure DuplicateKey) (MultiSchemaIdUpdate Issuer × MultiSchemaIdUpdate Verifier) :=
  match self with
  | .add new =>
      (new.recordInnerIssuersAndVerifiersDiff issuers verifiers
        fun map => map.insertUpdate schemaId (.add ())).mapError .error
  | .remove =>
      match entity with
      | .some old =>
          (old.recordInnerIssuersAndVerifiersDiff issuers verifiers
            fun map => map.insertUpdate schemaId .remove).mapError .error
      | .none => throw (.panic .entityExpected)
  | .set new => do
      -- the old metadata's keys are recorded as removed, then the new metadata's keys
      -- as added, an addition cancelling the removal of the same key
      let (issuers, verifiers) ← match entity with
        | .some old =>
            (old.recordInnerIssuersAndVerifiersDiff issuers verifiers
              fun map => map.insertUpdate schemaId .remove).mapError .error
        | .none => pure (issuers, verifiers)
      (new.recordInnerIssuersAndVerifiersDiff issuers verifiers fun map =>
          map.insertUpdateOrRemoveDuplicateIf schemaId (.add ()) fun
            | .remove => true
            | _ => false).mapError .error
  | .modify ⟨update⟩ =>
      match entity with
      | .some old => (update.recordInnerIssuersAndVerifiersDiff schemaId old issuers verifiers).mapError .error
      | .none => throw (.panic .entityExpected)

/-- `SchemaMetadataModification::record_inner_diff`. -/
def SchemaMetadataModification.recordInnerDiff (self : SchemaMetadataModification limits)
    (schemaId : TrustRegistrySchemaId) (entity : Option (TrustRegistrySchemaMetadata limits))
    (diff : IssuersVerifiersSchemas) : Except (Failure DuplicateKey) IssuersVerifiersSchemas := do
  let schemas ← (recordSchemaKind (GetUpdateKind.kind self entity) schemaId diff.schemas).mapError .error
  let (issuers, verifiers) ← self.recordInnerRows schemaId entity diff.issuers diff.verifiers
  pure ⟨issuers, verifiers, schemas⟩

/-! ## Validation -/

/-- `SchemaIdUpdate<SchemaMetadataModification>::validate_and_record_diff`: validate
every schema's update against its stored metadata, drop the updates that do nothing,
and record the differences of the others. -/
def validateAndRecordSchemasDiff (self : SchemaIdUpdate (SchemaMetadataModification limits))
    (actor : ConvenerOrIssuerOrVerifier) (registryId : TrustRegistryId)
    (registryInfo : TrustRegistryInfo limits) (state : State limits) (diff : IssuersVerifiersSchemas) :
    Except (Failure Error) (SchemaIdUpdate (SchemaMetadataModification limits) × IssuersVerifiersSchemas) :=
  self.updates.entries.foldlM (fun (validated, diff) (schemaId, update) => do
      let schemaMetadata := state.trustRegistrySchemasMetadata schemaId registryId
      (liftUpdateError (actor.validateUpdate registryInfo update schemaMetadata)).mapError .error
      if GetUpdateKind.kind update schemaMetadata = .none then pure (validated, diff)
      else
        let diff ← (update.recordInnerDiff schemaId schemaMetadata diff).mapError
          (Failure.mapError fun _ => Error.duplicateKey)
        pure (validated.insert schemaId update, diff))
    (∅, diff)

/-- The update a `Set` of the whole registry stands for: the new metadata is set for each
of its schemas, and every stored schema it lacks is removed (a merge join of the new
schemas with the stored ones). -/
def Schemas.toUpdate (self : Schemas limits) (stored : TrustRegistryStoredSchemas limits) :
    SchemaIdUpdate (SchemaMetadataModification limits) :=
  let toSet := (Wrapper.unwrap self).map.entries.map fun entry =>
    (entry.1, (SetOrAddOrRemoveOrModify.set entry.2 : SchemaMetadataModification limits))
  let toRemove := (keys stored).map fun schemaId =>
    (schemaId, (SetOrAddOrRemoveOrModify.remove : SchemaMetadataModification limits))
  MultiTargetUpdate.ofList ((mergeJoinEntries toSet toRemove).map fun
    | .left update | .right update | .both update _ => update)

/-- `MultiSchemaIdUpdate<Target>::validate_and_record_diff`: validate the update of every
target's schemas, drop the updates that do nothing, and check that a target with no
schemas yet may get the registry added to its registries. -/
def validateTargets {Target Schemas Registries : Type} [LinearOrder Target]
    [HasSchemasAndRegistries limits Target Schemas Registries]
    [KeyValue Schemas TrustRegistrySchemaId Unit] [KeyValue Registries TrustRegistryId Unit]
    [CanUpdateKeyed Convener Schemas TrustRegistrySchemaId]
    [CanUpdateKeyed IssuerOrVerifier Schemas TrustRegistrySchemaId]
    [CanUpdateKeyed Convener Registries TrustRegistryId]
    [CanUpdateKeyed IssuerOrVerifier Registries TrustRegistryId]
    (self : MultiSchemaIdUpdate Target) (actor : ConvenerOrIssuerOrVerifier)
    (registryId : TrustRegistryId) (registryInfo : TrustRegistryInfo limits) (state : State limits)
    (allowed : List Target) : Except Error (MultiSchemaIdUpdate Target) :=
  self.updates.entries.foldlM (fun validated (target, update) => do
      let schemas := HasSchemasAndRegistries.schemas state registryId target
      liftUpdateError (actor.validateUpdate registryInfo update schemas)
      let updateKind := GetUpdateKind.kind update schemas
      if updateKind = .none then pure validated
      else do
          if updateKind = .add ∧ !allowed.contains target then throw .notAParticipant
          if isEmpty schemas then
            let updateTargetRegistries : RegistryIdUpdate := .ofList [(registryId, .add ())]
            liftUpdateError (actor.validateUpdate registryInfo updateTargetRegistries
              (HasSchemasAndRegistries.registries state target))
          pure (validated.insert target update))
    ∅

/-- The counter updates of the delegated issuers: for every validated issuer update and
every issuer that issuer delegates to, the update translated into counter steps, all
of a delegated issuer's updates combined into one. -/
def combineDelegatedIssuersUpdate (issuersUpdate : MultiSchemaIdUpdate Issuer)
    (registryId : TrustRegistryId) (state : State limits) :
    Except Error (MultiTargetUpdate Issuer (SchemaIdUpdate IncOrDec)) :=
  issuersUpdate.updates.entries.foldlM (fun acc (issuer, updates) =>
      (keys (state.trustRegistryIssuerConfigurations registryId issuer).delegated).foldlM
        (fun acc delegatedIssuer => do
          let translatedUpdates : SchemaIdUpdate IncOrDec := TranslateUpdate.translateUpdate updates
          let existing := (acc.get? delegatedIssuer).getD ∅
          pure (acc.insert delegatedIssuer (← liftUpdateError (existing.combine translatedUpdates))))
        acc)
    ∅

/-- Validate the combined update of every delegated issuer against its stored counters,
dropping those that do nothing. -/
def validateDelegatedIssuersUpdate (combined : MultiTargetUpdate Issuer (SchemaIdUpdate IncOrDec))
    (actor : ConvenerOrIssuerOrVerifier) (registryId : TrustRegistryId)
    (registryInfo : TrustRegistryInfo limits) (state : State limits) :
    Except Error (MultiTargetUpdate Issuer (SchemaIdUpdate IncOrDec)) :=
  combined.updates.entries.foldlM (fun validated (delegatedIssuer, combinedUpdates) => do
      let schemas := state.trustRegistryDelegatedIssuerSchemas registryId delegatedIssuer
      liftUpdateError (actor.validateUpdate registryInfo combinedUpdates schemas)
      if GetUpdateKind.kind combinedUpdates schemas = .none then pure validated
      else pure (validated.insert delegatedIssuer combinedUpdates))
    ∅

/-- `IssuersSchemasUpdate::validate_and_record_diff`. -/
def validateIssuers (self : MultiSchemaIdUpdate Issuer) (actor : ConvenerOrIssuerOrVerifier)
    (registryId : TrustRegistryId) (registryInfo : TrustRegistryInfo limits) (state : State limits)
    (allowed : List Issuer) :
    Except Error (MultiSchemaIdUpdate Issuer × MultiTargetUpdate Issuer (SchemaIdUpdate IncOrDec)) := do
  let issuersUpdate ← validateTargets self actor registryId registryInfo state allowed
  let combined ← combineDelegatedIssuersUpdate issuersUpdate registryId state
  let delegated ← validateDelegatedIssuersUpdate combined actor registryId registryInfo state
  pure (issuersUpdate, delegated)

/-- `SchemaIdUpdate::validate_and_record_diff`: the schemas added to or removed from the
registry, validated against its stored schemas. -/
def validateSchemaIds (self : SchemaIdUpdate) (actor : ConvenerOrIssuerOrVerifier)
    (registryId : TrustRegistryId) (registryInfo : TrustRegistryInfo limits) (state : State limits) :
    Except Error SchemaIdUpdate := do
  unless self.isEmpty do
    liftUpdateError (actor.validateUpdate registryInfo self (state.trustRegistriesStoredSchemas registryId))
  pure self

/-- A schema metadata update that passed validation, with everything it implies. -/
structure ValidatedSchemasUpdate (limits : Limits) where
  schemas : SchemaIdUpdate (SchemaMetadataModification limits)
  issuers : MultiSchemaIdUpdate Issuer
  delegatedIssuers : MultiTargetUpdate Issuer (SchemaIdUpdate IncOrDec)
  verifiers : MultiSchemaIdUpdate Verifier
  schemaIds : SchemaIdUpdate

/-- `SchemasUpdate::validate_and_record_diff`: the whole first pass. -/
def SchemasUpdate.validateAndRecordDiff (self : SchemasUpdate limits)
    (actor : ConvenerOrIssuerOrVerifier) (registryId : TrustRegistryId)
    (registryInfo : TrustRegistryInfo limits) (state : State limits) :
    Except (Failure Error) (ValidatedSchemasUpdate limits) := do
  let schemaUpdates := match self with
    | .set schemas => schemas.toUpdate (state.trustRegistriesStoredSchemas registryId)
    | .modify update => update
  let (update, diff) ← validateAndRecordSchemasDiff schemaUpdates actor registryId registryInfo state ∅
  let participants : IssuersOrVerifiers := ⟨keys (state.trustRegistriesParticipants registryId)⟩
  let (issuers, delegatedIssuers) ←
    (validateIssuers diff.issuers actor registryId registryInfo state participants.issuers).mapError .error
  let verifiers ←
    (validateTargets diff.verifiers actor registryId registryInfo state participants.verifiers).mapError .error
  let schemaIds ← (validateSchemaIds diff.schemas actor registryId registryInfo state).mapError .error
  pure ⟨update, issuers, delegatedIssuers, verifiers, schemaIds⟩

/-! ## Execution -/

/-- Execute the validated update of every schema's metadata. -/
def executeSchemas (updates : SchemaIdUpdate (SchemaMetadataModification limits))
    (registryId : TrustRegistryId) (state : State limits) : Except Panic (State limits) :=
  updates.updates.entries.foldlM (fun state (schemaId, update) => do
      let schemaMetadata := state.trustRegistrySchemasMetadata schemaId registryId
      if GetUpdateKind.kind update schemaMetadata = .none then pure state
      else
        let schemaMetadata ← ApplyUpdate.applyUpdate update schemaMetadata
        pure { state with
          trustRegistrySchemasMetadata :=
            update₂ state.trustRegistrySchemasMetadata schemaId registryId schemaMetadata })
    state

/-- `ExecuteTrustRegistryUpdate` of a `MultiSchemaIdUpdate<Target>`: apply every
target's update to its schemas; the registry is added to the target's registries when
its schemas were empty before, and removed when they are empty after. -/
def executeTargets {Target Schemas Registries : Type} [LinearOrder Target]
    [HasSchemasAndRegistries limits Target Schemas Registries]
    [KeyValue Schemas TrustRegistrySchemaId Unit] [KeyValue Registries TrustRegistryId Unit]
    (updates : MultiSchemaIdUpdate Target) (registryId : TrustRegistryId) (state : State limits) :
    Except Panic (State limits) :=
  updates.updates.entries.foldlM (fun state (target, update) => do
      let schemas := HasSchemasAndRegistries.schemas state registryId target
      let regsUpdate : RegistryIdUpdate :=
        if isEmpty schemas then (∅ : RegistryIdUpdate).insert registryId (.add ()) else ∅
      let schemas ← ApplyUpdate.applyUpdate update schemas
      let regsUpdate := if isEmpty schemas then regsUpdate.insert registryId .remove else regsUpdate
      let state ← if regsUpdate.isEmpty then pure state else do
        let registries ← ApplyUpdate.applyUpdate regsUpdate (HasSchemasAndRegistries.registries state target)
        pure (HasSchemasAndRegistries.setRegistries state target registries)
      pure (HasSchemasAndRegistries.setSchemas state registryId target schemas))
    state

/-- Apply the validated counter updates of the delegated issuers. -/
def executeDelegatedIssuers (updates : MultiTargetUpdate Issuer (SchemaIdUpdate IncOrDec))
    (registryId : TrustRegistryId) (state : State limits) : Except Panic (State limits) :=
  updates.updates.entries.foldlM (fun state (delegatedIssuer, update) => do
      let schemas ← ApplyUpdate.applyUpdate update
        (state.trustRegistryDelegatedIssuerSchemas registryId delegatedIssuer)
      pure { state with
        trustRegistryDelegatedIssuerSchemas :=
          update₂ state.trustRegistryDelegatedIssuerSchemas registryId delegatedIssuer schemas })
    state

/-- Apply the validated change of the registry's schemas, if any. -/
def executeSchemaIds (update : SchemaIdUpdate) (registryId : TrustRegistryId) (state : State limits) :
    Except Panic (State limits) :=
  if update.isEmpty then pure state
  else do
    let schemaSet ← ApplyUpdate.applyUpdate update (state.trustRegistriesStoredSchemas registryId)
    pure { state with
      trustRegistriesStoredSchemas := Function.update state.trustRegistriesStoredSchemas registryId schemaSet }

/-- The second pass, in the source's order: the schemas' metadata, the issuers, the
delegated issuers, the verifiers, and the registry's schemas. -/
def ValidatedSchemasUpdate.execute (self : ValidatedSchemasUpdate limits) (registryId : TrustRegistryId)
    (state : State limits) : Except Panic (State limits) := do
  let state ← executeSchemas self.schemas registryId state
  let state ← executeTargets self.issuers registryId state
  let state ← executeDelegatedIssuers self.delegatedIssuers registryId state
  let state ← executeTargets self.verifiers registryId state
  executeSchemaIds self.schemaIds registryId state

end DockSubstrate.TrustRegistry
