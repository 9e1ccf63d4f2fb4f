import DockSubstrate.TrustRegistry.ValidationGaps

/-!
# What a signer that is not the convener can change

A signer of `set_schemas_metadata` that does not control the registry validates every
update as an `IssuerOrVerifier`.  Under the update rules that actor may not set, add or
remove a schema's metadata, nor set a schema's issuers or verifiers wholesale, and its
keyed updates of the issuers and of the verifiers of a schema must name only itself,
which must be there already.  What is left is a change of its own entry: new prices for
itself as an issuer, or its removal from the issuers or the verifiers (`OwnEntryChange`).

`setSchemasMetadata_by_nonConvener` lifts this through the two passes to a whole call:
every schema keeps or loses nothing but the signer's own entry, the registry's schemas
stay, nothing outside the metadata and its indices changes, and the indices stay
consistent.
-/

namespace DockSubstrate.TrustRegistry

open DockSubstrate.Lib DockSubstrate.Util KeyValue

variable {limits : Limits}

/-! ## Own entries -/

/-- The change of a schema's metadata an actor may make to its own entry: every other
issuer and verifier stays, and the actor is an issuer, or a verifier, afterwards only if it
was one before. -/
structure OwnEntryChange (actor : DidOrDidMethodKey) (before after : TrustRegistrySchemaMetadata limits) :
    Prop where
  issuers : ∀ issuer : Issuer, issuer.did ≠ actor → get after.issuers issuer = get before.issuers issuer
  ownIssuer : (get after.issuers (Issuer.mk actor)).isSome → (get before.issuers (Issuer.mk actor)).isSome
  verifiers : ∀ verifier : Verifier, verifier.did ≠ actor →
    containsKey after.verifiers verifier = containsKey before.verifiers verifier
  ownVerifier : containsKey after.verifiers (Verifier.mk actor) = true →
    containsKey before.verifiers (Verifier.mk actor) = true

theorem OwnEntryChange.refl (actor : DidOrDidMethodKey) (metadata : TrustRegistrySchemaMetadata limits) :
    OwnEntryChange actor metadata metadata :=
  ⟨fun _ _ => rfl, id, fun _ _ => rfl, id⟩

/-- The change of a schema's stored metadata an actor may make: none to a schema without
metadata, an own-entry change to a schema with some. -/
def MetadataChangeBy (actor : DidOrDidMethodKey) :
    Option (TrustRegistrySchemaMetadata limits) → Option (TrustRegistrySchemaMetadata limits) → Prop
  | .none, .none => True
  | .some before, .some after => OwnEntryChange actor before after
  | _, _ => False

theorem MetadataChangeBy.refl (actor : DidOrDidMethodKey) :
    ∀ metadata : Option (TrustRegistrySchemaMetadata limits), MetadataChangeBy actor metadata metadata
  | .none => trivial
  | .some metadata => OwnEntryChange.refl actor metadata

/-! ## The updates an issuer or verifier may make -/

section Actor

variable {actor : DidOrDidMethodKey}

/-- A keyed update allowed by the own-entry rule of the issuers and the verifiers (the
actor is present and is the only target) leaves every other key as it was. -/
theorem get_of_ownEntryRule {C K V U : Type} [LinearOrder K] [KeyValue C K V] [LawfulKeyValue C K V]
    [GetUpdateKind U (Option V)] [ApplyUpdate U (Option V)] {self : K} {keyed : MultiTargetUpdate K U}
    {entity result : C} (allowed : (containsKey entity self && keyed.keys.all (· == self)) = true)
    (applied : keyed.applyUpdate entity = .ok result) :
    (∀ key, key ≠ self → get result key = get entity key) ∧ containsKey entity self = true := by
  simp only [Bool.and_eq_true, List.all_eq_true, beq_iff_eq] at allowed
  obtain ⟨present, onlyOwn⟩ := allowed
  refine ⟨fun key other => ?_, present⟩
  -- a key other than the actor's is not in the update
  have absent : keyed.get? key = none := by
    apply MultiTargetUpdate.get?_eq_none_of_not_mem_keys
    intro named
    exact other (onlyOwn key named)
  exact MultiTargetUpdate.get_applyUpdate_of_get?_eq_none applied absent

/-- A validated update of a schema's issuers by an issuer or verifier touches only the
actor's own entry, which was there before. -/
theorem issuersUpdate_ownEntry {update : IssuersUpdate limits} {issuers issuers' : TrustRegistrySchemaIssuers limits}
    (valid : ValidateUpdate.ensureValid update (IssuerOrVerifier.mk actor) issuers = .ok ())
    (applied : ApplyUpdate.applyUpdate update issuers = .ok issuers') :
    (∀ issuer : Issuer, issuer.did ≠ actor → get issuers' issuer = get issuers issuer) ∧
      ((get issuers' (Issuer.mk actor)).isSome → (get issuers (Issuer.mk actor)).isSome) := by
  cases update with
  | set new =>
      -- only the convener sets a schema's issuers
      cases valid
  | modify keyed =>
      obtain ⟨allowed, -⟩ := MultiTargetUpdate.ensureValid_eq_ok valid
      obtain ⟨others, present⟩ := get_of_ownEntryRule allowed applied
      exact ⟨fun issuer other => others issuer fun same => other (congrArg Issuer.did same), fun _ => present⟩

/-- A validated update of a schema's verifiers by an issuer or verifier touches only the
actor's own entry, which was there before. -/
theorem verifiersUpdate_ownEntry {update : VerifiersUpdate limits}
    {verifiers verifiers' : TrustRegistrySchemaVerifiers limits}
    (valid : ValidateUpdate.ensureValid update (IssuerOrVerifier.mk actor) verifiers = .ok ())
    (applied : ApplyUpdate.applyUpdate update verifiers = .ok verifiers') :
    (∀ verifier : Verifier, verifier.did ≠ actor →
        containsKey verifiers' verifier = containsKey verifiers verifier) ∧
      (containsKey verifiers' (Verifier.mk actor) = true → containsKey verifiers (Verifier.mk actor) = true) := by
  cases update with
  | set new =>
      -- only the convener sets a schema's verifiers
      cases valid
  | modify keyed =>
      obtain ⟨allowed, -⟩ := MultiTargetUpdate.ensureValid_eq_ok valid
      obtain ⟨others, present⟩ := get_of_ownEntryRule allowed applied
      refine ⟨fun verifier other => ?_, fun _ => present⟩
      rw [containsKey, containsKey, others verifier fun same => other (congrArg Verifier.did same)]

/-- A validated update of a schema's metadata by an issuer or verifier changes only the
actor's own entries. -/
theorem metadataUpdate_ownEntry {update : TrustRegistrySchemaMetadataUpdate limits}
    {metadata metadata' : TrustRegistrySchemaMetadata limits}
    (valid : update.ensureValid (IssuerOrVerifier.mk actor) metadata = .ok ())
    (applied : update.applyUpdate metadata = .ok metadata') : OwnEntryChange actor metadata metadata' := by
  obtain ⟨issuersValid, verifiersValid⟩ := TrustRegistrySchemaMetadataUpdate.ensureValid_eq_ok.mp valid
  obtain ⟨issuersApplied, verifiersApplied⟩ := TrustRegistrySchemaMetadataUpdate.applyUpdate_eq_ok.mp applied
  -- each part is missing and kept, or validated and applied to the actor's own entry
  have issuersPart : (∀ issuer : Issuer, issuer.did ≠ actor →
        get metadata'.issuers issuer = get metadata.issuers issuer) ∧
      ((get metadata'.issuers (Issuer.mk actor)).isSome → (get metadata.issuers (Issuer.mk actor)).isSome) := by
    cases found : update.issuers with
    | none =>
        rw [found, Option.elim, Except.ok.injEq] at issuersApplied
        rw [← issuersApplied]
        exact ⟨fun _ _ => rfl, id⟩
    | some issuersUpdate =>
        rw [found, Option.elim] at issuersApplied
        exact issuersUpdate_ownEntry (issuersValid issuersUpdate found) issuersApplied
  have verifiersPart : (∀ verifier : Verifier, verifier.did ≠ actor →
        containsKey metadata'.verifiers verifier = containsKey metadata.verifiers verifier) ∧
      (containsKey metadata'.verifiers (Verifier.mk actor) = true →
        containsKey metadata.verifiers (Verifier.mk actor) = true) := by
    cases found : update.verifiers with
    | none =>
        rw [found, Option.elim, Except.ok.injEq] at verifiersApplied
        rw [← verifiersApplied]
        exact ⟨fun _ _ => rfl, id⟩
    | some verifiersUpdate =>
        rw [found, Option.elim] at verifiersApplied
        exact verifiersUpdate_ownEntry (verifiersValid verifiersUpdate found) verifiersApplied
  exact ⟨issuersPart.1, issuersPart.2, verifiersPart.1, verifiersPart.2⟩

/-- An issuer or verifier may not set, add or remove a schema's metadata, only modify an
existing one; the execution of a validated update of one schema changes only the actor's
own entries. -/
theorem schemaStep_ownEntry {update : SchemaMetadataModification limits}
    {before after : Option (TrustRegistrySchemaMetadata limits)}
    (valid : ValidateUpdate.ensureValid update (IssuerOrVerifier.mk actor) before = .ok ())
    (stepped : schemaStep update before = .ok after) : MetadataChangeBy actor before after := by
  unfold schemaStep at stepped
  split at stepped
  · -- an update that does nothing keeps the metadata
    obtain rfl := Except.ok.inj stepped
    exact MetadataChangeBy.refl actor before
  · cases update with
    | set new => cases before <;> cases valid
    | add new => cases valid
    | remove => cases before <;> cases valid
    | modify existent =>
        obtain ⟨metadataUpdate⟩ := existent
        cases before with
        | none => cases valid
        | some metadata =>
            obtain ⟨metadata', applied, rfl⟩ := Except.map_eq_ok.mp stepped
            exact metadataUpdate_ownEntry valid applied

end Actor

/-! ## The first pass -/

/-- The first pass validates every schema's update against the schema's metadata, and
keeps the registry's change of schemas empty unless the signer controls the registry. -/
theorem SchemasUpdate.validateAndRecordDiff_checked {self : SchemasUpdate limits}
    {actor : ConvenerOrIssuerOrVerifier} {registryId : TrustRegistryId} {registryInfo : TrustRegistryInfo limits}
    {state : State limits} {validated : ValidatedSchemasUpdate limits}
    (passed : self.validateAndRecordDiff actor registryId registryInfo state = .ok validated) :
    (∀ schemaId update, validated.schemas.get? schemaId = some update →
      actor.validateUpdate registryInfo update (state.trustRegistrySchemasMetadata schemaId registryId) = .ok ()) ∧
    ((Convener.mk actor.did).controls registryInfo = false → validated.schemaIds.isEmpty = true) := by
  unfold SchemasUpdate.validateAndRecordDiff at passed
  obtain ⟨⟨schemas, diff⟩, recorded, rest⟩ := Except.bind_eq_ok.mp passed
  dsimp only at rest
  obtain ⟨_, -, rest⟩ := Except.bind_eq_ok.mp rest
  obtain ⟨_, -, rest⟩ := Except.bind_eq_ok.mp rest
  obtain ⟨schemaIds, schemaIdsPassed, stored⟩ := Except.bind_eq_ok.mp rest
  obtain rfl := Except.pure_eq_ok.mp stored
  refine ⟨fun schemaId update found => ?_, fun notConvener => ?_⟩
  · -- a kept update is one of the updates the first loop validated
    have kept := (validateAndRecordSchemasDiff_spec recorded schemaId).kept
    rw [found, eq_comm, Option.filter_eq_some_iff] at kept
    unfold validateAndRecordSchemasDiff at recorded
    obtain ⟨_, _, stepped⟩ := Except.foldlM_mem_ok recorded _ (Entries.mem_of_lookup_eq_some kept.1)
    obtain ⟨_, checked, -⟩ := Except.bind_eq_ok.mp stepped
    exact Except.mapError_eq_ok.mp (Except.mapError_eq_ok.mp checked)
  · -- an issuer or verifier may not change the registry's schemas
    replace schemaIdsPassed := Except.mapError_eq_ok.mp schemaIdsPassed
    unfold validateSchemaIds at schemaIdsPassed
    dsimp only at schemaIdsPassed
    split at schemaIdsPassed
    · rename_i empty
      obtain rfl := Except.pure_eq_ok.mp schemaIdsPassed
      exact empty
    · obtain ⟨_, checked, -⟩ := Except.bind_eq_ok.mp schemaIdsPassed
      unfold ConvenerOrIssuerOrVerifier.validateUpdate liftUpdateError at checked
      rw [if_neg (by simp [notConvener])] at checked
      cases checked

/-! ## A call by an issuer or verifier -/

/-- A successful `set_schemas_metadata` whose signer does not control the registry
changes, in every schema of the registry, only the signer's own entries (new prices for
itself as an issuer, or its removal from the issuers or the verifiers); it adds or
removes no schema, touches no other registry, leaves the registries' information, their
participants and the issuers' configurations as they were, and keeps the indices
consistent. -/
theorem setSchemasMetadata_by_nonConvener {action : SetSchemasMetadata limits}
    {signer : ConvenerOrIssuerOrVerifier} {state next : State limits}
    (done : dispatch (.setSchemasMetadata action signer) state = .ok next)
    (notConvener : ∀ info, state.trustRegistriesInfo action.registryId = some info →
      (Convener.mk signer.did).controls info = false) :
    (∀ schemaId, MetadataChangeBy signer.did (state.trustRegistrySchemasMetadata schemaId action.registryId)
      (next.trustRegistrySchemasMetadata schemaId action.registryId)) ∧
    (∀ schemaId registryId, registryId ≠ action.registryId →
      next.trustRegistrySchemasMetadata schemaId registryId = state.trustRegistrySchemasMetadata schemaId registryId) ∧
    next.trustRegistriesStoredSchemas = state.trustRegistriesStoredSchemas ∧
    next.trustRegistriesInfo = state.trustRegistriesInfo ∧
    next.trustRegistriesParticipants = state.trustRegistriesParticipants ∧
    next.trustRegistryParticipantsInformation = state.trustRegistryParticipantsInformation ∧
    next.convenerTrustRegistries = state.convenerTrustRegistries ∧
    next.trustRegistryIssuerConfigurations = state.trustRegistryIssuerConfigurations ∧
    (IndexConsistent state → IndexConsistent next) := by
  unfold dispatch at done
  obtain ⟨-, -, rest⟩ := Except.bind_eq_ok.mp done
  obtain ⟨info, found, body⟩ := Except.bind_eq_ok.mp rest
  have asIssuerOrVerifier := notConvener info (registryInfo_eq_ok.mp found)
  replace body := liftBody_eq_ok.mp body
  have consistentNext := fun consistent => setSchemasMetadata_indexConsistent consistent body
  obtain ⟨validated, passed, executed⟩ := Except.bind_eq_ok.mp body
  replace executed := Except.mapError_eq_ok.mp executed
  obtain ⟨checked, noSchemaIds⟩ := SchemasUpdate.validateAndRecordDiff_checked passed
  have keeps := ValidatedSchemasUpdate.execute_keeps executed
  obtain ⟨afterSchemas, afterIssuers, afterCounters, afterVerifiers, schemasDone, issuersDone, countersDone,
    verifiersDone, schemaIdsDone⟩ := ValidatedSchemasUpdate.execute_eq_ok executed
  -- the registry's schemas are not changed, and the later phases keep the metadata
  have sameStored : next = afterVerifiers := by
    unfold executeSchemaIds at schemaIdsDone
    rw [if_pos (noSchemaIds asIssuerOrVerifier)] at schemaIdsDone
    exact (Except.pure_eq_ok.mp schemaIdsDone).symm
  subst sameStored
  have metadata : next.trustRegistrySchemasMetadata = afterSchemas.trustRegistrySchemasMetadata := by
    rw [executeTargets_verifiers_frame verifiersDone, executeDelegatedIssuers_frame countersDone,
      executeTargets_issuers_frame issuersDone]
  refine ⟨fun schemaId => ?_, fun schemaId registryId other => ?_, ?_, keeps.1, keeps.2.1, keeps.2.2.1,
    keeps.2.2.2.1, keeps.2.2.2.2, consistentNext⟩
  · -- each schema of the registry is kept, or changed by its validated update
    rw [metadata]
    obtain ⟨untouched, computed⟩ := executeSchemas_at schemasDone schemaId
    cases updateFound : validated.schemas.get? schemaId with
    | none =>
        rw [untouched updateFound]
        exact MetadataChangeBy.refl _ _
    | some update =>
        have valid := checked schemaId update updateFound
        unfold ConvenerOrIssuerOrVerifier.validateUpdate at valid
        rw [if_neg (by simp [asIssuerOrVerifier])] at valid
        exact schemaStep_ownEntry valid (computed update updateFound)
  · rw [metadata]
    exact executeSchemas_other schemasDone schemaId other
  · rw [executeTargets_verifiers_frame verifiersDone, executeDelegatedIssuers_frame countersDone,
      executeTargets_issuers_frame issuersDone, executeSchemas_frame schemasDone]

namespace TwoSchemas

/-- The storage after the setup of the two-schema run. -/
def afterSetup : State smallLimits :=
  (runCalls setup State.empty).toOption.getD State.empty

theorem reachable_afterSetup : Reachable afterSetup :=
  Reachable.runCalls .refl (rfl : runCalls setup State.empty = .ok afterSetup)

/-- The second issuer leaves the issuers of schema `b`. -/
def leaveSchemaB : SetSchemasMetadata smallLimits :=
  ⟨registry, .modify (MultiTargetUpdate.ofList [(schemaB,
    .modify ⟨⟨some (.modify (MultiTargetUpdate.ofList [(secondIssuer, .remove)])), none⟩⟩)]), 0⟩

end TwoSchemas

open TwoSchemas in
theorem setSchemasMetadata_by_nonConvener_leaving :
    Reachable afterSetup ∧
      ∃ next, dispatch (.setSchemasMetadata leaveSchemaB ⟨secondIssuer.did⟩) afterSetup = .ok next ∧
      ∀ schemaId, MetadataChangeBy secondIssuer.did (afterSetup.trustRegistrySchemasMetadata schemaId registry)
        (next.trustRegistrySchemasMetadata schemaId registry) := by
  obtain ⟨next, done⟩ : ∃ next,
      dispatch (.setSchemasMetadata leaveSchemaB ⟨secondIssuer.did⟩) afterSetup = .ok next := ⟨_, rfl⟩
  refine ⟨reachable_afterSetup, next, done, (setSchemasMetadata_by_nonConvener done fun info found => ?_).1⟩
  -- the registry's information names the convener, not the second issuer
  cases found
  decide

end DockSubstrate.TrustRegistry
