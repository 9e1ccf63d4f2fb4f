import DockSubstrate.TrustRegistry.Validate

/-!
# The trust registry keeps its indices consistent

`IndexConsistent` holds of the empty storage and every successful call keeps it, so it
holds of every reachable state (`Reachable.indexConsistent`).

The call that changes the metadata, `set_schemas_metadata`, keeps the indices in step
through its diff: the first pass records, for every schema it changes, the schema's
change of presence in the registry and in the row of every issuer and verifier
(`FirstPass`), and the second pass applies exactly those changes to the indices, so an
index that agreed with the metadata before agrees with it after.  The counters of the
delegated issuers gain the combined counter steps of the issuers whose schemas changed,
which is the change in the number of issuers that delegate each schema.
-/

namespace DockSubstrate.TrustRegistry

open DockSubstrate.Lib DockSubstrate.Util KeyValue MultiTargetUpdate

variable {limits : Limits}

/-! ## The first pass -/

/-- A schema's update kept by the first loop does something to the stored metadata. -/
theorem SchemaRecorded.kind_ne_none {state : State limits} {registryId : TrustRegistryId}
    {schemaUpdates validated : SchemaIdUpdate (SchemaMetadataModification limits)} {diff : IssuersVerifiersSchemas}
    {schemaId : TrustRegistrySchemaId} (recorded : SchemaRecorded state registryId schemaUpdates validated diff schemaId)
    {update : SchemaMetadataModification limits} (found : validated.get? schemaId = some update) :
    GetUpdateKind.kind update (state.trustRegistrySchemasMetadata schemaId registryId) ≠ .none := by
  have kept := recorded.kept
  rw [found, eq_comm, Option.filter_eq_some_iff] at kept
  exact bne_iff_ne.mp kept.2

/-- What the first pass of `set_schemas_metadata` establishes of the update it returns,
with the diff it recorded: a kept schema update does something and its diff is exact, the
issuers' and verifiers' rows kept are those that change the stored schemas, the counter
updates add up the steps of every delegating issuer, and the registry's schemas change
as the diff says. -/
structure FirstPass (state : State limits) (registryId : TrustRegistryId)
    (validated : ValidatedSchemasUpdate limits) (diff : IssuersVerifiersSchemas) : Prop where
  schemas : ∀ schemaId update, validated.schemas.get? schemaId = some update →
    GetUpdateKind.kind update (state.trustRegistrySchemasMetadata schemaId registryId) ≠ .none ∧
      ∀ after, ApplyUpdate.applyUpdate update (state.trustRegistrySchemasMetadata schemaId registryId) = .ok after →
        DiffAt diff schemaId (state.trustRegistrySchemasMetadata schemaId registryId) after
  blank : ∀ schemaId, validated.schemas.get? schemaId = none → Blank diff schemaId
  issuers : ∀ issuer, validated.issuers.get? issuer = (diff.issuers.get? issuer).filter fun update =>
    GetUpdateKind.kind update (HasSchemasAndRegistries.schemas state registryId issuer) != .none
  verifiers : ∀ verifier, validated.verifiers.get? verifier = (diff.verifiers.get? verifier).filter fun update =>
    GetUpdateKind.kind update (HasSchemasAndRegistries.schemas state registryId verifier) != .none
  delegatedIssuers : ∀ delegatedIssuer schemaId,
    ((validated.delegatedIssuers.get? delegatedIssuer).map fun update => update.rawAt schemaId).getD 0 =
      (validated.issuers.updates.entries.map fun entry =>
        if containsKey (state.trustRegistryIssuerConfigurations registryId entry.1).delegated delegatedIssuer then
          (TranslateUpdate.translateUpdate entry.2 : SchemaIdUpdate IncOrDec).rawAt schemaId
        else 0).sum
  schemaIds : validated.schemaIds = diff.schemas

/-- `SchemasUpdate::validate_and_record_diff` establishes `FirstPass`. -/
theorem SchemasUpdate.validateAndRecordDiff_spec {self : SchemasUpdate limits} {actor : ConvenerOrIssuerOrVerifier}
    {registryId : TrustRegistryId} {registryInfo : TrustRegistryInfo limits} {state : State limits}
    {validated : ValidatedSchemasUpdate limits}
    (passed : self.validateAndRecordDiff actor registryId registryInfo state = .ok validated) :
    ∃ diff, FirstPass state registryId validated diff := by
  unfold SchemasUpdate.validateAndRecordDiff at passed
  obtain ⟨⟨schemas, diff⟩, recorded, rest⟩ := Except.bind_eq_ok.mp passed
  dsimp only at rest
  obtain ⟨⟨issuers, delegatedIssuers⟩, issuersPassed, rest⟩ := Except.bind_eq_ok.mp rest
  dsimp only at rest
  obtain ⟨verifiers, verifiersPassed, rest⟩ := Except.bind_eq_ok.mp rest
  obtain ⟨schemaIds, schemaIdsPassed, stored⟩ := Except.bind_eq_ok.mp rest
  obtain rfl := Except.pure_eq_ok.mp stored
  -- the issuers' rows, then the combined and validated counter updates
  unfold validateIssuers at issuersPassed
  obtain ⟨issuersUpdate, issuersUpdatePassed, rest⟩ := Except.bind_eq_ok.mp (Except.mapError_eq_ok.mp issuersPassed)
  obtain ⟨combined, combinedOk, rest⟩ := Except.bind_eq_ok.mp rest
  obtain ⟨delegated, delegatedPassed, stored⟩ := Except.bind_eq_ok.mp rest
  obtain ⟨rfl, rfl⟩ := Prod.mk.inj (Except.pure_eq_ok.mp stored)
  have schemasRecorded := validateAndRecordSchemasDiff_spec recorded
  refine ⟨diff, fun schemaId update found => ⟨(schemasRecorded schemaId).kind_ne_none found,
      (schemasRecorded schemaId).exact update found⟩, fun schemaId => (schemasRecorded schemaId).blank,
    validateTargets_get? issuersUpdatePassed, validateTargets_get? (Except.mapError_eq_ok.mp verifiersPassed),
    fun delegatedIssuer schemaId => ?_, validateSchemaIds_eq (Except.mapError_eq_ok.mp schemaIdsPassed)⟩
  rw [validateDelegatedIssuersUpdate_rawAt delegatedPassed, combineDelegatedIssuersUpdate_rawAt combinedOk]

/-! ## The second pass -/

/-- After the schemas' updates are executed, the recorded diff is exact for every schema
of the registry. -/
theorem executeSchemas_diffAt {validated : ValidatedSchemasUpdate limits} {diff : IssuersVerifiersSchemas}
    {registryId : TrustRegistryId} {state next : State limits} (pass : FirstPass state registryId validated diff)
    (executed : executeSchemas validated.schemas registryId state = .ok next) (schemaId : TrustRegistrySchemaId) :
    DiffAt diff schemaId (state.trustRegistrySchemasMetadata schemaId registryId)
      (next.trustRegistrySchemasMetadata schemaId registryId) := by
  obtain ⟨untouched, computed⟩ := executeSchemas_at executed schemaId
  cases found : validated.schemas.get? schemaId with
  | none =>
      rw [untouched found]
      exact DiffAt.of_blank (pass.blank schemaId found) _
  | some update =>
      -- a kept update does something, so its execution applies it
      obtain ⟨does, exact⟩ := pass.schemas schemaId update found
      have applied := computed update found
      rw [schemaStep, if_neg does] at applied
      exact exact _ applied

section Targets

variable {Target Schemas Registries : Type} [LinearOrder Target]
  [HasSchemasAndRegistries limits Target Schemas Registries]
  [KeyValue Schemas TrustRegistrySchemaId Unit] [KeyValue Registries TrustRegistryId Unit]
  [LawfulKeyValue Schemas TrustRegistrySchemaId Unit] [LawfulKeyValue Registries TrustRegistryId Unit]
  [LawfulSchemasAndRegistries limits Target Schemas Registries]

/-- Executing the kept rows of an exact diff brings a kind of target's index in the
registry from the metadata `before` to the metadata `after`, and keeps each target's
registries in step with its schemas. -/
theorem executeTargets_indexed {member : TrustRegistrySchemaMetadata limits → Target → Bool}
    {rows updates : MultiSchemaIdUpdate Target} {registryId : TrustRegistryId}
    {before after : TrustRegistrySchemaId → Option (TrustRegistrySchemaMetadata limits)} {state next : State limits}
    (listed : ∀ (target : Target) schemaId, containsKey (HasSchemasAndRegistries.schemas state registryId target) schemaId =
      listedIn member (before schemaId) target)
    (registered : ∀ target : Target, containsKey (HasSchemasAndRegistries.registries state target) registryId =
      !KeyValue.isEmpty (HasSchemasAndRegistries.schemas state registryId target))
    (exact : ∀ (target : Target) schemaId, rows.at target schemaId =
      keyDiff (listedIn member (before schemaId) target) (listedIn member (after schemaId) target))
    (kept : ∀ target : Target, updates.get? target = (rows.get? target).filter fun update =>
      GetUpdateKind.kind update (HasSchemasAndRegistries.schemas state registryId target) != .none)
    (executed : executeTargets updates registryId state = .ok next) (target : Target) :
    (∀ schemaId, containsKey (HasSchemasAndRegistries.schemas next registryId target) schemaId =
      listedIn member (after schemaId) target) ∧
    ∀ registryId', containsKey (HasSchemasAndRegistries.registries next target) registryId' =
      if registryId' = registryId then !KeyValue.isEmpty (HasSchemasAndRegistries.schemas next registryId target)
      else containsKey (HasSchemasAndRegistries.registries state target) registryId' := by
  obtain ⟨untouched, computed⟩ := executeTargets_at executed target
  -- the target's row, read against the target's schemas, is exact
  have rowExact : ∀ row, rows.get? target = some row → ∀ schemaId, row.get? schemaId =
      keyDiff (containsKey (HasSchemasAndRegistries.schemas state registryId target) schemaId)
        (listedIn member (after schemaId) target) := by
    intro row found schemaId
    rw [listed, ← exact, at_of_get? found]
  cases found : updates.get? target with
  | none =>
      -- the target's row is absent, or does nothing: the target's membership stays
      have unchanged : ∀ schemaId, listedIn member (after schemaId) target =
          containsKey (HasSchemasAndRegistries.schemas state registryId target) schemaId := by
        rw [kept, Option.filter_eq_none_iff] at found
        cases rowFound : rows.get? target with
        | none =>
            intro schemaId
            have nothing := exact target schemaId
            rw [at_of_get?_eq_none rowFound, eq_comm, keyDiff_eq_none_iff, ← listed] at nothing
            exact nothing.symm
        | some row =>
            have nothing := found row rowFound
            simp only [bne_iff_ne, ne_eq, Decidable.not_not, MultiTargetUpdate.kind_eq] at nothing
            exact presence_of_kind_none (rowExact row rowFound) nothing
      have same := untouched found
      simp only [targetRead, Prod.mk.injEq] at same
      obtain ⟨sameSchemas, sameRegistries⟩ := same
      refine ⟨fun schemaId => by rw [sameSchemas, unchanged], fun registryId' => ?_⟩
      rw [sameRegistries, sameSchemas]
      split
      · rename_i same
        subst same
        exact registered target
      · rfl
  | some update =>
      -- the target's kept row is applied to its schemas
      have stepped := computed update found
      obtain ⟨rowFound, -⟩ := Option.filter_eq_some_iff.mp ((kept target).symm.trans found)
      have applied := targetStep_schemas stepped
      rw [MultiTargetUpdate.applyUpdate_eq] at applied
      refine ⟨fun schemaId => ?_, targetStep_registries stepped (registered target)⟩
      change containsKey (targetRead registryId next target).1 schemaId = _
      rw [MultiTargetUpdate.containsKey_applyUpdate applied, rowExact update rowFound]
      exact presenceAfter_keyDiff _ _

/-- The kept rows of an exact diff, executed from a state whose index of this kind of target is
still the consistent one from before the call, bring that index in step with the new metadata. -/
theorem TargetsConsistent.indexed_of_executeTargets {member : TrustRegistrySchemaMetadata limits → Target → Bool}
    {rows updates : MultiSchemaIdUpdate Target} {registryId : TrustRegistryId}
    {after : TrustRegistrySchemaId → Option (TrustRegistrySchemaMetadata limits)} {state start next : State limits}
    (consistent : TargetsConsistent member state)
    (sameSchemas : ∀ target : Target, HasSchemasAndRegistries.schemas start registryId target =
      HasSchemasAndRegistries.schemas state registryId target)
    (sameRegistries : ∀ target : Target, HasSchemasAndRegistries.registries start target =
      HasSchemasAndRegistries.registries state target)
    (exact : ∀ (target : Target) schemaId, rows.at target schemaId =
      keyDiff (listedIn member (state.trustRegistrySchemasMetadata schemaId registryId) target)
        (listedIn member (after schemaId) target))
    (kept : ∀ target : Target, updates.get? target = (rows.get? target).filter fun update =>
      GetUpdateKind.kind update (HasSchemasAndRegistries.schemas state registryId target) != .none)
    (executed : executeTargets updates registryId start = .ok next) (target : Target) :
    (∀ schemaId, containsKey (HasSchemasAndRegistries.schemas next registryId target) schemaId =
      listedIn member (after schemaId) target) ∧
    ∀ registryId', containsKey (HasSchemasAndRegistries.registries next target) registryId' =
      if registryId' = registryId then !KeyValue.isEmpty (HasSchemasAndRegistries.schemas next registryId target)
      else containsKey (HasSchemasAndRegistries.registries state target) registryId' := by
  have listed : ∀ (target : Target) schemaId,
      containsKey (HasSchemasAndRegistries.schemas start registryId target) schemaId =
        listedIn member (state.trustRegistrySchemasMetadata schemaId registryId) target := by
    intro target schemaId
    rw [sameSchemas]
    exact consistent.schemas registryId target schemaId
  have registered : ∀ target : Target, containsKey (HasSchemasAndRegistries.registries start target) registryId =
      !KeyValue.isEmpty (HasSchemasAndRegistries.schemas start registryId target) := by
    intro target
    rw [sameRegistries, sameSchemas]
    exact consistent.registries target registryId
  have keptAtStart : ∀ target : Target, updates.get? target = (rows.get? target).filter fun update =>
      GetUpdateKind.kind update (HasSchemasAndRegistries.schemas start registryId target) != .none := by
    intro target
    rw [sameSchemas]
    exact kept target
  have indexed := executeTargets_indexed listed registered exact keptAtStart executed target
  rw [sameRegistries] at indexed
  exact indexed

omit [LinearOrder Target] [LawfulKeyValue Schemas TrustRegistrySchemaId Unit]
  [LawfulKeyValue Registries TrustRegistryId Unit] [LawfulSchemasAndRegistries limits Target Schemas Registries] in
/-- A kind of target's index is consistent after a call that brings it, in one registry,
in step with the new metadata, and leaves both as they were in every other registry. -/
theorem TargetsConsistent.of_indexed {member : TrustRegistrySchemaMetadata limits → Target → Bool}
    {registryId : TrustRegistryId} {state next : State limits} (consistent : TargetsConsistent member state)
    (listed : ∀ (target : Target) schemaId,
      containsKey (HasSchemasAndRegistries.schemas next registryId target) schemaId =
        listedIn member (next.trustRegistrySchemasMetadata schemaId registryId) target)
    (registered : ∀ (target : Target) registryId',
      containsKey (HasSchemasAndRegistries.registries next target) registryId' =
        if registryId' = registryId then !KeyValue.isEmpty (HasSchemasAndRegistries.schemas next registryId target)
        else containsKey (HasSchemasAndRegistries.registries state target) registryId')
    (schemasOther : ∀ registryId', registryId' ≠ registryId → ∀ target : Target,
      HasSchemasAndRegistries.schemas next registryId' target = HasSchemasAndRegistries.schemas state registryId' target)
    (metadataOther : ∀ schemaId registryId', registryId' ≠ registryId →
      next.trustRegistrySchemasMetadata schemaId registryId' = state.trustRegistrySchemasMetadata schemaId registryId') :
    TargetsConsistent member next where
  schemas registryId' target schemaId := by
    by_cases same : registryId' = registryId
    · subst same
      exact listed target schemaId
    · rw [schemasOther registryId' same, metadataOther schemaId registryId' same]
      exact consistent.schemas registryId' target schemaId
  registries target registryId' := by
    rw [registered target registryId']
    split
    · rename_i same
      subst same
      rfl
    · rename_i other
      rw [schemasOther registryId' other]
      exact consistent.registries target registryId'

end Targets

/-! ## The delegated issuers' counters -/

/-- Whether an issuer counts towards a delegated issuer's schema. -/
theorem State.memIndicator_delegators (state : State limits) (registryId : TrustRegistryId)
    (delegatedIssuer : Issuer) (schemaId : TrustRegistrySchemaId) (issuer : Issuer) :
    memIndicator (state.delegators registryId delegatedIssuer schemaId) issuer =
      if containsKey (state.trustRegistryIssuerConfigurations registryId issuer).delegated delegatedIssuer then
        ((containsKey (state.issuerSchemas registryId issuer) schemaId).toNat : ℤ)
      else 0 := by
  unfold memIndicator State.delegators
  simp only [Set.mem_ofPred_eq]
  by_cases delegates : containsKey (state.trustRegistryIssuerConfigurations registryId issuer).delegated
      delegatedIssuer = true <;>
    by_cases hasSchema : containsKey (state.issuerSchemas registryId issuer) schemaId = true <;>
    simp [delegates, hasSchema]

/-- A delegated issuer's counter stays the number of its delegators when it changes by
the change of membership of the issuers of a list, the only issuers whose membership
changes. -/
theorem delegatedCount_of_changed {state next : State limits} (consistent : IndexConsistent state)
    {registryId : TrustRegistryId} {delegatedIssuer : Issuer} {schemaId : TrustRegistrySchemaId}
    {changed : List Issuer} (distinct : changed.Nodup)
    (same : ∀ issuer ∉ changed, issuer ∈ next.delegators registryId delegatedIssuer schemaId ↔
      issuer ∈ state.delegators registryId delegatedIssuer schemaId)
    (counted : (next.delegatedCount registryId delegatedIssuer schemaId : ℤ) =
      state.delegatedCount registryId delegatedIssuer schemaId +
        (changed.map fun issuer => memIndicator (next.delegators registryId delegatedIssuer schemaId) issuer -
          memIndicator (state.delegators registryId delegatedIssuer schemaId) issuer).sum) :
    next.delegatedCount registryId delegatedIssuer schemaId =
      (next.delegators registryId delegatedIssuer schemaId).ncard := by
  have sized := ncard_eq_add_sum_of_eqOn (consistent.delegators_finite registryId delegatedIssuer schemaId)
    distinct same
  have before := consistent.delegatedCounts registryId delegatedIssuer schemaId
  omega

/-- A delegated issuer's counter that a call leaves as it was, over delegators it leaves as they
were, still counts them. -/
theorem delegatedCount_of_same {state next : State limits} (consistent : IndexConsistent state)
    {registryId : TrustRegistryId} {delegatedIssuer : Issuer} {schemaId : TrustRegistrySchemaId}
    (sameCounters : next.trustRegistryDelegatedIssuerSchemas registryId delegatedIssuer =
      state.trustRegistryDelegatedIssuerSchemas registryId delegatedIssuer)
    (sameDelegators : next.delegators registryId delegatedIssuer schemaId =
      state.delegators registryId delegatedIssuer schemaId) :
    next.delegatedCount registryId delegatedIssuer schemaId =
      (next.delegators registryId delegatedIssuer schemaId).ncard := by
  unfold State.delegatedCount
  rw [sameCounters, sameDelegators]
  exact consistent.delegatedCounts registryId delegatedIssuer schemaId

/-! ## `set_schemas_metadata` -/

/-- `set_schemas_metadata` keeps the indices consistent. -/
theorem setSchemasMetadata_indexConsistent {action : SetSchemasMetadata limits}
    {registryInfo : TrustRegistryInfo limits} {actor : ConvenerOrIssuerOrVerifier} {state next : State limits}
    (consistent : IndexConsistent state) (done : setSchemasMetadata_ action registryInfo actor state = .ok next) :
    IndexConsistent next := by
  obtain ⟨validated, passed, executed⟩ := Except.bind_eq_ok.mp done
  obtain ⟨diff, pass⟩ := SchemasUpdate.validateAndRecordDiff_spec passed
  replace executed := Except.mapError_eq_ok.mp executed
  obtain ⟨afterSchemas, afterIssuers, afterCounters, afterVerifiers, schemasDone, issuersDone, countersDone,
    verifiersDone, schemaIdsDone⟩ := ValidatedSchemasUpdate.execute_eq_ok executed
  -- each phase writes only its own part of the storage
  have schemasFrame := executeSchemas_frame schemasDone
  have issuersFrame := executeTargets_issuers_frame issuersDone
  have countersFrame := executeDelegatedIssuers_frame countersDone
  have verifiersFrame := executeTargets_verifiers_frame verifiersDone
  have schemaIdsFrame := executeSchemaIds_frame schemaIdsDone
  have nextEq : next = { state with
      trustRegistrySchemasMetadata := afterSchemas.trustRegistrySchemasMetadata
      trustRegistryIssuerSchemas := afterIssuers.trustRegistryIssuerSchemas
      issuersTrustRegistries := afterIssuers.issuersTrustRegistries
      trustRegistryDelegatedIssuerSchemas := afterCounters.trustRegistryDelegatedIssuerSchemas
      trustRegistryVerifierSchemas := afterVerifiers.trustRegistryVerifierSchemas
      verifiersTrustRegistries := afterVerifiers.verifiersTrustRegistries
      trustRegistriesStoredSchemas := next.trustRegistriesStoredSchemas } := by
    conv_lhs => rw [schemaIdsFrame, verifiersFrame, countersFrame, issuersFrame, schemasFrame]
  -- the diff is exact for the new metadata, and each kind of target's index follows it from
  -- the index before the call, which the phases before its own leave as it was
  have exact := executeSchemas_diffAt pass schemasDone
  have issuersIndexed := consistent.issuers.indexed_of_executeTargets
    (fun issuer => by rw [schemasFrame]; rfl) (fun issuer => by rw [schemasFrame]; rfl)
    (fun issuer schemaId => (exact schemaId).issuers issuer) pass.issuers issuersDone
  have verifiersIndexed := consistent.verifiers.indexed_of_executeTargets
    (fun verifier => by rw [countersFrame, issuersFrame, schemasFrame]; rfl)
    (fun verifier => by rw [countersFrame, issuersFrame, schemasFrame]; rfl)
    (fun verifier schemaId => (exact schemaId).verifiers verifier) pass.verifiers verifiersDone
  -- other registries keep their metadata and indices
  have metadataOther : ∀ schemaId registryId, registryId ≠ action.registryId →
      afterSchemas.trustRegistrySchemasMetadata schemaId registryId =
        state.trustRegistrySchemasMetadata schemaId registryId :=
    fun schemaId _ other => executeSchemas_other schemasDone schemaId other
  have issuersOther : ∀ registryId, registryId ≠ action.registryId → ∀ issuer : Issuer,
      HasSchemasAndRegistries.schemas afterIssuers registryId issuer =
        HasSchemasAndRegistries.schemas state registryId issuer := by
    intro registryId other issuer
    rw [executeTargets_other issuersDone other issuer, schemasFrame]
    rfl
  have verifiersOther : ∀ registryId, registryId ≠ action.registryId → ∀ verifier : Verifier,
      HasSchemasAndRegistries.schemas afterVerifiers registryId verifier =
        HasSchemasAndRegistries.schemas state registryId verifier := by
    intro registryId other verifier
    rw [executeTargets_other verifiersDone other verifier, countersFrame, issuersFrame, schemasFrame]
    rfl
  have storedBefore : afterVerifiers.trustRegistriesStoredSchemas = state.trustRegistriesStoredSchemas := by
    rw [verifiersFrame, countersFrame, issuersFrame, schemasFrame]
  rw [nextEq]
  refine ⟨fun registryId schemaId => ?_,
    consistent.issuers.of_indexed (fun issuer => (issuersIndexed issuer).1) (fun issuer => (issuersIndexed issuer).2)
      issuersOther metadataOther,
    consistent.verifiers.of_indexed (fun verifier => (verifiersIndexed verifier).1)
      (fun verifier => (verifiersIndexed verifier).2) verifiersOther metadataOther,
    fun registryId delegatedIssuer schemaId => ?_⟩
  · -- the registry's schemas change as the diff says
    show containsKey (next.trustRegistriesStoredSchemas registryId) schemaId =
      (afterSchemas.trustRegistrySchemasMetadata schemaId registryId).isSome
    rcases eq_or_ne registryId action.registryId with rfl | other
    · have contains := executeSchemaIds_contains schemaIdsDone schemaId
      rw [pass.schemaIds, (exact schemaId).schemas, storedBefore, consistent.storedSchemas,
        presenceAfter_keyDiff] at contains
      exact contains
    · rw [executeSchemaIds_other schemaIdsDone other, storedBefore, metadataOther schemaId registryId other]
      exact consistent.storedSchemas registryId schemaId
  · -- a delegated issuer's counters change by the change of its delegators
    have countersBefore : afterIssuers.trustRegistryDelegatedIssuerSchemas =
        state.trustRegistryDelegatedIssuerSchemas := by
      rw [issuersFrame, schemasFrame]
    rcases eq_or_ne registryId action.registryId with rfl | other
    · refine delegatedCount_of_changed consistent (SortedMap.keys_nodup validated.issuers.updates)
        (fun issuer unchanged => ?_) ?_
      · -- an issuer without a row keeps its schemas
        have absent : validated.issuers.get? issuer = none := get?_eq_none_of_not_mem_keys unchanged
        have same := congrArg Prod.fst ((executeTargets_at issuersDone issuer).1 absent)
        change _ ∧ containsKey (targetRead action.registryId afterIssuers issuer).1 schemaId ↔
          _ ∧ containsKey (HasSchemasAndRegistries.schemas state action.registryId issuer) schemaId
        rw [same, schemasFrame]
        rfl
      · have stepped := executeDelegatedIssuers_count countersDone delegatedIssuer schemaId
        rw [pass.delegatedIssuers delegatedIssuer schemaId] at stepped
        change (afterCounters.delegatedCount action.registryId delegatedIssuer schemaId : ℤ) = _
        rw [stepped, SortedMap.keys, List.map_map]
        unfold State.delegatedCount
        rw [countersBefore]
        congr 1
        apply congrArg List.sum
        apply List.map_congr_left
        rintro ⟨issuer, row⟩ mem
        -- the issuer's row is the exact change of its schemas
        have found : validated.issuers.get? issuer = some row :=
          Entries.lookup_eq_some_of_mem validated.issuers.updates.sorted mem
        rw [pass.issuers issuer, Option.filter_eq_some_iff] at found
        have rowExact : row.get? schemaId =
            keyDiff (containsKey (state.issuerSchemas action.registryId issuer) schemaId)
              (containsKey (afterIssuers.issuerSchemas action.registryId issuer) schemaId) := by
          rw [← at_of_get? found.1, (exact schemaId).issuers issuer]
          exact congrArg₂ keyDiff (consistent.issuers.schemas action.registryId issuer schemaId).symm
            ((issuersIndexed issuer).1 schemaId).symm
        simp only [Function.comp, State.memIndicator_delegators, rawAt_translateUpdate_keyDiff rowExact]
        change _ = (if containsKey (state.trustRegistryIssuerConfigurations action.registryId issuer).delegated
            delegatedIssuer then _ else _) - _
        split
        · rfl
        · simp
    · -- another registry keeps its counters and its delegators
      refine delegatedCount_of_same consistent ?_ ?_
      · show afterCounters.trustRegistryDelegatedIssuerSchemas registryId delegatedIssuer = _
        rw [executeDelegatedIssuers_other countersDone other, countersBefore]
      · ext issuer
        change _ ∧ containsKey (HasSchemasAndRegistries.schemas afterIssuers registryId issuer) schemaId ↔
          _ ∧ containsKey (HasSchemasAndRegistries.schemas state registryId issuer) schemaId
        rw [issuersOther registryId other issuer]

/-! ## `update_delegated_issuers` -/

/-- The counter update of the signer's schemas steps each schema the signer has, and no
other. -/
theorem rawAt_schemaIdsUpdate (issuerSchemaIds : IssuerSchemas limits) (update : IncOrDec)
    (schemaId : TrustRegistrySchemaId) :
    (schemaIdsUpdate issuerSchemaIds update).rawAt schemaId =
      if containsKey issuerSchemaIds schemaId then update.raw else 0 := by
  have distinct : (((keys issuerSchemaIds).map fun schemaId => (schemaId, update)).map Prod.fst).Nodup := by
    rw [List.map_map]
    exact (LawfulKeyValue.keys_nodup (V := Unit) issuerSchemaIds).map_on fun _ _ _ _ same => same
  unfold MultiTargetUpdate.rawAt schemaIdsUpdate MultiTargetUpdate.ofList
  rw [MultiTargetUpdate.get?, SortedMap.get?_ofList distinct, Entries.lookup_map_pair]
  simp only [LawfulKeyValue.mem_keys, containsKey]
  split
  · rename_i has
    simp [has]
  · rename_i missing
    simp [missing]

/-- The counter step of a delegated issuer's schema, when the signer starts or stops
delegating to it, is the change of the signer's membership among its delegators. -/
theorem rawAt_schemaIdsUpdate_keyDiff (issuerSchemaIds : IssuerSchemas limits) (before after : Bool)
    (schemaId : TrustRegistrySchemaId) :
    (((keyDiff before after).map IncOrDec.ofKeyUpdate).map fun update =>
        (schemaIdsUpdate issuerSchemaIds update).rawAt schemaId).getD 0 =
      (if after then ((containsKey issuerSchemaIds schemaId).toNat : ℤ) else 0) -
        if before then ((containsKey issuerSchemaIds schemaId).toNat : ℤ) else 0 := by
  simp only [rawAt_schemaIdsUpdate]
  cases before <;> cases after <;> cases containsKey issuerSchemaIds schemaId <;> rfl

/-- `update_delegated_issuers` keeps the indices consistent: the signer's schemas are
counted in the schemas of each issuer it starts to delegate to, and out of those of each
issuer it stops delegating to. -/
theorem updateDelegatedIssuers_indexConsistent {action : UpdateDelegatedIssuers limits} {issuer : Issuer}
    {state counted : State limits} {config : TrustRegistryIssuerConfiguration limits}
    (consistent : IndexConsistent state)
    (done : updateDelegatedIssuers_ action (state.trustRegistryIssuerConfigurations action.registryId issuer)
      issuer state = .ok (counted, config)) :
    IndexConsistent { counted with
      trustRegistryIssuerConfigurations :=
        update₂ counted.trustRegistryIssuerConfigurations action.registryId issuer config } := by
  unfold updateDelegatedIssuers_ at done
  dsimp only at done
  split at done
  · obtain ⟨-, -, rest⟩ := Except.bind_eq_ok.mp done
    obtain ⟨-, -, rest⟩ := Except.bind_eq_ok.mp rest
    obtain ⟨afterCounters, countersDone, rest⟩ := Except.bind_eq_ok.mp rest
    obtain ⟨delegated, applied, stored⟩ := Except.bind_eq_ok.mp rest
    obtain ⟨rfl, rfl⟩ := Prod.mk.inj (Except.pure_eq_ok.mp stored)
    obtain ⟨f, loop, unfolded⟩ :=
      applySchemaIdsUpdates_loop (state.issuerSchemas action.registryId issuer) action.registryId
    rw [unfolded] at countersDone
    replace countersDone := Except.mapError_eq_ok.mp countersDone
    have frame := loop.frame countersDone
    refine consistent.of_schemasIndexed_eq (by rw [frame]; rfl) fun registryId delegatedIssuer schemaId => ?_
    rw [frame]
    rcases eq_or_ne registryId action.registryId with rfl | other
    · refine delegatedCount_of_changed consistent (List.nodup_singleton issuer) (fun other unchanged => ?_) ?_
      · -- another issuer keeps its delegations and its schemas
        rw [List.mem_singleton] at unchanged
        simp [State.delegators, State.issuerSchemas, unchanged]
      · -- the signer's schemas are stepped at each delegated issuer it starts or stops delegating to
        have stepped := loop.count countersDone delegatedIssuer schemaId
        rw [get?_translateUpdate, SetOrModify.keysDiff_get? (Except.mapError_eq_ok.mp applied),
          rawAt_schemaIdsUpdate_keyDiff] at stepped
        rw [List.map_singleton, List.sum_singleton, State.memIndicator_delegators, State.memIndicator_delegators]
        change (afterCounters.delegatedCount action.registryId delegatedIssuer schemaId : ℤ) = _
        rw [stepped]
        simp only [update₂_apply, and_self, ite_true]
        rfl
    · -- another registry keeps its counters and its delegators
      refine delegatedCount_of_same consistent (loop.other countersDone other delegatedIssuer) ?_
      ext issuer'
      simp [State.delegators, State.issuerSchemas, other]
  · -- an issuer without schemas in the registry is refused
    obtain ⟨_, thrown, -⟩ := Except.bind_eq_ok.mp done
    cases thrown

/-! ## The other calls -/

/-- Setting the issuers' `suspended` flags leaves the indexed part of the storage as it was. -/
theorem setIssuersSuspended_indexed {registryId : TrustRegistryId} {issuers : SortedMap Issuer Unit}
    {suspended : Bool} {alreadySet : Error} {state next : State limits}
    (done : setIssuersSuspended registryId issuers suspended alreadySet state = .ok next) :
    next.indexed = state.indexed := by
  unfold setIssuersSuspended at done
  obtain ⟨_, -, stored⟩ := Except.bind_eq_ok.mp done
  rw [← Except.pure_eq_ok.mp stored]
  clear stored done
  -- each write of the loop changes one issuer's flag and keeps its delegations
  induction issuers.keys generalizing state with
  | nil => rfl
  | cons issuer rest restIndexed =>
      rw [List.foldl_cons, restIndexed]
      refine Prod.ext rfl (Prod.ext rfl (funext fun registryId' => funext fun issuer' => ?_))
      change (update₂ state.trustRegistryIssuerConfigurations registryId issuer _ registryId' issuer').delegated = _
      rw [update₂_apply]
      split
      · rename_i same
        obtain ⟨rfl, rfl⟩ := same
        rfl
      · rfl

/-- Every successful call keeps the indices consistent. -/
theorem dispatch_indexConsistent {call : Call limits} {state next : State limits}
    (consistent : IndexConsistent state) (done : dispatch call state = .ok next) : IndexConsistent next := by
  unfold dispatch at done
  cases call with
  | initOrUpdateTrustRegistry action signer =>
      -- only the registry's information and the convener's registries change
      dsimp only at done
      split at done
      · obtain ⟨-, -, rest⟩ := Except.bind_eq_ok.mp done
        obtain ⟨_, -, stored⟩ := Except.bind_eq_ok.mp rest
        obtain rfl := Except.pure_eq_ok.mp stored
        exact consistent.of_indexed_eq rfl
      · obtain ⟨_, -, stored⟩ := Except.bind_eq_ok.mp done
        obtain rfl := Except.pure_eq_ok.mp stored
        exact consistent.of_indexed_eq rfl
  | setSchemasMetadata action signer =>
      obtain ⟨-, -, rest⟩ := Except.bind_eq_ok.mp done
      obtain ⟨info, -, body⟩ := Except.bind_eq_ok.mp rest
      exact setSchemasMetadata_indexConsistent consistent (liftBody_eq_ok.mp body)
  | updateDelegatedIssuers action signer =>
      obtain ⟨⟨counted, config⟩, body, stored⟩ := Except.bind_eq_ok.mp done
      obtain rfl := Except.pure_eq_ok.mp stored
      exact updateDelegatedIssuers_indexConsistent consistent (liftBody_eq_ok.mp body)
  | suspendIssuers action signer =>
      obtain ⟨-, -, rest⟩ := Except.bind_eq_ok.mp done
      obtain ⟨info, -, rest⟩ := Except.bind_eq_ok.mp rest
      obtain ⟨-, -, body⟩ := Except.bind_eq_ok.mp rest
      exact consistent.of_indexed_eq (setIssuersSuspended_indexed (liftModule_eq_ok.mp body))
  | unsuspendIssuers action signer =>
      obtain ⟨-, -, rest⟩ := Except.bind_eq_ok.mp done
      obtain ⟨info, -, rest⟩ := Except.bind_eq_ok.mp rest
      obtain ⟨-, -, body⟩ := Except.bind_eq_ok.mp rest
      exact consistent.of_indexed_eq (setIssuersSuspended_indexed (liftModule_eq_ok.mp body))
  | changeParticipants action signers =>
      -- only the registry's participants change
      obtain ⟨-, -, rest⟩ := Except.bind_eq_ok.mp done
      obtain ⟨_, -, rest⟩ := Except.bind_eq_ok.mp rest
      obtain ⟨participants, -, stored⟩ := Except.bind_eq_ok.mp rest
      obtain rfl := Except.pure_eq_ok.mp stored
      exact consistent.of_indexed_eq rfl
  | setParticipantInformation action signers =>
      -- only the participant's information changes
      obtain ⟨_, -, rest⟩ := Except.bind_eq_ok.mp done
      obtain ⟨information, -, stored⟩ := Except.bind_eq_ok.mp rest
      obtain rfl := Except.pure_eq_ok.mp stored
      exact consistent.of_indexed_eq rfl

/-- Every reachable state has consistent indices. -/
theorem Reachable.indexConsistent {state : State limits} (reachable : Reachable state) : IndexConsistent state := by
  induction reachable with
  | refl => exact indexConsistent_empty
  | tail _ step consistent =>
      obtain ⟨call, done⟩ := step
      exact dispatch_indexConsistent consistent done

/-- From the empty storage, every run of successful calls leaves each index equal to what
it indexes: a registry's schemas are the schemas with metadata there, an issuer's (a
verifier's) schemas in a registry are those whose metadata lists it, an issuer's (a
verifier's) registries are those it has schemas in, and a delegated issuer's counter of a
schema is the number of issuers that delegate to it and have the schema. -/
theorem reachable_indices_agree {state : State limits} (reachable : Reachable state) :
    (∀ registryId schemaId, containsKey (state.trustRegistriesStoredSchemas registryId) schemaId =
      (state.trustRegistrySchemasMetadata schemaId registryId).isSome) ∧
    (∀ registryId issuer schemaId, containsKey (state.issuerSchemas registryId issuer) schemaId =
      (state.trustRegistrySchemasMetadata schemaId registryId).any fun metadata =>
        containsKey metadata.issuers issuer) ∧
    (∀ registryId verifier schemaId,
      containsKey (state.trustRegistryVerifierSchemas registryId verifier) schemaId =
        (state.trustRegistrySchemasMetadata schemaId registryId).any fun metadata =>
          containsKey metadata.verifiers verifier) ∧
    (∀ issuer registryId, containsKey (state.issuersTrustRegistries issuer) registryId =
      !isEmpty (state.issuerSchemas registryId issuer)) ∧
    (∀ verifier registryId, containsKey (state.verifiersTrustRegistries verifier) registryId =
      !isEmpty (state.trustRegistryVerifierSchemas registryId verifier)) ∧
    ∀ registryId delegatedIssuer schemaId,
      IncOrDec.count (get (state.trustRegistryDelegatedIssuerSchemas registryId delegatedIssuer) schemaId) =
        {issuer | containsKey (state.trustRegistryIssuerConfigurations registryId issuer).delegated
          delegatedIssuer ∧ containsKey (state.issuerSchemas registryId issuer) schemaId}.ncard := by
  have consistent := reachable.indexConsistent
  exact ⟨consistent.storedSchemas, consistent.issuers.schemas, consistent.verifiers.schemas,
    consistent.issuers.registries, consistent.verifiers.registries, consistent.delegatedCounts⟩

/-- The convener of registry `0` adds schema `1`, with issuer `1`. -/
def oneSchemaCalls : List (Call Limits.test) :=
  [.initOrUpdateTrustRegistry ⟨⟨0⟩, "registry", [], 0⟩ ⟨.did ⟨0⟩⟩,
    .setSchemasMetadata ⟨⟨0⟩, .modify (MultiTargetUpdate.ofList [(⟨1⟩, .add
      ⟨⟨(BoundedMap.ofSortedMap? (SortedMap.ofList [(⟨.did ⟨1⟩⟩, ∅)])).getD ∅⟩, ⟨∅⟩⟩)]), 0⟩ ⟨.did ⟨0⟩⟩]

theorem reachable_indices_agree_oneSchema :
    ∃ state : State Limits.test, runCalls oneSchemaCalls State.empty = .ok state ∧ Reachable state ∧
      ∀ registryId issuer schemaId, containsKey (state.issuerSchemas registryId issuer) schemaId =
        (state.trustRegistrySchemasMetadata schemaId registryId).any fun metadata =>
          containsKey metadata.issuers issuer := by
  obtain ⟨state, ran⟩ : ∃ state : State Limits.test, runCalls oneSchemaCalls State.empty = .ok state := ⟨_, rfl⟩
  have reachable : Reachable state := Reachable.runCalls .refl ran
  exact ⟨state, ran, reachable, (reachable_indices_agree reachable).2.1⟩

end DockSubstrate.TrustRegistry
