import DockSubstrate.TrustRegistry.Record
import DockSubstrate.Lib.Counting

/-!
# What the rest of the first pass keeps

After the schemas' updates, the first pass of `set_schemas_metadata` validates the rows
recorded for the issuers and for the verifiers, combines the counter updates of the
delegated issuers and validates them, and validates the registry's change of schemas.
Each validation loop keeps, key by key, the updates that do something to the stored
value, or fails (`validateTargets_get?`, `validateDelegatedIssuersUpdate_rawAt`); the
combination adds up, for every delegated issuer and schema, the counter steps of the
issuers that delegate to it (`combineDelegatedIssuersUpdate_rawAt`).
-/

namespace DockSubstrate.TrustRegistry

open DockSubstrate.Lib DockSubstrate.Util KeyValue MultiTargetUpdate

variable {limits : Limits}

/-! ## The rows of the issuers and of the verifiers -/

section Targets

variable {Target Schemas Registries : Type} [LinearOrder Target]
  [HasSchemasAndRegistries limits Target Schemas Registries]
  [KeyValue Schemas TrustRegistrySchemaId Unit] [KeyValue Registries TrustRegistryId Unit]
  [CanUpdateKeyed Convener Schemas TrustRegistrySchemaId]
  [CanUpdateKeyed IssuerOrVerifier Schemas TrustRegistrySchemaId]
  [CanUpdateKeyed Convener Registries TrustRegistryId]
  [CanUpdateKeyed IssuerOrVerifier Registries TrustRegistryId]

/-- The validation of the targets' rows keeps the rows that change the target's schemas. -/
theorem validateTargets_get? {self result : MultiSchemaIdUpdate Target} {actor : ConvenerOrIssuerOrVerifier}
    {registryId : TrustRegistryId} {registryInfo : TrustRegistryInfo limits} {state : State limits}
    {allowed : List Target} (validated : validateTargets self actor registryId registryInfo state allowed = .ok result)
    (target : Target) :
    result.get? target = (self.get? target).filter fun update =>
      GetUpdateKind.kind update (HasSchemasAndRegistries.schemas state registryId target) != .none := by
  unfold validateTargets at validated
  refine get?_of_foldlM_keep (fun target update =>
    GetUpdateKind.kind update (HasSchemasAndRegistries.schemas state registryId target) != .none) ?_ validated target
  rintro acc ⟨target, update⟩ acc' stepped
  dsimp only at stepped ⊢
  obtain ⟨-, -, decided⟩ := Except.bind_eq_ok.mp stepped
  split at decided
  · rename_i nothing
    obtain rfl := Except.pure_eq_ok.mp decided
    rw [nothing]
    rfl
  · -- a row that does something is kept, unless one of the checks fails
    rename_i does
    rw [if_pos (bne_iff_ne.mpr does)]
    split at decided
    · obtain ⟨_, thrown, -⟩ := Except.bind_eq_ok.mp decided
      cases thrown
    · split at decided
      · obtain ⟨_, -, stored⟩ := Except.bind_eq_ok.mp decided
        exact (Except.pure_eq_ok.mp stored).symm
      · exact (Except.pure_eq_ok.mp decided).symm

end Targets

/-! ## The counters of the delegated issuers -/

/-- The combined counter updates add, at each delegated issuer's schema, the counter
steps of the update of every issuer that delegates to it. -/
theorem combineDelegatedIssuersUpdate_rawAt {issuersUpdate : MultiSchemaIdUpdate Issuer}
    {registryId : TrustRegistryId} {state : State limits}
    {combined : MultiTargetUpdate Issuer (SchemaIdUpdate IncOrDec)}
    (run : combineDelegatedIssuersUpdate issuersUpdate registryId state = .ok combined)
    (delegatedIssuer : Issuer) (schemaId : TrustRegistrySchemaId) :
    ((combined.get? delegatedIssuer).map fun update => update.rawAt schemaId).getD 0 =
      (issuersUpdate.updates.entries.map fun entry =>
        if containsKey (state.trustRegistryIssuerConfigurations registryId entry.1).delegated delegatedIssuer then
          (TranslateUpdate.translateUpdate entry.2 : SchemaIdUpdate IncOrDec).rawAt schemaId
        else 0).sum := by
  -- the amount at the delegated issuer's schema of the updates combined so far
  let amount := fun (acc : MultiTargetUpdate Issuer (SchemaIdUpdate IncOrDec)) =>
    ((acc.get? delegatedIssuer).map fun update => update.rawAt schemaId).getD 0
  unfold combineDelegatedIssuersUpdate at run
  have total := Except.foldlM_sum amount (fun entry =>
      if containsKey (state.trustRegistryIssuerConfigurations registryId entry.1).delegated delegatedIssuer then
        (TranslateUpdate.translateUpdate entry.2 : SchemaIdUpdate IncOrDec).rawAt schemaId
      else 0) ?perIssuer run
  · simpa [amount] using total
  case perIssuer =>
    rintro acc ⟨issuer, updates⟩ acc' - delegatedRun
    -- the issuer's counter steps are combined into the update of each issuer it delegates to
    have perDelegated := Except.foldlM_sum amount
      (fun other => if other = delegatedIssuer then
        (TranslateUpdate.translateUpdate updates : SchemaIdUpdate IncOrDec).rawAt schemaId else 0)
      ?perDelegated delegatedRun
    · rw [perDelegated, sum_map_ite_eq_of_nodup (LawfulKeyValue.keys_nodup _)]
      simp only [LawfulKeyValue.mem_keys, containsKey]
      congr
    case perDelegated =>
      rintro acc other acc' - stepped
      obtain ⟨step, combinedOk, stored⟩ := Except.bind_eq_ok.mp stepped
      obtain rfl := Except.pure_eq_ok.mp stored
      have added := rawAt_combine (Except.mapError_eq_ok.mp combinedOk) schemaId
      by_cases same : other = delegatedIssuer
      · subst same
        simp only [amount, get?_insert, if_pos, Option.map_some, Option.getD_some, added]
        cases acc.get? other <;> simp
      · simp [amount, get?_insert, Ne.symm same, same]

/-- The validation of the combined counter updates drops only updates that add nothing. -/
theorem validateDelegatedIssuersUpdate_rawAt {combined result : MultiTargetUpdate Issuer (SchemaIdUpdate IncOrDec)}
    {actor : ConvenerOrIssuerOrVerifier} {registryId : TrustRegistryId} {registryInfo : TrustRegistryInfo limits}
    {state : State limits}
    (validated : validateDelegatedIssuersUpdate combined actor registryId registryInfo state = .ok result)
    (delegatedIssuer : Issuer) (schemaId : TrustRegistrySchemaId) :
    ((result.get? delegatedIssuer).map fun update => update.rawAt schemaId).getD 0 =
      ((combined.get? delegatedIssuer).map fun update => update.rawAt schemaId).getD 0 := by
  unfold validateDelegatedIssuersUpdate at validated
  have kept := get?_of_foldlM_keep (fun delegatedIssuer update => GetUpdateKind.kind update
      (state.trustRegistryDelegatedIssuerSchemas registryId delegatedIssuer) != .none) ?keep validated delegatedIssuer
  · rw [kept]
    cases combined.get? delegatedIssuer with
    | none => rfl
    | some update =>
        rw [Option.filter_some]
        split
        · rfl
        · rename_i nothing
          simp only [bne_iff_ne, ne_eq, Decidable.not_not] at nothing
          simp [rawAt_eq_zero_of_kind_none nothing]
  case keep =>
    rintro acc ⟨delegatedIssuer, update⟩ acc' stepped
    obtain ⟨-, -, decided⟩ := Except.bind_eq_ok.mp stepped
    dsimp only at decided ⊢
    split at decided
    · rename_i nothing
      obtain rfl := Except.pure_eq_ok.mp decided
      rw [nothing]
      rfl
    · rename_i does
      obtain rfl := Except.pure_eq_ok.mp decided
      rw [if_pos (bne_iff_ne.mpr does)]

/-! ## The registry's schemas -/

/-- The validation of the registry's change of schemas returns the change as it is. -/
theorem validateSchemaIds_eq {self result : SchemaIdUpdate} {actor : ConvenerOrIssuerOrVerifier}
    {registryId : TrustRegistryId} {registryInfo : TrustRegistryInfo limits} {state : State limits}
    (validated : validateSchemaIds self actor registryId registryInfo state = .ok result) : result = self := by
  unfold validateSchemaIds at validated
  dsimp only at validated
  split at validated
  · exact (Except.pure_eq_ok.mp validated).symm
  · obtain ⟨-, -, stored⟩ := Except.bind_eq_ok.mp validated
    exact (Except.pure_eq_ok.mp stored).symm

end DockSubstrate.TrustRegistry
