import DockSubstrate.TrustRegistry.Index
import DockSubstrate.Util.BatchUpdate.Loops

/-!
# What the execution of a schema metadata update writes

Each phase of `ValidatedSchemasUpdate.execute` is an execution loop
(`MultiTargetUpdate.StepWrites`) over one part of the storage: the schemas' metadata of
the registry, the schemas and registries of each issuer or verifier, and the counters of
each delegated issuer.  The last phase updates the registry's set of schemas once.  For
each phase this module states what it computes at every key and that it writes nothing
else (its frame).
-/

namespace DockSubstrate.TrustRegistry

open DockSubstrate.Lib DockSubstrate.Util KeyValue MultiTargetUpdate

variable {limits : Limits}

/-! ## The schemas' metadata -/

/-- The metadata of the registry's schemas, read and written by schema. -/
theorem metadataWrites (registryId : TrustRegistryId) :
    KeyedWrites (fun (state : State limits) schemaId => state.trustRegistrySchemasMetadata schemaId registryId)
      (fun state schemaId metadata => { state with
        trustRegistrySchemasMetadata := update₂ state.trustRegistrySchemasMetadata schemaId registryId metadata })
    where
  read_write_self _ _ _ := by simp
  read_write_of_ne _ _ _ _ different := by simp [different]

/-- What the execution of one schema's update leaves as its metadata: the metadata as it
was when the update does nothing, the applied update otherwise. -/
def schemaStep (update : SchemaMetadataModification limits)
    (metadata : Option (TrustRegistrySchemaMetadata limits)) :
    Except Panic (Option (TrustRegistrySchemaMetadata limits)) :=
  if GetUpdateKind.kind update metadata = .none then .ok metadata else ApplyUpdate.applyUpdate update metadata

/-- `executeSchemas` is an execution loop over the registry's schemas. -/
theorem executeSchemas_loop (registryId : TrustRegistryId) :
    ∃ f, StepWrites (fun (state : State limits) schemaId => state.trustRegistrySchemasMetadata schemaId registryId)
        (fun state schemaId metadata => { state with
          trustRegistrySchemasMetadata := update₂ state.trustRegistrySchemasMetadata schemaId registryId metadata })
        (fun _ => schemaStep) f ∧
      ∀ updates state, executeSchemas updates registryId state = updates.updates.entries.foldlM f state := by
  refine ⟨_, ?_, fun _ _ => rfl⟩
  intro state ⟨schemaId, update⟩ next stepped
  simp only at stepped
  split at stepped
  · -- an update that does nothing writes nothing
    rename_i nothing
    obtain rfl := Except.pure_eq_ok.mp stepped
    refine ⟨state.trustRegistrySchemasMetadata schemaId registryId, by simp [schemaStep, nothing], ?_⟩
    simp
  · rename_i does
    obtain ⟨metadata, applied, written⟩ := Except.bind_eq_ok.mp stepped
    refine ⟨metadata, ?_, (Except.pure_eq_ok.mp written).symm⟩
    change schemaStep update _ = _
    rw [schemaStep, if_neg does]
    exact applied

section Schemas

variable {updates : SchemaIdUpdate (SchemaMetadataModification limits)} {registryId : TrustRegistryId}
  {state next : State limits}

/-- The execution of the schemas' updates writes only their metadata. -/
theorem executeSchemas_frame (executed : executeSchemas updates registryId state = .ok next) :
    next = { state with trustRegistrySchemasMetadata := next.trustRegistrySchemasMetadata } := by
  obtain ⟨f, writes, unfolded⟩ := @executeSchemas_loop limits registryId
  rw [unfolded] at executed
  have same := foldlM_writes_frame writes
    (fun current => { current with trustRegistrySchemasMetadata := state.trustRegistrySchemasMetadata })
    (fun _ _ _ => rfl) executed
  calc next = { (({ next with trustRegistrySchemasMetadata := state.trustRegistrySchemasMetadata }) : State limits)
        with trustRegistrySchemasMetadata := next.trustRegistrySchemasMetadata } := rfl
    _ = { state with trustRegistrySchemasMetadata := next.trustRegistrySchemasMetadata } := by rw [same]

/-- The execution of the schemas' updates leaves every schema of another registry as it was. -/
theorem executeSchemas_other (executed : executeSchemas updates registryId state = .ok next)
    (schemaId : TrustRegistrySchemaId) {registryId' : TrustRegistryId} (other : registryId' ≠ registryId) :
    next.trustRegistrySchemasMetadata schemaId registryId' =
      state.trustRegistrySchemasMetadata schemaId registryId' := by
  obtain ⟨f, writes, unfolded⟩ := @executeSchemas_loop limits registryId
  rw [unfolded] at executed
  have same := foldlM_writes_frame writes
    (fun current => fun schemaId => current.trustRegistrySchemasMetadata schemaId registryId')
    (fun _ _ _ => by funext; simp [other]) executed
  exact congrFun same schemaId

/-- The execution of the schemas' updates leaves, at each schema of the registry, what its
update computes from the schema's metadata before, and the metadata of every schema
without an update as it was. -/
theorem executeSchemas_at (executed : executeSchemas updates registryId state = .ok next)
    (schemaId : TrustRegistrySchemaId) :
    (updates.get? schemaId = none →
      next.trustRegistrySchemasMetadata schemaId registryId = state.trustRegistrySchemasMetadata schemaId registryId) ∧
    ∀ update, updates.get? schemaId = some update →
      schemaStep update (state.trustRegistrySchemasMetadata schemaId registryId) =
        .ok (next.trustRegistrySchemasMetadata schemaId registryId) := by
  obtain ⟨f, writes, unfolded⟩ := @executeSchemas_loop limits registryId
  rw [unfolded] at executed
  exact foldlM_writes (metadataWrites registryId) writes executed schemaId

end Schemas

/-! ## The schemas and registries of the issuers or of the verifiers -/

section Targets

variable {Target Schemas Registries : Type} [LinearOrder Target]
  [HasSchemasAndRegistries limits Target Schemas Registries]
  [KeyValue Schemas TrustRegistrySchemaId Unit] [KeyValue Registries TrustRegistryId Unit]

/-- A target's schemas in the registry and its registries, read together. -/
def targetRead (registryId : TrustRegistryId) (state : State limits) (target : Target) : Schemas × Registries :=
  (HasSchemasAndRegistries.schemas state registryId target, HasSchemasAndRegistries.registries state target)

/-- Write a target's schemas in the registry and its registries. -/
def targetWrite (registryId : TrustRegistryId) (state : State limits) (target : Target)
    (value : Schemas × Registries) : State limits :=
  HasSchemasAndRegistries.setSchemas (HasSchemasAndRegistries.setRegistries state target value.2) registryId
    target value.1

/-- The change of a target's registries when its schemas in the registry go from `before`
to `after`: `Add` of the registry when it had no schemas there, `Remove` of it when it
has none after. -/
def registriesUpdate (registryId : TrustRegistryId) (before after : Schemas) : RegistryIdUpdate :=
  let regsUpdate : RegistryIdUpdate :=
    if isEmpty before then (∅ : RegistryIdUpdate).insert registryId (.add ()) else ∅
  if isEmpty after then regsUpdate.insert registryId .remove else regsUpdate

/-- Apply a change of a target's registries, unless there is none. -/
def applyRegistries (update : RegistryIdUpdate) (registries : Registries) : Except Panic Registries :=
  if update.isEmpty then .ok registries else ApplyUpdate.applyUpdate update registries

/-- What the execution of one target's update computes: its schemas with the update
applied, and its registries changed as `registriesUpdate` says. -/
def targetStep (registryId : TrustRegistryId) (update : SchemaIdUpdate) (current : Schemas × Registries) :
    Except Panic (Schemas × Registries) := do
  let schemas ← ApplyUpdate.applyUpdate update current.1
  let registries ← applyRegistries (registriesUpdate registryId current.1 schemas) current.2
  pure (schemas, registries)

variable [LawfulSchemasAndRegistries limits Target Schemas Registries]

omit [KeyValue Schemas TrustRegistrySchemaId Unit] [KeyValue Registries TrustRegistryId Unit] in
theorem targetWrites (registryId : TrustRegistryId) :
    KeyedWrites (targetRead registryId : State limits → Target → Schemas × Registries) (targetWrite registryId) where
  read_write_self state target value := by
    simp [targetRead, targetWrite, LawfulSchemasAndRegistries.schemas_setSchemas,
      LawfulSchemasAndRegistries.registries_setSchemas, LawfulSchemasAndRegistries.registries_setRegistries]
  read_write_of_ne state target value other different := by
    simp [targetRead, targetWrite, LawfulSchemasAndRegistries.schemas_setSchemas,
      LawfulSchemasAndRegistries.registries_setSchemas, LawfulSchemasAndRegistries.registries_setRegistries,
      LawfulSchemasAndRegistries.schemas_setRegistries, different]

/-- `executeTargets` is an execution loop over the targets. -/
theorem executeTargets_loop (registryId : TrustRegistryId) :
    ∃ f, StepWrites (targetRead registryId : State limits → Target → Schemas × Registries) (targetWrite registryId)
        (fun _ => targetStep registryId) f ∧
      ∀ (updates : MultiSchemaIdUpdate Target) state,
        executeTargets updates registryId state = updates.updates.entries.foldlM f state := by
  refine ⟨_, ?_, fun _ _ => rfl⟩
  intro state ⟨target, update⟩ next stepped
  simp only at stepped
  obtain ⟨schemas, applied, rest⟩ := Except.bind_eq_ok.mp stepped
  -- the registries update depends on whether the schemas are empty before and after
  cases emptyBefore : isEmpty (HasSchemasAndRegistries.schemas state registryId target) <;>
    cases emptyAfter : isEmpty schemas <;>
    simp only [emptyBefore, emptyAfter, Bool.false_eq_true, ↓reduceIte, isEmpty_insert, isEmpty_empty,
      pure_bind] at rest
  · -- the target had schemas and still has some: its registries stay as they were
    obtain rfl := Except.pure_eq_ok.mp rest
    refine ⟨(schemas, HasSchemasAndRegistries.registries state target), ?_, ?_⟩
    · simp [targetStep, targetRead, applyRegistries, registriesUpdate, applied, emptyBefore, emptyAfter]
    · simp [targetWrite, LawfulSchemasAndRegistries.setRegistries_registries]
  all_goals
    obtain ⟨registries, registriesApplied, stored⟩ := Except.bind_eq_ok.mp rest
    obtain rfl := Except.pure_eq_ok.mp stored
    refine ⟨(schemas, registries), ?_, rfl⟩
    rw [MultiTargetUpdate.applyUpdate_eq] at registriesApplied
    simp [targetStep, targetRead, applyRegistries, registriesUpdate, applied, emptyBefore, emptyAfter,
      registriesApplied]

section Effects

variable {updates : MultiSchemaIdUpdate Target} {registryId : TrustRegistryId} {state next : State limits}

/-- The execution of the targets' updates changes nothing that the writes of a target's
schemas and registries leave as it was. -/
theorem executeTargets_frame (executed : executeTargets updates registryId state = .ok next) {X : Type}
    (observe : State limits → X)
    (keptSchemas : ∀ (state : State limits) (target : Target) (schemas : Schemas),
      observe (HasSchemasAndRegistries.setSchemas state registryId target schemas) = observe state)
    (keptRegistries : ∀ (state : State limits) (target : Target) (registries : Registries),
      observe (HasSchemasAndRegistries.setRegistries state target registries) = observe state) :
    observe next = observe state := by
  obtain ⟨f, writes, unfolded⟩ := @executeTargets_loop limits Target Schemas Registries _ _ _ _ _ registryId
  rw [unfolded] at executed
  exact foldlM_writes_frame writes observe
    (fun current target value => by simp [targetWrite, keptSchemas, keptRegistries]) executed

/-- The execution of the targets' updates leaves the targets' schemas in other registries
as they were. -/
theorem executeTargets_other (executed : executeTargets updates registryId state = .ok next)
    {registryId' : TrustRegistryId} (other : registryId' ≠ registryId) (target : Target) :
    HasSchemasAndRegistries.schemas next registryId' target =
      HasSchemasAndRegistries.schemas state registryId' target := by
  have same := executeTargets_frame executed
    (fun current => fun target => (HasSchemasAndRegistries.schemas current registryId' target : Schemas))
    (fun current target schemas => by
      funext target'
      rw [LawfulSchemasAndRegistries.schemas_setSchemas, if_neg (fun same => other same.1)])
    (fun current target registries => by rw [LawfulSchemasAndRegistries.schemas_setRegistries])
  exact congrFun same target

/-- The execution of the targets' updates leaves, for each target, what `targetStep`
computes from its schemas and registries before, and every other target as it was. -/
theorem executeTargets_at (executed : executeTargets updates registryId state = .ok next) (target : Target) :
    (updates.get? target = none → targetRead registryId next target = targetRead registryId state target) ∧
    ∀ update, updates.get? target = some update →
      targetStep registryId update (targetRead registryId state target) = .ok (targetRead registryId next target) := by
  obtain ⟨f, writes, unfolded⟩ := @executeTargets_loop limits Target Schemas Registries _ _ _ _ _ registryId
  rw [unfolded] at executed
  exact foldlM_writes (targetWrites registryId) writes executed target

end Effects

/-- One target's step applies its update to its schemas. -/
theorem targetStep_schemas {registryId : TrustRegistryId} {update : SchemaIdUpdate}
    {current result : Schemas × Registries} (stepped : targetStep registryId update current = .ok result) :
    ApplyUpdate.applyUpdate update current.1 = .ok result.1 := by
  obtain ⟨schemas, applied, rest⟩ := Except.bind_eq_ok.mp stepped
  obtain ⟨registries, -, stored⟩ := Except.bind_eq_ok.mp rest
  obtain rfl := Except.pure_eq_ok.mp stored
  exact applied

/-- One target's step keeps the target's registries in step with its schemas: where the
registry was listed exactly when the target had schemas there, it is listed after exactly
when the target still has some. -/
theorem targetStep_registries [LawfulKeyValue Registries TrustRegistryId Unit] {registryId : TrustRegistryId}
    {update : SchemaIdUpdate} {current result : Schemas × Registries}
    (stepped : targetStep registryId update current = .ok result)
    (indexed : containsKey current.2 registryId = !isEmpty current.1) (registryId' : TrustRegistryId) :
    containsKey result.2 registryId' =
      if registryId' = registryId then !isEmpty result.1 else containsKey current.2 registryId' := by
  obtain ⟨schemas, -, rest⟩ := Except.bind_eq_ok.mp stepped
  obtain ⟨registries, registered, stored⟩ := Except.bind_eq_ok.mp rest
  obtain rfl := Except.pure_eq_ok.mp stored
  -- the registries update is `Add` of the registry, `Remove` of it, or nothing
  unfold applyRegistries registriesUpdate at registered
  cases emptyBefore : isEmpty current.1 <;> cases emptyAfter : isEmpty schemas <;>
    simp only [emptyBefore, emptyAfter, Bool.false_eq_true, ↓reduceIte, isEmpty_insert, isEmpty_empty]
      at registered
  · obtain rfl := Except.ok.inj registered
    split
    · rename_i same
      subst same
      simp [indexed, emptyBefore]
    · rfl
  all_goals
    rw [MultiTargetUpdate.applyUpdate_eq] at registered
    rw [MultiTargetUpdate.containsKey_applyUpdate registered]
    split
    · rename_i same
      subst same
      simp [presenceAfter]
    · rename_i other
      simp [other]

end Targets

/-- The execution of the issuers' rows writes only the issuers' schemas and registries. -/
theorem executeTargets_issuers_frame {updates : MultiSchemaIdUpdate Issuer} {registryId : TrustRegistryId}
    {state next : State limits} (executed : executeTargets updates registryId state = .ok next) :
    next = { state with
      trustRegistryIssuerSchemas := next.trustRegistryIssuerSchemas
      issuersTrustRegistries := next.issuersTrustRegistries } := by
  have same := executeTargets_frame executed
    (fun current => { current with
      trustRegistryIssuerSchemas := state.trustRegistryIssuerSchemas
      issuersTrustRegistries := state.issuersTrustRegistries })
    (fun _ _ _ => rfl) (fun _ _ _ => rfl)
  calc next = { (({ next with
          trustRegistryIssuerSchemas := state.trustRegistryIssuerSchemas
          issuersTrustRegistries := state.issuersTrustRegistries }) : State limits) with
        trustRegistryIssuerSchemas := next.trustRegistryIssuerSchemas
        issuersTrustRegistries := next.issuersTrustRegistries } := rfl
    _ = _ := by rw [same]

/-- The execution of the verifiers' rows writes only the verifiers' schemas and registries. -/
theorem executeTargets_verifiers_frame {updates : MultiSchemaIdUpdate Verifier} {registryId : TrustRegistryId}
    {state next : State limits} (executed : executeTargets updates registryId state = .ok next) :
    next = { state with
      trustRegistryVerifierSchemas := next.trustRegistryVerifierSchemas
      verifiersTrustRegistries := next.verifiersTrustRegistries } := by
  have same := executeTargets_frame executed
    (fun current => { current with
      trustRegistryVerifierSchemas := state.trustRegistryVerifierSchemas
      verifiersTrustRegistries := state.verifiersTrustRegistries })
    (fun _ _ _ => rfl) (fun _ _ _ => rfl)
  calc next = { (({ next with
          trustRegistryVerifierSchemas := state.trustRegistryVerifierSchemas
          verifiersTrustRegistries := state.verifiersTrustRegistries }) : State limits) with
        trustRegistryVerifierSchemas := next.trustRegistryVerifierSchemas
        verifiersTrustRegistries := next.verifiersTrustRegistries } := rfl
    _ = _ := by rw [same]

/-! ## The counters of the delegated issuers -/

/-- The counters of the registry's delegated issuers, read and written by delegated issuer. -/
theorem countersWrites (registryId : TrustRegistryId) :
    KeyedWrites (fun (state : State limits) delegatedIssuer =>
        state.trustRegistryDelegatedIssuerSchemas registryId delegatedIssuer)
      (fun state delegatedIssuer schemas => { state with
        trustRegistryDelegatedIssuerSchemas :=
          update₂ state.trustRegistryDelegatedIssuerSchemas registryId delegatedIssuer schemas }) where
  read_write_self _ _ _ := by simp
  read_write_of_ne _ _ _ _ different := by simp [different]

/-- A loop that applies, to the counters of each delegated issuer of the registry, the
counter update `toCounters` makes of the issuer's entry. -/
def CountersLoop {U : Type} (registryId : TrustRegistryId) (toCounters : U → SchemaIdUpdate IncOrDec)
    (f : State limits → Issuer × U → Except Panic (State limits)) : Prop :=
  StepWrites (fun (state : State limits) delegatedIssuer =>
      state.trustRegistryDelegatedIssuerSchemas registryId delegatedIssuer)
    (fun state delegatedIssuer schemas => { state with
      trustRegistryDelegatedIssuerSchemas :=
        update₂ state.trustRegistryDelegatedIssuerSchemas registryId delegatedIssuer schemas })
    (fun _ update schemas => ApplyUpdate.applyUpdate (toCounters update) schemas) f

section CountersLoop

variable {U : Type} {registryId : TrustRegistryId} {toCounters : U → SchemaIdUpdate IncOrDec}
  {f : State limits → Issuer × U → Except Panic (State limits)} {updates : MultiTargetUpdate Issuer U}
  {state next : State limits}

/-- A counters loop writes only counters. -/
theorem CountersLoop.frame (loop : CountersLoop registryId toCounters f)
    (run : updates.updates.entries.foldlM f state = .ok next) :
    next = { state with trustRegistryDelegatedIssuerSchemas := next.trustRegistryDelegatedIssuerSchemas } := by
  have same := foldlM_writes_frame loop
    (fun current => { current with
      trustRegistryDelegatedIssuerSchemas := state.trustRegistryDelegatedIssuerSchemas })
    (fun _ _ _ => rfl) run
  calc next = { (({ next with trustRegistryDelegatedIssuerSchemas := state.trustRegistryDelegatedIssuerSchemas }) :
        State limits) with trustRegistryDelegatedIssuerSchemas := next.trustRegistryDelegatedIssuerSchemas } := rfl
    _ = { state with trustRegistryDelegatedIssuerSchemas := next.trustRegistryDelegatedIssuerSchemas } := by
      rw [same]

/-- A counters loop leaves the counters of other registries as they were. -/
theorem CountersLoop.other (loop : CountersLoop registryId toCounters f)
    (run : updates.updates.entries.foldlM f state = .ok next) {registryId' : TrustRegistryId}
    (other : registryId' ≠ registryId) (delegatedIssuer : Issuer) :
    next.trustRegistryDelegatedIssuerSchemas registryId' delegatedIssuer =
      state.trustRegistryDelegatedIssuerSchemas registryId' delegatedIssuer := by
  have same := foldlM_writes_frame loop
    (fun current => current.trustRegistryDelegatedIssuerSchemas registryId')
    (fun _ _ _ => by funext; simp [other]) run
  exact congrFun same delegatedIssuer

/-- A counters loop adds to each counter of the registry the amount the update of its
delegated issuer holds for it. -/
theorem CountersLoop.count (loop : CountersLoop registryId toCounters f)
    (run : updates.updates.entries.foldlM f state = .ok next) (delegatedIssuer : Issuer)
    (schemaId : TrustRegistrySchemaId) :
    (next.delegatedCount registryId delegatedIssuer schemaId : ℤ) =
      state.delegatedCount registryId delegatedIssuer schemaId +
        ((updates.get? delegatedIssuer).map fun update => (toCounters update).rawAt schemaId).getD 0 := by
  obtain ⟨untouched, computed⟩ := foldlM_writes (countersWrites registryId) loop run delegatedIssuer
  unfold State.delegatedCount
  cases found : updates.get? delegatedIssuer with
  | none => simp [untouched found]
  | some update =>
      have applied := computed update found
      rw [MultiTargetUpdate.applyUpdate_eq] at applied
      simpa using MultiTargetUpdate.count_applyUpdate applied schemaId

end CountersLoop

/-- `executeDelegatedIssuers` is a counters loop. -/
theorem executeDelegatedIssuers_loop (registryId : TrustRegistryId) :
    ∃ f, CountersLoop registryId (fun update : SchemaIdUpdate IncOrDec => update) f ∧
      ∀ updates (state : State limits),
        executeDelegatedIssuers updates registryId state = updates.updates.entries.foldlM f state := by
  refine ⟨_, ?_, fun _ _ => rfl⟩
  intro state ⟨delegatedIssuer, update⟩ next stepped
  obtain ⟨schemas, applied, written⟩ := Except.bind_eq_ok.mp stepped
  exact ⟨schemas, applied, (Except.pure_eq_ok.mp written).symm⟩

/-- `applySchemaIdsUpdates` is a counters loop. -/
theorem applySchemaIdsUpdates_loop (issuerSchemaIds : IssuerSchemas limits) (registryId : TrustRegistryId) :
    ∃ f, CountersLoop registryId (schemaIdsUpdate issuerSchemaIds) f ∧
      ∀ issuersDiff (state : State limits),
        applySchemaIdsUpdates issuersDiff issuerSchemaIds registryId state =
          issuersDiff.updates.entries.foldlM f state := by
  refine ⟨_, ?_, fun _ _ => rfl⟩
  intro state ⟨delegatedIssuer, update⟩ next stepped
  obtain ⟨schemas, applied, written⟩ := Except.bind_eq_ok.mp stepped
  exact ⟨schemas, applied, (Except.pure_eq_ok.mp written).symm⟩

section Counters

variable {updates : MultiTargetUpdate Issuer (SchemaIdUpdate IncOrDec)} {registryId : TrustRegistryId}
  {state next : State limits}

/-- The execution of the counter updates writes only counters. -/
theorem executeDelegatedIssuers_frame (executed : executeDelegatedIssuers updates registryId state = .ok next) :
    next = { state with trustRegistryDelegatedIssuerSchemas := next.trustRegistryDelegatedIssuerSchemas } := by
  obtain ⟨f, loop, unfolded⟩ := @executeDelegatedIssuers_loop limits registryId
  rw [unfolded] at executed
  exact loop.frame executed

/-- The execution of the counter updates leaves the counters of other registries as they were. -/
theorem executeDelegatedIssuers_other (executed : executeDelegatedIssuers updates registryId state = .ok next)
    {registryId' : TrustRegistryId} (other : registryId' ≠ registryId) (delegatedIssuer : Issuer) :
    next.trustRegistryDelegatedIssuerSchemas registryId' delegatedIssuer =
      state.trustRegistryDelegatedIssuerSchemas registryId' delegatedIssuer := by
  obtain ⟨f, loop, unfolded⟩ := @executeDelegatedIssuers_loop limits registryId
  rw [unfolded] at executed
  exact loop.other executed other delegatedIssuer

/-- The execution of the counter updates adds to each counter of the registry the amount
its update holds for it. -/
theorem executeDelegatedIssuers_count (executed : executeDelegatedIssuers updates registryId state = .ok next)
    (delegatedIssuer : Issuer) (schemaId : TrustRegistrySchemaId) :
    (next.delegatedCount registryId delegatedIssuer schemaId : ℤ) =
      state.delegatedCount registryId delegatedIssuer schemaId +
        ((updates.get? delegatedIssuer).map fun update => update.rawAt schemaId).getD 0 := by
  obtain ⟨f, loop, unfolded⟩ := @executeDelegatedIssuers_loop limits registryId
  rw [unfolded] at executed
  exact loop.count executed delegatedIssuer schemaId

end Counters

/-! ## The registry's schemas -/

section SchemaIds

variable {update : SchemaIdUpdate} {registryId : TrustRegistryId} {state next : State limits}

/-- The change of the registry's schemas writes only the registries' schemas. -/
theorem executeSchemaIds_frame (executed : executeSchemaIds update registryId state = .ok next) :
    next = { state with trustRegistriesStoredSchemas := next.trustRegistriesStoredSchemas } := by
  unfold executeSchemaIds at executed
  split at executed
  · obtain rfl := Except.pure_eq_ok.mp executed
    rfl
  · obtain ⟨schemaSet, -, written⟩ := Except.bind_eq_ok.mp executed
    obtain rfl := Except.pure_eq_ok.mp written
    rfl

/-- The change of the registry's schemas leaves the schemas of other registries as they were. -/
theorem executeSchemaIds_other (executed : executeSchemaIds update registryId state = .ok next)
    {registryId' : TrustRegistryId} (other : registryId' ≠ registryId) :
    next.trustRegistriesStoredSchemas registryId' = state.trustRegistriesStoredSchemas registryId' := by
  unfold executeSchemaIds at executed
  split at executed
  · obtain rfl := Except.pure_eq_ok.mp executed
    rfl
  · obtain ⟨schemaSet, -, written⟩ := Except.bind_eq_ok.mp executed
    obtain rfl := Except.pure_eq_ok.mp written
    simp [other]

/-- The change of the registry's schemas adds and removes the schemas its update says. -/
theorem executeSchemaIds_contains (executed : executeSchemaIds update registryId state = .ok next)
    (schemaId : TrustRegistrySchemaId) :
    containsKey (next.trustRegistriesStoredSchemas registryId) schemaId =
      presenceAfter (update.get? schemaId) (containsKey (state.trustRegistriesStoredSchemas registryId) schemaId) := by
  unfold executeSchemaIds at executed
  split at executed
  · rename_i empty
    obtain rfl := Except.pure_eq_ok.mp executed
    rw [get?_of_isEmpty empty, presenceAfter_none]
  · obtain ⟨schemaSet, applied, written⟩ := Except.bind_eq_ok.mp executed
    obtain rfl := Except.pure_eq_ok.mp written
    rw [MultiTargetUpdate.applyUpdate_eq] at applied
    simpa using MultiTargetUpdate.containsKey_applyUpdate applied schemaId

end SchemaIds

/-! ## The second pass -/

/-- `execute` runs its phases one after another: the metadata, the issuers' rows, the
delegated issuers' counters, the verifiers' rows and the registry's schemas. -/
theorem ValidatedSchemasUpdate.execute_eq_ok {validated : ValidatedSchemasUpdate limits}
    {registryId : TrustRegistryId} {state next : State limits}
    (executed : validated.execute registryId state = .ok next) :
    ∃ afterSchemas afterIssuers afterCounters afterVerifiers,
      executeSchemas validated.schemas registryId state = .ok afterSchemas ∧
      executeTargets validated.issuers registryId afterSchemas = .ok afterIssuers ∧
      executeDelegatedIssuers validated.delegatedIssuers registryId afterIssuers = .ok afterCounters ∧
      executeTargets validated.verifiers registryId afterCounters = .ok afterVerifiers ∧
      executeSchemaIds validated.schemaIds registryId afterVerifiers = .ok next := by
  unfold ValidatedSchemasUpdate.execute at executed
  obtain ⟨afterSchemas, schemasDone, rest⟩ := Except.bind_eq_ok.mp executed
  obtain ⟨afterIssuers, issuersDone, rest⟩ := Except.bind_eq_ok.mp rest
  obtain ⟨afterCounters, countersDone, rest⟩ := Except.bind_eq_ok.mp rest
  obtain ⟨afterVerifiers, verifiersDone, schemaIdsDone⟩ := Except.bind_eq_ok.mp rest
  exact ⟨afterSchemas, afterIssuers, afterCounters, afterVerifiers, schemasDone, issuersDone, countersDone,
    verifiersDone, schemaIdsDone⟩

/-- The second pass of `set_schemas_metadata` leaves the registries' information, their
participants and the issuers' configurations as they were. -/
theorem ValidatedSchemasUpdate.execute_keeps {validated : ValidatedSchemasUpdate limits}
    {registryId : TrustRegistryId} {state next : State limits}
    (executed : validated.execute registryId state = .ok next) :
    next.trustRegistriesInfo = state.trustRegistriesInfo ∧
      next.trustRegistriesParticipants = state.trustRegistriesParticipants ∧
      next.trustRegistryParticipantsInformation = state.trustRegistryParticipantsInformation ∧
      next.convenerTrustRegistries = state.convenerTrustRegistries ∧
      next.trustRegistryIssuerConfigurations = state.trustRegistryIssuerConfigurations := by
  obtain ⟨afterSchemas, afterIssuers, afterCounters, afterVerifiers, schemasDone, issuersDone, countersDone,
    verifiersDone, schemaIdsDone⟩ := ValidatedSchemasUpdate.execute_eq_ok executed
  refine ⟨?_, ?_, ?_, ?_, ?_⟩ <;>
    rw [executeSchemaIds_frame schemaIdsDone, executeTargets_verifiers_frame verifiersDone,
      executeDelegatedIssuers_frame countersDone, executeTargets_issuers_frame issuersDone,
      executeSchemas_frame schemasDone]

end DockSubstrate.TrustRegistry
