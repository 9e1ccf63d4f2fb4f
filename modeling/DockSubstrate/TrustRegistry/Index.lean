import DockSubstrate.TrustRegistry.Pallet
import DockSubstrate.Util.BatchUpdate.Counter
import DockSubstrate.Lib.Counting

/-!
# The trust registry's indices

Besides the metadata of every schema, the pallet stores indices of it: the schemas of
each registry, the schemas of each issuer and of each verifier in a registry, the
registries each issuer and each verifier has schemas in, and, for every delegated
issuer, how many issuers delegate each of their schemas to it.  `IndexConsistent` says
that every index agrees with the metadata and with the issuers' delegations.

Issuers and verifiers are indexed alike through `HasSchemasAndRegistries`, so the index
of one kind of target is stated once (`TargetsConsistent`), with the laws of its reads
and writes (`LawfulSchemasAndRegistries`).
-/

namespace DockSubstrate.TrustRegistry

open DockSubstrate.Lib DockSubstrate.Util KeyValue

variable {limits : Limits}

instance : LawfulCounterValue DelegatedSchemaCounter := ⟨fun _ => rfl⟩

/-! ## The reads and writes of a kind of target -/

/-- The laws of `HasSchemasAndRegistries`: a write of a target's schemas or registries
changes that value and nothing else of the two. -/
class LawfulSchemasAndRegistries (limits : Limits) (Target Schemas Registries : Type) [LinearOrder Target]
    [HasSchemasAndRegistries limits Target Schemas Registries] : Prop where
  schemas_setSchemas : ∀ (state : State limits) (registryId : TrustRegistryId) (target : Target)
      (schemas : Schemas) (registryId' : TrustRegistryId) (target' : Target),
    HasSchemasAndRegistries.schemas (HasSchemasAndRegistries.setSchemas state registryId target schemas)
        registryId' target' =
      if registryId' = registryId ∧ target' = target then schemas
      else HasSchemasAndRegistries.schemas state registryId' target'
  registries_setSchemas : ∀ (state : State limits) (registryId : TrustRegistryId) (target : Target)
      (schemas : Schemas),
    HasSchemasAndRegistries.registries (HasSchemasAndRegistries.setSchemas state registryId target schemas) =
      (HasSchemasAndRegistries.registries state : Target → Registries)
  schemas_setRegistries : ∀ (state : State limits) (target : Target) (registries : Registries),
    HasSchemasAndRegistries.schemas (HasSchemasAndRegistries.setRegistries state target registries) =
      (HasSchemasAndRegistries.schemas state : TrustRegistryId → Target → Schemas)
  registries_setRegistries : ∀ (state : State limits) (target : Target) (registries : Registries)
      (target' : Target),
    HasSchemasAndRegistries.registries (HasSchemasAndRegistries.setRegistries state target registries) target' =
      if target' = target then registries else HasSchemasAndRegistries.registries state target'
  setRegistries_registries : ∀ (state : State limits) (target : Target),
    HasSchemasAndRegistries.setRegistries state target (HasSchemasAndRegistries.registries state target) = state

instance : LawfulSchemasAndRegistries limits Issuer (IssuerSchemas limits) (IssuerTrustRegistries limits) where
  schemas_setSchemas state registryId issuer schemas registryId' issuer' := by
    change ((update₂ _ registryId issuer (some schemas)) registryId' issuer').getD ∅ = _
    rw [update₂_apply]
    split <;> rfl
  registries_setSchemas _ _ _ _ := rfl
  schemas_setRegistries _ _ _ := rfl
  registries_setRegistries state issuer registries issuer' := Function.update_apply _ _ _ _
  setRegistries_registries state issuer := by
    change { state with issuersTrustRegistries := Function.update _ issuer (state.issuersTrustRegistries issuer) } = _
    rw [Function.update_eq_self]

instance : LawfulSchemasAndRegistries limits Verifier (VerifierSchemas limits) (VerifierTrustRegistries limits) where
  schemas_setSchemas state registryId verifier schemas registryId' verifier' := update₂_apply _ _ _ _ _ _
  registries_setSchemas _ _ _ _ := rfl
  schemas_setRegistries _ _ _ := rfl
  registries_setRegistries state verifier registries verifier' := Function.update_apply _ _ _ _
  setRegistries_registries state verifier := by
    change { state with verifiersTrustRegistries := Function.update _ verifier (state.verifiersTrustRegistries verifier) } = _
    rw [Function.update_eq_self]

/-! ## The invariant -/

/-- Whether a schema's metadata, where there is one, lists the target as a `member`. -/
def listedIn {Target : Type} (member : TrustRegistrySchemaMetadata limits → Target → Bool)
    (metadata : Option (TrustRegistrySchemaMetadata limits)) (target : Target) : Bool :=
  metadata.any fun metadata => member metadata target

/-- The issuers of a schema are the keys of its issuers map. -/
def issuerMember (metadata : TrustRegistrySchemaMetadata limits) (issuer : Issuer) : Bool :=
  containsKey metadata.issuers issuer

/-- The verifiers of a schema are the members of its verifiers set. -/
def verifierMember (metadata : TrustRegistrySchemaMetadata limits) (verifier : Verifier) : Bool :=
  containsKey metadata.verifiers verifier

section Targets

variable {Target Schemas Registries : Type} [LinearOrder Target]
  [HasSchemasAndRegistries limits Target Schemas Registries]
  [KeyValue Schemas TrustRegistrySchemaId Unit] [KeyValue Registries TrustRegistryId Unit]

/-- The index of one kind of target agrees with the metadata: a target has a schema in a
registry exactly when the schema's metadata lists it, and has a registry exactly when
it has some schema there. -/
structure TargetsConsistent (member : TrustRegistrySchemaMetadata limits → Target → Bool)
    (state : State limits) : Prop where
  schemas : ∀ (registryId : TrustRegistryId) (target : Target) (schemaId : TrustRegistrySchemaId),
    containsKey (HasSchemasAndRegistries.schemas state registryId target) schemaId =
      listedIn member (state.trustRegistrySchemasMetadata schemaId registryId) target
  registries : ∀ (target : Target) (registryId : TrustRegistryId),
    containsKey (HasSchemasAndRegistries.registries state target) registryId =
      !isEmpty (HasSchemasAndRegistries.schemas state registryId target)

end Targets

/-- The issuers that delegate to `delegatedIssuer` in the registry and have the schema there. -/
def State.delegators (state : State limits) (registryId : TrustRegistryId) (delegatedIssuer : Issuer)
    (schemaId : TrustRegistrySchemaId) : Set Issuer :=
  {issuer | containsKey (state.trustRegistryIssuerConfigurations registryId issuer).delegated delegatedIssuer ∧
    containsKey (state.issuerSchemas registryId issuer) schemaId}

/-- The stored counter of a delegated issuer's schema, zero where there is none. -/
def State.delegatedCount (state : State limits) (registryId : TrustRegistryId) (delegatedIssuer : Issuer)
    (schemaId : TrustRegistrySchemaId) : Nat :=
  IncOrDec.count (get (state.trustRegistryDelegatedIssuerSchemas registryId delegatedIssuer) schemaId)

/-- The indices agree with the schema metadata and with the delegations. -/
structure IndexConsistent (state : State limits) : Prop where
  storedSchemas : ∀ registryId schemaId,
    containsKey (state.trustRegistriesStoredSchemas registryId) schemaId =
      (state.trustRegistrySchemasMetadata schemaId registryId).isSome
  issuers : TargetsConsistent issuerMember state
  verifiers : TargetsConsistent verifierMember state
  delegatedCounts : ∀ registryId delegatedIssuer schemaId,
    state.delegatedCount registryId delegatedIssuer schemaId =
      (state.delegators registryId delegatedIssuer schemaId).ncard

/-- The issuers that have a schema are those its metadata lists, so only finitely many
issuers delegate it. -/
theorem IndexConsistent.delegators_finite {state : State limits} (consistent : IndexConsistent state)
    (registryId : TrustRegistryId) (delegatedIssuer : Issuer) (schemaId : TrustRegistrySchemaId) :
    (state.delegators registryId delegatedIssuer schemaId).Finite := by
  apply Set.Finite.subset
    (((state.trustRegistrySchemasMetadata schemaId registryId).map fun metadata => keys metadata.issuers).getD []
      |>.finite_toSet)
  rintro issuer ⟨-, hasSchema⟩
  have listed := consistent.issuers.schemas registryId issuer schemaId
  change containsKey (state.issuerSchemas registryId issuer) schemaId = _ at listed
  rw [hasSchema] at listed
  cases found : state.trustRegistrySchemasMetadata schemaId registryId with
  | none => simp [found, listedIn] at listed
  | some metadata =>
      simp only [found, listedIn, Option.any_some, issuerMember] at listed
      simpa [LawfulKeyValue.mem_keys, containsKey] using listed.symm

/-! ## The empty storage -/

/-- Nothing is indexed in the empty storage, and nothing is to be. -/
theorem indexConsistent_empty : IndexConsistent (State.empty : State limits) where
  storedSchemas _ _ := rfl
  issuers := ⟨fun _ _ _ => rfl, fun _ _ => rfl⟩
  verifiers := ⟨fun _ _ _ => rfl, fun _ _ => rfl⟩
  delegatedCounts registryId delegatedIssuer schemaId := by
    have nobody : (State.empty : State limits).delegators registryId delegatedIssuer schemaId = ∅ := by
      ext issuer
      simp only [State.delegators, State.empty, State.issuerSchemas, Option.getD_none,
        Set.mem_ofPred_eq, Set.mem_empty_iff_false, iff_false, not_and]
      intro _ present
      cases present
    rw [nobody, Set.ncard_empty]
    rfl

/-! ## The indexed part of the storage -/

/-- The metadata and its indices: what the invariant reads besides the issuers'
delegations and the counters of the delegated issuers. -/
def State.schemasIndexed (state : State limits) :=
  (state.trustRegistrySchemasMetadata, state.trustRegistriesStoredSchemas,
    state.trustRegistryIssuerSchemas, state.trustRegistryVerifierSchemas, state.issuersTrustRegistries,
    state.verifiersTrustRegistries)

/-- The part of the storage the invariant reads: the metadata, the indices and the
issuers' delegations. -/
def State.indexed (state : State limits) :=
  (state.schemasIndexed, state.trustRegistryDelegatedIssuerSchemas,
    fun registryId issuer => (state.trustRegistryIssuerConfigurations registryId issuer).delegated)

/-- A call that leaves the metadata and its indices as they were keeps the invariant when
every counter is still the number of the delegated issuer's delegators. -/
theorem IndexConsistent.of_schemasIndexed_eq {state next : State limits} (consistent : IndexConsistent state)
    (same : next.schemasIndexed = state.schemasIndexed)
    (counted : ∀ registryId delegatedIssuer schemaId, next.delegatedCount registryId delegatedIssuer schemaId =
      (next.delegators registryId delegatedIssuer schemaId).ncard) : IndexConsistent next := by
  simp only [State.schemasIndexed, Prod.mk.injEq] at same
  obtain ⟨sameMetadata, sameStored, sameIssuerSchemas, sameVerifierSchemas, sameIssuerRegistries,
    sameVerifierRegistries⟩ := same
  refine ⟨?_, ⟨?_, ?_⟩, ⟨?_, ?_⟩, counted⟩
  · rw [sameStored, sameMetadata]
    exact consistent.storedSchemas
  · change ∀ registryId issuer schemaId, containsKey ((next.trustRegistryIssuerSchemas registryId issuer).getD ∅)
      schemaId = _
    rw [sameIssuerSchemas, sameMetadata]
    exact consistent.issuers.schemas
  · change ∀ issuer registryId, containsKey (next.issuersTrustRegistries issuer) registryId =
      !isEmpty ((next.trustRegistryIssuerSchemas registryId issuer).getD ∅)
    rw [sameIssuerSchemas, sameIssuerRegistries]
    exact consistent.issuers.registries
  · change ∀ registryId verifier schemaId,
      containsKey (next.trustRegistryVerifierSchemas registryId verifier) schemaId = _
    rw [sameVerifierSchemas, sameMetadata]
    exact consistent.verifiers.schemas
  · change ∀ verifier registryId, containsKey (next.verifiersTrustRegistries verifier) registryId =
      !isEmpty (next.trustRegistryVerifierSchemas registryId verifier)
    rw [sameVerifierSchemas, sameVerifierRegistries]
    exact consistent.verifiers.registries

/-- A call that leaves the indexed part of the storage as it was keeps the invariant. -/
theorem IndexConsistent.of_indexed_eq {state next : State limits} (consistent : IndexConsistent state)
    (same : next.indexed = state.indexed) : IndexConsistent next := by
  simp only [State.indexed, Prod.mk.injEq] at same
  obtain ⟨sameSchemasIndexed, sameCounters, sameDelegated⟩ := same
  have delegatedAt : ∀ registryId issuer,
      (next.trustRegistryIssuerConfigurations registryId issuer).delegated =
        (state.trustRegistryIssuerConfigurations registryId issuer).delegated :=
    fun registryId issuer => congrFun (congrFun sameDelegated registryId) issuer
  have sameIssuerSchemas : next.trustRegistryIssuerSchemas = state.trustRegistryIssuerSchemas :=
    congrArg (fun indexed => indexed.2.2.1) sameSchemasIndexed
  have sameDelegators : next.delegators = state.delegators := by
    funext registryId delegatedIssuer schemaId
    simp only [State.delegators, State.issuerSchemas, delegatedAt, sameIssuerSchemas]
  refine consistent.of_schemasIndexed_eq sameSchemasIndexed fun registryId delegatedIssuer schemaId => ?_
  unfold State.delegatedCount
  rw [sameCounters, sameDelegators]
  exact consistent.delegatedCounts registryId delegatedIssuer schemaId

end DockSubstrate.TrustRegistry
