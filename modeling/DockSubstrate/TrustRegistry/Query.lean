import DockSubstrate.TrustRegistry.Storage
import DockSubstrate.Util.Set

/-!
# Querying trust registries

`QueryTrustRegistriesBy::resolve_to_registry_ids` (`query.rs`) finds the registries that
match the rules of a query: the registries of its issuers, of its verifiers, of its issuers or
verifiers, and the registries that hold metadata for its schemas.  Each rule is applied with
`InclusionRule::apply_rule` to a function that lists the registries of one item; the results
of the rules present are intersected.

The registries of an issuer or a verifier are read from a `BTreeSet`, in ascending order.
The registries of a schema are the second keys under the schema's prefix of
`TrustRegistrySchemasMetadata`, a double map hashed with `Blake2_128Concat`: they come in the
order of their hashed keys, the same order under every prefix, which `PrefixIteration`
leaves abstract.  That order need not be ascending, and `apply_rule` asks for ascending
iterators: `resolveToRegistryIds_all_descending` is what an `All` rule over schemas then
returns.  What a query returns is still sound (`resolveToRegistryIds_satisfies`): every
registry it returns satisfies every rule of the query, as no iterator repeats a registry.
Where the hash order happens to be the order of the registries, every iterator ascends and a
query returns exactly what its rules select (`mem_resolveToRegistryIds`).

`QueryTrustRegistryBy::resolve_to_schema_ids_in_registry` finds the schemas of one registry
the same way, from the schemas of its issuers (their own and those delegated to them, merged),
of its verifiers and of its issuers or verifiers, all read from sorted maps or collected into
a `BTreeSet`.  So every iterator ascends, and the query returns exactly what its rules select
(`mem_resolveToSchemaIdsInRegistry`); unlike the query over registries, its issuer-or-verifier
rule widens what its issuer and verifier rules keep.
-/

namespace DockSubstrate.TrustRegistry

open DockSubstrate.Lib DockSubstrate.Util

variable {limits : Limits}

/-- `TrustRegistrySchemasMetadata::iter_key_prefix`: the registries that hold metadata for a
schema, each once, in the order of their hashed keys.  `keyHash` ranks the hashed key of a
registry; it is the same under every schema, as the hasher reads only the registry. -/
structure PrefixIteration (state : State limits) where
  iterKeyPrefix : TrustRegistrySchemaId → List TrustRegistryId
  keyHash : TrustRegistryId → Nat
  sorted : ∀ schemaId, (iterKeyPrefix schemaId).Pairwise fun registryId other => keyHash registryId < keyHash other
  mem_iff : ∀ schemaId registryId,
    registryId ∈ iterKeyPrefix schemaId ↔ (state.trustRegistrySchemasMetadata schemaId registryId).isSome

/-- `QueryTrustRegistriesBy`: an optional rule for each of the issuers, the verifiers, the
issuers or verifiers and the schemas of the registries. -/
structure QueryTrustRegistriesBy where
  issuers : Option (InclusionRule Issuer)
  verifiers : Option (InclusionRule Verifier)
  issuersOrVerifiers : Option (InclusionRule IssuerOrVerifier)
  schemaIds : Option (InclusionRule TrustRegistrySchemaId)

/-- `Pallet::issuer_registries`, in ascending order. -/
def issuerRegistries (state : State limits) (issuer : Issuer) : List TrustRegistryId :=
  (state.issuersTrustRegistries issuer).registries.keys

/-- `Pallet::verifier_registries`, in ascending order. -/
def verifierRegistries (state : State limits) (verifier : Verifier) : List TrustRegistryId :=
  (state.verifiersTrustRegistries verifier).registries.keys

/-- `Pallet::issuer_or_verifier_registries`: the registries of the DID as an issuer and as a
verifier, collected into one `BTreeSet`. -/
def issuerOrVerifierRegistries (state : State limits) (issuerOrVerifier : IssuerOrVerifier) :
    List TrustRegistryId :=
  ascending ((issuerRegistries state ⟨issuerOrVerifier.did⟩).toFinset ∪
    (verifierRegistries state ⟨issuerOrVerifier.did⟩).toFinset)

/-- `Pallet::registry_verifier_schemas`, in ascending order. -/
def registryVerifierSchemas (state : State limits) (registryId : TrustRegistryId) (verifier : Verifier) :
    List TrustRegistrySchemaId :=
  (state.trustRegistryVerifierSchemas registryId verifier).schemas.keys

/-- `Pallet::registry_issuer_or_delegated_issuer_schemas`: the keys of the schemas delegated to
the DID merged with the schemas it issues, deduplicated and collected into a `BTreeSet`. -/
def registryIssuerOrDelegatedIssuerSchemas (state : State limits) (registryId : TrustRegistryId)
    (issuerOrDelegatedIssuer : Issuer) : List TrustRegistrySchemaId :=
  ascending (dedup (KMerge.merge (state.trustRegistryDelegatedIssuerSchemas registryId issuerOrDelegatedIssuer).schemas.keys
    (state.issuerSchemas registryId issuerOrDelegatedIssuer).schemas.keys)).toFinset

/-- `Pallet::registry_issuer_or_verifier_schemas`: the schemas of the DID as an issuer or a
delegated issuer and as a verifier, collected into one `BTreeSet`. -/
def registryIssuerOrVerifierSchemas (state : State limits) (registryId : TrustRegistryId)
    (issuerOrVerifier : IssuerOrVerifier) : List TrustRegistrySchemaId :=
  ascending ((registryIssuerOrDelegatedIssuerSchemas state registryId ⟨issuerOrVerifier.did⟩).toFinset ∪
    (registryVerifierSchemas state registryId ⟨issuerOrVerifier.did⟩).toFinset)

namespace QueryTrustRegistriesBy

/-- `resolve_to_registry_ids`. -/
def resolveToRegistryIds (query : QueryTrustRegistriesBy) (state : State limits)
    (iteration : PrefixIteration state) : Finset TrustRegistryId :=
  let issuerRegs := query.issuers.map fun issuers => issuers.applyRule (issuerRegistries state)
  let verifierRegs := query.verifiers.map fun verifiers => verifiers.applyRule (verifierRegistries state)
  let issuersAndVerifiersRegs := MaybeDoubleSet.intersection ⟨issuerRegs, verifierRegs⟩
  let issuersOrVerifiersRegs := query.issuersOrVerifiers.map fun issuersOrVerifiers =>
    issuersOrVerifiers.applyRule (issuerOrVerifierRegistries state)
  let combinedIssuersVerifiersRegs := MaybeDoubleSet.intersection ⟨issuersOrVerifiersRegs, issuersAndVerifiersRegs⟩
  let schemaIdRegs := query.schemaIds.map fun schemaIds => schemaIds.applyRule iteration.iterKeyPrefix
  (MaybeDoubleSet.intersection ⟨combinedIssuersVerifiersRegs, schemaIdRegs⟩).getD ∅

/-- A query by schemas alone returns what its rule makes of the schemas' registries. -/
theorem resolveToRegistryIds_of_schemaIds (rule : InclusionRule TrustRegistrySchemaId) (state : State limits)
    (iteration : PrefixIteration state) :
    resolveToRegistryIds ⟨none, none, none, some rule⟩ state iteration = rule.applyRule iteration.iterKeyPrefix := by
  rfl

end QueryTrustRegistriesBy

/-- `QueryTrustRegistryBy`: an optional rule for each of the issuers, the verifiers and the
issuers or verifiers of the schemas of one registry, and an optional set of schemas. -/
structure QueryTrustRegistryBy where
  issuers : Option (InclusionRule Issuer)
  verifiers : Option (InclusionRule Verifier)
  issuersOrVerifiers : Option (InclusionRule IssuerOrVerifier)
  schemaIds : Option (Finset TrustRegistrySchemaId)

/-- `QueryTrustRegistryBy::resolve_to_schema_ids_in_registry`: unlike the query over
registries, the issuer-or-verifier rule widens what the issuer and verifier rules keep. -/
def QueryTrustRegistryBy.resolveToSchemaIdsInRegistry (query : QueryTrustRegistryBy) (state : State limits)
    (registryId : TrustRegistryId) : Finset TrustRegistrySchemaId :=
  let issuerSchemaIds := query.issuers.map fun issuers =>
    issuers.applyRule (registryIssuerOrDelegatedIssuerSchemas state registryId)
  let verifierSchemaIds := query.verifiers.map fun verifiers =>
    verifiers.applyRule (registryVerifierSchemas state registryId)
  let issuersAndVerifiersSchemaIds := MaybeDoubleSet.intersection ⟨issuerSchemaIds, verifierSchemaIds⟩
  let issuersOrVerifiersSchemaIds := query.issuersOrVerifiers.map fun issuerOrVerifier =>
    issuerOrVerifier.applyRule (registryIssuerOrVerifierSchemas state registryId)
  let combinedIssuersVerifiersSchemaIds :=
    MaybeDoubleSet.union ⟨issuersAndVerifiersSchemaIds, issuersOrVerifiersSchemaIds⟩
  (MaybeDoubleSet.intersection ⟨combinedIssuersVerifiersSchemaIds, query.schemaIds⟩).getD ∅

namespace PrefixIteration

variable {state : State limits} (iteration : PrefixIteration state)

theorem nodup (schemaId : TrustRegistrySchemaId) : (iteration.iterKeyPrefix schemaId).Nodup := by
  refine (iteration.sorted schemaId).imp fun less same => ?_
  subst same
  exact Nat.lt_irrefl _ less

/-- Where the hashed keys rank the registries as they are ordered, every prefix lists its
registries in ascending order. -/
theorem pairwise_iterKeyPrefix (monotone : StrictMono iteration.keyHash) (schemaId : TrustRegistrySchemaId) :
    (iteration.iterKeyPrefix schemaId).Pairwise (· < ·) :=
  (iteration.sorted schemaId).imp monotone.lt_iff_lt.mp

/-- A schema whose metadata is held by two registries lists them in the order of their hashed
keys. -/
theorem iterKeyPrefix_eq_pair {schemaId : TrustRegistrySchemaId} {first second : TrustRegistryId}
    (hashes : iteration.keyHash first < iteration.keyHash second)
    (stored : ∀ registryId, (state.trustRegistrySchemasMetadata schemaId registryId).isSome ↔
      registryId = first ∨ registryId = second) :
    iteration.iterKeyPrefix schemaId = [first, second] := by
  have distinct : first ≠ second := by
    rintro rfl
    exact Nat.lt_irrefl _ hashes
  have perm : (iteration.iterKeyPrefix schemaId).Perm [first, second] :=
    (List.perm_ext_iff_of_nodup (iteration.nodup schemaId) (by simp [distinct])).mpr fun registryId => by
      rw [iteration.mem_iff, stored]
      simp
  exact perm.eq_of_pairwise (fun _ _ _ _ less more => absurd (less.trans more) (Nat.lt_irrefl _))
    (iteration.sorted schemaId) (by simpa using hashes)

end PrefixIteration

namespace QueryTrustRegistriesBy

/-- Every registry a query returns satisfies each rule the query has: it is a registry of one
or of all of the issuers, verifiers and issuers or verifiers named, and it holds metadata for
one or for all of the schemas named. -/
theorem resolveToRegistryIds_satisfies (query : QueryTrustRegistriesBy) (state : State limits)
    (iteration : PrefixIteration state) {registryId : TrustRegistryId}
    (found : registryId ∈ query.resolveToRegistryIds state iteration) :
    (∀ rule, query.issuers = some rule →
      rule.SatisfiedBy fun issuer => registryId ∈ issuerRegistries state issuer) ∧
    (∀ rule, query.verifiers = some rule →
      rule.SatisfiedBy fun verifier => registryId ∈ verifierRegistries state verifier) ∧
    (∀ rule, query.issuersOrVerifiers = some rule →
      rule.SatisfiedBy fun issuerOrVerifier => registryId ∈ issuerOrVerifierRegistries state issuerOrVerifier) ∧
    (∀ rule, query.schemaIds = some rule →
      rule.SatisfiedBy fun schemaId => (state.trustRegistrySchemasMetadata schemaId registryId).isSome) := by
  -- the result is the intersection of what each rule keeps
  have admitted := MaybeDoubleSet.admits_of_mem_getD found
  simp only [MaybeDoubleSet.admits_intersection] at admitted
  obtain ⟨⟨byIssuersOrVerifiers, byIssuers, byVerifiers⟩, bySchemas⟩ := admitted
  refine ⟨fun rule present => ?_, fun rule present => ?_, fun rule present => ?_, fun rule present => ?_⟩
  · have kept := byIssuers _ (by rw [present]; rfl)
    exact InclusionRule.applyRule_satisfiedBy (fun _ => SortedMap.keys_nodup _) kept
  · have kept := byVerifiers _ (by rw [present]; rfl)
    exact InclusionRule.applyRule_satisfiedBy (fun _ => SortedMap.keys_nodup _) kept
  · have kept := byIssuersOrVerifiers _ (by rw [present]; rfl)
    exact InclusionRule.applyRule_satisfiedBy (fun _ => nodup_ascending _) kept
  · have kept := bySchemas _ (by rw [present]; rfl)
    exact (InclusionRule.applyRule_satisfiedBy iteration.nodup kept).imp fun schemaId listed =>
      (iteration.mem_iff schemaId registryId).mp listed

/-- Where the hashed keys rank the registries as they are ordered, a query returns exactly the
registries that each of its rules selects, provided it has a rule at all. -/
theorem mem_resolveToRegistryIds (query : QueryTrustRegistriesBy) (state : State limits)
    (iteration : PrefixIteration state) (monotone : StrictMono iteration.keyHash) (registryId : TrustRegistryId) :
    registryId ∈ query.resolveToRegistryIds state iteration ↔
      (query.issuers.isSome ∨ query.verifiers.isSome ∨ query.issuersOrVerifiers.isSome ∨ query.schemaIds.isSome) ∧
      (∀ rule, query.issuers = some rule →
        rule.Selects fun issuer => registryId ∈ issuerRegistries state issuer) ∧
      (∀ rule, query.verifiers = some rule →
        rule.Selects fun verifier => registryId ∈ verifierRegistries state verifier) ∧
      (∀ rule, query.issuersOrVerifiers = some rule →
        rule.Selects fun issuerOrVerifier => registryId ∈ issuerOrVerifierRegistries state issuerOrVerifier) ∧
      (∀ rule, query.schemaIds = some rule →
        rule.Selects fun schemaId => (state.trustRegistrySchemasMetadata schemaId registryId).isSome) := by
  have bySchema : ∀ rule : InclusionRule TrustRegistrySchemaId,
      registryId ∈ rule.applyRule iteration.iterKeyPrefix ↔
        rule.Selects fun schemaId => (state.trustRegistrySchemasMetadata schemaId registryId).isSome := by
    intro rule
    rw [InclusionRule.mem_applyRule (iteration.pairwise_iterKeyPrefix monotone)]
    simp only [iteration.mem_iff]
  -- the registries of issuers and of verifiers are read from sorted maps, in ascending order
  have byIssuer : ∀ rule : InclusionRule Issuer, registryId ∈ rule.applyRule (issuerRegistries state) ↔
      rule.Selects fun issuer => registryId ∈ issuerRegistries state issuer :=
    fun _ => InclusionRule.mem_applyRule fun _ => SortedMap.pairwise_keys _
  have byVerifier : ∀ rule : InclusionRule Verifier, registryId ∈ rule.applyRule (verifierRegistries state) ↔
      rule.Selects fun verifier => registryId ∈ verifierRegistries state verifier :=
    fun _ => InclusionRule.mem_applyRule fun _ => SortedMap.pairwise_keys _
  have byEither : ∀ rule : InclusionRule IssuerOrVerifier,
      registryId ∈ rule.applyRule (issuerOrVerifierRegistries state) ↔
        rule.Selects fun issuerOrVerifier => registryId ∈ issuerOrVerifierRegistries state issuerOrVerifier :=
    fun _ => InclusionRule.mem_applyRule fun _ => pairwise_ascending _
  simp only [resolveToRegistryIds, MaybeDoubleSet.mem_getD, MaybeDoubleSet.isSome_intersection,
    MaybeDoubleSet.admits_intersection, MaybeDoubleSet.admits_map, Option.isSome_map, Bool.or_eq_true,
    byIssuer, byVerifier, byEither, bySchema]
  tauto

/-- A query for the registries that hold metadata for all of two schemas returns none of two
registries that both schemas have, when the lesser registry's hashed key is the greater:
under both prefixes the greater registry comes first, the merge yields the two alternately,
and no run is as long as the rule has schemas. -/
theorem resolveToRegistryIds_all_descending (state : State limits) (iteration : PrefixIteration state)
    {first second : TrustRegistrySchemaId} {lower higher : TrustRegistryId}
    (schemas : first < second) (registries : lower < higher)
    (hashes : iteration.keyHash higher < iteration.keyHash lower)
    (stored : ∀ schemaId ∈ ({first, second} : Finset TrustRegistrySchemaId), ∀ registryId,
      (state.trustRegistrySchemasMetadata schemaId registryId).isSome ↔ registryId = lower ∨ registryId = higher) :
    resolveToRegistryIds ⟨none, none, none, some (.all {first, second})⟩ state iteration = ∅ := by
  have listed : ∀ schemaId ∈ ({first, second} : Finset TrustRegistrySchemaId),
      iteration.iterKeyPrefix schemaId = [higher, lower] := by
    intro schemaId member
    refine iteration.iterKeyPrefix_eq_pair hashes fun registryId => ?_
    rw [stored schemaId member, or_comm]
  rw [resolveToRegistryIds_of_schemaIds]
  exact InclusionRule.applyRule_all_descending schemas registries (listed first (by simp))
    (listed second (by simp))

/-- Two schemas, both with metadata in registries `0` and `1`. -/
def twoSchemasState : State Limits.test :=
  { State.empty with
    trustRegistrySchemasMetadata := fun schemaId registryId =>
      if schemaId.raw ≤ 1 ∧ registryId.raw ≤ 1 then some ⟨⟨∅⟩, ⟨∅⟩⟩ else none }

/-- A hash order in which registry `1` comes before registry `0`. -/
def reversedHashes : PrefixIteration twoSchemasState where
  iterKeyPrefix schemaId := if schemaId.raw ≤ 1 then [⟨1⟩, ⟨0⟩] else []
  keyHash registryId := 1 - registryId.raw
  sorted schemaId := by
    split <;> simp
  mem_iff schemaId registryId := by
    obtain ⟨raw⟩ := registryId
    by_cases schema : schemaId.raw ≤ 1
    · simp only [twoSchemasState, schema, if_true, true_and, List.mem_cons, TrustRegistryId.mk.injEq,
        List.not_mem_nil, or_false]
      split_ifs <;> simp <;> omega
    · simp [twoSchemasState, schema]

theorem resolveToRegistryIds_all_descending_reversed :
    (∀ schemaId ∈ ({⟨0⟩, ⟨1⟩} : Finset TrustRegistrySchemaId), ∀ registryId,
      (twoSchemasState.trustRegistrySchemasMetadata schemaId registryId).isSome ↔
        registryId = ⟨0⟩ ∨ registryId = ⟨1⟩) ∧
    resolveToRegistryIds ⟨none, none, none, some (.all {⟨0⟩, ⟨1⟩})⟩ twoSchemasState reversedHashes = ∅ := by
  have stored : ∀ schemaId ∈ ({⟨0⟩, ⟨1⟩} : Finset TrustRegistrySchemaId), ∀ registryId,
      (twoSchemasState.trustRegistrySchemasMetadata schemaId registryId).isSome ↔
        registryId = ⟨0⟩ ∨ registryId = ⟨1⟩ := by
    intro schemaId member registryId
    obtain ⟨raw⟩ := registryId
    simp only [Finset.mem_insert, Finset.mem_singleton] at member
    rcases member with rfl | rfl <;>
      simp only [twoSchemasState, TrustRegistryId.mk.injEq] <;> split_ifs <;> simp <;> omega
  exact ⟨stored, resolveToRegistryIds_all_descending _ _ (by decide) (by decide) (by decide) stored⟩

end QueryTrustRegistriesBy

/-! ## The schemas of one registry -/

/-- The schemas of an issuer or a delegated issuer are its own schemas and the schemas
delegated to it: the merge of the two ascending key lists holds both. -/
theorem registryIssuerOrDelegatedIssuerSchemas_eq (state : State limits) (registryId : TrustRegistryId)
    (issuer : Issuer) :
    registryIssuerOrDelegatedIssuerSchemas state registryId issuer =
      ascending ((state.issuerSchemas registryId issuer).schemas.keys.toFinset ∪
        (state.trustRegistryDelegatedIssuerSchemas registryId issuer).schemas.keys.toFinset) := by
  unfold registryIssuerOrDelegatedIssuerSchemas
  congr 1
  ext schemaId
  simp only [List.mem_toFinset, mem_dedup, KMerge.merge, List.mem_merge, Finset.mem_union]
  exact or_comm

section SetAlgebra

variable {V W : Type} [LinearOrder V] [LinearOrder W]

/-- Over iterators that ascend, repeats allowed, `apply_rule` is the union of what the items
map to under `AnyOf` and the intersection under `All`; the schemas of an issuer or a delegated
issuer are such an iterator, and strictly so. -/
theorem applyRule_setAlgebra :
    (∀ (items : Finset V) (f : V → List W), (∀ item ∈ items, (f item).Pairwise (· ≤ ·)) →
      InclusionRule.applyRule (.anyOf items) f = items.biUnion (fun item => (f item).toFinset) ∧
      ∀ nonempty : items.Nonempty,
        InclusionRule.applyRule (.all items) f = items.inf' nonempty fun item => (f item).toFinset) ∧
    ∀ (state : State limits) (registryId : TrustRegistryId) (issuer : Issuer),
      registryIssuerOrDelegatedIssuerSchemas state registryId issuer =
        ascending ((state.issuerSchemas registryId issuer).schemas.keys.toFinset ∪
          (state.trustRegistryDelegatedIssuerSchemas registryId issuer).schemas.keys.toFinset) ∧
      (registryIssuerOrDelegatedIssuerSchemas state registryId issuer).Pairwise (· < ·) := by
  refine ⟨fun items f sorted => ⟨?_, fun nonempty => ?_⟩, fun state registryId issuer => ⟨?_, ?_⟩⟩
  · exact InclusionRule.applyRule_anyOf_eq_biUnion items f
  · exact InclusionRule.applyRule_all_eq_inf' nonempty sorted
  · exact registryIssuerOrDelegatedIssuerSchemas_eq state registryId issuer
  · exact pairwise_ascending _

end SetAlgebra

theorem applyRule_setAlgebra_pairs :
    (∀ item ∈ ({0, 1} : Finset Nat), [item, 2, 2].Pairwise (· ≤ ·)) ∧
      (InclusionRule.applyRule (.anyOf {0, 1}) (fun item => [item, 2, 2]) =
          ({0, 1} : Finset Nat).biUnion (fun item => [item, 2, 2].toFinset) ∧
        ∀ nonempty : ({0, 1} : Finset Nat).Nonempty,
          InclusionRule.applyRule (.all {0, 1}) (fun item => [item, 2, 2]) =
            ({0, 1} : Finset Nat).inf' nonempty fun item => [item, 2, 2].toFinset) ∧
      registryIssuerOrDelegatedIssuerSchemas (State.empty : State Limits.test) ⟨0⟩ ⟨.did ⟨0⟩⟩ =
        ascending (((State.empty : State Limits.test).issuerSchemas ⟨0⟩ ⟨.did ⟨0⟩⟩).schemas.keys.toFinset ∪
          ((State.empty : State Limits.test).trustRegistryDelegatedIssuerSchemas ⟨0⟩ ⟨.did ⟨0⟩⟩).schemas.keys.toFinset) :=
  have sorted : ∀ item ∈ ({0, 1} : Finset Nat), [item, 2, 2].Pairwise (· ≤ ·) := by decide
  have setAlgebra := @applyRule_setAlgebra Limits.test Nat Nat _ _
  ⟨sorted, setAlgebra.1 {0, 1} _ sorted, (setAlgebra.2 State.empty ⟨0⟩ ⟨.did ⟨0⟩⟩).1⟩

namespace QueryTrustRegistryBy

/-- A query returns exactly the schemas that its set of schemas admits and that either both its
issuer and verifier rules select or its issuer-or-verifier rule selects, provided it has a rule
or a set at all: every schema list it merges ascends. -/
theorem mem_resolveToSchemaIdsInRegistry (query : QueryTrustRegistryBy) (state : State limits)
    (registryId : TrustRegistryId) (schemaId : TrustRegistrySchemaId) :
    schemaId ∈ query.resolveToSchemaIdsInRegistry state registryId ↔
      (query.issuers.isSome ∨ query.verifiers.isSome ∨ query.issuersOrVerifiers.isSome ∨ query.schemaIds.isSome) ∧
      ((query.issuers = none ∧ query.verifiers = none ∧ query.issuersOrVerifiers = none) ∨
        ((query.issuers.isSome ∨ query.verifiers.isSome) ∧
          (∀ rule, query.issuers = some rule →
            rule.Selects fun issuer => schemaId ∈ registryIssuerOrDelegatedIssuerSchemas state registryId issuer) ∧
          (∀ rule, query.verifiers = some rule →
            rule.Selects fun verifier => schemaId ∈ registryVerifierSchemas state registryId verifier)) ∨
        ∃ rule, query.issuersOrVerifiers = some rule ∧
          rule.Selects fun issuerOrVerifier =>
            schemaId ∈ registryIssuerOrVerifierSchemas state registryId issuerOrVerifier) ∧
      ∀ schemas, query.schemaIds = some schemas → schemaId ∈ schemas := by
  -- every schema list is read from a sorted map or collected into a `BTreeSet`
  have byIssuer : ∀ rule : InclusionRule Issuer,
      schemaId ∈ rule.applyRule (registryIssuerOrDelegatedIssuerSchemas state registryId) ↔
        rule.Selects fun issuer => schemaId ∈ registryIssuerOrDelegatedIssuerSchemas state registryId issuer :=
    fun _ => InclusionRule.mem_applyRule fun _ => pairwise_ascending _
  have byVerifier : ∀ rule : InclusionRule Verifier,
      schemaId ∈ rule.applyRule (registryVerifierSchemas state registryId) ↔
        rule.Selects fun verifier => schemaId ∈ registryVerifierSchemas state registryId verifier :=
    fun _ => InclusionRule.mem_applyRule fun _ => SortedMap.pairwise_keys _
  have byEither : ∀ rule : InclusionRule IssuerOrVerifier,
      schemaId ∈ rule.applyRule (registryIssuerOrVerifierSchemas state registryId) ↔
        rule.Selects fun issuerOrVerifier => schemaId ∈ registryIssuerOrVerifierSchemas state registryId issuerOrVerifier :=
    fun _ => InclusionRule.mem_applyRule fun _ => pairwise_ascending _
  simp only [resolveToSchemaIdsInRegistry, MaybeDoubleSet.mem_getD, MaybeDoubleSet.isSome_intersection,
    MaybeDoubleSet.isSome_union, MaybeDoubleSet.admits_intersection, MaybeDoubleSet.admits_union,
    MaybeDoubleSet.intersection_eq_none, MaybeDoubleSet.admits_map, Option.map_eq_none_iff, Option.isSome_map,
    Bool.or_eq_true, byIssuer, byVerifier, byEither]
  -- which of the three rules are present decides how the union reads
  obtain ⟨issuers, verifiers, issuersOrVerifiers, schemaIds⟩ := query
  cases issuers <;> cases verifiers <;> cases issuersOrVerifiers <;> simp [MaybeDoubleSet.Admits]

end QueryTrustRegistryBy

end DockSubstrate.TrustRegistry
