import DockSubstrate.TrustRegistry.UpdateRules
import DockSubstrate.Lib.DoubleMap

/-!
# Trust registry storage

The pallet's storage items (`modules/trust_registry/mod.rs`), one field each.  A map
declared with `OptionQuery` is a function to `Option`; a map declared with `ValueQuery`
reads as its default where nothing is stored, and is a total function, except
`TrustRegistryIssuerSchemas`, whose `contains_key` the pallet reads: a `ValueQuery` map
holds a value once it has been written, even the default one, so that map keeps
`Option` and reads through `issuerSchemas`.

`HasSchemasAndRegistries` is the source's trait of the same name: where the schemas of
an issuer (or verifier) in a registry and the registries of an issuer (or verifier)
are stored.
-/

namespace DockSubstrate.TrustRegistry

open DockSubstrate.Lib DockSubstrate.Util

/-- The storage of the pallet. -/
structure State (limits : Limits) where
  trustRegistriesInfo : TrustRegistryId → Option (TrustRegistryInfo limits)
  trustRegistrySchemasMetadata :
    TrustRegistrySchemaId → TrustRegistryId → Option (TrustRegistrySchemaMetadata limits)
  trustRegistriesStoredSchemas : TrustRegistryId → TrustRegistryStoredSchemas limits
  trustRegistriesParticipants : TrustRegistryId → TrustRegistryStoredParticipants limits
  trustRegistryParticipantsInformation :
    TrustRegistryId → IssuerOrVerifier → Option (TrustRegistryStoredParticipantInformation limits)
  convenerTrustRegistries : Convener → TrustRegistryIdSet limits
  trustRegistryVerifierSchemas : TrustRegistryId → Verifier → VerifierSchemas limits
  trustRegistryIssuerSchemas : TrustRegistryId → Issuer → Option (IssuerSchemas limits)
  trustRegistryDelegatedIssuerSchemas : TrustRegistryId → Issuer → DelegatedIssuerSchemas limits
  verifiersTrustRegistries : Verifier → VerifierTrustRegistries limits
  issuersTrustRegistries : Issuer → IssuerTrustRegistries limits
  trustRegistryIssuerConfigurations :
    TrustRegistryId → Issuer → TrustRegistryIssuerConfiguration limits

namespace State

variable {limits : Limits}

/-- The storage of a new chain: nothing stored. -/
def empty : State limits where
  trustRegistriesInfo _ := none
  trustRegistrySchemasMetadata _ _ := none
  trustRegistriesStoredSchemas _ := ∅
  trustRegistriesParticipants _ := ∅
  trustRegistryParticipantsInformation _ _ := none
  convenerTrustRegistries _ := ∅
  trustRegistryVerifierSchemas _ _ := ∅
  trustRegistryIssuerSchemas _ _ := none
  trustRegistryDelegatedIssuerSchemas _ _ := ∅
  verifiersTrustRegistries _ := ∅
  issuersTrustRegistries _ := ∅
  trustRegistryIssuerConfigurations _ _ := default

/-- `TrustRegistryIssuerSchemas::get`: the stored schemas, or the empty set. -/
def issuerSchemas (state : State limits) (registryId : TrustRegistryId) (issuer : Issuer) :
    IssuerSchemas limits :=
  (state.trustRegistryIssuerSchemas registryId issuer).getD ∅

/-- `TrustRegistryIssuerSchemas::contains_key`. -/
def containsIssuerSchemas (state : State limits) (registryId : TrustRegistryId) (issuer : Issuer) :
    Bool :=
  (state.trustRegistryIssuerSchemas registryId issuer).isSome

end State

/-- `HasSchemasAndRegistries`: where the schemas and the registries of a target are
stored. -/
class HasSchemasAndRegistries (limits : Limits) (Target : Type) (Schemas Registries : outParam Type)
    where
  schemas : State limits → TrustRegistryId → Target → Schemas
  registries : State limits → Target → Registries
  /-- The write of `modify_schemas`. -/
  setSchemas : State limits → TrustRegistryId → Target → Schemas → State limits
  /-- The write of `modify_registries`. -/
  setRegistries : State limits → Target → Registries → State limits

variable {limits : Limits}

instance : HasSchemasAndRegistries limits Issuer (IssuerSchemas limits) (IssuerTrustRegistries limits)
    where
  schemas state registryId issuer := state.issuerSchemas registryId issuer
  registries state issuer := state.issuersTrustRegistries issuer
  setSchemas state registryId issuer schemas :=
    { state with
      trustRegistryIssuerSchemas := update₂ state.trustRegistryIssuerSchemas registryId issuer (some schemas) }
  setRegistries state issuer registries :=
    { state with issuersTrustRegistries := Function.update state.issuersTrustRegistries issuer registries }

instance : HasSchemasAndRegistries limits Verifier (VerifierSchemas limits) (VerifierTrustRegistries limits)
    where
  schemas state registryId verifier := state.trustRegistryVerifierSchemas registryId verifier
  registries state verifier := state.verifiersTrustRegistries verifier
  setSchemas state registryId verifier schemas :=
    { state with
      trustRegistryVerifierSchemas := update₂ state.trustRegistryVerifierSchemas registryId verifier schemas }
  setRegistries state verifier registries :=
    { state with
      verifiersTrustRegistries := Function.update state.verifiersTrustRegistries verifier registries }

end DockSubstrate.TrustRegistry
