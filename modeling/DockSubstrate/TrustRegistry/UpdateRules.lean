import DockSubstrate.TrustRegistry.Types

/-!
# Update rules

Who may apply which update (`modules/trust_registry/update_rules.rs`).  Every
`CanUpdate` method that the source does not implement keeps the trait's default,
`false`; every `CanUpdateKeyed` that it does not implement is absent, so that an update
needing it does not type-check, as in the source.

The convener may do everything.  An issuer or verifier that is not the convener may
change the prices of its own entry in a schema's issuers, remove its own entry from a
schema's issuers or verifiers, and nothing else of the schema metadata: the keyed
rules for the issuers and verifiers of a schema (`Issuer` and `Verifier` below) admit
an update only when the actor is present and every target is the actor itself.
-/

namespace DockSubstrate.TrustRegistry

open DockSubstrate.Lib DockSubstrate.Util KeyValue

variable {limits : Limits}

instance : CanUpdate Convener VerificationPrice where
  canAdd _ _ := true
  canRemove _ _ := true
  canReplace _ _ _ := true

instance : CanUpdate IssuerOrVerifier VerificationPrice where
  canAdd _ _ := true
  canRemove _ _ := true
  canReplace _ _ _ := true

instance : CanUpdate IssuerOrVerifier (TrustRegistrySchemaIssuers limits) := {}

instance : CanUpdate IssuerOrVerifier (TrustRegistrySchemaVerifiers limits) := {}

/-- Participants change only with the consent of every targeted participant. -/
instance : CanUpdateKeyed IssuersOrVerifiers (TrustRegistryStoredParticipants limits) IssuerOrVerifier where
  canUpdateKeyed self _ targets := targets.all self.contains

/-- An issuer may touch only its own entry of a schema's issuers, and only if it has one. -/
instance : CanUpdateKeyed Issuer (TrustRegistrySchemaIssuers limits) Issuer where
  canUpdateKeyed self entity targets := containsKey entity self && targets.all (· == self)

/-- A verifier may touch only its own entry of a schema's verifiers, and only if it has one. -/
instance : CanUpdateKeyed Verifier (TrustRegistrySchemaVerifiers limits) Verifier where
  canUpdateKeyed self entity targets := containsKey entity self && targets.all (· == self)

instance : CanUpdateKeyed IssuerOrVerifier (TrustRegistrySchemaIssuers limits) Issuer where
  canUpdateKeyed self := canUpdateKeyed (Issuer.mk self.did)

instance : CanUpdateKeyed IssuerOrVerifier (TrustRegistrySchemaVerifiers limits) Verifier where
  canUpdateKeyed self := canUpdateKeyed (Verifier.mk self.did)

instance : CanUpdateKeyed IssuerOrVerifier (VerificationPrices limits)
    (BoundedString limits.maxIssuerPriceCurrencySymbolSize) where
  canUpdateKeyed _ _ _ := true

instance : CanUpdateKeyed Issuer (IssuerSchemas limits) TrustRegistrySchemaId where
  canUpdateKeyed _ _ _ := true

instance : CanUpdateKeyed Convener (IssuerSchemas limits) TrustRegistrySchemaId where
  canUpdateKeyed _ _ _ := true

instance : CanUpdateKeyed IssuerOrVerifier (IssuerSchemas limits) TrustRegistrySchemaId where
  canUpdateKeyed self := canUpdateKeyed (Issuer.mk self.did)

instance : CanUpdateKeyed Issuer (DelegatedIssuerSchemas limits) TrustRegistrySchemaId where
  canUpdateKeyed _ _ _ := true

instance : CanUpdateKeyed Verifier (VerifierSchemas limits) TrustRegistrySchemaId where
  canUpdateKeyed _ _ _ := true

instance : CanUpdateKeyed Convener (VerifierSchemas limits) TrustRegistrySchemaId where
  canUpdateKeyed _ _ _ := true

instance : CanUpdateKeyed IssuerOrVerifier (VerifierSchemas limits) TrustRegistrySchemaId where
  canUpdateKeyed self := canUpdateKeyed (Verifier.mk self.did)

/-- An issuer never delegates to itself. -/
instance : CanUpdateKeyed Issuer (DelegatedIssuers limits) Issuer where
  canUpdateKeyed self _ targets := targets.all (· != self)

instance : CanUpdate Issuer (DelegatedIssuers limits) where
  canReplace self new _ := !containsKey new self

instance : CanUpdate Convener (VerificationPrices limits) where
  canAdd _ _ := true
  canRemove _ _ := true
  canReplace _ _ _ := true

instance : CanUpdate IssuerOrVerifier (VerificationPrices limits) where
  canRemove _ _ := true
  canReplace _ _ _ := true

instance : CanUpdateKeyed Convener (TrustRegistrySchemaIssuers limits) Issuer where
  canUpdateKeyed _ _ _ := true

instance : CanUpdateKeyed Convener (TrustRegistrySchemaVerifiers limits) Verifier where
  canUpdateKeyed _ _ _ := true

instance : CanUpdateKeyed Convener (VerifierTrustRegistries limits) TrustRegistryId where
  canUpdateKeyed _ _ _ := true

instance : CanUpdateKeyed Convener (IssuerTrustRegistries limits) TrustRegistryId where
  canUpdateKeyed _ _ _ := true

instance : CanUpdateKeyed Issuer (IssuerTrustRegistries limits) TrustRegistryId where
  canUpdateKeyed _ _ _ := true

instance : CanUpdateKeyed Verifier (VerifierTrustRegistries limits) TrustRegistryId where
  canUpdateKeyed _ _ _ := true

instance : CanUpdateKeyed IssuerOrVerifier (IssuerTrustRegistries limits) TrustRegistryId where
  canUpdateKeyed self := canUpdateKeyed (Issuer.mk self.did)

instance : CanUpdateKeyed IssuerOrVerifier (VerifierTrustRegistries limits) TrustRegistryId where
  canUpdateKeyed self := canUpdateKeyed (Verifier.mk self.did)

instance : CanUpdateKeyed Convener (TrustRegistryStoredSchemas limits) TrustRegistrySchemaId where
  canUpdateKeyed _ _ _ := true

/-- Only the convener adds or removes schemas of a registry. -/
instance : CanUpdateKeyed IssuerOrVerifier (TrustRegistryStoredSchemas limits) TrustRegistrySchemaId where
  canUpdateKeyed _ _ _ := false

instance : CanUpdate Convener (TrustRegistrySchemaIssuers limits) where
  canAdd _ _ := true
  canRemove _ _ := true
  canReplace _ _ _ := true

instance : CanUpdateKeyed Convener (VerificationPrices limits)
    (BoundedString limits.maxIssuerPriceCurrencySymbolSize) where
  canUpdateKeyed _ _ _ := true

instance : CanUpdateKeyed Convener (DelegatedIssuerSchemas limits) TrustRegistrySchemaId where
  canUpdateKeyed _ _ _ := true

instance : CanUpdateKeyed IssuerOrVerifier (DelegatedIssuerSchemas limits) TrustRegistrySchemaId where
  canUpdateKeyed _ _ _ := true

instance : CanUpdate Convener (TrustRegistrySchemaVerifiers limits) where
  canAdd _ _ := true
  canRemove _ _ := true
  canReplace _ _ _ := true

instance : CanUpdate Convener (TrustRegistrySchemaMetadata limits) where
  canAdd _ _ := true
  canRemove _ _ := true
  canReplace _ _ _ := true

instance : CanUpdate Convener DelegatedSchemaCounter where
  canAdd _ _ := true
  canRemove _ _ := true
  canReplace _ _ _ := true

instance : CanUpdate IssuerOrVerifier DelegatedSchemaCounter where
  canAdd _ _ := true
  canRemove _ _ := true
  canReplace _ _ _ := true

instance : CanUpdate Issuer DelegatedSchemaCounter where
  canAdd _ _ := true
  canRemove _ _ := true
  canReplace _ _ _ := true

/-- An issuer or verifier adds, replaces or removes no schema metadata. -/
instance : CanUpdate IssuerOrVerifier (TrustRegistrySchemaMetadata limits) := {}

end DockSubstrate.TrustRegistry
