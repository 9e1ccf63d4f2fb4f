import DockSubstrate.TrustRegistry.Consistency

/-!
# What the validation of `set_schemas_metadata` misses

`set_schemas_metadata` validates the whole update before it writes anything, and its
execution relies on that validation.  Two of its checks fall short.

* A target's participation in the registry is checked when the update of its schemas is
  an `Add`, but the kind of a keyed update is only ever `Replace` or `None`, so the check
  never fires (`validateTargets_ne_notAParticipant`).
* The combined counter update of a delegated issuer is validated from the kinds of its
  counter steps, and `IncOrDec` reports every decrement of a present counter as a
  removal, also when the counter stays (`IncOrDec.kind_dec_of_stays`): a full counter map
  passes validation and overflows when the update is applied.

Both show on one run from the empty storage, under the limits of the test runtime with
two schemas per issuer.
-/

namespace DockSubstrate.TrustRegistry

open DockSubstrate.Lib DockSubstrate.Util KeyValue

variable {limits : Limits}

/-! ## The participants check -/

theorem Error.ofUpdateError_ne_notAParticipant (error : UpdateError) :
    Error.ofUpdateError error ≠ .notAParticipant := by
  cases error <;> decide

section Targets

variable {Target Schemas Registries : Type} [LinearOrder Target]
  [HasSchemasAndRegistries limits Target Schemas Registries]
  [KeyValue Schemas TrustRegistrySchemaId Unit] [KeyValue Registries TrustRegistryId Unit]
  [CanUpdateKeyed Convener Schemas TrustRegistrySchemaId]
  [CanUpdateKeyed IssuerOrVerifier Schemas TrustRegistrySchemaId]
  [CanUpdateKeyed Convener Registries TrustRegistryId]
  [CanUpdateKeyed IssuerOrVerifier Registries TrustRegistryId]

/-- The validation of the targets' rows never reports a target that is not a participant:
a row is a keyed update, whose kind is never `Add`. -/
theorem validateTargets_ne_notAParticipant (self : MultiSchemaIdUpdate Target)
    (actor : ConvenerOrIssuerOrVerifier) (registryId : TrustRegistryId) (registryInfo : TrustRegistryInfo limits)
    (state : State limits) (allowed : List Target) :
    validateTargets self actor registryId registryInfo state allowed ≠ .error .notAParticipant := by
  unfold validateTargets
  refine Except.foldlM_ne_error (fun validated ⟨target, update⟩ failed => ?_) _ _
  rcases Except.bind_eq_error.mp failed with checkFailed | ⟨_, -, rest⟩
  · obtain ⟨error, -, named⟩ := Except.mapError_eq_error.mp checkFailed
    exact Error.ofUpdateError_ne_notAParticipant error named
  · -- the row's kind is `Replace` or `None`, so only the check of the registries can fail
    rcases MultiTargetUpdate.kind_replacing update (HasSchemasAndRegistries.schemas state registryId target)
      with replaced | nothing
    · rw [MultiTargetUpdate.kind_eq, replaced] at rest
      dsimp only at rest
      rw [if_neg (by simp), if_neg (by simp)] at rest
      split at rest
      · rcases Except.bind_eq_error.mp rest with checkFailed | ⟨_, -, stored⟩
        · obtain ⟨error, -, named⟩ := Except.mapError_eq_error.mp checkFailed
          exact Error.ofUpdateError_ne_notAParticipant error named
        · cases stored
      · cases rest
    · rw [MultiTargetUpdate.kind_eq, nothing] at rest
      dsimp only at rest
      rw [if_pos rfl] at rest
      cases rest

end Targets

/-! ## A run on two schemas per issuer

The convener of registry `0` gives schema `a` to the issuers `1` and `2`, schema `b`
to issuer `2`, and an empty schema `c`; the only participant is issuer `3`, to which
both issuers then delegate.  Issuer `3` counts two delegators of `a` and one of `b`,
and its counters are full. -/

namespace TwoSchemas

/-- The limits of the test runtime, with room for two schemas per issuer. -/
def smallLimits : Limits := { Limits.test with maxSchemasPerIssuer := 2 }

def registry : TrustRegistryId := ⟨0⟩

def convener : ConvenerOrIssuerOrVerifier := ⟨.did ⟨0⟩⟩

def schemaA : TrustRegistrySchemaId := ⟨1⟩

def schemaB : TrustRegistrySchemaId := ⟨2⟩

def schemaC : TrustRegistrySchemaId := ⟨3⟩

def firstIssuer : Issuer := ⟨.did ⟨1⟩⟩

def secondIssuer : Issuer := ⟨.did ⟨2⟩⟩

def delegate : Issuer := ⟨.did ⟨3⟩⟩

/-- A schema's metadata with the issuers of a list, none of them with prices. -/
def metadataOf (issuers : List Issuer) : TrustRegistrySchemaMetadata smallLimits :=
  ⟨⟨(BoundedMap.ofSortedMap? (SortedMap.ofList (issuers.map fun issuer => (issuer, ∅)))).getD ∅⟩, ⟨∅⟩⟩

/-- The delegations of an issuer to the issuers of a list. -/
def delegationsTo (issuers : List Issuer) : DelegatedIssuers smallLimits :=
  ⟨(BoundedMap.ofSortedMap? (SortedMap.ofList (issuers.map fun issuer => (issuer, ())))).getD ∅⟩

/-- The convener adds the three schemas. -/
def addSchemas : SetSchemasMetadata smallLimits :=
  ⟨registry, .modify (MultiTargetUpdate.ofList [(schemaA, .add (metadataOf [firstIssuer, secondIssuer])),
    (schemaB, .add (metadataOf [secondIssuer])), (schemaC, .add (metadataOf []))]), 0⟩

/-- The registry is created and issuer `3` made a participant. -/
def opening : List (Call smallLimits) :=
  [.initOrUpdateTrustRegistry ⟨registry, "registry", [], 0⟩ ⟨convener.did⟩,
    .changeParticipants ⟨registry, MultiTargetUpdate.ofList [(⟨delegate.did⟩, .add ())]⟩ [⟨delegate.did⟩]]

/-- The schemas are added, and both issuers delegate to issuer `3`. -/
def setup : List (Call smallLimits) :=
  opening ++ [.setSchemasMetadata addSchemas convener,
    .updateDelegatedIssuers ⟨registry, .set (delegationsTo [delegate]), 0⟩ firstIssuer,
    .updateDelegatedIssuers ⟨registry, .set (delegationsTo [delegate]), 0⟩ secondIssuer]

/-- The convener moves the first issuer from schema `a` to schema `c`: issuer `3`
loses one of two delegators of `a` and gains one of `c`. -/
def moveFirstIssuer : SetSchemasMetadata smallLimits :=
  ⟨registry, .modify (MultiTargetUpdate.ofList
    [(schemaA, .modify ⟨⟨some (.modify (MultiTargetUpdate.ofList [(firstIssuer, .remove)])), none⟩⟩),
      (schemaC, .modify ⟨⟨some (.modify (MultiTargetUpdate.ofList [(firstIssuer, .add ⟨∅⟩)])), none⟩⟩)]), 0⟩

/-- The counter of a schema delegated by one or two issuers. -/
def counter (count : Nat) (positive : 0 < count := by decide) (fits : count ≤ u32Max := by decide) :
    DelegatedSchemaCounter :=
  ⟨⟨count, positive, fits⟩⟩

theorem one_le_u32Max : 1 ≤ u32Max := by decide

theorem two_le_u32Max : 2 ≤ u32Max := by decide

/-- Issuer `3`'s counters after the setup: two delegators of `a`, one of `b`. -/
def fullCounters : DelegatedIssuerSchemas smallLimits :=
  ⟨(BoundedMap.ofSortedMap? (SortedMap.ofList
    [(schemaA, counter 2 Nat.zero_lt_two two_le_u32Max), (schemaB, counter 1 Nat.one_pos one_le_u32Max)])).getD ∅⟩

/-- The combined counter update of issuer `3` when the first issuer moves from `a` to `c`. -/
def moveSteps : SchemaIdUpdate IncOrDec :=
  MultiTargetUpdate.ofList [(schemaA, .dec IncOrDec.ONE), (schemaC, .inc IncOrDec.ONE)]

end TwoSchemas

open TwoSchemas

theorem setSchemasMetadata_lists_nonParticipant :
    ∃ state next : State smallLimits, Reachable state ∧
      dispatch (.setSchemasMetadata addSchemas convener) state = .ok next ∧
      containsKey (state.trustRegistriesParticipants registry) ⟨firstIssuer.did⟩ = false ∧
      containsKey (state.issuerSchemas registry firstIssuer) schemaA = false ∧
      containsKey (next.issuerSchemas registry firstIssuer) schemaA = true :=
  ⟨_, _, Reachable.runCalls .refl (rfl : runCalls opening State.empty = .ok _), rfl, by decide, by decide, by decide⟩

theorem validated_setSchemasMetadata_panics :
    ∃ state : State smallLimits, Reachable state ∧ IndexConsistent state ∧
      ∃ info, state.trustRegistriesInfo registry = some info ∧
        (moveFirstIssuer.schemas.validateAndRecordDiff convener registry info state).isOk = true ∧
        setSchemasMetadata_ moveFirstIssuer info convener state = .error (.panic .updateFailed) := by
  have reachable := Reachable.runCalls .refl (rfl : runCalls setup State.empty = .ok _)
  exact ⟨_, reachable, reachable.indexConsistent, _, rfl, by decide, rfl⟩

theorem counterUpdate_validated_overflows :
    ValidateUpdate.ensureValid moveSteps (Convener.mk convener.did) fullCounters = .ok () ∧
      ApplyUpdate.applyUpdate moveSteps fullCounters = .error .updateFailed := by
  decide

/-- A valid decrement of issuer `3`'s counter of `a`, which stays at one, is reported as a
removal. -/
theorem incOrDec_kind_reports_kept_counter_removed :
    ValidateUpdate.ensureValid (IncOrDec.dec IncOrDec.ONE) (Convener.mk convener.did) (some (counter 2)) = .ok () ∧
      GetUpdateKind.kind (IncOrDec.dec IncOrDec.ONE) (some (counter 2)) = .remove ∧
      ApplyUpdate.applyUpdate (IncOrDec.dec IncOrDec.ONE) (some (counter 2)) = .ok (some (counter 1)) := by
  decide

/-- The keys diff of a valid decrement of issuer `3`'s counter of `a` removes `a`, which
the application keeps. -/
theorem counterKeysDiff_reports_kept_key_removed :
    ValidateUpdate.ensureValid (MultiTargetUpdate.ofList [(schemaA, IncOrDec.dec IncOrDec.ONE)])
        (Convener.mk convener.did) fullCounters = .ok () ∧
      (KeyedUpdate.keysDiff (MultiTargetUpdate.ofList [(schemaA, IncOrDec.dec IncOrDec.ONE)])
        fullCounters).get? schemaA = some .remove ∧
      ∃ after, ApplyUpdate.applyUpdate (MultiTargetUpdate.ofList [(schemaA, IncOrDec.dec IncOrDec.ONE)])
        fullCounters = .ok after ∧ containsKey after schemaA = true :=
  ⟨by decide, by decide, _, rfl, by decide⟩

end DockSubstrate.TrustRegistry
