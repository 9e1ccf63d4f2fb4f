import DockSubstrate.Revoke.Pallet
import DockSubstrate.Lib.Except

/-!
# What the revocation registries keep

An add-only registry is never replaced or removed, and its revocations are never removed:
`new_registry` refuses a taken id, and `unrevoke_` and `remove_registry_` refuse an add-only
registry (`dispatch_keeps_addOnly`, and `Runs.keeps_addOnly` over every run).

Revocations stay under registries that exist (`Registered`) as long as `remove_registry`
clears them all, which `clear_prefix` does for a registry with at most `u32::MAX` of them
(`dispatch_registered`).  A registry with more keeps revocations after its removal
(`removeRegistry_leaves`).
-/

namespace DockSubstrate.Revoke

open DockSubstrate.Lib DockSubstrate.Util DockSubstrate.Common

/-! ## The call bodies -/

theorem newRegistry_eq_ok {addRegistry : AddRegistry} {registry written : Option RevocationRegistry} {done : Unit} :
    newRegistry_ addRegistry registry = .ok (done, written) ↔
      addRegistry.newRegistry.policy.ensureValid = .ok () ∧ registry = none ∧ written = some addRegistry.newRegistry := by
  cases valid : addRegistry.newRegistry.policy.ensureValid <;> cases registry <;>
    simp [newRegistry_, valid, Except.mapError, @eq_comm _ written]

theorem unrevoke_eq_ok {action : UnRevokeRaw} {registry : RevocationRegistry}
    {revocations written : RevocationRegistryId → Finset RevokeId} :
    unrevoke_ action registry revocations = .ok written ↔
      registry.addOnly = false ∧
        written = Function.update revocations action.registryId (revocations action.registryId \ action.revokeIds) := by
  cases addOnly : registry.addOnly <;> simp [unrevoke_, addOnly, @eq_comm _ written]

theorem removeRegistry_eq_ok {backend : ClearPrefix} {action : RemoveRegistryRaw}
    {registry written : Option RevocationRegistry} {revocations cleared : RevocationRegistryId → Finset RevokeId} :
    removeRegistry_ backend action registry revocations = .ok (cleared, written) ↔
      (∃ taken, registry = some taken ∧ taken.addOnly = false) ∧ written = none ∧
        cleared = Function.update revocations action.registryId
          (backend.left u32Max (revocations action.registryId)) := by
  cases registry with
  | none => simp [removeRegistry_]
  | some taken =>
      cases addOnly : taken.addOnly <;> simp [removeRegistry_, addOnly, @eq_comm _ cleared, @eq_comm _ written, and_comm]

/-! ## The calls -/

section Dispatch

variable {Sig : Type} {backend : ClearPrefix}
  {authorize : Sig → Nat → Except DispatchError (Option DidOrDidMethodKey)} {state next : State}

theorem dispatch_newRegistry {addRegistry : AddRegistry}
    (ran : dispatch backend authorize (.newRegistry addRegistry) state = .ok next) :
    state.registries addRegistry.id = none ∧
      next = { state with
        registries := Function.update state.registries addRegistry.id (some addRegistry.newRegistry) } := by
  simp only [dispatch, modifyRemovable, one_ne_zero, if_false, Except.bind_eq_ok, Except.pure_eq_ok,
    Prod.exists, Prod.mk.injEq] at ran
  obtain ⟨_, _, ⟨_, written, created, -, rfl⟩, rfl⟩ := ran
  obtain ⟨-, free, rfl⟩ := newRegistry_eq_ok.mp created
  exact ⟨free, rfl⟩

theorem dispatch_revoke {action : RevokeRaw} {proof : List (SignatureWithNonce Sig)}
    (ran : dispatch backend authorize (.revoke action proof) state = .ok next) :
    (∃ registry, state.registries action.registryId = some registry) ∧
      ∃ nonces, next = { state with revocations := revoke_ action state.revocations, nonces } := by
  simp only [dispatch, Except.bind_eq_ok, Except.pure_eq_ok, Prod.exists] at ran
  obtain ⟨revocations, nonces, viewed, rfl⟩ := ran
  obtain ⟨registry, _, found, revoked⟩ := executeView_ran authorize id viewed
  obtain rfl := Except.pure_eq_ok.mp revoked
  exact ⟨⟨registry, found⟩, nonces, rfl⟩

theorem dispatch_unrevoke {action : UnRevokeRaw} {proof : List (SignatureWithNonce Sig)}
    (ran : dispatch backend authorize (.unrevoke action proof) state = .ok next) :
    ∃ registry, state.registries action.registryId = some registry ∧ registry.addOnly = false ∧
      ∃ nonces, next = { state with
        revocations := Function.update state.revocations action.registryId
          (state.revocations action.registryId \ action.revokeIds), nonces } := by
  simp only [dispatch, Except.bind_eq_ok, Except.pure_eq_ok, Prod.exists] at ran
  obtain ⟨revocations, nonces, viewed, rfl⟩ := ran
  obtain ⟨registry, _, found, unrevoked⟩ := executeView_ran authorize id viewed
  obtain ⟨addOnly, rfl⟩ := unrevoke_eq_ok.mp unrevoked
  exact ⟨registry, found, addOnly, nonces, rfl⟩

theorem dispatch_removeRegistry {action : RemoveRegistryRaw} {proof : List (SignatureWithNonce Sig)}
    (ran : dispatch backend authorize (.removeRegistry action proof) state = .ok next) :
    (∃ registry, state.registries action.registryId = some registry ∧ registry.addOnly = false) ∧
      ∃ nonces, next = { state with
        registries := Function.update state.registries action.registryId none
        revocations := Function.update state.revocations action.registryId
          (backend.left u32Max (state.revocations action.registryId))
        nonces } := by
  simp only [dispatch, Except.bind_eq_ok, Except.pure_eq_ok, Prod.exists] at ran
  obtain ⟨revocations, registry, nonces, removed, rfl⟩ := ran
  obtain ⟨_, ran⟩ := executeRemovable_ran authorize id removed
  obtain ⟨taken, rfl, rfl⟩ := removeRegistry_eq_ok.mp ran
  exact ⟨taken, nonces, rfl⟩

/-- A registry stays where an add-only registry is taken, which the calls that replace or
remove a registry refuse. -/
theorem ne_of_addOnly {id other : RevocationRegistryId} {registry taken : RevocationRegistry}
    (found : state.registries id = some registry) (addOnly : registry.addOnly = true)
    (takenFound : state.registries other = some taken) (removable : taken.addOnly = false) : id ≠ other := by
  rintro rfl
  obtain rfl : registry = taken := Option.some.inj (found.symm.trans takenFound)
  simp [addOnly] at removable

theorem revocations_subset_revoke {action : RevokeRaw} {revocations : RevocationRegistryId → Finset RevokeId}
    (id : RevocationRegistryId) : revocations id ⊆ revoke_ action revocations id := by
  by_cases same : id = action.registryId
  · subst same
    simp [revoke_]
  · simp [revoke_, Function.update_of_ne same]

end Dispatch

/-! ## Add-only registries are permanent -/

section AddOnly

variable {Sig : Type} {backend : ClearPrefix}
  {authorize : Sig → Nat → Except DispatchError (Option DidOrDidMethodKey)} {state next : State}
  {id : RevocationRegistryId} {registry : RevocationRegistry}

/-- A successful call keeps an add-only registry as it is, and its revocations. -/
theorem dispatch_keeps_addOnly {call : Call Sig} (ran : dispatch backend authorize call state = .ok next)
    (found : state.registries id = some registry) (addOnly : registry.addOnly = true) :
    next.registries id = some registry ∧ state.revocations id ⊆ next.revocations id := by
  cases call with
  | newRegistry addRegistry =>
      obtain ⟨free, rfl⟩ := dispatch_newRegistry ran
      have differs : id ≠ addRegistry.id := by
        rintro rfl
        simp [found] at free
      exact ⟨by simp [Function.update_of_ne differs, found], subset_rfl⟩
  | revoke action proof =>
      obtain ⟨-, nonces, rfl⟩ := dispatch_revoke ran
      exact ⟨found, revocations_subset_revoke id⟩
  | unrevoke action proof =>
      obtain ⟨taken, takenFound, removable, nonces, rfl⟩ := dispatch_unrevoke ran
      have differs := ne_of_addOnly found addOnly takenFound removable
      exact ⟨found, by simp [Function.update_of_ne differs]⟩
  | removeRegistry action proof =>
      obtain ⟨⟨taken, takenFound, removable⟩, nonces, rfl⟩ := dispatch_removeRegistry ran
      have differs := ne_of_addOnly found addOnly takenFound removable
      exact ⟨by simp [Function.update_of_ne differs, found], by simp [Function.update_of_ne differs]⟩

/-- Along every run, an add-only registry stays as it is, and keeps its revocations. -/
theorem Runs.keeps_addOnly (run : Relation.ReflTransGen (Step backend authorize) state next)
    (found : state.registries id = some registry) (addOnly : registry.addOnly = true) :
    next.registries id = some registry ∧ state.revocations id ⊆ next.revocations id := by
  induction run with
  | refl => exact ⟨found, subset_rfl⟩
  | tail _ step kept =>
      obtain ⟨call, ran⟩ := step
      obtain ⟨stays, grown⟩ := dispatch_keeps_addOnly ran kept.1 addOnly
      exact ⟨stays, kept.2.trans grown⟩

end AddOnly

/-! ## Revocations of removed registries -/

/-- Every registry with revocations exists. -/
def Registered (state : State) : Prop :=
  ∀ id, (state.revocations id).Nonempty → ∃ registry, state.registries id = some registry

/-- No registry has more revocations than `clear_prefix` deletes at once. -/
def WithinClearLimit (state : State) : Prop :=
  ∀ id, (state.revocations id).card ≤ u32Max

theorem registered_initial (nonces : Nonces DidOrDidMethodKey) : Registered (initial nonces) := by
  intro id nonempty
  simp [initial] at nonempty

section Registered

variable {Sig : Type} {backend : ClearPrefix}
  {authorize : Sig → Nat → Except DispatchError (Option DidOrDidMethodKey)} {state next : State}

/-- From a state within the limit, a successful call keeps revocations under existing
registries: `remove_registry` then clears all of a registry's revocations. -/
theorem dispatch_registered {call : Call Sig} (ran : dispatch backend authorize call state = .ok next)
    (registered : Registered state) (within : WithinClearLimit state) : Registered next := by
  cases call with
  | newRegistry addRegistry =>
      obtain ⟨-, rfl⟩ := dispatch_newRegistry ran
      intro id nonempty
      by_cases same : id = addRegistry.id
      · subst same
        exact ⟨_, Function.update_self ..⟩
      · obtain ⟨registry, found⟩ := registered id nonempty
        exact ⟨registry, by simp [Function.update_of_ne same, found]⟩
  | revoke action proof =>
      obtain ⟨⟨registry, found⟩, nonces, rfl⟩ := dispatch_revoke ran
      intro id nonempty
      by_cases same : id = action.registryId
      · subst same
        exact ⟨registry, found⟩
      · exact registered id (by simpa [revoke_, Function.update_of_ne same] using nonempty)
  | unrevoke action proof =>
      obtain ⟨-, -, -, nonces, rfl⟩ := dispatch_unrevoke ran
      intro id nonempty
      apply registered id
      by_cases same : id = action.registryId
      · subst same
        exact nonempty.mono (by simp)
      · simpa [Function.update_of_ne same] using nonempty
  | removeRegistry action proof =>
      obtain ⟨-, nonces, rfl⟩ := dispatch_removeRegistry ran
      intro id nonempty
      by_cases same : id = action.registryId
      · subst same
        -- within the limit, `clear_prefix` leaves nothing
        simp [backend.left_of_card_le _ _ (within _)] at nonempty
      · obtain ⟨registry, found⟩ := registered id (by simpa [Function.update_of_ne same] using nonempty)
        exact ⟨registry, by simp [Function.update_of_ne same, found]⟩

/-- Along every run from no registries whose states stay within the limit, revocations stay
under existing registries. -/
theorem Runs.registered {nonces : Nonces DidOrDidMethodKey}
    (run : Relation.ReflTransGen (fun state next => WithinClearLimit state ∧ Step backend authorize state next)
      (initial nonces) state) : Registered state := by
  induction run with
  | refl => exact registered_initial nonces
  | tail _ step registered =>
      obtain ⟨within, call, ran⟩ := step
      exact dispatch_registered ran registered within

end Registered

/-! ## Runs signed by one controller -/

/-- Signatures that are their signer's own, and verify. -/
def signerItself (signer : DidOrDidMethodKey) (_ : Nat) : Except DispatchError (Option DidOrDidMethodKey) :=
  .ok (some signer)

section Signed

variable {backend : ClearPrefix} {state : State} {signer : DidOrDidMethodKey} {current : Nat}

/-- One controller of the policy signs with its next nonce: the function runs with it. -/
theorem executeInner_signedBy {ρ : Type} {run : Finset DidOrDidMethodKey → Except DispatchError ρ} {len : Nat}
    (nonEmpty : len ≠ 0) {controllers : Finset DidOrDidMethodKey} {nonces : Nonces DidOrDidMethodKey}
    (member : signer ∈ controllers) (stored : nonces signer = some current) (fits : current + 1 ≤ u32Max) :
    executeInner signerItself id len run ∅ (some (.anyOf controllers)) [⟨signer, current + 1⟩] nonces =
      ((run {signer}).mapError .dispatch).map (·, increaseNonces nonces [signer]) := by
  have verified : Verified signerItself id nonces [⟨signer, current + 1⟩] [signer] :=
    .cons ⟨rfl, by simp [stored, WithNonce.isNextNonce_iff, fits]⟩ .nil
  have signed : InclusionRule.SignedByAfter (some (.anyOf controllers)) [signer] := by
    unfold InclusionRule.SignedByAfter InclusionRule.SignedBy
    exact ⟨signer, member, rfl⟩
  rw [executeInner_of_verified signerItself id nonEmpty run nonces verified signed]
  simp

theorem dispatch_newRegistry_of_free {Sig : Type} {authorize : Sig → Nat → Except DispatchError (Option DidOrDidMethodKey)}
    {addRegistry : AddRegistry} (free : state.registries addRegistry.id = none)
    (valid : addRegistry.newRegistry.policy.oneOf.Nonempty) :
    dispatch backend authorize (.newRegistry addRegistry) state = .ok { state with
      registries := Function.update state.registries addRegistry.id (some addRegistry.newRegistry) } := by
  have checked : addRegistry.newRegistry.policy.ensureValid = .ok () := by
    simp [Policy.ensureValid, Finset.card_ne_zero.mpr valid]
  simp [dispatch, modifyRemovable, newRegistry_, free, checked, Except.mapError]

theorem dispatch_revoke_signedBy {action : RevokeRaw} {registry : RevocationRegistry}
    (found : state.registries action.registryId = some registry) (member : signer ∈ registry.policy.oneOf)
    (nonEmpty : action.revokeIds.card ≠ 0) (stored : state.nonces signer = some current) (fits : current + 1 ≤ u32Max) :
    dispatch backend signerItself (.revoke action [⟨signer, current + 1⟩]) state = .ok { state with
      revocations := revoke_ action state.revocations, nonces := increaseNonces state.nonces [signer] } := by
  simp only [dispatch, found, executeView_eq signerItself id nonEmpty, Policy.expand,
    executeInner_signedBy nonEmpty member stored fits]
  rfl

theorem dispatch_removeRegistry_signedBy {action : RemoveRegistryRaw} {registry : RevocationRegistry}
    (found : state.registries action.registryId = some registry) (removable : registry.addOnly = false)
    (member : signer ∈ registry.policy.oneOf) (stored : state.nonces signer = some current)
    (fits : current + 1 ≤ u32Max) :
    dispatch backend signerItself (.removeRegistry action [⟨signer, current + 1⟩]) state = .ok { state with
      registries := Function.update state.registries action.registryId none
      revocations := Function.update state.revocations action.registryId
        (backend.left u32Max (state.revocations action.registryId))
      nonces := increaseNonces state.nonces [signer] } := by
  simp only [dispatch, found, executeRemovable_eq signerItself id one_ne_zero, Option.map_some, Policy.expand,
    executeInner_signedBy one_ne_zero member stored fits, removeRegistry_, removable]
  rfl

end Signed

/-- A registry that is not add-only, given `u32::MAX + 1` revocations and removed: the
revocations `clear_prefix` leaves stay, under no registry. -/
theorem removeRegistry_leaves (backend : ClearPrefix) :
    ∃ state, Reachable backend signerItself (fun _ => some 0) state ∧ state.registries ⟨0⟩ = none ∧
      (state.revocations ⟨0⟩).Nonempty := by
  have card : ((Finset.range (u32Max + 1)).map ⟨RevokeId.mk, fun _ _ same => RevokeId.mk.inj same⟩).card =
      u32Max + 1 := by
    simp
  obtain ⟨created, create, found, empty, nonce⟩ : ∃ created,
      dispatch backend signerItself (.newRegistry ⟨⟨0⟩, ⟨⟨{.did ⟨0⟩}⟩, false⟩⟩) (initial fun _ => some 0) =
        .ok created ∧ created.registries ⟨0⟩ = some ⟨⟨{.did ⟨0⟩}⟩, false⟩ ∧ created.revocations ⟨0⟩ = ∅ ∧
        created.nonces (.did ⟨0⟩) = some 0 :=
    ⟨_, dispatch_newRegistry_of_free rfl (by simp), by simp, rfl, rfl⟩
  obtain ⟨revoked, revoke, revokedFound, revokedIds, revokedNonce⟩ : ∃ revoked,
      dispatch backend signerItself
          (.revoke ⟨⟨0⟩, (Finset.range (u32Max + 1)).map ⟨RevokeId.mk, fun _ _ same => RevokeId.mk.inj same⟩⟩
            [⟨.did ⟨0⟩, 1⟩]) created = .ok revoked ∧
        revoked.registries ⟨0⟩ = some ⟨⟨{.did ⟨0⟩}⟩, false⟩ ∧
        revoked.revocations ⟨0⟩ = (Finset.range (u32Max + 1)).map ⟨RevokeId.mk, fun _ _ same => RevokeId.mk.inj same⟩ ∧
        revoked.nonces (.did ⟨0⟩) = some 1 :=
    ⟨_, dispatch_revoke_signedBy found (by simp) (by simp [card]) nonce (by decide), found,
      by simp [revoke_, empty], by simp [increaseNonces, nonce]⟩
  obtain ⟨removed, remove, gone, left⟩ : ∃ removed,
      dispatch backend signerItself (.removeRegistry ⟨⟨0⟩⟩ [⟨.did ⟨0⟩, 2⟩]) revoked = .ok removed ∧
        removed.registries ⟨0⟩ = none ∧
        removed.revocations ⟨0⟩ = backend.left u32Max
          ((Finset.range (u32Max + 1)).map ⟨RevokeId.mk, fun _ _ same => RevokeId.mk.inj same⟩) :=
    ⟨_, dispatch_removeRegistry_signedBy revokedFound rfl (by simp) revokedNonce (by decide), by simp,
      by simp [revokedIds]⟩
  -- `clear_prefix` deletes at most `u32::MAX` of the `u32::MAX + 1` revocations
  have kept : 0 < (removed.revocations ⟨0⟩).card := by
    have atMost := backend.card_le_left u32Max
      ((Finset.range (u32Max + 1)).map ⟨RevokeId.mk, fun _ _ same => RevokeId.mk.inj same⟩)
    rw [card, ← left] at atMost
    omega
  exact ⟨removed, .tail (.tail (.single ⟨_, create⟩) ⟨_, revoke⟩) ⟨_, remove⟩, gone, Finset.card_pos.mp kept⟩

/-- With the keys deleted in ascending order: the registry removed leaves a revocation. -/
theorem removeRegistry_leaves_ascending :
    ∃ state, Reachable ClearPrefix.ascending signerItself (fun _ => some 0) state ∧ state.registries ⟨0⟩ = none ∧
      (state.revocations ⟨0⟩).Nonempty :=
  removeRegistry_leaves ClearPrefix.ascending

/-! ## Add-only registries, and revocations under existing registries -/

theorem addOnlyRegistries_permanent {Sig : Type} (backend : ClearPrefix)
    (authorize : Sig → Nat → Except DispatchError (Option DidOrDidMethodKey)) (nonces : Nonces DidOrDidMethodKey) :
    (∀ state next, Relation.ReflTransGen (Step backend authorize) state next →
      ∀ id registry, state.registries id = some registry → registry.addOnly = true →
        next.registries id = some registry ∧ state.revocations id ⊆ next.revocations id) ∧
    (∀ state, Relation.ReflTransGen (fun state next => WithinClearLimit state ∧ Step backend authorize state next)
        (initial nonces) state →
      ∀ id, (state.revocations id).Nonempty → ∃ registry, state.registries id = some registry) := by
  refine ⟨?_, ?_⟩
  · intro state next run id registry found addOnly
    exact Runs.keeps_addOnly run found addOnly
  · intro state run
    exact Runs.registered run

theorem addOnlyRegistries_permanent_run :
    ∃ created next,
      dispatch ClearPrefix.ascending signerItself (.newRegistry ⟨⟨0⟩, ⟨⟨{.did ⟨0⟩}⟩, true⟩⟩)
        (initial fun _ => some 0) = .ok created ∧
      dispatch ClearPrefix.ascending signerItself (.revoke ⟨⟨0⟩, {⟨1⟩}⟩ [⟨.did ⟨0⟩, 1⟩]) created = .ok next ∧
      next.registries ⟨0⟩ = some ⟨⟨{.did ⟨0⟩}⟩, true⟩ ∧ created.revocations ⟨0⟩ ⊆ next.revocations ⟨0⟩ := by
  obtain ⟨created, create, found, nonce⟩ : ∃ created,
      dispatch ClearPrefix.ascending signerItself (.newRegistry ⟨⟨0⟩, ⟨⟨{.did ⟨0⟩}⟩, true⟩⟩)
          (initial fun _ => some 0) = .ok created ∧
        created.registries ⟨0⟩ = some ⟨⟨{.did ⟨0⟩}⟩, true⟩ ∧ created.nonces (.did ⟨0⟩) = some 0 :=
    ⟨_, dispatch_newRegistry_of_free rfl (by simp), by simp, rfl⟩
  obtain ⟨next, revoke⟩ : ∃ next,
      dispatch ClearPrefix.ascending signerItself (.revoke ⟨⟨0⟩, {⟨1⟩}⟩ [⟨.did ⟨0⟩, 1⟩]) created = .ok next :=
    ⟨_, dispatch_revoke_signedBy found (by simp) (by simp) nonce (by decide)⟩
  exact ⟨created, next, create, revoke,
    (addOnlyRegistries_permanent ClearPrefix.ascending signerItself (fun _ => some 0)).1 created next
      (.single ⟨_, revoke⟩) ⟨0⟩ _ found rfl⟩

end DockSubstrate.Revoke
