import Mathlib
import DockSubstrate.Did.Base
import DockSubstrate.Common.SignedAction

/-!
# Revocation registries

The revoke pallet (`modules/revoke`): `Registries` maps a registry's id to its policy and
`add_only` flag, and `Revocations` holds, under a registry's id, the ids revoked in it.  A
registry is created by anyone (`new_registry`); its revocations are added (`revoke`) and
removed (`unrevoke`), and the registry is removed with them (`remove_registry`), by
signatures of its policy's controllers, through `MultiSignedAction`.

`remove_registry_` removes the revocations with `clear_prefix(registry_id, u32::MAX, None)`,
which deletes at most `u32::MAX` keys from the storage backend, taken in the order of their
hashes.  `ClearPrefix` says what such a deletion leaves, with the order left abstract.
-/

namespace DockSubstrate.Revoke

open DockSubstrate.Lib DockSubstrate.Util DockSubstrate.Common

/-- `RevocationRegistryId`: 32 bytes, a number here. -/
structure RevocationRegistryId where
  raw : Nat
  deriving DecidableEq, Repr

/-- `RevokeId`: 32 bytes, a number here. -/
structure RevokeId where
  raw : Nat
  deriving DecidableEq, Repr

instance : LinearOrder RevokeId := LinearOrder.lift' RevokeId.raw fun ⟨_⟩ ⟨_⟩ same => congrArg RevokeId.mk same

/-- `PolicyValidationError`. -/
inductive PolicyValidationError where
  | empty
  | tooManyControllers
  deriving DecidableEq, Repr

/-- `Policy::OneOf`: the controllers any one of which may act on the registry. -/
structure Policy where
  oneOf : Finset DidOrDidMethodKey

/-- `Policy::ensure_valid`. -/
def Policy.ensureValid (policy : Policy) : Except PolicyValidationError Unit :=
  if policy.oneOf.card = 0 then throw .empty else pure ()

/-- `Policy::expand`: any one of the controllers signs. -/
def Policy.expand (policy : Policy) : InclusionRule DidOrDidMethodKey :=
  .anyOf policy.oneOf

/-- `RevocationRegistry`. -/
structure RevocationRegistry where
  policy : Policy
  addOnly : Bool

/-- `revoke::Error`. -/
inductive Error where
  | regExists
  | registryDoesntExist
  | incorrectNonce
  | tooManyControllers
  | addOnly
  | emptyPayload
  deriving DecidableEq, Repr

/-- Why a call fails: the pallet's error, a policy's (`did::Error`'s `EmptyPolicy` and
`TooManyControllersInPolicy`), or an error of the DID pallet that the verification of a
signature raises. -/
inductive DispatchError where
  | revoke (error : Error)
  | policy (error : PolicyValidationError)
  | signature
  deriving DecidableEq, Repr

/-- `AddRegistry`. -/
structure AddRegistry where
  id : RevocationRegistryId
  newRegistry : RevocationRegistry

/-- `RevokeRaw`. -/
structure RevokeRaw where
  registryId : RevocationRegistryId
  revokeIds : Finset RevokeId

/-- `UnRevokeRaw`. -/
structure UnRevokeRaw where
  registryId : RevocationRegistryId
  revokeIds : Finset RevokeId

/-- `RemoveRegistryRaw`. -/
structure RemoveRegistryRaw where
  registryId : RevocationRegistryId

/-- `Registries`, `Revocations` (a set of ids under each registry), and the nonces the
signers store in the DID pallet, by DID or DID method key. -/
structure State where
  registries : RevocationRegistryId → Option RevocationRegistry
  revocations : RevocationRegistryId → Finset RevokeId
  nonces : Nonces DidOrDidMethodKey

/-- No registry and no revocation, with the signers' nonces. -/
def initial (nonces : Nonces DidOrDidMethodKey) : State :=
  ⟨fun _ => none, fun _ => ∅, nonces⟩

/-! ## Clearing a prefix -/

/-- `StorageDoubleMap::clear_prefix` with a limit: at most `limit` of the keys under the
prefix are deleted, all of them when there are no more; which ones follows the order of
their hashes.  Every key is taken to be in the backend, as each call here is a block of
its own. -/
structure ClearPrefix where
  /-- The keys left under the prefix. -/
  left : Nat → Finset RevokeId → Finset RevokeId
  left_subset : ∀ limit ids, left limit ids ⊆ ids
  left_of_card_le : ∀ limit ids, ids.card ≤ limit → left limit ids = ∅
  card_le_left : ∀ limit ids, ids.card ≤ (left limit ids).card + limit

/-- The keys deleted in ascending order, one order their hashes may have. -/
def ClearPrefix.ascending : ClearPrefix where
  left limit ids := ((ids.sort (· ≤ ·)).drop limit).toFinset
  left_subset limit ids id kept := by
    simpa using List.mem_of_mem_drop (List.mem_toFinset.mp kept)
  left_of_card_le limit ids within := by
    have dropped : (ids.sort (· ≤ ·)).drop limit = [] :=
      List.drop_eq_nil_of_le (by rw [Finset.length_sort]; exact within)
    simp [dropped]
  card_le_left limit ids := by
    have nodup : ((ids.sort (· ≤ ·)).drop limit).Nodup := (ids.sort_nodup (· ≤ ·)).sublist (List.drop_sublist _ _)
    rw [List.toFinset_card_of_nodup nodup, List.length_drop, Finset.length_sort]
    omega

/-! ## Calls -/

/-- A call of the pallet, with the signatures of the policy's controllers. -/
inductive Call (Sig : Type) where
  | newRegistry (addRegistry : AddRegistry)
  | revoke (revoke : RevokeRaw) (proof : List (SignatureWithNonce Sig))
  | unrevoke (unrevoke : UnRevokeRaw) (proof : List (SignatureWithNonce Sig))
  | removeRegistry (removal : RemoveRegistryRaw) (proof : List (SignatureWithNonce Sig))

/-- `Action::modify_removable` on a registry: the action must not be empty, and `f` reads the
registry's entry and returns the new one. -/
def modifyRemovable {R : Type} (len : Nat) (id : RevocationRegistryId)
    (f : Option RevocationRegistry → Except (IntermediateError DispatchError) (R × Option RevocationRegistry))
    (state : State) : Except (IntermediateError DispatchError) (R × State) := do
  if len = 0 then throw (.action .emptyPayload)
  let (result, registry) ← f (state.registries id)
  pure (result, { state with registries := Function.update state.registries id registry })

/-- `new_registry_`: the policy must be valid and the id free. -/
def newRegistry_ (addRegistry : AddRegistry) (registry : Option RevocationRegistry) :
    Except (IntermediateError DispatchError) (Unit × Option RevocationRegistry) := do
  addRegistry.newRegistry.policy.ensureValid.mapError fun error => .dispatch (.policy error)
  match registry with
  | some _ => throw (.dispatch (.revoke .regExists))
  | none => pure ((), some addRegistry.newRegistry)

/-- `revoke_`: every id is revoked in the registry. -/
def revoke_ (action : RevokeRaw) (revocations : RevocationRegistryId → Finset RevokeId) :
    RevocationRegistryId → Finset RevokeId :=
  Function.update revocations action.registryId (revocations action.registryId ∪ action.revokeIds)

/-- `unrevoke_`: in a registry that is not add-only, every id is removed. -/
def unrevoke_ (action : UnRevokeRaw) (registry : RevocationRegistry)
    (revocations : RevocationRegistryId → Finset RevokeId) :
    Except DispatchError (RevocationRegistryId → Finset RevokeId) :=
  if registry.addOnly then throw (.revoke .addOnly)
  else pure (Function.update revocations action.registryId (revocations action.registryId \ action.revokeIds))

/-- `remove_registry_`: a registry that is not add-only is taken, and its revocations cleared
with `clear_prefix(registry_id, u32::MAX, None)`. -/
def removeRegistry_ (backend : ClearPrefix) (action : RemoveRegistryRaw) (registry : Option RevocationRegistry)
    (revocations : RevocationRegistryId → Finset RevokeId) :
    Except DispatchError ((RevocationRegistryId → Finset RevokeId) × Option RevocationRegistry) := do
  let some registry := registry | throw (.revoke .registryDoesntExist)
  if registry.addOnly then throw (.revoke .addOnly)
  pure (Function.update revocations action.registryId (backend.left u32Max (revocations action.registryId)), none)

section Dispatch

variable {Sig : Type} (backend : ClearPrefix)
  (authorize : Sig → Nat → Except DispatchError (Option DidOrDidMethodKey))

/-- The pallet's calls: `new_registry` through `modify_removable`, the others through
`MultiSignedAction` with the registry's policy, whose signers' nonces are the DIDs' own. -/
def dispatch : Call Sig → State → Except (IntermediateError DispatchError) State
  | .newRegistry addRegistry, state => do
      let (_, state) ← modifyRemovable 1 addRegistry.id (newRegistry_ addRegistry) state
      pure state
  | .revoke action proof, state => do
      let (revocations, nonces) ← executeView authorize id action.revokeIds.card
        (state.registries action.registryId) (fun _ _ => pure (revoke_ action state.revocations))
        (fun registry => some registry.policy.expand) proof state.nonces
      pure { state with revocations, nonces }
  | .unrevoke action proof, state => do
      let (revocations, nonces) ← executeView authorize id action.revokeIds.card
        (state.registries action.registryId) (fun registry _ => unrevoke_ action registry state.revocations)
        (fun registry => some registry.policy.expand) proof state.nonces
      pure { state with revocations, nonces }
  | .removeRegistry action proof, state => do
      let ((revocations, registry), nonces) ← executeRemovable authorize id 1
        (state.registries action.registryId)
        (fun registry _ => removeRegistry_ backend action registry state.revocations)
        (fun registry => registry.map fun registry => registry.policy.expand) proof state.nonces
      pure { state with
        registries := Function.update state.registries action.registryId registry, revocations, nonces }

/-- One successful call. -/
def Step (state next : State) : Prop :=
  ∃ call, dispatch backend authorize call state = .ok next

/-- The states a run of successful calls leads to from no registries. -/
def Reachable (nonces : Nonces DidOrDidMethodKey) (state : State) : Prop :=
  Relation.ReflTransGen (Step backend authorize) (initial nonces) state

end Dispatch

end DockSubstrate.Revoke
