import Mathlib
import DockSubstrate.Revoke.Permanence
import DockSubstrate.Lib.Runs

/-!
# Only a registry's controllers act on it

`revoke`, `unrevoke` and `remove_registry` run through `MultiSignedAction` with the
registry's policy, `OneOf` its controllers, so a call on a registry that exists carries a
signature that verifies as one of its controllers (`dispatch_signed_of_found`).
`new_registry` needs a free id, and every call leaves the registries it does not name
(`dispatch_other`).  So along any run, a registry none of whose controllers signs a call
stays, with its revocations (`registry_kept_without_controllers`).
-/

namespace DockSubstrate.Revoke

open DockSubstrate.Lib DockSubstrate.Util DockSubstrate.Common

variable {Sig : Type}

/-- The registry a call names. -/
def Call.registryId : Call Sig → RevocationRegistryId
  | .newRegistry addRegistry => addRegistry.id
  | .revoke action _ => action.registryId
  | .unrevoke action _ => action.registryId
  | .removeRegistry action _ => action.registryId

/-- The signatures a call carries; `new_registry` is unsigned. -/
def Call.proof : Call Sig → List (SignatureWithNonce Sig)
  | .newRegistry _ => []
  | .revoke _ proof => proof
  | .unrevoke _ proof => proof
  | .removeRegistry _ proof => proof

/-- No signature of the call verifies as one of the controllers. -/
def Call.UnsignedBy (authorize : Sig → Nat → Except DispatchError (Option DidOrDidMethodKey))
    (controllers : Finset DidOrDidMethodKey) (call : Call Sig) : Prop :=
  ∀ signature ∈ call.proof, ∀ controller ∈ controllers, authorize signature.sig signature.nonce ≠ .ok (some controller)

/-- A call of a block: one that fails leaves the state as it was. -/
def State.apply (backend : ClearPrefix) (authorize : Sig → Nat → Except DispatchError (Option DidOrDidMethodKey))
    (state : State) (call : Call Sig) : State :=
  (dispatch backend authorize call state).toOption.getD state

section Authority

variable {backend : ClearPrefix} {authorize : Sig → Nat → Except DispatchError (Option DidOrDidMethodKey)}
  {state next : State}

/-- A property each successful call keeps is kept by every call. -/
theorem State.apply_keeps {P : State → Prop} {call : Call Sig}
    (keep : ∀ next, dispatch backend authorize call state = .ok next → P next) (holds : P state) :
    P (state.apply backend authorize call) := by
  unfold State.apply
  cases ran : dispatch backend authorize call state with
  | error => exact holds
  | ok next => exact keep next ran

/-- A call leaves the registries it does not name, and their revocations. -/
theorem dispatch_other {call : Call Sig} (ran : dispatch backend authorize call state = .ok next)
    {id : RevocationRegistryId} (other : id ≠ call.registryId) :
    next.registries id = state.registries id ∧ next.revocations id = state.revocations id := by
  cases call with
  | newRegistry addRegistry =>
      obtain ⟨-, rfl⟩ := dispatch_newRegistry ran
      exact ⟨Function.update_of_ne other _ _, rfl⟩
  | revoke action proof =>
      obtain ⟨-, nonces, rfl⟩ := dispatch_revoke ran
      exact ⟨rfl, Function.update_of_ne other _ _⟩
  | unrevoke action proof =>
      obtain ⟨-, -, -, nonces, rfl⟩ := dispatch_unrevoke ran
      exact ⟨rfl, Function.update_of_ne other _ _⟩
  | removeRegistry action proof =>
      obtain ⟨-, nonces, rfl⟩ := dispatch_removeRegistry ran
      exact ⟨Function.update_of_ne other _ _, Function.update_of_ne other _ _⟩

/-- A successful call on a registry that exists carries signatures that verify, by signers
that meet the registry's policy: `new_registry` refuses a taken id, and the other calls
check the policy of the registry they name. -/
theorem dispatch_signed_of_found {call : Call Sig} (ran : dispatch backend authorize call state = .ok next)
    {registry : RevocationRegistry} (found : state.registries call.registryId = some registry) :
    ∃ signers, Verified authorize id state.nonces call.proof signers ∧ registry.policy.expand.SignedBy signers := by
  cases call with
  | newRegistry addRegistry =>
      obtain ⟨free, -⟩ := dispatch_newRegistry ran
      simp only [Call.registryId] at found
      rw [found] at free
      cases free
  | revoke action proof =>
      simp only [dispatch, Except.bind_eq_ok, Except.pure_eq_ok, Prod.exists] at ran
      obtain ⟨revocations, nonces, viewed, -⟩ := ran
      obtain ⟨signers, verified, signed, -⟩ := executeView_eq_ok_of_requires authorize id viewed found rfl
      exact ⟨signers, verified, signed⟩
  | unrevoke action proof =>
      simp only [dispatch, Except.bind_eq_ok, Except.pure_eq_ok, Prod.exists] at ran
      obtain ⟨revocations, nonces, viewed, -⟩ := ran
      obtain ⟨signers, verified, signed, -⟩ := executeView_eq_ok_of_requires authorize id viewed found rfl
      exact ⟨signers, verified, signed⟩
  | removeRegistry action proof =>
      simp only [dispatch, Except.bind_eq_ok, Except.pure_eq_ok, Prod.exists] at ran
      obtain ⟨revocations, removed, nonces, taken, -⟩ := ran
      have requires : (state.registries action.registryId).map (fun registry => registry.policy.expand) =
          some registry.policy.expand := by
        simp only [Call.registryId] at found
        rw [found, Option.map_some]
      obtain ⟨signers, verified, signed, -⟩ := executeRemovable_eq_ok_of_requires authorize id taken requires
      exact ⟨signers, verified, signed⟩

/-- A call that no controller of a registry signs leaves the registry and its revocations. -/
theorem dispatch_keeps_of_unsignedBy {call : Call Sig} (ran : dispatch backend authorize call state = .ok next)
    {id : RevocationRegistryId} {registry : RevocationRegistry} (found : state.registries id = some registry)
    (unsigned : call.UnsignedBy authorize registry.policy.oneOf) :
    next.registries id = some registry ∧ next.revocations id = state.revocations id := by
  by_cases other : id = call.registryId
  swap
  · obtain ⟨registries, revocations⟩ := dispatch_other ran other
    exact ⟨registries.trans found, revocations⟩
  -- the call names the registry, so one of its signatures verifies as a controller
  exfalso
  subst other
  obtain ⟨signers, verified, signed⟩ := dispatch_signed_of_found ran found
  obtain ⟨signature, mem, controller, member, verifies⟩ := verified.exists_anyOf authorize id signed
  exact unsigned signature mem controller member verifies

/-- Along any run from any state, a registry none of whose controllers signs any of the
run's calls stays as it is, and so do its revocations. -/
theorem registry_kept_without_controllers (state : State) (calls : List (Call Sig)) {id : RevocationRegistryId}
    {registry : RevocationRegistry} (found : state.registries id = some registry)
    (unsigned : ∀ call ∈ calls, call.UnsignedBy authorize registry.policy.oneOf) :
    (Lib.run (State.apply backend authorize) state calls).registries id = some registry ∧
      (Lib.run (State.apply backend authorize) state calls).revocations id = state.revocations id := by
  -- the invariant: the registry stays, with the revocations it had at the start
  refine @Lib.run_invariant _ _ (State.apply backend authorize)
    (fun current => current.registries id = some registry ∧ current.revocations id = state.revocations id) calls
    ?_ state ⟨found, rfl⟩
  intro current call mem kept
  refine @State.apply_keeps _ _ _ _
    (fun next => next.registries id = some registry ∧ next.revocations id = state.revocations id) call ?_ kept
  intro next ran
  obtain ⟨stays, same⟩ := dispatch_keeps_of_unsignedBy ran kept.1 (unsigned call mem)
  exact ⟨stays, same.trans kept.2⟩

theorem registry_kept_without_controllers_otherSigner :
    (⟨fun _ => some ⟨⟨{.did ⟨0⟩}⟩, false⟩, fun _ => {⟨0⟩}, fun _ => some 0⟩ : State).registries ⟨0⟩ =
        some ⟨⟨{.did ⟨0⟩}⟩, false⟩ ∧
      (∀ call ∈ [Call.removeRegistry ⟨⟨0⟩⟩ [⟨.did ⟨1⟩, 1⟩]], call.UnsignedBy signerItself {.did ⟨0⟩}) ∧
      (Lib.run (State.apply ClearPrefix.ascending signerItself)
          (⟨fun _ => some ⟨⟨{.did ⟨0⟩}⟩, false⟩, fun _ => {⟨0⟩}, fun _ => some 0⟩ : State)
          [Call.removeRegistry ⟨⟨0⟩⟩ [⟨.did ⟨1⟩, 1⟩]]).registries ⟨0⟩ = some ⟨⟨{.did ⟨0⟩}⟩, false⟩ ∧
      (Lib.run (State.apply ClearPrefix.ascending signerItself)
          (⟨fun _ => some ⟨⟨{.did ⟨0⟩}⟩, false⟩, fun _ => {⟨0⟩}, fun _ => some 0⟩ : State)
          [Call.removeRegistry ⟨⟨0⟩⟩ [⟨.did ⟨1⟩, 1⟩]]).revocations ⟨0⟩ = {⟨0⟩} := by
  have unsigned : ∀ call ∈ [Call.removeRegistry ⟨⟨0⟩⟩ [⟨.did ⟨1⟩, 1⟩]],
      call.UnsignedBy signerItself {.did ⟨0⟩} := by
    simp [Call.UnsignedBy, Call.proof, signerItself]
  exact ⟨rfl, unsigned, registry_kept_without_controllers _ _ rfl unsigned⟩

end Authority

end DockSubstrate.Revoke
