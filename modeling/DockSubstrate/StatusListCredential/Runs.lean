import Mathlib
import DockSubstrate.StatusListCredential.Pallet
import DockSubstrate.Lib.Runs

/-!
# What runs of status list calls keep

A run applies calls one after the other, a call that fails leaving the state as it was.

* Only the policy's controllers change a credential: along any run in which no signature
  verifies as one of them, the credential stays as it is (`Call.UnsignedBy`).
* Every stored credential passes `ensure_valid` (`State.Valid`): `create` checks the
  credential and its policy, and `update` checks the new credential and keeps the policy.
* No call changes the policy of a credential it leaves stored, so along a run that does not
  remove a credential, its policy is the one it had.
-/

namespace DockSubstrate.StatusListCredentialModule

open DockSubstrate.Lib DockSubstrate.Util DockSubstrate.Common DockSubstrate.Revoke

variable {limits : Limits} {Sig : Type} {authorize : Sig → Nat → Except DispatchError (Option DidOrDidMethodKey)}
  {state next : State limits}

/-- A property each successful call keeps is kept by every call. -/
theorem State.apply_keeps {P : State limits → Prop} {call : Call Sig limits}
    (keep : ∀ next, dispatch authorize call state = .ok next → P next) (holds : P state) :
    P (state.apply authorize call) := by
  unfold State.apply
  cases ran : dispatch authorize call state with
  | error => exact holds
  | ok next => exact keep next ran

/-- A successful call leaves every credential but the one it names. -/
theorem dispatch_other {call : Call Sig limits} (ran : dispatch authorize call state = .ok next)
    {credentialId : StatusListCredentialId} (other : credentialId ≠ call.target) :
    next.statusListCredentials credentialId = state.statusListCredentials credentialId := by
  cases call with
  | create target credential =>
      obtain ⟨-, -, rfl⟩ := dispatch_create ran
      exact Function.update_of_ne other _ _
  | update action proof =>
      obtain ⟨-, -, -, -, -, -, rfl⟩ := dispatch_update ran
      exact Function.update_of_ne other _ _
  | remove action proof =>
      obtain ⟨-, -, -, -, -, rfl⟩ := dispatch_remove ran
      exact Function.update_of_ne other _ _

/-! ## Only the controllers change a credential -/

/-- A verification under which a signature is the signer it names. -/
def signerItself (signer : DidOrDidMethodKey) (_ : Nat) : Except DispatchError (Option DidOrDidMethodKey) :=
  .ok (some signer)

/-- No signature of the call verifies as one of the controllers. -/
def Call.UnsignedBy (authorize : Sig → Nat → Except DispatchError (Option DidOrDidMethodKey))
    (controllers : Finset DidOrDidMethodKey) (call : Call Sig limits) : Prop :=
  ∀ signature ∈ call.proof, ∀ controller ∈ controllers, authorize signature.sig signature.nonce ≠ .ok (some controller)

/-- Signatures that meet a policy have one that verifies as a controller. -/
theorem signed_by_controller {policy : Policy} {proof : List (SignatureWithNonce Sig)} {signers : List DidOrDidMethodKey}
    {nonces : Nonces DidOrDidMethodKey} (verified : Verified authorize id nonces proof signers)
    (signed : policy.expand.SignedBy signers)
    (unsigned : ∀ signature ∈ proof, ∀ controller ∈ policy.oneOf,
      authorize signature.sig signature.nonce ≠ .ok (some controller)) : False := by
  obtain ⟨signature, mem, controller, member, verifies⟩ := verified.exists_anyOf authorize id signed
  exact unsigned signature mem controller member verifies

/-- A call that no controller of a credential signs leaves the credential. -/
theorem dispatch_keeps_of_unsignedBy {call : Call Sig limits} (ran : dispatch authorize call state = .ok next)
    {credentialId : StatusListCredentialId} {credential : StatusListCredentialWithPolicy limits}
    (found : state.statusListCredentials credentialId = some credential)
    (unsigned : call.UnsignedBy authorize credential.policy.oneOf) :
    next.statusListCredentials credentialId = some credential := by
  by_cases other : credentialId = call.target
  swap
  · rw [dispatch_other ran other, found]
  -- the call names the credential: `create` needs a free id, the others a controller
  exfalso
  cases call with
  | create target created =>
      obtain ⟨-, free, -⟩ := dispatch_create ran
      simp only [Call.target] at other
      subst other
      rw [found] at free
      cases free
  | update action proof =>
      obtain ⟨stored, signers, storedFound, verified, signed, -, -⟩ := dispatch_update ran
      simp only [Call.target] at other
      subst other
      rw [found, Option.some.injEq] at storedFound
      subst storedFound
      exact signed_by_controller verified signed unsigned
  | remove action proof =>
      obtain ⟨stored, signers, storedFound, verified, signed, -⟩ := dispatch_remove ran
      simp only [Call.target] at other
      subst other
      rw [found, Option.some.injEq] at storedFound
      subst storedFound
      exact signed_by_controller verified signed unsigned

/-- Along any run from any state, a credential none of whose controllers signs any of the
run's calls stays exactly as it is. -/
theorem credential_kept_without_controllers (state : State limits) (calls : List (Call Sig limits))
    {credentialId : StatusListCredentialId} {credential : StatusListCredentialWithPolicy limits}
    (found : state.statusListCredentials credentialId = some credential)
    (unsigned : ∀ call ∈ calls, call.UnsignedBy authorize credential.policy.oneOf) :
    (Lib.run (State.apply authorize) state calls).statusListCredentials credentialId = some credential :=
  @Lib.run_invariant _ _ (State.apply authorize)
    (fun current => current.statusListCredentials credentialId = some credential) calls
    (fun _ call mem kept => State.apply_keeps (fun _ ran => dispatch_keeps_of_unsignedBy ran kept (unsigned call mem)) kept)
    state found

theorem credential_kept_without_controllers_otherSigner :
    (⟨fun _ => some ⟨.statusList2021Credential ⟨[], Nat.zero_le _⟩, ⟨{.did ⟨0⟩}⟩⟩, fun _ => some 0⟩ :
        State ⟨0, 0⟩).statusListCredentials ⟨0⟩ = some ⟨.statusList2021Credential ⟨[], Nat.zero_le _⟩, ⟨{.did ⟨0⟩}⟩⟩ ∧
      (∀ call ∈ [Call.remove ⟨⟨0⟩⟩ [⟨.did ⟨1⟩, 1⟩]], (call : Call DidOrDidMethodKey ⟨0, 0⟩).UnsignedBy signerItself {.did ⟨0⟩}) ∧
      (Lib.run (State.apply signerItself)
          (⟨fun _ => some ⟨.statusList2021Credential ⟨[], Nat.zero_le _⟩, ⟨{.did ⟨0⟩}⟩⟩, fun _ => some 0⟩ : State ⟨0, 0⟩)
          [Call.remove ⟨⟨0⟩⟩ [⟨.did ⟨1⟩, 1⟩]]).statusListCredentials ⟨0⟩ =
        some ⟨.statusList2021Credential ⟨[], Nat.zero_le _⟩, ⟨{.did ⟨0⟩}⟩⟩ := by
  have unsigned : ∀ call ∈ [Call.remove ⟨⟨0⟩⟩ [⟨.did ⟨1⟩, 1⟩]],
      (call : Call DidOrDidMethodKey ⟨0, 0⟩).UnsignedBy signerItself {.did ⟨0⟩} := by
    simp [Call.UnsignedBy, Call.proof, signerItself]
  exact ⟨rfl, unsigned, credential_kept_without_controllers _ _ rfl unsigned⟩

/-! ## Every stored credential is valid -/

theorem policy_ensureValid_eq_ok {policy : Policy} {u : Unit} : policy.ensureValid = .ok u ↔ policy.oneOf.Nonempty := by
  unfold Policy.ensureValid
  rw [← Finset.card_pos]
  split_ifs with empty <;> simp [empty, pure, Except.pure, Nat.pos_iff_ne_zero]

/-- Every stored credential passes `ensure_valid`. -/
def State.Valid (state : State limits) : Prop :=
  ∀ credentialId credential, state.statusListCredentials credentialId = some credential →
    credential.ensureValid = .ok ()

/-- `create` checks what it stores, and `update` checks the new credential and keeps the
policy the stored one had. -/
theorem dispatch_valid {call : Call Sig limits} (valid : state.Valid) (ran : dispatch authorize call state = .ok next) :
    next.Valid := by
  intro credentialId credential found
  by_cases other : credentialId = call.target
  swap
  · rw [dispatch_other ran other] at found
    exact valid _ _ found
  cases call with
  | create target created =>
      obtain ⟨createdValid, -, rfl⟩ := dispatch_create ran
      simp only [Call.target] at other
      subst other
      simp only [Function.update_self, Option.some.injEq] at found
      subst found
      exact createdValid
  | update action proof =>
      obtain ⟨stored, signers, storedFound, -, -, newValid, rfl⟩ := dispatch_update ran
      simp only [Call.target] at other
      subst other
      simp only [Function.update_self, Option.some.injEq] at found
      subst found
      have storedValid := StatusListCredentialWithPolicy.ensureValid_eq_ok.mp (valid _ _ storedFound)
      exact StatusListCredentialWithPolicy.ensureValid_eq_ok.mpr ⟨storedValid.1, newValid⟩
  | remove action proof =>
      obtain ⟨stored, signers, -, -, -, rfl⟩ := dispatch_remove ran
      simp only [Call.target] at other
      subst other
      simp at found

theorem initial_valid (nonces : Nonces DidOrDidMethodKey) : (initial nonces : State limits).Valid :=
  fun _ _ found => by cases found

/-- Along every run from no credentials, every stored credential has a controller and at
least `MinStatusListCredentialSize` bytes. -/
theorem stored_credentials_valid (nonces : Nonces DidOrDidMethodKey) (calls : List (Call Sig limits))
    {credentialId : StatusListCredentialId} {credential : StatusListCredentialWithPolicy limits}
    (found : (Lib.run (State.apply authorize) (initial nonces) calls).statusListCredentials credentialId =
      some credential) :
    credential.policy.oneOf.Nonempty ∧ limits.minStatusListCredentialSize ≤ credential.statusListCredential.len := by
  have valid : (Lib.run (State.apply authorize) (initial nonces) calls).Valid :=
    Lib.run_invariant (fun _ _ _ holds => State.apply_keeps (fun _ ran => dispatch_valid holds ran) holds)
      (initial_valid nonces)
  obtain ⟨policy, credentialValid⟩ := StatusListCredentialWithPolicy.ensureValid_eq_ok.mp (valid _ _ found)
  exact ⟨policy_ensureValid_eq_ok.mp policy, StatusListCredential.ensureValid_eq_ok.mp credentialValid⟩

theorem stored_credentials_valid_created :
    (Lib.run (State.apply signerItself) (initial fun _ => some 0)
        [Call.create ⟨0⟩ ⟨.statusList2021Credential ⟨[], Nat.zero_le _⟩, ⟨{.did ⟨0⟩}⟩⟩]).statusListCredentials ⟨0⟩ =
        (some ⟨.statusList2021Credential ⟨[], Nat.zero_le _⟩, ⟨{.did ⟨0⟩}⟩⟩ : Option (StatusListCredentialWithPolicy ⟨0, 0⟩)) ∧
      ({.did ⟨0⟩} : Finset DidOrDidMethodKey).Nonempty ∧
      0 ≤ (StatusListCredential.statusList2021Credential ⟨[], Nat.zero_le 0⟩ : StatusListCredential ⟨0, 0⟩).len := by
  have found : (Lib.run (State.apply signerItself) (initial fun _ => some 0)
      [Call.create ⟨0⟩ ⟨.statusList2021Credential ⟨[], Nat.zero_le _⟩, ⟨{.did ⟨0⟩}⟩⟩]).statusListCredentials ⟨0⟩ =
        (some ⟨.statusList2021Credential ⟨[], Nat.zero_le _⟩, ⟨{.did ⟨0⟩}⟩⟩ :
          Option (StatusListCredentialWithPolicy ⟨0, 0⟩)) := rfl
  exact ⟨found, stored_credentials_valid _ _ found⟩

/-! ## The policy never changes -/

/-- No call changes the policy of a credential it leaves stored. -/
theorem dispatch_policy {call : Call Sig limits} (ran : dispatch authorize call state = .ok next)
    {credentialId : StatusListCredentialId} {credential after : StatusListCredentialWithPolicy limits}
    (found : state.statusListCredentials credentialId = some credential)
    (stays : next.statusListCredentials credentialId = some after) : after.policy = credential.policy := by
  by_cases other : credentialId = call.target
  swap
  · rw [dispatch_other ran other, found, Option.some.injEq] at stays
    rw [stays]
  cases call with
  | create target created =>
      obtain ⟨-, free, -⟩ := dispatch_create ran
      simp only [Call.target] at other
      subst other
      rw [found] at free
      cases free
  | update action proof =>
      obtain ⟨stored, signers, storedFound, -, -, -, rfl⟩ := dispatch_update ran
      simp only [Call.target] at other
      subst other
      rw [found, Option.some.injEq] at storedFound
      subst storedFound
      simp only [Function.update_self, Option.some.injEq] at stays
      rw [← stays]
  | remove action proof =>
      obtain ⟨stored, signers, -, -, -, rfl⟩ := dispatch_remove ran
      simp only [Call.target] at other
      subst other
      simp at stays

/-- Along any run in which a credential is stored whenever a call comes, it keeps the policy
it had: a credential's policy can only go with it. -/
theorem policy_kept_while_stored (state : State limits) (calls : List (Call Sig limits))
    {credentialId : StatusListCredentialId} {credential final : StatusListCredentialWithPolicy limits}
    (found : state.statusListCredentials credentialId = some credential)
    (stored : FitsAlong (State.apply authorize) (fun current _ => (current.statusListCredentials credentialId).isSome)
      state calls)
    (after : (Lib.run (State.apply authorize) state calls).statusListCredentials credentialId = some final) :
    final.policy = credential.policy := by
  have kept := @Lib.run_invariant_of_fits _ _ (State.apply authorize)
    (fun current => ∀ stays, current.statusListCredentials credentialId = some stays → stays.policy = credential.policy)
    _ (fun current _ present holds => by
      obtain ⟨before, storedBefore⟩ := Option.isSome_iff_exists.mp present
      refine @State.apply_keeps limits Sig authorize current
        (fun next => ∀ stays, next.statusListCredentials credentialId = some stays → stays.policy = credential.policy)
        _ (fun _ ran stays storedAfter => ?_) holds
      exact (dispatch_policy ran storedBefore storedAfter).trans (holds before storedBefore))
    state calls stored (fun stays same => by rw [found, Option.some.injEq] at same; rw [← same])
  exact kept final after

theorem policy_kept_while_stored_update :
    (⟨fun _ => some ⟨.statusList2021Credential ⟨[], Nat.zero_le _⟩, ⟨{.did ⟨0⟩}⟩⟩, fun _ => some 0⟩ :
        State ⟨0, 0⟩).statusListCredentials ⟨0⟩ = some ⟨.statusList2021Credential ⟨[], Nat.zero_le _⟩, ⟨{.did ⟨0⟩}⟩⟩ ∧
      FitsAlong (State.apply signerItself) (fun current _ => (current.statusListCredentials ⟨0⟩).isSome)
        (⟨fun _ => some ⟨.statusList2021Credential ⟨[], Nat.zero_le _⟩, ⟨{.did ⟨0⟩}⟩⟩, fun _ => some 0⟩ : State ⟨0, 0⟩)
        [Call.update ⟨⟨0⟩, .revocationList2020Credential ⟨[], Nat.zero_le _⟩⟩ [⟨.did ⟨0⟩, 1⟩]] ∧
      (Lib.run (State.apply signerItself)
          (⟨fun _ => some ⟨.statusList2021Credential ⟨[], Nat.zero_le _⟩, ⟨{.did ⟨0⟩}⟩⟩, fun _ => some 0⟩ : State ⟨0, 0⟩)
          [Call.update ⟨⟨0⟩, .revocationList2020Credential ⟨[], Nat.zero_le _⟩⟩ [⟨.did ⟨0⟩, 1⟩]]).statusListCredentials
          ⟨0⟩ = some ⟨.revocationList2020Credential ⟨[], Nat.zero_le _⟩, ⟨{.did ⟨0⟩}⟩⟩ ∧
      (⟨{.did ⟨0⟩}⟩ : Policy) = ⟨{.did ⟨0⟩}⟩ := by
  have stored : FitsAlong (State.apply signerItself) (fun current _ => (current.statusListCredentials ⟨0⟩).isSome)
      (⟨fun _ => some ⟨.statusList2021Credential ⟨[], Nat.zero_le _⟩, ⟨{.did ⟨0⟩}⟩⟩, fun _ => some 0⟩ : State ⟨0, 0⟩)
      [Call.update ⟨⟨0⟩, .revocationList2020Credential ⟨[], Nat.zero_le _⟩⟩ [⟨.did ⟨0⟩, 1⟩]] :=
    .cons rfl (.nil _)
  have after : (Lib.run (State.apply signerItself)
      (⟨fun _ => some ⟨.statusList2021Credential ⟨[], Nat.zero_le _⟩, ⟨{.did ⟨0⟩}⟩⟩, fun _ => some 0⟩ : State ⟨0, 0⟩)
      [Call.update ⟨⟨0⟩, .revocationList2020Credential ⟨[], Nat.zero_le _⟩⟩ [⟨.did ⟨0⟩, 1⟩]]).statusListCredentials ⟨0⟩ =
        some ⟨.revocationList2020Credential ⟨[], Nat.zero_le _⟩, ⟨{.did ⟨0⟩}⟩⟩ := rfl
  exact ⟨rfl, stored, after, policy_kept_while_stored _ _ rfl stored after⟩

end DockSubstrate.StatusListCredentialModule
