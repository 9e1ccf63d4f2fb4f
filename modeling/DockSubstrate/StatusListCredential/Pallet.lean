import Mathlib
import DockSubstrate.Revoke.Permanence
import DockSubstrate.Lib.BoundedMap

/-!
# Status list credentials

The status list credential pallet (`modules/status_list_credential`):
`StatusListCredentials` maps an id to a credential, a revocation list or a status list of
bounded bytes, together with the policy whose controllers manage it.  Anyone creates a
credential (`create`, through `modify_removable`).  It is replaced (`update`) and removed
(`remove`) by signatures of its policy's controllers, through `MultiSignedAction`, whose
signers' nonces are the DIDs' own as in the revoke pallet.  `update_` replaces the
credential and leaves the policy it was created with.
-/

namespace DockSubstrate.StatusListCredentialModule

open DockSubstrate.Lib DockSubstrate.Util DockSubstrate.Common DockSubstrate.Revoke

/-- The bounds of a credential's bytes. -/
structure Limits where
  minStatusListCredentialSize : Nat
  maxStatusListCredentialSize : Nat
  deriving DecidableEq, Repr

/-- `StatusListCredential`. -/
inductive StatusListCredential (limits : Limits) where
  | revocationList2020Credential (bytes : BoundedBytes limits.maxStatusListCredentialSize)
  | statusList2021Credential (bytes : BoundedBytes limits.maxStatusListCredentialSize)

/-- `status_list_credential::Error`. -/
inductive Error where
  | statusListCredentialAlreadyExists
  | statusListCredentialDoesntExist
  | statusListCredentialTooSmall
  | emptyPayload
  deriving DecidableEq, Repr

/-- Why a call fails: the pallet's error, a policy's, or an error of the DID pallet that the
verification of a signature raises. -/
inductive DispatchError where
  | statusListCredential (error : Error)
  | policy (error : PolicyValidationError)
  | signature
  deriving DecidableEq, Repr

variable {limits : Limits}

namespace StatusListCredential

/-- `StatusListCredential::bytes`. -/
def bytes : StatusListCredential limits → List UInt8
  | .revocationList2020Credential bytes => bytes.bytes
  | .statusList2021Credential bytes => bytes.bytes

/-- `StatusListCredential::len`: the bound is a `u32`, so the cast keeps the length. -/
def len (credential : StatusListCredential limits) : Nat :=
  credential.bytes.length

/-- `StatusListCredential::ensure_valid`: at least `MinStatusListCredentialSize` bytes. -/
def ensureValid (credential : StatusListCredential limits) : Except Error Unit :=
  if limits.minStatusListCredentialSize ≤ credential.len then pure () else throw .statusListCredentialTooSmall

theorem ensureValid_eq_ok {credential : StatusListCredential limits} {u : Unit} :
    credential.ensureValid = .ok u ↔ limits.minStatusListCredentialSize ≤ credential.len := by
  unfold ensureValid
  split_ifs with fits <;> simp [fits, pure, Except.pure]

end StatusListCredential

/-- `StatusListCredentialWithPolicy`. -/
structure StatusListCredentialWithPolicy (limits : Limits) where
  statusListCredential : StatusListCredential limits
  policy : Policy

namespace StatusListCredentialWithPolicy

/-- `StatusListCredentialWithPolicy::ensure_valid`: the policy, then the credential. -/
def ensureValid (credential : StatusListCredentialWithPolicy limits) : Except DispatchError Unit := do
  credential.policy.ensureValid.mapError .policy
  credential.statusListCredential.ensureValid.mapError .statusListCredential

/-- `StatusListCredentialWithPolicy::expand_policy`. -/
def expandPolicy (credential : StatusListCredentialWithPolicy limits) : Option (InclusionRule DidOrDidMethodKey) :=
  some credential.policy.expand

theorem ensureValid_eq_ok {credential : StatusListCredentialWithPolicy limits} {u : Unit} :
    credential.ensureValid = .ok u ↔
      credential.policy.ensureValid = .ok () ∧ credential.statusListCredential.ensureValid = .ok () := by
  simp only [ensureValid, Except.bind_eq_ok, Except.mapError_eq_ok]
  constructor
  · rintro ⟨⟨⟩, policy, credential⟩
    exact ⟨policy, credential⟩
  · rintro ⟨policy, credential⟩
    exact ⟨(), policy, credential⟩

end StatusListCredentialWithPolicy

/-- `StatusListCredentialId`: 32 bytes, a number here. -/
structure StatusListCredentialId where
  raw : Nat
  deriving DecidableEq, Repr

/-- `AddStatusListCredential`. -/
structure AddStatusListCredential (limits : Limits) where
  id : StatusListCredentialId
  credential : StatusListCredentialWithPolicy limits

/-- `UpdateStatusListCredentialRaw`. -/
structure UpdateStatusListCredentialRaw (limits : Limits) where
  id : StatusListCredentialId
  credential : StatusListCredential limits

/-- `RemoveStatusListCredentialRaw`. -/
structure RemoveStatusListCredentialRaw where
  id : StatusListCredentialId

/-- `StatusListCredentials`, and the nonces the signers store in the DID pallet. -/
structure State (limits : Limits) where
  statusListCredentials : StatusListCredentialId → Option (StatusListCredentialWithPolicy limits)
  nonces : Nonces DidOrDidMethodKey

/-- No credential, with the signers' nonces. -/
def initial (nonces : Nonces DidOrDidMethodKey) : State limits :=
  ⟨fun _ => none, nonces⟩

/-- A call of the pallet, with the signatures of the policy's controllers. -/
inductive Call (Sig : Type) (limits : Limits) where
  | create (credentialId : StatusListCredentialId) (credential : StatusListCredentialWithPolicy limits)
  | update (updateCredential : UpdateStatusListCredentialRaw limits) (proof : List (SignatureWithNonce Sig))
  | remove (removeCredential : RemoveStatusListCredentialRaw) (proof : List (SignatureWithNonce Sig))

/-- The signatures a call carries; `create` is not signed. -/
def Call.proof {Sig : Type} : Call Sig limits → List (SignatureWithNonce Sig)
  | .create _ _ => []
  | .update _ proof => proof
  | .remove _ proof => proof

/-- `Action::target`: the id a call names. -/
def Call.target {Sig : Type} : Call Sig limits → StatusListCredentialId
  | .create credentialId _ => credentialId
  | .update action _ => action.id
  | .remove action _ => action.id

/-! ## Call bodies -/

/-- `create_`: the credential and its policy must be valid, and the id free. -/
def create_ (action : AddStatusListCredential limits) (stored : Option (StatusListCredentialWithPolicy limits)) :
    Except (IntermediateError DispatchError) (Unit × Option (StatusListCredentialWithPolicy limits)) := do
  action.credential.ensureValid.mapError .dispatch
  (unless stored.isNone do throw (.dispatch (.statusListCredential .statusListCredentialAlreadyExists)))
  pure ((), some action.credential)

/-- `update_`: a valid credential replaces the stored one, under the same policy. -/
def update_ (action : UpdateStatusListCredentialRaw limits) (stored : StatusListCredentialWithPolicy limits)
    (_ : Finset DidOrDidMethodKey) : Except DispatchError (Unit × StatusListCredentialWithPolicy limits) := do
  action.credential.ensureValid.mapError .statusListCredential
  pure ((), { stored with statusListCredential := action.credential })

/-- `remove_`: the credential must exist, and is taken. -/
def remove_ (stored : Option (StatusListCredentialWithPolicy limits)) (_ : Finset DidOrDidMethodKey) :
    Except DispatchError (Unit × Option (StatusListCredentialWithPolicy limits)) := do
  let some _ := stored | throw (.statusListCredential .statusListCredentialDoesntExist)
  pure ((), none)

section Dispatch

variable {Sig : Type} (authorize : Sig → Nat → Except DispatchError (Option DidOrDidMethodKey))

/-- `Action::modify_removable` on a credential: the action must not be empty, and `f` reads
the credential's entry and returns the new one. -/
def modifyRemovable {R : Type} (len : Nat) (credentialId : StatusListCredentialId)
    (f : Option (StatusListCredentialWithPolicy limits) →
      Except (IntermediateError DispatchError) (R × Option (StatusListCredentialWithPolicy limits)))
    (state : State limits) : Except (IntermediateError DispatchError) (R × State limits) := do
  if len = 0 then throw (.action .emptyPayload)
  let (result, credential) ← f (state.statusListCredentials credentialId)
  pure (result, { state with
    statusListCredentials := Function.update state.statusListCredentials credentialId credential })

/-- The pallet's calls: `create` through `modify_removable`, `update` and `remove` through
`MultiSignedAction` with the stored credential's policy. -/
def dispatch : Call Sig limits → State limits → Except (IntermediateError DispatchError) (State limits)
  | .create credentialId credential, state => do
      let (_, state) ← modifyRemovable 1 credentialId (create_ ⟨credentialId, credential⟩) state
      pure state
  | .update action proof, state => do
      let ((_, credential), nonces) ← execute authorize id 1 (state.statusListCredentials action.id)
        (update_ action) StatusListCredentialWithPolicy.expandPolicy proof state.nonces
      pure { state with
        statusListCredentials := Function.update state.statusListCredentials action.id (some credential), nonces }
  | .remove action proof, state => do
      let ((_, credential), nonces) ← executeRemovable authorize id 1 (state.statusListCredentials action.id)
        remove_ (fun stored => stored.bind StatusListCredentialWithPolicy.expandPolicy) proof state.nonces
      pure { state with
        statusListCredentials := Function.update state.statusListCredentials action.id credential, nonces }

/-- A call, where one that fails leaves the state as it was. -/
def State.apply (state : State limits) (call : Call Sig limits) : State limits :=
  (dispatch authorize call state).toOption.getD state

end Dispatch

/-! ## What each call leaves -/

section Calls

variable {Sig : Type} {authorize : Sig → Nat → Except DispatchError (Option DidOrDidMethodKey)}
  {state next : State limits}

theorem create_eq_ok {action : AddStatusListCredential limits} {stored written : Option (StatusListCredentialWithPolicy limits)}
    {done : Unit} :
    create_ action stored = .ok (done, written) ↔
      action.credential.ensureValid = .ok () ∧ stored = none ∧ written = some action.credential := by
  simp only [create_, Except.bind_eq_ok, Except.mapError_eq_ok, Except.pure_eq_ok, Prod.mk.injEq]
  constructor
  · rintro ⟨⟨⟩, valid, ⟨⟩, free, -, rfl⟩
    exact ⟨valid, Option.isNone_iff_eq_none.mp (Except.unless_eq_ok.mp free), rfl⟩
  · rintro ⟨valid, rfl, rfl⟩
    exact ⟨(), valid, (), rfl, by simp⟩

/-- `create` stores a valid credential under a free id. -/
theorem dispatch_create {credentialId : StatusListCredentialId} {credential : StatusListCredentialWithPolicy limits}
    (ran : dispatch authorize (.create credentialId credential) state = .ok next) :
    credential.ensureValid = .ok () ∧ state.statusListCredentials credentialId = none ∧
      next = { state with
        statusListCredentials := Function.update state.statusListCredentials credentialId (some credential) } := by
  simp only [dispatch, modifyRemovable, one_ne_zero, if_false, Except.bind_eq_ok, Except.pure_eq_ok,
    Prod.exists, Prod.mk.injEq] at ran
  obtain ⟨_, _, ⟨_, written, created, -, rfl⟩, rfl⟩ := ran
  obtain ⟨valid, free, rfl⟩ := create_eq_ok.mp created
  exact ⟨valid, free, rfl⟩

/-- `update` replaces the credential of a stored entry, under its policy, when one of the
policy's controllers signs; the signer's nonce moves on. -/
theorem dispatch_update {action : UpdateStatusListCredentialRaw limits} {proof : List (SignatureWithNonce Sig)}
    (ran : dispatch authorize (.update action proof) state = .ok next) :
    ∃ stored signers, state.statusListCredentials action.id = some stored ∧
      Verified authorize id state.nonces proof signers ∧ stored.policy.expand.SignedBy signers ∧
      action.credential.ensureValid = .ok () ∧
      next = { state with
        statusListCredentials := Function.update state.statusListCredentials action.id
          (some { stored with statusListCredential := action.credential }),
        nonces := increaseNonces state.nonces (signers.map id) } := by
  simp only [dispatch, Except.bind_eq_ok, Except.pure_eq_ok, Prod.exists] at ran
  obtain ⟨_, credential, nonces, executed, rfl⟩ := ran
  obtain ⟨stored, _, found, -⟩ := executeView_ran authorize id executed
  rw [execute, found, executeView_eq authorize id one_ne_zero] at executed
  obtain ⟨signers, verified, signed, updated, rfl⟩ := executeInner_eq_ok authorize id one_ne_zero executed
  simp only [update_, Except.bind_eq_ok, Except.mapError_eq_ok, Except.pure_eq_ok, Prod.mk.injEq] at updated
  obtain ⟨⟨⟩, valid, -, rfl⟩ := updated
  exact ⟨stored, signers, found, verified, signed, valid, rfl⟩

theorem remove_eq_ok {stored written : Option (StatusListCredentialWithPolicy limits)} {signers : Finset DidOrDidMethodKey}
    {done : Unit} : remove_ stored signers = .ok (done, written) ↔ stored.isSome ∧ written = none := by
  cases stored <;> simp [remove_, @eq_comm _ none]

/-- `remove` takes a stored credential when one of its policy's controllers signs; the
signer's nonce moves on. -/
theorem dispatch_remove {action : RemoveStatusListCredentialRaw} {proof : List (SignatureWithNonce Sig)}
    (ran : dispatch authorize (.remove action proof) state = .ok next) :
    ∃ stored signers, state.statusListCredentials action.id = some stored ∧
      Verified authorize id state.nonces proof signers ∧ stored.policy.expand.SignedBy signers ∧
      next = { state with
        statusListCredentials := Function.update state.statusListCredentials action.id none,
        nonces := increaseNonces state.nonces (signers.map id) } := by
  simp only [dispatch, Except.bind_eq_ok, Except.pure_eq_ok, Prod.exists] at ran
  obtain ⟨_, credential, nonces, executed, rfl⟩ := ran
  obtain ⟨someSigners, removed⟩ := executeRemovable_ran authorize id executed
  obtain ⟨present, rfl⟩ := remove_eq_ok.mp removed
  obtain ⟨stored, found⟩ := Option.isSome_iff_exists.mp present
  rw [executeRemovable_eq authorize id one_ne_zero, found] at executed
  obtain ⟨signers, verified, signed, -, rfl⟩ := executeInner_eq_ok authorize id one_ne_zero executed
  exact ⟨stored, signers, found, verified, signed, rfl⟩

end Calls

end DockSubstrate.StatusListCredentialModule
