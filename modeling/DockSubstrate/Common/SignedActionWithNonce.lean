import DockSubstrate.Did.Counters
import DockSubstrate.Common.SignedAction

/-!
# Actions signed by one DID or DID method key

`SignedActionWithNonce` (`common/signed_action.rs`) runs an action of another pallet that
one signer signed with its next nonce.  The signer is a `DidOrDidMethodKey`, whose stored
value is `WithNonce<DidDetailsOrDidMethodKeyDetails>` (`did/base/mod.rs`): a DID's entry of
`Dids` or a key's entry of `DidMethodKeys`, converted to that value and back by
`update_with`.  The conversion back of a DID's details is `try_update_onchain`, which moves
the nonce of on-chain details once more and fails for an off-chain DID, whose entry is then
removed with no error (`executeAndIncreaseNonce_offChain`).

A DID that signs has a key.  Where a DID with a key is on-chain (`EntriesOnChain`), a
successful signed action leaves the signer's entry as it was, with the action's nonce
(`Renewed`): so along every run in which key identifiers fit a `u32`.  The action's pallet
keeps its storage apart from the DID pallet's: a type `σ` here, from which the target's
value is read and to which it is written back.  `ControllerRenewed` says the same of the
DID pallet's own calls signed by a controller, where the signer's entry and the target's
may be one.

Off such runs a DID may keep keys after its removal (`keys_outlive_removal`); created again
off-chain it still signs, and its first signed action deletes its entry.
-/

namespace DockSubstrate.DidModule

open DockSubstrate.Lib DockSubstrate.Util

/-! ## The signer's stored value -/

/-- `From<StoredDidDetails> for WithNonce<DidDetailsOrDidMethodKeyDetails>`: an off-chain
DID has no nonce and reads as nonce zero. -/
def fromStoredDidDetails (details : StoredDidDetails) : WithNonce DidDetailsOrDidMethodKeyDetails :=
  ⟨details.nonce.getD 0, .didDetails details⟩

/-- `TryFrom<WithNonce<DidDetailsOrDidMethodKeyDetails>> for StoredDidDetails`, as
`update_with` reads it (its error is dropped): `try_update_onchain` moves the nonce of
on-chain details to the wrapper's, which must be their next one. -/
def toStoredDidDetails (value : WithNonce DidDetailsOrDidMethodKeyDetails) : Option StoredDidDetails :=
  match value.data with
  | .didDetails (.onChain details) => ((details.tryUpdate value.nonce).map .onChain).toOption
  | .didDetails (.offChain _) => none
  | .didMethodKeyDetails => none

/-- `From<WithNonce<()>> for WithNonce<DidDetailsOrDidMethodKeyDetails>`. -/
def fromKeyNonce (stored : WithNonce Unit) : WithNonce DidDetailsOrDidMethodKeyDetails :=
  ⟨stored.nonce, .didMethodKeyDetails⟩

/-- `TryFrom<WithNonce<DidDetailsOrDidMethodKeyDetails>> for WithNonce<()>`, as
`update_with` reads it. -/
def toKeyNonce (value : WithNonce DidDetailsOrDidMethodKeyDetails) : Option (WithNonce Unit) :=
  match value.data with
  | .didMethodKeyDetails => some ⟨value.nonce, ()⟩
  | .didDetails _ => none

/-- A function on the value of a signer's entry, which it may change or remove. -/
abbrev OnSigner (R ε : Type) :=
  Option (WithNonce DidDetailsOrDidMethodKeyDetails) → Except ε (R × Option (WithNonce DidDetailsOrDidMethodKeyDetails))

/-- `<DidOrDidMethodKey as StorageRef>::try_mutate_associated`: the signer's entry, through
`update_with` (for a DID, inside the `update_with` of `Did`'s own `StorageRef`, which
converts `StoredDidDetails` to itself). -/
def tryMutateAssociated {R ε : Type} (signer : DidOrDidMethodKey) (f : OnSigner R ε) (state : State) :
    Except ε (R × State) :=
  match signer with
  | .did did => do
      let (result, details) ← updateWith (some ∘ fromStoredDidDetails) toStoredDidDetails f
        (state.dids did)
      pure (result, { state with dids := Function.update state.dids did details })
  | .didMethodKey key => do
      let (result, stored) ← updateWith (some ∘ fromKeyNonce) toKeyNonce f
        (state.didMethodKeys key)
      pure (result, { state with didMethodKeys := Function.update state.didMethodKeys key stored })

namespace State

/-- The value `try_mutate_associated` hands to its function. -/
def signerValue (state : State) : DidOrDidMethodKey → Option (WithNonce DidDetailsOrDidMethodKeyDetails)
  | .did did => (state.dids did).map fromStoredDidDetails
  | .didMethodKey key => (state.didMethodKeys key).map fromKeyNonce

/-- The state once `try_mutate_associated` has converted back what its function left. -/
def writeSigner (state : State) :
    DidOrDidMethodKey → Option (WithNonce DidDetailsOrDidMethodKeyDetails) → State
  | .did did, value => { state with dids := Function.update state.dids did (value.bind toStoredDidDetails) }
  | .didMethodKey key, value =>
      { state with didMethodKeys := Function.update state.didMethodKeys key (value.bind toKeyNonce) }

end State

theorem tryMutateAssociated_eq_ok {R ε : Type} {signer : DidOrDidMethodKey} {f : OnSigner R ε}
    {state next : State} {result : R} :
    tryMutateAssociated signer f state = .ok (result, next) ↔
      ∃ value, f (state.signerValue signer) = .ok (result, value) ∧ next = state.writeSigner signer value := by
  -- a DID's entry and a key's are converted alike
  cases signer
  all_goals
    simp only [tryMutateAssociated, Except.bind_eq_ok, Except.pure_eq_ok, Prod.exists, updateWith_eq_ok,
      Prod.mk.injEq, State.signerValue, State.writeSigner, ← Option.map_eq_bind]
    constructor
    · rintro ⟨_, _, ⟨value, ran, rfl⟩, rfl, rfl⟩
      exact ⟨value, ran, rfl⟩
    · rintro ⟨value, ran, rfl⟩
      exact ⟨_, _, ⟨value, ran, rfl⟩, rfl, rfl⟩

/-- `TryFrom` back to on-chain details succeeds with the wrapper's nonce when it is their next. -/
theorem toStoredDidDetails_onChain {details : WithNonce OnChainDidDetails} {nonce : Nat}
    (fresh : nonce = details.nonce + 1) (fits : nonce ≤ u32Max) :
    toStoredDidDetails ⟨nonce, .didDetails (.onChain details)⟩ = some (.onChain { details with nonce }) := by
  have renewed : details.tryUpdate nonce = .ok { details with nonce } :=
    WithNonce.tryUpdate_eq_ok.mpr ⟨fresh, fits, rfl⟩
  simp [toStoredDidDetails, renewed, Except.map, Except.toOption]

/-! ## The signer's nonce -/

/-- The signer's entry once an action signed with `nonce` succeeded: the details it had,
with the action's nonce, the next of the one it had. -/
def Renewed (state next : State) (nonce : Nat) : DidOrDidMethodKey → Prop
  | .did did => ∃ details : WithNonce OnChainDidDetails, state.dids did = some (.onChain details) ∧
      nonce = details.nonce + 1 ∧
      next = { state with dids := Function.update state.dids did (some (.onChain { details with nonce })) }
  | .didMethodKey key => ∃ stored : WithNonce Unit, state.didMethodKeys key = some stored ∧
      nonce = stored.nonce + 1 ∧
      next = { state with didMethodKeys := Function.update state.didMethodKeys key (some { stored with nonce }) }

section Authorize

variable (crypto : SignatureVerification StateChange)

/-- `authorizes_signed_action` of a `DidOrDidMethodKeySignature` whose signer a pallet's type
wraps: a DID's key must exist and authenticate or control (the check of `Did`), a DID
method key signs with itself; `check` is the wrapper's, on the action and the target's
value.  The signer is returned when the signature verifies. -/
def authorizesSignedAction {ε : Type} (state : State) (signature : DidOrDidMethodKeySignature)
    (message : StateChange) (check : DidOrDidMethodKey → Except ε Unit) :
    Except (Error ⊕ ε) (Option DidOrDidMethodKey) :=
  match signature with
  | .didSignature sig => do
      let some key := state.didKeys sig.did sig.keyId | throw (.inl .noKeyForDid)
      unless key.canAuthenticateOrControl do throw (.inl .insufficientVerificationRelationship)
      (check (.did sig.did)).mapError .inr
      let verified ← (sig.sig.verify crypto message key.publicKey).mapError
        fun _ => .inl .incompatibleSignaturePublicKey
      pure (if verified then some (.did sig.did) else none)
  | .didMethodKeySignature sig => do
      (check (.didMethodKey sig.didMethodKey)).mapError .inr
      let verified ← (sig.sig.verify crypto message sig.didMethodKey).mapError
        fun _ => .inl .incompatibleSignaturePublicKey
      pure (if verified then some (.didMethodKey sig.didMethodKey) else none)

/-- A signer authorized for an action, whose entry the action leaves renewed. -/
def SignerRenewed {ε : Type} (state : State) (signature : DidOrDidMethodKeySignature) (message : StateChange)
    (check : DidOrDidMethodKey → Except ε Unit) (nonce : Nat) (next : State) : Prop :=
  ∃ signer, authorizesSignedAction crypto state signature message check = .ok (some signer) ∧
    Renewed state next nonce signer

variable {crypto}

/-- A DID's signature authorizes its DID when the key exists and authenticates or controls,
the wrapper's check passes, and the signature verifies. -/
theorem authorizesSignedAction_didSignature_eq_ok {ε : Type} {state : State} {sig : DidSignature}
    {message : StateChange} {check : DidOrDidMethodKey → Except ε Unit} {result : Option DidOrDidMethodKey} :
    authorizesSignedAction crypto state (.didSignature sig) message check = .ok result ↔
      ∃ key, state.didKeys sig.did sig.keyId = some key ∧ key.canAuthenticateOrControl = true ∧
        check (.did sig.did) = .ok () ∧ ∃ verified, sig.sig.verify crypto message key.publicKey = .ok verified ∧
          result = if verified then some (.did sig.did) else none := by
  cases found : state.didKeys sig.did sig.keyId with
  | none => simp [authorizesSignedAction, found]
  | some key =>
      -- every guard is fixed, and the run is a chain of `pure` and `throw`
      cases authenticating : key.canAuthenticateOrControl <;> cases checked : check (.did sig.did) <;>
        cases verified : sig.sig.verify crypto message key.publicKey with
        | error e => simp_all [authorizesSignedAction, Except.mapError]
        | ok valid =>
            cases valid <;> simp_all [authorizesSignedAction, Except.mapError, @eq_comm (Option DidOrDidMethodKey) result]

/-- A DID method key's signature authorizes the key when the wrapper's check passes and
the signature verifies. -/
theorem authorizesSignedAction_didMethodKeySignature_eq_ok {ε : Type} {state : State} {sig : DidMethodKeySignature}
    {message : StateChange} {check : DidOrDidMethodKey → Except ε Unit} {result : Option DidOrDidMethodKey} :
    authorizesSignedAction crypto state (.didMethodKeySignature sig) message check = .ok result ↔
      check (.didMethodKey sig.didMethodKey) = .ok () ∧ ∃ verified,
        sig.sig.verify crypto message sig.didMethodKey = .ok verified ∧
          result = if verified then some (.didMethodKey sig.didMethodKey) else none := by
  cases checked : check (.didMethodKey sig.didMethodKey) <;>
    cases verified : sig.sig.verify crypto message sig.didMethodKey with
    | error e => simp_all [authorizesSignedAction, Except.mapError]
    | ok valid =>
        cases valid <;> simp_all [authorizesSignedAction, Except.mapError, @eq_comm (Option DidOrDidMethodKey) result]

/-- A DID authorized as a signer has the key it signed with. -/
theorem hasEntries_of_authorizesSignedAction {ε : Type} {state : State} {signature : DidOrDidMethodKeySignature}
    {message : StateChange} {check : DidOrDidMethodKey → Except ε Unit} {did : Did}
    (authorized : authorizesSignedAction crypto state signature message check = .ok (some (.did did))) :
    state.HasEntries did := by
  cases signature with
  | didSignature sig =>
      obtain ⟨key, found, -, -, verified, -, signed⟩ := authorizesSignedAction_didSignature_eq_ok.mp authorized
      have named : sig.did = did := by
        cases verified <;> simp_all
      exact .inl ⟨sig.keyId, key, named ▸ found⟩
  | didMethodKeySignature sig =>
      obtain ⟨-, verified, -, signed⟩ := authorizesSignedAction_didMethodKeySignature_eq_ok.mp authorized
      cases verified <;> simp at signed

end Authorize

/-! ## `SignedActionWithNonce` -/

namespace SignedActionWithNonce

open DockSubstrate.Common (IntermediateError)

section Execute

variable {σ V R ε : Type}

/-- `execute_and_increase_nonce` of the `ActionWithNonceWrapper` around the action, whose
target is the signer: the signer's entry must exist (`NoEntity`), its nonce moves to the
action's (`try_update_opt_with`), and `f` runs on the storage of the action's pallet; the
signer's details are written back as they were, since `f` does not read them. -/
def executeAndIncreaseNonce (len : Nat) (signer : DidOrDidMethodKey) (nonce : Nat)
    (f : σ → Except (IntermediateError ε) (R × σ)) (state : State) (other : σ) :
    Except (IntermediateError ε) (R × State × σ) := do
  if len = 0 then throw (.action .emptyPayload)
  let ((result, other), state) ← tryMutateAssociated signer (fun value => do
      let some current := value | throw (.action .noEntity)
      let renewed ← (current.tryUpdate nonce).mapError .nonce
      let (result, other) ← f other
      pure ((result, other), some renewed)) state
  pure (result, state, other)

theorem executeAndIncreaseNonce_eq_ok {len : Nat} {signer : DidOrDidMethodKey} {nonce : Nat}
    {f : σ → Except (IntermediateError ε) (R × σ)} {state next : State} {other written : σ} {result : R} :
    executeAndIncreaseNonce len signer nonce f state other = .ok (result, next, written) ↔
      len ≠ 0 ∧ ∃ current, state.signerValue signer = some current ∧ nonce = current.nonce + 1 ∧
        nonce ≤ u32Max ∧ f other = .ok (result, written) ∧ next = state.writeSigner signer (some { current with nonce }) := by
  by_cases empty : len = 0
  · simp [executeAndIncreaseNonce, empty]
  · simp only [executeAndIncreaseNonce, empty, if_false, Except.bind_eq_ok, Except.pure_eq_ok,
      Prod.exists, Prod.mk.injEq, tryMutateAssociated_eq_ok, ne_eq, not_false_eq_true, true_and]
    cases found : state.signerValue signer with
    | none => simp
    | some current =>
        simp only [Except.bind_eq_ok, Except.mapError_eq_ok, WithNonce.tryUpdate_eq_ok, Except.pure_eq_ok,
          Prod.mk.injEq, Option.some.injEq, Prod.exists, exists_eq_left']
        constructor
        · rintro ⟨_, _, _, ⟨_, ⟨_, ⟨fresh, fits, rfl⟩, _, _, ran, ⟨rfl, rfl⟩, rfl⟩, rfl⟩, rfl, rfl, rfl⟩
          exact ⟨fresh, fits, ran, rfl⟩
        · rintro ⟨fresh, fits, ran, rfl⟩
          exact ⟨_, _, _, ⟨_, ⟨_, ⟨fresh, fits, rfl⟩, _, _, ran, ⟨rfl, rfl⟩, rfl⟩, rfl⟩, rfl, rfl, rfl⟩

/-- Once the signer is on-chain, or a key, a successful run leaves its entry renewed. -/
theorem renewed_of_executeAndIncreaseNonce {len : Nat} {signer : DidOrDidMethodKey} {nonce : Nat}
    {f : σ → Except (IntermediateError ε) (R × σ)} {state next : State} {other written : σ} {result : R}
    (onChain : ∀ did, signer = .did did → state.IsOnChain did)
    (ran : executeAndIncreaseNonce len signer nonce f state other = .ok (result, next, written)) :
    Renewed state next nonce signer ∧ f other = .ok (result, written) := by
  obtain ⟨-, current, found, fresh, fits, body, rfl⟩ := executeAndIncreaseNonce_eq_ok.mp ran
  refine ⟨?_, body⟩
  cases signer with
  | did did =>
      obtain ⟨details, stored⟩ := onChain did rfl
      -- on-chain details are handed over with their own nonce
      have read : current = ⟨details.nonce, .didDetails (.onChain details)⟩ := by
        simpa [State.signerValue, stored, fromStoredDidDetails, StoredDidDetails.nonce, StoredDidDetails.intoOnchain,
          eq_comm] using found
      subst read
      exact ⟨details, stored, fresh, by simp [State.writeSigner, toStoredDidDetails_onChain fresh fits]⟩
  | didMethodKey key =>
      obtain ⟨stored, keyStored, rfl⟩ : ∃ stored, state.didMethodKeys key = some stored ∧ fromKeyNonce stored = current := by
        simpa [State.signerValue] using found
      exact ⟨stored, keyStored, fresh, by simp [State.writeSigner, fromKeyNonce, toKeyNonce]⟩

/-- An off-chain DID reads as nonce zero, so an action with nonce one is accepted, and its
details do not convert back, so its entry is removed. -/
theorem executeAndIncreaseNonce_offChain {len : Nat} {did : Did} {details : OffChainDidDetails}
    {f : σ → Except (IntermediateError ε) (R × σ)} {state : State} {other written : σ} {result : R}
    (stored : state.dids did = some (.offChain details)) (nonEmpty : len ≠ 0)
    (ran : f other = .ok (result, written)) :
    executeAndIncreaseNonce len (.did did) 1 f state other =
      .ok (result, { state with dids := Function.update state.dids did none }, written) := by
  have read : state.signerValue (.did did) = some ⟨0, .didDetails (.offChain details)⟩ := by
    simp [State.signerValue, stored, fromStoredDidDetails, StoredDidDetails.nonce, StoredDidDetails.intoOnchain]
  exact executeAndIncreaseNonce_eq_ok.mpr
    ⟨nonEmpty, _, read, rfl, by decide, ran, by simp [State.writeSigner, toStoredDidDetails]⟩

variable (crypto : SignatureVerification StateChange)

/-- `authorizes_signed_action(..)?.ok_or(InvalidSignature)?`: the signer the signature
verifies as. -/
def signerOf (state : State) (signature : DidOrDidMethodKeySignature) (message : StateChange)
    (check : DidOrDidMethodKey → Except ε Unit) : Except (IntermediateError (Error ⊕ ε)) DidOrDidMethodKey := do
  match ← (authorizesSignedAction crypto state signature message check).mapError .dispatch with
  | some signer => pure signer
  | none => throw .invalidSignature

/-- `SignedActionWithNonce::execute_without_target_data`: the wrapper's check sees no value
of the target. -/
def executeWithoutTargetData (len nonce : Nat) (signature : DidOrDidMethodKeySignature) (message : StateChange)
    (check : Option V → DidOrDidMethodKey → Except ε Unit)
    (f : DidOrDidMethodKey → σ → Except (IntermediateError (Error ⊕ ε)) (R × σ)) (state : State) (other : σ) :
    Except (IntermediateError (Error ⊕ ε)) (R × State × σ) := do
  let signer ← signerOf crypto state signature message (check none)
  executeAndIncreaseNonce len signer nonce (f signer) state other

/-- `SignedActionWithNonce::execute_view`, through `Action::view`: the target must have a
value (`NoEntity`), which the wrapper's check and `f` read. -/
def executeView (len nonce : Nat) (entry : σ → Option V) (signature : DidOrDidMethodKeySignature)
    (message : StateChange) (check : Option V → DidOrDidMethodKey → Except ε Unit)
    (f : V → DidOrDidMethodKey → σ → Except (IntermediateError (Error ⊕ ε)) (R × σ)) (state : State) (other : σ) :
    Except (IntermediateError (Error ⊕ ε)) (R × State × σ) := do
  if len = 0 then throw (.action .emptyPayload)
  let some data := entry other | throw (.action .noEntity)
  let signer ← signerOf crypto state signature message (check (some data))
  executeAndIncreaseNonce len signer nonce (f data signer) state other

/-- `SignedActionWithNonce::execute_removable`, through `Action::modify_removable`: `f` reads
the target's value, if any, and returns the new one, which is written back once the
signer's nonce is renewed (`none` removes it). -/
def executeRemovable (len nonce : Nat) (entry : σ → Option V) (write : σ → Option V → σ)
    (signature : DidOrDidMethodKeySignature) (message : StateChange)
    (check : Option V → DidOrDidMethodKey → Except ε Unit)
    (f : Option V → DidOrDidMethodKey → σ → Except (IntermediateError (Error ⊕ ε)) (R × Option V × σ))
    (state : State) (other : σ) : Except (IntermediateError (Error ⊕ ε)) (R × State × σ) := do
  if len = 0 then throw (.action .emptyPayload)
  let data := entry other
  let signer ← signerOf crypto state signature message (check data)
  let ((result, data), state, other) ← executeAndIncreaseNonce len signer nonce (fun other => do
      let (result, data, other) ← f data signer other
      pure ((result, data), other)) state other
  pure (result, state, write other data)

/-- `SignedActionWithNonce::execute`: `execute_removable` on a target that must have a value. -/
def execute (len nonce : Nat) (entry : σ → Option V) (write : σ → Option V → σ)
    (signature : DidOrDidMethodKeySignature) (message : StateChange)
    (check : Option V → DidOrDidMethodKey → Except ε Unit)
    (f : V → DidOrDidMethodKey → σ → Except (IntermediateError (Error ⊕ ε)) (R × V × σ))
    (state : State) (other : σ) : Except (IntermediateError (Error ⊕ ε)) (R × State × σ) :=
  executeRemovable crypto len nonce entry write signature message check (fun data signer other => do
    let some data := data | throw (.action .noEntity)
    let (result, data, other) ← f data signer other
    pure (result, some data, other)) state other

variable {crypto}

theorem signerOf_eq_ok {state : State} {signature : DidOrDidMethodKeySignature} {message : StateChange}
    {check : DidOrDidMethodKey → Except ε Unit} {signer : DidOrDidMethodKey} :
    signerOf crypto state signature message check = .ok signer ↔
      authorizesSignedAction crypto state signature message check = .ok (some signer) := by
  cases authorized : authorizesSignedAction crypto state signature message check with
  | error e => simp [signerOf, authorized, Except.mapError]
  | ok verified => cases verified <;> simp [signerOf, authorized, Except.mapError]

theorem executeWithoutTargetData_eq_ok {len nonce : Nat} {signature : DidOrDidMethodKeySignature}
    {message : StateChange} {check : Option V → DidOrDidMethodKey → Except ε Unit}
    {f : DidOrDidMethodKey → σ → Except (IntermediateError (Error ⊕ ε)) (R × σ)} {state next : State}
    {other written : σ} {result : R} :
    executeWithoutTargetData crypto len nonce signature message check f state other = .ok (result, next, written) ↔
      ∃ signer, authorizesSignedAction crypto state signature message (check none) = .ok (some signer) ∧
        executeAndIncreaseNonce len signer nonce (f signer) state other = .ok (result, next, written) := by
  simp only [executeWithoutTargetData, Except.bind_eq_ok, signerOf_eq_ok]

section Renews

variable {len nonce : Nat} {signature : DidOrDidMethodKeySignature} {message : StateChange}
  {check : Option V → DidOrDidMethodKey → Except ε Unit} {state next : State} {other written : σ} {result : R}

/-- A signer authorized in a state where keys belong to on-chain DIDs, and a successful
run on its entry: the entry is renewed. -/
theorem signerRenewed_of_authorized {ρ : Type} {value : Option V} {signer : DidOrDidMethodKey}
    {g : σ → Except (IntermediateError (Error ⊕ ε)) (ρ × σ)} {reached : ρ} (inv : EntriesOnChain state)
    (signed : authorizesSignedAction crypto state signature message (check value) = .ok (some signer))
    (ran : executeAndIncreaseNonce len signer nonce g state other = .ok (reached, next, written)) :
    SignerRenewed crypto state signature message (check value) nonce next := by
  have onChain : ∀ did, signer = .did did → state.IsOnChain did := by
    rintro did rfl
    exact inv did (hasEntries_of_authorizesSignedAction signed)
  exact ⟨signer, signed, (renewed_of_executeAndIncreaseNonce onChain ran).1⟩

theorem executeWithoutTargetData_renews {f : DidOrDidMethodKey → σ → Except (IntermediateError (Error ⊕ ε)) (R × σ)}
    (inv : EntriesOnChain state)
    (ran : executeWithoutTargetData crypto len nonce signature message check f state other = .ok (result, next, written)) :
    SignerRenewed crypto state signature message (check none) nonce next := by
  obtain ⟨signer, signed, ran⟩ := executeWithoutTargetData_eq_ok.mp ran
  exact signerRenewed_of_authorized inv signed ran

theorem executeView_renews {entry : σ → Option V}
    {f : V → DidOrDidMethodKey → σ → Except (IntermediateError (Error ⊕ ε)) (R × σ)} (inv : EntriesOnChain state)
    (ran : executeView crypto len nonce entry signature message check f state other = .ok (result, next, written)) :
    ∃ data, entry other = some data ∧ SignerRenewed crypto state signature message (check (some data)) nonce next := by
  -- an empty action and a target with no value both fail before the signature is checked
  cases found : entry other with
  | none =>
      simp only [executeView, found] at ran
      split_ifs at ran
      simp at ran
  | some data =>
      simp only [executeView, found] at ran
      split_ifs at ran
      · simp at ran
      · obtain ⟨signer, signed, ran⟩ := Except.bind_eq_ok.mp ran
        exact ⟨data, rfl, signerRenewed_of_authorized inv (signerOf_eq_ok.mp signed) ran⟩

theorem executeRemovable_renews {entry : σ → Option V} {write : σ → Option V → σ}
    {f : Option V → DidOrDidMethodKey → σ → Except (IntermediateError (Error ⊕ ε)) (R × Option V × σ)}
    (inv : EntriesOnChain state)
    (ran : executeRemovable crypto len nonce entry write signature message check f state other =
      .ok (result, next, written)) :
    SignerRenewed crypto state signature message (check (entry other)) nonce next := by
  simp only [executeRemovable] at ran
  split_ifs at ran
  · simp at ran
  · obtain ⟨signer, signed, ran⟩ := Except.bind_eq_ok.mp ran
    obtain ⟨⟨⟨_, _⟩, _, _⟩, renewed, wrote⟩ := Except.bind_eq_ok.mp ran
    obtain ⟨-, rfl, -⟩ : _ ∧ _ = next ∧ _ := by simpa using wrote
    exact signerRenewed_of_authorized inv (signerOf_eq_ok.mp signed) renewed

theorem execute_renews {entry : σ → Option V} {write : σ → Option V → σ}
    {f : V → DidOrDidMethodKey → σ → Except (IntermediateError (Error ⊕ ε)) (R × V × σ)}
    (inv : EntriesOnChain state)
    (ran : execute crypto len nonce entry write signature message check f state other = .ok (result, next, written)) :
    SignerRenewed crypto state signature message (check (entry other)) nonce next := by
  unfold execute at ran
  exact executeRemovable_renews inv ran

end Renews

end Execute

end SignedActionWithNonce

/-! ## Calls of the DID pallet signed by a controller -/

/-- The target's entry after a call signed by another controller: the details the call
left, with the target's own nonce. -/
def TargetNonceKept (f : OnDetails) (target : Did) (state next : State) : Prop :=
  ∃ details : WithNonce OnChainDidDetails, state.dids target = some (.onChain details) ∧
    ∃ data after, f (some details.data) state = .ok (data, after) ∧
      next.dids target = data.map fun data => .onChain ⟨details.nonce, data⟩

/-- The controller's entry after a successful call with `nonce`: a DID that is its own
target holds what the call left, with the action's nonce; another controller holds the
details it had, with the action's nonce, and the target keeps its own nonce. -/
def ControllerRenewed (f : OnDetails) (target : Did) (nonce : Nat) (state next : State) : Controller → Prop
  | ⟨.did controller⟩ => ∃ details : WithNonce OnChainDidDetails,
      state.dids controller = some (.onChain details) ∧ nonce = details.nonce + 1 ∧
      if controller = target then
        ∃ data after, f (some details.data) state = .ok (data, after) ∧
          next.dids target = data.map fun data => .onChain ⟨nonce, data⟩
      else next.dids controller = some (.onChain { details with nonce }) ∧ TargetNonceKept f target state next
  | ⟨.didMethodKey key⟩ => ∃ stored : WithNonce Unit,
      state.didMethodKeys key = some stored ∧ nonce = stored.nonce + 1 ∧
      next.didMethodKeys key = some { stored with nonce } ∧ TargetNonceKept f target state next

section Controllers

variable {crypto : SignatureVerification StateChange} {len : Nat} {target : Did} {nonce : Nat}
  {message : StateChange} {f : OnDetails} {signature : DidOrDidMethodKeySignature} {state next : State}

theorem controllerRenewed_of_executeRemovableFromController
    (ran : executeRemovableFromController crypto len target nonce message f signature state = .ok next) :
    ∃ signer, authorizeController crypto state signature target message = .ok signer ∧
      ControllerRenewed f target nonce state next signer := by
  obtain ⟨signer, authorized⟩ := authorized_of_executeRemovableFromController ran
  refine ⟨signer, authorized, ?_⟩
  obtain ⟨controller | key⟩ := signer
  · by_cases self : controller = target
    · subst self
      obtain ⟨-, details, stored, fresh, -, data, after, body, rfl⟩ :=
        (executeRemovableFromController_self authorized).mp ran
      refine ⟨details, stored, fresh, ?_⟩
      rw [if_pos rfl]
      exact ⟨data, after, body, by simp⟩
    · obtain ⟨-, details, stored, fresh, -, targetDetails, targetStored, data, after, body, rfl⟩ :=
        (executeRemovableFromController_other authorized self).mp ran
      refine ⟨details, stored, fresh, ?_⟩
      rw [if_neg self]
      exact ⟨by simp, targetDetails, targetStored, data, after, body, by simp [Function.update_of_ne (Ne.symm self)]⟩
  · obtain ⟨-, stored, found, fresh, -, targetDetails, targetStored, data, after, body, rfl⟩ :=
      (executeRemovableFromController_key authorized).mp ran
    exact ⟨stored, found, fresh, by simp, targetDetails, targetStored, data, after, body, by simp⟩

end Controllers

/-! ## The signer's entry in every reachable state -/

section Reachable

open DockSubstrate.Common (IntermediateError)
open SignedActionWithNonce

variable {crypto : SignatureVerification StateChange}

/-- The run lemma: along every run whose key identifiers fit, from a genesis whose keys can
control, a successful signed action renews its signer's entry. -/
theorem signerNonce_renewed {backend : Backend} {config : List (Did × DidKey)} {state : State}
    (controlKeys : ∀ entry ∈ config, entry.2.canControl = true) (reachable : ReachableFitting crypto backend config state) :
    (∀ {σ V R ε : Type} (len nonce : Nat) (signature : DidOrDidMethodKeySignature) (message : StateChange)
        (check : Option V → DidOrDidMethodKey → Except ε Unit)
        (f : DidOrDidMethodKey → σ → Except (IntermediateError (Error ⊕ ε)) (R × σ)) (other : σ) (result : R)
        (next : State) (written : σ),
      executeWithoutTargetData crypto len nonce signature message check f state other = .ok (result, next, written) →
        SignerRenewed crypto state signature message (check none) nonce next) ∧
    (∀ {σ V R ε : Type} (len nonce : Nat) (entry : σ → Option V) (signature : DidOrDidMethodKeySignature)
        (message : StateChange) (check : Option V → DidOrDidMethodKey → Except ε Unit)
        (f : V → DidOrDidMethodKey → σ → Except (IntermediateError (Error ⊕ ε)) (R × σ)) (other : σ) (result : R)
        (next : State) (written : σ),
      executeView crypto len nonce entry signature message check f state other = .ok (result, next, written) →
        ∃ data, entry other = some data ∧ SignerRenewed crypto state signature message (check (some data)) nonce next) ∧
    (∀ {σ V R ε : Type} (len nonce : Nat) (entry : σ → Option V) (write : σ → Option V → σ)
        (signature : DidOrDidMethodKeySignature) (message : StateChange)
        (check : Option V → DidOrDidMethodKey → Except ε Unit)
        (f : Option V → DidOrDidMethodKey → σ → Except (IntermediateError (Error ⊕ ε)) (R × Option V × σ))
        (other : σ) (result : R) (next : State) (written : σ),
      executeRemovable crypto len nonce entry write signature message check f state other =
          .ok (result, next, written) →
        SignerRenewed crypto state signature message (check (entry other)) nonce next) ∧
    (∀ {σ V R ε : Type} (len nonce : Nat) (entry : σ → Option V) (write : σ → Option V → σ)
        (signature : DidOrDidMethodKeySignature) (message : StateChange)
        (check : Option V → DidOrDidMethodKey → Except ε Unit)
        (f : V → DidOrDidMethodKey → σ → Except (IntermediateError (Error ⊕ ε)) (R × V × σ))
        (other : σ) (result : R) (next : State) (written : σ),
      execute crypto len nonce entry write signature message check f state other = .ok (result, next, written) →
        SignerRenewed crypto state signature message (check (entry other)) nonce next) ∧
    (∀ (len : Nat) (target : Did) (nonce : Nat) (message : StateChange) (f : OnDetails)
        (signature : DidOrDidMethodKeySignature) (next : State),
      executeRemovableFromController crypto len target nonce message f signature state = .ok next →
        ∃ signer, authorizeController crypto state signature target message = .ok signer ∧
          ControllerRenewed f target nonce state next signer) ∧
    (∀ {ε : Type} (len : Nat) (target : Did) (nonce : Nat) (message : StateChange) (lift : ε → DispatchError)
        (body : OnChainDidDetails → State → Except ε (OnChainDidDetails × State))
        (signature : DidOrDidMethodKeySignature) (next : State),
      executeFromController crypto len target nonce message lift body signature state = .ok next →
        ∃ signer, authorizeController crypto state signature target message = .ok signer ∧
          ControllerRenewed (onExisting lift body) target nonce state next signer) := by
  have inv : EntriesOnChain state := (reachable.consistent controlKeys).entriesOnChain
  refine ⟨?_, ?_, ?_, ?_, ?_, ?_⟩
  · intro σ V R ε len nonce signature message check f other result next written ran
    exact executeWithoutTargetData_renews inv ran
  · intro σ V R ε len nonce entry signature message check f other result next written ran
    exact executeView_renews inv ran
  · intro σ V R ε len nonce entry write signature message check f other result next written ran
    exact executeRemovable_renews inv ran
  · intro σ V R ε len nonce entry write signature message check f other result next written ran
    exact execute_renews inv ran
  · intro len target nonce message f signature next ran
    exact controllerRenewed_of_executeRemovableFromController ran
  · intro ε len target nonce message lift body signature next ran
    exact controllerRenewed_of_executeRemovableFromController ran

/-- A key that outlived its DID's removal signs for the DID once anyone creates it again
off-chain, and the action it signs deletes the DID's entry. -/
theorem signedAction_deletes_offchainSigner (backend : Backend) :
    ∃ state keyId next,
      runCalls acceptAll backend (keysOutliveRemoval ++ [.newOffchain 0 ⟨0⟩ (.custom [])])
          (genesis [(⟨1⟩, controlKey 1)]) = .ok state ∧
        state.dids ⟨0⟩ = some (.offChain ⟨0, .custom []⟩) ∧
        executeWithoutTargetData acceptAll 1 1 (.didSignature ⟨⟨0⟩, keyId, .sr25519 0⟩) (.masterVote [] 0 1)
            (fun (_ : Option Unit) _ => (.ok () : Except Unit Unit)) (fun _ (other : Unit) => .ok ((), other))
            state () = .ok ((), next, ()) ∧
        next.dids ⟨0⟩ = none := by
  obtain ⟨removed, keyId, key, ran, gone, found, outlived⟩ := keys_outlive_removal backend
  -- anyone creates DID 0 again off-chain, and its keys are still there
  obtain ⟨created, creation, stored, kept⟩ : ∃ created,
      dispatch acceptAll backend (.newOffchain 0 ⟨0⟩ (.custom [])) removed = .ok created ∧
        created.dids ⟨0⟩ = some (.offChain ⟨0, .custom []⟩) ∧ created.didKeys = removed.didKeys :=
    ⟨_, Except.mapError_eq_ok.mpr (newOffchain_eq_ok.mpr ⟨gone, rfl⟩), by simp, rfl⟩
  -- both keys DID 0 may keep sign for it, and their public key is the one signed with
  have signs : key.canAuthenticateOrControl = true ∧ key.publicKey = .sr25519 0 := by
    rcases outlived with rfl | rfl <;> exact ⟨rfl, rfl⟩
  have verified : (SigValue.sr25519 0).verify acceptAll (.masterVote [] 0 1) key.publicKey = .ok true := by
    rw [signs.2]
    rfl
  have authorized : authorizesSignedAction acceptAll created (.didSignature ⟨⟨0⟩, keyId, .sr25519 0⟩)
      (.masterVote [] 0 1) (fun _ => (.ok () : Except Unit Unit)) = .ok (some (.did ⟨0⟩)) :=
    authorizesSignedAction_didSignature_eq_ok.mpr ⟨key, kept ▸ found, signs.1, rfl, true, verified, rfl⟩
  refine ⟨created, keyId, _, ?_, stored, executeWithoutTargetData_eq_ok.mpr
    ⟨.did ⟨0⟩, authorized, executeAndIncreaseNonce_offChain stored (by decide) rfl⟩, by simp⟩
  rw [runCalls_append, ran, Except.ok_bind, runCalls_singleton, creation]

end Reachable

end DockSubstrate.DidModule
