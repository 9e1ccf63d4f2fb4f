import DockSubstrate.Did.Pallet

/-!
# What a call signed by a controller does

One lemma per step of `execute_removable_from_controller`: when the authorization of a
controller's signature succeeds, and what a run on an entry of `Dids` or
`DidMethodKeys` writes; and one lemma per call that no signature authorizes, for what it
writes when it succeeds.  Later proofs take a call apart with these, never by unfolding
it.
-/

namespace DockSubstrate.DidModule

open DockSubstrate.Lib DockSubstrate.Util

variable {crypto : SignatureVerification StateChange}

/-- A DID's signature authorizes an action on `target` when its key exists and can
control, the DID controls `target`, and the signature verifies. -/
theorem authorizeController_didSignature_eq_ok {state : State} {sig : DidSignature} {target : Did}
    {message : StateChange} {controller : Controller} :
    authorizeController crypto state (.didSignature sig) target message = .ok controller ↔
      controller = ⟨.did sig.did⟩ ∧ ∃ key, state.didKeys sig.did sig.keyId = some key ∧
        key.canControl = true ∧ state.isController target ⟨.did sig.did⟩ = true ∧
        sig.sig.verify crypto message key.publicKey = .ok true := by
  cases found : state.didKeys sig.did sig.keyId with
  | none => simp [authorizeController, found]
  | some key =>
      have authenticates : key.canControl = true → key.canAuthenticateOrControl = true :=
        DidKey.canAuthenticateOrControl_of_canControl
      -- every guard is a Boolean: fix each, and the run is a chain of `pure` and `throw`
      cases authenticating : key.canAuthenticateOrControl <;> cases controls : key.canControl <;>
        cases controlled : state.isController target ⟨.did sig.did⟩ <;>
        cases verified : sig.sig.verify crypto message key.publicKey with
        | error e => simp_all [authorizeController, Except.mapError]
        | ok result =>
            cases result <;> simp_all [authorizeController, Except.mapError, @eq_comm Controller controller]

/-- A DID method key's signature authorizes an action on `target` when the key controls
`target` and the signature verifies. -/
theorem authorizeController_didMethodKeySignature_eq_ok {state : State} {sig : DidMethodKeySignature}
    {target : Did} {message : StateChange} {controller : Controller} :
    authorizeController crypto state (.didMethodKeySignature sig) target message = .ok controller ↔
      controller = ⟨.didMethodKey sig.didMethodKey⟩ ∧
        state.isController target ⟨.didMethodKey sig.didMethodKey⟩ = true ∧
        sig.sig.verify crypto message sig.didMethodKey = .ok true := by
  cases controlled : state.isController target ⟨.didMethodKey sig.didMethodKey⟩ <;>
    cases verified : sig.sig.verify crypto message sig.didMethodKey with
    | error e => simp_all [authorizeController, Except.mapError]
    | ok result =>
        cases result <;> simp_all [authorizeController, Except.mapError, @eq_comm Controller controller]

/-- A run on the entry of `did` succeeds when the action is not empty, the DID is on-chain,
its nonce is renewed and the function succeeds; the entry then holds what the function
left, with the renewed nonce. -/
theorem executeOnDid_eq_ok {len : Nat} {did : Did} {renew : WithNonce OnChainDidDetails → Except DispatchError Nat}
    {f : OnDetails} {state next : State} :
    executeOnDid len did renew f state = .ok next ↔
      len ≠ 0 ∧ ∃ details, state.dids did = some (.onChain details) ∧ ∃ nonce, renew details = .ok nonce ∧
        ∃ data after, f (some details.data) state = .ok (data, after) ∧
          next = { after with dids := Function.update after.dids did (data.map fun data => .onChain ⟨nonce, data⟩) } := by
  by_cases empty : len = 0
  · simp [executeOnDid, empty]
  cases stored : state.dids did with
  | none => simp [executeOnDid, empty, stored]
  | some details =>
      cases details with
      | offChain details => simp [executeOnDid, empty, stored, StoredDidDetails.intoOnchain]
      | onChain details =>
          simp [executeOnDid, empty, stored, StoredDidDetails.intoOnchain, @eq_comm State next]

/-- A run on a DID method key succeeds when the action is not empty, the key is stored,
the action's nonce is the next one and the function succeeds; the key then holds the
new nonce. -/
theorem executeAndIncreaseNonceOfKey_eq_ok {len : Nat} {key : DidMethodKey} {nonce : Nat}
    {f : State → Except DispatchError State} {state next : State} :
    executeAndIncreaseNonceOfKey len key nonce f state = .ok next ↔
      len ≠ 0 ∧ ∃ stored, state.didMethodKeys key = some stored ∧ ∃ updated, stored.tryUpdate nonce = .ok updated ∧
        ∃ after, f state = .ok after ∧
          next = { after with didMethodKeys := Function.update after.didMethodKeys key (some updated) } := by
  by_cases empty : len = 0
  · simp [executeAndIncreaseNonceOfKey, empty]
  cases found : state.didMethodKeys key with
  | none => simp [executeAndIncreaseNonceOfKey, empty, found]
  | some stored =>
      cases updated : stored.tryUpdate nonce with
      | error e => simp [executeAndIncreaseNonceOfKey, empty, found, updated, Except.mapError]
      | ok updated =>
          simp [executeAndIncreaseNonceOfKey, empty, found, updated, Except.mapError, @eq_comm State next]

/-- `execute_and_increase_nonce` on a DID: the action's nonce must be the stored one plus
one, and becomes the stored one. -/
theorem executeAndIncreaseNonce_eq_ok {len : Nat} {did : Did} {nonce : Nat} {f : OnDetails}
    {state next : State} :
    executeAndIncreaseNonce len did nonce f state = .ok next ↔
      len ≠ 0 ∧ ∃ details, state.dids did = some (.onChain details) ∧ nonce = details.nonce + 1 ∧
        nonce ≤ u32Max ∧ ∃ data after, f (some details.data) state = .ok (data, after) ∧
          next = { after with dids := Function.update after.dids did (data.map fun data => .onChain ⟨nonce, data⟩) } := by
  have renewed : ∀ (details : WithNonce OnChainDidDetails) (renewedNonce : Nat),
      (((details.tryUpdate nonce).map WithNonce.nonce).mapError fun _ => DispatchError.did .invalidNonce) =
          .ok renewedNonce ↔ nonce = details.nonce + 1 ∧ nonce ≤ u32Max ∧ renewedNonce = nonce := by
    intro details renewedNonce
    simp only [Except.mapError_eq_ok, Except.map_eq_ok, WithNonce.tryUpdate_eq_ok]
    constructor
    · rintro ⟨_, ⟨fresh, fits, rfl⟩, rfl⟩
      exact ⟨fresh, fits, rfl⟩
    · rintro ⟨fresh, fits, rfl⟩
      exact ⟨_, ⟨fresh, fits, rfl⟩, rfl⟩
  rw [executeAndIncreaseNonce, executeOnDid_eq_ok]
  simp only [renewed]
  constructor
  · rintro ⟨nonEmpty, details, stored, _, ⟨fresh, fits, rfl⟩, rest⟩
    exact ⟨nonEmpty, details, stored, fresh, fits, rest⟩
  · rintro ⟨nonEmpty, details, stored, fresh, fits, rest⟩
    exact ⟨nonEmpty, details, stored, nonce, ⟨fresh, fits, rfl⟩, rest⟩

/-- `execute_without_increasing_nonce` on a DID: its entry keeps its nonce. -/
theorem executeWithoutIncreasingNonce_eq_ok {len : Nat} {did : Did} {f : OnDetails} {state next : State} :
    executeWithoutIncreasingNonce len did f state = .ok next ↔
      len ≠ 0 ∧ ∃ details, state.dids did = some (.onChain details) ∧
        ∃ data after, f (some details.data) state = .ok (data, after) ∧
          next = { after with
            dids := Function.update after.dids did (data.map fun data => .onChain ⟨details.nonce, data⟩) } := by
  rw [executeWithoutIncreasingNonce, executeOnDid_eq_ok]
  simp [pure, Except.pure]

/-- Once the controller's signature is authorized, the call runs by the kind of signer. -/
theorem executeRemovableFromController_of_authorized {len : Nat} {target : Did} {nonce : Nat}
    {message : StateChange} {f : OnDetails} {signature : DidOrDidMethodKeySignature} {state : State}
    {signer : Controller} (authorized : authorizeController crypto state signature target message = .ok signer) :
    executeRemovableFromController crypto len target nonce message f signature state =
      match signer.id with
      | .did controller =>
          if controller = target then executeAndIncreaseNonce len controller nonce f state
          else
            executeAndIncreaseNonce len controller nonce (fun details state => do
              let state ← executeWithoutIncreasingNonce len target f state
              pure (details, state)) state
      | .didMethodKey key => executeAndIncreaseNonceOfKey len key nonce (executeWithoutIncreasingNonce len target f) state := by
  rw [executeRemovableFromController, authorized]
  rfl

/-- A body run by `execute_from_controller` on existing details succeeds when the call's
body does, and leaves details. -/
theorem onExisting_some_eq_ok {ε : Type} {lift : ε → DispatchError}
    {body : OnChainDidDetails → State → Except ε (OnChainDidDetails × State)} {details : OnChainDidDetails}
    {state after : State} {data : Option OnChainDidDetails} :
    onExisting lift body (some details) state = .ok (data, after) ↔
      ∃ updated, body details state = .ok (updated, after) ∧ data = some updated := by
  simp only [onExisting, Except.bind_eq_ok, Except.mapError_eq_ok, Except.pure_eq_ok, Prod.mk.injEq]
  constructor
  · rintro ⟨⟨updated, _⟩, ran, rfl, rfl⟩
    exact ⟨updated, ran, rfl⟩
  · rintro ⟨updated, ran, rfl⟩
    exact ⟨(updated, after), ran, rfl, rfl⟩

/-- A call signed by a controller succeeds only once the signature is authorized. -/
theorem authorized_of_executeRemovableFromController {len : Nat} {target : Did} {nonce : Nat}
    {message : StateChange} {f : OnDetails} {signature : DidOrDidMethodKeySignature} {state next : State}
    (ran : executeRemovableFromController crypto len target nonce message f signature state = .ok next) :
    ∃ signer, authorizeController crypto state signature target message = .ok signer := by
  rw [executeRemovableFromController] at ran
  obtain ⟨signer, authorized, -⟩ := Except.bind_eq_ok.mp ran
  exact ⟨signer, Except.mapError_eq_ok.mp authorized⟩

section Signers

variable {len : Nat} {target : Did} {nonce : Nat} {message : StateChange} {f : OnDetails}
  {signature : DidOrDidMethodKeySignature} {state next : State}

/-- Signed by the target itself, one update of its entry writes the details the call left,
with the action's nonce. -/
theorem executeRemovableFromController_self
    (authorized : authorizeController crypto state signature target message = .ok ⟨.did target⟩) :
    executeRemovableFromController crypto len target nonce message f signature state = .ok next ↔
      len ≠ 0 ∧ ∃ details, state.dids target = some (.onChain details) ∧ nonce = details.nonce + 1 ∧
        nonce ≤ u32Max ∧ ∃ data after, f (some details.data) state = .ok (data, after) ∧
          next = { after with dids := Function.update after.dids target (data.map fun data => .onChain ⟨nonce, data⟩) } := by
  rw [executeRemovableFromController_of_authorized authorized]
  dsimp only
  rw [if_pos rfl]
  exact executeAndIncreaseNonce_eq_ok

/-- Signed by another DID, the target's entry keeps its nonce and the controller's entry
its details, with the action's nonce. -/
theorem executeRemovableFromController_other {controller : Did}
    (authorized : authorizeController crypto state signature target message = .ok ⟨.did controller⟩)
    (differs : controller ≠ target) :
    executeRemovableFromController crypto len target nonce message f signature state = .ok next ↔
      len ≠ 0 ∧ ∃ details, state.dids controller = some (.onChain details) ∧ nonce = details.nonce + 1 ∧
        nonce ≤ u32Max ∧ ∃ targetDetails, state.dids target = some (.onChain targetDetails) ∧
          ∃ data after, f (some targetDetails.data) state = .ok (data, after) ∧
            next = { after with
              dids := Function.update
                (Function.update after.dids target (data.map fun data => .onChain ⟨targetDetails.nonce, data⟩))
                controller (some (.onChain ⟨nonce, details.data⟩)) } := by
  rw [executeRemovableFromController_of_authorized authorized]
  simp only [differs, ↓reduceIte, executeAndIncreaseNonce_eq_ok, Except.bind_eq_ok, Except.pure_eq_ok,
    executeWithoutIncreasingNonce_eq_ok, Prod.mk.injEq]
  constructor
  · rintro ⟨nonEmpty, details, stored, fresh, fits, _, _, ⟨inner, ⟨-, targetDetails, targetStored, data, after,
      ran, rfl⟩, rfl, rfl⟩, rfl⟩
    exact ⟨nonEmpty, details, stored, fresh, fits, targetDetails, targetStored, data, after, ran, rfl⟩
  · rintro ⟨nonEmpty, details, stored, fresh, fits, targetDetails, targetStored, data, after, ran, rfl⟩
    exact ⟨nonEmpty, details, stored, fresh, fits, _, _, ⟨_, ⟨nonEmpty, targetDetails, targetStored, data, after,
      ran, rfl⟩, rfl, rfl⟩, rfl⟩

/-- Signed by a DID method key, the key's nonce moves and the target's entry keeps its
nonce. -/
theorem executeRemovableFromController_key {key : DidMethodKey}
    (authorized : authorizeController crypto state signature target message = .ok ⟨.didMethodKey key⟩) :
    executeRemovableFromController crypto len target nonce message f signature state = .ok next ↔
      len ≠ 0 ∧ ∃ stored, state.didMethodKeys key = some stored ∧ nonce = stored.nonce + 1 ∧
        nonce ≤ u32Max ∧ ∃ targetDetails, state.dids target = some (.onChain targetDetails) ∧
          ∃ data after, f (some targetDetails.data) state = .ok (data, after) ∧
            next = { after with
              dids := Function.update after.dids target (data.map fun data => .onChain ⟨targetDetails.nonce, data⟩)
              didMethodKeys := Function.update after.didMethodKeys key (some ⟨nonce, ()⟩) } := by
  rw [executeRemovableFromController_of_authorized authorized]
  simp only [executeAndIncreaseNonceOfKey_eq_ok, executeWithoutIncreasingNonce_eq_ok, WithNonce.tryUpdate_eq_ok]
  constructor
  · rintro ⟨nonEmpty, stored, found, _, ⟨fresh, fits, rfl⟩, _, ⟨-, targetDetails, targetStored, data, after, ran,
      rfl⟩, rfl⟩
    exact ⟨nonEmpty, stored, found, fresh, fits, targetDetails, targetStored, data, after, ran, rfl⟩
  · rintro ⟨nonEmpty, stored, found, fresh, fits, targetDetails, targetStored, data, after, ran, rfl⟩
    exact ⟨nonEmpty, stored, found, _, ⟨fresh, fits, rfl⟩, _, ⟨nonEmpty, targetDetails, targetStored, data, after,
      ran, rfl⟩, rfl⟩

variable {ε : Type} {lift : ε → DispatchError} {body : OnChainDidDetails → State → Except ε (OnChainDidDetails × State)}

/-- `execute_from_controller` signed by the target itself. -/
theorem executeFromController_self_eq_ok
    (authorized : authorizeController crypto state signature target message = .ok ⟨.did target⟩) :
    executeFromController crypto len target nonce message lift body signature state = .ok next ↔
      len ≠ 0 ∧ ∃ details, state.dids target = some (.onChain details) ∧ nonce = details.nonce + 1 ∧
        nonce ≤ u32Max ∧ ∃ updated after, body details.data state = .ok (updated, after) ∧
          next = { after with dids := Function.update after.dids target (some (.onChain ⟨nonce, updated⟩)) } := by
  rw [executeFromController, executeRemovableFromController_self authorized]
  simp only [onExisting_some_eq_ok]
  constructor
  · rintro ⟨nonEmpty, details, stored, fresh, fits, _, after, ⟨updated, ran, rfl⟩, rfl⟩
    exact ⟨nonEmpty, details, stored, fresh, fits, updated, after, ran, rfl⟩
  · rintro ⟨nonEmpty, details, stored, fresh, fits, updated, after, ran, rfl⟩
    exact ⟨nonEmpty, details, stored, fresh, fits, _, after, ⟨updated, ran, rfl⟩, rfl⟩

/-- `execute_from_controller` signed by another DID. -/
theorem executeFromController_other_eq_ok {controller : Did}
    (authorized : authorizeController crypto state signature target message = .ok ⟨.did controller⟩)
    (differs : controller ≠ target) :
    executeFromController crypto len target nonce message lift body signature state = .ok next ↔
      len ≠ 0 ∧ ∃ details, state.dids controller = some (.onChain details) ∧ nonce = details.nonce + 1 ∧
        nonce ≤ u32Max ∧ ∃ targetDetails, state.dids target = some (.onChain targetDetails) ∧
          ∃ updated after, body targetDetails.data state = .ok (updated, after) ∧
            next = { after with
              dids := Function.update
                (Function.update after.dids target (some (.onChain ⟨targetDetails.nonce, updated⟩)))
                controller (some (.onChain ⟨nonce, details.data⟩)) } := by
  rw [executeFromController, executeRemovableFromController_other authorized differs]
  simp only [onExisting_some_eq_ok]
  constructor
  · rintro ⟨nonEmpty, details, stored, fresh, fits, targetDetails, targetStored, _, after, ⟨updated, ran, rfl⟩,
      rfl⟩
    exact ⟨nonEmpty, details, stored, fresh, fits, targetDetails, targetStored, updated, after, ran, rfl⟩
  · rintro ⟨nonEmpty, details, stored, fresh, fits, targetDetails, targetStored, updated, after, ran, rfl⟩
    exact ⟨nonEmpty, details, stored, fresh, fits, targetDetails, targetStored, _, after, ⟨updated, ran, rfl⟩,
      rfl⟩

end Signers

/-! ## The calls no signature authorizes -/

section Unsigned

variable {caller : Nat} {did : Did} {docRef : OffChainDidDocRef} {state next : State}

theorem newOffchain_eq_ok :
    newOffchain_ caller did docRef state = .ok next ↔ state.dids did = none ∧
      next = { state with dids := Function.update state.dids did (some (.offChain ⟨caller, docRef⟩)) } := by
  cases stored : state.dids did <;> simp [newOffchain_, stored, @eq_comm State next]

/-- Only the owning account sets the document of an off-chain DID. -/
theorem setOffchainDidDocRef_eq_ok :
    setOffchainDidDocRef_ caller did docRef state = .ok next ↔
      ∃ details, state.offchainDidDetails did = .ok details ∧ details.accountId = caller ∧
        next = { state with dids := Function.update state.dids did (some (.offChain ⟨caller, docRef⟩)) } := by
  cases found : state.offchainDidDetails did with
  | error e => simp [setOffchainDidDocRef_, found]
  | ok details =>
      by_cases owner : details.accountId = caller <;>
        simp [setOffchainDidDocRef_, found, owner, @eq_comm State next]

/-- Only the owning account removes an off-chain DID. -/
theorem removeOffchainDid_eq_ok :
    removeOffchainDid_ caller did state = .ok next ↔
      ∃ details, state.offchainDidDetails did = .ok details ∧ details.accountId = caller ∧
        next = { state with dids := Function.update state.dids did none } := by
  cases found : state.offchainDidDetails did with
  | error e => simp [removeOffchainDid_, found]
  | ok details =>
      by_cases owner : details.accountId = caller <;>
        simp [removeOffchainDid_, found, owner, @eq_comm State next]

theorem newDidMethodKey_eq_ok {didKey : DidMethodKey} :
    newDidMethodKey_ didKey state = .ok next ↔ state.didMethodKeys didKey = none ∧
      next = { state with didMethodKeys := Function.update state.didMethodKeys didKey (some ⟨0, ()⟩) } := by
  cases stored : state.didMethodKeys didKey <;> simp [newDidMethodKey_, stored, @eq_comm State next]

/-- What `new_onchain_` leaves when it succeeds: the DID was absent, its keys passed
their check and took the identifiers from 1, and the controllers chosen, with the DID
itself among them if it has a controller key, control it. -/
theorem newOnchain_eq_ok {keys : List UncheckedDidKey} {controllers : Finset Controller}
    (ran : newOnchain_ did keys controllers state = .ok next) :
    ∃ checked chosen, (state.dids did).isSome = false ∧ checkKeys keys = .ok checked ∧
      next = { state with
        didKeys := (insertKeys did checked 0 state.didKeys).2
        didControllers := withControllers state.didControllers did chosen true
        dids := Function.update state.dids did (some (.onChain ⟨0, ⟨(insertKeys did checked 0 state.didKeys).1,
          controllerKeysCount checked, chosen.card % 2 ^ 32⟩⟩)) } := by
  unfold newOnchain_ at ran
  split_ifs at ran with present <;> simp at ran
  obtain ⟨checked, accepted, rest⟩ := ran
  -- with or without itself among the controllers
  split_ifs at rest <;> simp at rest
  all_goals exact ⟨checked, _, by simpa using present, accepted, rest.symm⟩

end Unsigned

end DockSubstrate.DidModule
