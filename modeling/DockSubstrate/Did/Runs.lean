import DockSubstrate.Did.Execution

/-!
# Runs of the DID pallet

Runs of successful calls, for every signature scheme in which what the holder of an
sr25519 key signs verifies under that key:

* the key identifiers of a DID wrap around: `u32::MAX` calls that each add one key leave
  the DID with last key identifier 0 and a key under identifier 0;
* a removed DID that anyone creates again controls again every DID that named it a
  controller, since removal clears only the DID's own entries;
* a DID whose `u32::MAX + 1` key identifiers all hold keys keeps some of them when it is
  removed, as one `clear_prefix` deletes no more than `u32::MAX`;
* a signed action accepted once is accepted again once its DID is removed and created
  again with the same key, since the nonce of a new DID starts at 0.
-/

namespace DockSubstrate.DidModule

open DockSubstrate.Lib DockSubstrate.Util

/-- `sign key message` is the signature of `message` by the holder of the sr25519 key with
public bytes `key`; such signatures verify. -/
def HonestSigning (crypto : SignatureVerification StateChange) (sign : Nat → StateChange → Nat) : Prop :=
  ∀ key message, crypto.sr25519 (sign key message) message key = true

/-- The signature of `message` by the key `keyId` of `did`, whose public bytes are `key`. -/
def signedBy (sign : Nat → StateChange → Nat) (did : Did) (keyId key : Nat) (message : StateChange) :
    DidOrDidMethodKeySignature :=
  .didSignature ⟨did, keyId, .sr25519 (sign key message)⟩

/-- An sr25519 key with every relationship of a signing key; it controls its DID. -/
def controlKey (key : Nat) : DidKey :=
  ⟨.sr25519 key, .ALL_FOR_SIGNING⟩

/-- An sr25519 key for assertions only. -/
def assertionKey (key : Nat) : DidKey :=
  ⟨.sr25519 key, .ASSERTION⟩

/-- An sr25519 key for authentication only: it signs for its DID, and controls nothing. -/
def authenticationKey (key : Nat) : DidKey :=
  ⟨.sr25519 key, .AUTHENTICATION⟩

/-- A key `add_keys` accepts as it is, and which cannot control. -/
def PlainKey (key : DidKey) : Prop :=
  key.toUnchecked.check = .ok key ∧ key.canControl = false

theorem assertionKey_plain (key : Nat) : PlainKey (assertionKey key) :=
  ⟨rfl, rfl⟩

theorem authenticationKey_plain (key : Nat) : PlainKey (authenticationKey key) :=
  ⟨rfl, rfl⟩

/-- `add_keys` of one key to `target`, signed by the key `keyId` of `signer`. -/
def addKeyBy (sign : Nat → StateChange → Nat) (signer : Did) (keyId key : Nat) (target : Did) (added : DidKey)
    (nonce : Nat) : Call :=
  .addKeys ⟨target, [added.toUnchecked], nonce⟩
    (signedBy sign signer keyId key (.addKeys ⟨target, [added.toUnchecked], nonce⟩))

/-- `remove_onchain_did` of `target`, signed by the key `keyId` of `signer`. -/
def removalOf (sign : Nat → StateChange → Nat) (signer : Did) (keyId key : Nat) (target : Did) (nonce : Nat) : Call :=
  .removeOnchainDid ⟨target, nonce⟩ (signedBy sign signer keyId key (.didRemoval ⟨target, nonce⟩))

/-- `remove_onchain_did` of `did`, signed by its own key `keyId`. -/
def removalBy (sign : Nat → StateChange → Nat) (did : Did) (keyId key nonce : Nat) : Call :=
  removalOf sign did keyId key did nonce

/-- `add_keys_` of one key that cannot control: it takes the next identifier and changes no
controller. -/
theorem addKeys_plain {did : Did} {added : DidKey} {nonce : Nat} {details : OnChainDidDetails} {state : State}
    (plain : PlainKey added) :
    addKeys_ ⟨did, [added.toUnchecked], nonce⟩ details state =
      .ok (⟨wrappingInc details.lastKeyId, wrappingAdd details.activeControllerKeys 0, details.activeControllers⟩,
        { state with didKeys := update₂ state.didKeys did (wrappingInc details.lastKeyId) (some added) }) := by
  have checked : checkKeys [added.toUnchecked] = .ok [added] := by
    simp [checkKeys, plain.1, Except.mapError]
  have counted : controllerKeysCount [added] = 0 := by
    simp [controllerKeysCount, plain.2]
  simp [addKeys_, checked, counted, insertKeys]

/-- `new_onchain_` with one control key: the DID controls itself besides the controllers
named. -/
theorem newOnchain_controlKey {did : Did} {key : Nat} {controllers : Finset Controller} {state : State}
    (absent : state.dids did = none) :
    newOnchain_ did [(controlKey key).toUnchecked] controllers state = .ok { state with
      didKeys := update₂ state.didKeys did 1 (some (controlKey key))
      didControllers := withControllers state.didControllers did (insert ⟨.did did⟩ controllers) true
      dids := Function.update state.dids did
        (some (.onChain ⟨0, ⟨1, 1, (insert ⟨.did did⟩ controllers).card % 2 ^ 32⟩⟩)) } := by
  have checked : checkKeys [(controlKey key).toUnchecked] = .ok [controlKey key] := rfl
  have counted : controllerKeysCount [controlKey key] = 1 := rfl
  have inserted : insertKeys did [controlKey key] 0 state.didKeys =
      (1, update₂ state.didKeys did 1 (some (controlKey key))) := rfl
  simp [newOnchain_, absent, checked, counted, inserted]

/-- `add_controllers_` of controllers none of which controls the DID yet. -/
theorem addControllers_of_fresh {action : AddControllers} {details : OnChainDidDetails} {state : State}
    (fresh : (ascending action.controllers).any (state.isController action.did) = false) :
    addControllers_ action details state = .ok
      ({ details with
          activeControllers := (ascending action.controllers).foldl (fun count _ => wrappingInc count)
            details.activeControllers },
        { state with didControllers := withControllers state.didControllers action.did action.controllers true }) := by
  simp [addControllers_, fresh]

section Signed

variable {crypto : SignatureVerification StateChange} {sign : Nat → StateChange → Nat}

/-- A signature with a control key of a DID authorizes what the DID controls. -/
theorem authorizeController_signedBy (honest : HonestSigning crypto sign) {state : State} {did target : Did}
    {keyId key : Nat} {message : StateChange} (found : state.didKeys did keyId = some (controlKey key))
    (controls : state.isController target ⟨.did did⟩ = true) :
    authorizeController crypto state (signedBy sign did keyId key message) target message = .ok ⟨.did did⟩ := by
  have verified : (SigValue.sr25519 (sign key message)).verify crypto message (controlKey key).publicKey = .ok true := by
    simp [SigValue.verify, controlKey, honest key message]
  exact authorizeController_didSignature_eq_ok.mpr ⟨rfl, _, found, rfl, controls, verified⟩

variable {backend : Backend} {state : State} {did : Did} {keyId key nonce : Nat} {added : DidKey}
  {details : OnChainDidDetails}

/-- A DID that controls itself adds a key that cannot control to itself. -/
theorem dispatch_addKeyBy_self (honest : HonestSigning crypto sign) (plain : PlainKey added)
    (stored : state.dids did = some (.onChain ⟨nonce, details⟩))
    (found : state.didKeys did keyId = some (controlKey key)) (self : state.isSelfControlled did = true)
    (fits : nonce + 1 ≤ u32Max) :
    dispatch crypto backend (addKeyBy sign did keyId key did added (nonce + 1)) state = .ok { state with
      didKeys := update₂ state.didKeys did (wrappingInc details.lastKeyId) (some added)
      dids := Function.update state.dids did (some (.onChain ⟨nonce + 1,
        ⟨wrappingInc details.lastKeyId, wrappingAdd details.activeControllerKeys 0, details.activeControllers⟩⟩)) } := by
  exact (executeFromController_self_eq_ok (authorizeController_signedBy honest found self)).mpr
    ⟨by simp, _, stored, rfl, fits, _, _, addKeys_plain plain, rfl⟩

/-- A controller of another DID adds a key that cannot control to it. -/
theorem dispatch_addKeyBy_other (honest : HonestSigning crypto sign) (plain : PlainKey added) {target : Did}
    {targetNonce : Nat} {targetDetails : OnChainDidDetails} (differs : did ≠ target)
    (stored : state.dids did = some (.onChain ⟨nonce, details⟩))
    (found : state.didKeys did keyId = some (controlKey key)) (controls : state.isController target ⟨.did did⟩ = true)
    (targetStored : state.dids target = some (.onChain ⟨targetNonce, targetDetails⟩)) (fits : nonce + 1 ≤ u32Max) :
    dispatch crypto backend (addKeyBy sign did keyId key target added (nonce + 1)) state = .ok { state with
      didKeys := update₂ state.didKeys target (wrappingInc targetDetails.lastKeyId) (some added)
      dids := Function.update
        (Function.update state.dids target (some (.onChain ⟨targetNonce, ⟨wrappingInc targetDetails.lastKeyId,
          wrappingAdd targetDetails.activeControllerKeys 0, targetDetails.activeControllers⟩⟩)))
        did (some (.onChain ⟨nonce + 1, details⟩)) } := by
  exact (executeFromController_other_eq_ok (authorizeController_signedBy honest found controls) differs).mpr
    ⟨by simp, _, stored, rfl, fits, _, targetStored, _, _, addKeys_plain plain, rfl⟩

/-- A DID that controls itself adds controllers to itself. -/
theorem dispatch_addControllers_self (honest : HonestSigning crypto sign) {controllers : Finset Controller}
    (stored : state.dids did = some (.onChain ⟨nonce, details⟩))
    (found : state.didKeys did keyId = some (controlKey key)) (self : state.isSelfControlled did = true)
    (fits : nonce + 1 ≤ u32Max) (nonEmpty : controllers.card ≠ 0)
    (fresh : (ascending controllers).any (state.isController did) = false) :
    dispatch crypto backend (.addControllers ⟨did, controllers, nonce + 1⟩
        (signedBy sign did keyId key (.addControllers ⟨did, controllers, nonce + 1⟩))) state = .ok { state with
      didControllers := withControllers state.didControllers did controllers true
      dids := Function.update state.dids did (some (.onChain ⟨nonce + 1, { details with
        activeControllers := (ascending controllers).foldl (fun count _ => wrappingInc count)
          details.activeControllers }⟩)) } := by
  exact (executeFromController_self_eq_ok (authorizeController_signedBy honest found self)).mpr
    ⟨nonEmpty, _, stored, rfl, fits, _, _, addControllers_of_fresh fresh, rfl⟩

/-- A DID that controls itself removes itself: its entry goes, its keys, controllers, service
endpoints and public keys are cleared by `clear_prefix`, and nothing else changes. -/
theorem dispatch_removalBy_self (honest : HonestSigning crypto sign)
    (stored : state.dids did = some (.onChain ⟨nonce, details⟩))
    (found : state.didKeys did keyId = some (controlKey key)) (self : state.isSelfControlled did = true)
    (fits : nonce + 1 ≤ u32Max) :
    dispatch crypto backend (removalBy sign did keyId key (nonce + 1)) state = .ok { state with
      dids := Function.update state.dids did none
      didKeys := Function.update state.didKeys did (backend.didKeys.left u32Max (state.didKeys did))
      didControllers := Function.update state.didControllers did
        (backend.didControllers.left u32Max (state.didControllers did))
      didServiceEndpoints := Function.update state.didServiceEndpoints did
        (backend.didServiceEndpoints.left u32Max (state.didServiceEndpoints did))
      publicKeys := Function.update state.publicKeys did (backend.publicKeys.left u32Max (state.publicKeys did)) } := by
  exact (executeRemovableFromController_self (authorizeController_signedBy honest found self)).mpr
    ⟨by simp, _, stored, rfl, fits, none, _, rfl, rfl⟩

/-- Anyone creates a DID that does not exist with one control key. -/
theorem dispatch_newOnchain_controlKey {controllers : Finset Controller} (absent : state.dids did = none) :
    dispatch crypto backend (.newOnchain did [(controlKey key).toUnchecked] controllers) state = .ok { state with
      didKeys := update₂ state.didKeys did 1 (some (controlKey key))
      didControllers := withControllers state.didControllers did (insert ⟨.did did⟩ controllers) true
      dids := Function.update state.dids did
        (some (.onChain ⟨0, ⟨1, 1, (insert ⟨.did did⟩ controllers).card % 2 ^ 32⟩⟩)) } := by
  change (newOnchain_ did _ controllers state).mapError _ = _
  rw [newOnchain_controlKey absent]
  rfl

/-- A controller of another DID removes it: the entry goes, and what is left of its keys is
what `clear_prefix` leaves. -/
theorem dispatch_removalOf_other (honest : HonestSigning crypto sign) {target : Did}
    {targetDetails : WithNonce OnChainDidDetails} (differs : did ≠ target)
    (stored : state.dids did = some (.onChain ⟨nonce, details⟩))
    (found : state.didKeys did keyId = some (controlKey key)) (controls : state.isController target ⟨.did did⟩ = true)
    (targetStored : state.dids target = some (.onChain targetDetails)) (fits : nonce + 1 ≤ u32Max) :
    ∃ next, dispatch crypto backend (removalOf sign did keyId key target (nonce + 1)) state = .ok next ∧
      next.dids target = none ∧ next.didKeys target = backend.didKeys.left u32Max (state.didKeys target) := by
  refine ⟨_, (executeRemovableFromController_other (authorizeController_signedBy honest found controls) differs).mpr
    ⟨by simp, _, stored, rfl, fits, _, targetStored, none, _, rfl, rfl⟩, ?_, Function.update_self ..⟩
  show Function.update (Function.update state.dids target none) did _ target = none
  rw [Function.update_of_ne differs.symm, Function.update_self]

/-- Removal clears the DID's own entries only: the entries of other DIDs, and that the
removed DID controls them, are kept. -/
theorem dispatch_removalBy_self_frame {target : Did} (honest : HonestSigning crypto sign) (differs : did ≠ target)
    (stored : state.dids did = some (.onChain ⟨nonce, details⟩))
    (found : state.didKeys did keyId = some (controlKey key)) (self : state.isSelfControlled did = true)
    (fits : nonce + 1 ≤ u32Max) :
    ∃ next, dispatch crypto backend (removalBy sign did keyId key (nonce + 1)) state = .ok next ∧ next.dids did = none ∧
      next.dids target = state.dids target ∧
      next.isController target ⟨.did did⟩ = state.isController target ⟨.did did⟩ := by
  refine ⟨_, dispatch_removalBy_self honest stored found self fits, Function.update_self .., Function.update_of_ne differs.symm .., ?_⟩
  show Function.update state.didControllers did _ target ⟨.did did⟩ = _
  rw [Function.update_of_ne differs.symm]
  rfl

end Signed

/-! ## A DID's key identifiers wrap around -/

/-- The first `count` calls of the run that adds the key `added` to `did` again and again,
each signed by its key 1 with the next nonce. -/
def keyAdditionsOf (sign : Nat → StateChange → Nat) (did : Did) (key : Nat) (added : DidKey) (count : Nat) :
    List Call :=
  (List.range count).map fun index => addKeyBy sign did 1 key did added (index + 1)

/-- The run that adds the assertion key `added`. -/
def keyAdditions (sign : Nat → StateChange → Nat) (did : Did) (key added count : Nat) : List Call :=
  keyAdditionsOf sign did key (assertionKey added) count

theorem keyAdditionsOf_succ {sign : Nat → StateChange → Nat} {did : Did} {key : Nat} {added : DidKey}
    {count : Nat} :
    keyAdditionsOf sign did key added (count + 1) =
      keyAdditionsOf sign did key added count ++ [addKeyBy sign did 1 key did added (count + 1)] := by
  simp [keyAdditionsOf, List.range_succ]

/-- What `count` of those calls leave of a DID made with the control key `key` under
identifier 1: the nonce is `count`, the last key identifier moved `count` times from 1,
key 1 is still the control key, and every identifier handed out holds the key added. -/
structure KeysAdded (state : State) (did : Did) (key : Nat) (added : DidKey) (count : Nat) : Prop where
  stored : ∃ details : OnChainDidDetails, state.dids did = some (.onChain ⟨count, details⟩) ∧
    details.lastKeyId = (1 + count) % 2 ^ 32
  signing : state.didKeys did 1 = some (controlKey key)
  self : state.isSelfControlled did = true
  handedOut : ∀ index, 0 < index → index ≤ count → state.didKeys did ((1 + index) % 2 ^ 32) = some added

theorem keysAdded_start {state : State} {did : Did} {key : Nat} {added : DidKey} {details : OnChainDidDetails}
    (stored : state.dids did = some (.onChain ⟨0, details⟩)) (fresh : details.lastKeyId = 1)
    (found : state.didKeys did 1 = some (controlKey key)) (self : state.isSelfControlled did = true) :
    KeysAdded state did key added 0 where
  stored := ⟨details, stored, fresh⟩
  signing := found
  self := self
  handedOut _ positive within := absurd (Nat.lt_of_lt_of_le positive within) (Nat.lt_irrefl 0)

section Signed

variable {crypto : SignatureVerification StateChange} {backend : Backend} {sign : Nat → StateChange → Nat}
  {state : State} {did : Did} {key : Nat} {added : DidKey} {count : Nat}

/-- One more call of the run: the next identifier is taken modulo `2 ^ 32`, and it is never 1
before the nonce runs out.  The call writes the DID's entry and one of its keys. -/
theorem KeysAdded.step (honest : HonestSigning crypto sign) (plain : PlainKey added)
    (keysAdded : KeysAdded state did key added count) (below : count < u32Max) :
    ∃ keyId details, dispatch crypto backend (addKeyBy sign did 1 key did added (count + 1)) state = .ok
        { state with
          didKeys := update₂ state.didKeys did keyId (some added)
          dids := Function.update state.dids did (some (.onChain details)) } ∧
      KeysAdded { state with
          didKeys := update₂ state.didKeys did keyId (some added)
          dids := Function.update state.dids did (some (.onChain details)) } did key added (count + 1) := by
  obtain ⟨details, stored, lastKeyId⟩ := keysAdded.stored
  have moved : wrappingInc details.lastKeyId = (1 + (count + 1)) % 2 ^ 32 := by
    rw [lastKeyId, wrappingInc]
    omega
  have apart : 1 ≠ (1 + (count + 1)) % 2 ^ 32 := by
    unfold u32Max at below
    omega
  refine ⟨_, _, dispatch_addKeyBy_self honest plain stored keysAdded.signing keysAdded.self below, ?_⟩
  constructor
  · exact ⟨_, Function.update_self .., moved⟩
  · show update₂ state.didKeys did (wrappingInc details.lastKeyId) (some added) did 1 = _
    rw [update₂_apply, moved, if_neg fun same => apart same.2]
    exact keysAdded.signing
  · exact keysAdded.self
  -- an identifier handed out holds the key just added, or held it already
  · intro index positive within
    show update₂ state.didKeys did (wrappingInc details.lastKeyId) (some added) did _ = _
    rw [update₂_apply]
    split_ifs with written
    · rfl
    · rcases Nat.lt_or_eq_of_le within with earlier | latest
      · exact keysAdded.handedOut index positive (Nat.le_of_lt_succ earlier)
      · exact absurd ⟨rfl, by rw [latest, moved]⟩ written

/-- The run of key additions goes through until the nonce reaches `u32::MAX`, and keeps
whatever each of its calls keeps. -/
theorem keyAdditionsOf_run (honest : HonestSigning crypto sign) (plain : PlainKey added)
    (start : KeysAdded state did key added 0) (Kept : State → Prop) (keptStart : Kept state)
    (keptStep : ∀ current keyId details, Kept current → Kept { current with
      didKeys := update₂ current.didKeys did keyId (some added)
      dids := Function.update current.dids did (some (.onChain details)) }) :
    ∀ count ≤ u32Max, ∃ next, runCalls crypto backend (keyAdditionsOf sign did key added count) state = .ok next ∧
      KeysAdded next did key added count ∧ Kept next := by
  intro count
  induction count with
  | zero => exact fun _ => ⟨state, rfl, start, keptStart⟩
  | succ count ih =>
      intro within
      obtain ⟨current, ran, keysAdded, kept⟩ := ih (by omega)
      obtain ⟨keyId, details, stepped, keysAddedNext⟩ := keysAdded.step honest plain (by omega)
      refine ⟨_, ?_, keysAddedNext, keptStep current keyId details kept⟩
      rw [keyAdditionsOf_succ, runCalls_append, ran, Except.ok_bind, runCalls_singleton, stepped]

theorem keyIds_wrap_around (honest : HonestSigning crypto sign) {config : List (Did × DidKey)} {added : Nat}
    {details : OnChainDidDetails} (reachable : Reachable crypto backend config state)
    (stored : state.dids did = some (.onChain ⟨0, details⟩)) (fresh : details.lastKeyId = 1)
    (found : state.didKeys did 1 = some (controlKey key)) (self : state.isSelfControlled did = true) :
    ∃ final counts, runCalls crypto backend (keyAdditions sign did key added u32Max) state = .ok final ∧
      Reachable crypto backend config final ∧ final.dids did = some (.onChain ⟨u32Max, counts⟩) ∧
      counts.lastKeyId = 0 ∧ final.didKeys did 0 = some (assertionKey added) := by
  obtain ⟨final, ran, keysAdded, -⟩ := keyAdditionsOf_run honest (assertionKey_plain added)
    (keysAdded_start stored fresh found self : KeysAdded state did key (assertionKey added) 0)
    (fun _ => True) trivial (fun _ _ _ _ => trivial) u32Max le_rfl
  obtain ⟨counts, finalStored, lastKeyId⟩ := keysAdded.stored
  have wrapped : (1 + u32Max) % 2 ^ 32 = 0 := by decide
  refine ⟨final, counts, ran, reachable.runCalls ran, finalStored, lastKeyId.trans wrapped, ?_⟩
  rw [← wrapped]
  exact keysAdded.handedOut u32Max (by decide) le_rfl

/-- After `u32::MAX` additions every identifier of a `u32` holds a key: identifier 1 the
control key, and each other one the key added. -/
theorem KeysAdded.row_of_lt (keysAdded : KeysAdded state did key added u32Max) {keyId : Nat}
    (below : keyId < 2 ^ 32) :
    state.didKeys did keyId = some (controlKey key) ∨ state.didKeys did keyId = some added := by
  by_cases first : keyId = 1
  · exact .inl (first ▸ keysAdded.signing)
  · -- identifier 0 is the last one handed out, each other one the next after its predecessor
    have handedOut : (1 + (keyId + u32Max) % 2 ^ 32) % 2 ^ 32 = keyId := by
      unfold u32Max
      omega
    refine .inr ?_
    rw [← handedOut]
    exact keysAdded.handedOut _ (by unfold u32Max; omega) (by unfold u32Max; omega)

/-- So the DID holds more keys than one `clear_prefix` deletes. -/
theorem KeysAdded.u32Max_lt_encard (keysAdded : KeysAdded state did key added u32Max) :
    (u32Max : ℕ∞) < (held none (state.didKeys did)).encard := by
  have every : (Finset.range (2 ^ 32) : Set Nat) ⊆ held none (state.didKeys did) := by
    intro keyId listed
    rcases keysAdded.row_of_lt (Finset.mem_range.mp listed) with found | found <;>
      exact fun absent => Option.some_ne_none _ (found.symm.trans absent)
  calc (u32Max : ℕ∞) < ((Finset.range (2 ^ 32)).card : ℕ∞) := by
        rw [Finset.card_range]
        exact_mod_cast (show u32Max < 2 ^ 32 by decide)
    _ = (Finset.range (2 ^ 32) : Set Nat).encard := (Set.encard_coe_eq_coe_finsetCard _).symm
    _ ≤ (held none (state.didKeys did)).encard := Set.encard_mono every

end Signed

/-- The verification that accepts every signature; every signing function is honest for it. -/
def acceptAll : SignatureVerification StateChange :=
  ⟨fun _ _ _ => true, fun _ _ _ => true, fun _ _ _ => true⟩

theorem honestSigning_acceptAll {sign : Nat → StateChange → Nat} : HonestSigning acceptAll sign :=
  fun _ _ => rfl

theorem keyIds_wrap_around_genesis :
    ∃ final counts, runCalls acceptAll .byEncoding (keyAdditions (fun _ _ => 0) ⟨0⟩ 0 1 u32Max)
          (genesis [(⟨0⟩, controlKey 0)]) = .ok final ∧
        Reachable acceptAll .byEncoding [(⟨0⟩, controlKey 0)] final ∧
      final.dids ⟨0⟩ = some (.onChain ⟨u32Max, counts⟩) ∧ counts.lastKeyId = 0 ∧
      final.didKeys ⟨0⟩ 0 = some (assertionKey 1) :=
  keyIds_wrap_around honestSigning_acceptAll Relation.ReflTransGen.refl rfl rfl rfl rfl

section Signed

variable {crypto : SignatureVerification StateChange} {backend : Backend} {sign : Nat → StateChange → Nat}
  {state : State} {did : Did} {key : Nat} {added : DidKey} {details : OnChainDidDetails}

/-! ## A signed action is accepted again once its DID is created again -/

/-- A DID created again with one control key is where the run of key additions starts
again. -/
theorem keysAdded_newOnchain {controllers : Finset Controller} (absent : state.dids did = none) :
    ∃ next, dispatch crypto backend (.newOnchain did [(controlKey key).toUnchecked] controllers) state = .ok next ∧
      KeysAdded next did key added 0 := by
  refine ⟨_, dispatch_newOnchain_controlKey absent, keysAdded_start (Function.update_self ..) rfl (by simp) ?_⟩
  simp [State.isSelfControlled, State.isController, withControllers]

/-- After key additions a DID still removes itself with its key 1, and `clear_prefix` leaves
what it leaves of its keys. -/
theorem KeysAdded.removal {count : Nat} (honest : HonestSigning crypto sign)
    (keysAdded : KeysAdded state did key added count) (below : count < u32Max) :
    ∃ next, dispatch crypto backend (removalBy sign did 1 key (count + 1)) state = .ok next ∧
      next.dids did = none ∧ next.didKeys did = backend.didKeys.left u32Max (state.didKeys did) := by
  obtain ⟨details, stored, -⟩ := keysAdded.stored
  exact ⟨_, dispatch_removalBy_self honest stored keysAdded.signing keysAdded.self below, Function.update_self ..,
    Function.update_self ..⟩

theorem signedAction_accepted_again (honest : HonestSigning crypto sign) {added : Nat}
    (stored : state.dids did = some (.onChain ⟨0, details⟩)) (fresh : details.lastKeyId = 1)
    (found : state.didKeys did 1 = some (controlKey key)) (self : state.isSelfControlled did = true) :
    ∃ first removed created second,
      dispatch crypto backend (addKeyBy sign did 1 key did (assertionKey added) 1) state = .ok first ∧
      dispatch crypto backend (removalBy sign did 1 key 2) first = .ok removed ∧
      dispatch crypto backend (.newOnchain did [(controlKey key).toUnchecked] ∅) removed = .ok created ∧
      dispatch crypto backend (addKeyBy sign did 1 key did (assertionKey added) 1) created = .ok second := by
  have below : 0 < u32Max := by decide
  have start : KeysAdded state did key (assertionKey added) 0 := keysAdded_start stored fresh found self
  obtain ⟨firstKeyId, firstDetails, accepted, keysAdded⟩ := start.step honest (assertionKey_plain added) below
  obtain ⟨removed, removal, absent, -⟩ := keysAdded.removal honest (by decide)
  -- whoever creates the DID again needs only its public key, and its nonce is 0 again
  have recreation : ∃ created, dispatch crypto backend (.newOnchain did [(controlKey key).toUnchecked] ∅) removed =
      .ok created ∧ KeysAdded created did key (assertionKey added) 0 := keysAdded_newOnchain absent
  obtain ⟨created, creation, recreated⟩ := recreation
  obtain ⟨secondKeyId, secondDetails, replayed, -⟩ := recreated.step honest (assertionKey_plain added) below
  exact ⟨_, removed, created, _, accepted, removal, creation, replayed⟩

theorem signedAction_accepted_again_genesis :
    ∃ first removed created second,
      dispatch acceptAll .byEncoding (addKeyBy (fun _ _ => 0) ⟨0⟩ 1 0 ⟨0⟩ (assertionKey 1) 1)
          (genesis [(⟨0⟩, controlKey 0)]) = .ok first ∧
      dispatch acceptAll .byEncoding (removalBy (fun _ _ => 0) ⟨0⟩ 1 0 2) first = .ok removed ∧
      dispatch acceptAll .byEncoding (.newOnchain ⟨0⟩ [(controlKey 0).toUnchecked] ∅) removed = .ok created ∧
      dispatch acceptAll .byEncoding (addKeyBy (fun _ _ => 0) ⟨0⟩ 1 0 ⟨0⟩ (assertionKey 1) 1) created = .ok second :=
  signedAction_accepted_again honestSigning_acceptAll rfl rfl rfl rfl

/-! ## A removed DID created again controls again -/

theorem removedController_regains_control (honest : HonestSigning crypto sign) {target : Did}
    {keyId nonce attacker targetNonce : Nat} {targetDetails : OnChainDidDetails} (differs : did ≠ target)
    (stored : state.dids did = some (.onChain ⟨nonce, details⟩))
    (found : state.didKeys did keyId = some (controlKey key)) (self : state.isSelfControlled did = true)
    (controls : state.isController target ⟨.did did⟩ = true)
    (targetStored : state.dids target = some (.onChain ⟨targetNonce, targetDetails⟩)) (fits : nonce + 1 ≤ u32Max) :
    ∃ removed created final,
      dispatch crypto backend (removalBy sign did keyId key (nonce + 1)) state = .ok removed ∧
      dispatch crypto backend (.newOnchain did [(controlKey attacker).toUnchecked] ∅) removed = .ok created ∧
      dispatch crypto backend (addKeyBy sign did 1 attacker target (assertionKey attacker) 1) created = .ok final ∧
      final.didKeys target (wrappingInc targetDetails.lastKeyId) = some (assertionKey attacker) := by
  obtain ⟨removed, removal, absent, targetKept, controlKept⟩ :=
    dispatch_removalBy_self_frame honest differs stored found self fits
  have creation : dispatch crypto backend (.newOnchain did [(controlKey attacker).toUnchecked] ∅) removed = _ :=
    dispatch_newOnchain_controlKey absent
  refine ⟨removed, _, _, removal, creation,
    dispatch_addKeyBy_other honest (assertionKey_plain attacker) differs (Function.update_self ..) (by simp) ?controls
      ((Function.update_of_ne differs.symm _ _).trans (targetKept.trans targetStored)) (by decide), by simp⟩
  -- the entry naming the removed DID a controller of `target` was never cleared
  have kept : removed.isController target ⟨.did did⟩ = true := controlKept.trans controls
  simpa [State.isController, withControllers, differs.symm] using kept

/-- From the genesis of two DIDs, the second names the first a controller; the first is
then removed, created again by anyone with a new key, and adds a key to the second. -/
theorem removedController_regains_control_genesis :
    ∃ state, Reachable acceptAll .byEncoding [(⟨0⟩, controlKey 0), (⟨1⟩, controlKey 1)] state ∧
      ∃ removed created final,
        dispatch acceptAll .byEncoding (removalBy (fun _ _ => 0) ⟨0⟩ 1 0 1) state = .ok removed ∧
        dispatch acceptAll .byEncoding (.newOnchain ⟨0⟩ [(controlKey 2).toUnchecked] ∅) removed = .ok created ∧
        dispatch acceptAll .byEncoding (addKeyBy (fun _ _ => 0) ⟨0⟩ 1 2 ⟨1⟩ (assertionKey 2) 1) created = .ok final ∧
        final.didKeys ⟨1⟩ 2 = some (assertionKey 2) := by
  obtain ⟨state, named, stored, found, self, controls, targetStored⟩ : ∃ state,
      dispatch acceptAll .byEncoding (.addControllers ⟨⟨1⟩, {⟨.did ⟨0⟩⟩}, 1⟩
          (signedBy (fun _ _ => 0) ⟨1⟩ 1 1 (.addControllers ⟨⟨1⟩, {⟨.did ⟨0⟩⟩}, 1⟩)))
        (genesis [(⟨0⟩, controlKey 0), (⟨1⟩, controlKey 1)]) = .ok state ∧
      state.dids ⟨0⟩ = some (.onChain ⟨0, ⟨1, 1, 1⟩⟩) ∧ state.didKeys ⟨0⟩ 1 = some (controlKey 0) ∧
      state.isSelfControlled ⟨0⟩ = true ∧ state.isController ⟨1⟩ ⟨.did ⟨0⟩⟩ = true ∧
      state.dids ⟨1⟩ = some (.onChain ⟨1, ⟨1, 1, 2⟩⟩) :=
    ⟨_, dispatch_addControllers_self honestSigning_acceptAll rfl rfl rfl (by decide) (by decide) (by decide),
      rfl, rfl, rfl, by decide, rfl⟩
  exact ⟨state, .single ⟨_, named⟩,
    removedController_regains_control honestSigning_acceptAll (by decide) stored found self controls targetStored
      (by decide)⟩

/-! ## A DID's keys outlive its removal -/

/-- The run from the genesis of DID 1 in which anyone creates DID 0 with a control key and
DID 1 as another controller, DID 0 adds an authentication key until every identifier of a
`u32` holds a key, and DID 1 removes DID 0. -/
def keysOutliveRemoval : List Call :=
  [.newOnchain ⟨0⟩ [(controlKey 0).toUnchecked] {⟨.did ⟨1⟩⟩}] ++
    keyAdditionsOf (fun _ _ => 0) ⟨0⟩ 0 (authenticationKey 0) u32Max ++ [removalOf (fun _ _ => 0) ⟨1⟩ 1 1 ⟨0⟩ 1]

/-- What the additions of DID 0 keep along that run: DID 1 and its key, that DID 1 controls
DID 0, and that each key of DID 0 is its control key or the key added. -/
def OutlivingKeys (state : State) : Prop :=
  state.dids ⟨1⟩ = some (.onChain ⟨0, ⟨1, 1, 1⟩⟩) ∧ state.didKeys ⟨1⟩ 1 = some (controlKey 1) ∧
    state.isController ⟨0⟩ ⟨.did ⟨1⟩⟩ = true ∧
    ∀ keyId key, state.didKeys ⟨0⟩ keyId = some key → key = controlKey 0 ∨ key = authenticationKey 0

theorem outlivingKeys_step {state : State} {keyId : Nat} {details : WithNonce OnChainDidDetails}
    (kept : OutlivingKeys state) :
    OutlivingKeys { state with
      didKeys := update₂ state.didKeys ⟨0⟩ keyId (some (authenticationKey 0))
      dids := Function.update state.dids ⟨0⟩ (some (.onChain details)) } := by
  obtain ⟨stored, found, controls, keys⟩ := kept
  have apart : (⟨1⟩ : Did) ≠ ⟨0⟩ := by simp
  refine ⟨by simpa [apart] using stored, by simpa [apart] using found, controls, ?_⟩
  -- a key of DID 0 is the one just added, or was there before
  intro id key written
  by_cases same : id = keyId
  · simp only [update₂_apply, same, and_self, if_true, Option.some.injEq] at written
    exact .inr written.symm
  · simp only [update₂_apply, same, and_false, if_false] at written
    exact keys id key written

/-- Whatever order `clear_prefix` deletes in, DID 1's removal of DID 0 leaves one of DID 0's
keys, one that signs for DID 0. -/
theorem keys_outlive_removal (backend : Backend) :
    ∃ removed keyId key, runCalls acceptAll backend keysOutliveRemoval (genesis [(⟨1⟩, controlKey 1)]) = .ok removed ∧
      removed.dids ⟨0⟩ = none ∧ removed.didKeys ⟨0⟩ keyId = some key ∧
      (key = controlKey 0 ∨ key = authenticationKey 0) := by
  -- anyone creates DID 0, which starts the run of additions
  obtain ⟨created, creation, start⟩ : ∃ created,
      dispatch acceptAll backend (.newOnchain ⟨0⟩ [(controlKey 0).toUnchecked] {⟨.did ⟨1⟩⟩})
          (genesis [(⟨1⟩, controlKey 1)]) = .ok created ∧ KeysAdded created ⟨0⟩ 0 (authenticationKey 0) 0 :=
    keysAdded_newOnchain rfl
  have kept : OutlivingKeys created := by
    rw [dispatch_newOnchain_controlKey rfl, Except.ok.injEq] at creation
    subst creation
    refine ⟨rfl, rfl, by simp [State.isController, withControllers], ?_⟩
    intro keyId key found
    by_cases first : keyId = 1
    · simp [first, controlKey] at found
      exact .inl found.symm
    · simp [first, genesis, State.empty] at found
  have run : ∃ added, runCalls acceptAll backend (keyAdditionsOf (fun _ _ => 0) ⟨0⟩ 0 (authenticationKey 0) u32Max)
      created = .ok added ∧ KeysAdded added ⟨0⟩ 0 (authenticationKey 0) u32Max ∧ OutlivingKeys added :=
    keyAdditionsOf_run honestSigning_acceptAll (authenticationKey_plain 0) start OutlivingKeys kept
      (fun _ _ _ => outlivingKeys_step) u32Max le_rfl
  obtain ⟨added, additions, keysAdded, stored, found, controls, keys⟩ := run
  -- DID 1 removes DID 0, whose keys are more than one clear deletes
  obtain ⟨details, targetStored, -⟩ := keysAdded.stored
  have removal : ∃ removed, dispatch acceptAll backend (removalOf (fun _ _ => 0) ⟨1⟩ 1 1 ⟨0⟩ 1) added = .ok removed ∧
      removed.dids ⟨0⟩ = none ∧ removed.didKeys ⟨0⟩ = backend.didKeys.left u32Max (added.didKeys ⟨0⟩) :=
    dispatch_removalOf_other honestSigning_acceptAll (by simp) stored found controls targetStored (by decide)
  obtain ⟨removed, removing, gone, left⟩ := removal
  obtain ⟨keyId, key, outlives, original⟩ := backend.didKeys.exists_left_eq_some keysAdded.u32Max_lt_encard
  refine ⟨removed, keyId, key, ?_, gone, (congrFun left keyId).trans outlives, keys keyId key original⟩
  rw [keysOutliveRemoval, runCalls_append, runCalls_append, runCalls_singleton, creation, Except.ok_bind, additions,
    Except.ok_bind, runCalls_singleton, removing]

end Signed

end DockSubstrate.DidModule
