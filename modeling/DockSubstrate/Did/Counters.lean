import Mathlib
import DockSubstrate.Did.Invariants
import DockSubstrate.Lib.Allocation
import DockSubstrate.Did.Runs

/-!
# The counters of on-chain DIDs

On-chain details carry three `u32` counters (`base/onchain.rs`): `last_key_id`, the last
identifier handed to a key or to an off-chain public key of the DID,
`active_controller_keys`, the number of its keys that can control, and
`active_controllers`, the number of its controllers.  `remove_keys_` reads the second
to decide that a DID left without a controller key stops controlling itself.

`Counted` says the first two agree with the storage: every key and public key is under an
identifier up to the last one, and the controller keys are counted.  Key identifiers come
from `+= 1` on a `u32`; once they wrap (`keyIds_wrap_around`) a new key replaces an old one
and the count is lost.  So along every run whose calls keep key identifiers within `u32`
(`KeyIdsFit`), from a genesis whose keys can control, as the genesis build asserts, the
counters agree with the storage (`ReachableFitting.consistent`).  The two invariants are
carried together: a DID's keys and public keys, under identifiers up to `u32::MAX`, are few
enough for the `clear_prefix` of its removal to delete them all, so no DID that is not
on-chain has any (`EntriesOnChain`), and a DID created again starts with none.

`active_controllers` has no such invariant: nothing bounds the controllers of a DID, and
those the `clear_prefix` of a removal leaves stay with the DID when it is created again.
-/

namespace DockSubstrate.DidModule

open DockSubstrate.Lib DockSubstrate.Util

namespace State

/-- The identifiers of the DID's keys that can control. -/
def controllerKeyIds (state : State) (did : Did) : Set Nat :=
  idsWith (state.didKeys did) DidKey.canControl

end State

/-- The key counters of on-chain details agree with the DID's storage. -/
structure Counted (state : State) (did : Did) (details : OnChainDidDetails) : Prop where
  keysBelow : IdsBelow (state.didKeys did) details.lastKeyId
  publicKeysBelow : IdsBelow (state.publicKeys did) details.lastKeyId
  lastKeyId_le : details.lastKeyId ≤ u32Max
  controllerKeys : details.activeControllerKeys = (state.controllerKeyIds did).ncard

/-- Every on-chain DID's counters agree with its storage. -/
def CountersConsistent (state : State) : Prop :=
  ∀ did (details : WithNonce OnChainDidDetails), state.dids did = some (.onChain details) →
    Counted state did details.data

/-- The counters read only the DID's own keys and public keys. -/
theorem Counted.of_rows {state next : State} {did : Did} {details : OnChainDidDetails}
    (counted : Counted state did details) (keys : next.didKeys did = state.didKeys did)
    (publicKeys : next.publicKeys did = state.publicKeys did) : Counted next did details := by
  have keyIds : next.controllerKeyIds did = state.controllerKeyIds did := by
    simp only [State.controllerKeyIds, keys]
  exact ⟨keys ▸ counted.keysBelow, publicKeys ▸ counted.publicKeysBelow, counted.lastKeyId_le,
    keyIds ▸ counted.controllerKeys⟩

theorem Counted.of_sameEntries {state next : State} {did : Did} {details : OnChainDidDetails}
    (counted : Counted state did details) (same : state.SameEntries next did) : Counted next did details :=
  counted.of_rows same.1 same.2.2

/-- A counted DID's keys and public keys, under identifiers up to `u32::MAX`, fit one
`clear_prefix`. -/
theorem Counted.rowsFit {state : State} {did : Did} {details : OnChainDidDetails} (counted : Counted state did details) :
    state.RowsFit did :=
  ⟨counted.keysBelow.encard_held_le.trans (by exact_mod_cast counted.lastKeyId_le),
    counted.publicKeysBelow.encard_held_le.trans (by exact_mod_cast counted.lastKeyId_le)⟩

/-! ## Keys -/

/-- The keys `check` accepts are as many as those submitted. -/
theorem checkKeys_length {keys : List UncheckedDidKey} {checked : List DidKey}
    (accepted : checkKeys keys = .ok checked) : checked.length = keys.length := by
  induction keys generalizing checked with
  | nil =>
      simp only [checkKeys, List.mapM_nil, Except.mapError_eq_ok] at accepted
      cases accepted
      rfl
  | cons key rest ih =>
      simp only [checkKeys, List.mapM_cons, Except.mapError_eq_ok, Except.bind_eq_ok, Except.pure_eq_ok] at accepted
      obtain ⟨first, -, others, restChecked, rfl⟩ := accepted
      rw [List.length_cons, List.length_cons, ih (Except.mapError_eq_ok.mpr restChecked)]

/-- `insertKeys` from a last identifier that leaves room for all the keys: they take the
next identifiers, which held nothing, so the DID's other keys stay and the controller
keys among them add to the count. -/
theorem insertKeys_counted {did : Did} {keys : List DidKey} {lastKeyId : Nat} {didKeys : Did → Nat → Option DidKey}
    (below : IdsBelow (didKeys did) lastKeyId) (fits : lastKeyId + keys.length ≤ u32Max) :
    (insertKeys did keys lastKeyId didKeys).1 = lastKeyId + keys.length ∧
      IdsBelow ((insertKeys did keys lastKeyId didKeys).2 did) (lastKeyId + keys.length) ∧
      (idsWith ((insertKeys did keys lastKeyId didKeys).2 did) DidKey.canControl).ncard =
        (idsWith (didKeys did) DidKey.canControl).ncard + (keys.filter DidKey.canControl).length ∧
      ∀ keyId key, didKeys did keyId = some key → (insertKeys did keys lastKeyId didKeys).2 did keyId = some key := by
  induction keys generalizing lastKeyId didKeys with
  | nil => exact ⟨rfl, below, rfl, fun _ _ found => found⟩
  | cons key rest ih =>
      rw [List.length_cons] at fits
      have next : wrappingInc lastKeyId = lastKeyId + 1 := wrappingInc_of_lt (by omega)
      -- the key goes to the identifier after the last, the rest after it
      have row : update₂ didKeys did (lastKeyId + 1) (some key) did =
          Function.update (didKeys did) (lastKeyId + 1) (some key) := by
        simp [update₂]
      obtain ⟨last, restBelow, restCount, restKeeps⟩ :=
        @ih (lastKeyId + 1) (update₂ didKeys did (lastKeyId + 1) (some key)) (row ▸ below.store_next key)
          (by omega)
      rw [insertKeys, next]
      have moved : lastKeyId + 1 + rest.length = lastKeyId + (key :: rest).length := by
        rw [List.length_cons]
        omega
      rw [moved] at last restBelow
      refine ⟨last, restBelow, ?_, ?_⟩
      · rw [restCount, row, below.ncard_store_next, List.filter_cons]
        cases key.canControl <;> simp only [if_true, if_false, Bool.false_eq_true, List.length_cons] <;> omega
      · intro keyId stored found
        exact restKeeps keyId stored (row ▸ below.store_next_keeps key found)

/-- The controller keys among the keys of a list are the stored ones with that property. -/
def controllerKeysAmong (state : State) (did : Did) (keyIds : List Nat) : List Nat :=
  keyIds.filter fun keyId => (state.didKeys did keyId).any DidKey.canControl

/-- The loop of `remove_keys_` from a count at least that of the controller keys it
removes: every key exists, and the count goes down by their number without wrapping. -/
theorem countRemovedKeys_eq_ok {state : State} {did : Did} {keyIds : List Nat} {count result : Nat}
    (ran : countRemovedKeys state did keyIds count = .ok result)
    (enough : (controllerKeysAmong state did keyIds).length ≤ count) (fits : count ≤ u32Max) :
    (∀ keyId ∈ keyIds, (state.didKeys did keyId).isSome) ∧
      result = count - (controllerKeysAmong state did keyIds).length := by
  induction keyIds generalizing count with
  | nil =>
      simp only [countRemovedKeys, List.foldlM_nil, Except.pure_eq_ok] at ran
      exact ⟨by simp, by simp [controllerKeysAmong, ran]⟩
  | cons keyId rest ih =>
      simp only [countRemovedKeys, List.foldlM_cons, Except.bind_eq_ok] at ran
      obtain ⟨counted, step, restRan⟩ := ran
      cases found : state.didKeys did keyId with
      | none => simp [found, throw, throwThe, MonadExceptOf.throw] at step
      | some key =>
          simp only [found, Except.pure_eq_ok] at step
          subst step
          have amongCons : controllerKeysAmong state did (keyId :: rest) =
              if key.canControl then keyId :: controllerKeysAmong state did rest
              else controllerKeysAmong state did rest := by
            simp [controllerKeysAmong, List.filter_cons, found]
          -- a controller key takes one off the count, which is at least one
          cases controls : key.canControl
          · simp only [controls, Bool.false_eq_true, if_false] at restRan amongCons
            rw [amongCons] at enough ⊢
            obtain ⟨exist, eq⟩ := ih restRan enough fits
            exact ⟨List.forall_mem_cons.mpr ⟨by simp [found], exist⟩, eq⟩
          · simp only [controls, if_true] at restRan amongCons
            rw [amongCons, List.length_cons] at enough ⊢
            rw [wrappingSub_of_le fits (by omega)] at restRan
            obtain ⟨exist, eq⟩ := ih restRan (by omega) (by omega)
            exact ⟨List.forall_mem_cons.mpr ⟨by simp [found], exist⟩, by omega⟩

/-! ## The bodies of the signed calls -/

/-- What a body run on the details of `target` keeps, for details that meet `fits`: the
counters of the details it leaves agree with the storage it leaves. -/
def BodyCounts (target : Did) (fits : OnChainDidDetails → Prop) (f : OnDetails) : Prop :=
  ∀ details state data after, f (some details) state = .ok (data, after) → fits details →
    Counted state target details → ∀ updated, data = some updated → Counted after target updated

theorem bodyCounts_onExisting {ε : Type} {lift : ε → DispatchError}
    {body : OnChainDidDetails → State → Except ε (OnChainDidDetails × State)} {target : Did}
    {fits : OnChainDidDetails → Prop}
    (counts : ∀ {details state updated after}, body details state = .ok (updated, after) → fits details →
      Counted state target details → Counted after target updated) :
    BodyCounts target fits (onExisting lift body) := by
  intro details state data after ran fit counted updated written
  obtain ⟨result, ranBody, rfl⟩ := onExisting_some_eq_ok.mp ran
  cases written
  exact counts ranBody fit counted

/-- A body that keeps the counters of any details. -/
theorem bodyCounts_onExisting_always {ε : Type} {lift : ε → DispatchError}
    {body : OnChainDidDetails → State → Except ε (OnChainDidDetails × State)} {target : Did}
    (counts : ∀ {details state updated after}, body details state = .ok (updated, after) →
      Counted state target details → Counted after target updated) :
    BodyCounts target (fun _ => True) (onExisting lift body) :=
  bodyCounts_onExisting fun ran _ counted => counts ran counted

/-- `remove_onchain_did_` leaves no details to count. -/
theorem removeOnchainDid_counts (backend : Backend) (action : DidRemoval) :
    BodyCounts action.did (fun _ => True) fun details state =>
      (removeOnchainDid_ backend action details state).mapError .did := by
  intro details state data after ran _ _ updated written
  simp only [removeOnchainDid_, Except.mapError_eq_ok, Except.pure_eq_ok, Prod.mk.injEq] at ran
  rw [← ran.1] at written
  cases written

/-! ### The bodies -/

theorem addKeys_counted {action : AddKeys} {details updated : OnChainDidDetails} {state after : State}
    (ran : addKeys_ action details state = .ok (updated, after))
    (fits : details.lastKeyId + action.keys.length ≤ u32Max) (counted : Counted state action.did details) :
    Counted after action.did updated := by
  simp only [addKeys_, Except.bind_eq_ok, Except.pure_eq_ok, Prod.mk.injEq] at ran
  obtain ⟨keys, checked, rfl, rfl⟩ := ran
  rw [← checkKeys_length checked] at fits
  obtain ⟨last, below, count, -⟩ := insertKeys_counted counted.keysBelow fits
  -- the controller keys added are among the keys, so neither their number nor the sum wraps
  have added : controllerKeysCount keys = (keys.filter DidKey.canControl).length := by
    have fewer := List.length_filter_le DidKey.canControl keys
    unfold u32Max at fits
    exact Nat.mod_eq_of_lt (by omega)
  have sumFits : details.activeControllerKeys + (keys.filter DidKey.canControl).length ≤ u32Max := by
    have atMost := below.ncard_le DidKey.canControl
    rw [count, ← State.controllerKeyIds, ← counted.controllerKeys] at atMost
    omega
  refine ⟨by rw [last]; exact below, counted.publicKeysBelow.mono (by dsimp only; rw [last]; omega),
    by rw [last]; exact fits, ?_⟩
  change wrappingAdd _ _ = (idsWith _ _).ncard
  rw [added, wrappingAdd_of_le sumFits, count, counted.controllerKeys]
  rfl

/-- The controller keys among a set of identifiers, in ascending order, are as many as the
DID's controller keys in the set. -/
theorem length_controllerKeysAmong (state : State) (did : Did) (keyIds : Finset Nat) :
    (controllerKeysAmong state did (ascending keyIds)).length = (state.controllerKeyIds did ∩ ↑keyIds).ncard := by
  have asFinset : state.controllerKeyIds did ∩ ↑keyIds =
      ↑(keyIds.filter fun keyId => (state.didKeys did keyId).any DidKey.canControl) := by
    ext keyId
    simp [State.controllerKeyIds, idsWith, and_comm]
  rw [asFinset, Set.ncard_coe_finset, controllerKeysAmong,
    ← List.toFinset_card_of_nodup ((nodup_ascending keyIds).filter _), List.toFinset_filter, toFinset_ascending]

theorem removeKeys_counted {action : RemoveKeys} {details updated : OnChainDidDetails} {state after : State}
    (ran : removeKeys_ action details state = .ok (updated, after)) (counted : Counted state action.did details) :
    Counted after action.did updated := by
  simp only [removeKeys_, Except.bind_eq_ok, Except.pure_eq_ok, Prod.mk.injEq] at ran
  obtain ⟨count, looped, rfl, rfl⟩ := ran
  -- the controller keys removed are among the DID's, so the count goes down without wrapping
  have enough : (controllerKeysAmong state action.did (ascending action.keys)).length ≤ details.activeControllerKeys := by
    rw [length_controllerKeysAmong, counted.controllerKeys]
    exact Set.ncard_le_ncard Set.inter_subset_left (counted.keysBelow.finite _)
  have fitsCount : details.activeControllerKeys ≤ u32Max := by
    rw [counted.controllerKeys]
    exact (counted.keysBelow.ncard_le _).trans counted.lastKeyId_le
  obtain ⟨-, lowered⟩ := countRemovedKeys_eq_ok looped enough fitsCount
  have row : (fun keyId => if action.did = action.did ∧ keyId ∈ action.keys then none
      else state.didKeys action.did keyId) = eraseIds (state.didKeys action.did) action.keys := by
    funext keyId
    simp [eraseIds]
  refine ⟨?_, counted.publicKeysBelow, counted.lastKeyId_le, ?_⟩
  · change IdsBelow (fun keyId => _) _
    rw [row]
    exact counted.keysBelow.eraseIds action.keys
  · change count = (idsWith (fun keyId => _) _).ncard
    rw [row, ncard_idsWith_eraseIds counted.keysBelow, lowered, length_controllerKeysAmong, counted.controllerKeys]
    rfl

theorem addControllers_counted {action : AddControllers} {details updated : OnChainDidDetails} {state after : State}
    (ran : addControllers_ action details state = .ok (updated, after)) (counted : Counted state action.did details) :
    Counted after action.did updated := by
  unfold addControllers_ at ran
  split_ifs at ran <;> simp at ran
  obtain ⟨rfl, rfl⟩ := ran
  -- only the controllers change, and they are not counted
  exact ⟨counted.keysBelow, counted.publicKeysBelow, counted.lastKeyId_le, counted.controllerKeys⟩

theorem removeControllers_counted {action : RemoveControllers} {details updated : OnChainDidDetails}
    {state after : State} (ran : removeControllers_ action details state = .ok (updated, after))
    (counted : Counted state action.did details) : Counted after action.did updated := by
  unfold removeControllers_ at ran
  split_ifs at ran <;> simp at ran
  obtain ⟨rfl, rfl⟩ := ran
  -- only the controllers change, and they are not counted
  exact ⟨counted.keysBelow, counted.publicKeysBelow, counted.lastKeyId_le, counted.controllerKeys⟩

theorem addServiceEndpoint_counted {action : AddServiceEndpoint} {details updated : OnChainDidDetails}
    {state after : State} (ran : addServiceEndpoint_ action details state = .ok (updated, after))
    (counted : Counted state action.did details) : Counted after action.did updated := by
  unfold addServiceEndpoint_ at ran
  split_ifs at ran <;> simp at ran
  obtain ⟨rfl, rfl⟩ := ran
  exact counted.of_sameEntries ⟨rfl, rfl, rfl⟩

theorem removeServiceEndpoint_counted {action : RemoveServiceEndpoint} {details updated : OnChainDidDetails}
    {state after : State} (ran : removeServiceEndpoint_ action details state = .ok (updated, after))
    (counted : Counted state action.did details) : Counted after action.did updated := by
  unfold removeServiceEndpoint_ at ran
  split_ifs at ran <;> simp at ran
  obtain ⟨rfl, rfl⟩ := ran
  exact counted.of_sameEntries ⟨rfl, rfl, rfl⟩

/-- A public key takes the identifier after the last, which the DID's keys share. -/
theorem addPublicKey_counted {action : AddOffchainSignaturePublicKey} {details updated : OnChainDidDetails}
    {state after : State} (ran : addPublicKey_ action details state = .ok (updated, after))
    (fits : details.lastKeyId + 1 ≤ u32Max) (counted : Counted state action.did details) :
    Counted after action.did updated := by
  simp only [addPublicKey_, Except.bind_eq_ok, Except.pure_eq_ok, Prod.mk.injEq] at ran
  obtain ⟨-, -, rfl, rfl⟩ := ran
  have next : wrappingInc details.lastKeyId = details.lastKeyId + 1 := wrappingInc_of_lt (by omega)
  have row : update₂ state.publicKeys action.did (details.lastKeyId + 1) (some action.key) action.did =
      Function.update (state.publicKeys action.did) (details.lastKeyId + 1) (some action.key) := by
    simp [update₂]
  refine ⟨?_, ?_, ?_, counted.controllerKeys⟩
  · change IdsBelow _ (wrappingInc details.lastKeyId)
    rw [next]
    exact counted.keysBelow.mono (Nat.le_succ _)
  · change IdsBelow (update₂ state.publicKeys action.did (wrappingInc details.lastKeyId) (some action.key) action.did)
      (wrappingInc details.lastKeyId)
    rw [next, row]
    exact counted.publicKeysBelow.store_next action.key
  · change wrappingInc details.lastKeyId ≤ u32Max
    rw [next]
    exact fits

theorem removePublicKey_counted {action : RemoveOffchainSignaturePublicKey} {details updated : OnChainDidDetails}
    {state after : State} (ran : removePublicKey_ action details state = .ok (updated, after))
    (counted : Counted state action.did details) : Counted after action.did updated := by
  obtain ⟨⟨keyOwner, keyId⟩, did, nonce⟩ := action
  unfold removePublicKey_ at ran
  by_cases owner : keyOwner = did
  · subst owner
    split_ifs at ran <;> simp at ran
    obtain ⟨rfl, rfl⟩ := ran
    have row : update₂ state.publicKeys keyOwner keyId none keyOwner =
        Function.update (state.publicKeys keyOwner) keyId none := by
      simp [update₂]
    refine ⟨counted.keysBelow, ?_, counted.lastKeyId_le, counted.controllerKeys⟩
    change IdsBelow (update₂ state.publicKeys keyOwner keyId none keyOwner) _
    rw [row]
    exact counted.publicKeysBelow.erase keyId
  · split_ifs at ran <;> simp at ran

/-! ## Calls -/

variable {crypto : SignatureVerification StateChange} {backend : Backend}

/-- Whoever signs, a call signed by a controller ran its body on the target's details and
wrote back what the body left: the storage as the body left it, the target's details as
the body returned them, and elsewhere on-chain details with the data they held before
(the signer's own entry gets a new nonce only). -/
theorem executeRemovableFromController_ran {len : Nat} {target : Did} {nonce : Nat} {message : StateChange}
    {f : OnDetails} {signature : DidOrDidMethodKeySignature} {state next : State}
    (frame : BodyFrame target f)
    (ran : executeRemovableFromController crypto len target nonce message f signature state = .ok next) :
    ∃ (details : WithNonce OnChainDidDetails) (data : Option OnChainDidDetails) (after : State),
      state.dids target = some (.onChain details) ∧ f (some details.data) state = .ok (data, after) ∧
      (∀ did, after.SameEntries next did) ∧
      (∀ current : WithNonce OnChainDidDetails, next.dids target = some (.onChain current) →
        data = some current.data) ∧
      ∀ did ≠ target, ∀ current : WithNonce OnChainDidDetails, next.dids did = some (.onChain current) →
        ∃ old : WithNonce OnChainDidDetails, state.dids did = some (.onChain old) ∧ old.data = current.data := by
  obtain ⟨⟨signer⟩, authorized⟩ := authorized_of_executeRemovableFromController ran
  -- the target's entry is what the body returned, with the new nonce
  have written : ∀ {data : Option OnChainDidDetails} {entries : Did → Option StoredDidDetails}
      {renewed : Nat} (current : WithNonce OnChainDidDetails),
      Function.update entries target (data.map fun data => .onChain ⟨renewed, data⟩) target =
        some (.onChain current) → data = some current.data := by
    intro data entries renewed current found
    rw [Function.update_self] at found
    obtain ⟨updated, rfl, same⟩ := Option.map_eq_some_iff.mp found
    cases same
    rfl
  cases signer with
  | did controller =>
      by_cases self : controller = target
      · subst self
        obtain ⟨-, details, stored, -, -, data, after, body, rfl⟩ := (executeRemovableFromController_self authorized).mp ran
        refine ⟨details, data, after, stored, body, fun _ => ⟨rfl, rfl, rfl⟩, written, ?_⟩
        intro did differs current found
        dsimp only at found
        rw [Function.update_of_ne differs, (frame _ _ _ _ body).1.1] at found
        exact ⟨current, found, rfl⟩
      · obtain ⟨-, details, stored, -, -, targetDetails, targetStored, data, after, body, rfl⟩ :=
          (executeRemovableFromController_other authorized self).mp ran
        refine ⟨targetDetails, data, after, targetStored, body, fun _ => ⟨rfl, rfl, rfl⟩, ?_, ?_⟩
        · intro current found
          dsimp only at found
          rw [Function.update_of_ne (Ne.symm self)] at found
          exact written current found
        -- the controller's entry holds its own details with the new nonce
        · intro did differs current found
          dsimp only at found
          by_cases isController : did = controller
          · subst isController
            simp only [Function.update_self, Option.some.injEq, StoredDidDetails.onChain.injEq] at found
            exact ⟨details, stored, by rw [← found]⟩
          · rw [Function.update_of_ne isController, Function.update_of_ne differs, (frame _ _ _ _ body).1.1] at found
            exact ⟨current, found, rfl⟩
  | didMethodKey key =>
      obtain ⟨-, stored, -, -, -, targetDetails, targetStored, data, after, body, rfl⟩ :=
        (executeRemovableFromController_key authorized).mp ran
      refine ⟨targetDetails, data, after, targetStored, body, fun _ => ⟨rfl, rfl, rfl⟩, written, ?_⟩
      intro did differs current found
      dsimp only at found
      rw [Function.update_of_ne differs, (frame _ _ _ _ body).1.1] at found
      exact ⟨current, found, rfl⟩

/-- After a body ran on the details of `target`, writing them back keeps the invariant
when every other on-chain entry of `Dids` holds details it held before. -/
theorem CountersConsistent.written {target : Did} {fits : OnChainDidDetails → Prop} {f : OnDetails}
    {details : WithNonce OnChainDidDetails} {data : Option OnChainDidDetails} {state after next : State}
    (inv : CountersConsistent state) (frame : BodyFrame target f) (counts : BodyCounts target fits f)
    (stored : state.dids target = some (.onChain details)) (fit : fits details.data)
    (ran : f (some details.data) state = .ok (data, after)) (entries : ∀ did, after.SameEntries next did)
    (atTarget : ∀ current : WithNonce OnChainDidDetails, next.dids target = some (.onChain current) →
      data = some current.data)
    (elsewhere : ∀ did ≠ target, ∀ current : WithNonce OnChainDidDetails, next.dids did = some (.onChain current) →
      ∃ old : WithNonce OnChainDidDetails, state.dids did = some (.onChain old) ∧ old.data = current.data) :
    CountersConsistent next := by
  obtain ⟨⟨-, others⟩, -⟩ := frame _ _ _ _ ran
  intro did current found
  by_cases atIt : did = target
  · subst atIt
    exact (counts _ _ _ _ ran fit (inv did details stored) current.data (atTarget current found)).of_sameEntries
      (entries did)
  · obtain ⟨old, oldStored, sameData⟩ := elsewhere did atIt current found
    rw [← sameData]
    exact ((inv did old oldStored).of_sameEntries (others did atIt)).of_sameEntries (entries did)

/-- A call signed by a controller keeps the invariant, whoever signed it, when the
target's details meet what its body needs. -/
theorem executeRemovableFromController_countersConsistent {len : Nat} {target : Did} {nonce : Nat}
    {message : StateChange} {fits : OnChainDidDetails → Prop} {f : OnDetails} {signature : DidOrDidMethodKeySignature}
    {state next : State} (inv : CountersConsistent state) (frame : BodyFrame target f)
    (counts : BodyCounts target fits f)
    (fit : ∀ details : WithNonce OnChainDidDetails, state.dids target = some (.onChain details) → fits details.data)
    (ran : executeRemovableFromController crypto len target nonce message f signature state = .ok next) :
    CountersConsistent next := by
  obtain ⟨details, data, after, stored, body, entries, atTarget, elsewhere⟩ :=
    executeRemovableFromController_ran frame ran
  exact inv.written frame counts stored (fit details stored) body entries atTarget elsewhere

/-- A call that changes of `Dids` only the entry of `did`, and of the storage only that of
`did`, keeps the invariant when the details it leaves there, if on-chain, are counted. -/
theorem CountersConsistent.update {state next : State} {did : Did} (inv : CountersConsistent state)
    (others : ∀ other ≠ did, state.SameEntries next other ∧ next.dids other = state.dids other)
    (atDid : ∀ current : WithNonce OnChainDidDetails, next.dids did = some (.onChain current) →
      Counted next did current.data) :
    CountersConsistent next := by
  intro other current found
  by_cases same : other = did
  · subst same
    exact atDid current found
  · obtain ⟨entries, stored⟩ := others other same
    exact (inv other current (stored ▸ found)).of_sameEntries entries

/-- Another entry of `Dids` that is not on-chain keeps the invariant. -/
theorem CountersConsistent.update_notOnChain {state : State} {did : Did} (inv : CountersConsistent state)
    {entry : Option StoredDidDetails} (notOnChain : ∀ current, entry ≠ some (.onChain current)) :
    CountersConsistent { state with dids := Function.update state.dids did entry } := by
  refine inv.update (fun other differs => ⟨⟨rfl, rfl, rfl⟩, Function.update_of_ne differs ..⟩) ?_
  intro current found
  simp only [Function.update_self] at found
  exact absurd found (notOnChain current)

theorem newOffchain_countersConsistent {caller : Nat} {did : Did} {docRef : OffChainDidDocRef} {state next : State}
    (inv : CountersConsistent state) (ran : newOffchain_ caller did docRef state = .ok next) :
    CountersConsistent next := by
  obtain ⟨-, rfl⟩ := newOffchain_eq_ok.mp ran
  exact inv.update_notOnChain (by simp)

theorem setOffchainDidDocRef_countersConsistent {caller : Nat} {did : Did} {docRef : OffChainDidDocRef}
    {state next : State} (inv : CountersConsistent state)
    (ran : setOffchainDidDocRef_ caller did docRef state = .ok next) : CountersConsistent next := by
  obtain ⟨details, -, -, rfl⟩ := setOffchainDidDocRef_eq_ok.mp ran
  exact inv.update_notOnChain (by simp)

theorem removeOffchainDid_countersConsistent {caller : Nat} {did : Did} {state next : State}
    (inv : CountersConsistent state) (ran : removeOffchainDid_ caller did state = .ok next) :
    CountersConsistent next := by
  obtain ⟨details, -, -, rfl⟩ := removeOffchainDid_eq_ok.mp ran
  exact inv.update_notOnChain (by simp)

theorem newDidMethodKey_countersConsistent {didKey : DidMethodKey} {state next : State}
    (inv : CountersConsistent state) (ran : newDidMethodKey_ didKey state = .ok next) : CountersConsistent next := by
  obtain ⟨-, rfl⟩ := newDidMethodKey_eq_ok.mp ran
  exact fun did details stored => (inv did details stored).of_sameEntries ⟨rfl, rfl, rfl⟩

/-! ### A new on-chain DID -/

/-- A DID without keys has no controller keys. -/
theorem idsWith_none (p : DidKey → Bool) : idsWith (fun _ : Nat => (none : Option DidKey)) p = ∅ := by
  ext keyId
  simp [idsWith]

/-- The storage `new_onchain_` leaves for a DID that had none: its keys from identifier 1,
counted by `controller_keys_count`. -/
theorem newOnchain_counted {did : Did} {checked : List DidKey} {activeControllers : Nat} {state next : State}
    (empty : ¬ state.HasEntries did) (fits : checked.length ≤ u32Max)
    (keys : next.didKeys = (insertKeys did checked 0 state.didKeys).2) (publicKeys : next.publicKeys = state.publicKeys) :
    Counted next did ⟨(insertKeys did checked 0 state.didKeys).1, controllerKeysCount checked, activeControllers⟩ := by
  simp only [State.HasEntries, not_or, not_exists] at empty
  obtain ⟨noKeys, noPublicKeys⟩ := empty
  have keysRow : state.didKeys did = fun _ => none :=
    funext fun keyId => Option.eq_none_iff_forall_ne_some.mpr (noKeys keyId)
  obtain ⟨last, below, count, -⟩ :=
    insertKeys_counted (keysRow ▸ IdsBelow.of_none 0) (show 0 + checked.length ≤ u32Max by omega)
  rw [Nat.zero_add] at last below
  have filtered : (checked.filter DidKey.canControl).length ≤ u32Max :=
    (List.length_filter_le _ _).trans fits
  refine ⟨?_, ?_, ?_, ?_⟩
  · simpa only [keys, last] using below
  · rw [publicKeys, show state.publicKeys did = fun _ => none from
      funext fun keyId => Option.eq_none_iff_forall_ne_some.mpr (noPublicKeys keyId)]
    exact IdsBelow.of_none _
  · rw [last]
    exact fits
  · rw [State.controllerKeyIds, keys, count, keysRow, idsWith_none, Set.ncard_empty, Nat.zero_add,
      controllerKeysCount]
    exact Nat.mod_eq_of_lt (by unfold u32Max at filtered; omega)

/-- An absent DID has no storage. -/
theorem EntriesOnChain.no_entries {state : State} {did : Did} (entries : EntriesOnChain state)
    (absent : (state.dids did).isSome = false) : ¬ state.HasEntries did := fun has => by
  obtain ⟨details, stored⟩ := entries did has
  simp [stored] at absent

/-- `new_onchain_` of a DID whose keys fit the `u32` identifiers keeps the invariant: the
DID was absent, so it had no storage. -/
theorem newOnchain_countersConsistent {did : Did} {keys : List UncheckedDidKey} {controllers : Finset Controller}
    {state next : State} (entries : EntriesOnChain state) (inv : CountersConsistent state)
    (fits : keys.length ≤ u32Max) (ran : newOnchain_ did keys controllers state = .ok next) :
    CountersConsistent next := by
  obtain ⟨checked, chosen, absent, accepted, rfl⟩ := newOnchain_eq_ok ran
  refine inv.update (fun other differs => ⟨⟨insertKeys_of_ne differs .., withControllers_of_ne differs .., rfl⟩,
    Function.update_of_ne differs ..⟩) ?_
  intro current found
  simp only [Function.update_self, Option.some.injEq, StoredDidDetails.onChain.injEq] at found
  subst found
  exact newOnchain_counted (entries.no_entries absent) (checkKeys_length accepted ▸ fits) rfl rfl

/-! ## Runs -/

/-- The last key identifier of an on-chain DID leaves room for `count` more. -/
def State.RoomForKeys (state : State) (did : Did) (count : Nat) : Prop :=
  ∀ details : WithNonce OnChainDidDetails, state.dids did = some (.onChain details) →
    details.data.lastKeyId + count ≤ u32Max

/-- The calls that hand out key identifiers keep them within `u32`: a new DID's keys fit,
and the DID's last identifier leaves room for the keys or the public key added. -/
def KeyIdsFit (state : State) : Call → Prop
  | .newOnchain _ keys _ => keys.length ≤ u32Max
  | .addKeys action _ => state.RoomForKeys action.did action.keys.length
  | .addPublicKey action _ => state.RoomForKeys action.did 1
  | _ => True

/-- Every successful call whose key identifiers fit keeps the invariant. -/
theorem dispatch_countersConsistent {call : Call} {state next : State} (entries : EntriesOnChain state)
    (inv : CountersConsistent state) (fit : KeyIdsFit state call) (done : dispatch crypto backend call state = .ok next) :
    CountersConsistent next := by
  cases call with
  | newOffchain caller did docRef => exact newOffchain_countersConsistent inv (Except.mapError_eq_ok.mp done)
  | setOffchainDidDocRef caller did docRef =>
      exact setOffchainDidDocRef_countersConsistent inv (Except.mapError_eq_ok.mp done)
  | removeOffchainDid caller did => exact removeOffchainDid_countersConsistent inv (Except.mapError_eq_ok.mp done)
  | newOnchain did keys controllers =>
      exact newOnchain_countersConsistent entries inv fit (Except.mapError_eq_ok.mp done)
  | addKeys action sig =>
      refine executeRemovableFromController_countersConsistent inv (bodyFrame_onExisting addKeys_touches)
        (bodyCounts_onExisting addKeys_counted) ?_ done
      exact fit
  | removeKeys action sig =>
      exact executeRemovableFromController_countersConsistent inv (bodyFrame_onExisting removeKeys_touches)
        (bodyCounts_onExisting_always removeKeys_counted) (fun _ _ => trivial) done
  | addControllers action sig =>
      exact executeRemovableFromController_countersConsistent inv (bodyFrame_onExisting addControllers_touches)
        (bodyCounts_onExisting_always addControllers_counted) (fun _ _ => trivial) done
  | removeControllers action sig =>
      exact executeRemovableFromController_countersConsistent inv (bodyFrame_onExisting removeControllers_touches)
        (bodyCounts_onExisting_always removeControllers_counted) (fun _ _ => trivial) done
  | addServiceEndpoint action sig =>
      exact executeRemovableFromController_countersConsistent inv (bodyFrame_onExisting addServiceEndpoint_touches)
        (bodyCounts_onExisting_always addServiceEndpoint_counted) (fun _ _ => trivial) done
  | removeServiceEndpoint action sig =>
      exact executeRemovableFromController_countersConsistent inv
        (bodyFrame_onExisting removeServiceEndpoint_touches)
        (bodyCounts_onExisting_always removeServiceEndpoint_counted) (fun _ _ => trivial) done
  | removeOnchainDid action sig =>
      exact executeRemovableFromController_countersConsistent inv (removeOnchainDid_frame backend action)
        (removeOnchainDid_counts backend action) (fun _ _ => trivial) done
  | newDidMethodKey didKey => exact newDidMethodKey_countersConsistent inv (Except.mapError_eq_ok.mp done)
  | addPublicKey action sig =>
      refine executeRemovableFromController_countersConsistent inv (bodyFrame_onExisting addPublicKey_touches)
        (bodyCounts_onExisting addPublicKey_counted) ?_ done
      exact fit
  | removePublicKey action sig =>
      exact executeRemovableFromController_countersConsistent inv (bodyFrame_onExisting removePublicKey_touches)
        (bodyCounts_onExisting_always removePublicKey_counted) (fun _ _ => trivial) done

/-! ## Genesis -/

/-- What the genesis build leaves for each DID: no public key, and either nothing, or
on-chain details with the counters `1, 1, 1` and one key that can control under
identifier 1. -/
def GenesisShape (state : State) : Prop :=
  ∀ did, state.publicKeys did = (fun _ => none) ∧
    ((state.dids did = none ∧ state.didKeys did = (fun _ => none)) ∨
      ∃ key : DidKey, key.canControl = true ∧ state.dids did = some (.onChain ⟨0, ⟨1, 1, 1⟩⟩) ∧
        state.didKeys did = Function.update (fun _ => none) 1 (some key))

theorem genesisShape_empty : GenesisShape State.empty :=
  fun _ => ⟨rfl, .inl ⟨rfl, rfl⟩⟩

/-- A DID of the genesis build is counted. -/
theorem counted_of_genesisShape {state : State} {did : Did} {key : DidKey} (controls : key.canControl = true)
    (noPublicKeys : state.publicKeys did = fun _ => none)
    (keys : state.didKeys did = Function.update (fun _ => none) 1 (some key)) :
    Counted state did ⟨1, 1, 1⟩ := by
  have below : IdsBelow (state.didKeys did) 1 := keys ▸ (IdsBelow.of_none 0).store_next key
  refine ⟨below, noPublicKeys ▸ IdsBelow.of_none 1, by decide, ?_⟩
  rw [State.controllerKeyIds, keys, (IdsBelow.of_none 0).ncard_store_next, idsWith_none, controls,
    Set.ncard_empty, if_pos rfl]

/-- The step of the genesis build for one DID and its key keeps the shape: the DID's key
replaces any key it had under identifier 1. -/
theorem GenesisShape.insert {state next : State} {did : Did} {key : DidKey} (shape : GenesisShape state)
    (controls : key.canControl = true)
    (dids : next.dids = Function.update state.dids did (some (.onChain ⟨0, ⟨1, 1, 1⟩⟩)))
    (keys : next.didKeys = update₂ state.didKeys did 1 (some key))
    (publicKeys : next.publicKeys = state.publicKeys) : GenesisShape next := by
  intro other
  by_cases same : other = did
  · subst same
    obtain ⟨noPublicKeys, absent | ⟨old, -, -, oldKeys⟩⟩ := shape other
    · refine ⟨publicKeys ▸ noPublicKeys, .inr ⟨key, controls, by simp [dids], ?_⟩⟩
      rw [keys, ← absent.2]
      simp [update₂]
    · refine ⟨publicKeys ▸ noPublicKeys, .inr ⟨key, controls, by simp [dids], ?_⟩⟩
      simp [keys, update₂, oldKeys]
  · obtain ⟨noPublicKeys, shaped⟩ := shape other
    refine ⟨publicKeys ▸ noPublicKeys, ?_⟩
    rw [dids, Function.update_of_ne same, keys, update₂_of_ne same]
    exact shaped

/-- The counters of the genesis DIDs agree with their storage when every genesis key can
control, as the genesis build asserts. -/
theorem countersConsistent_genesis {config : List (Did × DidKey)} (controlKeys : ∀ entry ∈ config, entry.2.canControl = true) :
    CountersConsistent (genesis config) := by
  have shaped : GenesisShape (genesis config) := by
    unfold genesis
    have start := genesisShape_empty
    generalize State.empty = init at start ⊢
    induction config generalizing init with
    | nil => exact start
    | cons entry rest ih =>
        obtain ⟨did, key⟩ := entry
        exact ih (fun entry listed => controlKeys entry (.tail _ listed)) _
          (start.insert (controlKeys _ (.head _)) rfl rfl rfl)
  intro did details stored
  obtain ⟨noPublicKeys, ⟨absent, -⟩ | ⟨key, controls, onChain, keys⟩⟩ := shaped did
  · simp [absent] at stored
  · rw [onChain] at stored
    cases stored
    exact counted_of_genesisShape controls noPublicKeys keys

/-! ## Runs -/

/-- The two invariants, carried together along runs: the removal of a DID clears its keys
only when they are counted, and a DID created again is counted only when it had no keys. -/
structure Consistent (state : State) : Prop where
  entriesOnChain : EntriesOnChain state
  countersConsistent : CountersConsistent state

/-- Under both invariants every DID's rows fit one `clear_prefix`: an on-chain DID's are
counted, and any other DID has none. -/
theorem Consistent.rowsFit {state : State} (consistent : Consistent state) (did : Did) : state.RowsFit did := by
  by_cases has : state.HasEntries did
  · obtain ⟨details, stored⟩ := consistent.entriesOnChain did has
    exact (consistent.countersConsistent did details stored).rowsFit
  · simp only [State.HasEntries, not_or, not_exists] at has
    -- a row with no entry holds nothing
    have nothing : ∀ {V : Type} (row : Nat → Option V), (∀ keyId value, row keyId ≠ some value) →
        (held none row).encard ≤ u32Max := by
      intro V row absent
      have empty : held none row = ∅ := Set.eq_empty_of_forall_notMem fun keyId stored => by
        obtain ⟨value, found⟩ := Option.ne_none_iff_exists'.mp stored
        exact absent keyId value found
      rw [empty, Set.encard_empty]
      exact zero_le
    exact ⟨nothing _ has.1, nothing _ has.2⟩

/-- The step lemma: every successful call whose key identifiers fit keeps both invariants. -/
theorem dispatch_consistent {call : Call} {state next : State} (consistent : Consistent state)
    (fit : KeyIdsFit state call) (done : dispatch crypto backend call state = .ok next) : Consistent next :=
  ⟨dispatch_entriesOnChain consistent.entriesOnChain consistent.rowsFit done,
    dispatch_countersConsistent consistent.entriesOnChain consistent.countersConsistent fit done⟩

theorem consistent_genesis {config : List (Did × DidKey)} (controlKeys : ∀ entry ∈ config, entry.2.canControl = true) :
    Consistent (genesis config) :=
  ⟨entriesOnChain_genesis config, countersConsistent_genesis controlKeys⟩

variable (crypto backend) in
/-- A successful call whose key identifiers fit. -/
def FittingStep (state next : State) : Prop :=
  ∃ call, KeyIdsFit state call ∧ dispatch crypto backend call state = .ok next

variable (crypto backend) in
/-- The states a run of successful calls whose key identifiers fit leads to from the
genesis of a configuration. -/
def ReachableFitting (config : List (Did × DidKey)) (state : State) : Prop :=
  Relation.ReflTransGen (FittingStep crypto backend) (genesis config) state

theorem ReachableFitting.reachable {config : List (Did × DidKey)} {state : State}
    (reachable : ReachableFitting crypto backend config state) : Reachable crypto backend config state :=
  Relation.ReflTransGen.mono (fun _ _ ⟨call, _, done⟩ => ⟨call, done⟩) _ _ reachable

/-- The run lemma: along a run whose key identifiers fit, from a genesis whose keys can
control, keys belong to on-chain DIDs and the counters agree with the storage. -/
theorem ReachableFitting.consistent {config : List (Did × DidKey)} {state : State}
    (reachable : ReachableFitting crypto backend config state)
    (controlKeys : ∀ entry ∈ config, entry.2.canControl = true) : Consistent state := by
  induction reachable with
  | refl => exact consistent_genesis controlKeys
  | tail before step consistent =>
      obtain ⟨call, fit, done⟩ := step
      exact dispatch_consistent consistent fit done

theorem reachableFitting_counters {config : List (Did × DidKey)} {state : State} {did : Did}
    {details : WithNonce OnChainDidDetails} (controlKeys : ∀ entry ∈ config, entry.2.canControl = true)
    (reachable : ReachableFitting crypto backend config state) (stored : state.dids did = some (.onChain details)) :
    details.data.lastKeyId ≤ u32Max ∧
      (∀ keyId key, state.didKeys did keyId = some key → 1 ≤ keyId ∧ keyId ≤ details.data.lastKeyId) ∧
      (∀ keyId key, state.publicKeys did keyId = some key → 1 ≤ keyId ∧ keyId ≤ details.data.lastKeyId) ∧
      details.data.activeControllerKeys = {keyId | (state.didKeys did keyId).any DidKey.canControl}.ncard := by
  have counted := (reachable.consistent controlKeys).countersConsistent did details stored
  exact ⟨counted.lastKeyId_le, counted.keysBelow, counted.publicKeysBelow, counted.controllerKeys⟩

theorem reachableFitting_counters_addKey :
    ∃ next, dispatch acceptAll .byEncoding (addKeyBy (fun _ _ => 0) ⟨0⟩ 1 0 ⟨0⟩ (assertionKey 1) 1)
        (genesis [(⟨0⟩, controlKey 0)]) = .ok next ∧
      next.dids ⟨0⟩ = some (.onChain ⟨1, ⟨2, 1, 1⟩⟩) ∧
      2 ≤ u32Max ∧
      (∀ keyId key, next.didKeys ⟨0⟩ keyId = some key → 1 ≤ keyId ∧ keyId ≤ 2) ∧
      (∀ keyId key, next.publicKeys ⟨0⟩ keyId = some key → 1 ≤ keyId ∧ keyId ≤ 2) ∧
      1 = {keyId | (next.didKeys ⟨0⟩ keyId).any DidKey.canControl}.ncard := by
  obtain ⟨next, done, stored⟩ : ∃ next, dispatch acceptAll .byEncoding
      (addKeyBy (fun _ _ => 0) ⟨0⟩ 1 0 ⟨0⟩ (assertionKey 1) 1) (genesis [(⟨0⟩, controlKey 0)]) = .ok next ∧
      next.dids ⟨0⟩ = some (.onChain ⟨1, ⟨2, 1, 1⟩⟩) := ⟨_, rfl, rfl⟩
  -- the DID's last identifier, 1, leaves room for the key added
  have fit : KeyIdsFit (genesis [(⟨0⟩, controlKey 0)]) (addKeyBy (fun _ _ => 0) ⟨0⟩ 1 0 ⟨0⟩ (assertionKey 1) 1) := by
    intro details stored
    cases stored
    decide
  exact ⟨next, done, stored,
    reachableFitting_counters (by decide) (Relation.ReflTransGen.single ⟨_, fit, done⟩) stored⟩

/-! ## Self-control -/

/-- A DID with a controller key among finitely many identifiers has one exactly when its
count is not zero. -/
theorem controllerKeyIds_nonempty_iff {state : State} {did : Did} {details : OnChainDidDetails}
    (counted : Counted state did details) :
    (state.controllerKeyIds did).Nonempty ↔ details.activeControllerKeys ≠ 0 := by
  have finite : (state.controllerKeyIds did).Finite := counted.keysBelow.finite _
  rw [counted.controllerKeys, Ne, Set.ncard_eq_zero finite, ← Ne, Set.nonempty_iff_ne_empty]

/-- `remove_keys_` on counted details leaves the DID controlling itself exactly when it did
and a controller key remains: the count it reads is the number of controller keys left. -/
theorem removeKeys_selfControlled {action : RemoveKeys} {details updated : OnChainDidDetails} {state after : State}
    (ran : removeKeys_ action details state = .ok (updated, after)) (counted : Counted state action.did details) :
    after.isSelfControlled action.did = true ↔
      state.isSelfControlled action.did = true ∧ (after.controllerKeyIds action.did).Nonempty := by
  rw [controllerKeyIds_nonempty_iff (removeKeys_counted ran counted)]
  simp only [removeKeys_, Except.bind_eq_ok, Except.pure_eq_ok, Prod.mk.injEq] at ran
  obtain ⟨count, -, rfl, rfl⟩ := ran
  dsimp only
  -- the DID loses control of itself exactly when the count reaches zero
  split
  · rename_i removeSelf
    simp only [Bool.and_eq_true, beq_iff_eq] at removeSelf
    simp [removeSelf.1, State.isSelfControlled, State.isController, update₂]
  · rename_i keepSelf
    simp only [Bool.and_eq_true, beq_iff_eq, not_and] at keepSelf
    exact ⟨fun self => ⟨self, fun zero => keepSelf zero self⟩, fun both => both.1⟩

/-- Along a run whose key identifiers fit, `remove_keys` leaves a DID controlling itself
exactly when it did and one of its keys that can control remains. -/
theorem removeKeys_selfControl {config : List (Did × DidKey)} {state next : State} {action : RemoveKeys}
    {sig : DidOrDidMethodKeySignature} (controlKeys : ∀ entry ∈ config, entry.2.canControl = true)
    (reachable : ReachableFitting crypto backend config state)
    (done : dispatch crypto backend (.removeKeys action sig) state = .ok next) :
    next.isSelfControlled action.did = true ↔
      state.isSelfControlled action.did = true ∧ (next.controllerKeyIds action.did).Nonempty := by
  obtain ⟨details, data, after, stored, body, entries, -, -⟩ :=
    executeRemovableFromController_ran (bodyFrame_onExisting removeKeys_touches) done
  obtain ⟨updated, ranBody, -⟩ := onExisting_some_eq_ok.mp body
  obtain ⟨keys, controllers, -⟩ := entries action.did
  -- the signer's new nonce aside, `next` holds the storage the body left
  have self : next.isSelfControlled action.did = after.isSelfControlled action.did := by
    simp only [State.isSelfControlled, State.isController, controllers]
  have keyIds : next.controllerKeyIds action.did = after.controllerKeyIds action.did := by
    simp only [State.controllerKeyIds, keys]
  rw [self, keyIds]
  exact removeKeys_selfControlled ranBody ((reachable.consistent controlKeys).countersConsistent _ _ stored)

theorem removeKeys_selfControl_genesis :
    ∃ next, dispatch acceptAll .byEncoding (.removeKeys ⟨⟨0⟩, {1}, 1⟩ (.didSignature ⟨⟨0⟩, 1, .sr25519 0⟩))
        (genesis [(⟨0⟩, controlKey 0)]) = .ok next ∧
      (next.isSelfControlled ⟨0⟩ = true ↔
        (genesis [(⟨0⟩, controlKey 0)]).isSelfControlled ⟨0⟩ = true ∧ (next.controllerKeyIds ⟨0⟩).Nonempty) := by
  obtain ⟨next, done⟩ : ∃ next, dispatch acceptAll .byEncoding
      (.removeKeys ⟨⟨0⟩, {1}, 1⟩ (.didSignature ⟨⟨0⟩, 1, .sr25519 0⟩))
      (genesis [(⟨0⟩, controlKey 0)]) = .ok next := ⟨_, rfl⟩
  exact ⟨next, done, removeKeys_selfControl (by decide) .refl done⟩

/-! ## Keys are removed only by the calls that remove them -/

/-- Every entry of a family of rows stored in `state` is still stored in `next`. -/
def Kept {V : Type} (rows : State → Did → Nat → Option V) (state next : State) : Prop :=
  ∀ did id value, rows state did id = some value → rows next did id = some value

/-- The calls that remove keys of a DID: `remove_keys` and `remove_onchain_did`. -/
def Call.removesKeys : Call → Bool
  | .removeKeys .. => true
  | .removeOnchainDid .. => true
  | _ => false

/-- The calls that remove off-chain public keys: `remove_public_key` and `remove_onchain_did`. -/
def Call.removesPublicKeys : Call → Bool
  | .removePublicKey .. => true
  | .removeOnchainDid .. => true
  | _ => false

section Rows

variable {V : Type} {rows : State → Did → Nat → Option V}

/-- What a body keeps of the target's rows, from counted details that meet `fits`. -/
def BodyKeeps (rows : State → Did → Nat → Option V) (target : Did) (fits : OnChainDidDetails → Prop)
    (f : OnDetails) : Prop :=
  ∀ details state data after, f (some details) state = .ok (data, after) → fits details →
    Counted state target details → ∀ id value, rows state target id = some value → rows after target id = some value

theorem bodyKeeps_onExisting {ε : Type} {lift : ε → DispatchError}
    {body : OnChainDidDetails → State → Except ε (OnChainDidDetails × State)} {target : Did}
    {fits : OnChainDidDetails → Prop}
    (keeps : ∀ {details state updated after}, body details state = .ok (updated, after) → fits details →
      Counted state target details → ∀ id value, rows state target id = some value → rows after target id = some value) :
    BodyKeeps rows target fits (onExisting lift body) := by
  intro details state data after ran fit counted
  obtain ⟨updated, ranBody, -⟩ := onExisting_some_eq_ok.mp ran
  exact keeps ranBody fit counted

/-- A body that leaves the rows as they were keeps them. -/
theorem bodyKeeps_of_eq {ε : Type} {lift : ε → DispatchError}
    {body : OnChainDidDetails → State → Except ε (OnChainDidDetails × State)} {target : Did}
    (same : ∀ {details state updated after}, body details state = .ok (updated, after) → rows after = rows state) :
    BodyKeeps rows target (fun _ => True) (onExisting lift body) :=
  bodyKeeps_onExisting fun ran _ _ id _ found => (congrFun (congrFun (same ran) target) id).trans found

/-- A call signed by a controller keeps a family of rows that its body keeps of the target
and that follow the DID's storage. -/
theorem executeRemovableFromController_kept {len : Nat} {target : Did} {nonce : Nat} {message : StateChange}
    {fits : OnChainDidDetails → Prop} {f : OnDetails} {signature : DidOrDidMethodKeySignature} {state next : State}
    (sameRows : ∀ {state next : State} {did : Did}, state.SameEntries next did → rows next did = rows state did)
    (inv : CountersConsistent state) (frame : BodyFrame target f) (keeps : BodyKeeps rows target fits f)
    (fit : ∀ details : WithNonce OnChainDidDetails, state.dids target = some (.onChain details) → fits details.data)
    (ran : executeRemovableFromController crypto len target nonce message f signature state = .ok next) :
    Kept rows state next := by
  obtain ⟨details, data, after, stored, body, entries, -, -⟩ := executeRemovableFromController_ran frame ran
  intro did id value found
  rw [sameRows (entries did)]
  by_cases atIt : did = target
  · subst atIt
    exact keeps _ _ _ _ body (fit details stored) (inv did details stored) id value found
  · rw [sameRows ((frame _ _ _ _ body).1.2 did atIt)]
    exact found

end Rows

theorem sameEntries_didKeys {state next : State} {did : Did} (same : state.SameEntries next did) :
    next.didKeys did = state.didKeys did :=
  same.1

theorem sameEntries_publicKeys {state next : State} {did : Did} (same : state.SameEntries next did) :
    next.publicKeys did = state.publicKeys did :=
  same.2.2

/-- `add_keys_` stores its keys under identifiers that held nothing. -/
theorem addKeys_keeps {action : AddKeys} {details updated : OnChainDidDetails} {state after : State}
    (ran : addKeys_ action details state = .ok (updated, after))
    (fits : details.lastKeyId + action.keys.length ≤ u32Max) (counted : Counted state action.did details) :
    ∀ keyId key, state.didKeys action.did keyId = some key → after.didKeys action.did keyId = some key := by
  simp only [addKeys_, Except.bind_eq_ok, Except.pure_eq_ok, Prod.mk.injEq] at ran
  obtain ⟨keys, accepted, -, rfl⟩ := ran
  rw [← checkKeys_length accepted] at fits
  exact (insertKeys_counted counted.keysBelow fits).2.2.2

/-- `add_public_key_` stores the key under an identifier that held nothing. -/
theorem addPublicKey_keeps {action : AddOffchainSignaturePublicKey} {details updated : OnChainDidDetails}
    {state after : State} (ran : addPublicKey_ action details state = .ok (updated, after))
    (fits : details.lastKeyId + 1 ≤ u32Max) (counted : Counted state action.did details) :
    ∀ keyId key, state.publicKeys action.did keyId = some key → after.publicKeys action.did keyId = some key := by
  simp only [addPublicKey_, Except.bind_eq_ok, Except.pure_eq_ok, Prod.mk.injEq] at ran
  obtain ⟨-, -, -, rfl⟩ := ran
  intro keyId key found
  rw [wrappingInc_of_lt (by omega)]
  simpa [update₂] using counted.publicKeysBelow.store_next_keeps action.key found

/-! ### What the other bodies leave as it was -/

theorem addKeys_publicKeys {action : AddKeys} {details updated : OnChainDidDetails} {state after : State}
    (ran : addKeys_ action details state = .ok (updated, after)) : after.publicKeys = state.publicKeys := by
  simp only [addKeys_, Except.bind_eq_ok, Except.pure_eq_ok, Prod.mk.injEq] at ran
  obtain ⟨keys, -, -, rfl⟩ := ran
  rfl

theorem removeKeys_publicKeys {action : RemoveKeys} {details updated : OnChainDidDetails} {state after : State}
    (ran : removeKeys_ action details state = .ok (updated, after)) : after.publicKeys = state.publicKeys := by
  simp only [removeKeys_, Except.bind_eq_ok, Except.pure_eq_ok, Prod.mk.injEq] at ran
  obtain ⟨count, -, -, rfl⟩ := ran
  rfl

theorem addPublicKey_didKeys {action : AddOffchainSignaturePublicKey} {details updated : OnChainDidDetails}
    {state after : State} (ran : addPublicKey_ action details state = .ok (updated, after)) :
    after.didKeys = state.didKeys := by
  simp only [addPublicKey_, Except.bind_eq_ok, Except.pure_eq_ok, Prod.mk.injEq] at ran
  obtain ⟨-, -, -, rfl⟩ := ran
  rfl

theorem removePublicKey_didKeys {action : RemoveOffchainSignaturePublicKey} {details updated : OnChainDidDetails}
    {state after : State} (ran : removePublicKey_ action details state = .ok (updated, after)) :
    after.didKeys = state.didKeys := by
  unfold removePublicKey_ at ran
  split_ifs at ran <;> simp at ran
  obtain ⟨-, rfl⟩ := ran
  rfl

theorem addControllers_rows {action : AddControllers} {details updated : OnChainDidDetails} {state after : State}
    (ran : addControllers_ action details state = .ok (updated, after)) :
    after.didKeys = state.didKeys ∧ after.publicKeys = state.publicKeys := by
  unfold addControllers_ at ran
  split_ifs at ran <;> simp at ran
  obtain ⟨-, rfl⟩ := ran
  exact ⟨rfl, rfl⟩

theorem removeControllers_rows {action : RemoveControllers} {details updated : OnChainDidDetails} {state after : State}
    (ran : removeControllers_ action details state = .ok (updated, after)) :
    after.didKeys = state.didKeys ∧ after.publicKeys = state.publicKeys := by
  unfold removeControllers_ at ran
  split_ifs at ran <;> simp at ran
  obtain ⟨-, rfl⟩ := ran
  exact ⟨rfl, rfl⟩

theorem addServiceEndpoint_rows {action : AddServiceEndpoint} {details updated : OnChainDidDetails}
    {state after : State} (ran : addServiceEndpoint_ action details state = .ok (updated, after)) :
    after.didKeys = state.didKeys ∧ after.publicKeys = state.publicKeys := by
  unfold addServiceEndpoint_ at ran
  split_ifs at ran <;> simp at ran
  obtain ⟨-, rfl⟩ := ran
  exact ⟨rfl, rfl⟩

theorem removeServiceEndpoint_rows {action : RemoveServiceEndpoint} {details updated : OnChainDidDetails}
    {state after : State} (ran : removeServiceEndpoint_ action details state = .ok (updated, after)) :
    after.didKeys = state.didKeys ∧ after.publicKeys = state.publicKeys := by
  unfold removeServiceEndpoint_ at ran
  split_ifs at ran <;> simp at ran
  obtain ⟨-, rfl⟩ := ran
  exact ⟨rfl, rfl⟩

/-- A call that changes neither `DidKeys` nor `PublicKeys` keeps both. -/
theorem kept_of_eq {state next : State} (keys : next.didKeys = state.didKeys)
    (publicKeys : next.publicKeys = state.publicKeys) :
    Kept State.didKeys state next ∧ Kept State.publicKeys state next :=
  ⟨fun _ _ _ found => keys ▸ found, fun _ _ _ found => publicKeys ▸ found⟩

/-- A signed call whose body keeps both families of rows keeps both. -/
theorem executeRemovableFromController_keptBoth {len : Nat} {target : Did} {nonce : Nat} {message : StateChange}
    {fits : OnChainDidDetails → Prop} {f : OnDetails} {signature : DidOrDidMethodKeySignature} {state next : State}
    (inv : CountersConsistent state) (frame : BodyFrame target f) (keepsKeys : BodyKeeps State.didKeys target fits f)
    (keepsPublicKeys : BodyKeeps State.publicKeys target fits f)
    (fit : ∀ details : WithNonce OnChainDidDetails, state.dids target = some (.onChain details) → fits details.data)
    (ran : executeRemovableFromController crypto len target nonce message f signature state = .ok next) :
    Kept State.didKeys state next ∧ Kept State.publicKeys state next :=
  ⟨executeRemovableFromController_kept sameEntries_didKeys inv frame keepsKeys fit ran,
    executeRemovableFromController_kept sameEntries_publicKeys inv frame keepsPublicKeys fit ran⟩

/-- Every successful call whose key identifiers fit keeps every key, unless it removes
keys, and every public key, unless it removes public keys. -/
theorem dispatch_kept {call : Call} {state next : State} (entries : EntriesOnChain state)
    (inv : CountersConsistent state) (fit : KeyIdsFit state call) (done : dispatch crypto backend call state = .ok next) :
    (call.removesKeys = false → Kept State.didKeys state next) ∧
      (call.removesPublicKeys = false → Kept State.publicKeys state next) := by
  cases call with
  | newOffchain caller did docRef =>
      obtain ⟨-, rfl⟩ := newOffchain_eq_ok.mp (Except.mapError_eq_ok.mp done)
      exact (kept_of_eq rfl rfl).imp (fun kept _ => kept) (fun kept _ => kept)
  | setOffchainDidDocRef caller did docRef =>
      obtain ⟨details, -, -, rfl⟩ := setOffchainDidDocRef_eq_ok.mp (Except.mapError_eq_ok.mp done)
      exact (kept_of_eq rfl rfl).imp (fun kept _ => kept) (fun kept _ => kept)
  | removeOffchainDid caller did =>
      obtain ⟨details, -, -, rfl⟩ := removeOffchainDid_eq_ok.mp (Except.mapError_eq_ok.mp done)
      exact (kept_of_eq rfl rfl).imp (fun kept _ => kept) (fun kept _ => kept)
  | newOnchain did keys controllers =>
      obtain ⟨checked, chosen, absent, -, rfl⟩ := newOnchain_eq_ok (Except.mapError_eq_ok.mp done)
      -- the new DID had no keys, and the others keep theirs
      refine ⟨fun _ other keyId key found => ?_, fun _ _ _ _ found => found⟩
      by_cases same : other = did
      · subst same
        exact absurd (.inl ⟨keyId, key, found⟩) (entries.no_entries absent)
      · exact (congrFun (insertKeys_of_ne same checked 0 state.didKeys) keyId).trans found
  | addKeys action sig =>
      have keepsKeys : BodyKeeps State.didKeys action.did (fun details => details.lastKeyId + action.keys.length ≤ u32Max)
          (onExisting .did (addKeys_ action)) :=
        bodyKeeps_onExisting addKeys_keeps
      have keepsPublicKeys : BodyKeeps State.publicKeys action.did
          (fun details => details.lastKeyId + action.keys.length ≤ u32Max) (onExisting .did (addKeys_ action)) :=
        bodyKeeps_onExisting fun ran _ _ _ _ found => (addKeys_publicKeys ran).symm ▸ found
      exact (executeRemovableFromController_keptBoth inv (bodyFrame_onExisting addKeys_touches) keepsKeys keepsPublicKeys
        fit done).imp (fun kept _ => kept) (fun kept _ => kept)
  | removeKeys action sig =>
      exact ⟨fun removes => absurd removes.symm Bool.false_ne_true, fun _ =>
        executeRemovableFromController_kept sameEntries_publicKeys inv (bodyFrame_onExisting removeKeys_touches)
          (bodyKeeps_of_eq removeKeys_publicKeys) (fun _ _ => trivial) done⟩
  | addControllers action sig =>
      exact (executeRemovableFromController_keptBoth inv (bodyFrame_onExisting addControllers_touches)
        (bodyKeeps_of_eq fun ran => (addControllers_rows ran).1) (bodyKeeps_of_eq fun ran => (addControllers_rows ran).2)
        (fun _ _ => trivial) done).imp (fun kept _ => kept) (fun kept _ => kept)
  | removeControllers action sig =>
      exact (executeRemovableFromController_keptBoth inv (bodyFrame_onExisting removeControllers_touches)
        (bodyKeeps_of_eq fun ran => (removeControllers_rows ran).1)
        (bodyKeeps_of_eq fun ran => (removeControllers_rows ran).2)
        (fun _ _ => trivial) done).imp (fun kept _ => kept) (fun kept _ => kept)
  | addServiceEndpoint action sig =>
      exact (executeRemovableFromController_keptBoth inv (bodyFrame_onExisting addServiceEndpoint_touches)
        (bodyKeeps_of_eq fun ran => (addServiceEndpoint_rows ran).1)
        (bodyKeeps_of_eq fun ran => (addServiceEndpoint_rows ran).2)
        (fun _ _ => trivial) done).imp (fun kept _ => kept) (fun kept _ => kept)
  | removeServiceEndpoint action sig =>
      exact (executeRemovableFromController_keptBoth inv (bodyFrame_onExisting removeServiceEndpoint_touches)
        (bodyKeeps_of_eq fun ran => (removeServiceEndpoint_rows ran).1)
        (bodyKeeps_of_eq fun ran => (removeServiceEndpoint_rows ran).2)
        (fun _ _ => trivial) done).imp (fun kept _ => kept) (fun kept _ => kept)
  | removeOnchainDid action sig =>
      exact ⟨fun removes => absurd removes.symm Bool.false_ne_true, fun removes => absurd removes.symm Bool.false_ne_true⟩
  | newDidMethodKey didKey =>
      obtain ⟨-, rfl⟩ := newDidMethodKey_eq_ok.mp (Except.mapError_eq_ok.mp done)
      exact (kept_of_eq rfl rfl).imp (fun kept _ => kept) (fun kept _ => kept)
  | addPublicKey action sig =>
      have keepsKeys : BodyKeeps State.didKeys action.did (fun details => details.lastKeyId + 1 ≤ u32Max)
          (onExisting .offchainSignatures (addPublicKey_ action)) :=
        bodyKeeps_onExisting fun ran _ _ _ _ found => (addPublicKey_didKeys ran).symm ▸ found
      have keepsPublicKeys : BodyKeeps State.publicKeys action.did (fun details => details.lastKeyId + 1 ≤ u32Max)
          (onExisting .offchainSignatures (addPublicKey_ action)) :=
        bodyKeeps_onExisting addPublicKey_keeps
      exact (executeRemovableFromController_keptBoth inv (bodyFrame_onExisting addPublicKey_touches) keepsKeys
        keepsPublicKeys fit done).imp (fun kept _ => kept) (fun kept _ => kept)
  | removePublicKey action sig =>
      exact ⟨fun _ =>
        executeRemovableFromController_kept sameEntries_didKeys inv (bodyFrame_onExisting removePublicKey_touches)
          (bodyKeeps_of_eq removePublicKey_didKeys) (fun _ _ => trivial) done,
        fun removes => absurd removes.symm Bool.false_ne_true⟩

/-- Along a run whose key identifiers fit, a call keeps every key of every DID unless it
is `remove_keys` or `remove_onchain_did`, and every off-chain public key unless it is
`remove_public_key` or `remove_onchain_did`: `add_keys` and `add_public_key` never write
over a key. -/
theorem keys_removed_only_by_removals {config : List (Did × DidKey)} {state next : State} {call : Call}
    (controlKeys : ∀ entry ∈ config, entry.2.canControl = true) (reachable : ReachableFitting crypto backend config state)
    (fit : KeyIdsFit state call) (done : dispatch crypto backend call state = .ok next) :
    (call.removesKeys = false →
      ∀ did keyId key, state.didKeys did keyId = some key → next.didKeys did keyId = some key) ∧
    (call.removesPublicKeys = false →
      ∀ did keyId key, state.publicKeys did keyId = some key → next.publicKeys did keyId = some key) :=
  have consistent := reachable.consistent controlKeys
  dispatch_kept consistent.entriesOnChain consistent.countersConsistent fit done

theorem keys_removed_only_by_removals_addKey :
    ∃ next, dispatch acceptAll .byEncoding (addKeyBy (fun _ _ => 0) ⟨0⟩ 1 0 ⟨0⟩ (assertionKey 1) 1)
        (genesis [(⟨0⟩, controlKey 0)]) = .ok next ∧
      (∀ did keyId key, (genesis [(⟨0⟩, controlKey 0)]).didKeys did keyId = some key →
        next.didKeys did keyId = some key) ∧
      (∀ did keyId key, (genesis [(⟨0⟩, controlKey 0)]).publicKeys did keyId = some key →
        next.publicKeys did keyId = some key) := by
  obtain ⟨next, done⟩ : ∃ next, dispatch acceptAll .byEncoding (addKeyBy (fun _ _ => 0) ⟨0⟩ 1 0 ⟨0⟩ (assertionKey 1) 1)
      (genesis [(⟨0⟩, controlKey 0)]) = .ok next := ⟨_, rfl⟩
  have room : KeyIdsFit (genesis [(⟨0⟩, controlKey 0)]) (addKeyBy (fun _ _ => 0) ⟨0⟩ 1 0 ⟨0⟩ (assertionKey 1) 1) := by
    intro details stored
    cases stored
    decide
  obtain ⟨keys, publicKeys⟩ := keys_removed_only_by_removals (by decide) .refl room done
  exact ⟨next, done, keys rfl, publicKeys rfl⟩

end DockSubstrate.DidModule
