import DockSubstrate.TrustRegistry.Pallet
import DockSubstrate.Common.SignedAction
import DockSubstrate.Util.BatchUpdate.Diff

/-!
# The consent of participants

`change_participants` as the chain runs it, with its signatures (`mod.rs`).  The
registry's information must exist.  The update is then a multi-signed `execute` on the
registry's participants, which `change_participants_` changes.  Its required signers are
every participant the update names, and the convener when the update adds one.  The
signers' nonces sit beside the pallet's storage; the verification of a signature is a
parameter.

`changeParticipants_dispatch` relates a successful extrinsic to the `dispatch` of
`Pallet`, so that every invariant of the reachable states holds after it.
-/

namespace DockSubstrate.TrustRegistry

open DockSubstrate.Lib DockSubstrate.Util DockSubstrate.Common KeyValue

variable {limits : Limits}

/-- `participants.chain(maybe_convener)`: the participants the update names, and the
registry's convener when the update adds a participant. -/
def ChangeParticipantsRaw.signerList (action : ChangeParticipantsRaw) (info : TrustRegistryInfo limits) :
    List ConvenerOrIssuerOrVerifier :=
  action.participants.keys.map (fun participant => ⟨participant.did⟩) ++
    if action.participants.updates.entries.any (fun entry => entry.2 matches .add ()) then [⟨info.convener.did⟩]
    else []

/-- `InclusionRule::all` of the signer list. -/
def ChangeParticipantsRaw.requiredSigners (action : ChangeParticipantsRaw) (info : TrustRegistryInfo limits) :
    Option (InclusionRule ConvenerOrIssuerOrVerifier) :=
  InclusionRule.ofAll (action.signerList info)

section Extrinsic

variable {Sig : Type} (authorize : Sig → Nat → Except (Failure CallError) (Option ConvenerOrIssuerOrVerifier))

/-- `change_participants`: a `view` of the registry's information, inside which the update
is executed, signed by `requiredSigners`, on the registry's participants. -/
def changeParticipants (action : ChangeParticipantsRaw) (signatures : List (SignatureWithNonce Sig))
    (state : State limits) (nonces : Nonces DidOrDidMethodKey) :
    Except (IntermediateError (Failure CallError)) (State limits × Nonces DidOrDidMethodKey) := do
  Common.ensureNotEmpty action.participants.updates.size
  let some info := state.trustRegistriesInfo action.registryId | throw (.action .noEntity)
  let ((_, participants), nonces) ← execute authorize ConvenerOrIssuerOrVerifier.did
    action.participants.updates.size (some (state.trustRegistriesParticipants action.registryId))
    (fun participants signers =>
      (liftBody (changeParticipants_ action participants (ascending signers))).map fun participants => ((), participants))
    (fun _ => action.requiredSigners info) signatures nonces
  pure ({ state with
    trustRegistriesParticipants := Function.update state.trustRegistriesParticipants action.registryId participants },
    nonces)

/-! ## What a successful change required -/

theorem ChangeParticipantsRaw.requiredSigners_eq {action : ChangeParticipantsRaw} (info : TrustRegistryInfo limits)
    (nonEmpty : action.participants.updates.size ≠ 0) :
    action.requiredSigners info = some (.all (action.signerList info).toFinset) := by
  apply InclusionRule.ofAll_of_ne_nil
  have named : action.participants.keys ≠ [] := by
    intro noKeys
    apply nonEmpty
    rw [SortedMap.size_eq_length_keys]
    exact List.length_eq_zero_iff.mpr noKeys
  intro empty
  exact named (List.map_eq_nil_iff.mp (List.append_eq_nil_iff.mp empty).1)

theorem ChangeParticipantsRaw.named_mem_signerList {action : ChangeParticipantsRaw} (info : TrustRegistryInfo limits)
    {participant : IssuerOrVerifier} (named : participant ∈ action.participants.keys) :
    ⟨participant.did⟩ ∈ action.signerList info :=
  List.mem_append_left _ (List.mem_map_of_mem named)

theorem ChangeParticipantsRaw.convener_mem_signerList {action : ChangeParticipantsRaw} (info : TrustRegistryInfo limits)
    {participant : IssuerOrVerifier} (added : action.participants.get? participant = some (.add ())) :
    ⟨info.convener.did⟩ ∈ action.signerList info := by
  have entry := Entries.mem_of_lookup_eq_some added
  have adds : action.participants.updates.entries.any (fun entry => entry.2 matches .add ()) = true :=
    List.any_eq_true.mpr ⟨_, entry, rfl⟩
  simp [signerList, adds]

/-- `change_participants_` applies the update it validated. -/
theorem changeParticipants_applies {action : ChangeParticipantsRaw}
    {participants result : TrustRegistryStoredParticipants limits} {signers : List ConvenerOrIssuerOrVerifier}
    (done : changeParticipants_ action participants signers = .ok result) :
    ApplyUpdate.applyUpdate action.participants participants = .ok result := by
  obtain ⟨-, -, applied⟩ := Except.bind_eq_ok.mp done
  exact Except.mapError_eq_ok.mp applied

/-- A successful `change_participants` found the registry, verified signatures of exactly
the required signers with their next nonces, ran `change_participants_` with them and
increased their nonces. -/
theorem changeParticipants_eq_ok {action : ChangeParticipantsRaw} {signatures : List (SignatureWithNonce Sig)}
    {state next : State limits} {nonces written : Nonces DidOrDidMethodKey}
    (done : changeParticipants authorize action signatures state nonces = .ok (next, written)) :
    ∃ info signers participants, state.trustRegistriesInfo action.registryId = some info ∧
      Verified authorize ConvenerOrIssuerOrVerifier.did nonces signatures signers ∧
      (InclusionRule.all (action.signerList info).toFinset).SignedBy signers ∧
      changeParticipants_ action (state.trustRegistriesParticipants action.registryId) (ascending signers.toFinset) =
        .ok participants ∧
      written = increaseNonces nonces (signers.map ConvenerOrIssuerOrVerifier.did) ∧
      action.participants.updates.size ≠ 0 ∧
      next = { state with
        trustRegistriesParticipants := Function.update state.trustRegistriesParticipants action.registryId participants } := by
  obtain ⟨_, ensured, rest⟩ := Except.bind_eq_ok.mp done
  have nonEmpty := ensureNotEmpty_eq_ok.mp ensured
  cases found : state.trustRegistriesInfo action.registryId with
  | none =>
      simp only [found] at rest
      cases rest
  | some info =>
      simp only [found] at rest
      obtain ⟨⟨⟨_, participants⟩, written'⟩, executed, stored⟩ := Except.bind_eq_ok.mp rest
      obtain ⟨rfl, rfl⟩ := Prod.mk.inj (Except.pure_eq_ok.mp stored).symm
      rw [execute, executeView_eq authorize _ nonEmpty, ChangeParticipantsRaw.requiredSigners_eq info nonEmpty] at executed
      obtain ⟨signers, verified, signed, ran, rfl⟩ :=
        executeInner_eq_ok authorize ConvenerOrIssuerOrVerifier.did nonEmpty executed
      obtain ⟨participants', body, paired⟩ := Except.map_eq_ok.mp ran
      cases paired
      exact ⟨info, signers, _, rfl, verified, signed, liftBody_eq_ok.mp body, rfl, nonEmpty, rfl⟩

/-- A successful `change_participants` is a step of the pallet: the `dispatch` of the call
with the signers it verified. -/
theorem changeParticipants_dispatch {action : ChangeParticipantsRaw} {signatures : List (SignatureWithNonce Sig)}
    {state next : State limits} {nonces written : Nonces DidOrDidMethodKey}
    (done : changeParticipants authorize action signatures state nonces = .ok (next, written)) :
    ∃ signers, dispatch (.changeParticipants action signers) state = .ok next := by
  obtain ⟨info, signers, participants, found, -, -, body, -, nonEmpty, rfl⟩ := changeParticipants_eq_ok authorize done
  refine ⟨(ascending signers.toFinset), ?_⟩
  simp [dispatch, TrustRegistry.ensureNotEmpty, nonEmpty, registryInfo, found, body, liftBody, Except.mapError,
    pure, Except.pure, bind, Except.bind]

theorem Reachable.changeParticipants {action : ChangeParticipantsRaw} {signatures : List (SignatureWithNonce Sig)}
    {state next : State limits} {nonces written : Nonces DidOrDidMethodKey} (reachable : Reachable state)
    (done : changeParticipants authorize action signatures state nonces = .ok (next, written)) : Reachable next := by
  obtain ⟨signers, stepped⟩ := changeParticipants_dispatch authorize done
  exact reachable.tail ⟨_, stepped⟩

/-- What a change of a registry's participants from `state` to `next` required of its
signatures: they verify, with their signers' next nonces, as distinct `signers` that
include every participant named by the update (so every participant whose membership
changed) and the convener when a participant was added; the new participants are the old
ones with the additions and without the removals, within the bound; the signers' nonces
are increased, and nothing else changed. -/
structure ParticipantsConsent (action : ChangeParticipantsRaw) (signatures : List (SignatureWithNonce Sig))
    (state next : State limits) (nonces written : Nonces DidOrDidMethodKey) (info : TrustRegistryInfo limits)
    (signers : List ConvenerOrIssuerOrVerifier) : Prop where
  registry : state.trustRegistriesInfo action.registryId = some info
  verified : Verified authorize ConvenerOrIssuerOrVerifier.did nonces signatures signers
  distinct : signers.Nodup
  named : ∀ participant ∈ action.participants.keys, ⟨participant.did⟩ ∈ signers
  changed : ∀ participant, containsKey (next.trustRegistriesParticipants action.registryId) participant ≠
      containsKey (state.trustRegistriesParticipants action.registryId) participant → ⟨participant.did⟩ ∈ signers
  convener : (∃ participant, containsKey (state.trustRegistriesParticipants action.registryId) participant = false ∧
      containsKey (next.trustRegistriesParticipants action.registryId) participant = true) →
    ⟨info.convener.did⟩ ∈ signers
  participants : ∀ participant, containsKey (next.trustRegistriesParticipants action.registryId) participant =
      presenceAfter (action.participants.get? participant)
        (containsKey (state.trustRegistriesParticipants action.registryId) participant)
  bounded : (next.trustRegistriesParticipants action.registryId).participants.size ≤
      limits.maxParticipantsPerRegistry
  increased : written = increaseNonces nonces (signers.map ConvenerOrIssuerOrVerifier.did)
  frame : next = { state with
    trustRegistriesParticipants := Function.update state.trustRegistriesParticipants action.registryId
      (next.trustRegistriesParticipants action.registryId) }

/-- Only an `Add` makes an absent participant present. -/
theorem added_of_presenceAfter {update : Option (AddOrRemoveOrModify Unit Unit)}
    (added : presenceAfter update false = true) : update = some (.add ()) := by
  rcases update with _ | (⟨⟩ | _ | _) <;> simp_all [presenceAfter]

theorem changeParticipants_consented {action : ChangeParticipantsRaw} {signatures : List (SignatureWithNonce Sig)}
    {state next : State limits} {nonces written : Nonces DidOrDidMethodKey}
    (done : changeParticipants authorize action signatures state nonces = .ok (next, written)) :
    ∃ info signers, ParticipantsConsent authorize action signatures state next nonces written info signers := by
  obtain ⟨info, signers, participants, found, verified, ⟨-, distinct, covers⟩, body, rfl, -, rfl⟩ :=
    changeParticipants_eq_ok authorize done
  have signed : ∀ signer ∈ action.signerList info, signer ∈ signers := fun signer listed =>
    List.mem_toFinset.mp (covers ▸ List.mem_toFinset.mpr listed)
  have presence := MultiTargetUpdate.containsKey_applyUpdate (changeParticipants_applies body)
  have named : ∀ participant ∈ action.participants.keys, ⟨participant.did⟩ ∈ signers := fun participant listed =>
    signed _ (ChangeParticipantsRaw.named_mem_signerList info listed)
  refine ⟨info, signers, ⟨found, verified, distinct, named, ?changed, ?convener, ?_, ?_, rfl, ?_⟩⟩
  case changed =>
    intro participant differs
    apply named participant (MultiTargetUpdate.mem_keys.mpr ?_)
    cases listed : action.participants.get? participant with
    | none =>
        simp only [Function.update_self, presence participant, listed, presenceAfter_none] at differs
        exact absurd rfl differs
    | some _ => rfl
  case convener =>
    rintro ⟨participant, absent, present⟩
    simp only [Function.update_self, presence participant, absent] at present
    exact signed _ (ChangeParticipantsRaw.convener_mem_signerList info (added_of_presenceAfter present))
  · simpa only [Function.update_self] using presence
  · simpa only [Function.update_self] using BoundedMap.size_le_bound participants.participants
  · simp only [Function.update_self]

end Extrinsic

/-! ## A newcomer joins registry `0`

The convener `0` opens registry `0` under the test runtime's limits, and DID `1` joins it
with its own signature and the convener's; every signature verifies as the DID it names,
and every signer has nonce `0`. -/

namespace OneRegistry

def registry : TrustRegistryId := ⟨0⟩

def convener : Convener := ⟨.did ⟨0⟩⟩

def newcomer : IssuerOrVerifier := ⟨.did ⟨1⟩⟩

def opened : State Limits.test :=
  (runCalls [.initOrUpdateTrustRegistry ⟨registry, "registry", [], 0⟩ convener] State.empty).toOption.getD State.empty

def authorize (sig : Nat) (_ : Nat) : Except (Failure CallError) (Option ConvenerOrIssuerOrVerifier) :=
  .ok (some ⟨.did ⟨sig⟩⟩)

def nonces : Nonces DidOrDidMethodKey := fun _ => some 0

def addNewcomer : ChangeParticipantsRaw := ⟨registry, MultiTargetUpdate.ofList [(newcomer, .add ())]⟩

def signatures : List (SignatureWithNonce Nat) := [⟨1, 1⟩, ⟨0, 1⟩]

end OneRegistry

theorem changeParticipants_consented_newcomer :
    ∃ next written, changeParticipants OneRegistry.authorize OneRegistry.addNewcomer OneRegistry.signatures
        OneRegistry.opened OneRegistry.nonces = .ok (next, written) ∧
      ∃ info signers, ParticipantsConsent OneRegistry.authorize OneRegistry.addNewcomer OneRegistry.signatures
        OneRegistry.opened next OneRegistry.nonces written info signers := by
  obtain ⟨next, written, done⟩ : ∃ next written, changeParticipants OneRegistry.authorize OneRegistry.addNewcomer
      OneRegistry.signatures OneRegistry.opened OneRegistry.nonces = .ok (next, written) := ⟨_, _, rfl⟩
  exact ⟨next, written, done, changeParticipants_consented OneRegistry.authorize done⟩

end DockSubstrate.TrustRegistry
