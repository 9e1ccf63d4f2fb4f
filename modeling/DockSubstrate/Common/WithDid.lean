import Mathlib
import DockSubstrate.Did.Pallet
import DockSubstrate.Lib.Runs

/-!
# A pallet beside the DID pallet

A pallet whose calls are signed by DIDs or DID method keys reads the signers' keys and moves
their nonces in the DID pallet's storage.  `WithDid σ` holds the DID pallet's storage beside
the pallet's own, of type `σ`, and a run interleaves calls of both pallets, a call that
fails leaving both as they were.  A property of both that every successful call keeps holds
after any call (`WithDid.apply_invariant`); a DID call leaves the pallet's storage, so a
property of it that every successful call of the pallet keeps holds along every run
(`WithDid.run_keeps`).
-/

namespace DockSubstrate.Common

open DockSubstrate.Lib DockSubstrate.DidModule

/-- The DID pallet's storage and another pallet's. -/
structure WithDid (σ : Type) where
  did : DidModule.State
  pallet : σ

/-- A call of the DID pallet or of the other pallet. -/
inductive WithDid.Event (Call : Type) where
  | did (call : DidModule.Call)
  | pallet (call : Call)

variable {σ Call ε : Type} (crypto : SignatureVerification StateChange) (backend : Backend)
  (dispatch : Call → DidModule.State → σ → Except ε (DidModule.State × σ))

/-- One call; a call that fails changes nothing. -/
def WithDid.apply (chain : WithDid σ) : WithDid.Event Call → WithDid σ
  | .did call => (DidModule.dispatch crypto backend call chain.did).toOption.elim chain fun did => { chain with did }
  | .pallet call => (dispatch call chain.did chain.pallet).toOption.elim chain fun result => ⟨result.1, result.2⟩

variable {crypto backend dispatch}

/-- A property of both storages that every successful call of either pallet keeps holds
after any call: a call that fails leaves both. -/
theorem WithDid.apply_invariant {P : WithDid σ → Prop} {chain : WithDid σ} {event : WithDid.Event Call}
    (keepDid : ∀ call, event = .did call → ∀ did', DidModule.dispatch crypto backend call chain.did = .ok did' →
      P { chain with did := did' })
    (keepPallet : ∀ call, event = .pallet call → ∀ did' state', dispatch call chain.did chain.pallet = .ok (did', state') →
      P ⟨did', state'⟩)
    (holds : P chain) : P (chain.apply crypto backend dispatch event) := by
  cases event with
  | did call =>
      cases done : DidModule.dispatch crypto backend call chain.did with
      | error => simpa [WithDid.apply, done, Except.toOption] using holds
      | ok did' => simpa [WithDid.apply, done, Except.toOption] using keepDid call rfl did' done
  | pallet call =>
      cases done : dispatch call chain.did chain.pallet with
      | error => simpa [WithDid.apply, done, Except.toOption] using holds
      | ok result => simpa [WithDid.apply, done, Except.toOption] using keepPallet call rfl result.1 result.2 done

/-- A property of the pallet's storage that a successful call keeps holds after it, and after
every DID call. -/
theorem WithDid.apply_keeps {P : σ → Prop} {chain : WithDid σ} {event : WithDid.Event Call}
    (keep : ∀ call, event = .pallet call → ∀ did' state', dispatch call chain.did chain.pallet = .ok (did', state') →
      P state')
    (holds : P chain.pallet) : P (chain.apply crypto backend dispatch event).pallet :=
  @WithDid.apply_invariant _ _ _ crypto backend dispatch (fun current => P current.pallet) chain event
    (fun _ _ _ _ => holds) keep holds

/-- A property of the pallet's storage that every successful call of the run keeps holds along
the run, whatever DID calls come between. -/
theorem WithDid.run_keeps {P : σ → Prop} {events : List (WithDid.Event Call)}
    (keep : ∀ call, .pallet call ∈ events → ∀ did state did' state', dispatch call did state = .ok (did', state') →
      P state → P state')
    {chain : WithDid σ} (holds : P chain.pallet) : P (Lib.run (WithDid.apply crypto backend dispatch) chain events).pallet :=
  @Lib.run_invariant _ _ (WithDid.apply crypto backend dispatch) (fun current => P current.pallet) events
    (fun current _ mem before => WithDid.apply_keeps
      (fun call named did' state' done => keep call (named ▸ mem) current.did current.pallet did' state' done before)
      before)
    chain holds

end DockSubstrate.Common
