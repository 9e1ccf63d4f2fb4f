import Mathlib
import DockSubstrate.Util.Action
import DockSubstrate.Lib.Except

/-!
# Multi-signed actions

`MultiSignedAction` of `common/signed_action.rs`: an action signed by several signers, each
signature made over the action with the signer's next nonce.  `execute_inner` takes the
signatures one at a time.  It verifies a signature, runs the rest of the execution inside
the signer's `execute_and_increase_nonce`, and excludes the signer from the signers still
required.  The action's function runs once no signer is required and no signature is left.

Each signer's nonce is written only when everything inside its `execute_and_increase_nonce`
succeeded.  So every nonce check reads the nonces as they were before the call, and a
failure writes nothing.  The signers' nonces are a map from the signers' keys (the DIDs
their wrappers dereference to) to the nonce of their stored details.  Verification of a
signature over the action with a nonce is a parameter.  The action's function reads and
returns the value of the action's target, which the caller writes back.

`executeInner_of_verified` and `executeInner_rejects` are the two halves of the execution's
contract.  When the signatures verify as a sequence of signers that meets the required
rule exactly, the function runs once, with those signers verified.  Its success then
increases each signer's nonce by one.  Otherwise the execution fails with an error that
does not depend on the function.
-/

namespace DockSubstrate.Common

open DockSubstrate.Lib DockSubstrate.Util

/-- `SignatureWithNonce`: a signature of an action together with the nonce it was made with. -/
structure SignatureWithNonce (Sig : Type) where
  sig : Sig
  nonce : Nat
  deriving DecidableEq, Repr

/-- `IntermediateError`: an error of the action wrappers, of a nonce, of a signature, or
an error of the pallets (`Dispatch`), which the verification of a signature and the
action's function raise. -/
inductive IntermediateError (ε : Type) where
  | action (error : ActionExecutionError)
  | nonce (error : NonceError)
  | invalidSignature
  | dispatch (error : ε)
  deriving DecidableEq, Repr

/-- The nonces of the signers, by the key their details are stored under; `none` where no
details are stored. -/
abbrev Nonces (Key : Type) := Key → Option Nat

/-- The nonces once those stored under the given keys are increased by one. -/
def increaseNonces {Key : Type} [DecidableEq Key] (nonces : Nonces Key) (keys : List Key) : Nonces Key :=
  fun key => if key ∈ keys then (nonces key).map (· + 1) else nonces key

section Execute

variable {Sig Signer Key ε ρ : Type} [DecidableEq Signer] [DecidableEq Key]
  (authorize : Sig → Nat → Except ε (Option Signer)) (toKey : Signer → Key)

/-- `authorizes_signed_action(..)?.ok_or(InvalidSignature)?`: the signer a signature of the
action with its nonce verifies as. -/
def signerOf (signature : SignatureWithNonce Sig) : Except (IntermediateError ε) Signer := do
  match ← (authorize signature.sig signature.nonce).mapError .dispatch with
  | some signer => pure signer
  | none => throw .invalidSignature

/-- `ActionWithNonce::execute_and_increase_nonce` with the signer as target: the action must
not be empty, the signer must have stored details and the nonce must be its next one; once
the rest of the execution succeeds, the signer's nonce is the given one. -/
def executeAndIncreaseNonce (len : Nat) (key : Key) (nonce : Nat) (nonces : Nonces Key)
    (rest : Except (IntermediateError ε) (ρ × Nonces Key)) : Except (IntermediateError ε) (ρ × Nonces Key) := do
  if len = 0 then throw (.action .emptyPayload)
  let some current := nonces key | throw (.action .noEntity)
  unless WithNonce.isNextNonce current nonce do throw (.nonce .incorrectNonce)
  let (result, written) ← rest
  pure (result, Function.update written key (some nonce))

/-- `MultiSignedAction::execute_inner`: the signatures are taken one at a time, each signer
is excluded from the signers still required, and the action's function `run` is called
with the verified signers once no signer is required and no signature is left. -/
def executeInner (len : Nat) (run : Finset Signer → Except ε ρ) :
    Finset Signer → Option (InclusionRule Signer) → List (SignatureWithNonce Sig) → Nonces Key →
      Except (IntermediateError ε) (ρ × Nonces Key)
  | verified, none, [], nonces => do
      let result ← (run verified).mapError .dispatch
      pure (result, nonces)
  | _, none, _ :: _, _ => throw (.action .tooManySignatures)
  | _, some _, [], _ => throw (.action .notEnoughSignatures)
  | verified, some required, signature :: signatures, nonces => do
      let signer ← signerOf authorize signature
      executeAndIncreaseNonce len (toKey signer) signature.nonce nonces do
        let required ← (required.exclude signer).mapError fun _ => .action .notEnoughSignatures
        executeInner len run (insert signer verified) required signatures nonces

/-- `ensure!(!self.is_empty(), EmptyPayload)`. -/
def ensureNotEmpty (len : Nat) : Except (IntermediateError ε) Unit :=
  if len = 0 then throw (.action .emptyPayload) else pure ()

omit [DecidableEq Signer] [DecidableEq Key] in
theorem ensureNotEmpty_eq_ok {len : Nat} {u : Unit} :
    (ensureNotEmpty len : Except (IntermediateError ε) Unit) = .ok u ↔ len ≠ 0 := by
  by_cases empty : len = 0 <;> simp [ensureNotEmpty, empty, throw, throwThe, MonadExceptOf.throw, pure, Except.pure]

/-- `MultiSignedAction::execute_view`, through `Action::view`: the action must not be empty
and its target must have a stored value, which the function reads. -/
def executeView {D : Type} (len : Nat) (stored : Option D) (f : D → Finset Signer → Except ε ρ)
    (getRequiredSigners : D → Option (InclusionRule Signer)) (signatures : List (SignatureWithNonce Sig))
    (nonces : Nonces Key) : Except (IntermediateError ε) (ρ × Nonces Key) := do
  ensureNotEmpty len
  let some data := stored | throw (.action .noEntity)
  executeInner authorize toKey len (f data) ∅ (getRequiredSigners data) signatures nonces

/-- `MultiSignedAction::execute`, through `Action::modify`: as `execute_view`, with a
function that also returns the target's new value, for the caller to write back. -/
def execute {D R : Type} (len : Nat) (stored : Option D) (f : D → Finset Signer → Except ε (R × D))
    (getRequiredSigners : D → Option (InclusionRule Signer)) (signatures : List (SignatureWithNonce Sig))
    (nonces : Nonces Key) : Except (IntermediateError ε) ((R × D) × Nonces Key) :=
  executeView authorize toKey len stored f getRequiredSigners signatures nonces

/-- `MultiSignedAction::execute_removable`, through `Action::modify_removable`: the action
must not be empty; the function reads the target's value, if any, and returns the new one
(`none` removes it). -/
def executeRemovable {D R : Type} (len : Nat) (stored : Option D)
    (f : Option D → Finset Signer → Except ε (R × Option D))
    (getRequiredSigners : Option D → Option (InclusionRule Signer))
    (signatures : List (SignatureWithNonce Sig)) (nonces : Nonces Key) :
    Except (IntermediateError ε) ((R × Option D) × Nonces Key) := do
  ensureNotEmpty len
  executeInner authorize toKey len (f stored) ∅ (getRequiredSigners stored) signatures nonces

/-! ## The contract of a multi-signed execution -/

/-- The signatures verify, in order, as the signers of a list, each made with its signer's
next nonce. -/
def Verified (nonces : Nonces Key) (signatures : List (SignatureWithNonce Sig)) (signers : List Signer) : Prop :=
  List.Forall₂ (fun signature signer => authorize signature.sig signature.nonce = .ok (some signer) ∧
      (nonces (toKey signer)).any (WithNonce.isNextNonce · signature.nonce) = true)
    signatures signers

theorem increaseNonces_nil (nonces : Nonces Key) : increaseNonces nonces [] = nonces := by
  funext key
  simp [increaseNonces]

/-- Writing a signer's next nonce over the increased nonces of the others increases its own. -/
theorem increaseNonces_cons {nonces : Nonces Key} {key : Key} {keys : List Key} {current nonce : Nat}
    (stored : nonces key = some current) (next : WithNonce.isNextNonce current nonce = true) :
    Function.update (increaseNonces nonces keys) key (some nonce) = increaseNonces nonces (key :: keys) := by
  obtain ⟨rfl, -⟩ := WithNonce.isNextNonce_iff.mp next
  funext other
  by_cases same : other = key
  · subst same
    simp [increaseNonces, stored]
  · simp [increaseNonces, same]

omit [DecidableEq Signer] in
theorem signerOf_eq_ok {signature : SignatureWithNonce Sig} {signer : Signer} :
    signerOf authorize signature = (.ok signer : Except (IntermediateError ε) Signer) ↔
      authorize signature.sig signature.nonce = .ok (some signer) := by
  unfold signerOf
  cases authorize signature.sig signature.nonce with
  | error => simp [Except.mapError, bind, Except.bind]
  | ok signer? => cases signer? <;> simp [Except.mapError, bind, Except.bind, pure, Except.pure, throw, throwThe,
      MonadExceptOf.throw]

/-- The checks `execute_and_increase_nonce` makes before the rest of the execution: they
fail whatever the rest is, or they pass. -/
theorem executeAndIncreaseNonce_cases (ρ : Type) (len : Nat) (key : Key) (nonce : Nat) (nonces : Nonces Key) :
    (∃ error, ∀ rest : Except (IntermediateError ε) (ρ × Nonces Key),
        executeAndIncreaseNonce len key nonce nonces rest = .error error) ∨
      len ≠ 0 ∧ ∃ current, nonces key = some current ∧ WithNonce.isNextNonce current nonce = true := by
  by_cases empty : len = 0
  · exact .inl ⟨_, fun _ => by simp only [executeAndIncreaseNonce, empty]; rfl⟩
  cases stored : nonces key with
  | none => exact .inl ⟨_, fun _ => by simp only [executeAndIncreaseNonce, empty, stored]; rfl⟩
  | some current =>
      by_cases next : WithNonce.isNextNonce current nonce = true
      · exact .inr ⟨empty, current, rfl, next⟩
      · exact .inl ⟨_, fun _ => by simp only [executeAndIncreaseNonce, empty, stored, next]; rfl⟩

theorem executeAndIncreaseNonce_eq {len : Nat} {key : Key} {nonce current : Nat} {nonces : Nonces Key}
    {rest : Except (IntermediateError ε) (ρ × Nonces Key)} (nonEmpty : len ≠ 0)
    (stored : nonces key = some current) (next : WithNonce.isNextNonce current nonce = true) :
    executeAndIncreaseNonce len key nonce nonces rest =
      rest.map fun (result, written) => (result, Function.update written key (some nonce)) := by
  simp only [executeAndIncreaseNonce, nonEmpty, stored, next]
  cases rest <;> rfl

/-- The execution when the signatures verify as signers that meet the required rule
exactly: the function runs once, with the signers added to the verified ones, and its
success increases the signers' nonces by one. -/
theorem executeInner_of_verified {len : Nat} (nonEmpty : len ≠ 0) (run : Finset Signer → Except ε ρ)
    (nonces : Nonces Key) :
    ∀ {signatures : List (SignatureWithNonce Sig)} {signers : List Signer} {verified : Finset Signer}
      {required : Option (InclusionRule Signer)},
      Verified authorize toKey nonces signatures signers → InclusionRule.SignedByAfter required signers →
      executeInner authorize toKey len run verified required signatures nonces =
        ((run (verified ∪ signers.toFinset)).mapError .dispatch).map
          (·, increaseNonces nonces (signers.map toKey))
  | [], [], verified, none, .nil, _ => by
      simp only [executeInner, List.toFinset_nil, Finset.union_empty, List.map_nil, increaseNonces_nil]
      cases run verified <;> rfl
  | [], [], _, some required, .nil, signed => absurd signed (InclusionRule.signedBy_nil required)
  | signature :: signatures, signer :: signers, verified, some required, .cons ⟨verifies, nextNonce⟩ rest,
      signed => by
      obtain ⟨current, stored, next⟩ := (Option.any_eq_true _ _).mp nextNonce
      obtain ⟨after, excluded, restSigned⟩ := InclusionRule.signedBy_cons.mp signed
      have restRun : executeInner authorize toKey len run (insert signer verified) after signatures nonces = _ :=
        executeInner_of_verified nonEmpty run nonces rest restSigned
      simp only [executeInner, (signerOf_eq_ok authorize).mpr verifies, Except.ok_bind,
        executeAndIncreaseNonce_eq nonEmpty stored next, excluded, Except.mapError, restRun]
      rw [List.toFinset_cons, Finset.union_insert, ← Finset.insert_union, List.map_cons,
        ← increaseNonces_cons stored next]
      cases run (insert signer verified ∪ signers.toFinset) <;> rfl
  | _ :: _, _ :: _, _, none, _, signed => by cases signed

/-- The execution when no sequence of signers the signatures verify as meets the required
rule: it fails, with an error that does not depend on the function. -/
theorem executeInner_rejects (len : Nat) (nonces : Nonces Key) :
    ∀ (signatures : List (SignatureWithNonce Sig)) (verified : Finset Signer)
      (required : Option (InclusionRule Signer)),
      (∀ signers, Verified authorize toKey nonces signatures signers →
        ¬ InclusionRule.SignedByAfter required signers) →
      ∃ error, ∀ run : Finset Signer → Except ε ρ,
        executeInner authorize toKey len run verified required signatures nonces = .error error
  | [], _, none, unsigned => absurd rfl (unsigned [] .nil)
  | [], _, some _, _ => ⟨_, fun _ => rfl⟩
  | _ :: _, _, none, _ => ⟨_, fun _ => rfl⟩
  | signature :: signatures, verified, some required, unsigned => by
      cases verifies : signerOf authorize signature with
      | error error => exact ⟨error, fun run => by simp only [executeInner, verifies]; rfl⟩
      | ok signer =>
          rcases executeAndIncreaseNonce_cases ρ len (toKey signer) signature.nonce nonces with
            ⟨error, rejected⟩ | ⟨nonEmpty, current, stored, next⟩
          · exact ⟨error, fun run => by simp only [executeInner, verifies, Except.ok_bind, rejected]⟩
          cases excluded : required.exclude signer with
          | error =>
              refine ⟨.action .notEnoughSignatures, fun run => ?_⟩
              simp only [executeInner, verifies, Except.ok_bind, executeAndIncreaseNonce_eq nonEmpty stored next,
                excluded]
              rfl
          | ok after =>
              -- a sequence of signers meeting what is left would extend to one meeting the rule
              have restUnsigned : ∀ signers, Verified authorize toKey nonces signatures signers →
                  ¬ InclusionRule.SignedByAfter after signers := by
                intro signers restVerified restSigned
                refine unsigned (signer :: signers) (.cons ⟨(signerOf_eq_ok authorize).mp verifies, ?_⟩ restVerified)
                  (InclusionRule.signedBy_cons.mpr ⟨after, excluded, restSigned⟩)
                simp [stored, next]
              obtain ⟨error, rejected⟩ := executeInner_rejects len nonces signatures (insert signer verified) after
                restUnsigned
              refine ⟨error, fun run => ?_⟩
              simp only [executeInner, verifies, Except.ok_bind, executeAndIncreaseNonce_eq nonEmpty stored next,
                excluded, Except.mapError, rejected]
              rfl

/-- What a signed call does with every action function `f`, which it would run as `run f`
once the signatures are checked.  When the signatures verify as signers that meet the
required rule exactly, it runs `f` once, with those signers verified; a success increases
each signer's nonce by one and leaves every other nonce.  Otherwise it fails with an error
that does not depend on `f`. -/
def RunsOnceSignedBy {α : Type} (call : α → Except (IntermediateError ε) (ρ × Nonces Key))
    (run : α → Finset Signer → Except ε ρ) (required : InclusionRule Signer)
    (signatures : List (SignatureWithNonce Sig)) (nonces : Nonces Key) : Prop :=
  (∀ signers, Verified authorize toKey nonces signatures signers → required.SignedBy signers →
    ∀ f, call f = ((run f signers.toFinset).mapError .dispatch).map
      (·, increaseNonces nonces (signers.map toKey))) ∧
  ((∀ signers, Verified authorize toKey nonces signatures signers → ¬ required.SignedBy signers) →
    ∃ error, ∀ f, call f = .error error)

/-- A successful signed call ran its function with signers that signed as required, and
increased their nonces. -/
theorem RunsOnceSignedBy.eq_ok {α : Type} {call : α → Except (IntermediateError ε) (ρ × Nonces Key)}
    {run : α → Finset Signer → Except ε ρ} {required : InclusionRule Signer}
    {signatures : List (SignatureWithNonce Sig)} {nonces : Nonces Key}
    (runsOnce : RunsOnceSignedBy authorize toKey call run required signatures nonces) (f : α) {result : ρ}
    {written : Nonces Key} (succeeded : call f = .ok (result, written)) :
    ∃ signers, Verified authorize toKey nonces signatures signers ∧ required.SignedBy signers ∧
      run f signers.toFinset = .ok result ∧ written = increaseNonces nonces (signers.map toKey) := by
  by_cases signed : ∃ signers, Verified authorize toKey nonces signatures signers ∧ required.SignedBy signers
  · obtain ⟨signers, verified, signedBy⟩ := signed
    rw [runsOnce.1 signers verified signedBy f] at succeeded
    obtain ⟨ran, mapped, paired⟩ := Except.map_eq_ok.mp succeeded
    obtain ⟨rfl, rfl⟩ := Prod.mk.inj paired
    exact ⟨signers, verified, signedBy, Except.mapError_eq_ok.mp mapped, rfl⟩
  · obtain ⟨error, rejected⟩ := runsOnce.2 fun signers verified signedBy => signed ⟨signers, verified, signedBy⟩
    rw [rejected f] at succeeded
    cases succeeded

/-- `execute_inner` from no verified signers is a signed call of its function. -/
theorem executeInner_runsOnceSignedBy {α : Type} {len : Nat} (nonEmpty : len ≠ 0)
    (run : α → Finset Signer → Except ε ρ) (required : InclusionRule Signer)
    (signatures : List (SignatureWithNonce Sig)) (nonces : Nonces Key) :
    RunsOnceSignedBy authorize toKey
      (fun f => executeInner authorize toKey len (run f) ∅ (some required) signatures nonces)
      run required signatures nonces := by
  constructor
  · intro signers verified signed f
    have signedAfter : InclusionRule.SignedByAfter (some required) signers := signed
    dsimp only
    rw [executeInner_of_verified authorize toKey nonEmpty (run f) nonces verified signedAfter, Finset.empty_union]
  · intro unsigned
    obtain ⟨error, rejected⟩ := executeInner_rejects authorize toKey len nonces signatures ∅ (some required) unsigned
    exact ⟨error, fun f => rejected (run f)⟩

/-- A successful `execute_inner` from no verified signers ran its function with signers that
signed as required, and increased their nonces. -/
theorem executeInner_eq_ok {len : Nat} (nonEmpty : len ≠ 0) {run : Finset Signer → Except ε ρ}
    {required : InclusionRule Signer} {signatures : List (SignatureWithNonce Sig)} {nonces : Nonces Key}
    {result : ρ} {written : Nonces Key}
    (succeeded : executeInner authorize toKey len run ∅ (some required) signatures nonces = .ok (result, written)) :
    ∃ signers, Verified authorize toKey nonces signatures signers ∧ required.SignedBy signers ∧
      run signers.toFinset = .ok result ∧ written = increaseNonces nonces (signers.map toKey) :=
  (executeInner_runsOnceSignedBy authorize toKey nonEmpty (fun f : Finset Signer → Except ε ρ => f) required
    signatures nonces).eq_ok authorize toKey run succeeded

theorem executeView_eq {D : Type} {len : Nat} (nonEmpty : len ≠ 0) (data : D) (f : D → Finset Signer → Except ε ρ)
    (getRequiredSigners : D → Option (InclusionRule Signer)) (signatures : List (SignatureWithNonce Sig))
    (nonces : Nonces Key) :
    executeView authorize toKey len (some data) f getRequiredSigners signatures nonces =
      executeInner authorize toKey len (f data) ∅ (getRequiredSigners data) signatures nonces := by
  simp only [executeView, ensureNotEmpty, nonEmpty]
  rfl

theorem executeRemovable_eq {D R : Type} {len : Nat} (nonEmpty : len ≠ 0) (stored : Option D)
    (f : Option D → Finset Signer → Except ε (R × Option D))
    (getRequiredSigners : Option D → Option (InclusionRule Signer))
    (signatures : List (SignatureWithNonce Sig)) (nonces : Nonces Key) :
    executeRemovable authorize toKey len stored f getRequiredSigners signatures nonces =
      executeInner authorize toKey len (f stored) ∅ (getRequiredSigners stored) signatures nonces := by
  simp only [executeRemovable, ensureNotEmpty, nonEmpty]
  rfl

/-- A successful `execute_inner` ran its function, with some set of signers. -/
theorem executeInner_ran {len : Nat} {run : Finset Signer → Except ε ρ} :
    ∀ {verified : Finset Signer} {required : Option (InclusionRule Signer)}
      {signatures : List (SignatureWithNonce Sig)} {nonces written : Nonces Key} {result : ρ},
      executeInner authorize toKey len run verified required signatures nonces = .ok (result, written) →
        ∃ signers, run signers = .ok result
  | verified, none, [], _, _, _, ran => by
      simp only [executeInner, Except.bind_eq_ok, Except.mapError_eq_ok, Except.pure_eq_ok, Prod.mk.injEq] at ran
      obtain ⟨_, ran, rfl, -⟩ := ran
      exact ⟨verified, ran⟩
  | _, none, _ :: _, _, _, _, ran => by simp [executeInner] at ran
  | _, some _, [], _, _, _, ran => by simp [executeInner] at ran
  | verified, some required, signature :: signatures, nonces, _, _, ran => by
      simp only [executeInner] at ran
      obtain ⟨signer, -, ran⟩ := Except.bind_eq_ok.mp ran
      -- the signer's checks either fail whatever follows, or pass and leave the rest to run
      rcases executeAndIncreaseNonce_cases (ε := ε) ρ len (toKey signer) signature.nonce nonces with
        ⟨error, fails⟩ | ⟨nonEmpty, current, stored, next⟩
      · rw [fails] at ran
        cases ran
      · rw [executeAndIncreaseNonce_eq nonEmpty stored next] at ran
        obtain ⟨⟨_, _⟩, rest, reached⟩ := Except.map_eq_ok.mp ran
        obtain ⟨_, -, rest⟩ := Except.bind_eq_ok.mp rest
        obtain ⟨rfl, -⟩ := Prod.mk.inj reached
        exact executeInner_ran rest

/-- A successful `execute_view` ran its function on the target's value. -/
theorem executeView_ran {D : Type} {len : Nat} {stored : Option D} {f : D → Finset Signer → Except ε ρ}
    {getRequiredSigners : D → Option (InclusionRule Signer)} {signatures : List (SignatureWithNonce Sig)}
    {nonces written : Nonces Key} {result : ρ}
    (ran : executeView authorize toKey len stored f getRequiredSigners signatures nonces = .ok (result, written)) :
    ∃ data signers, stored = some data ∧ f data signers = .ok result := by
  by_cases empty : len = 0
  · simp [executeView, ensureNotEmpty, empty] at ran
  cases stored with
  | none => simp [executeView, ensureNotEmpty, empty] at ran
  | some data =>
      rw [executeView_eq authorize toKey empty] at ran
      obtain ⟨signers, ran⟩ := executeInner_ran authorize toKey ran
      exact ⟨data, signers, rfl, ran⟩

/-- A successful `execute_removable` ran its function on the target's value, if any. -/
theorem executeRemovable_ran {D R : Type} {len : Nat} {stored : Option D}
    {f : Option D → Finset Signer → Except ε (R × Option D)}
    {getRequiredSigners : Option D → Option (InclusionRule Signer)} {signatures : List (SignatureWithNonce Sig)}
    {nonces written : Nonces Key} {result : R × Option D}
    (ran : executeRemovable authorize toKey len stored f getRequiredSigners signatures nonces =
      .ok (result, written)) :
    ∃ signers, f stored signers = .ok result := by
  by_cases empty : len = 0
  · simp [executeRemovable, ensureNotEmpty, empty] at ran
  rw [executeRemovable_eq authorize toKey empty] at ran
  exact executeInner_ran authorize toKey ran

/-- A successful `execute_view` on a value that requires signers ran its function with
signers that meet the rule, and increased their nonces. -/
theorem executeView_eq_ok_of_requires {D : Type} {len : Nat} {stored : Option D} {f : D → Finset Signer → Except ε ρ}
    {getRequiredSigners : D → Option (InclusionRule Signer)} {signatures : List (SignatureWithNonce Sig)}
    {nonces written : Nonces Key} {result : ρ}
    (ran : executeView authorize toKey len stored f getRequiredSigners signatures nonces = .ok (result, written))
    {data : D} (found : stored = some data) {required : InclusionRule Signer}
    (requires : getRequiredSigners data = some required) :
    ∃ signers, Verified authorize toKey nonces signatures signers ∧ required.SignedBy signers ∧
      f data signers.toFinset = .ok result ∧ written = increaseNonces nonces (signers.map toKey) := by
  by_cases empty : len = 0
  · simp [executeView, ensureNotEmpty, empty] at ran
  rw [found, executeView_eq authorize toKey empty, requires] at ran
  exact executeInner_eq_ok authorize toKey empty ran

/-- A successful `execute_removable` on a value that requires signers ran its function with
signers that meet the rule, and increased their nonces. -/
theorem executeRemovable_eq_ok_of_requires {D R : Type} {len : Nat} {stored : Option D}
    {f : Option D → Finset Signer → Except ε (R × Option D)}
    {getRequiredSigners : Option D → Option (InclusionRule Signer)} {signatures : List (SignatureWithNonce Sig)}
    {nonces written : Nonces Key} {result : R × Option D}
    (ran : executeRemovable authorize toKey len stored f getRequiredSigners signatures nonces = .ok (result, written))
    {required : InclusionRule Signer} (requires : getRequiredSigners stored = some required) :
    ∃ signers, Verified authorize toKey nonces signatures signers ∧ required.SignedBy signers ∧
      f stored signers.toFinset = .ok result ∧ written = increaseNonces nonces (signers.map toKey) := by
  by_cases empty : len = 0
  · simp [executeRemovable, ensureNotEmpty, empty] at ran
  rw [executeRemovable_eq authorize toKey empty, requires] at ran
  exact executeInner_eq_ok authorize toKey empty ran

omit [DecidableEq Signer] [DecidableEq Key] in
/-- Each signer of a verified sequence is what a signature of it verifies as. -/
theorem Verified.exists_signature {nonces : Nonces Key} {signatures : List (SignatureWithNonce Sig)}
    {signers : List Signer} (verified : Verified authorize toKey nonces signatures signers) {signer : Signer}
    (member : signer ∈ signers) :
    ∃ signature ∈ signatures, authorize signature.sig signature.nonce = .ok (some signer) := by
  unfold Verified at verified
  induction verified with
  | nil => cases member
  | cons head _ ih =>
      rcases List.mem_cons.mp member with rfl | later
      · exact ⟨_, List.mem_cons_self, head.1⟩
      · obtain ⟨signature, mem, verifies⟩ := ih later
        exact ⟨signature, List.mem_cons_of_mem _ mem, verifies⟩

omit [DecidableEq Key] in
/-- Signatures that meet `AnyOf` of a set have one that verifies as a member of the set. -/
theorem Verified.exists_anyOf {nonces : Nonces Key} {signatures : List (SignatureWithNonce Sig)}
    {signers : List Signer} (verified : Verified authorize toKey nonces signatures signers) {values : Finset Signer}
    (signed : (InclusionRule.anyOf values).SignedBy signers) :
    ∃ signature ∈ signatures, ∃ signer ∈ values, authorize signature.sig signature.nonce = .ok (some signer) := by
  obtain ⟨signer, member, rfl⟩ := signed
  obtain ⟨signature, mem, verifies⟩ := verified.exists_signature authorize toKey (List.mem_singleton_self signer)
  exact ⟨signature, mem, signer, member, verifies⟩

end Execute

/-! ## One signer

Signer `1`, with nonce `0`, whose signatures verify as the number they are. -/

namespace OneSigner

def authorize (sig : Nat) (_ : Nat) : Except Unit (Option Nat) :=
  .ok (some sig)

def nonces : Nonces Nat :=
  fun key => if key = 1 then some 0 else none

def signatures : List (SignatureWithNonce Nat) :=
  [⟨1, 1⟩]

def required : Unit → Option (InclusionRule Nat) :=
  fun _ => some (.all {1})

end OneSigner

end DockSubstrate.Common
