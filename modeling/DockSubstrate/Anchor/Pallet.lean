import Mathlib
import DockSubstrate.Lib.Except
import DockSubstrate.Lib.Runs

/-!
# Anchors

The anchor pallet (`modules/anchor`), a proof-of-existence registry: `deploy` hashes the
data and, if the hash is not yet in `Anchors`, stores it with the current block number.
Nothing else writes `Anchors`, so the value under a hash is the block at which data with
that hash was first deployed, and it stays (`anchors_first_deployment`).

The hash is `frame_system`'s `Hashing`, a parameter here; the block number moves with the
blocks of a run.
-/

namespace DockSubstrate.AnchorModule

open DockSubstrate.Lib

/-- `anchor::Error`. -/
inductive Error where
  | anchorExists
  deriving DecidableEq, Repr

/-- `Anchors`: a hash, and the block number at which it was first published. -/
structure State (Hash : Type) where
  anchors : Hash → Option Nat

variable {Hash : Type} [DecidableEq Hash] (hash : List UInt8 → Hash)

/-- `deploy_`: the hash of the data must be free; it is stored with the current block. -/
def deploy_ (now : Nat) (data : List UInt8) (state : State Hash) : Except Error (State Hash) := do
  let key := hash data
  (unless (state.anchors key).isNone do throw .anchorExists)
  pure ⟨Function.update state.anchors key (some now)⟩

/-- A block of the chain: a `deploy` call, or the next block. -/
inductive Event where
  | deploy (data : List UInt8)
  | newBlock

/-- The pallet's storage and the current block number. -/
structure Chain (Hash : Type) where
  state : State Hash
  blockNumber : Nat

/-- One event; a `deploy` that fails changes nothing. -/
def Chain.apply (chain : Chain Hash) : Event → Chain Hash
  | .deploy data => ⟨(deploy_ hash chain.blockNumber data chain.state).toOption.getD chain.state, chain.blockNumber⟩
  | .newBlock => ⟨chain.state, chain.blockNumber + 1⟩

/-- The block at which data with hash `key` is first deployed along the events, from block
`now`: what `Anchors` should hold for `key`. -/
def firstDeployed (key : Hash) : Nat → List Event → Option Nat
  | _, [] => none
  | now, .deploy data :: rest => if hash data = key then some now else firstDeployed key now rest
  | now, .newBlock :: rest => firstDeployed key (now + 1) rest

variable {hash}

theorem deploy_eq_ok {now : Nat} {data : List UInt8} {state next : State Hash} :
    deploy_ hash now data state = .ok next ↔
      state.anchors (hash data) = none ∧ next = ⟨Function.update state.anchors (hash data) (some now)⟩ := by
  unfold deploy_
  cases free : state.anchors (hash data) <;> simp [free, Except.pure_eq_ok, @eq_comm _ next]

/-- A `deploy` writes the current block under the hash of its data if that is free, and
changes nothing else. -/
theorem apply_deploy_anchors (chain : Chain Hash) (data : List UInt8) (key : Hash) :
    (chain.apply hash (.deploy data)).state.anchors key =
      (chain.state.anchors key).or (if hash data = key then some chain.blockNumber else none) := by
  cases free : chain.state.anchors (hash data) with
  | none =>
      have ran : deploy_ hash chain.blockNumber data chain.state =
          .ok ⟨Function.update chain.state.anchors (hash data) (some chain.blockNumber)⟩ :=
        deploy_eq_ok.mpr ⟨free, rfl⟩
      by_cases same : hash data = key
      · subst same
        simp [Chain.apply, ran, Except.toOption, free]
      · simp [Chain.apply, ran, Except.toOption, same, Function.update_of_ne (Ne.symm same)]
  | some taken =>
      -- the hash is taken: the call fails and `Anchors` stays
      have failed : deploy_ hash chain.blockNumber data chain.state = .error .anchorExists := by
        simp only [deploy_, free, Option.isNone_some]
        rfl
      by_cases same : hash data = key
      · subst same
        simp [Chain.apply, failed, Except.toOption, free]
      · simp [Chain.apply, failed, Except.toOption, same]

/-- Along any run, from any chain, the anchor under a hash is the one it had, or else the
block at which data with that hash is first deployed: an anchor is never changed, and
records its first publication. -/
theorem anchors_first_deployment (chain : Chain Hash) (events : List Event) (key : Hash) :
    (Lib.run (Chain.apply hash) chain events).state.anchors key =
      (chain.state.anchors key).or (firstDeployed hash key chain.blockNumber events) := by
  -- induction on the run, from any chain: each event settles the hash or leaves it to the rest
  induction events generalizing chain with
  | nil => simp [firstDeployed]
  | cons event rest ih =>
      rw [run_cons, ih]
      cases event with
      | deploy data =>
          rw [apply_deploy_anchors]
          by_cases same : hash data = key
          · cases chain.state.anchors key <;> simp [firstDeployed, same, Chain.apply]
          · simp [firstDeployed, same, Chain.apply]
      | newBlock => simp [firstDeployed, Chain.apply]

end DockSubstrate.AnchorModule
