import Mathlib

/-!
# DID identifiers

`did:dock:*` identifiers (`Did`, 32 raw bytes in the source, a number here), `did:key:*`
identifiers (`DidMethodKey`, an Ed25519 or Secp256k1 public key, a number per key type
here), and the sum of both (`DidOrDidMethodKey`), which is what every actor of the
pallets wraps.  The orders are the ones `derive(Ord)` gives the source's types: by
variant first, then by content, so that maps keyed by these types iterate as the
source's `BTreeMap`s do.  Equality is decided through the order, so that a map keyed by
one of these types sees one `DecidableEq` instance only.  Each type is encodable as
numbers, which stands for the order in which storage iterates keys of these types.
-/

namespace DockSubstrate

/-- `Did`: the raw bytes of an on-chain or off-chain DID. -/
structure Did where
  raw : Nat
  deriving Repr

instance : LinearOrder Did := LinearOrder.lift' Did.raw fun ⟨_⟩ ⟨_⟩ same => congrArg Did.mk same

instance : Encodable Did := Encodable.ofLeftInjection Did.raw (fun raw => some ⟨raw⟩) fun _ => rfl

/-- `DidMethodKey`: a `did:key` identifier, which is its own public key. -/
inductive DidMethodKey where
  | ed25519 (key : Nat)
  | secp256k1 (key : Nat)
  deriving Repr

/-- The derived order of `DidMethodKey`: variant, then key. -/
def DidMethodKey.rank : DidMethodKey → Nat ×ₗ Nat
  | ed25519 key => toLex (0, key)
  | secp256k1 key => toLex (1, key)

theorem DidMethodKey.rank_injective : Function.Injective DidMethodKey.rank := by
  intro first second same
  cases first <;> cases second <;> simp_all [rank]

instance : LinearOrder DidMethodKey := LinearOrder.lift' _ DidMethodKey.rank_injective

/-- A `DidMethodKey` as its key, tagged with its type. -/
def DidMethodKey.toSum : DidMethodKey → Nat ⊕ Nat
  | ed25519 key => .inl key
  | secp256k1 key => .inr key

/-- The `DidMethodKey` of a tagged key. -/
def DidMethodKey.ofSum : Nat ⊕ Nat → DidMethodKey
  | .inl key => ed25519 key
  | .inr key => secp256k1 key

instance : Encodable DidMethodKey :=
  Encodable.ofLeftInjection DidMethodKey.toSum (fun sum => some (DidMethodKey.ofSum sum)) fun key => by
    cases key <;> rfl

/-- `DidOrDidMethodKey`: either `did:dock:*` or `did:key:*`. -/
inductive DidOrDidMethodKey where
  | did (did : Did)
  | didMethodKey (key : DidMethodKey)
  deriving Repr

/-- The derived order of `DidOrDidMethodKey`: every `Did` before every `DidMethodKey`. -/
def DidOrDidMethodKey.rank : DidOrDidMethodKey → Lex (Did ⊕ DidMethodKey)
  | did value => toLex (.inl value)
  | didMethodKey key => toLex (.inr key)

theorem DidOrDidMethodKey.rank_injective : Function.Injective DidOrDidMethodKey.rank := by
  intro first second same
  cases first <;> cases second <;> simp_all [rank]

instance : LinearOrder DidOrDidMethodKey := LinearOrder.lift' _ DidOrDidMethodKey.rank_injective

/-- A `DidOrDidMethodKey` as the identifier it wraps. -/
def DidOrDidMethodKey.toSum : DidOrDidMethodKey → Did ⊕ DidMethodKey
  | did value => .inl value
  | didMethodKey key => .inr key

/-- The `DidOrDidMethodKey` wrapping an identifier. -/
def DidOrDidMethodKey.ofSum : Did ⊕ DidMethodKey → DidOrDidMethodKey
  | .inl value => did value
  | .inr key => didMethodKey key

instance : Encodable DidOrDidMethodKey :=
  Encodable.ofLeftInjection DidOrDidMethodKey.toSum (fun sum => some (DidOrDidMethodKey.ofSum sum)) fun id => by
    cases id <;> rfl

end DockSubstrate
