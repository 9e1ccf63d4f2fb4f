import Mathlib
import DockSubstrate.Accumulator.Pallet
import DockSubstrate.Lib.Allocation
import DockSubstrate.Lib.Runs

/-!
# Runs of the accumulator pallet beside the DID pallet

The runtime interleaves the extrinsics of its pallets and moves from block to block.  A
`Chain` holds the storage of the DID pallet, whose nonces sign every accumulator call, the
accumulator pallet's storage and the block number.  `Chain.apply` runs one event: a DID
call, an accumulator call at the current block, or a new block.  A call that fails leaves
the chain as it was, as a failed extrinsic's storage changes are rolled back.

Over every run:

* an owner that signs none of the run's accumulator calls keeps its counters, its
  parameters and keys and the accumulators it owns (`State.entriesOf`);
* every accumulator was created no later than its last update, and that is no later than
  the current block (`State.UpdatedBy`);
* while no owner's counter reaches `u32::MAX`, parameters and keys sit under identifiers
  from `1` to their owner's counter (`State.IdsFresh`), so the identifier `add_params` and
  `add_public_key` store under is always free.
-/

namespace DockSubstrate.AccumulatorModule

open DockSubstrate.Lib DockSubstrate.Common DockSubstrate.DidModule

variable {limits : Limits}

variable (limits) in
/-- The storage of the two pallets and the current block. -/
structure Chain where
  did : DidModule.State
  accumulator : State limits
  blockNumber : Nat

variable (limits) in
/-- What can happen on the chain. -/
inductive Event where
  | did (call : DidModule.Call)
  | accumulator (call : Call limits)
  | newBlock

/-- The chain at genesis: the DID pallet's genesis, an empty accumulator pallet, block `0`. -/
def Chain.genesis (config : List (Did × DidKey)) : Chain limits :=
  ⟨DidModule.genesis config, .empty, 0⟩

section Apply

variable (crypto : SignatureVerification StateChange) (backend : Backend)
  (encode : AccumulatorStateChange limits → StateChange)

/-- One event; a call that fails changes nothing. -/
def Chain.apply (chain : Chain limits) : Event limits → Chain limits
  | .did call => (DidModule.dispatch crypto backend call chain.did).toOption.elim chain fun did => { chain with did }
  | .accumulator call =>
      (dispatch crypto encode chain.blockNumber call chain.did chain.accumulator).toOption.elim chain
        fun result => { chain with did := result.1, accumulator := result.2 }
  | .newBlock => { chain with blockNumber := chain.blockNumber + 1 }

/-- The chain after a run of events. -/
def Chain.run (chain : Chain limits) (events : List (Event limits)) : Chain limits :=
  Lib.run (Chain.apply crypto backend encode) chain events

end Apply

section Frame

variable {crypto : SignatureVerification StateChange} {backend : Backend}
  {encode : AccumulatorStateChange limits → StateChange}
  {chain : Chain limits}

@[simp]
theorem Chain.apply_did_accumulator {call : DidModule.Call} :
    (chain.apply crypto backend encode (.did call)).accumulator = chain.accumulator := by
  cases done : DidModule.dispatch crypto backend call chain.did <;> simp [Chain.apply, done, Except.toOption]

@[simp]
theorem Chain.apply_did_blockNumber {call : DidModule.Call} :
    (chain.apply crypto backend encode (.did call)).blockNumber = chain.blockNumber := by
  cases done : DidModule.dispatch crypto backend call chain.did <;> simp [Chain.apply, done, Except.toOption]

@[simp]
theorem Chain.apply_accumulator_blockNumber {call : Call limits} :
    (chain.apply crypto backend encode (.accumulator call)).blockNumber = chain.blockNumber := by
  cases done : dispatch crypto encode chain.blockNumber call chain.did chain.accumulator <;>
    simp [Chain.apply, done, Except.toOption]

@[simp]
theorem Chain.apply_newBlock : chain.apply crypto backend encode .newBlock = { chain with blockNumber := chain.blockNumber + 1 } :=
  rfl

/-- An accumulator call either fails and changes nothing, or is one successful dispatch at
the current block. -/
theorem Chain.apply_accumulator_cases {call : Call limits} :
    (chain.apply crypto backend encode (.accumulator call)).accumulator = chain.accumulator ∨
      ∃ did, dispatch crypto encode chain.blockNumber call chain.did chain.accumulator =
        .ok (did, (chain.apply crypto backend encode (.accumulator call)).accumulator) := by
  cases done : dispatch crypto encode chain.blockNumber call chain.did chain.accumulator with
  | error => left; simp [Chain.apply, done, Except.toOption]
  | ok result => right; exact ⟨result.1, by simp [Chain.apply, done, Except.toOption]⟩

/-- A property of the accumulator storage and the block that each successful accumulator
call keeps, and a new block keeps, holds after every event. -/
theorem Chain.apply_keeps {P : State limits → Nat → Prop} (event : Event limits)
    (calls : ∀ call did' state', dispatch crypto encode chain.blockNumber call chain.did chain.accumulator =
      .ok (did', state') → event = .accumulator call → P chain.accumulator chain.blockNumber →
        P state' chain.blockNumber)
    (newBlock : P chain.accumulator chain.blockNumber → P chain.accumulator (chain.blockNumber + 1))
    (holds : P chain.accumulator chain.blockNumber) :
    P (chain.apply crypto backend encode event).accumulator (chain.apply crypto backend encode event).blockNumber := by
  cases event with
  | did call => simpa using holds
  | accumulator call =>
      rw [Chain.apply_accumulator_blockNumber]
      rcases @Chain.apply_accumulator_cases limits crypto backend encode chain call with unchanged | ⟨did', done⟩
      · rw [unchanged]
        exact holds
      · exact calls call did' _ done rfl holds
  | newBlock => exact newBlock holds

end Frame

/-! ## What one owner holds -/

variable (limits) in
/-- What the pallet keeps for one owner: its counters, its parameters and keys, and the
accumulators it owns. -/
structure OwnerEntries where
  counters : StoredAccumulatorOwnerCounters
  params : Nat → Option (AccumulatorParameters limits)
  keys : Nat → Option (AccumulatorPublicKey limits)
  accumulators : AccumulatorId → Option (AccumulatorWithUpdateInfo limits)

namespace State

/-- The entries of one owner. -/
def entriesOf (state : State limits) (owner : AccumulatorOwner) : OwnerEntries limits where
  counters := state.accumulatorOwnerCounters owner
  params := state.accumulatorParams owner
  keys := state.accumulatorKeys owner
  accumulators id := (state.accumulators id).filter fun stored => stored.accumulator.ownerDid == owner

variable {state : State limits} {owner writer : AccumulatorOwner}

theorem entriesOf_writeCounters (differs : owner ≠ writer) (counters : Option StoredAccumulatorOwnerCounters) :
    (state.writeCounters writer counters).entriesOf owner = state.entriesOf owner := by
  simp only [entriesOf, writeCounters, Function.update_of_ne differs]

theorem entriesOf_writeParams {key : AccumParametersStorageKey} (differs : owner ≠ key.owner)
    (params : Option (AccumulatorParameters limits)) :
    (state.writeParams key params).entriesOf owner = state.entriesOf owner := by
  simp only [entriesOf, writeParams, update₂_of_ne differs]

theorem entriesOf_writeKey {key : AccumPublicKeyStorageKey} (differs : owner ≠ key.owner)
    (publicKey : Option (AccumulatorPublicKey limits)) :
    (state.writeKey key publicKey).entriesOf owner = state.entriesOf owner := by
  simp only [entriesOf, writeKey, update₂_of_ne differs]

/-- An accumulator another owner holds, before and after the write, is none of the owner's. -/
theorem entriesOf_writeAccumulator {id : AccumulatorId} {accumulator : Option (AccumulatorWithUpdateInfo limits)}
    (before : ∀ stored, state.accumulators id = some stored → stored.accumulator.ownerDid ≠ owner)
    (after : ∀ stored, accumulator = some stored → stored.accumulator.ownerDid ≠ owner) :
    (state.writeAccumulator id accumulator).entriesOf owner = state.entriesOf owner := by
  simp only [entriesOf, writeAccumulator, OwnerEntries.mk.injEq, true_and]
  funext other
  by_cases same : other = id
  · subst same
    have notOwned : ∀ stored, (stored : AccumulatorWithUpdateInfo limits).accumulator.ownerDid ≠ owner →
        (stored.accumulator.ownerDid == owner) = false := fun stored differs => by simpa using differs
    rw [Function.update_self, Option.filter_eq_none_iff.mpr fun stored found => by simp [notOwned stored (after stored found)],
      Option.filter_eq_none_iff.mpr fun stored found => by simp [notOwned stored (before stored found)]]
  · rw [Function.update_of_ne same]

end State

section Isolation

variable {crypto : SignatureVerification StateChange} {backend : Backend}
  {encode : AccumulatorStateChange limits → StateChange}
  {now : Nat} {did did' : DidModule.State} {state state' : State limits}

/-- A call changes no entry of an owner other than its signer. -/
theorem dispatch_entriesOf {call : Call limits} (done : dispatch crypto encode now call did state = .ok (did', state'))
    {owner : AccumulatorOwner} (other : owner ≠ ⟨call.signer⟩) : state'.entriesOf owner = state.entriesOf owner := by
  cases call with
  | addParams action signature =>
      have other : owner ≠ ⟨signature.signer⟩ := other
      have written := dispatch_addParams done
      simp only at written
      rw [written, State.entriesOf_writeCounters other]
      show (state.writeParams ⟨⟨signature.signer⟩, _⟩ (some action.params)).entriesOf owner = _
      exact State.entriesOf_writeParams other _
  | addPublicKey action signature =>
      have other : owner ≠ ⟨signature.signer⟩ := other
      have written := (dispatch_addPublicKey done).2
      simp only at written
      rw [written, State.entriesOf_writeCounters other]
      show (state.writeKey ⟨⟨signature.signer⟩, _⟩ (some action.publicKey)).entriesOf owner = _
      exact State.entriesOf_writeKey other _
  | removeParams action signature =>
      obtain ⟨owned, -, rfl⟩ := dispatch_removeParams done
      exact State.entriesOf_writeParams (owned ▸ other) none
  | removePublicKey action signature =>
      obtain ⟨owned, -, rfl⟩ := dispatch_removePublicKey done
      exact State.entriesOf_writeKey (owned ▸ other) none
  | addAccumulator action signature =>
      obtain ⟨owned, -, free, rfl⟩ := dispatch_addAccumulator done
      refine State.entriesOf_writeAccumulator (fun stored found => by simp [free] at found) ?_
      rintro stored ⟨⟩
      rw [AccumulatorWithUpdateInfo.new, Accumulator.ownerDid_eq_keyRef_owner, owned]
      exact other.symm
  | updateAccumulator action signature =>
      obtain ⟨stored, updated, found, owned, set, rfl⟩ := dispatch_updateAccumulator done
      refine State.entriesOf_writeAccumulator (fun before same => ?_) ?_
      · rw [found, Option.some.injEq] at same
        exact same ▸ owned ▸ other.symm
      · rintro after ⟨⟩
        rw [Accumulator.ownerDid_eq_keyRef_owner, Accumulator.keyRef_of_setNewAccumulated set,
          ← Accumulator.ownerDid_eq_keyRef_owner, owned]
        exact other.symm
  | removeAccumulator action signature =>
      obtain ⟨stored, found, owned, rfl⟩ := dispatch_removeAccumulator done
      refine State.entriesOf_writeAccumulator (fun before same => ?_) (fun _ gone => by cases gone)
      rw [found, Option.some.injEq] at same
      exact same ▸ owned ▸ other.symm

/-- An event an owner does not sign changes none of its entries. -/
theorem Chain.apply_entriesOf {chain : Chain limits} {event : Event limits} {owner : AccumulatorOwner}
    (unsigned : ∀ call, event = .accumulator call → owner ≠ ⟨call.signer⟩) :
    (chain.apply crypto backend encode event).accumulator.entriesOf owner = chain.accumulator.entriesOf owner :=
  @Chain.apply_keeps limits crypto backend encode chain (fun state _ => state.entriesOf owner = chain.accumulator.entriesOf owner)
    event (fun call _ _ done named _ => dispatch_entriesOf done (unsigned call named)) id rfl

/-- Along any interleaving of DID calls, accumulator calls and new blocks, from any chain, an
owner that signs none of the accumulator calls keeps its counters, its parameters and keys
and the accumulators it owns. -/
theorem run_keeps_entries_of_unsigned_owner (chain : Chain limits) (events : List (Event limits))
    (owner : AccumulatorOwner) (unsigned : ∀ call, Event.accumulator call ∈ events → owner ≠ ⟨call.signer⟩) :
    (chain.run crypto backend encode events).accumulator.entriesOf owner = chain.accumulator.entriesOf owner :=
  @Lib.run_invariant (Chain limits) (Event limits) (Chain.apply crypto backend encode)
    (fun current => current.accumulator.entriesOf owner = chain.accumulator.entriesOf owner) events
    (fun _ _ mem same => (Chain.apply_entriesOf fun call named => unsigned call (named ▸ mem)).trans same) chain rfl

theorem run_keeps_entries_of_unsigned_owner_addParams :
    (∀ call : Call ⟨0, 0, 0, 0⟩, Event.accumulator call ∈ [Event.accumulator (.addParams ⟨⟨none, .bls12381, ⟨[], Nat.zero_le _⟩⟩, 1⟩
        (.didSignature ⟨⟨0⟩, 1, .sr25519 0⟩))] → (⟨.did ⟨1⟩⟩ : AccumulatorOwner) ≠ ⟨call.signer⟩) ∧
      ((Chain.genesis [(⟨0⟩, controlKey 0)] : Chain ⟨0, 0, 0, 0⟩).run acceptAll .byEncoding (fun _ => .masterVote [] 0 0)
          [.accumulator (.addParams ⟨⟨none, .bls12381, ⟨[], Nat.zero_le _⟩⟩, 1⟩ (.didSignature ⟨⟨0⟩, 1, .sr25519 0⟩))]
        ).accumulator.entriesOf ⟨.did ⟨1⟩⟩ =
        (Chain.genesis [(⟨0⟩, controlKey 0)] : Chain ⟨0, 0, 0, 0⟩).accumulator.entriesOf ⟨.did ⟨1⟩⟩ := by
  have unsigned : ∀ call : Call ⟨0, 0, 0, 0⟩, Event.accumulator call ∈ [Event.accumulator (.addParams
      ⟨⟨none, .bls12381, ⟨[], Nat.zero_le _⟩⟩, 1⟩ (.didSignature ⟨⟨0⟩, 1, .sr25519 0⟩))] →
        (⟨.did ⟨1⟩⟩ : AccumulatorOwner) ≠ ⟨call.signer⟩ := by
    intro call mem
    simp only [List.mem_singleton, Event.accumulator.injEq] at mem
    subst mem
    decide
  exact ⟨unsigned, run_keeps_entries_of_unsigned_owner _ _ _ unsigned⟩

end Isolation

/-! ## Blocks of creation and update -/

namespace State

variable {state : State limits} {now : Nat}

/-- Every accumulator was created no later than its last update, and updated no later than
`now`. -/
def UpdatedBy (state : State limits) (now : Nat) : Prop :=
  ∀ id stored, state.accumulators id = some stored → stored.createdAt ≤ stored.lastUpdatedAt ∧ stored.lastUpdatedAt ≤ now

theorem UpdatedBy.mono (updated : state.UpdatedBy now) {later : Nat} (le : now ≤ later) : state.UpdatedBy later :=
  fun id stored found => ⟨(updated id stored found).1, (updated id stored found).2.trans le⟩

theorem UpdatedBy.writeAccumulator (updated : state.UpdatedBy now) {id : AccumulatorId}
    {accumulator : Option (AccumulatorWithUpdateInfo limits)}
    (written : ∀ stored, accumulator = some stored → stored.createdAt ≤ stored.lastUpdatedAt ∧ stored.lastUpdatedAt ≤ now) :
    (state.writeAccumulator id accumulator).UpdatedBy now := by
  intro other stored found
  dsimp only [State.writeAccumulator] at found
  by_cases same : other = id
  · rw [same, Function.update_self] at found
    exact written stored found
  · rw [Function.update_of_ne same] at found
    exact updated other stored found

end State

section Timestamps

variable {crypto : SignatureVerification StateChange} {backend : Backend}
  {encode : AccumulatorStateChange limits → StateChange}
  {now : Nat} {did did' : DidModule.State} {state state' : State limits}

/-- A call at block `now` keeps every accumulator's blocks ordered and no later than `now`. -/
theorem dispatch_updatedBy {call : Call limits} (updated : state.UpdatedBy now)
    (done : dispatch crypto encode now call did state = .ok (did', state')) : state'.UpdatedBy now := by
  cases call with
  | addParams action signature =>
      have written := dispatch_addParams done
      simp only at written
      rw [written]
      exact updated
  | addPublicKey action signature =>
      have written := (dispatch_addPublicKey done).2
      simp only at written
      rw [written]
      exact updated
  | removeParams action signature =>
      obtain ⟨-, -, rfl⟩ := dispatch_removeParams done
      exact updated
  | removePublicKey action signature =>
      obtain ⟨-, -, rfl⟩ := dispatch_removePublicKey done
      exact updated
  | addAccumulator action signature =>
      obtain ⟨-, -, -, rfl⟩ := dispatch_addAccumulator done
      refine updated.writeAccumulator ?_
      rintro stored ⟨⟩
      exact ⟨le_rfl, le_rfl⟩
  | updateAccumulator action signature =>
      obtain ⟨stored, accumulator, found, -, -, rfl⟩ := dispatch_updateAccumulator done
      refine updated.writeAccumulator ?_
      rintro _ ⟨⟩
      have before := updated action.id stored found
      exact ⟨before.1.trans before.2, le_rfl⟩
  | removeAccumulator action signature =>
      obtain ⟨-, -, -, rfl⟩ := dispatch_removeAccumulator done
      exact updated.writeAccumulator fun _ gone => by cases gone

/-- The blocks of every accumulator are ordered and no later than the chain's. -/
def Chain.Timestamped (chain : Chain limits) : Prop :=
  chain.accumulator.UpdatedBy chain.blockNumber

theorem Chain.apply_timestamped {chain : Chain limits} (event : Event limits) (timestamped : chain.Timestamped) :
    (chain.apply crypto backend encode event).Timestamped :=
  Chain.apply_keeps event (fun _ _ _ done _ updated => dispatch_updatedBy updated done)
    (fun updated => updated.mono (Nat.le_succ _)) timestamped

theorem Chain.run_timestamped {chain : Chain limits} (events : List (Event limits)) (timestamped : chain.Timestamped) :
    (chain.run crypto backend encode events).Timestamped :=
  Lib.run_invariant (fun _ event _ holds => Chain.apply_timestamped event holds) timestamped

theorem Chain.genesis_timestamped (config : List (Did × DidKey)) : (Chain.genesis config : Chain limits).Timestamped :=
  fun _ _ found => by cases found

/-- Along every run from genesis, every stored accumulator was created no later than its
last update, and that is no later than the current block. -/
theorem accumulator_blocks_ordered (config : List (Did × DidKey)) (events : List (Event limits)) {id : AccumulatorId}
    {stored : AccumulatorWithUpdateInfo limits}
    (found : ((Chain.genesis config).run crypto backend encode events).accumulator.accumulators id = some stored) :
    stored.createdAt ≤ stored.lastUpdatedAt ∧
      stored.lastUpdatedAt ≤ ((Chain.genesis config).run crypto backend encode events).blockNumber :=
  Chain.run_timestamped events (Chain.genesis_timestamped config) id stored found

theorem accumulator_blocks_ordered_added :
    ((Chain.genesis [(⟨0⟩, controlKey 0)] : Chain ⟨0, 0, 0, 0⟩).run acceptAll .byEncoding (fun _ => .masterVote [] 0 0)
        [.newBlock, .accumulator (.addAccumulator ⟨⟨0⟩, .positive ⟨⟨[], Nat.zero_le _⟩, ⟨⟨.did ⟨0⟩⟩, 0⟩⟩, 1⟩
          (.didSignature ⟨⟨0⟩, 1, .sr25519 0⟩))]).accumulator.accumulators ⟨0⟩ =
        some ⟨1, 1, .positive ⟨⟨[], Nat.zero_le _⟩, ⟨⟨.did ⟨0⟩⟩, 0⟩⟩⟩ ∧
      1 ≤ 1 ∧ 1 ≤ ((Chain.genesis [(⟨0⟩, controlKey 0)] : Chain ⟨0, 0, 0, 0⟩).run acceptAll .byEncoding
        (fun _ => .masterVote [] 0 0) [.newBlock, .accumulator (.addAccumulator
          ⟨⟨0⟩, .positive ⟨⟨[], Nat.zero_le _⟩, ⟨⟨.did ⟨0⟩⟩, 0⟩⟩, 1⟩ (.didSignature ⟨⟨0⟩, 1, .sr25519 0⟩))]).blockNumber := by
  have found : ((Chain.genesis [(⟨0⟩, controlKey 0)] : Chain ⟨0, 0, 0, 0⟩).run acceptAll .byEncoding (fun _ => .masterVote [] 0 0)
      [.newBlock, .accumulator (.addAccumulator ⟨⟨0⟩, .positive ⟨⟨[], Nat.zero_le _⟩, ⟨⟨.did ⟨0⟩⟩, 0⟩⟩, 1⟩
        (.didSignature ⟨⟨0⟩, 1, .sr25519 0⟩))]).accumulator.accumulators ⟨0⟩ =
      some ⟨1, 1, .positive ⟨⟨[], Nat.zero_le _⟩, ⟨⟨.did ⟨0⟩⟩, 0⟩⟩⟩ := rfl
  exact ⟨found, accumulator_blocks_ordered _ _ found⟩

end Timestamps

/-! ## Identifiers of parameters and keys -/

/-- An owner's parameters and keys sit under identifiers from `1` to its counters. -/
def OwnerEntries.IdsFresh (entries : OwnerEntries limits) : Prop :=
  IdsBelow entries.params entries.counters.paramsCounter ∧ IdsBelow entries.keys entries.counters.keyCounter

/-- Every owner's parameters and keys sit under identifiers from `1` to its counters. -/
def State.IdsFresh (state : State limits) : Prop :=
  ∀ owner, (state.entriesOf owner).IdsFresh

/-- A call that finds room in its counter: `add_params` and `add_public_key` need their
signer's counter below `u32::MAX`, where `+= 1` wraps around. -/
def Call.Fits (state : State limits) : Call limits → Prop
  | .addParams _ signature => (state.accumulatorOwnerCounters ⟨signature.signer⟩).paramsCounter < u32Max
  | .addPublicKey _ signature => (state.accumulatorOwnerCounters ⟨signature.signer⟩).keyCounter < u32Max
  | _ => True

/-- An event that fits the chain it meets. -/
def Event.Fits (chain : Chain limits) : Event limits → Prop
  | .accumulator call => call.Fits chain.accumulator
  | _ => True

section FreshIds

variable {crypto : SignatureVerification StateChange} {backend : Backend}
  {encode : AccumulatorStateChange limits → StateChange}
  {now : Nat} {did did' : DidModule.State} {state state' : State limits}

/-- A call keeps the identifiers of every owner fresh once it keeps its signer's. -/
theorem State.IdsFresh.of_signer {call : Call limits} (fresh : state.IdsFresh)
    (done : dispatch crypto encode now call did state = .ok (did', state'))
    (signer : (state'.entriesOf ⟨call.signer⟩).IdsFresh) : state'.IdsFresh := by
  intro owner
  by_cases other : owner = ⟨call.signer⟩
  · rw [other]
    exact signer
  · rw [dispatch_entriesOf done other]
    exact fresh owner

/-- A call that fits keeps the identifiers fresh: the counter it moves does not wrap around,
so the parameters or key go under the identifier after it, and a removal only takes. -/
theorem dispatch_idsFresh {call : Call limits} (fresh : state.IdsFresh) (fits : call.Fits state)
    (done : dispatch crypto encode now call did state = .ok (did', state')) : state'.IdsFresh := by
  refine fresh.of_signer done ?_
  cases call with
  | addParams action signature =>
      have written := dispatch_addParams done
      simp only at written
      subst written
      have room : (state.accumulatorOwnerCounters ⟨signature.signer⟩).paramsCounter < u32Max := fits
      simp only [OwnerEntries.IdsFresh, State.entriesOf, State.writeCounters, Call.signer, Function.update_self,
        Option.getD_some, update₂_same, wrappingInc_of_lt room]
      exact ⟨(fresh _).1.store_next _, (fresh _).2⟩
  | addPublicKey action signature =>
      have written := (dispatch_addPublicKey done).2
      simp only at written
      subst written
      have room : (state.accumulatorOwnerCounters ⟨signature.signer⟩).keyCounter < u32Max := fits
      simp only [OwnerEntries.IdsFresh, State.entriesOf, State.writeCounters, Call.signer, Function.update_self,
        Option.getD_some, update₂_same, wrappingInc_of_lt room]
      exact ⟨(fresh _).1, (fresh _).2.store_next _⟩
  | removeParams action signature =>
      obtain ⟨owned, -, rfl⟩ := dispatch_removeParams done
      simp only [Call.signer, ← owned, OwnerEntries.IdsFresh, State.entriesOf, State.writeParams, update₂_same]
      exact ⟨(fresh _).1.erase _, (fresh _).2⟩
  | removePublicKey action signature =>
      obtain ⟨owned, -, rfl⟩ := dispatch_removePublicKey done
      simp only [Call.signer, ← owned, OwnerEntries.IdsFresh, State.entriesOf, State.writeKey, update₂_same]
      exact ⟨(fresh _).1, (fresh _).2.erase _⟩
  | addAccumulator action signature =>
      obtain ⟨-, -, -, rfl⟩ := dispatch_addAccumulator done
      exact fresh _
  | updateAccumulator action signature =>
      obtain ⟨-, -, -, -, -, rfl⟩ := dispatch_updateAccumulator done
      exact fresh _
  | removeAccumulator action signature =>
      obtain ⟨-, -, -, rfl⟩ := dispatch_removeAccumulator done
      exact fresh _

theorem Chain.apply_idsFresh {chain : Chain limits} {event : Event limits} (fits : event.Fits chain)
    (fresh : chain.accumulator.IdsFresh) : (chain.apply crypto backend encode event).accumulator.IdsFresh :=
  @Chain.apply_keeps limits crypto backend encode chain (fun state _ => state.IdsFresh) event
    (fun call _ _ done named holds => dispatch_idsFresh holds (by subst named; exact fits) done) id fresh

theorem Chain.run_idsFresh {chain : Chain limits} {events : List (Event limits)}
    (fitting : FitsAlong (Chain.apply crypto backend encode) Event.Fits chain events) (fresh : chain.accumulator.IdsFresh) :
    (chain.run crypto backend encode events).accumulator.IdsFresh :=
  @Lib.run_invariant_of_fits (Chain limits) (Event limits) (Chain.apply crypto backend encode)
    (fun current => current.accumulator.IdsFresh) Event.Fits (fun _ _ fits holds => Chain.apply_idsFresh fits holds)
    chain events fitting fresh

theorem State.empty_idsFresh : (State.empty : State limits).IdsFresh :=
  fun _ => ⟨IdsBelow.of_none 0, IdsBelow.of_none 0⟩

/-- Along every run from genesis in which `add_params` and `add_public_key` find their
signer's counter below `u32::MAX`, every owner's parameters and keys sit under identifiers
from `1` to its counters: the identifier after a counter, where the next ones go, is free. -/
theorem params_and_keys_below_counters (config : List (Did × DidKey)) (events : List (Event limits))
    (fitting : FitsAlong (Chain.apply crypto backend encode) Event.Fits (Chain.genesis config) events) (owner : AccumulatorOwner) :
    IdsBelow (((Chain.genesis config).run crypto backend encode events).accumulator.accumulatorParams owner)
        (((Chain.genesis config).run crypto backend encode events).accumulator.accumulatorOwnerCounters owner).paramsCounter ∧
      IdsBelow (((Chain.genesis config).run crypto backend encode events).accumulator.accumulatorKeys owner)
        (((Chain.genesis config).run crypto backend encode events).accumulator.accumulatorOwnerCounters owner).keyCounter :=
  Chain.run_idsFresh fitting State.empty_idsFresh owner

theorem params_and_keys_below_counters_addParams :
    ∃ chain : Chain ⟨0, 0, 0, 0⟩, (Chain.genesis [(⟨0⟩, controlKey 0)]).run acceptAll .byEncoding (fun _ => .masterVote [] 0 0)
        [.accumulator (.addParams ⟨⟨none, .bls12381, ⟨[], Nat.zero_le _⟩⟩, 1⟩ (.didSignature ⟨⟨0⟩, 1, .sr25519 0⟩))] =
          chain ∧
      (chain.accumulator.accumulatorParams ⟨.did ⟨0⟩⟩ 1).isSome ∧
      IdsBelow (chain.accumulator.accumulatorParams ⟨.did ⟨0⟩⟩)
        (chain.accumulator.accumulatorOwnerCounters ⟨.did ⟨0⟩⟩).paramsCounter ∧
      IdsBelow (chain.accumulator.accumulatorKeys ⟨.did ⟨0⟩⟩)
        (chain.accumulator.accumulatorOwnerCounters ⟨.did ⟨0⟩⟩).keyCounter := by
  have room : (0 : Nat) < u32Max := by decide
  have fitting : FitsAlong (Chain.apply acceptAll .byEncoding fun _ => .masterVote [] 0 0) Event.Fits
      (Chain.genesis [(⟨0⟩, controlKey 0)] : Chain ⟨0, 0, 0, 0⟩)
      [.accumulator (.addParams ⟨⟨none, .bls12381, ⟨[], Nat.zero_le _⟩⟩, 1⟩ (.didSignature ⟨⟨0⟩, 1, .sr25519 0⟩))] :=
    .cons room (.nil _)
  exact ⟨_, rfl, rfl, params_and_keys_below_counters _ _ fitting ⟨.did ⟨0⟩⟩⟩

end FreshIds

end DockSubstrate.AccumulatorModule
