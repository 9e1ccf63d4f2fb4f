import DockSubstrate.Lib.SortedMap
import DockSubstrate.Lib.BoundedMap
import DockSubstrate.Lib.MergeJoin
import DockSubstrate.Lib.MachineInt
import DockSubstrate.Lib.Except
import DockSubstrate.Lib.DoubleMap
import DockSubstrate.Lib.LimitedClear
import DockSubstrate.Util.KeyValue
import DockSubstrate.Util.BatchUpdate.Basic
import DockSubstrate.Util.BatchUpdate.Combinators
import DockSubstrate.Util.BatchUpdate.MultiTarget
import DockSubstrate.Util.BatchUpdate.Laws
import DockSubstrate.Util.BatchUpdate.Diff
import DockSubstrate.Util.BatchUpdate.Counter
import DockSubstrate.Util.BatchUpdate.Loops
import DockSubstrate.Lib.Counting
import DockSubstrate.Util.Action
import DockSubstrate.Common.SignedAction
import DockSubstrate.Did.Base
import DockSubstrate.TrustRegistry.Types
import DockSubstrate.TrustRegistry.UpdateRules
import DockSubstrate.TrustRegistry.Storage
import DockSubstrate.TrustRegistry.Update
import DockSubstrate.TrustRegistry.Impl
import DockSubstrate.TrustRegistry.Pallet
import DockSubstrate.TrustRegistry.Index
import DockSubstrate.TrustRegistry.Execute
import DockSubstrate.TrustRegistry.Record
import DockSubstrate.TrustRegistry.Validate
import DockSubstrate.TrustRegistry.Consistency
import DockSubstrate.TrustRegistry.ValidationGaps
import DockSubstrate.TrustRegistry.Authority
import DockSubstrate.TrustRegistry.Participants
import DockSubstrate.Did.Types
import DockSubstrate.Did.Pallet
import DockSubstrate.Did.Execution
import DockSubstrate.Did.Runs
import DockSubstrate.Did.Invariants
import DockSubstrate.Lib.Allocation
import DockSubstrate.Did.Counters
import DockSubstrate.Common.SignedActionWithNonce
import DockSubstrate.Revoke.Pallet
import DockSubstrate.Revoke.Permanence
import DockSubstrate.TokenMigration.Pallet
import DockSubstrate.TokenMigration.Runtime
import DockSubstrate.TokenMigration.VestingBonus
import DockSubstrate.TokenMigration.Bonuses
import DockSubstrate.TokenMigration.SwapBonus
import DockSubstrate.Lib.PerThing
import DockSubstrate.StakingRewards.Pallet
import DockSubstrate.StakingRewards.Emission
import DockSubstrate.Lib.KMerge
import DockSubstrate.Lib.KMergeOrder
import DockSubstrate.Util.Set
import DockSubstrate.TrustRegistry.Query
import DockSubstrate.Master.Pallet
import DockSubstrate.Master.Quorum
import DockSubstrate.Common.SignedExecution
import DockSubstrate.Accumulator.Pallet
import DockSubstrate.Lib.Runs
import DockSubstrate.Accumulator.Runs
import DockSubstrate.StatusListCredential.Pallet
import DockSubstrate.StatusListCredential.Runs
import DockSubstrate.Common.WithDid
import DockSubstrate.Blob.Pallet
import DockSubstrate.Attest.Pallet
import DockSubstrate.Revoke.Authority
import DockSubstrate.Anchor.Pallet
import DockSubstrate.OffchainSignatures.Params
import DockSubstrate.OffchainSignatures.Consistency
import DockSubstrate.Master.Runs
import DockSubstrate.Did.Authority
