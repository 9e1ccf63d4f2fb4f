import DockSubstrate.Lib.PerThing
import DockSubstrate.Lib.MachineInt

/-!
# Staking rewards

The staking rewards pallet (`pallets/staking-rewards`) pays the rewards of each era out of a
remaining emission supply, `StakingEmissionSupply`.  The staking pallet calls `era_payout` at
the end of an era: when emissions are enabled, the reward for the year is a fraction of the
supply (the decay percentage, scaled by how the staking rate stands on the reward curve), the
reward for the era is the era's fraction of a year of it, and the supply goes down by that
reward, which is split between the validators and the treasury.  For a number of eras after
an upgrade, high-rate rewards decay the supply faster and give the treasury nothing;
`HighRateRewardsState` is the state machine that counts those eras.

The reward curve (`PiecewiseLinear`) is left abstract: its maximum and its value for a
staking rate.
-/

namespace DockSubstrate.StakingRewards

open DockSubstrate.Lib

/-- `MILLISECONDS_PER_YEAR`: a Julian year of 365.25 days. -/
def millisecondsPerYear : Nat := 1000 * 3600 * 24 * 36525 / 100

/-- `DurationInEras`: a number of eras, a `NonZeroU16`. -/
structure DurationInEras where
  count : Nat
  pos : 0 < count
  le_max : count ≤ u16Max
  deriving Repr

/-- Durations are equal when their counts are: the bounds are proofs. -/
instance : DecidableEq DurationInEras := fun duration other =>
  decidable_of_iff (duration.count = other.count)
    ⟨fun same => by cases duration; cases other; cases same; rfl, congrArg DurationInEras.count⟩

namespace DurationInEras

/-- `NonZeroU16::new` on a `u16`. -/
def new (count : Nat) : Option DurationInEras :=
  if bounds : 0 < count ∧ count ≤ u16Max then some ⟨count, bounds.1, bounds.2⟩ else none

/-- `saturating_add` of two durations, at most `u16::MAX`. -/
def saturatingAdd (duration increment : DurationInEras) : DurationInEras :=
  ⟨min (duration.count + increment.count) u16Max,
    Nat.lt_min.mpr ⟨Nat.add_pos_left duration.pos _, by decide⟩, Nat.min_le_right _ _⟩

end DurationInEras

/-- `HighRateRewardsState`. -/
inductive HighRateRewardsState where
  | none
  | startingInNextEra (duration : DurationInEras)
  | active (endsAfter : DurationInEras)
  deriving DecidableEq, Repr

namespace HighRateRewardsState

/-- `try_next`: a start becomes active, an active state counts one era down and ends after
its last; `Err` when there is nothing to count. -/
def tryNext : HighRateRewardsState → Except HighRateRewardsState HighRateRewardsState
  | startingInNextEra duration => .ok (active duration)
  | active endsAfter =>
      .ok (match (checkedSub endsAfter.count 1).bind DurationInEras.new with
        | some endsAfter => active endsAfter
        | Option.none => HighRateRewardsState.none)
  | HighRateRewardsState.none => .error HighRateRewardsState.none

/-- `inc_duration_or_init`: the duration grows by the increment, saturating at `u16::MAX`;
from `None`, high-rate rewards start in the next era. -/
def incDurationOrInit (increment : DurationInEras) : HighRateRewardsState → HighRateRewardsState
  | startingInNextEra duration => startingInNextEra (duration.saturatingAdd increment)
  | active endsAfter => active (endsAfter.saturatingAdd increment)
  | HighRateRewardsState.none => startingInNextEra increment

/-- `is_active`. -/
def isActive : HighRateRewardsState → Bool
  | active _ => true
  | _ => false

end HighRateRewardsState

/-- `PiecewiseLinear` as the pallet uses it: its `maximum`, and
`calculate_for_fraction_times_denominator`. -/
structure RewardCurve where
  maximum : Perbill
  calculateForFractionTimesDenominator : Nat → Nat → Nat

/-- The constants of the pallet's `Config`. -/
structure Config where
  postUpgradeHighRateDuration : Option DurationInEras
  lowRateRewardDecayPct : Percent
  highRateRewardDecayPct : Percent
  treasuryRewardsPct : Percent
  rewardCurve : RewardCurve

/-- The constants of the runtime, for a given reward curve: high-rate rewards for 162 eras after
the upgrade. -/
def runtimeConfig (rewardCurve : RewardCurve) : Config where
  postUpgradeHighRateDuration := DurationInEras.new 162
  lowRateRewardDecayPct := PerThing.fromPercent 25
  highRateRewardDecayPct := PerThing.fromPercent 50
  treasuryRewardsPct := PerThing.fromPercent 50
  rewardCurve

/-- `StakingEmissionSupply`, `StakingEmissionStatus` and `HighRateRewards`. -/
structure State where
  stakingEmissionSupply : Nat
  stakingEmissionStatus : Bool
  highRateRewards : HighRateRewardsState

/-- The origin of `set_emission_status`; the pallet does not read a signer. -/
inductive Origin where
  | root
  | signed
  deriving DecidableEq, Repr

/-- `BadOrigin`, the one error of the pallet's call. -/
inductive DispatchError where
  | badOrigin
  deriving DecidableEq, Repr

section Functions

variable (config : Config)

/-- `reward_decay_pct`. -/
def rewardDecayPct (state : State) : Percent :=
  if state.highRateRewards.isActive then config.highRateRewardDecayPct else config.lowRateRewardDecayPct

/-- `treasury_rewards_pct`: nothing while high-rate rewards are active. -/
def treasuryRewardsPct (state : State) : Percent :=
  if state.highRateRewards.isActive then PerThing.zero else config.treasuryRewardsPct

/-- `get_max_yearly_emission`. -/
def getMaxYearlyEmission (state : State) (emissionSupply : Nat) : Nat :=
  (rewardDecayPct config state).mul emissionSupply

/-- `get_yearly_emission_reward_as_per_npos_only`. -/
def getYearlyEmissionRewardAsPerNposOnly (rewardCurve : RewardCurve) (totalStaked totalIssuance : Nat) : Nat :=
  rewardCurve.calculateForFractionTimesDenominator totalStaked totalIssuance

/-- `get_yearly_emission_reward_prop_as_per_npos_only`. -/
def getYearlyEmissionRewardPropAsPerNposOnly (rewardCurve : RewardCurve) (totalStaked totalIssuance : Nat) :
    Perbill :=
  PerThing.fromRational (getYearlyEmissionRewardAsPerNposOnly rewardCurve totalStaked totalIssuance)
    (rewardCurve.maximum.mul totalIssuance)

/-- `get_yearly_emission_reward`. -/
def getYearlyEmissionReward (rewardCurve : RewardCurve) (totalStaked totalIssuance emissionSupply : Nat)
    (state : State) : Nat :=
  (getYearlyEmissionRewardPropAsPerNposOnly rewardCurve totalStaked totalIssuance).mul
    (getMaxYearlyEmission config state emissionSupply)

/-- `get_emission_reward_for_era_given_yearly`. -/
def getEmissionRewardForEraGivenYearly (eraDurationMillis yearlyRewards : Nat) : Nat :=
  (PerThing.fromRational eraDurationMillis millisecondsPerYear : Perbill).mul yearlyRewards

/-- `emission_reward_for_era`: the reward of the era and the supply that remains. -/
def emissionRewardForEra (rewardCurve : RewardCurve) (totalStaked totalIssuance eraDurationMillis : Nat)
    (state : State) : Nat × Nat :=
  let emissionSupply := state.stakingEmissionSupply
  if !state.stakingEmissionStatus then (0, emissionSupply)
  else
    let yearlyRewards := getYearlyEmissionReward config rewardCurve totalStaked totalIssuance emissionSupply state
    let emissionReward := getEmissionRewardForEraGivenYearly eraDurationMillis yearlyRewards
    (emissionReward, emissionSupply - emissionReward)

/-- `HighRateRewards::try_mutate(HighRateRewardsState::try_next)`: written only on `Ok`. -/
def advanceHighRateRewards (state : State) : State :=
  match state.highRateRewards.tryNext with
  | .ok next => { state with highRateRewards := next }
  | .error _ => state

/-- `EraPayout::era_payout`: the rewards of the validators and of the treasury.  A zero reward
leaves the supply as it is. -/
def eraPayout (totalStaked totalIssuance eraDurationMillis : Nat) (state : State) : (Nat × Nat) × State :=
  let (emissionReward, remaining) :=
    emissionRewardForEra config config.rewardCurve totalStaked totalIssuance eraDurationMillis state
  if emissionReward = 0 then ((0, 0), advanceHighRateRewards state)
  else
    let state := { state with stakingEmissionSupply := remaining }
    let treasuryReward := (treasuryRewardsPct config state).mul emissionReward
    ((emissionReward - treasuryReward, treasuryReward), advanceHighRateRewards state)

/-- `set_emission_status`, for the root only. -/
def setEmissionStatus (origin : Origin) (status : Bool) (state : State) : Except DispatchError State :=
  match origin with
  | .root => pure { state with stakingEmissionStatus := status }
  | .signed => throw .badOrigin

/-- `on_runtime_upgrade`: high-rate rewards are extended, or start in the next era. -/
def onRuntimeUpgrade (state : State) : State :=
  match config.postUpgradeHighRateDuration with
  | some duration => { state with highRateRewards := state.highRateRewards.incDurationOrInit duration }
  | Option.none => state

/-- What happens to the pallet: its call, a runtime upgrade, and the payout of an era. -/
inductive Call where
  | setEmissionStatus (origin : Origin) (status : Bool)
  | onRuntimeUpgrade
  | eraPayout (totalStaked totalIssuance eraDurationMillis : Nat)

/-- One call, and what it pays, to the validators and the treasury together. -/
def step : Call → State → State × Nat
  | .setEmissionStatus origin status, state =>
      match setEmissionStatus origin status state with
      | .ok next => (next, 0)
      | .error _ => (state, 0)
  | .onRuntimeUpgrade, state => (onRuntimeUpgrade config state, 0)
  | .eraPayout totalStaked totalIssuance eraDurationMillis, state =>
      let (rewards, next) := eraPayout config totalStaked totalIssuance eraDurationMillis state
      (next, rewards.1 + rewards.2)

/-- A sequence of calls, with all it paid. -/
def run : List Call → State → State × Nat
  | [], state => (state, 0)
  | call :: rest, state =>
      let (next, paid) := step config call state
      let (final, paidAfter) := run rest next
      (final, paid + paidAfter)

end Functions

end DockSubstrate.StakingRewards
