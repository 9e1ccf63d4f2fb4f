import Mathlib

/-!
# Fractions of a whole

The `PerThing` fractions of `sp_arithmetic` (`Perbill`, `Percent`): a number of parts out of a
fixed accuracy, never more than the whole, which the structure carries.  `mul` takes a
fraction of an amount as `overflow_prune_mul` does, multiplying the whole multiples of the
accuracy exactly and rounding the rest to the nearest, down on a tie.  `fromRational` is
`from_rational`: the fraction `p / q` rounded down, and the whole when `q` is zero or `p`
exceeds `q`.

`mul_le` is what an accounting in such fractions rests on: a fraction of an amount is at
most the amount, whatever the rounding did.
-/

namespace DockSubstrate.Lib

/-- A fraction of `accuracy` parts to the whole. -/
structure PerThing (accuracy : Nat) where
  parts : Nat
  le_accuracy : parts ≤ accuracy
  deriving DecidableEq, Repr

/-- `Perbill`: billionths. -/
abbrev Perbill := PerThing 1000000000

/-- `Percent`: hundredths. -/
abbrev Percent := PerThing 100

namespace PerThing

variable {accuracy : Nat}

/-- `PerThing::zero`, which is also the `Default`. -/
def zero : PerThing accuracy := ⟨0, Nat.zero_le _⟩

/-- `PerThing::one`. -/
def one : PerThing accuracy := ⟨accuracy, Nat.le_refl _⟩

/-- `Percent::from_percent`, which saturates at the whole. -/
def fromPercent (percent : Nat) : Percent := ⟨min percent 100, Nat.min_le_right _ _⟩

/-- The correction of `rational_mul_correction` for the remainder `rem` of an amount:
`rem * parts / accuracy`, plus one when what that division drops is over half the accuracy
(`Rounding::NearestPrefDown`). -/
def mulCorrection (accuracy parts rem : Nat) : Nat :=
  rem * parts / accuracy + if accuracy / 2 < rem * parts % accuracy then 1 else 0

/-- `fraction * amount`: `overflow_prune_mul` with `Rounding::NearestPrefDown`. -/
def mul (fraction : PerThing accuracy) (amount : Nat) : Nat :=
  amount / accuracy * fraction.parts + mulCorrection accuracy fraction.parts (amount % accuracy)

/-- `PerThing::from_rational(p, q)`. -/
def fromRational (p q : Nat) : PerThing accuracy :=
  if fraction : q = 0 ∨ q < p then one
  else
    ⟨p * accuracy / q, Nat.div_le_of_le_mul (Nat.mul_le_mul_right accuracy (by omega))⟩

/-- The correction of a remainder is at most the remainder: it is the remainder itself for
the whole, and for less than the whole the division drops at least one. -/
theorem mulCorrection_le {parts rem : Nat} (within : parts ≤ accuracy) (below : rem < accuracy) :
    mulCorrection accuracy parts rem ≤ rem := by
  unfold mulCorrection
  rcases Nat.eq_or_lt_of_le within with rfl | less
  · have positive : 0 < parts := by omega
    rw [Nat.mul_div_cancel rem positive, Nat.mul_mod_left]
    simp
  · rcases Nat.eq_zero_or_pos rem with rfl | positive
    · simp
    · have dropped : rem * parts / accuracy < rem :=
        Nat.div_lt_of_lt_mul (by rw [Nat.mul_comm accuracy rem]; exact Nat.mul_lt_mul_of_pos_left less positive)
      split_ifs <;> omega

/-- A fraction of an amount is at most the amount. -/
theorem mul_le (fraction : PerThing accuracy) (amount : Nat) : fraction.mul amount ≤ amount := by
  unfold mul
  rcases Nat.eq_zero_or_pos accuracy with rfl | positive
  · have none : fraction.parts = 0 := Nat.le_zero.mp fraction.le_accuracy
    simp [none, mulCorrection]
  · have whole : amount / accuracy * fraction.parts ≤ amount / accuracy * accuracy :=
      Nat.mul_le_mul_left _ fraction.le_accuracy
    have rest := mulCorrection_le fraction.le_accuracy (Nat.mod_lt amount positive)
    have split := Nat.div_add_mod' amount accuracy
    omega

example : (fromPercent 50).mul 7 = 3 := by decide

end PerThing

end DockSubstrate.Lib
