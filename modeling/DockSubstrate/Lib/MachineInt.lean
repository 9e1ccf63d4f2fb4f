import Mathlib

/-!
# Unsigned 32-bit integers

The counters, identifiers and nonces of the runtime are `u32` values.  They are
modelled as natural numbers below `2 ^ 32`: checked operations return `none` where
the machine operation would overflow or underflow, and `wrappingInc` is `+= 1` in a
build without overflow checks.  `NonZeroU32` carries its two bounds as fields.

The migrators' allowances are `u16` values, and balances and Master's round are `u64`
values, with the same conventions at their widths.
-/

namespace DockSubstrate.Lib

/-- `u32::MAX`. -/
def u32Max : Nat := 2 ^ 32 - 1

/-- `u32::checked_add`. -/
def checkedAdd (a b : Nat) : Option Nat :=
  if a + b ≤ u32Max then some (a + b) else none

/-- `u32::checked_sub`. -/
def checkedSub (a b : Nat) : Option Nat :=
  if b ≤ a then some (a - b) else none

/-- `self.0 += 1` on a `u32` in a release build, which wraps around. -/
def wrappingInc (a : Nat) : Nat :=
  (a + 1) % 2 ^ 32

/-- `a += b` on a `u32` in a release build. -/
def wrappingAdd (a b : Nat) : Nat :=
  (a + b) % 2 ^ 32

/-- `a -= b` on a `u32` in a release build, for `b` a `u32`. -/
def wrappingSub (a b : Nat) : Nat :=
  (a + (2 ^ 32 - b)) % 2 ^ 32

theorem checkedAdd_eq_some_iff {a b c : Nat} :
    checkedAdd a b = some c ↔ a + b ≤ u32Max ∧ c = a + b := by
  unfold checkedAdd
  split
  · rename_i fits
    simp [fits, eq_comm]
  · rename_i overflow
    simp [overflow]

theorem checkedSub_eq_some_iff {a b c : Nat} : checkedSub a b = some c ↔ b ≤ a ∧ c = a - b := by
  unfold checkedSub
  split
  · rename_i fits
    simp [fits, eq_comm]
  · rename_i underflow
    simp [underflow]

theorem wrappingInc_of_lt {a : Nat} (below : a < u32Max) : wrappingInc a = a + 1 := by
  unfold wrappingInc u32Max at *
  exact Nat.mod_eq_of_lt (by omega)

theorem wrappingAdd_of_le {a b : Nat} (fits : a + b ≤ u32Max) : wrappingAdd a b = a + b := by
  unfold wrappingAdd u32Max at *
  exact Nat.mod_eq_of_lt (by omega)

theorem wrappingSub_of_le {a b : Nat} (below : a ≤ u32Max) (le : b ≤ a) : wrappingSub a b = a - b := by
  unfold wrappingSub u32Max at *
  rw [show a + (2 ^ 32 - b) = (a - b) + 2 ^ 32 by omega, Nat.add_mod_right]
  exact Nat.mod_eq_of_lt (by omega)

/-! ## Counters of 16 bits, and balances and rounds of 64 bits -/

/-- `u16::MAX`. -/
def u16Max : Nat := 2 ^ 16 - 1

/-- `n as u16`: the low 16 bits. -/
def truncU16 (n : Nat) : Nat :=
  n % 2 ^ 16

/-- `a - b` on `u16` values in a release build, which wraps around. -/
def wrappingSubU16 (a b : Nat) : Nat :=
  (a + (2 ^ 16 - b)) % 2 ^ 16

/-- `u16::checked_add`. -/
def checkedAddU16 (a b : Nat) : Option Nat :=
  if a + b ≤ u16Max then some (a + b) else none

/-- `u64::MAX`: a balance of the runtime is a `u64`. -/
def u64Max : Nat := 2 ^ 64 - 1

/-- `u64::saturating_add`. -/
def saturatingAddU64 (a b : Nat) : Nat :=
  min (a + b) u64Max

/-- `u64::checked_add`. -/
def checkedAddU64 (a b : Nat) : Option Nat :=
  if a + b ≤ u64Max then some (a + b) else none

/-- `*round += 1` on a `u64` in a release build, which wraps around. -/
def wrappingIncU64 (a : Nat) : Nat :=
  (a + 1) % 2 ^ 64

theorem wrappingSubU16_of_le {a b : Nat} (below : a ≤ u16Max) (le : b ≤ a) : wrappingSubU16 a b = a - b := by
  unfold wrappingSubU16 u16Max at *
  rw [show a + (2 ^ 16 - b) = (a - b) + 2 ^ 16 by omega, Nat.add_mod_right]
  exact Nat.mod_eq_of_lt (by omega)

theorem saturatingAddU64_of_le {a b : Nat} (fits : a + b ≤ u64Max) : saturatingAddU64 a b = a + b := by
  unfold saturatingAddU64
  exact Nat.min_eq_left fits

theorem wrappingIncU64_of_lt {a : Nat} (below : a < u64Max) : wrappingIncU64 a = a + 1 := by
  unfold wrappingIncU64 u64Max at *
  exact Nat.mod_eq_of_lt (by omega)

/-- `+= 1` done at least once moves a `u64` by the number of times, reduced once, wherever it
started. -/
theorem wrappingIncU64_iterate (a k : Nat) : wrappingIncU64^[k + 1] a = (a + (k + 1)) % 2 ^ 64 := by
  induction k with
  | zero => rfl
  | succ k ih =>
      rw [Function.iterate_succ_apply', ih, wrappingIncU64, Nat.mod_add_mod, Nat.add_assoc]

/-- `core::num::NonZeroU32`. -/
structure NonZeroU32 where
  get : Nat
  pos : 0 < get
  le_max : get ≤ u32Max
  deriving DecidableEq, Repr

namespace NonZeroU32

/-- `NonZeroU32::new` on a `u32`. -/
def new (n : Nat) : Option NonZeroU32 :=
  if bounds : 0 < n ∧ n ≤ u32Max then some ⟨n, bounds.1, bounds.2⟩ else none

/-- `NonZeroU32::ONE`. -/
def one : NonZeroU32 := ⟨1, by decide, by decide⟩

/-- `NonZeroU32::checked_add` with a `u32`. -/
def checkedAdd (a : NonZeroU32) (b : Nat) : Option NonZeroU32 :=
  (Lib.checkedAdd a.get b).bind new

theorem ext_get {a b : NonZeroU32} (same : a.get = b.get) : a = b := by
  cases a
  cases b
  cases same
  rfl

theorem new_eq_some_iff {n : Nat} {value : NonZeroU32} :
    new n = some value ↔ value.get = n := by
  unfold new
  split
  · rename_i bounds
    constructor
    · rintro ⟨⟩
      rfl
    · intro same
      exact congrArg some (ext_get same.symm)
  · rename_i outOfRange
    constructor
    · rintro ⟨⟩
    · intro same
      exact absurd ⟨same ▸ value.pos, same ▸ value.le_max⟩ outOfRange

theorem new_eq_none_iff {n : Nat} (le_max : n ≤ u32Max) : new n = none ↔ n = 0 := by
  unfold new
  split
  · rename_i bounds
    simp only [reduceCtorEq, false_iff]
    omega
  · rename_i outOfRange
    simp only [true_iff]
    omega

@[simp]
theorem new_get (value : NonZeroU32) : new value.get = some value :=
  new_eq_some_iff.mpr rfl

theorem checkedAdd_eq_some_iff {a c : NonZeroU32} {b : Nat} :
    a.checkedAdd b = some c ↔ c.get = a.get + b := by
  unfold checkedAdd
  constructor
  · intro added
    obtain ⟨sum, hsum, hnew⟩ := Option.bind_eq_some_iff.mp added
    obtain ⟨-, rfl⟩ := Lib.checkedAdd_eq_some_iff.mp hsum
    exact new_eq_some_iff.mp hnew
  · intro same
    have fits : a.get + b ≤ u32Max := same ▸ c.le_max
    rw [show Lib.checkedAdd a.get b = some (a.get + b) from
      Lib.checkedAdd_eq_some_iff.mpr ⟨fits, rfl⟩]
    exact new_eq_some_iff.mpr same

theorem checkedAdd_eq_none_iff {a : NonZeroU32} {b : Nat} :
    a.checkedAdd b = none ↔ u32Max < a.get + b := by
  unfold checkedAdd Lib.checkedAdd
  split
  · rename_i fits
    have positive : 0 < a.get + b := Nat.lt_of_lt_of_le a.pos (Nat.le_add_right _ _)
    simp only [Option.bind_some]
    rw [new_eq_none_iff fits]
    omega
  · rename_i overflow
    simp only [Option.bind_none, true_iff]
    omega

end NonZeroU32

end DockSubstrate.Lib
