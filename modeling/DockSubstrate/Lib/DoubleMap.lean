import Mathlib

/-!
# Double maps

A storage double map is a curried total function; `update₂` sets its value at one
pair of keys.  A map whose absent entries read as a default value (a `ValueQuery`
map) is the same kind of function, with the default as the initial value.
-/

namespace DockSubstrate.Lib

variable {α β γ : Type} [DecidableEq α] [DecidableEq β]

/-- Set the value of a curried map at one pair of keys. -/
def update₂ (map : α → β → γ) (first : α) (second : β) (value : γ) : α → β → γ :=
  Function.update map first (Function.update (map first) second value)

@[simp]
theorem update₂_apply (map : α → β → γ) (first : α) (second : β) (value : γ) (a : α) (b : β) :
    update₂ map first second value a b = if a = first ∧ b = second then value else map a b := by
  unfold update₂
  by_cases sameFirst : a = first
  · subst sameFirst
    by_cases sameSecond : b = second <;> simp [sameSecond]
  · simp [sameFirst]

/-- An update changes one entry of its row. -/
theorem update₂_same (map : α → β → γ) (first : α) (second : β) (value : γ) :
    update₂ map first second value first = Function.update (map first) second value :=
  Function.update_self first _ map

/-- An update leaves the other rows. -/
theorem update₂_of_ne {map : α → β → γ} {first a : α} (differs : a ≠ first) (second : β) (value : γ) :
    update₂ map first second value a = map a :=
  Function.update_of_ne differs _ map

/-- Writing back the value a map holds leaves the map as it was. -/
@[simp]
theorem update₂_self (map : α → β → γ) (first : α) (second : β) :
    update₂ map first second (map first second) = map := by
  unfold update₂
  simp

end DockSubstrate.Lib
