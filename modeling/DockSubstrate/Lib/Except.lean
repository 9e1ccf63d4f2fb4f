import Mathlib

/-!
# Reasoning about `Except` computations

Fallible code is modelled in `Except`.  These lemmas take apart a successful
computation (`bind_eq_ok`, `map_eq_ok`, ...) and give the two rules for a loop written
as `List.foldlM`: an invariant of every successful run, and a variant that shows the
run succeeds.  Both invariants are indexed by the part of the list still to be
processed, so a proof can speak of "the entries not yet applied".
-/

namespace DockSubstrate.Lib

namespace Except

variable {ε α β : Type}

@[simp]
theorem bind_eq_ok {x : Except ε α} {f : α → Except ε β} {b : β} :
    (x >>= f) = .ok b ↔ ∃ a, x = .ok a ∧ f a = .ok b := by
  cases x <;> simp [bind, Except.bind]

@[simp]
theorem ok_bind {a : α} {f : α → Except ε β} : (Except.ok a >>= f) = f a := rfl

@[simp]
theorem pure_eq_ok {a b : α} : (pure a : Except ε α) = .ok b ↔ a = b := by
  simp [pure, Except.pure]

@[simp]
theorem throw_eq_ok {e : ε} {a : α} : (throw e : Except ε α) = .ok a ↔ False := by
  simp [throw, throwThe, MonadExceptOf.throw]

@[simp]
theorem map_eq_ok {x : Except ε α} {f : α → β} {b : β} :
    x.map f = .ok b ↔ ∃ a, x = .ok a ∧ f a = b := by
  cases x <;> simp [Except.map]

@[simp]
theorem fmap_eq_ok {x : Except ε α} {f : α → β} {b : β} :
    (f <$> x) = .ok b ↔ ∃ a, x = .ok a ∧ f a = b := by
  cases x <;> simp [Functor.map, Except.map]

@[simp]
theorem mapError_eq_ok {ε' : Type} {x : Except ε α} {f : ε → ε'} {a : α} :
    x.mapError f = .ok a ↔ x = .ok a := by
  cases x <;> simp [Except.mapError]

theorem unless_eq_ok {condition : Bool} {e : ε} {u : PUnit} :
    (unless condition do throw e : Except ε PUnit) = .ok u ↔ condition = true := by
  cases condition <;> simp [throw, throwThe, MonadExceptOf.throw, pure, Except.pure]

@[simp]
theorem pure_eq_error {a : α} {e : ε} : (pure a : Except ε α) = .error e ↔ False := by
  simp [pure, Except.pure]

@[simp]
theorem throw_eq_error {e e' : ε} : (throw e : Except ε α) = .error e' ↔ e = e' := by
  simp [throw, throwThe, MonadExceptOf.throw]

@[simp]
theorem fmap_eq_error {x : Except ε α} {f : α → β} {e : ε} : (f <$> x) = .error e ↔ x = .error e := by
  cases x <;> simp [Functor.map, Except.map]

theorem bind_eq_error {x : Except ε α} {f : α → Except ε β} {e : ε} :
    (x >>= f) = .error e ↔ x = .error e ∨ ∃ a, x = .ok a ∧ f a = .error e := by
  cases x <;> simp [bind, Except.bind]

theorem mapError_eq_error {ε' : Type} {x : Except ε α} {f : ε → ε'} {e : ε'} :
    x.mapError f = .error e ↔ ∃ e', x = .error e' ∧ f e' = e := by
  cases x <;> simp [Except.mapError]

/-- The invariant rule of a successful `foldlM`: what holds of the start with the whole
list to go, and is kept by every successful step, holds at the end. -/
theorem foldlM_invariant {f : β → α → Except ε β} (Inv : β → List α → Prop)
    {xs : List α} {init result : β} (start : Inv init xs)
    (step : ∀ acc x rest acc', Inv acc (x :: rest) → f acc x = .ok acc' → Inv acc' rest)
    (run : xs.foldlM f init = .ok result) : Inv result [] := by
  induction xs generalizing init with
  | nil =>
      cases run
      exact start
  | cons x rest ih =>
      rw [List.foldlM_cons] at run
      obtain ⟨acc', stepOk, restOk⟩ := bind_eq_ok.mp run
      exact ih (step init x rest acc' start stepOk) restOk

/-- The frame rule of a successful `foldlM`: what no successful step changes, the whole
run leaves as it was. -/
theorem foldlM_preserves {f : β → α → Except ε β} {γ : Type} (observe : β → γ)
    (step : ∀ acc x acc', f acc x = .ok acc' → observe acc' = observe acc) {xs : List α}
    {init result : β} (run : xs.foldlM f init = .ok result) : observe result = observe init :=
  foldlM_invariant (fun acc _ => observe acc = observe init) rfl
    (fun acc x _ acc' kept stepped => (step acc x acc' stepped).trans kept) run

/-- The additive rule of a successful `foldlM`: when every step adds `gain x` to what
`observe` reads, the whole run adds the sum of the gains. -/
theorem foldlM_sum {M : Type} [AddMonoid M] {f : β → α → Except ε β} (observe : β → M) (gain : α → M)
    {xs : List α} {init result : β}
    (step : ∀ acc x acc', x ∈ xs → f acc x = .ok acc' → observe acc' = observe acc + gain x)
    (run : xs.foldlM f init = .ok result) : observe result = observe init + (xs.map gain).sum := by
  induction xs generalizing init with
  | nil =>
      cases run
      simp
  | cons x rest ih =>
      rw [List.foldlM_cons] at run
      obtain ⟨acc', stepOk, restOk⟩ := bind_eq_ok.mp run
      have restSum := ih (fun acc y acc' mem => step acc y acc' (List.mem_cons_of_mem x mem)) restOk
      rw [restSum, step init x acc' (List.mem_cons_self ..) stepOk, List.map_cons, List.sum_cons, add_assoc]

/-- Every element of a successful `foldlM` run went through a successful step. -/
theorem foldlM_mem_ok {f : β → α → Except ε β} {xs : List α} {init result : β}
    (run : xs.foldlM f init = .ok result) : ∀ x ∈ xs, ∃ acc acc', f acc x = .ok acc' := by
  induction xs generalizing init with
  | nil =>
      intro x mem
      cases mem
  | cons y rest ih =>
      rw [List.foldlM_cons] at run
      obtain ⟨acc', stepOk, restOk⟩ := bind_eq_ok.mp run
      intro x mem
      rcases List.mem_cons.mp mem with rfl | later
      · exact ⟨init, acc', stepOk⟩
      · exact ih restOk x later

/-- The error rule of `foldlM`: an error that no step raises, no run raises. -/
theorem foldlM_ne_error {f : β → α → Except ε β} {e : ε} (step : ∀ acc x, f acc x ≠ .error e)
    (xs : List α) (init : β) : xs.foldlM f init ≠ .error e := by
  induction xs generalizing init with
  | nil => simp [pure, Except.pure]
  | cons x rest ih =>
      rw [List.foldlM_cons]
      intro failed
      rcases bind_eq_error.mp failed with stepFailed | ⟨acc, -, restFailed⟩
      · exact step init x stepFailed
      · exact ih acc restFailed

/-- The progress rule of `foldlM`: if every step from a state satisfying the invariant
succeeds into a state satisfying it, the whole run succeeds. -/
theorem foldlM_ok_of_invariant {f : β → α → Except ε β} (Inv : β → List α → Prop)
    {xs : List α} {init : β} (start : Inv init xs)
    (step : ∀ acc x rest, Inv acc (x :: rest) → ∃ acc', f acc x = .ok acc' ∧ Inv acc' rest) :
    ∃ result, xs.foldlM f init = .ok result ∧ Inv result [] := by
  induction xs generalizing init with
  | nil => exact ⟨init, rfl, start⟩
  | cons x rest ih =>
      obtain ⟨acc', stepOk, kept⟩ := step init x rest start
      obtain ⟨result, restOk, final⟩ := ih kept
      refine ⟨result, ?_, final⟩
      rw [List.foldlM_cons, stepOk]
      exact restOk

/-- A successful `mapM` relates every input to its output. -/
theorem mapM_eq_ok {f : α → Except ε β} {xs : List α} {ys : List β} :
    xs.mapM f = .ok ys ↔ List.Forall₂ (fun x y => f x = .ok y) xs ys := by
  induction xs generalizing ys with
  | nil =>
      cases ys <;> simp [List.mapM_nil]
  | cons x rest ih =>
      constructor
      · intro mapped
        rw [List.mapM_cons] at mapped
        obtain ⟨y, hy, mappedRest⟩ := bind_eq_ok.mp mapped
        obtain ⟨ys', hys', built⟩ := bind_eq_ok.mp mappedRest
        rw [← pure_eq_ok.mp built]
        exact List.Forall₂.cons hy (ih.mp hys')
      · intro related
        cases related with
        | cons hy hrest =>
            rw [List.mapM_cons, hy]
            simp [ih.mpr hrest]

end Except

end DockSubstrate.Lib
