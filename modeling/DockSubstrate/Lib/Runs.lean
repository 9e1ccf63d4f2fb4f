import Mathlib

/-!
# Runs of a transition function

A system that moves by a total transition function `apply : σ → ε → σ`, where an event
that cannot happen leaves the state as it is, runs a list of events by applying them one
after the other.  A property that every event of the run keeps holds at its end
(`run_invariant`).  Where an event keeps it only when it fits the state it meets, the run
keeps it when each of its events fits in turn (`FitsAlong`, `run_invariant_of_fits`).
-/

namespace DockSubstrate.Lib

variable {σ ε : Type} (apply : σ → ε → σ)

/-- The state after the events, applied one after the other. -/
def run (state : σ) (events : List ε) : σ :=
  events.foldl apply state

/-- Each event fits the state the run has reached when it comes. -/
inductive FitsAlong (fits : σ → ε → Prop) : σ → List ε → Prop
  | nil (state : σ) : FitsAlong fits state []
  | cons {state : σ} {event : ε} {rest : List ε} (first : fits state event)
      (later : FitsAlong fits (apply state event) rest) : FitsAlong fits state (event :: rest)

variable {apply}

@[simp]
theorem run_nil (state : σ) : run apply state [] = state :=
  rfl

@[simp]
theorem run_cons (state : σ) (event : ε) (rest : List ε) :
    run apply state (event :: rest) = run apply (apply state event) rest :=
  rfl

/-- A property each event of the run keeps holds along the run. -/
theorem run_invariant {P : σ → Prop} {events : List ε}
    (keep : ∀ state, ∀ event ∈ events, P state → P (apply state event)) {state : σ} (start : P state) :
    P (run apply state events) := by
  induction events generalizing state with
  | nil => exact start
  | cons event rest ih =>
      have first : P (apply state event) := keep state event List.mem_cons_self start
      exact ih (fun current later mem => keep current later (List.mem_cons_of_mem event mem)) first

/-- A property each fitting event keeps holds along a run whose events fit in turn. -/
theorem run_invariant_of_fits {P : σ → Prop} {fits : σ → ε → Prop}
    (keep : ∀ state event, fits state event → P state → P (apply state event)) {state : σ} {events : List ε}
    (fitting : FitsAlong apply fits state events) (start : P state) : P (run apply state events) := by
  induction fitting with
  | nil => exact start
  | cons first _ ih => exact ih (keep _ _ first start)

end DockSubstrate.Lib
