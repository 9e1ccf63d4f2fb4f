import DockSubstrate.Util.BatchUpdate.Basic
import DockSubstrate.Lib.Except

/-!
# Loops over the entries of a keyed update

The pallets go through the entries of a keyed update, in key order, in two kinds of
loop.  A validation loop checks every entry, may fail, and collects the entries it
keeps (those that do something) into a new keyed update: what it returns holds, at each
key, the key's entry if the loop keeps it (`get?_of_foldlM_keep`).  An execution loop
computes a new value for each entry's key from the key's current value and writes it
back: at the end every updated key holds the value computed from its value before the
loop, and every other key, and everything the writes do not touch, is as it was
(`foldlM_writes`, `foldlM_writes_frame`).
-/

namespace DockSubstrate.Util

open DockSubstrate.Lib

namespace MultiTargetUpdate

variable {K U ε : Type} [LinearOrder K]

/-! ## The keyed loop rule -/

/-- The invariant rule of a loop over the entries of a keyed update, stated key by key:
every key starts `Pending`; the step of a key's entry makes the key `Done` and keeps every
other key `Pending` or `Done` as it was.  At the end the keys of the update are `Done`
and every other key is still `Pending`. -/
theorem foldlM_keyed {S : Type} {update : MultiTargetUpdate K U} {f : S → K × U → Except ε S}
    (Pending Done : S → K → Prop) {init result : S} (start : ∀ key, Pending init key)
    (step : ∀ acc key inner acc', update.get? key = some inner → Pending acc key → f acc (key, inner) = .ok acc' →
      Done acc' key ∧ ∀ other, other ≠ key → (Pending acc other → Pending acc' other) ∧ (Done acc other → Done acc' other))
    (run : update.updates.entries.foldlM f init = .ok result) (key : K) :
    (update.get? key = none → Pending result key) ∧ ∀ inner, update.get? key = some inner → Done result key := by
  -- the keys still pending, and those the update lacks, are `Pending`; the others are `Done`
  let Keyed := fun (acc : S) (pending : List (K × U)) =>
    (∀ entry ∈ pending, update.get? entry.1 = some entry.2) ∧ (pending.map Prod.fst).Nodup ∧
      ∀ key, (key ∈ pending.map Prod.fst ∨ update.get? key = none → Pending acc key) ∧
        (key ∉ pending.map Prod.fst → ∀ inner, update.get? key = some inner → Done acc key)
  have initial : Keyed init update.updates.entries := by
    refine ⟨fun entry mem => Entries.lookup_eq_some_of_mem update.updates.sorted mem,
      SortedMap.keys_nodup update.updates, fun key => ⟨fun _ => start key, fun absent inner found => ?_⟩⟩
    refine absurd (SortedMap.mem_keys.mpr ?_) absent
    change (update.get? key).isSome = true
    rw [found]
    rfl
  have preserved : ∀ acc entry rest acc', Keyed acc (entry :: rest) → f acc entry = .ok acc' → Keyed acc' rest := by
    intro acc ⟨first, inner⟩ rest acc' ⟨pendingMem, pendingNodup, keyed⟩ stepped
    obtain ⟨fresh, restNodup⟩ := List.nodup_cons.mp pendingNodup
    have found : update.get? first = some inner := pendingMem _ (List.mem_cons_self ..)
    obtain ⟨done, others⟩ := step acc first inner acc' found ((keyed first).1 (.inl (by simp))) stepped
    refine ⟨fun other mem => pendingMem other (List.mem_cons_of_mem _ mem), restNodup, fun key => ?_⟩
    by_cases same : key = first
    · subst same
      refine ⟨fun pendingOrAbsent => ?_, fun _ _ _ => done⟩
      rcases pendingOrAbsent with listed | absent
      · exact absurd listed fresh
      · simp [found] at absent
    · obtain ⟨keepPending, keepDone⟩ := others key same
      obtain ⟨wasPending, wasDone⟩ := keyed key
      simp only [List.map_cons, List.mem_cons, same, false_or] at wasPending wasDone
      exact ⟨fun pendingOrAbsent => keepPending (wasPending pendingOrAbsent),
        fun absent inner found => keepDone (wasDone absent inner found)⟩
  have final := Except.foldlM_invariant Keyed initial preserved run
  obtain ⟨wasPending, wasDone⟩ := final.2.2 key
  exact ⟨fun absent => wasPending (.inr absent), wasDone (by simp)⟩

/-! ## Validation loops -/

/-- A loop that keeps the entries `keep` selects returns those entries of the update. -/
theorem get?_of_foldlM_keep {update result : MultiTargetUpdate K U}
    {f : MultiTargetUpdate K U → K × U → Except ε (MultiTargetUpdate K U)} (keep : K → U → Bool)
    (step : ∀ acc entry acc', f acc entry = .ok acc' →
      acc' = if keep entry.1 entry.2 then acc.insert entry.1 entry.2 else acc)
    (run : update.updates.entries.foldlM f ∅ = .ok result) (key : K) :
    result.get? key = (update.get? key).filter (keep key) := by
  -- the keys still pending hold nothing yet; the others hold what the loop keeps
  let Kept := fun (acc : MultiTargetUpdate K U) (pending : List (K × U)) =>
    (∀ entry ∈ pending, update.get? entry.1 = some entry.2) ∧ (pending.map Prod.fst).Nodup ∧
      ∀ key, acc.get? key = if key ∈ pending.map Prod.fst then none else (update.get? key).filter (keep key)
  have start : Kept ∅ update.updates.entries := by
    refine ⟨fun entry mem => Entries.lookup_eq_some_of_mem update.updates.sorted mem,
      SortedMap.keys_nodup update.updates, fun key => ?_⟩
    split
    · rfl
    · rename_i absent
      change key ∉ update.keys at absent
      have none : update.get? key = none := by
        cases found : update.get? key with
        | none => rfl
        | some inner =>
            refine absurd (SortedMap.mem_keys.mpr ?_) absent
            change (update.get? key).isSome = true
            rw [found]
            rfl
      rw [none]
      rfl
  have preserved : ∀ acc entry rest acc', Kept acc (entry :: rest) → f acc entry = .ok acc' →
      Kept acc' rest := by
    intro acc entry rest acc' ⟨pendingMem, pendingNodup, kept⟩ stepped
    obtain ⟨fresh, restNodup⟩ := List.nodup_cons.mp pendingNodup
    refine ⟨fun other mem => pendingMem other (List.mem_cons_of_mem _ mem), restNodup, fun key => ?_⟩
    have found := pendingMem entry (List.mem_cons_self ..)
    rw [step acc entry acc' stepped]
    by_cases same : key = entry.1
    · subst same
      rw [if_neg fresh, found]
      have pendingHere := kept entry.1
      rw [if_pos (by simp)] at pendingHere
      split
      · rename_i keepIt
        rw [get?_insert, if_pos rfl, Option.filter_some, if_pos keepIt]
      · rename_i dropIt
        rw [pendingHere, Option.filter_some, if_neg dropIt]
    · have elsewhere := kept key
      simp only [List.map_cons, List.mem_cons, same, false_or] at elsewhere
      split
      · rw [get?_insert, if_neg same, elsewhere]
      · exact elsewhere
  have final := Except.foldlM_invariant Kept start preserved run
  simpa using final.2.2 key

/-! ## Execution loops -/

variable {S W : Type}

/-- A way to read and write one value per key of a state: a write changes the value of
its key and no other. -/
structure KeyedWrites (read : S → K → W) (write : S → K → W → S) : Prop where
  read_write_self : ∀ state key value, read (write state key value) key = value
  read_write_of_ne : ∀ state key value other, other ≠ key → read (write state key value) other = read state other

/-- An execution loop: every successful step of an entry writes, at the entry's key, the
value `step` computes from the key's current value. -/
def StepWrites (read : S → K → W) (write : S → K → W → S) (step : K → U → W → Except ε W)
    (f : S → K × U → Except ε S) : Prop :=
  ∀ state entry next, f state entry = .ok next →
    ∃ value, step entry.1 entry.2 (read state entry.1) = .ok value ∧ next = write state entry.1 value

/-- After an execution loop, every updated key holds the value computed from its value
before the loop, and every other key holds its old value. -/
theorem foldlM_writes {read : S → K → W} {write : S → K → W → S} (laws : KeyedWrites read write)
    {step : K → U → W → Except ε W} {f : S → K × U → Except ε S} (writes : StepWrites read write step f)
    {update : MultiTargetUpdate K U} {init result : S} (run : update.updates.entries.foldlM f init = .ok result)
    (key : K) :
    (update.get? key = none → read result key = read init key) ∧
      ∀ inner, update.get? key = some inner → step key inner (read init key) = .ok (read result key) := by
  -- a pending key still holds its old value; a done key holds its computed value
  let Done := fun (state : S) (key : K) =>
    (update.get? key = none → read state key = read init key) ∧
      ∀ inner, update.get? key = some inner → step key inner (read init key) = .ok (read state key)
  let Written := fun (state : S) (pending : List (K × U)) =>
    (∀ entry ∈ pending, update.get? entry.1 = some entry.2) ∧ (pending.map Prod.fst).Nodup ∧
      ∀ key, if key ∈ pending.map Prod.fst then read state key = read init key else Done state key
  have start : Written init update.updates.entries := by
    refine ⟨fun entry mem => Entries.lookup_eq_some_of_mem update.updates.sorted mem,
      SortedMap.keys_nodup update.updates, fun key => ?_⟩
    split
    · rfl
    · rename_i absent
      refine ⟨fun _ => rfl, fun inner found => absurd (SortedMap.mem_keys.mpr ?_) absent⟩
      change (update.get? key).isSome = true
      rw [found]
      rfl
  have preserved : ∀ state entry rest next, Written state (entry :: rest) → f state entry = .ok next →
      Written next rest := by
    intro state entry rest next ⟨pendingMem, pendingNodup, written⟩ stepped
    obtain ⟨fresh, restNodup⟩ := List.nodup_cons.mp pendingNodup
    obtain ⟨value, computed, rfl⟩ := writes state entry next stepped
    refine ⟨fun other mem => pendingMem other (List.mem_cons_of_mem _ mem), restNodup, fun key => ?_⟩
    by_cases same : key = entry.1
    · subst same
      have found := pendingMem entry (List.mem_cons_self ..)
      have old := written entry.1
      rw [if_pos (by simp)] at old
      rw [if_neg fresh]
      refine ⟨fun none => absurd (found.symm.trans none) (by simp), fun inner atKey => ?_⟩
      obtain rfl : inner = entry.2 := Option.some.inj (atKey.symm.trans found)
      rw [laws.read_write_self, ← old]
      exact computed
    · have elsewhere := written key
      simp only [List.map_cons, List.mem_cons, same, false_or] at elsewhere
      simpa only [Done, laws.read_write_of_ne _ _ _ _ same] using elsewhere
  have final := Except.foldlM_invariant Written start preserved run
  simpa using final.2.2 key

/-- What no write changes, an execution loop leaves as it was. -/
theorem foldlM_writes_frame {read : S → K → W} {write : S → K → W → S} {step : K → U → W → Except ε W}
    {f : S → K × U → Except ε S} (writes : StepWrites read write step f) {X : Type} (observe : S → X)
    (kept : ∀ state key value, observe (write state key value) = observe state)
    {update : MultiTargetUpdate K U} {init result : S} (run : update.updates.entries.foldlM f init = .ok result) :
    observe result = observe init :=
  Except.foldlM_preserves observe (fun state entry next stepped => by
      obtain ⟨value, -, rfl⟩ := writes state entry next stepped
      exact kept state entry.1 value) run

end MultiTargetUpdate

end DockSubstrate.Util
