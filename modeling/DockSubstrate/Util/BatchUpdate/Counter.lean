import DockSubstrate.Util.BatchUpdate.Diff

/-!
# Counter updates

`IncOrDec` updates a counter that reads as zero when it is absent: a stored non-zero
`u32`, or nothing.  Read as a number (`IncOrDec.count`), an applied update adds its
signed amount (`raw`) to the counter, two combined updates add their amounts, and the
counter update that a key's `Add` or `Remove` stands for adds one or takes one away.
The same holds key by key of a keyed counter update (`MultiTargetUpdate.rawAt`).
-/

namespace DockSubstrate.Util

open DockSubstrate.Lib KeyValue

/-- A counter value that gives back the number it was made from. -/
class LawfulCounterValue (V : Type) [CounterValue V] : Prop where
  toNonZero_ofNonZero : ∀ value : NonZeroU32,
    CounterValue.toNonZero (CounterValue.ofNonZero value : V) = value

attribute [simp] LawfulCounterValue.toNonZero_ofNonZero

namespace IncOrDec

variable {V : Type} [CounterValue V]

/-- The number a stored counter stands for, zero where there is none. -/
def count (entity : Option V) : Nat :=
  (entity.map fun value => (CounterValue.toNonZero value).get).getD 0

@[simp]
theorem count_none : count (Option.none : Option V) = 0 := rfl

@[simp]
theorem count_some (value : V) : count (some value) = (CounterValue.toNonZero value).get := rfl

/-- What is left of a decremented counter: the difference, or nothing when it is zero. -/
theorem count_new [LawfulCounterValue V] {rest : Nat} (fits : rest ≤ u32Max) :
    count ((NonZeroU32.new rest).map (CounterValue.ofNonZero : NonZeroU32 → V)) = rest := by
  cases made : NonZeroU32.new rest with
  | none => simp [(NonZeroU32.new_eq_none_iff fits).mp made]
  | some value => simp [NonZeroU32.new_eq_some_iff.mp made]

/-- An applied counter update adds its amount to the counter. -/
theorem count_applyUpdate [LawfulCounterValue V] {update : IncOrDec} {entity result : Option V}
    (applied : update.applyUpdate entity = .ok result) :
    (count result : ℤ) = count entity + update.raw := by
  cases update with
  | inc amount =>
      cases entity with
      | none =>
          obtain rfl := Except.ok.inj applied
          simp [raw]
      | some value =>
          simp only [applyUpdate] at applied
          split at applied
          · rename_i sum added
            obtain rfl := Except.ok.inj applied
            simp [raw, NonZeroU32.checkedAdd_eq_some_iff.mp added]
          · cases applied
  | dec amount =>
      cases entity with
      | none => cases applied
      | some value =>
          simp only [applyUpdate] at applied
          split at applied
          · rename_i rest subtracted
            obtain ⟨below, rfl⟩ := checkedSub_eq_some_iff.mp subtracted
            obtain rfl := Except.ok.inj applied
            have fits := (CounterValue.toNonZero value).le_max
            rw [count_new (by omega)]
            simp only [count_some, raw]
            omega
          · cases applied
  | none =>
      obtain rfl := Except.ok.inj applied
      simp [raw]

/-- Combining two counter updates adds their amounts. -/
theorem raw_combine {self other combined : IncOrDec} (ok : self.combine other = .ok combined) :
    combined.raw = self.raw + other.raw := by
  unfold combine at ok
  dsimp only at ok
  generalize self.raw + other.raw = total at ok ⊢
  -- the combination is the sum, as a step up or down by its absolute value
  split_ifs at ok with nonneg fits fits
  · obtain rfl := Except.ok.inj ok
    cases made : NonZeroU32.new total.natAbs with
    | none =>
        have zero := (NonZeroU32.new_eq_none_iff fits).mp made
        simp only [Option.elim, raw]
        omega
    | some value =>
        have sameValue := NonZeroU32.new_eq_some_iff.mp made
        simp only [Option.elim, raw, sameValue]
        omega
  · obtain rfl := Except.ok.inj ok
    cases made : NonZeroU32.new total.natAbs with
    | none =>
        have zero := (NonZeroU32.new_eq_none_iff fits).mp made
        simp only [Option.elim, raw]
        omega
    | some value =>
        have sameValue := NonZeroU32.new_eq_some_iff.mp made
        simp only [Option.elim, raw, sameValue]
        omega

/-- `combine` fails exactly when the summed amount does not fit a `u32`. -/
theorem combine_ok_iff {self other : IncOrDec} :
    (∃ combined, self.combine other = .ok combined) ↔ (self.raw + other.raw).natAbs ≤ u32Max := by
  unfold combine
  dsimp only
  split_ifs with nonneg fits fits <;> simp [fits]

/-- A stored counter is never zero: a counter is present exactly when its count is
positive. -/
theorem isSome_iff_count_pos {entity : Option V} : entity.isSome ↔ 0 < count entity := by
  cases entity with
  | none => simp
  | some value => simpa using (CounterValue.toNonZero value).pos

theorem count_le_u32Max (entity : Option V) : count entity ≤ u32Max := by
  cases entity with
  | none => simp [u32Max]
  | some value => exact (CounterValue.toNonZero value).le_max

/-- A counter update applies whenever the count it leaves fits a `u32`. -/
theorem applyUpdate_ok_of_count {update : IncOrDec} {entity : Option V}
    (nonneg : 0 ≤ (count entity : ℤ) + update.raw) (fits : (count entity : ℤ) + update.raw ≤ u32Max) :
    ∃ result, update.applyUpdate entity = .ok result := by
  cases update with
  | inc amount =>
      cases entity with
      | none => exact ⟨_, rfl⟩
      | some value =>
          cases added : (CounterValue.toNonZero value).checkedAdd amount.get with
          | none =>
              have overflow := NonZeroU32.checkedAdd_eq_none_iff.mp added
              simp only [count_some, raw] at fits
              omega
          | some sum => exact ⟨some (CounterValue.ofNonZero sum), by simp [applyUpdate, added]⟩
  | dec amount =>
      cases entity with
      | none =>
          simp only [count_none, raw] at nonneg
          have positive := amount.pos
          omega
      | some value =>
          have below : amount.get ≤ (CounterValue.toNonZero value).get := by
            simp only [count_some, raw] at nonneg
            omega
          have subtracted : checkedSub (CounterValue.toNonZero value).get amount.get =
              some ((CounterValue.toNonZero value).get - amount.get) :=
            checkedSub_eq_some_iff.mpr ⟨below, rfl⟩
          exact ⟨(NonZeroU32.new ((CounterValue.toNonZero value).get - amount.get)).map CounterValue.ofNonZero,
            by simp [applyUpdate, subtracted]⟩
  | none => exact ⟨entity, rfl⟩

omit [CounterValue V] in
/-- An update not reported as a removal of a present counter never lowers it. -/
theorem raw_nonneg_of_kind_ne_remove {update : IncOrDec} {value : V}
    (kept : update.kind (some value) ≠ .remove) : 0 ≤ update.raw := by
  cases update with
  | inc amount => simp [raw]
  | dec amount => simp [kind] at kept
  | none => simp [raw]

omit [CounterValue V] in
/-- Only `IncOrDec::None` does nothing. -/
theorem kind_eq_none_iff {update : IncOrDec} {entity : Option V} :
    update.kind entity = .none ↔ update = .none := by
  cases update with
  | inc amount => cases entity <;> simp [kind]
  | dec amount => cases entity <;> simp [kind]
  | none => simp [kind]

/-- A decrement of a counter above its amount is reported as a removal, yet the counter
stays: the kind of `IncOrDec` does not describe what its application does. -/
theorem kind_dec_of_stays {amount : NonZeroU32} {value : V} (above : amount.get < (CounterValue.toNonZero value).get) :
    (dec amount).kind (some value) = .remove ∧ ∃ rest, (dec amount).applyUpdate (some value) = .ok (some rest) := by
  refine ⟨rfl, ?_⟩
  have subtracted : checkedSub (CounterValue.toNonZero value).get amount.get =
      some ((CounterValue.toNonZero value).get - amount.get) :=
    checkedSub_eq_some_iff.mpr ⟨above.le, rfl⟩
  have remains : NonZeroU32.new ((CounterValue.toNonZero value).get - amount.get) =
      some ⟨_, Nat.sub_pos_of_lt above, le_trans (Nat.sub_le _ _) (CounterValue.toNonZero value).le_max⟩ :=
    NonZeroU32.new_eq_some_iff.mpr rfl
  simp only [applyUpdate, subtracted, remains, Option.map_some]
  exact ⟨_, rfl⟩

/-- The counter step of an exact keys diff entry is the change of the key's presence. -/
theorem raw_keyDiff (before after : Bool) :
    (((keyDiff before after).map ofKeyUpdate).map raw).getD 0 = (after.toNat : ℤ) - before.toNat := by
  cases before <;> cases after <;> rfl

end IncOrDec

namespace MultiTargetUpdate

variable {K : Type} [LinearOrder K]

/-- What `combine` leaves at a key where the two updates hold `left` and `right`. -/
def CombinedAt {U E : Type} [CombineUpdates U E] : Option U → Option U → Option U → Prop
  | some left, some right, some combined => CombineUpdates.combine left right = .ok combined
  | some _, some _, none => False
  | some left, none, combined => combined = some left
  | none, some right, combined => combined = some right
  | none, none, combined => combined = none

omit [LinearOrder K] in
theorem key_of_combineJoined {U E : Type} [CombineUpdates U E] {joined : EitherOrBoth (K × U) (K × U)}
    {entry : K × U} (made : combineJoined joined = .ok entry) : entry.1 = joined.key := by
  cases joined with
  | left first => obtain rfl := Except.ok.inj made; rfl
  | right second => obtain rfl := Except.ok.inj made; rfl
  | both first second =>
      obtain ⟨combined, -, built⟩ := Except.bind_eq_ok.mp made
      obtain rfl := Except.pure_eq_ok.mp built
      rfl

/-- The combination of two keyed updates holds at each key what the two hold there,
combined where both hold an update. -/
theorem combinedAt_combine {U E : Type} [CombineUpdates U E] {self other result : MultiTargetUpdate K U}
    (combined : self.combine other = .ok result) (key : K) :
    CombinedAt (self.get? key) (other.get? key) (result.get? key) := by
  unfold combine at combined
  obtain ⟨entries, mapped, built⟩ := Except.bind_eq_ok.mp combined
  obtain rfl := Except.pure_eq_ok.mp built
  have related := Except.mapM_eq_ok.mp mapped
  have keyed : ∀ (joined : EitherOrBoth (K × U) (K × U)) (entry : K × U),
      (combineJoined joined : Except E (K × U)) = .ok entry → entry.1 = joined.key :=
    fun _ _ made => key_of_combineJoined made
  -- the entries come in the order of the join, whose keys strictly increase
  have distinct : (entries.map Prod.fst).Nodup := by
    rw [Entries.map_fst_of_forall₂ keyed related]
    exact (List.pairwise_map.mpr (sorted_mergeJoinEntries self.updates.sorted
      other.updates.sorted)).imp ne_of_lt
  have found := Entries.lookup_of_forall₂ keyed related key
  rw [find?_mergeJoinEntries self.updates.sorted other.updates.sorted] at found
  change CombinedAt (Entries.lookup key self.updates.entries) (Entries.lookup key other.updates.entries)
    ((SortedMap.ofList entries).get? key)
  rw [SortedMap.get?_ofList distinct]
  generalize Entries.lookup key entries = atKey at found ⊢
  cases onLeft : Entries.lookup key self.updates.entries with
  | none =>
      cases onRight : Entries.lookup key other.updates.entries with
      | none =>
          rw [onLeft, onRight] at found
          cases found
          rfl
      | some right =>
          rw [onLeft, onRight] at found
          obtain ⟨made⟩ := found
          obtain ⟨-, rfl⟩ := Prod.mk.inj (Except.pure_eq_ok.mp made)
          rfl
  | some left =>
      cases onRight : Entries.lookup key other.updates.entries with
      | none =>
          rw [onLeft, onRight] at found
          obtain ⟨made⟩ := found
          obtain ⟨-, rfl⟩ := Prod.mk.inj (Except.pure_eq_ok.mp made)
          rfl
      | some right =>
          rw [onLeft, onRight] at found
          obtain ⟨made⟩ := found
          obtain ⟨value, combinedOk, built⟩ := Except.bind_eq_ok.mp made
          obtain ⟨⟩ := Except.pure_eq_ok.mp built
          exact combinedOk

/-- The amount a keyed counter update adds at a key. -/
def rawAt (update : MultiTargetUpdate K IncOrDec) (key : K) : ℤ :=
  ((update.get? key).map IncOrDec.raw).getD 0

@[simp]
theorem rawAt_empty (key : K) : (∅ : MultiTargetUpdate K IncOrDec).rawAt key = 0 := rfl

/-- The amounts at a key where two counter updates were combined add up. -/
theorem raw_of_combinedAt : ∀ {left right both : Option IncOrDec}, CombinedAt left right both →
    (both.map IncOrDec.raw).getD 0 = (left.map IncOrDec.raw).getD 0 + (right.map IncOrDec.raw).getD 0
  | some _, some _, some _, combined => by simp [IncOrDec.raw_combine combined]
  | some _, some _, none, impossible => impossible.elim
  | some _, none, _, rfl => by simp
  | none, some _, _, rfl => by simp
  | none, none, _, rfl => by simp

/-- Combining keyed counter updates adds their amounts key by key. -/
theorem rawAt_combine {self other result : MultiTargetUpdate K IncOrDec}
    (combined : self.combine other = .ok result) (key : K) :
    result.rawAt key = self.rawAt key + other.rawAt key :=
  raw_of_combinedAt (combinedAt_combine combined key)

/-- A keyed counter update that does nothing adds nothing anywhere. -/
theorem rawAt_eq_zero_of_kind_none {C V : Type} [CounterValue V] [KeyValue C K V]
    {update : MultiTargetUpdate K IncOrDec} {entity : C} (nothing : update.kind entity = .none)
    (key : K) : update.rawAt key = 0 := by
  unfold rawAt
  cases found : update.get? key with
  | none => rfl
  | some inner =>
      have noneHere := kind_eq_none_iff.mp nothing key inner found
      rw [IncOrDec.kind_eq, IncOrDec.kind_eq_none_iff] at noneHere
      simp [noneHere, IncOrDec.raw]

@[simp]
theorem get?_translateUpdate (update : MultiTargetUpdate K (AddOrRemoveOrModify Unit Unit)) (key : K) :
    (TranslateUpdate.translateUpdate update : MultiTargetUpdate K IncOrDec).get? key =
      (update.get? key).map IncOrDec.ofKeyUpdate := by
  simp [TranslateUpdate.translateUpdate, get?]

/-- The counter step translated from an exact keys diff entry is the change of the key's
presence. -/
theorem rawAt_translateUpdate_keyDiff {update : MultiTargetUpdate K (AddOrRemoveOrModify Unit Unit)} {key : K}
    {before after : Bool} (exact : update.get? key = keyDiff before after) :
    (TranslateUpdate.translateUpdate update : MultiTargetUpdate K IncOrDec).rawAt key =
      (after.toNat : ℤ) - before.toNat := by
  rw [rawAt, get?_translateUpdate, exact]
  exact IncOrDec.raw_keyDiff before after

section Applied

variable {C V : Type} [CounterValue V] [LawfulCounterValue V] [KeyValue C K V]
  [LawfulKeyValue C K V]

omit [LawfulKeyValue C K V] in
/-- The counter a keyed counter update leaves at a key is the old one plus the update's
amount there. -/
theorem count_valueAfter {update : MultiTargetUpdate K IncOrDec} {entity : C} {key : K}
    {value : Option V} (after : update.valueAfter entity key = .ok value) :
    (IncOrDec.count value : ℤ) = IncOrDec.count (get entity key) + update.rawAt key := by
  unfold valueAfter at after
  unfold rawAt
  cases found : update.get? key with
  | none =>
      rw [found] at after
      simp [← Except.ok.inj after]
  | some inner =>
      rw [found] at after
      simpa using IncOrDec.count_applyUpdate after

/-- An applied keyed counter update adds its amount to each key's counter. -/
theorem count_applyUpdate {update : MultiTargetUpdate K IncOrDec} {entity result : C}
    (applied : update.applyUpdate entity = .ok result) (key : K) :
    (IncOrDec.count (get result key) : ℤ) = IncOrDec.count (get entity key) + update.rawAt key :=
  count_valueAfter (valueAfter_of_applyUpdate applied key)

omit [CounterValue V] [LawfulCounterValue V] in
theorem capacity_applyUpdate {U : Type} [GetUpdateKind U (Option V)] [ApplyUpdate U (Option V)]
    {update : MultiTargetUpdate K U} {entity result : C} (applied : update.applyUpdate entity = .ok result) :
    capacity result = capacity entity :=
  Except.foldlM_preserves capacity (fun _ _ _ stepped => capacity_applyEntry stepped) applied

omit [CounterValue V] [LawfulCounterValue V] in
/-- A step on a key the container holds never makes it longer. -/
theorem len_applyEntry_le {U : Type} [ApplyUpdate U (Option V)] {current next : C} {key : K}
    {inner : U} (present : (get current key).isSome) (stepped : applyEntry current (key, inner) = .ok next) :
    len next ≤ len current := by
  obtain ⟨value, -, placed⟩ := applyEntry_eq_ok.mp stepped
  have taken := LawfulKeyValue.len_take (V := V) current key
  rw [if_pos present] at taken
  cases value with
  | none =>
      rw [placed, taken]
      omega
  | some newValue =>
      have absentAfter : get (take current key).2 key = none := by
        rw [LawfulKeyValue.get_take, if_pos rfl]
      have positive := len_pos_of_isSome present
      rw [LawfulKeyValue.len_tryAdd placed, absentAfter, taken]
      simp only [Option.isSome_none, Bool.false_eq_true, if_false]
      omega

omit [LinearOrder K] [CounterValue V] [LawfulCounterValue V] [LawfulKeyValue C K V] in
/-- Only a decrement of a present counter is reported as a removal. -/
theorem present_of_isRemoval {entity : C} {entry : K × IncOrDec}
    (removal : isRemoval entity entry = true) : (get entity entry.1).isSome := by
  obtain ⟨key, inner⟩ := entry
  unfold isRemoval at removal
  cases found : get entity key with
  | none => cases inner <;> simp_all [IncOrDec.kind]
  | some value => rfl

/-- The state of `apply_update` of a counter update with `pending` still to apply: the
progress, the capacity, the removals still in front, and, while a removal is left, no
more counters than at the start. -/
structure CounterRun (update : MultiTargetUpdate K IncOrDec) (entity current : C)
    (pending : List (K × IncOrDec)) : Prop where
  progress : Progress update entity current pending
  capacity_eq : capacity current = capacity entity
  removalsFirst : pending.Pairwise fun first second =>
    isRemoval entity first = false → isRemoval entity second = false
  shrinking : (∃ entry ∈ pending, isRemoval entity entry = true) → len current ≤ len entity

omit [LawfulCounterValue V] [LawfulKeyValue C K V] in
theorem counterRun_start (update : MultiTargetUpdate K IncOrDec) (entity : C) :
    CounterRun update entity entity ((update.updates.entries.partition (isRemoval entity)).1 ++
      (update.updates.entries.partition (isRemoval entity)).2) :=
  ⟨progress_start update entity, rfl, removalsFirst_partition entity update.updates.entries,
    fun _ => le_refl _⟩

section Step

variable {update : MultiTargetUpdate K IncOrDec} {entity final current : C}
  (target : ∀ key, (IncOrDec.count (get final key) : ℤ) =
    IncOrDec.count (get entity key) + update.rawAt key)

include target

/-- Once no removal is left, every counter present is present in the final map: a key
already applied holds its final counter, a key still pending holds its old counter,
which an update that is no removal never lowers. -/
theorem CounterRun.within_final {key : K} {inner : IncOrDec} {rest : List (K × IncOrDec)}
    (run : CounterRun update entity current ((key, inner) :: rest))
    (kept : isRemoval entity (key, inner) = false) (other : K)
    (present : (get (take current key).2 other).isSome) : (get final other).isSome := by
  rw [LawfulKeyValue.get_take] at present
  split at present
  · simp at present
  rename_i differs
  rw [IncOrDec.isSome_iff_count_pos] at present ⊢
  have atOther := target other
  by_cases pending : other ∈ rest.map Prod.fst
  · -- still pending: its old counter, and its update is no removal
    obtain ⟨later, mem, rfl⟩ := List.mem_map.mp pending
    have old := run.progress.untouched later.1 (by simp [pending])
    have recorded := run.progress.pending_mem later (List.mem_cons_of_mem _ mem)
    have laterKept := (List.pairwise_cons.mp run.removalsFirst).1 later mem kept
    rw [old] at present
    cases found : get entity later.1 with
    | none => simp [found] at present
    | some value =>
        have notRemoval : later.2.kind (some value) ≠ .remove := by
          simpa [isRemoval, found] using laterKept
        have nonneg := IncOrDec.raw_nonneg_of_kind_ne_remove notRemoval
        rw [found] at present
        simp only [rawAt, recorded, found, Option.map_some, Option.getD_some] at atOther
        omega
  · -- already applied: its final counter
    have applied := run.progress.applied other (by simp [differs, pending])
    have counted := count_valueAfter applied
    omega

/-- One step of applying a counter update whose result fits: it succeeds, and keeps the
run's state. -/
theorem CounterRun.step {key : K} {inner : IncOrDec} {rest : List (K × IncOrDec)}
    (run : CounterRun update entity current ((key, inner) :: rest))
    (roomFinal : ∀ cap, capacity entity = some cap → len final ≤ cap) :
    ∃ next, applyEntry current (key, inner) = .ok next ∧ CounterRun update entity next rest := by
  have old : get current key = get entity key := run.progress.untouched key (List.mem_cons_self ..)
  have recorded := run.progress.pending_mem (key, inner) (List.mem_cons_self ..)
  have atKey := target key
  simp only [rawAt, recorded, Option.map_some, Option.getD_some] at atKey
  have finalBound := IncOrDec.count_le_u32Max (get final key)
  have nonneg : 0 ≤ (IncOrDec.count (get entity key) : ℤ) + inner.raw := by omega
  have fits : (IncOrDec.count (get entity key) : ℤ) + inner.raw ≤ u32Max := by omega
  obtain ⟨value, applied⟩ := IncOrDec.applyUpdate_ok_of_count nonneg fits
  have counted := IncOrDec.count_applyUpdate applied
  have appliedNow : ApplyUpdate.applyUpdate inner (get current key) = .ok value := by
    rw [old]
    exact applied
  have room : value.isSome → ∀ cap, capacity current = some cap → len (take current key).2 < cap := by
    intro someValue cap hcap
    rw [run.capacity_eq] at hcap
    rw [LawfulKeyValue.len_take]
    cases removal : isRemoval entity (key, inner)
    · -- no removal is left: the keys held are keys of the final map, which has room
      have within := run.within_final target removal
      have finalHere : (get final key).isSome := by
        rw [IncOrDec.isSome_iff_count_pos] at someValue ⊢
        omega
      have absentAfter : get (take current key).2 key = none := by
        rw [LawfulKeyValue.get_take, if_pos rfl]
      have shorter := KeyValue.len_lt_of_presence within absentAfter finalHere
      have bound := roomFinal cap hcap
      rw [LawfulKeyValue.len_take] at shorter
      omega
    · -- a removal: the map is no longer than at the start, and the key is taken out
      have present : (get current key).isSome := old ▸ present_of_isRemoval removal
      have shrunk := run.shrinking ⟨_, List.mem_cons_self .., removal⟩
      have atMost := LawfulKeyValue.len_le_capacity entity cap hcap
      have positive := len_pos_of_isSome present
      rw [if_pos present]
      omega
  obtain ⟨next, stepped⟩ := applyEntry_ok appliedNow room
  refine ⟨next, stepped, run.progress.step stepped, ?_, (List.pairwise_cons.mp run.removalsFirst).2, ?_⟩
  · rw [capacity_applyEntry stepped, run.capacity_eq]
  · -- a removal left behind means this step was a removal too
    rintro ⟨later, mem, laterRemoval⟩
    cases removal : isRemoval entity (key, inner)
    · have := (List.pairwise_cons.mp run.removalsFirst).1 later mem removal
      simp [this] at laterRemoval
    · have present : (get current key).isSome := old ▸ present_of_isRemoval removal
      exact (len_applyEntry_le present stepped).trans (run.shrinking ⟨_, List.mem_cons_self .., removal⟩)

end Step

/-- Applying the combination of two counter updates does what applying one after the
other does, wherever that does not panic: it does not panic either, and leaves every
key with the same count. -/
theorem applyUpdate_combine {first second combined : MultiTargetUpdate K IncOrDec}
    (made : first.combine second = .ok combined) {entity middle final : C}
    (firstApplied : first.applyUpdate entity = .ok middle)
    (secondApplied : second.applyUpdate middle = .ok final) :
    ∃ result, combined.applyUpdate entity = .ok result ∧
      ∀ key, IncOrDec.count (get result key) = IncOrDec.count (get final key) := by
  have target : ∀ key, (IncOrDec.count (get final key) : ℤ) =
      IncOrDec.count (get entity key) + combined.rawAt key := by
    intro key
    rw [rawAt_combine made, count_applyUpdate secondApplied, count_applyUpdate firstApplied]
    omega
  have roomFinal : ∀ cap, capacity entity = some cap → len final ≤ cap := by
    intro cap hcap
    rw [← capacity_applyUpdate firstApplied, ← capacity_applyUpdate secondApplied] at hcap
    exact LawfulKeyValue.len_le_capacity final cap hcap
  obtain ⟨result, ran, done⟩ := Except.foldlM_ok_of_invariant (CounterRun combined entity)
    (counterRun_start combined entity) (fun _ ⟨_, _⟩ _ run => run.step target roomFinal)
  refine ⟨result, ran, fun key => ?_⟩
  have counted := count_valueAfter (done.progress.applied key (by simp))
  have atKey := target key
  omega

end Applied

end MultiTargetUpdate

end DockSubstrate.Util

namespace DockSubstrate.Util

open DockSubstrate.Lib KeyValue

/-- The counter of the source's batch-update tests: a `NonZeroU32` newtype. -/
structure Counter where
  value : NonZeroU32
  deriving DecidableEq, Repr

instance : CounterValue Counter := ⟨Counter.value, Counter.mk⟩

instance : LawfulCounterValue Counter := ⟨fun _ => rfl⟩

/-- Counter updates combine additively: two counter updates combine exactly when their
summed amount fits a `u32`, into an update of that amount; and the combination of two
keyed counter updates, applied to a counter map on which applying one after the other
does not panic, does not panic either and leaves each key with its old count plus both
amounts, the count the two leave there. -/
theorem counterUpdates_combine_additively :
    (∀ first second : IncOrDec,
      ((∃ combined, first.combine second = .ok combined) ↔ (first.raw + second.raw).natAbs ≤ u32Max) ∧
      ∀ combined, first.combine second = .ok combined → combined.raw = first.raw + second.raw) ∧
    ∀ {K C V : Type} [LinearOrder K] [CounterValue V] [LawfulCounterValue V] [KeyValue C K V]
      [LawfulKeyValue C K V] (first second combined : MultiTargetUpdate K IncOrDec)
      (entity middle final : C),
      first.combine second = .ok combined → first.applyUpdate entity = .ok middle →
      second.applyUpdate middle = .ok final →
      ∃ result, combined.applyUpdate entity = .ok result ∧ ∀ key,
        IncOrDec.count (get result key) = IncOrDec.count (get final key) ∧
        (IncOrDec.count (get result key) : ℤ) =
          IncOrDec.count (get entity key) + first.rawAt key + second.rawAt key := by
  refine ⟨fun first second => ⟨IncOrDec.combine_ok_iff, fun _ made => IncOrDec.raw_combine made⟩, ?_⟩
  intro K C V _ _ _ _ _ first second combined entity middle final made firstApplied secondApplied
  obtain ⟨result, ran, same⟩ := MultiTargetUpdate.applyUpdate_combine made firstApplied secondApplied
  refine ⟨result, ran, fun key => ⟨same key, ?_⟩⟩
  rw [same key, MultiTargetUpdate.count_applyUpdate secondApplied,
    MultiTargetUpdate.count_applyUpdate firstApplied]

/-- An increment and a decrement of one counter combine into nothing, which leaves an
empty map empty, as the two applied one after the other do. -/
theorem counterUpdates_combine_additively_incDec :
    ∃ result, (MultiTargetUpdate.ofList [(0, IncOrDec.none)] : MultiTargetUpdate Nat IncOrDec).applyUpdate
        (∅ : SortedMap Nat Counter) = .ok result ∧
      ∀ key, IncOrDec.count (get result key) = IncOrDec.count (get (∅ : SortedMap Nat Counter) key) := by
  obtain ⟨result, ran, same⟩ := counterUpdates_combine_additively.2
    (MultiTargetUpdate.ofList [(0, .inc IncOrDec.ONE)]) (MultiTargetUpdate.ofList [(0, .dec IncOrDec.ONE)])
    (MultiTargetUpdate.ofList [(0, .none)]) (∅ : SortedMap Nat Counter)
    (SortedMap.ofList [(0, ⟨IncOrDec.ONE⟩)]) ∅ rfl rfl rfl
  exact ⟨result, ran, fun key => (same key).1⟩

end DockSubstrate.Util
