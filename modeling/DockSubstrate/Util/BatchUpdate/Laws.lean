import Mathlib
import DockSubstrate.Util.BatchUpdate.MultiTarget
import DockSubstrate.Lib.Except

/-!
# Laws of the batch-update algebra

`MultiTargetUpdate::ensure_valid` predicts the length of the container after the
update from the kinds of the inner updates, and `apply_update` orders its steps by
kind.  Both rely on two properties of the inner updates, stated here as classes:

* `FaithfulKind`: the kind says what the application does to the presence of the
  value (`Add` creates it, `Remove` deletes it, every other kind keeps it as it was);
* `ValidApplies`: an update that passed `ensure_valid` applies without panicking.

Every combinator except `IncOrDec` inherits both from its inner updates, and a
`MultiTargetUpdate` of faithful, valid-applying updates over a lawful container
applies without panicking whenever it is valid, to a container whose length is the
predicted one (`MultiTargetUpdate.applyUpdate_of_ensureValid`).  `IncOrDec` is not
faithful: it reports every decrement of a present counter as a removal.
-/

namespace DockSubstrate.Util

open DockSubstrate.Lib KeyValue

/-! ## The classes -/

/-- The change of presence a kind stands for. -/
def UpdateKind.Describes {V : Type} : UpdateKind → Option V → Option V → Prop
  | .add, before, after => before = .none ∧ after.isSome
  | .remove, before, after => before.isSome ∧ after = .none
  | _, before, after => after.isSome = before.isSome

/-- The kind of an update of an optional value describes its application. -/
class FaithfulKind (U V : Type) [GetUpdateKind U (Option V)] [ApplyUpdate U (Option V)] : Prop where
  describes : ∀ (update : U) (entity result : Option V),
    ApplyUpdate.applyUpdate update entity = .ok result →
      (GetUpdateKind.kind update entity).Describes entity result

/-- An update of a present value that never reports `Add` or `Remove`. -/
class ReplacingKind (U E : Type) [GetUpdateKind U E] : Prop where
  replacing : ∀ (update : U) (entity : E),
    GetUpdateKind.kind update entity = .replace ∨ GetUpdateKind.kind update entity = .none

/-- A validated update applies without panicking. -/
class ValidApplies (A U E : Type) [ValidateUpdate A U E] [ApplyUpdate U E] : Prop where
  applies : ∀ (update : U) (actor : A) (entity : E),
    ValidateUpdate.ensureValid update actor entity = .ok () →
      ∃ result, ApplyUpdate.applyUpdate update entity = .ok result

theorem UpdateKind.describes_of_replacing {V : Type} {updateKind : UpdateKind}
    (replacing : updateKind = .replace ∨ updateKind = .none) (before after : Option V)
    (kept : after.isSome = before.isSome) : updateKind.Describes before after := by
  rcases replacing with rfl | rfl <;> exact kept

/-! ## The unit update -/

instance (V : Type) : FaithfulKind Unit V where
  describes _ entity result applied := by
    cases applied
    rfl

instance (E : Type) : ReplacingKind Unit E where
  replacing _ _ := .inr rfl

instance (A E : Type) : ValidApplies A Unit E where
  applies _ _ entity _ := ⟨entity, rfl⟩

/-! ## Value combinators -/

section ValueCombinators

variable {A V U : Type}

instance [DecidableEq V] [GetUpdateKind U (Option V)] [ApplyUpdate U (Option V)]
    [FaithfulKind U V] : FaithfulKind (SetOrAddOrRemoveOrModify V U) V where
  describes update entity result applied := by
    cases update with
    | set value =>
        cases applied
        cases entity with
        | none => exact ⟨rfl, rfl⟩
        | some current =>
            simp only [SetOrAddOrRemoveOrModify.kind_eq, SetOrAddOrRemoveOrModify.kind]
            split <;> rfl
    | add value =>
        cases entity with
        | none =>
            cases applied
            exact ⟨rfl, rfl⟩
        | some current => cases applied
    | remove =>
        cases entity with
        | none => cases applied
        | some current =>
            cases applied
            exact ⟨rfl, rfl⟩
    | modify inner => exact FaithfulKind.describes inner entity result applied

instance [CanUpdate A V] [ValidateUpdate A U (Option V)] [ApplyUpdate U (Option V)]
    [ValidApplies A U (Option V)] : ValidApplies A (SetOrAddOrRemoveOrModify V U) (Option V) where
  applies update actor entity valid := by
    cases update with
    | set value => exact ⟨some value, rfl⟩
    | add value =>
        cases entity with
        | none => exact ⟨some value, rfl⟩
        | some current =>
            simp only [SetOrAddOrRemoveOrModify.ensureValid_eq,
              SetOrAddOrRemoveOrModify.ensureValid] at valid
            split at valid <;> simp at valid
    | remove =>
        cases entity with
        | none => cases valid
        | some current => exact ⟨none, rfl⟩
    | modify inner => exact ValidApplies.applies inner actor entity valid

instance [GetUpdateKind U (Option V)] [ApplyUpdate U (Option V)] [FaithfulKind U V] :
    FaithfulKind (AddOrRemoveOrModify V U) V where
  describes update entity result applied := by
    cases update with
    | add value =>
        cases entity with
        | none =>
            cases applied
            exact ⟨rfl, rfl⟩
        | some current => cases applied
    | remove =>
        cases entity with
        | none => cases applied
        | some current =>
            cases applied
            exact ⟨rfl, rfl⟩
    | modify inner => exact FaithfulKind.describes inner entity result applied

instance [CanUpdate A V] [ValidateUpdate A U (Option V)] [ApplyUpdate U (Option V)]
    [ValidApplies A U (Option V)] : ValidApplies A (AddOrRemoveOrModify V U) (Option V) where
  applies update actor entity valid := by
    cases update with
    | add value =>
        cases entity with
        | none => exact ⟨some value, rfl⟩
        | some current =>
            simp only [AddOrRemoveOrModify.ensureValid_eq, AddOrRemoveOrModify.ensureValid] at valid
            split at valid <;> simp at valid
    | remove =>
        cases entity with
        | none => cases valid
        | some current => exact ⟨none, rfl⟩
    | modify inner => exact ValidApplies.applies inner actor entity valid

instance [DecidableEq V] [GetUpdateKind U V] [ReplacingKind U V] :
    ReplacingKind (SetOrModify V U) V where
  replacing update entity := by
    cases update with
    | set value =>
        simp only [SetOrModify.kind_eq, SetOrModify.kind]
        split
        · exact .inr rfl
        · exact .inl rfl
    | modify inner => exact ReplacingKind.replacing inner entity

instance [CanUpdate A V] [ValidateUpdate A U V] [ApplyUpdate U V] [ValidApplies A U V] :
    ValidApplies A (SetOrModify V U) V where
  applies update actor entity valid := by
    cases update with
    | set value => exact ⟨value, rfl⟩
    | modify inner => exact ValidApplies.applies inner actor entity valid

instance [GetUpdateKind U V] [ApplyUpdate U V] [ReplacingKind U V] :
    FaithfulKind (OnlyExistent U) V where
  describes update entity result applied := by
    obtain ⟨inner⟩ := update
    cases entity with
    | none => cases applied
    | some current =>
        obtain ⟨updated, -, rfl⟩ := Except.map_eq_ok.mp applied
        exact UpdateKind.describes_of_replacing (ReplacingKind.replacing inner current) _ _ rfl

instance [ValidateUpdate A U V] [ApplyUpdate U V] [ValidApplies A U V] :
    ValidApplies A (OnlyExistent U) (Option V) where
  applies update actor entity valid := by
    obtain ⟨inner⟩ := update
    cases entity with
    | none => cases valid
    | some current =>
        obtain ⟨updated, applied⟩ := ValidApplies.applies inner actor current valid
        exact ⟨some updated, by simp [OnlyExistent.applyUpdate, applied, Except.map]⟩

instance [CounterValue V] [CanUpdate A V] : ValidApplies A IncOrDec (Option V) where
  applies update actor entity valid := by
    simp only [IncOrDec.ensureValid_eq] at valid
    cases update with
    | inc amount =>
        cases entity with
        | none => exact ⟨_, rfl⟩
        | some current =>
            cases added : (CounterValue.toNonZero current).checkedAdd amount.get with
            | none => simp [IncOrDec.ensureValid, added] at valid
            | some sum =>
                exact ⟨some (CounterValue.ofNonZero sum), by simp [IncOrDec.applyUpdate, added]⟩
    | dec amount =>
        cases entity with
        | none => cases valid
        | some current =>
            cases remaining : checkedSub (CounterValue.toNonZero current).get amount.get with
            | none => simp [IncOrDec.ensureValid, remaining] at valid
            | some rest =>
                exact ⟨(NonZeroU32.new rest).map CounterValue.ofNonZero,
                  by simp [IncOrDec.applyUpdate, remaining]⟩
    | none => exact ⟨entity, rfl⟩

end ValueCombinators

/-! ## Keyed updates -/

namespace MultiTargetUpdate

variable {A C K V U : Type} [LinearOrder K] [KeyValue C K V]

/-- A keyed update is reported as `Replace` or `None`, never as `Add` or `Remove`. -/
theorem kind_replacing [GetUpdateKind U (Option V)] (update : MultiTargetUpdate K U) (entity : C) :
    update.kind entity = .replace ∨ update.kind entity = .none := by
  unfold kind
  split
  · exact .inl rfl
  · exact .inr rfl

instance [GetUpdateKind U (Option V)] : ReplacingKind (MultiTargetUpdate K U) C :=
  ⟨kind_replacing⟩

/-- The value the update leaves at `key`: its inner update applied to the key's value. -/
def valueAfter [ApplyUpdate U (Option V)] (update : MultiTargetUpdate K U) (entity : C) (key : K) :
    Except Panic (Option V) :=
  match update.get? key with
  | .none => .ok (get entity key)
  | .some inner => ApplyUpdate.applyUpdate inner (get entity key)

/-- The state of `apply_update` with the entries `pending` still to apply: the keys of the
pending entries hold their old values, every other key holds its final value. -/
structure Progress [ApplyUpdate U (Option V)] (update : MultiTargetUpdate K U) (entity current : C)
    (pending : List (K × U)) : Prop where
  pending_mem : ∀ entry ∈ pending, update.get? entry.1 = some entry.2
  pending_nodup : (pending.map Prod.fst).Nodup
  untouched : ∀ key ∈ pending.map Prod.fst, get current key = get entity key
  applied : ∀ key ∉ pending.map Prod.fst, update.valueAfter entity key = .ok (get current key)

/-- The entries `apply_update` goes through: the removals, then the others. -/
theorem perm_partition [GetUpdateKind U (Option V)] (update : MultiTargetUpdate K U) (entity : C) :
    List.Perm ((update.updates.entries.partition (isRemoval entity)).1 ++
      (update.updates.entries.partition (isRemoval entity)).2) update.updates.entries := by
  rw [List.partition_eq_filter_filter]
  exact List.filter_append_perm _ _

omit [LinearOrder K] in
/-- `apply_update` lists the removals before every other entry. -/
theorem removalsFirst_partition [GetUpdateKind U (Option V)] (entity : C) (entries : List (K × U)) :
    ((entries.partition (isRemoval entity)).1 ++ (entries.partition (isRemoval entity)).2).Pairwise
      fun first second => isRemoval entity first = false → isRemoval entity second = false := by
  rw [List.partition_eq_filter_filter, List.pairwise_append]
  have kept : ∀ entry ∈ entries.filter (not ∘ isRemoval entity), isRemoval entity entry = false :=
    fun entry mem => by simpa using (List.mem_filter.mp mem).2
  refine ⟨?_, ?_, fun _ _ second hsecond _ => kept second hsecond⟩
  · refine List.Pairwise.imp_of_mem (fun hfirst _ _ notRemoval => ?_)
      (List.pairwise_of_forall fun _ _ => trivial)
    have removal := (List.mem_filter.mp hfirst).2
    simp [notRemoval] at removal
  · exact List.Pairwise.imp_of_mem (fun _ hsecond _ _ => kept _ hsecond)
      (List.pairwise_of_forall fun _ _ => trivial)

theorem progress_start [GetUpdateKind U (Option V)] [ApplyUpdate U (Option V)]
    (update : MultiTargetUpdate K U) (entity : C) :
    Progress update entity entity ((update.updates.entries.partition (isRemoval entity)).1 ++
      (update.updates.entries.partition (isRemoval entity)).2) := by
  have perm := perm_partition update entity
  refine ⟨fun entry mem => ?_, ?_, fun _ _ => rfl, fun key absent => ?_⟩
  · exact Entries.lookup_eq_some_of_mem update.updates.sorted (perm.subset mem)
  · exact (perm.map Prod.fst).nodup_iff.mpr (SortedMap.keys_nodup update.updates)
  · have missing : update.get? key = none := by
      apply Entries.lookup_eq_none_of_forall_ne
      intro entry mem same
      exact absent (same ▸ List.mem_map_of_mem (perm.symm.subset mem))
    simp [valueAfter, missing]

/-- The change of length `ensure_valid` counts for some entries. -/
def lenChange [GetUpdateKind U (Option V)] (entity : C) (entries : List (K × U)) : Int :=
  (entries.map fun entry => (GetUpdateKind.kind entry.2 (get entity entry.1)).lenDiff).sum

omit [LinearOrder K] in
theorem lenChange_nonneg [GetUpdateKind U (Option V)] {entity : C} {entries : List (K × U)}
    (kept : ∀ entry ∈ entries, isRemoval entity entry = false) : 0 ≤ lenChange entity entries := by
  unfold lenChange
  apply List.sum_nonneg
  intro change mem
  obtain ⟨entry, hentry, rfl⟩ := List.mem_map.mp mem
  have notRemoval := kept entry hentry
  unfold isRemoval at notRemoval
  cases hkind : GetUpdateKind.kind entry.2 (get entity entry.1) <;>
    simp_all [UpdateKind.lenDiff]

/-- `newLen` validates every entry and counts the predicted length. -/
theorem newLen_eq_ok [GetUpdateKind U (Option V)] [ValidateUpdate A U (Option V)]
    {update : MultiTargetUpdate K U} {actor : A} {entity : C} {predicted : Int}
    (counted : update.newLen actor entity = .ok predicted) :
    (∀ entry ∈ update.updates.entries,
        ValidateUpdate.ensureValid entry.2 actor (get entity entry.1) = .ok ()) ∧
      predicted = len entity + lenChange entity update.updates.entries := by
  -- the entries already counted are valid, and the count plus what is left is the total
  let Counted := fun (acc : Int) (pending : List (K × U)) =>
    (∀ entry ∈ update.updates.entries, entry ∈ pending ∨
        ValidateUpdate.ensureValid entry.2 actor (get entity entry.1) = .ok ()) ∧
      acc + lenChange entity pending = len entity + lenChange entity update.updates.entries
  have step : ∀ acc entry rest acc', Counted acc (entry :: rest) →
      (do
          ValidateUpdate.ensureValid entry.2 actor (get entity entry.1)
          pure (acc + (GetUpdateKind.kind entry.2 (get entity entry.1)).lenDiff) :
        Except UpdateError Int) = .ok acc' →
      Counted acc' rest := by
    intro acc entry rest acc' ⟨covered, total⟩ stepped
    obtain ⟨⟨⟩, valid, summed⟩ := Except.bind_eq_ok.mp stepped
    obtain rfl := Except.pure_eq_ok.mp summed
    refine ⟨fun other mem => ?_, ?_⟩
    · rcases covered other mem with pending | done
      · rcases List.mem_cons.mp pending with rfl | later
        · exact .inr valid
        · exact .inl later
      · exact .inr done
    · rw [← total]
      simp only [lenChange, List.map_cons, List.sum_cons]
      omega
  have final := Except.foldlM_invariant Counted ⟨fun entry mem => .inl mem, rfl⟩ step counted
  refine ⟨fun entry mem => (final.1 entry mem).resolve_left (by simp), ?_⟩
  simpa [lenChange] using final.2

/-- What a successful `ensure_valid` has checked. -/
theorem ensureValid_eq_ok [CanUpdateKeyed A C K] [GetUpdateKind U (Option V)]
    [ValidateUpdate A U (Option V)] {update : MultiTargetUpdate K U} {actor : A} {entity : C}
    (valid : update.ensureValid actor entity = .ok ()) :
    canUpdateKeyed actor entity update.keys = true ∧
      ∃ predicted, update.newLen actor entity = .ok predicted ∧ 0 ≤ predicted ∧
        ∀ cap, capacity entity = some cap → predicted ≤ cap := by
  cases allowed : canUpdateKeyed actor entity update.keys
  · simp [ensureValid, allowed] at valid
  rw [ensureValid, allowed] at valid
  obtain ⟨predicted, counted, checked⟩ := Except.bind_eq_ok.mp valid
  refine ⟨rfl, predicted, counted, ?_⟩
  split at checked
  · simp at checked
  · rename_i nonneg
    split at checked
    · rename_i fits
      refine ⟨by omega, fun cap hcap => ?_⟩
      rw [hcap] at fits
      simp only [Option.all_some, decide_eq_true_eq] at fits
      omega
    · simp at checked

variable [LawfulKeyValue C K V]

theorem len_pos_of_isSome {entity : C} {key : K} (present : (get entity key).isSome) :
    0 < len entity := by
  rw [LawfulKeyValue.len_eq_length_keys (K := K) (V := V)]
  exact List.length_pos_of_mem ((LawfulKeyValue.mem_keys entity key).mpr present)

/-- One step of the application: the inner update's result is put back, or the key is
left out when the result is `None`. -/
theorem applyEntry_eq_ok [ApplyUpdate U (Option V)] {current next : C} {key : K} {inner : U} :
    applyEntry current (key, inner) = .ok next ↔
      ∃ value, ApplyUpdate.applyUpdate inner (get current key) = .ok value ∧
        match value with
        | .none => next = (take current key).2
        | .some newValue => tryAdd (take current key).2 key newValue = some next := by
  rw [applyEntry]
  simp only [LawfulKeyValue.take_fst, Except.bind_eq_ok]
  refine exists_congr fun value => and_congr_right fun _ => ?_
  cases value with
  | none =>
      simp only [Except.pure_eq_ok]
      exact eq_comm
  | some newValue =>
      simp only
      split <;> simp_all

/-- One step of the application changes the value of its key only. -/
theorem get_applyEntry [ApplyUpdate U (Option V)] {current next : C} {key : K} {inner : U}
    (stepped : applyEntry current (key, inner) = .ok next) :
    ∃ value, ApplyUpdate.applyUpdate inner (get current key) = .ok value ∧
      ∀ other, get next other = if other = key then value else get current other := by
  obtain ⟨value, applied, placed⟩ := applyEntry_eq_ok.mp stepped
  refine ⟨value, applied, fun other => ?_⟩
  cases value with
  | none => rw [placed, LawfulKeyValue.get_take]
  | some newValue =>
      rw [LawfulKeyValue.get_tryAdd placed, LawfulKeyValue.get_take]
      by_cases same : other = key <;> simp [same]

/-- One step of the application changes the length as the kind of its update says. -/
theorem len_applyEntry [ApplyUpdate U (Option V)] {current next : C} {key : K} {inner : U}
    {value : Option V} {updateKind : UpdateKind}
    (stepped : applyEntry current (key, inner) = .ok next)
    (applied : ApplyUpdate.applyUpdate inner (get current key) = .ok value)
    (describes : updateKind.Describes (get current key) value) :
    (len next : Int) = len current + updateKind.lenDiff := by
  obtain ⟨value', applied', placed⟩ := applyEntry_eq_ok.mp stepped
  obtain rfl : value = value' := Except.ok.inj (applied.symm.trans applied')
  have taken := LawfulKeyValue.len_take (V := V) current key
  cases value with
  | none =>
      -- the key is left out: the length drops by one exactly when it was present
      rw [placed, taken]
      cases updateKind with
      | add => exact absurd describes.2 (by simp)
      | remove =>
          have positive := len_pos_of_isSome describes.1
          rw [if_pos describes.1]
          simp only [UpdateKind.lenDiff]
          omega
      | replace | none =>
          have absent : (get current key).isSome = false := describes.symm
          rw [if_neg (by simp [absent])]
          simp [UpdateKind.lenDiff]
  | some newValue =>
      -- the value is put back into the container the key was taken out of
      have absentAfter : get (take current key).2 key = none := by
        rw [LawfulKeyValue.get_take, if_pos rfl]
      rw [LawfulKeyValue.len_tryAdd placed, absentAfter, taken]
      simp only [Option.isSome_none, Bool.false_eq_true, if_false]
      cases updateKind with
      | add =>
          rw [if_neg (by simp [describes.1])]
          simp [UpdateKind.lenDiff]
      | remove => exact absurd describes.2 (by simp)
      | replace | none =>
          have present : (get current key).isSome := describes.symm ▸ rfl
          have positive := len_pos_of_isSome present
          rw [if_pos present]
          simp only [UpdateKind.lenDiff]
          omega

theorem capacity_applyEntry [ApplyUpdate U (Option V)] {current next : C} {key : K} {inner : U}
    (stepped : applyEntry current (key, inner) = .ok next) : capacity next = capacity current := by
  obtain ⟨value, -, placed⟩ := applyEntry_eq_ok.mp stepped
  cases value with
  | none => rw [placed, LawfulKeyValue.capacity_take]
  | some newValue => rw [LawfulKeyValue.capacity_tryAdd placed, LawfulKeyValue.capacity_take]

/-- A step succeeds when the inner update does and the container has room for a result
that is put back. -/
theorem applyEntry_ok [ApplyUpdate U (Option V)] {current : C} {key : K} {inner : U}
    {value : Option V} (applied : ApplyUpdate.applyUpdate inner (get current key) = .ok value)
    (room : value.isSome → ∀ cap, capacity current = some cap → len (take current key).2 < cap) :
    ∃ next, applyEntry current (key, inner) = .ok next := by
  cases value with
  | none => exact ⟨_, applyEntry_eq_ok.mpr ⟨none, applied, rfl⟩⟩
  | some newValue =>
      have absent : get (take current key).2 key = none := by
        rw [LawfulKeyValue.get_take, if_pos rfl]
      have fits := (LawfulKeyValue.tryAdd_isSome _ key newValue absent).mpr fun cap hcap =>
        room rfl cap (by rwa [LawfulKeyValue.capacity_take] at hcap)
      obtain ⟨added, hadded⟩ := Option.isSome_iff_exists.mp fits
      exact ⟨added, applyEntry_eq_ok.mpr ⟨some newValue, applied, hadded⟩⟩

theorem Progress.step [ApplyUpdate U (Option V)] {update : MultiTargetUpdate K U}
    {entity current next : C} {entry : K × U} {rest : List (K × U)}
    (progress : Progress update entity current (entry :: rest))
    (stepped : applyEntry current entry = .ok next) : Progress update entity next rest := by
  obtain ⟨key, inner⟩ := entry
  obtain ⟨value, applied, changed⟩ := get_applyEntry stepped
  have fresh : key ∉ rest.map Prod.fst := (List.nodup_cons.mp progress.pending_nodup).1
  have old : get current key = get entity key := progress.untouched key (List.mem_cons_self ..)
  refine ⟨fun other mem => progress.pending_mem other (List.mem_cons_of_mem _ mem),
    (List.nodup_cons.mp progress.pending_nodup).2, fun other mem => ?_, fun other absent => ?_⟩
  · -- a pending key is not the key just applied
    have differs : other ≠ key := fun same => fresh (same ▸ mem)
    rw [changed, if_neg differs]
    exact progress.untouched other (List.mem_cons_of_mem _ mem)
  · rw [changed]
    by_cases same : other = key
    · subst same
      have recorded := progress.pending_mem (other, inner) (List.mem_cons_self ..)
      rw [if_pos rfl, ← applied, old]
      simp [valueAfter, recorded]
    · rw [if_neg same]
      exact progress.applied other (by simp [same, absent])

/-- A successful application leaves at every key the value its inner update gives. -/
theorem valueAfter_of_applyUpdate [GetUpdateKind U (Option V)] [ApplyUpdate U (Option V)]
    {update : MultiTargetUpdate K U} {entity result : C}
    (applied : update.applyUpdate entity = .ok result) (key : K) :
    update.valueAfter entity key = .ok (get result key) := by
  have final := Except.foldlM_invariant (Progress update entity) (progress_start update entity)
    (fun _ _ _ _ progress stepped => progress.step stepped) applied
  exact final.applied key (by simp)

/-- A successful application leaves every key the update does not name as it was. -/
theorem get_applyUpdate_of_get?_eq_none [GetUpdateKind U (Option V)] [ApplyUpdate U (Option V)]
    {update : MultiTargetUpdate K U} {entity result : C} (applied : update.applyUpdate entity = .ok result)
    {key : K} (absent : update.get? key = none) : get result key = get entity key := by
  have after := valueAfter_of_applyUpdate applied key
  rw [valueAfter, absent] at after
  exact (Except.ok.inj after).symm

/-- The state of a validated `apply_update` with `pending` still to apply: the progress,
the validity of the pending entries, the removals still in front, and the length
bookkeeping of `ensure_valid`. -/
structure Budget [GetUpdateKind U (Option V)] [ApplyUpdate U (Option V)]
    [ValidateUpdate A U (Option V)] (update : MultiTargetUpdate K U) (actor : A)
    (entity current : C) (pending : List (K × U)) (predicted : Int) : Prop where
  progress : Progress update entity current pending
  valid : ∀ entry ∈ pending, ValidateUpdate.ensureValid entry.2 actor (get entity entry.1) = .ok ()
  removalsFirst : pending.Pairwise fun first second =>
    isRemoval entity first = false → isRemoval entity second = false
  len_eq : (len current : Int) + lenChange entity pending = predicted
  capacity_eq : capacity current = capacity entity

section Budget

variable [GetUpdateKind U (Option V)] [ApplyUpdate U (Option V)] [ValidateUpdate A U (Option V)]

omit [LawfulKeyValue C K V] in
theorem budget_start [CanUpdateKeyed A C K] {update : MultiTargetUpdate K U} {actor : A}
    {entity : C} {predicted : Int} (counted : update.newLen actor entity = .ok predicted) :
    Budget update actor entity entity ((update.updates.entries.partition (isRemoval entity)).1 ++
      (update.updates.entries.partition (isRemoval entity)).2) predicted := by
  have perm := perm_partition update entity
  obtain ⟨valid, total⟩ := newLen_eq_ok counted
  refine ⟨progress_start update entity, fun entry mem => valid entry (perm.subset mem), ?_, ?_, rfl⟩
  · exact removalsFirst_partition entity update.updates.entries
  · rw [total]
    unfold lenChange
    rw [(perm.map _).sum_eq]

/-- One validated step succeeds and keeps the budget: an update reported as `Add` finds
room because no removal is left behind it, any other update that puts a value back
frees the place it takes. -/
theorem Budget.step [FaithfulKind U V] [ValidApplies A U (Option V)]
    {update : MultiTargetUpdate K U} {actor : A} {entity current : C} {entry : K × U}
    {rest : List (K × U)} {predicted : Int}
    (budget : Budget update actor entity current (entry :: rest) predicted)
    (fits : ∀ cap, capacity entity = some cap → predicted ≤ cap) :
    ∃ next, applyEntry current entry = .ok next ∧ Budget update actor entity next rest predicted := by
  obtain ⟨key, inner⟩ := entry
  have old : get current key = get entity key := budget.progress.untouched key (List.mem_cons_self ..)
  obtain ⟨value, applied⟩ :=
    ValidApplies.applies inner actor (get entity key) (budget.valid _ (List.mem_cons_self ..))
  have describes := FaithfulKind.describes inner _ _ applied
  have appliedNow : ApplyUpdate.applyUpdate inner (get current key) = .ok value := old ▸ applied
  have total := budget.len_eq
  simp only [lenChange, List.map_cons, List.sum_cons] at total
  have room : value.isSome → ∀ cap, capacity current = some cap →
      len (take current key).2 < cap := by
    intro someValue cap hcap
    rw [budget.capacity_eq] at hcap
    have bound := fits cap hcap
    rw [LawfulKeyValue.len_take]
    cases hkind : GetUpdateKind.kind inner (get entity key) <;> rw [hkind] at describes total
    · -- an addition: every entry left is no removal, so the length only grows from here
      have kept : ∀ later ∈ rest, isRemoval entity later = false := fun later mem =>
        (List.pairwise_cons.mp budget.removalsFirst).1 later mem (by simp [isRemoval, hkind])
      have growing := lenChange_nonneg kept
      rw [if_neg (by simp [old, describes.1])]
      rw [show UpdateKind.add.lenDiff = 1 from rfl] at total
      unfold lenChange at growing
      omega
    · exact absurd describes.2 (by simp [Option.ne_none_iff_isSome.mpr someValue])
    all_goals
      have present : (get current key).isSome := by rw [old, ← describes]; exact someValue
      have atMost := LawfulKeyValue.len_le_capacity current cap (budget.capacity_eq ▸ hcap)
      have positive := len_pos_of_isSome present
      rw [if_pos present]
      omega
  obtain ⟨next, stepped⟩ := applyEntry_ok appliedNow room
  refine ⟨next, stepped, budget.progress.step stepped,
    fun other mem => budget.valid other (List.mem_cons_of_mem _ mem),
    (List.pairwise_cons.mp budget.removalsFirst).2, ?_, ?_⟩
  · have describesNow : (GetUpdateKind.kind inner (get entity key)).Describes (get current key) value := by
      rw [old]
      exact describes
    have grown := len_applyEntry stepped appliedNow describesNow
    unfold lenChange
    omega
  · rw [capacity_applyEntry stepped, budget.capacity_eq]

/-- Validate-then-apply soundness of a keyed update of faithful, valid-applying updates
over a lawful container: a valid update applies without panicking, and the container
ends with the length `ensure_valid` predicted, within its capacity. -/
theorem applyUpdate_of_ensureValid [CanUpdateKeyed A C K] [FaithfulKind U V]
    [ValidApplies A U (Option V)] {update : MultiTargetUpdate K U} {actor : A} {entity : C}
    (valid : update.ensureValid actor entity = .ok ()) :
    ∃ result, update.applyUpdate entity = .ok result ∧
      (len result : Int) = len entity + lenChange entity update.updates.entries ∧
      ∀ cap, capacity result = some cap → len result ≤ cap := by
  obtain ⟨-, predicted, counted, -, fits⟩ := ensureValid_eq_ok valid
  obtain ⟨-, total⟩ := newLen_eq_ok counted
  obtain ⟨result, ran, final⟩ := Except.foldlM_ok_of_invariant
    (fun current pending => Budget update actor entity current pending predicted)
    (budget_start counted) (fun _ _ _ budget => budget.step fits)
  have finalLen := final.len_eq
  simp only [lenChange, List.map_nil, List.sum_nil, add_zero] at finalLen
  refine ⟨result, ran, by rw [finalLen, total], fun cap hcap => ?_⟩
  rw [final.capacity_eq] at hcap
  have bound := fits cap hcap
  omega

instance [CanUpdateKeyed A C K] [FaithfulKind U V] [ValidApplies A U (Option V)] :
    ValidApplies A (MultiTargetUpdate K U) C where
  applies _ _ _ valid :=
    let ⟨result, applied, _⟩ := applyUpdate_of_ensureValid valid
    ⟨result, applied⟩

end Budget

end MultiTargetUpdate

end DockSubstrate.Util
