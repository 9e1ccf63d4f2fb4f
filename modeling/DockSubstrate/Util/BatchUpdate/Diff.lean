import DockSubstrate.Util.BatchUpdate.Laws

/-!
# Keys diffs

A keyed update reports the keys it adds to and removes from a container
(`keys_diff`), and the trust registry files these diffs under the updated schema
(`record_inner_keys_diff`) to maintain its indices.  The diff is exact: for a keyed
update of faithful updates that applies, the diff's entry for a key is `Add` exactly
when the key is absent before and present after, `Remove` in the opposite case, and
absent when the key's presence does not change (`keyDiff`).  The same holds of the
diff of a `Set`, and of the key updates the diff is made of when they are applied in
turn (`presenceAfter`).
-/

namespace DockSubstrate.Util

open DockSubstrate.Lib KeyValue

/-! ## The entry of a keys diff -/

/-- The entry of an exact keys diff for a key present `before` and `after` an update. -/
def keyDiff (before after : Bool) : Option (AddOrRemoveOrModify Unit Unit) :=
  if before = after then none else if after then some (.add ()) else some .remove

@[simp]
theorem keyDiff_self (present : Bool) : keyDiff present present = none := by
  simp [keyDiff]

theorem keyDiff_eq_none_iff {before after : Bool} : keyDiff before after = none ↔ before = after := by
  cases before <;> cases after <;> simp [keyDiff]

/-- Whether a key is present after an entry of a keys update, given whether it was. -/
def presenceAfter : Option (AddOrRemoveOrModify Unit Unit) → Bool → Bool
  | some (.add ()), _ => true
  | some .remove, _ => false
  | _, present => present

@[simp]
theorem presenceAfter_none (present : Bool) : presenceAfter none present = present := rfl

@[simp]
theorem presenceAfter_keyDiff (before after : Bool) :
    presenceAfter (keyDiff before after) before = after := by
  cases before <;> cases after <;> rfl

/-- The keys diff entry an update of this kind stands for. -/
def UpdateKind.keyEntry : UpdateKind → Option (AddOrRemoveOrModify Unit Unit)
  | .add => some (.add ())
  | .remove => some .remove
  | _ => Option.none

/-- The entry of an update whose kind describes its application is exact. -/
theorem UpdateKind.keyEntry_of_describes {V : Type} {kind : UpdateKind} {before after : Option V}
    (describes : kind.Describes before after) : kind.keyEntry = keyDiff before.isSome after.isSome := by
  cases kind with
  | add =>
      obtain ⟨rfl, present⟩ := describes
      simp [keyEntry, keyDiff, present]
  | remove =>
      obtain ⟨present, rfl⟩ := describes
      simp [keyEntry, keyDiff, present]
  | replace => simp [keyEntry, show after.isSome = before.isSome from describes]
  | none => simp [keyEntry, show after.isSome = before.isSome from describes]

/-! ## The diff of a keyed update -/

namespace MultiTargetUpdate

variable {C K V U : Type} [LinearOrder K]

/-- The entry of a two-level diff: the update of `inner` filed under `key`. -/
def «at» {K' W : Type} [LinearOrder K'] (map : MultiTargetUpdate K (MultiTargetUpdate K' W)) (key : K)
    (inner : K') : Option W :=
  (map.get? key).bind fun entry => entry.get? inner

@[simp]
theorem at_empty {K' W : Type} [LinearOrder K'] (key : K) (inner : K') :
    (∅ : MultiTargetUpdate K (MultiTargetUpdate K' W)).at key inner = none := rfl

/-- The entry of a two-level diff is the inner entry of the key's row, an empty row where
the key has none. -/
theorem at_eq_getD {K' W : Type} [LinearOrder K'] (map : MultiTargetUpdate K (MultiTargetUpdate K' W))
    (key : K) (inner : K') : map.at key inner = ((map.get? key).getD ∅).get? inner := by
  unfold «at»
  cases map.get? key <;> rfl

theorem at_insert {K' W : Type} [LinearOrder K'] (map : MultiTargetUpdate K (MultiTargetUpdate K' W))
    (key other : K) (entry : MultiTargetUpdate K' W) (inner : K') :
    (map.insert key entry).at other inner = if other = key then entry.get? inner else map.at other inner := by
  unfold «at»
  rw [get?_insert]
  split <;> rfl

theorem at_of_get? {K' W : Type} [LinearOrder K'] {map : MultiTargetUpdate K (MultiTargetUpdate K' W)} {key : K}
    {row : MultiTargetUpdate K' W} (found : map.get? key = some row) (inner : K') :
    map.at key inner = row.get? inner := by
  unfold «at»
  rw [found]
  rfl

theorem at_of_get?_eq_none {K' W : Type} [LinearOrder K'] {map : MultiTargetUpdate K (MultiTargetUpdate K' W)}
    {key : K} (absent : map.get? key = none) (inner : K') : map.at key inner = none := by
  unfold «at»
  rw [absent]
  rfl

theorem mem_keys {update : MultiTargetUpdate K U} {key : K} :
    key ∈ update.keys ↔ (update.get? key).isSome :=
  SortedMap.mem_keys

theorem get?_eq_none_of_not_mem_keys {update : MultiTargetUpdate K U} {key : K}
    (absent : key ∉ update.keys) : update.get? key = none :=
  Option.not_isSome_iff_eq_none.mp (mt mem_keys.mpr absent)

/-- A keyed update does nothing exactly when none of its entries does anything. -/
theorem kind_eq_none_iff [KeyValue C K V] [GetUpdateKind U (Option V)] {update : MultiTargetUpdate K U}
    {entity : C} :
    update.kind entity = .none ↔
      ∀ key inner, update.get? key = some inner → GetUpdateKind.kind inner (get entity key) = .none := by
  unfold kind
  constructor
  · intro nothing key inner found
    have mem := Entries.mem_of_lookup_eq_some found
    split at nothing
    · cases nothing
    · rename_i noneDoes
      simp only [Bool.not_eq_true, List.any_eq_false] at noneDoes
      simpa using noneDoes _ mem
  · intro nothing
    rw [if_neg]
    intro some
    obtain ⟨entry, mem, does⟩ := List.any_eq_true.mp some
    have found := Entries.lookup_eq_some_of_mem update.updates.sorted mem
    simp [nothing entry.1 entry.2 found] at does

variable [KeyValue C K V] [LawfulKeyValue C K V]

/-- The keys diff of a keyed update of faithful updates that applies is exact. -/
theorem keysDiff_get? [GetUpdateKind U (Option V)] [ApplyUpdate U (Option V)] [FaithfulKind U V]
    {update : MultiTargetUpdate K U} {entity result : C} (applied : update.applyUpdate entity = .ok result)
    (key : K) :
    (update.keysDiff entity).get? key = keyDiff (containsKey entity key) (containsKey result key) := by
  have after := valueAfter_of_applyUpdate applied key
  unfold valueAfter at after
  change (update.updates.filterMap _).get? key = _
  rw [SortedMap.get?_filterMap]
  change (update.get? key).bind _ = _
  cases found : update.get? key with
  | none =>
      rw [found] at after
      obtain same := Except.ok.inj after
      simp [containsKey, ← same]
  | some inner =>
      rw [found] at after
      have describes := FaithfulKind.describes inner _ _ after
      rw [Option.bind_some]
      cases kindIs : GetUpdateKind.kind inner (get entity key) <;> rw [kindIs] at describes
      · obtain ⟨absent, present⟩ := describes
        simp [containsKey, absent, present, keyDiff]
      · obtain ⟨present, absent⟩ := describes
        simp [containsKey, absent, present, keyDiff]
      all_goals simp only [UpdateKind.Describes] at describes; simp [containsKey, describes]

end MultiTargetUpdate

section KeysUpdate

variable {C K : Type} [LinearOrder K] [KeyValue C K Unit] [LawfulKeyValue C K Unit]

/-- An applied keys update leaves each key as its entry says. -/
theorem MultiTargetUpdate.containsKey_applyUpdate
    {update : MultiTargetUpdate K (AddOrRemoveOrModify Unit Unit)} {entity result : C}
    (applied : update.applyUpdate entity = .ok result) (key : K) :
    containsKey result key = presenceAfter (update.get? key) (containsKey entity key) := by
  have after := valueAfter_of_applyUpdate applied key
  unfold MultiTargetUpdate.valueAfter at after
  cases found : update.get? key with
  | none =>
      rw [found] at after
      simp [containsKey, ← Except.ok.inj after, presenceAfter]
  | some entry =>
      rw [found] at after
      cases entry with
      | add value =>
          simp only [AddOrRemoveOrModify.applyUpdate_eq, AddOrRemoveOrModify.applyUpdate] at after
          split at after
          · cases after
          · simp [containsKey, ← Except.ok.inj after, presenceAfter]
      | remove =>
          simp only [AddOrRemoveOrModify.applyUpdate_eq, AddOrRemoveOrModify.applyUpdate] at after
          split at after
          · simp [containsKey, ← Except.ok.inj after, presenceAfter]
          · cases after
      | modify inner =>
          simp [containsKey, ← Except.ok.inj after, presenceAfter]

omit [LawfulKeyValue C K Unit] in
/-- An exact keys diff that does nothing to the container changes no key's presence. -/
theorem MultiTargetUpdate.presence_of_kind_none
    {update : MultiTargetUpdate K (AddOrRemoveOrModify Unit Unit)} {entity : C} {present : K → Bool}
    (exact : ∀ key, update.get? key = keyDiff (containsKey entity key) (present key))
    (nothing : update.kind entity = .none) (key : K) : present key = containsKey entity key := by
  have entryDoesNothing := MultiTargetUpdate.kind_eq_none_iff.mp nothing key
  rw [exact key] at entryDoesNothing
  -- a change of presence would be an `Add` of an absent key or a `Remove` of a present one
  cases before : containsKey entity key <;> cases after : present key <;>
    simp only [before, after, keyDiff] at entryDoesNothing ⊢
  · have added := entryDoesNothing _ rfl
    simp [AddOrRemoveOrModify.kind, Option.isNone_iff_eq_none, containsKey] at added before
    simp [added] at before
  · have removed := entryDoesNothing _ rfl
    simp [AddOrRemoveOrModify.kind, containsKey] at removed before
    simp [removed] at before

end KeysUpdate

/-! ## The diff of a `Set` -/

namespace SetOrModify

variable {C K V U : Type} [LinearOrder K] [KeyValue C K V] [LawfulKeyValue C K V]

/-- The diff of replacing a container is exact. -/
theorem setKeysDiff_get? (item entity : C) (key : K) :
    (setKeysDiff item entity).get? key = keyDiff (containsKey entity key) (containsKey item key) := by
  have added : ∀ other, other ∈ (keys item).filter (fun k => decide (k ∉ keys entity)) ↔
      containsKey item other ∧ ¬containsKey entity other := by
    intro other
    simp [List.mem_filter, LawfulKeyValue.mem_keys, containsKey]
  have removed : ∀ other, other ∈ (keys entity).filter (fun k => decide (k ∉ keys item)) ↔
      containsKey entity other ∧ ¬containsKey item other := by
    intro other
    simp [List.mem_filter, LawfulKeyValue.mem_keys, containsKey]
  have distinct : ((((keys item).filter fun k => decide (k ∉ keys entity)).map fun k =>
      (k, AddOrRemoveOrModify.add ())) ++ (((keys entity).filter fun k => decide (k ∉ keys item)).map
        fun k => (k, (AddOrRemoveOrModify.remove : AddOrRemoveOrModify Unit Unit)))).map Prod.fst |>.Nodup := by
    simp only [List.map_append, List.map_map, Function.comp_def, List.map_id']
    refine List.nodup_append.mpr ⟨(LawfulKeyValue.keys_nodup (V := V) item).filter _,
      (LawfulKeyValue.keys_nodup (V := V) entity).filter _, fun first hfirst second hsecond same => ?_⟩
    subst same
    exact ((added first).mp hfirst).2 ((removed first).mp hsecond).1
  change (SortedMap.ofList _).get? key = _
  rw [SortedMap.get?_ofList distinct, Entries.lookup_append, Entries.lookup_map_pair,
    Entries.lookup_map_pair]
  simp only [added, removed]
  cases containsKey entity key <;> cases containsKey item key <;> simp [keyDiff]

omit [LawfulKeyValue C K V] in
@[simp]
theorem keysDiff_set [KeyedUpdate U C K] (item entity : C) :
    KeyedUpdate.keysDiff (SetOrModify.set item : SetOrModify C U) entity = setKeysDiff item entity := rfl

omit [LawfulKeyValue C K V] in
@[simp]
theorem keysDiff_modify [KeyedUpdate U C K] (update : U) (entity : C) :
    KeyedUpdate.keysDiff (SetOrModify.modify update : SetOrModify C U) entity =
      KeyedUpdate.keysDiff update entity := rfl

/-- The diff of a `SetOrModify` of a keyed update of faithful updates that applies is exact. -/
theorem keysDiff_get? [GetUpdateKind U (Option V)] [ApplyUpdate U (Option V)] [FaithfulKind U V]
    {update : SetOrModify C (MultiTargetUpdate K U)} {entity result : C}
    (applied : ApplyUpdate.applyUpdate update entity = .ok result) (key : K) :
    (KeyedUpdate.keysDiff update entity).get? key =
      keyDiff (containsKey entity key) (containsKey result key) := by
  cases update with
  | set item =>
      obtain rfl : item = result := Except.ok.inj applied
      exact setKeysDiff_get? item entity key
  | modify inner => exact MultiTargetUpdate.keysDiff_get? applied key

end SetOrModify

/-! ## Filing a diff under an inner key -/

section Record

variable {U C K K' : Type} [LinearOrder K] [LinearOrder K'] [KeyedUpdate U C K]

/-- `record_inner_keys_diff` files the update's keys diff under `innerKey`, provided
nothing was filed there yet, and leaves every other inner key as it was. -/
theorem KeyedUpdate.recordInnerKeysDiff_at {update : U} {entity : C} {innerKey : K'}
    {map map' : MultiTargetUpdate K (MultiTargetUpdate K' (AddOrRemoveOrModify Unit Unit))}
    (fresh : ∀ key, map.at key innerKey = none)
    (recorded : KeyedUpdate.recordInnerKeysDiff update entity innerKey map = .ok map') (key : K)
    (inner : K') :
    map'.at key inner =
      if inner = innerKey then (KeyedUpdate.keysDiff update entity).get? key else map.at key inner := by
  let diff := KeyedUpdate.keysDiff update entity
  -- the keys of `diff` still pending hold what `map` held; the others hold their entry
  let Filed := fun (acc : MultiTargetUpdate K (MultiTargetUpdate K' (AddOrRemoveOrModify Unit Unit)))
      (pending : List (K × AddOrRemoveOrModify Unit Unit)) =>
    (∀ entry ∈ pending, diff.get? entry.1 = some entry.2) ∧ (pending.map Prod.fst).Nodup ∧
      ∀ key inner, acc.at key inner =
        if inner = innerKey ∧ key ∉ pending.map Prod.fst then diff.get? key else map.at key inner
  have start : Filed map diff.updates.entries := by
    refine ⟨fun entry mem => Entries.lookup_eq_some_of_mem diff.updates.sorted mem,
      SortedMap.keys_nodup diff.updates, fun key inner => ?_⟩
    split
    · rename_i filed
      obtain ⟨rfl, absent⟩ := filed
      rw [fresh, MultiTargetUpdate.get?_eq_none_of_not_mem_keys absent]
    · rfl
  have step : ∀ acc entry rest acc', Filed acc (entry :: rest) →
      (do
          let inner ← ((acc.get? entry.1).getD ∅).insertUpdate innerKey entry.2
          pure (acc.insert entry.1 inner) : Except DuplicateKey _) = .ok acc' →
      Filed acc' rest := by
    intro acc entry rest acc' ⟨pendingMem, pendingNodup, filed⟩ stepped
    obtain ⟨inner', inserted, stored⟩ := Except.bind_eq_ok.mp stepped
    obtain rfl := Except.pure_eq_ok.mp stored
    obtain ⟨fresh', restNodup⟩ := List.nodup_cons.mp pendingNodup
    have unfiled : ((acc.get? entry.1).getD ∅).get? innerKey = none := by
      have empty := filed entry.1 innerKey
      rw [if_neg (by simp)] at empty
      have freshHere := fresh entry.1
      unfold MultiTargetUpdate.at at empty freshHere
      cases found : acc.get? entry.1 <;> simp_all
    rw [MultiTargetUpdate.insertUpdate, unfiled] at inserted
    obtain rfl := Except.ok.inj inserted
    refine ⟨fun other mem => pendingMem other (List.mem_cons_of_mem _ mem), restNodup,
      fun key inner => ?_⟩
    rw [MultiTargetUpdate.at_insert]
    by_cases same : key = entry.1
    · rw [if_pos same, MultiTargetUpdate.get?_insert]
      have notRest : key ∉ rest.map Prod.fst := same ▸ fresh'
      by_cases atInner : inner = innerKey
      · subst atInner
        rw [if_pos rfl, if_pos ⟨rfl, notRest⟩, same, pendingMem entry (List.mem_cons_self ..)]
      · have old := filed key inner
        rw [if_neg (by simp [atInner])] at old
        rw [if_neg atInner, if_neg (by simp [atInner]), ← old, same]
        unfold MultiTargetUpdate.at
        cases acc.get? entry.1 <;> rfl
    · rw [if_neg same, filed key inner, List.map_cons]
      simp only [List.mem_cons, same, false_or]
  have final := Except.foldlM_invariant Filed start step recorded
  rw [final.2.2 key inner]
  simp [diff]

end Record

end DockSubstrate.Util
