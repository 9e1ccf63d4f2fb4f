import DockSubstrate.TrustRegistry.Execute

/-!
# What the validation of a schema metadata update records

The first pass of `set_schemas_metadata` records, for every schema it updates, the
schema's entry in the registry's diff (added or removed), and the schema's entry in the
row of every issuer and every verifier the update adds to or removes from it.  This
module shows that the recorded diff is exact: for every schema, the entries recorded
for it are the `keyDiff` of the schema's metadata before and after the update
(`DiffAt`), whichever way the update is written (`Set` of the schema, `Add`, `Remove`,
or `Modify` of its issuers and verifiers), and that recording one schema leaves the
entries of every other schema as they were.
-/

namespace DockSubstrate.TrustRegistry

open DockSubstrate.Lib DockSubstrate.Util KeyValue MultiTargetUpdate

variable {limits : Limits}

/-! ## Recording a schema for a list of targets -/

section Rows

variable {K : Type} [LinearOrder K]

/-- What recording a schema's change does to a target's row: it changes the schema's entry
by `change` and keeps every other entry. -/
def RecordsAt (record : SchemaIdUpdate → Except DuplicateKey SchemaIdUpdate) (schemaId : TrustRegistrySchemaId)
    (change : Option (AddOrRemoveOrModify Unit Unit) → Option (AddOrRemoveOrModify Unit Unit)) : Prop :=
  ∀ row row', record row = .ok row' →
    ∀ other, row'.get? other = if other = schemaId then change (row.get? schemaId) else row.get? other

theorem recordsAt_insertUpdate (schemaId : TrustRegistrySchemaId) (entry : AddOrRemoveOrModify Unit Unit) :
    RecordsAt (fun row => row.insertUpdate schemaId entry) schemaId fun _ => some entry := by
  intro row row' inserted other
  dsimp only at inserted
  unfold insertUpdate at inserted
  split at inserted
  · cases inserted
  · obtain rfl := Except.ok.inj inserted
    rw [get?_insert]

/-- Recording an addition cancels a recorded removal of the same schema. -/
theorem recordsAt_insertUpdateOrRemoveDuplicateIf (schemaId : TrustRegistrySchemaId) :
    RecordsAt (fun row => row.insertUpdateOrRemoveDuplicateIf schemaId (.add ()) fun
        | .remove => true
        | _ => false) schemaId
      fun entry => if entry.isSome then none else some (.add ()) := by
  intro row row' inserted other
  dsimp only at inserted
  unfold insertUpdateOrRemoveDuplicateIf at inserted
  split at inserted
  · rename_i existing found
    split at inserted
    · obtain rfl := Except.ok.inj inserted
      change (row.updates.erase schemaId).get? other = _
      rw [SortedMap.get?_erase, found]
      rfl
    · cases inserted
  · rename_i found
    obtain rfl := Except.ok.inj inserted
    rw [get?_insert, found]
    rfl

/-- Recording a schema's change for each of a list of targets changes the schema's entry
in each listed target's row, and nothing else. -/
theorem at_foldlM_recordAt {record : SchemaIdUpdate → Except DuplicateKey SchemaIdUpdate}
    {schemaId : TrustRegistrySchemaId}
    {change : Option (AddOrRemoveOrModify Unit Unit) → Option (AddOrRemoveOrModify Unit Unit)}
    (recordsAt : RecordsAt record schemaId change) {targets : List K} (distinct : targets.Nodup)
    {map result : MultiSchemaIdUpdate K}
    (run : targets.foldlM (fun map target => recordAt map target record) map = .ok result)
    (target : K) (other : TrustRegistrySchemaId) :
    result.at target other =
      if target ∈ targets ∧ other = schemaId then change (map.at target other) else map.at target other := by
  induction targets generalizing map with
  | nil =>
      obtain rfl := Except.pure_eq_ok.mp run
      simp
  | cons first rest ih =>
      obtain ⟨fresh, distinctRest⟩ := List.nodup_cons.mp distinct
      rw [List.foldlM_cons] at run
      obtain ⟨middle, recorded, runRest⟩ := Except.bind_eq_ok.mp run
      obtain ⟨row', rowRecorded, stored⟩ := Except.bind_eq_ok.mp recorded
      obtain rfl := Except.pure_eq_ok.mp stored
      rw [ih distinctRest runRest, at_insert]
      by_cases same : target = first
      · -- the first target is recorded now, and never again
        subst same
        rw [if_neg (fun listed => fresh listed.1), if_pos rfl, recordsAt _ _ rowRecorded other,
          at_eq_getD]
        by_cases atSchema : other = schemaId
        · subst atSchema
          simp
        · simp [atSchema]
      · simp only [same, if_false, List.mem_cons, false_or]

end Rows

/-- Recording a schema's change for every issuer and every verifier of the schema's
metadata. -/
theorem TrustRegistrySchemaMetadata.at_recordInnerIssuersAndVerifiersDiff
    {metadata : TrustRegistrySchemaMetadata limits} {issuers issuers' : MultiSchemaIdUpdate Issuer}
    {verifiers verifiers' : MultiSchemaIdUpdate Verifier}
    {record : SchemaIdUpdate → Except DuplicateKey SchemaIdUpdate} {schemaId : TrustRegistrySchemaId}
    {change : Option (AddOrRemoveOrModify Unit Unit) → Option (AddOrRemoveOrModify Unit Unit)}
    (recordsAt : RecordsAt record schemaId change)
    (recorded : metadata.recordInnerIssuersAndVerifiersDiff issuers verifiers record = .ok (issuers', verifiers')) :
    (∀ issuer other, issuers'.at issuer other =
      if issuerMember metadata issuer ∧ other = schemaId then change (issuers.at issuer other)
      else issuers.at issuer other) ∧
    ∀ verifier other, verifiers'.at verifier other =
      if verifierMember metadata verifier ∧ other = schemaId then change (verifiers.at verifier other)
      else verifiers.at verifier other := by
  obtain ⟨issuersDone, issuersRecorded, rest⟩ := Except.bind_eq_ok.mp recorded
  obtain ⟨verifiersDone, verifiersRecorded, stored⟩ := Except.bind_eq_ok.mp rest
  obtain ⟨rfl, rfl⟩ := Prod.mk.inj (Except.pure_eq_ok.mp stored)
  refine ⟨fun issuer other => ?_, fun verifier other => ?_⟩
  · rw [at_foldlM_recordAt recordsAt (LawfulKeyValue.keys_nodup _) issuersRecorded]
    simp only [issuerMember, containsKey, LawfulKeyValue.mem_keys]
    congr 1
  · rw [at_foldlM_recordAt recordsAt (LawfulKeyValue.keys_nodup _) verifiersRecorded]
    simp only [verifierMember, containsKey, LawfulKeyValue.mem_keys]
    congr 1

/-! ## The entries of a schema in a diff -/

/-- The entries a diff holds for one schema whose metadata goes from `before` to `after`:
exactly the changes of presence of the schema, and of each issuer and verifier in it. -/
structure DiffAt (diff : IssuersVerifiersSchemas) (schemaId : TrustRegistrySchemaId)
    (before after : Option (TrustRegistrySchemaMetadata limits)) : Prop where
  schemas : diff.schemas.get? schemaId = keyDiff before.isSome after.isSome
  issuers : ∀ issuer, diff.issuers.at issuer schemaId =
    keyDiff (listedIn issuerMember before issuer) (listedIn issuerMember after issuer)
  verifiers : ∀ verifier, diff.verifiers.at verifier schemaId =
    keyDiff (listedIn verifierMember before verifier) (listedIn verifierMember after verifier)

/-- A diff holds nothing for the schema. -/
structure Blank (diff : IssuersVerifiersSchemas) (schemaId : TrustRegistrySchemaId) : Prop where
  schemas : diff.schemas.get? schemaId = none
  issuers : ∀ issuer, diff.issuers.at issuer schemaId = none
  verifiers : ∀ verifier, diff.verifiers.at verifier schemaId = none

/-- A diff that holds nothing for a schema is exact for it when its metadata stays as it was. -/
theorem DiffAt.of_blank {diff : IssuersVerifiersSchemas} {schemaId : TrustRegistrySchemaId}
    (blank : Blank diff schemaId) (metadata : Option (TrustRegistrySchemaMetadata limits)) :
    DiffAt diff schemaId metadata metadata where
  schemas := by simpa using blank.schemas
  issuers issuer := by simpa using blank.issuers issuer
  verifiers verifier := by simpa using blank.verifiers verifier

/-- Two diffs hold the same entries for every schema but one. -/
structure AgreeExcept (diff diff' : IssuersVerifiersSchemas) (schemaId : TrustRegistrySchemaId) : Prop where
  schemas : ∀ other, other ≠ schemaId → diff'.schemas.get? other = diff.schemas.get? other
  issuers : ∀ issuer other, other ≠ schemaId → diff'.issuers.at issuer other = diff.issuers.at issuer other
  verifiers : ∀ verifier other, other ≠ schemaId →
    diff'.verifiers.at verifier other = diff.verifiers.at verifier other

theorem Blank.empty (schemaId : TrustRegistrySchemaId) : Blank ∅ schemaId :=
  ⟨rfl, fun _ => rfl, fun _ => rfl⟩

section Agree

variable {diff diff' : IssuersVerifiersSchemas} {schemaId other : TrustRegistrySchemaId}

theorem Blank.of_agreeExcept (blank : Blank diff other) (agree : AgreeExcept diff diff' schemaId)
    (distinct : other ≠ schemaId) : Blank diff' other where
  schemas := by rw [agree.schemas other distinct, blank.schemas]
  issuers issuer := by rw [agree.issuers issuer other distinct, blank.issuers]
  verifiers verifier := by rw [agree.verifiers verifier other distinct, blank.verifiers]

theorem DiffAt.of_agreeExcept {before after : Option (TrustRegistrySchemaMetadata limits)}
    (exact : DiffAt diff other before after) (agree : AgreeExcept diff diff' schemaId)
    (distinct : other ≠ schemaId) : DiffAt diff' other before after where
  schemas := by rw [agree.schemas other distinct, exact.schemas]
  issuers issuer := by rw [agree.issuers issuer other distinct, exact.issuers]
  verifiers verifier := by rw [agree.verifiers verifier other distinct, exact.verifiers]

end Agree

/-! ## Recording one schema -/

/-- The issuers' and verifiers' rows after recording one schema: each target's entry for
the schema is the given one, and its entries for every other schema are those of `diff`. -/
structure RowsAt (rows : MultiSchemaIdUpdate Issuer × MultiSchemaIdUpdate Verifier)
    (diff : IssuersVerifiersSchemas) (schemaId : TrustRegistrySchemaId)
    (issuerEntry : Issuer → Option (AddOrRemoveOrModify Unit Unit))
    (verifierEntry : Verifier → Option (AddOrRemoveOrModify Unit Unit)) : Prop where
  issuers : ∀ issuer other, rows.1.at issuer other =
    if other = schemaId then issuerEntry issuer else diff.issuers.at issuer other
  verifiers : ∀ verifier other, rows.2.at verifier other =
    if other = schemaId then verifierEntry verifier else diff.verifiers.at verifier other

section RowsAt

variable {diff : IssuersVerifiersSchemas} {schemaId : TrustRegistrySchemaId}
  {rows : MultiSchemaIdUpdate Issuer × MultiSchemaIdUpdate Verifier}
  {issuerEntry : Issuer → Option (AddOrRemoveOrModify Unit Unit)}
  {verifierEntry : Verifier → Option (AddOrRemoveOrModify Unit Unit)}

/-- The rows of a blank diff hold nothing for the schema. -/
theorem RowsAt.blank (blank : Blank diff schemaId) :
    RowsAt (diff.issuers, diff.verifiers) diff schemaId (fun _ => none) (fun _ => none) where
  issuers issuer other := by
    split
    · rename_i same
      subst same
      exact blank.issuers issuer
    · rfl
  verifiers verifier other := by
    split
    · rename_i same
      subst same
      exact blank.verifiers verifier
    · rfl

/-- A row entry recorded for the members of a schema's metadata, given the row before. -/
theorem rowAt_of_recorded {K : Type} [LinearOrder K] {row row' base : MultiSchemaIdUpdate K}
    {member : K → Bool} {entry : K → Option (AddOrRemoveOrModify Unit Unit)}
    {change : Option (AddOrRemoveOrModify Unit Unit) → Option (AddOrRemoveOrModify Unit Unit)}
    (recorded : ∀ target other, row'.at target other =
      if member target ∧ other = schemaId then change (row.at target other) else row.at target other)
    (current : ∀ target other, row.at target other =
      if other = schemaId then entry target else base.at target other)
    (target : K) (other : TrustRegistrySchemaId) :
    row'.at target other = if other = schemaId then
      (if member target then change (entry target) else entry target) else base.at target other := by
  rw [recorded, current]
  by_cases same : other = schemaId
  · subst same
    by_cases listed : member target <;> simp [listed]
  · simp [same]

/-- Recording a schema's change for the members of some metadata, on rows that already
hold an entry per target for the schema. -/
theorem RowsAt.record (rowsAt : RowsAt rows diff schemaId issuerEntry verifierEntry)
    {metadata : TrustRegistrySchemaMetadata limits} {record : SchemaIdUpdate → Except DuplicateKey SchemaIdUpdate}
    {change : Option (AddOrRemoveOrModify Unit Unit) → Option (AddOrRemoveOrModify Unit Unit)}
    (recordsAt : RecordsAt record schemaId change)
    {next : MultiSchemaIdUpdate Issuer × MultiSchemaIdUpdate Verifier}
    (recorded : metadata.recordInnerIssuersAndVerifiersDiff rows.1 rows.2 record = .ok next) :
    RowsAt next diff schemaId
      (fun issuer => if issuerMember metadata issuer then change (issuerEntry issuer) else issuerEntry issuer)
      (fun verifier =>
        if verifierMember metadata verifier then change (verifierEntry verifier) else verifierEntry verifier) := by
  obtain ⟨issuersAt, verifiersAt⟩ :=
    TrustRegistrySchemaMetadata.at_recordInnerIssuersAndVerifiersDiff recordsAt recorded
  exact ⟨rowAt_of_recorded issuersAt rowsAt.issuers, rowAt_of_recorded verifiersAt rowsAt.verifiers⟩

/-- Recording the keys diffs of a metadata update files, for each target, the target's
entry of the keys diff of its part of the update. -/
theorem TrustRegistrySchemaMetadataUpdate.rowsAt_recordInnerIssuersAndVerifiersDiff
    {update : TrustRegistrySchemaMetadataUpdate limits} {old : TrustRegistrySchemaMetadata limits}
    (blank : Blank diff schemaId)
    (recorded : update.recordInnerIssuersAndVerifiersDiff schemaId old diff.issuers diff.verifiers = .ok rows) :
    RowsAt rows diff schemaId
      (fun issuer => update.issuers.bind fun issuersUpdate =>
        (KeyedUpdate.keysDiff issuersUpdate old.issuers).get? issuer)
      (fun verifier => update.verifiers.bind fun verifiersUpdate =>
        (KeyedUpdate.keysDiff verifiersUpdate old.verifiers).get? verifier) := by
  have unchanged := RowsAt.blank blank
  unfold TrustRegistrySchemaMetadataUpdate.recordInnerIssuersAndVerifiersDiff at recorded
  -- a missing part keeps its rows; a present one files its keys diff
  cases verifiersFound : update.verifiers <;> cases issuersFound : update.issuers <;>
    simp only [verifiersFound, issuersFound, pure_bind, Option.bind_none, Option.bind_some] at recorded ⊢
  · obtain rfl := Except.pure_eq_ok.mp recorded
    exact unchanged
  · obtain ⟨issuers, issuersRecorded, stored⟩ := Except.bind_eq_ok.mp recorded
    obtain rfl := Except.pure_eq_ok.mp stored
    exact ⟨KeyedUpdate.recordInnerKeysDiff_at blank.issuers issuersRecorded, unchanged.verifiers⟩
  · obtain ⟨verifiers, verifiersRecorded, stored⟩ := Except.bind_eq_ok.mp recorded
    obtain rfl := Except.pure_eq_ok.mp stored
    exact ⟨unchanged.issuers, KeyedUpdate.recordInnerKeysDiff_at blank.verifiers verifiersRecorded⟩
  · obtain ⟨verifiers, verifiersRecorded, rest⟩ := Except.bind_eq_ok.mp recorded
    obtain ⟨issuers, issuersRecorded, stored⟩ := Except.bind_eq_ok.mp rest
    obtain rfl := Except.pure_eq_ok.mp stored
    exact ⟨KeyedUpdate.recordInnerKeysDiff_at blank.issuers issuersRecorded,
      KeyedUpdate.recordInnerKeysDiff_at blank.verifiers verifiersRecorded⟩

/-- The keys diffs of a metadata update that applies are exact. -/
theorem TrustRegistrySchemaMetadataUpdate.keysDiff_of_applyUpdate
    {update : TrustRegistrySchemaMetadataUpdate limits} {old new : TrustRegistrySchemaMetadata limits}
    (applied : update.applyUpdate old = .ok new) :
    (∀ issuer, (update.issuers.bind fun issuersUpdate =>
        (KeyedUpdate.keysDiff issuersUpdate old.issuers).get? issuer) =
      keyDiff (issuerMember old issuer) (issuerMember new issuer)) ∧
    ∀ verifier, (update.verifiers.bind fun verifiersUpdate =>
        (KeyedUpdate.keysDiff verifiersUpdate old.verifiers).get? verifier) =
      keyDiff (verifierMember old verifier) (verifierMember new verifier) := by
  unfold TrustRegistrySchemaMetadataUpdate.applyUpdate at applied
  -- a missing part keeps its keys, whose diff is empty
  cases issuersFound : update.issuers <;> cases verifiersFound : update.verifiers <;>
    simp only [issuersFound, verifiersFound, pure_bind, Option.bind_none, Option.bind_some] at applied ⊢
  · obtain rfl := Except.pure_eq_ok.mp applied
    exact ⟨fun _ => (keyDiff_self _).symm, fun _ => (keyDiff_self _).symm⟩
  · obtain ⟨verifiers, verifiersApplied, stored⟩ := Except.bind_eq_ok.mp applied
    obtain rfl := Except.pure_eq_ok.mp stored
    exact ⟨fun _ => (keyDiff_self _).symm, SetOrModify.keysDiff_get? verifiersApplied⟩
  · obtain ⟨issuers, issuersApplied, stored⟩ := Except.bind_eq_ok.mp applied
    obtain rfl := Except.pure_eq_ok.mp stored
    exact ⟨SetOrModify.keysDiff_get? issuersApplied, fun _ => (keyDiff_self _).symm⟩
  · obtain ⟨issuers, issuersApplied, rest⟩ := Except.bind_eq_ok.mp applied
    obtain ⟨verifiers, verifiersApplied, stored⟩ := Except.bind_eq_ok.mp rest
    obtain rfl := Except.pure_eq_ok.mp stored
    exact ⟨SetOrModify.keysDiff_get? issuersApplied, SetOrModify.keysDiff_get? verifiersApplied⟩

variable {schemas : SchemaIdUpdate} {schemaEntry : Option (AddOrRemoveOrModify Unit Unit)}

/-- A diff whose rows and registry entries are recorded for one schema agrees with the
diff it was recorded on for every other schema. -/
theorem RowsAt.agreeExcept (rowsAt : RowsAt rows diff schemaId issuerEntry verifierEntry)
    (schemasAt : ∀ other, schemas.get? other = if other = schemaId then schemaEntry else diff.schemas.get? other) :
    AgreeExcept diff ⟨rows.1, rows.2, schemas⟩ schemaId where
  schemas other distinct := by rw [schemasAt, if_neg distinct]
  issuers issuer other distinct := by rw [rowsAt.issuers, if_neg distinct]
  verifiers verifier other distinct := by rw [rowsAt.verifiers, if_neg distinct]

/-- ... and is exact for the schema when every recorded entry is. -/
theorem RowsAt.diffAt (rowsAt : RowsAt rows diff schemaId issuerEntry verifierEntry)
    (schemasAt : ∀ other, schemas.get? other = if other = schemaId then schemaEntry else diff.schemas.get? other)
    {before after : Option (TrustRegistrySchemaMetadata limits)}
    (schemaExact : schemaEntry = keyDiff before.isSome after.isSome)
    (issuersExact : ∀ issuer, issuerEntry issuer =
      keyDiff (listedIn issuerMember before issuer) (listedIn issuerMember after issuer))
    (verifiersExact : ∀ verifier, verifierEntry verifier =
      keyDiff (listedIn verifierMember before verifier) (listedIn verifierMember after verifier)) :
    DiffAt ⟨rows.1, rows.2, schemas⟩ schemaId before after where
  schemas := by rw [schemasAt, if_pos rfl, schemaExact]
  issuers issuer := by rw [rowsAt.issuers, if_pos rfl, issuersExact]
  verifiers verifier := by rw [rowsAt.verifiers, if_pos rfl, verifiersExact]

end RowsAt

/-- The entries recorded for a target that an added schema lists. -/
theorem keyDiff_of_added (listed : Bool) :
    (if listed then some (AddOrRemoveOrModify.add ()) else none) = keyDiff false listed := by
  cases listed <;> rfl

/-- The entries recorded for a target that a removed schema lists. -/
theorem keyDiff_of_removed (listed : Bool) :
    (if listed then some AddOrRemoveOrModify.remove else none) = keyDiff listed false := by
  cases listed <;> rfl

/-- The entries recorded for a target when a schema's metadata is set: its old targets are
recorded as removed, then its new ones as added, an addition cancelling a removal. -/
theorem keyDiff_of_replaced (before after : Bool) :
    (if after then (if (if before then some (AddOrRemoveOrModify.remove : AddOrRemoveOrModify Unit Unit)
        else none).isSome then none else some (.add ())) else if before then some .remove else none) =
      keyDiff before after := by
  cases before <;> cases after <;> rfl

/-- The registry's entry recorded for a schema is the one of its update's kind. -/
theorem recordSchemaKind_get? {kind : UpdateKind} {schemaId : TrustRegistrySchemaId}
    {schemas schemas' : SchemaIdUpdate} (blank : schemas.get? schemaId = none)
    (recorded : recordSchemaKind kind schemaId schemas = .ok schemas') (other : TrustRegistrySchemaId) :
    schemas'.get? other = if other = schemaId then kind.keyEntry else schemas.get? other := by
  unfold recordSchemaKind at recorded
  split at recorded
  · exact recordsAt_insertUpdate schemaId (.add ()) _ _ recorded other
  · exact recordsAt_insertUpdate schemaId .remove _ _ recorded other
  · rename_i notAdd notRemove
    obtain rfl := Except.pure_eq_ok.mp recorded
    split
    · rename_i same
      subst same
      rw [blank]
      cases kind <;> simp_all [UpdateKind.keyEntry]
    · rfl

/-- The rows recorded for a schema hold an entry per target, which is the target's change
of membership whenever the update applies. -/
theorem SchemaMetadataModification.recordInnerRows_spec {update : SchemaMetadataModification limits}
    {schemaId : TrustRegistrySchemaId} {entity : Option (TrustRegistrySchemaMetadata limits)}
    {diff : IssuersVerifiersSchemas} {rows : MultiSchemaIdUpdate Issuer × MultiSchemaIdUpdate Verifier}
    (blank : Blank diff schemaId)
    (recorded : update.recordInnerRows schemaId entity diff.issuers diff.verifiers = .ok rows) :
    ∃ issuerEntry verifierEntry, RowsAt rows diff schemaId issuerEntry verifierEntry ∧
      ∀ after, ApplyUpdate.applyUpdate update entity = .ok after →
        (∀ issuer, issuerEntry issuer =
          keyDiff (listedIn issuerMember entity issuer) (listedIn issuerMember after issuer)) ∧
        ∀ verifier, verifierEntry verifier =
          keyDiff (listedIn verifierMember entity verifier) (listedIn verifierMember after verifier) := by
  unfold SchemaMetadataModification.recordInnerRows at recorded
  -- the targets of the old metadata are recorded as removed, those of the new one as added
  cases update with
  | set new =>
      cases entity with
      | none =>
          simp only [pure_bind] at recorded
          refine ⟨_, _, (RowsAt.blank blank).record (recordsAt_insertUpdateOrRemoveDuplicateIf schemaId)
            (Except.mapError_eq_ok.mp recorded), fun after applied => ?_⟩
          obtain rfl : some new = after := Except.ok.inj applied
          exact ⟨fun issuer => keyDiff_of_added (issuerMember new issuer),
            fun verifier => keyDiff_of_added (verifierMember new verifier)⟩
      | some old =>
          obtain ⟨⟨removedIssuers, removedVerifiers⟩, removed, added⟩ := Except.bind_eq_ok.mp recorded
          refine ⟨_, _, ((RowsAt.blank blank).record (recordsAt_insertUpdate schemaId .remove)
            (Except.mapError_eq_ok.mp removed)).record (recordsAt_insertUpdateOrRemoveDuplicateIf schemaId)
            (Except.mapError_eq_ok.mp added), fun after applied => ?_⟩
          obtain rfl : some new = after := Except.ok.inj applied
          exact ⟨fun issuer => keyDiff_of_replaced (issuerMember old issuer) (issuerMember new issuer),
            fun verifier => keyDiff_of_replaced (verifierMember old verifier) (verifierMember new verifier)⟩
  | add new =>
      refine ⟨_, _, (RowsAt.blank blank).record (recordsAt_insertUpdate schemaId (.add ()))
        (Except.mapError_eq_ok.mp recorded), fun after applied => ?_⟩
      -- an addition applies only to an absent schema
      cases entity with
      | some old => cases applied
      | none =>
          obtain rfl : some new = after := Except.ok.inj applied
          exact ⟨fun issuer => keyDiff_of_added (issuerMember new issuer),
            fun verifier => keyDiff_of_added (verifierMember new verifier)⟩
  | remove =>
      cases entity with
      | none => cases recorded
      | some old =>
          refine ⟨_, _, (RowsAt.blank blank).record (recordsAt_insertUpdate schemaId .remove)
            (Except.mapError_eq_ok.mp recorded), fun after applied => ?_⟩
          obtain rfl : none = after := Except.ok.inj applied
          exact ⟨fun issuer => keyDiff_of_removed (issuerMember old issuer),
            fun verifier => keyDiff_of_removed (verifierMember old verifier)⟩
  | modify inner =>
      obtain ⟨metadataUpdate⟩ := inner
      cases entity with
      | none => cases recorded
      | some old =>
          refine ⟨_, _, TrustRegistrySchemaMetadataUpdate.rowsAt_recordInnerIssuersAndVerifiersDiff blank
            (Except.mapError_eq_ok.mp recorded), fun after applied => ?_⟩
          obtain ⟨new, metadataApplied, rfl⟩ := Except.map_eq_ok.mp applied
          exact TrustRegistrySchemaMetadataUpdate.keysDiff_of_applyUpdate metadataApplied

/-- `record_inner_diff` records exactly what the update of one schema does: on a diff that
holds nothing for the schema it keeps every other schema's entries, and, when the update
applies, the schema's entries are its changes of presence. -/
theorem SchemaMetadataModification.recordInnerDiff_spec {update : SchemaMetadataModification limits}
    {schemaId : TrustRegistrySchemaId} {entity : Option (TrustRegistrySchemaMetadata limits)}
    {diff diff' : IssuersVerifiersSchemas} (blank : Blank diff schemaId)
    (recorded : update.recordInnerDiff schemaId entity diff = .ok diff') :
    AgreeExcept diff diff' schemaId ∧
      ∀ after, ApplyUpdate.applyUpdate update entity = .ok after → DiffAt diff' schemaId entity after := by
  unfold SchemaMetadataModification.recordInnerDiff at recorded
  obtain ⟨schemas, schemasRecorded, rest⟩ := Except.bind_eq_ok.mp recorded
  obtain ⟨⟨issuers, verifiers⟩, rowsRecorded, stored⟩ := Except.bind_eq_ok.mp rest
  obtain rfl := Except.pure_eq_ok.mp stored
  have schemasAt := recordSchemaKind_get? blank.schemas (Except.mapError_eq_ok.mp schemasRecorded)
  obtain ⟨issuerEntry, verifierEntry, rowsAt, exact⟩ := recordInnerRows_spec blank rowsRecorded
  refine ⟨rowsAt.agreeExcept schemasAt, fun after applied => ?_⟩
  obtain ⟨issuersExact, verifiersExact⟩ := exact after applied
  exact rowsAt.diffAt schemasAt
    (UpdateKind.keyEntry_of_describes (FaithfulKind.describes update entity after applied))
    issuersExact verifiersExact

/-! ## The first loop of `set_schemas_metadata` -/

/-- What the first loop leaves for one schema: the schema's update is kept exactly when it
does something to the stored metadata, and the diff is exact for a kept update that
applies and holds nothing for the schema otherwise. -/
structure SchemaRecorded (state : State limits) (registryId : TrustRegistryId)
    (schemaUpdates validated : SchemaIdUpdate (SchemaMetadataModification limits))
    (diff : IssuersVerifiersSchemas) (schemaId : TrustRegistrySchemaId) : Prop where
  kept : validated.get? schemaId = (schemaUpdates.get? schemaId).filter fun update =>
    GetUpdateKind.kind update (state.trustRegistrySchemasMetadata schemaId registryId) != .none
  exact : ∀ update, validated.get? schemaId = some update → ∀ after,
    ApplyUpdate.applyUpdate update (state.trustRegistrySchemasMetadata schemaId registryId) = .ok after →
      DiffAt diff schemaId (state.trustRegistrySchemasMetadata schemaId registryId) after
  blank : validated.get? schemaId = none → Blank diff schemaId

/-- `validate_and_record_diff` of the schemas' updates keeps the updates that do something
and records an exact diff for them. -/
theorem validateAndRecordSchemasDiff_spec {schemaUpdates validated : SchemaIdUpdate (SchemaMetadataModification limits)}
    {actor : ConvenerOrIssuerOrVerifier} {registryId : TrustRegistryId} {registryInfo : TrustRegistryInfo limits}
    {state : State limits} {diff : IssuersVerifiersSchemas}
    (run : validateAndRecordSchemasDiff schemaUpdates actor registryId registryInfo state ∅ = .ok (validated, diff))
    (schemaId : TrustRegistrySchemaId) :
    SchemaRecorded state registryId schemaUpdates validated diff schemaId := by
  -- a schema is pending while nothing is kept or recorded for it
  let Pending := fun (acc : SchemaIdUpdate (SchemaMetadataModification limits) × IssuersVerifiersSchemas)
      (schemaId : TrustRegistrySchemaId) => acc.1.get? schemaId = none ∧ Blank acc.2 schemaId
  let Done := fun (acc : SchemaIdUpdate (SchemaMetadataModification limits) × IssuersVerifiersSchemas)
      (schemaId : TrustRegistrySchemaId) => SchemaRecorded state registryId schemaUpdates acc.1 acc.2 schemaId
  unfold validateAndRecordSchemasDiff at run
  have keyed := MultiTargetUpdate.foldlM_keyed Pending Done (fun schemaId => ⟨rfl, Blank.empty schemaId⟩)
    ?step run schemaId
  case step =>
    rintro ⟨validated, diff⟩ schemaId update acc' found ⟨unkept, blank⟩ stepped
    dsimp only at stepped
    obtain ⟨-, -, decided⟩ := Except.bind_eq_ok.mp stepped
    split at decided
    · -- an update that does nothing is dropped
      rename_i nothing
      obtain rfl := Except.pure_eq_ok.mp decided
      refine ⟨⟨?_, fun _ kept => by simp [unkept] at kept, fun _ => blank⟩, fun _ _ => ⟨id, id⟩⟩
      rw [unkept, found, Option.filter_some, if_neg (by simp [nothing])]
    · -- an update that does something is kept, and its differences recorded
      rename_i does
      obtain ⟨diff', recorded, stored⟩ := Except.bind_eq_ok.mp decided
      obtain rfl := Except.pure_eq_ok.mp stored
      obtain ⟨agree, exact⟩ :=
        SchemaMetadataModification.recordInnerDiff_spec blank (Except.mapError_eq_ok.mp recorded)
      refine ⟨⟨?_, fun kept keptFound => ?_, fun absent => ?_⟩, fun other distinct => ⟨?_, ?_⟩⟩
      · rw [MultiTargetUpdate.get?_insert, if_pos rfl, found, Option.filter_some, if_pos (bne_iff_ne.mpr does)]
      · obtain rfl : update = kept := by simpa using keptFound
        exact exact
      · simp at absent
      · rintro ⟨otherUnkept, otherBlank⟩
        exact ⟨by simpa [MultiTargetUpdate.get?_insert, distinct] using otherUnkept,
          otherBlank.of_agreeExcept agree distinct⟩
      · rintro ⟨otherValidated, otherExact, otherBlank⟩
        have unchanged : (validated.insert schemaId update).get? other = validated.get? other := by
          simp [MultiTargetUpdate.get?_insert, distinct]
        refine ⟨unchanged ▸ otherValidated, fun kept keptFound after applied => ?_, fun absent => ?_⟩
        · exact (otherExact kept (unchanged ▸ keptFound) after applied).of_agreeExcept agree distinct
        · exact (otherBlank (unchanged ▸ absent)).of_agreeExcept agree distinct
  obtain ⟨absent, present⟩ := keyed
  cases found : schemaUpdates.get? schemaId with
  | none =>
      obtain ⟨unkept, blank⟩ := absent found
      exact ⟨by simp [unkept, found], fun _ kept => by simp [unkept] at kept, fun _ => blank⟩
  | some update => exact present update found

end DockSubstrate.TrustRegistry
