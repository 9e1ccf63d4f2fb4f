import Mathlib

/-!
# Clearing a row of a map under a limit

A storage double map's `clear_prefix(first, limit, None)` deletes the entries under the
first key, but no more than `limit` of them in one call; which ones go is the order in which
the storage iterates the second keys, fixed by their hashes.  A row of the map is a
function from the second key to the value, `empty` where nothing is stored, and `held`
is the set of keys that store something.

`LimitedClear` states what such a clear may leave of a row: each key keeps its value or
loses it (`left_eq`), a row of no more entries than the limit is cleared entirely
(`left_of_encard_le`), and at most `limit` entries go (`encard_le_left`), so that a row of
more entries keeps some (`held_left_nonempty`, `exists_left_eq_some`).  `byEncoding`
deletes the entries in the order of an encoding of the keys, and meets all three.
-/

namespace DockSubstrate.Lib

/-- The keys of a row that store a value. -/
def held {K V : Type} (empty : V) (row : K → V) : Set K :=
  {key | row key ≠ empty}

/-- A row whose keys that store a value are all in a finite set stores no more values
than the set has keys. -/
theorem encard_held_le_of_subset {K V : Type} {empty : V} {row : K → V} {keys : Finset K}
    (within : held empty row ⊆ keys) : (held empty row).encard ≤ keys.card := by
  calc (held empty row).encard ≤ (keys : Set K).encard := Set.encard_mono within
    _ = keys.card := Set.encard_coe_eq_coe_finsetCard keys

/-- `clear_prefix` of one row with a limit: what it leaves of the row. -/
structure LimitedClear (K V : Type) (empty : V) where
  left : Nat → (K → V) → K → V
  left_eq : ∀ limit row key, left limit row key = empty ∨ left limit row key = row key
  left_of_encard_le : ∀ (limit : Nat) row, (held empty row).encard ≤ limit → ∀ key, left limit row key = empty
  encard_le_left : ∀ (limit : Nat) row, (held empty row).encard ≤ (held empty (left limit row)).encard + limit

namespace LimitedClear

variable {K V : Type} {empty : V} (clear : LimitedClear K V empty)

/-- What is left of a row is what the row held. -/
theorem left_of_ne {limit : Nat} {row : K → V} {key : K} (kept : clear.left limit row key ≠ empty) :
    clear.left limit row key = row key :=
  (clear.left_eq limit row key).resolve_left kept

/-- A row of more entries than the limit keeps some. -/
theorem held_left_nonempty {limit : Nat} {row : K → V} (many : (limit : ℕ∞) < (held empty row).encard) :
    (held empty (clear.left limit row)).Nonempty := by
  have bound := clear.encard_le_left limit row
  -- were nothing left, the row would hold no more than the limit
  by_contra nothing
  rw [Set.not_nonempty_iff_eq_empty.mp nothing, Set.encard_empty, zero_add] at bound
  exact absurd (lt_of_lt_of_le many bound) (lt_irrefl _)

/-- A row of optional values with more entries than the limit keeps one of them. -/
theorem exists_left_eq_some {W : Type} (rows : LimitedClear K (Option W) none) {limit : Nat} {row : K → Option W}
    (many : (limit : ℕ∞) < (held none row).encard) :
    ∃ key value, rows.left limit row key = some value ∧ row key = some value := by
  obtain ⟨key, kept⟩ := rows.held_left_nonempty many
  obtain ⟨value, found⟩ := Option.ne_none_iff_exists'.mp kept
  exact ⟨key, value, found, (rows.left_of_ne kept).symm.trans found⟩

end LimitedClear

/-! ## Deleting in the order of an encoding -/

section ByEncoding

variable {K V : Type} [Encodable K] [DecidableEq V] (empty : V)

/-- Whether the key with the code `code` stores a value. -/
def heldCode (row : K → V) (code : Nat) : Bool :=
  match Encodable.decode₂ K code with
  | some key => decide (row key ≠ empty)
  | none => false

/-- The number of keys storing a value whose codes are below `n`. -/
def heldBelow (row : K → V) (n : Nat) : Nat :=
  (List.range n).countP (heldCode empty row)

variable {empty}

theorem heldCode_encode (row : K → V) (key : K) :
    heldCode empty row (Encodable.encode key) = decide (row key ≠ empty) := by
  simp [heldCode]

theorem heldBelow_succ (row : K → V) (n : Nat) :
    heldBelow empty row (n + 1) = heldBelow empty row n + if heldCode empty row n then 1 else 0 := by
  simp [heldBelow, List.range_succ, List.countP_append]

theorem heldBelow_mono (row : K → V) {n m : Nat} (le : n ≤ m) : heldBelow empty row n ≤ heldBelow empty row m :=
  (List.range_sublist.mpr le).countP_le

/-- Keys storing a value are counted in the order of their codes. -/
theorem heldBelow_lt_of_lt {row : K → V} {first second : K} (stored : first ∈ held empty row)
    (lt : Encodable.encode first < Encodable.encode second) :
    heldBelow empty row (Encodable.encode first) < heldBelow empty row (Encodable.encode second) := by
  have counted : heldCode empty row (Encodable.encode first) = true := by
    rw [heldCode_encode]
    exact decide_eq_true stored
  calc heldBelow empty row (Encodable.encode first)
      < heldBelow empty row (Encodable.encode first + 1) := by
        rw [heldBelow_succ, if_pos counted]
        exact Nat.lt_succ_self _
    _ ≤ heldBelow empty row (Encodable.encode second) := heldBelow_mono row lt

/-- The keys counted are distinct keys storing a value. -/
theorem heldBelow_le_encard (row : K → V) (n : Nat) : (heldBelow empty row n : ℕ∞) ≤ (held empty row).encard := by
  have nodup : ((List.range n).filter (heldCode empty row)).Nodup := (List.nodup_range).filter _
  -- the codes counted are codes of keys storing a value
  have codes : (((List.range n).filter (heldCode empty row)).toFinset : Set Nat) ⊆
      Encodable.encode '' held empty row := by
    intro code mem
    rw [List.coe_toFinset, Set.mem_ofPred_eq, List.mem_filter] at mem
    have counted := mem.2
    unfold heldCode at counted
    cases decoded : Encodable.decode₂ K code with
    | none => simp [decoded] at counted
    | some key =>
        simp only [decoded, decide_eq_true_eq] at counted
        exact ⟨key, counted, Encodable.mem_decode₂.mp decoded⟩
  calc (heldBelow empty row n : ℕ∞)
      = (((List.range n).filter (heldCode empty row)).toFinset : Set Nat).encard := by
        rw [Set.encard_coe_eq_coe_finsetCard, List.toFinset_card_of_nodup nodup, heldBelow,
          List.countP_eq_length_filter]
    _ ≤ (Encodable.encode '' held empty row).encard := Set.encard_mono codes
    _ = (held empty row).encard := Encodable.encode_injective.encard_image _

variable (empty)

/-- What `clear_prefix` leaves when it iterates the keys in the order of their codes: a key
goes when fewer than `limit` keys storing a value come before it. -/
def leftByEncoding (limit : Nat) (row : K → V) (key : K) : V :=
  if heldBelow empty row (Encodable.encode key) < limit then empty else row key

/-- The keys storing a value that go. -/
def goneByEncoding (limit : Nat) (row : K → V) : Set K :=
  {key | key ∈ held empty row ∧ heldBelow empty row (Encodable.encode key) < limit}

variable {empty}

/-- A row of no more entries than the limit is cleared: each key storing a value has fewer
than `limit` such keys before it. -/
theorem leftByEncoding_of_encard_le {limit : Nat} {row : K → V} (fits : (held empty row).encard ≤ limit)
    (key : K) : leftByEncoding empty limit row key = empty := by
  unfold leftByEncoding
  by_cases stored : key ∈ held empty row
  · -- the key and the keys before it are no more than the row holds
    have below : (heldBelow empty row (Encodable.encode key + 1) : ℕ∞) ≤ (held empty row).encard :=
      heldBelow_le_encard row _
    rw [heldBelow_succ, heldCode_encode, decide_eq_true (show row key ≠ empty from stored), if_pos rfl] at below
    have counted : heldBelow empty row (Encodable.encode key) + 1 ≤ limit := by
      exact_mod_cast below.trans fits
    exact if_pos (Nat.lt_of_succ_le counted)
  · have emptyAt : row key = empty := not_not.mp stored
    split_ifs
    · rfl
    · exact emptyAt

/-- The keys that go have distinct counts below the limit. -/
theorem encard_goneByEncoding_le (limit : Nat) (row : K → V) : (goneByEncoding empty limit row).encard ≤ limit := by
  have maps : Set.MapsTo (fun key => heldBelow empty row (Encodable.encode key)) (goneByEncoding empty limit row)
      (Finset.range limit : Set Nat) :=
    fun key going => Finset.mem_coe.mpr (Finset.mem_range.mpr going.2)
  have injective : Set.InjOn (fun key => heldBelow empty row (Encodable.encode key)) (goneByEncoding empty limit row) := by
    intro first firstGoing second secondGoing same
    rcases lt_trichotomy (Encodable.encode first) (Encodable.encode second) with lt | eq | gt
    · exact absurd same (heldBelow_lt_of_lt firstGoing.1 lt).ne
    · exact Encodable.encode_injective eq
    · exact absurd same (heldBelow_lt_of_lt secondGoing.1 gt).ne'
  have mapped := Set.encard_le_encard_of_injOn maps injective
  rwa [Set.encard_coe_eq_coe_finsetCard, Finset.card_range] at mapped

theorem held_subset_leftByEncoding_union (limit : Nat) (row : K → V) :
    held empty row ⊆ held empty (leftByEncoding empty limit row) ∪ goneByEncoding empty limit row := by
  intro key stored
  by_cases early : heldBelow empty row (Encodable.encode key) < limit
  · exact .inr ⟨stored, early⟩
  · refine .inl ?_
    show leftByEncoding empty limit row key ≠ empty
    rw [leftByEncoding, if_neg early]
    exact stored

variable (empty)

/-- `clear_prefix` over keys iterated in the order of their codes. -/
def LimitedClear.byEncoding : LimitedClear K V empty where
  left := leftByEncoding empty
  left_eq limit row key := by
    unfold leftByEncoding
    split_ifs
    · exact .inl rfl
    · exact .inr rfl
  left_of_encard_le _ _ fits := leftByEncoding_of_encard_le fits
  encard_le_left limit row :=
    calc (held empty row).encard
        ≤ (held empty (leftByEncoding empty limit row) ∪ goneByEncoding empty limit row).encard :=
          Set.encard_mono (held_subset_leftByEncoding_union limit row)
      _ ≤ (held empty (leftByEncoding empty limit row)).encard + (goneByEncoding empty limit row).encard :=
          Set.encard_union_le _ _
      _ ≤ (held empty (leftByEncoding empty limit row)).encard + limit :=
          add_le_add (le_refl _) (encard_goneByEncoding_le limit row)

end ByEncoding

end DockSubstrate.Lib
