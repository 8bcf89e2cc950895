import CatalogQuery.KeySet
import CatalogQuery.Proofs.Dictionary
import CatalogQuery.Proofs.Text.ByteOrder

/-! # Key sets of pairs

A list of keys and fields gives a key set exactly if every key of it is one, and else the first that
is none is refused (`ofPairs_eq_error_iff`). In the key set a key stands for the field of the last
pair that has it in any letter case (`ofPairs_by_last_pairs`), so only the order of such pairs among
each other matters.
-/

namespace CatalogQuery.KeySet

/-- It is no key, and no earlier pair has another text that is none. -/
def FirstInvalid (pairs : List (String × String)) (key : String) : Prop :=
  ∃ before field after, pairs = before ++ (key, field) :: after ∧
    (∀ pair ∈ before, IsKey pair.1) ∧ ¬ IsKey key

/-- The field of the last pair whose key is the name, both in lower case. -/
def LastField (pairs : List (String × String)) (name field : String) : Prop :=
  ∃ before key after, pairs = before ++ (key, field) :: after ∧
    Text.lowercase key = Text.lowercase name ∧
    ∀ pair ∈ after, Text.lowercase pair.1 ≠ Text.lowercase name

/-- The pairs in another order, in which those whose keys differ in letter case at most keep their
places among each other. -/
structure Reordered (pairs others : List (String × String)) : Prop where
  perm : pairs.Perm others
  keeps : ∀ key, pairs.filter (fun pair => Text.lowercase pair.1 = key) =
    others.filter fun pair => Text.lowercase pair.1 = key

/-- The pairs with their keys in lower case. -/
def folded (pairs : List (String × String)) : List (String × String) :=
  pairs.map fun pair => (Text.lowercase pair.1, pair.2)

section
variable {pairs others : List (String × String)} {keys : KeySet} {key name field : String}

theorem eq_of_entries {other : KeySet} (same : keys.entries = other.entries) : keys = other := by
  cases keys
  cases other
  cases same
  rfl

theorem folded_entries (keys : KeySet) : folded keys.entries = keys.entries := by
  rw [folded]
  conv_rhs => rw [← List.map_id keys.entries]
  apply List.map_congr_left
  intro entry member
  rw [(keys.lowercase_keys entry member).lowercase_eq]
  rfl

/-! ## Which pairs are refused -/

theorem ofPairs_concat (pairs : List (String × String)) (key field : String) :
    ofPairs (pairs ++ [(key, field)]) = ofPairs pairs >>= fun keys =>
      if h : IsKey key then .ok (keys.insert key field h) else .error ⟨key⟩ := by
  calc ofPairs (pairs ++ [(key, field)])
      = ofPairs pairs >>= fun keys =>
          (if h : IsKey key then .ok (keys.insert key field h) else .error ⟨key⟩) >>= pure :=
        List.foldlM_append
    _ = _ := by simp only [bind_pure]

theorem ofPairs_of_valid (valid : ∀ pair ∈ pairs, IsKey pair.1) :
    ∃ keys, ofPairs pairs = .ok keys ∧ keys.entries = Dictionary.ofList (folded pairs) := by
  induction pairs using List.reverseRecOn with
  | nil => exact ⟨empty, rfl, rfl⟩
  | append_singleton pairs last ih =>
    obtain ⟨key, field⟩ := last
    simp only [List.forall_mem_append, List.forall_mem_singleton] at valid
    obtain ⟨keys, built, entries⟩ := ih valid.1
    refine ⟨keys.insert key field valid.2, ?_, ?_⟩
    · rw [ofPairs_concat, built]
      exact dif_pos valid.2
    · simp [folded, insert, Dictionary.ofList_append_singleton, entries]

theorem FirstInvalid.refused (first : FirstInvalid pairs key) : ofPairs pairs = .error ⟨key⟩ := by
  obtain ⟨before, field, after, rfl, valid, invalid⟩ := first
  induction after using List.reverseRecOn with
  | nil =>
    obtain ⟨keys, built, -⟩ := ofPairs_of_valid valid
    rw [ofPairs_concat, built]
    exact dif_neg invalid
  | append_singleton after last ih =>
    rw [← List.cons_append, ← List.append_assoc, ofPairs_concat, ih]
    rfl

theorem exists_firstInvalid (invalid : ∃ pair ∈ pairs, ¬ IsKey pair.1) :
    ∃ key, FirstInvalid pairs key := by
  cases found : pairs.find? fun pair => !decide (IsKey pair.1) with
  | none =>
    obtain ⟨pair, member, wrong⟩ := invalid
    have valid := List.find?_eq_none.mp found pair member
    simp [wrong] at valid
  | some pair =>
    obtain ⟨wrong, before, after, split, valid⟩ := List.find?_eq_some_iff_append.mp found
    exact ⟨pair.1, before, pair.2, after, split, by simpa using valid, by simpa using wrong⟩

theorem ofPairs_eq_error_iff : ofPairs pairs = .error ⟨key⟩ ↔ FirstInvalid pairs key := by
  refine ⟨fun refused => ?_, FirstInvalid.refused⟩
  by_cases invalid : ∃ pair ∈ pairs, ¬ IsKey pair.1
  · obtain ⟨other, first⟩ := exists_firstInvalid invalid
    rw [first.refused] at refused
    cases refused
    exact first
  · simp only [not_exists, not_and, Decidable.not_not] at invalid
    obtain ⟨keys, built, -⟩ := ofPairs_of_valid invalid
    rw [refused] at built
    contradiction

/-! ## The fields of the keys -/

theorem get?_folded_eq_some_iff :
    Dictionary.get? (Text.lowercase name) (folded pairs).reverse = some field ↔
      LastField pairs name field := by
  rw [Dictionary.get?_reverse_eq_some_iff]
  constructor
  · rintro ⟨before, after, split, absent⟩
    obtain ⟨front, behind, rfl, -, more⟩ := List.map_eq_append_iff.mp split
    obtain ⟨last, tail, rfl, same, rfl⟩ := List.map_eq_cons_iff.mp more
    obtain ⟨lower, rfl⟩ := Prod.mk.inj same
    refine ⟨front, last.1, tail, rfl, lower, fun pair member other => absent ?_⟩
    rw [List.map_map, ← other]
    exact List.mem_map_of_mem member
  · rintro ⟨before, key, after, rfl, lower, absent⟩
    refine ⟨folded before, folded after, by simp [folded, lower], ?_⟩
    simpa [folded] using absent

theorem get?_folded_of_reordered (reordered : Reordered pairs others) (name : String) :
    Dictionary.get? name (folded pairs).reverse = Dictionary.get? name (folded others).reverse := by
  have filtered : ∀ pairs, (folded pairs).filter (fun e => e.1 = name) =
      folded (pairs.filter fun pair => Text.lowercase pair.1 = name) := by
    intro pairs
    rw [folded, List.filter_map]
    rfl
  -- Only the pairs with the name count, and these stand in the same order.
  rw [← Dictionary.get?_filter, ← Dictionary.get?_filter name (folded others).reverse,
    List.filter_reverse, List.filter_reverse, filtered, filtered, reordered.keeps]

theorem field?_eq_some_iff (entries : keys.entries = Dictionary.ofList (folded pairs)) :
    keys.field? name = some field ↔ LastField pairs name field := by
  rw [field?, entries, Dictionary.get?_ofList, get?_folded_eq_some_iff]

theorem mem_keys_iff (entries : keys.entries = Dictionary.ofList (folded pairs)) :
    key ∈ keys.keys ↔ ∃ pair ∈ pairs, Text.lowercase pair.1 = key := by
  rw [KeySet.keys, entries, ← Dictionary.isSome_get?_iff, Dictionary.get?_ofList,
    Dictionary.isSome_get?_iff]
  simp [folded]

theorem isEmpty_eq_false_of_mem (member : key ∈ keys.keys) : keys.isEmpty = false := by
  rw [isEmpty, List.isEmpty_eq_false_iff]
  intro empty
  rw [KeySet.keys, empty] at member
  contradiction

theorem ofPairs_entries (keys : KeySet) : ofPairs keys.entries = .ok keys := by
  have valid : ∀ entry ∈ keys.entries, IsKey entry.1 :=
    fun entry member => (keys.lowercase_keys entry member).1
  obtain ⟨built, isBuilt, entries⟩ := ofPairs_of_valid valid
  rw [folded_entries, keys.sorted.ofList_eq] at entries
  rw [isBuilt, eq_of_entries entries]

theorem ofPairs_reordered (valid : ∀ pair ∈ pairs, IsKey pair.1)
    (reordered : Reordered pairs others) : ofPairs others = ofPairs pairs := by
  have otherValid : ∀ pair ∈ others, IsKey pair.1 :=
    fun pair member => valid pair (reordered.perm.mem_iff.mpr member)
  obtain ⟨first, firstBuilt, firstEntries⟩ := ofPairs_of_valid valid
  obtain ⟨second, secondBuilt, secondEntries⟩ := ofPairs_of_valid otherValid
  have same := Dictionary.ofList_congr (get?_folded_of_reordered reordered)
  rw [← firstEntries, ← secondEntries] at same
  rw [firstBuilt, secondBuilt, eq_of_entries same]

end

/-- A list of pairs is refused for the first key that is none. If there is none of that kind, it
gives the key set of its keys in lower case, where each key, in any letter case, stands for the field
of the last pair with it. A key set is that of its own entries, and pairs with different keys may
change their places. -/
theorem ofPairs_by_last_pairs (pairs : List (String × String)) :
    (∀ key, ofPairs pairs = .error ⟨key⟩ ↔ FirstInvalid pairs key) ∧
    ((∃ pair ∈ pairs, ¬ IsKey pair.1) → ∃ key, ofPairs pairs = .error ⟨key⟩) ∧
    ((∀ pair ∈ pairs, IsKey pair.1) → ∃ keys, ofPairs pairs = .ok keys ∧
      (keys.keys.Pairwise fun first second => Text.bytes first < Text.bytes second) ∧
      (∀ key, key ∈ keys.keys ↔ ∃ pair ∈ pairs, Text.lowercase pair.1 = key) ∧
      (∀ name field, keys.field? name = some field ↔ LastField pairs name field) ∧
      (∀ name, keys.field? name = none ↔ ∀ field, ¬ LastField pairs name field) ∧
      (∀ name, keys.contains name = true ↔ ∃ field, LastField pairs name field) ∧
      ∀ others, Reordered pairs others → ofPairs others = ofPairs pairs) ∧
    ∀ keys : KeySet, ofPairs keys.entries = .ok keys := by
  refine ⟨fun key => ofPairs_eq_error_iff, fun invalid => ?_, fun valid => ?_, ofPairs_entries⟩
  · obtain ⟨key, first⟩ := exists_firstInvalid invalid
    exact ⟨key, first.refused⟩
  · obtain ⟨keys, built, entries⟩ := ofPairs_of_valid valid
    have fields : ∀ name field, keys.field? name = some field ↔ LastField pairs name field :=
      fun name field => field?_eq_some_iff entries
    refine ⟨keys, built, ?_, fun key => mem_keys_iff entries, fields, ?_, ?_,
      fun others => ofPairs_reordered valid⟩
    · exact keys.sorted.names.imp Text.bytes_lt_iff.mpr
    · intro name
      simp only [Option.eq_none_iff_forall_ne_some, ne_eq, fields]
    · intro name
      simp only [contains, Option.isSome_iff_exists, fields]

example : ofPairs [("T", "a"), ("t", "b")] = ofPairs [("t", "b")] := by decide +kernel

end CatalogQuery.KeySet
