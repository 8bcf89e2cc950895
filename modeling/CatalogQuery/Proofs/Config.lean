import CatalogQuery.Config
import CatalogQuery.Proofs.KeySet
import CatalogQuery.Proofs.Query.LetterCase
import CatalogQuery.Proofs.Query.SingleLiteral

/-! # The table of keys

The pairs of a table of keys are taken in the order of their keys, so the order in which a document
lists them does not matter. The least text that is no key is refused, and of several spellings of a
key the greatest one counts (`ofTable_by_bytes`). A query can use every key of the table.
-/

namespace CatalogQuery

open Text (SameLetters)

/-! ## Spellings of a key -/

section
variable {word other : String}

theorem IsKey.ascii (isKey : IsKey word) : ∀ c ∈ word.toList, c.toNat < 128 :=
  fun c member => toNat_lt_of_isKeyChar (isKey.2 c member)

theorem IsKey.lowercase_eq_iff (isKey : IsKey word) (otherIsKey : IsKey other) :
    Text.lowercase word = Text.lowercase other ↔ SameLetters word.toList other.toList := by
  rw [Text.lowercase, Text.lowercase, Text.lowercaseAfter_of_ascii isKey.ascii,
    Text.lowercaseAfter_of_ascii otherIsKey.ascii, String.ofList_inj, SameLetters]

theorem IsKey.respelt (isKey : IsKey word) (same : SameLetters other.toList word.toList) :
    IsKey other := by
  refine ⟨fun empty => ?_, same.symm.forall_mem isKeyChar_congr isKey.2⟩
  have lengths := same.length_eq
  rw [empty] at lengths
  exact isKey.1 (List.length_eq_zero_iff.mp lengths.symm)

end

namespace Config

/-- It is the least text in the place of a key that is none. -/
def LeastInvalid (table : List (String × String)) (name : String) : Prop :=
  name ∈ table.map Prod.fst ∧ ¬ IsKey name ∧
    ∀ pair ∈ table, ¬ IsKey pair.1 → Text.bytes name ≤ Text.bytes pair.1

/-- The table has the pair, and no greater spelling of its key. -/
def GreatestSpelling (table : List (String × String)) (name field : String) : Prop :=
  (name, field) ∈ table ∧ ∀ pair ∈ table, SameLetters pair.1.toList name.toList →
    Text.bytes pair.1 ≤ Text.bytes name

section
variable {table : List (String × String)} {name field : String}

/-! ## Pairs in the order of their keys -/

theorem leastInvalid_of_first (distinct : (table.map Prod.fst).Nodup)
    (first : KeySet.FirstInvalid (Dictionary.ofList table) name) : LeastInvalid table name := by
  obtain ⟨before, field, after, split, valid, invalid⟩ := first
  have sorted := Dictionary.sorted_ofList table
  have members := fun pair => Dictionary.mem_ofList_iff (e := pair) distinct
  rw [split] at sorted members
  have member : (name, field) ∈ table := (members _).mp (by simp)
  refine ⟨List.mem_map_of_mem member, invalid, fun pair inside wrong => ?_⟩
  rw [Text.bytes_le_iff]
  rcases List.mem_append.mp ((members pair).mpr inside) with front | rest
  · exact absurd (valid pair front) wrong
  · cases rest with
    | head => exact String.le_refl _
    | tail _ behind => exact Std.le_of_lt (sorted.of_split.2 pair behind)

theorem lastField_iff (distinct : (table.map Prod.fst).Nodup)
    (valid : ∀ pair ∈ table, IsKey pair.1) {word : String} :
    KeySet.LastField (Dictionary.ofList table) word field ↔
      ∃ name, GreatestSpelling table name field ∧ Text.lowercase name = Text.lowercase word := by
  have sorted := Dictionary.sorted_ofList table
  have members := fun pair => Dictionary.mem_ofList_iff (e := pair) distinct
  constructor
  · rintro ⟨before, name, after, split, lower, absent⟩
    rw [split] at sorted members
    have member : (name, field) ∈ table := (members _).mp (by simp)
    refine ⟨name, ⟨member, fun pair inside same => ?_⟩, lower⟩
    rw [Text.bytes_le_iff]
    rcases List.mem_append.mp ((members pair).mpr inside) with front | rest
    · exact Std.le_of_lt (sorted.of_split.1 pair front)
    · cases rest with
      | head => exact String.le_refl _
      | tail _ behind =>
        have sameKey := ((valid pair inside).lowercase_eq_iff (valid _ member)).mpr same
        exact absurd (sameKey.trans lower) (absent pair behind)
  · rintro ⟨name, ⟨member, greatest⟩, lower⟩
    obtain ⟨before, after, split⟩ := List.append_of_mem ((members _).mpr member)
    refine ⟨before, name, after, split, lower, fun pair behind same => ?_⟩
    rw [split] at sorted members
    have inside : pair ∈ table := (members pair).mp (by simp [behind])
    have sameKey := (valid pair inside).lowercase_eq_iff (valid _ member)
    have le := greatest pair inside (sameKey.mp (same.trans lower.symm))
    rw [Text.bytes_le_iff] at le
    exact absurd (sorted.of_split.2 pair behind) (String.not_lt.mpr le)

end

/-! ## Configurations -/

section
variable {table : List (String × String)}

theorem exists_document {text : String}
    (holds : (Toml.read text).toOption.bind (fun document => (tableOf document).toOption) =
      some (some table)) :
    ∃ document, Toml.read text = .ok document ∧ tableOf document = .ok (some table) := by
  cases read : Toml.read text with
  | error fault => simp [read, Except.toOption] at holds
  | ok document =>
    refine ⟨document, rfl, ?_⟩
    cases decoded : tableOf document with
    | error misfit => simp [read, Except.toOption, decoded] at holds
    | ok found => simpa [read, Except.toOption, decoded] using holds

theorem ofText_eq_ofTable {text : String} {document : List Toml.Entry}
    (read : Toml.read text = .ok document) (decoded : tableOf document = .ok (some table)) :
    ofText text = ofTable (some table) := by
  unfold ofText
  simp only [read, decoded]

theorem ofTable_of_refused (nonempty : table ≠ []) {e : InvalidKey}
    (refused : KeySet.ofPairs (Dictionary.ofList table) = .error e) :
    ofTable (some table) = .error (.invalidKey e) := by
  cases table with
  | nil => contradiction
  | cons pair table => simp only [ofTable, refused]

theorem ofTable_of_built (nonempty : table ≠ []) {keys : KeySet}
    (built : KeySet.ofPairs (Dictionary.ofList table) = .ok keys) :
    ofTable (some table) = .ok { keys := keys } := by
  cases table with
  | nil => contradiction
  | cons pair table => simp only [ofTable, built]

theorem ofTable_eq_of_perm (distinct : (table.map Prod.fst).Nodup)
    {other : List (String × String)} (perm : table.Perm other) :
    ofTable (some other) = ofTable (some table) := by
  have same := Dictionary.ofList_eq_of_perm distinct perm
  cases table with
  | nil => rw [perm.nil_eq]
  | cons pair table =>
    cases other with
    | nil => exact absurd perm.symm.nil_eq nofun
    | cons first other => simp only [ofTable, same]

theorem exists_leastInvalid (distinct : (table.map Prod.fst).Nodup)
    (invalid : ∃ pair ∈ table, ¬ IsKey pair.1) :
    ∃ name, LeastInvalid table name ∧ ofTable (some table) = .error (.invalidKey ⟨name⟩) := by
  obtain ⟨pair, member, wrong⟩ := invalid
  obtain ⟨name, first⟩ :=
    KeySet.exists_firstInvalid ⟨pair, (Dictionary.mem_ofList_iff distinct).mpr member, wrong⟩
  exact ⟨name, leastInvalid_of_first distinct first,
    ofTable_of_refused (List.ne_nil_of_mem member) first.refused⟩

end

/-- The configuration of a table of keys depends on the bytes of its keys, and not on the order of
its pairs. If there are pairs and their keys are valid, a query can use each of them in any letter
case, with a bare value or between quotes, and no other key. -/
theorem ofTable_by_bytes (table : List (String × String))
    (distinct : (table.map Prod.fst).Nodup) :
    (∀ text document, Toml.read text = .ok document → tableOf document = .ok (some table) →
      ofText text = ofTable (some table)) ∧
    (∀ other, table.Perm other → ofTable (some other) = ofTable (some table)) ∧
    (table = [] → ofTable (some table) = .error noKeys) ∧
    ((∃ pair ∈ table, ¬ IsKey pair.1) → ∃ name, LeastInvalid table name ∧
      ofTable (some table) = .error (.invalidKey ⟨name⟩)) ∧
    (table ≠ [] → (∀ pair ∈ table, IsKey pair.1) →
      ∃ keys, ofTable (some table) = .ok { keys := keys } ∧ keys.isEmpty = false ∧
      (∀ key, key ∈ keys.keys ↔ ∃ pair ∈ table, Text.lowercase pair.1 = key) ∧
      (∀ word field, keys.field? word = some field ↔
        ∃ name, GreatestSpelling table name field ∧ Text.lowercase name = Text.lowercase word) ∧
      (∀ pair ∈ table, ∀ spelling : String, SameLetters spelling.toList pair.1.toList →
        ∀ value, value ≠ "" →
          ((∀ c ∈ value.toList, Query.isBareChar c = true) →
            Query.read? keys (spelling ++ ":" ++ value) =
              some (.literal (Text.lowercase pair.1) value)) ∧
          ('"' ∉ value.toList → Query.read? keys (spelling ++ ":\"" ++ value ++ "\"") =
            some (.literal (Text.lowercase pair.1) value))) ∧
      ∀ word, IsKey word → (∀ pair ∈ table, ¬ SameLetters word.toList pair.1.toList) →
        ∀ behind, Query.read? keys (word ++ ":" ++ behind) = none) := by
  have members := fun pair => Dictionary.mem_ofList_iff (e := pair) distinct
  refine ⟨fun text document => ofText_eq_ofTable, fun other => ofTable_eq_of_perm distinct,
    by rintro rfl; rfl, exists_leastInvalid distinct, fun nonempty valid => ?_⟩
  obtain ⟨keys, built, entries⟩ := KeySet.ofPairs_of_valid
    fun pair member => valid pair ((members pair).mp member)
  have known : ∀ key, key ∈ keys.keys ↔ ∃ pair ∈ table, Text.lowercase pair.1 = key := by
    intro key
    rw [KeySet.mem_keys_iff entries]
    simp only [members]
  refine ⟨keys, ofTable_of_built nonempty built, ?_, known, ?_, ?_, ?_⟩
  · obtain ⟨pair, member⟩ := List.exists_mem_of_ne_nil table nonempty
    exact KeySet.isEmpty_eq_false_of_mem ((known _).mpr ⟨pair, member, rfl⟩)
  · intro word field
    rw [KeySet.field?_eq_some_iff entries, lastField_iff distinct valid]
  · intro pair member spelling same value nonempty
    have isKey := (valid pair member).respelt same
    have lower := Text.lowercase_congr same
    have contained : keys.contains spelling = true :=
      KeySet.contains_iff.mpr ((known _).mpr ⟨pair, member, lower.symm⟩)
    rw [← lower]
    exact ⟨Query.read?_bare_literal isKey contained nonempty,
      Query.read?_quoted_literal isKey contained nonempty⟩
  · intro word isKey other behind
    refine Query.read?_unknown_key isKey ?_ behind
    rw [← Bool.not_eq_true, KeySet.contains_iff, known]
    rintro ⟨pair, member, lower⟩
    exact other pair member ((isKey.lowercase_eq_iff (valid pair member)).mp lower.symm)

/-- The keys `TAG` and `Tag` are one key, which stands for the field of the greater spelling. -/
theorem ofTable_by_bytes_spellings :
    let text := "[keys]\nowner = 'team'\nTag = 'tags'\nnot = 'flags'\nTAG = 'labels'\n"
    let table := [("owner", "team"), ("Tag", "tags"), ("not", "flags"), ("TAG", "labels")]
    (table.map Prod.fst).Nodup ∧
    ∃ document, Toml.read text = .ok document ∧ tableOf document = .ok (some table) ∧
    ∃ keys, ofText text = .ok { keys := keys } ∧ ofTable (some table) = .ok { keys := keys } ∧
      keys.field? "tag" = some "tags" ∧ Query.read? keys "nOt:a" = some (.literal "not" "a") ∧
      Query.read? keys "name:a" = none := by
  intro text table
  have distinct : (table.map Prod.fst).Nodup := by decide
  have valid : ∀ pair ∈ table, IsKey pair.1 := by decide
  have holds : (Toml.read text).toOption.bind (fun document => (tableOf document).toOption) =
      some (some table) := by
    decide +kernel
  obtain ⟨document, read, decoded⟩ := exists_document holds
  obtain ⟨decodes, -, -, -, accepted⟩ := ofTable_by_bytes table distinct
  obtain ⟨keys, built, -, -, fields, uses, refuses⟩ := accepted nofun valid
  have same := decodes text document read decoded
  rw [built] at same
  refine ⟨distinct, document, read, decoded, keys, same, built,
    (fields _ _).mpr ⟨"Tag", ⟨?_, ?_⟩, ?_⟩, ?_, ?_⟩
  · decide
  · decide +kernel
  · decide +kernel
  · obtain ⟨bare, -⟩ := uses ("not", "flags") (by decide) "nOt" (by decide) "a" (by decide)
    exact bare (List.all_eq_true.mp rfl)
  · exact refuses "name" (by decide) (by decide) "a"

end Config

end CatalogQuery
