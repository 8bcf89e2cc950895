import CatalogQuery.Dictionary
import CatalogQuery.Text.Lowercase

/-! # Key sets

A key set lists the keys that a query may use and the record field that each of them stands for.
Keys are told apart without regard to letter case; a key set holds them in lower case and in order.

Main definitions: `KeySet`, `KeySet.ofPairs`, `KeySet.field?` and the built-in `KeySet.standard`.
-/

namespace CatalogQuery

/-! ## Keys -/

/-- The characters of a key: ASCII letters and digits, `_`, `-` and `.`. -/
def isKeyChar (c : Char) : Bool := c.isAlphanum || c == '_' || c == '-' || c == '.'

/-- A text is a key when it is not empty and holds key characters only. -/
def IsKey (s : String) : Prop := s.toList ≠ [] ∧ ∀ c ∈ s.toList, isKeyChar c = true

instance (s : String) : Decidable (IsKey s) :=
  decidable_of_iff ((!s.toList.isEmpty && s.toList.all isKeyChar) = true) (by simp [IsKey])

def IsLowercaseKey (s : String) : Prop := IsKey s ∧ ∀ c ∈ s.toList, c.isUpper = false

instance (s : String) : Decidable (IsLowercaseKey s) :=
  decidable_of_iff ((decide (IsKey s) && s.toList.all (!·.isUpper)) = true)
    (by simp [IsLowercaseKey])

theorem toNat_lt_of_isKeyChar {c : Char} (h : isKeyChar c = true) : c.toNat < 128 := by
  have h : (decide (65 ≤ c.val ∧ c.val ≤ 90) || (decide (97 ≤ c.val) && decide (c.val ≤ 122)) ||
      (decide (48 ≤ c.val) && decide (c.val ≤ 57)) || c == '_' || c == '-' || c == '.') = true := h
  simp only [Bool.or_eq_true, Bool.and_eq_true, decide_eq_true_eq, beq_iff_eq,
    UInt32.le_iff_toNat_le] at h
  rcases h with ((((h | h) | h) | h) | h) | h
  · exact Nat.lt_of_le_of_lt h.2 (by decide)
  · exact Nat.lt_of_le_of_lt h.2 (by decide)
  · exact Nat.lt_of_le_of_lt h.2 (by decide)
  all_goals subst h; decide

theorem isKeyChar_toLower : ∀ n < 128, isKeyChar (Char.ofNat n) = true →
    isKeyChar (Char.ofNat n).toLower = true ∧ (Char.ofNat n).toLower.isUpper = false := by
  decide

theorem IsKey.lowercase {s : String} (h : IsKey s) : IsLowercaseKey (Text.lowercase s) := by
  have ascii : ∀ c ∈ s.toList, c.toNat < 128 := fun c hc => toNat_lt_of_isKeyChar (h.2 c hc)
  have lower : ∀ c ∈ s.toList, isKeyChar c.toLower = true ∧ c.toLower.isUpper = false := by
    intro c hc
    have := isKeyChar_toLower c.toNat (ascii c hc)
    rw [Char.ofNat_toNat] at this
    exact this (h.2 c hc)
  simp only [IsLowercaseKey, IsKey, Text.lowercase, String.toList_ofList,
    Text.lowercaseAfter_of_ascii ascii, List.mem_map, ne_eq, List.map_eq_nil_iff,
    forall_exists_index, and_imp, forall_apply_eq_imp_iff₂]
  exact ⟨⟨h.1, fun c hc => (lower c hc).1⟩, fun c hc => (lower c hc).2⟩

theorem isUpper_of_le {c : Char} (h : c.val ≥ 'A'.val ∧ c.val ≤ 'Z'.val) : c.isUpper = true :=
  decide_eq_true h

theorem toLower_of_not_isUpper {c : Char} (h : c.isUpper = false) : c.toLower = c := by
  unfold Char.toLower
  split
  · next upper =>
    rw [isUpper_of_le upper] at h
    contradiction
  · rfl

theorem IsLowercaseKey.lowercase_eq {s : String} (h : IsLowercaseKey s) :
    Text.lowercase s = s := by
  have ascii : ∀ c ∈ s.toList, c.toNat < 128 := fun c hc => toNat_lt_of_isKeyChar (h.1.2 c hc)
  have lower : s.toList.map Char.toLower = s.toList.map id :=
    List.map_congr_left fun c hc => toLower_of_not_isUpper (h.2 c hc)
  rw [Text.lowercase, Text.lowercaseAfter_of_ascii ascii, lower, List.map_id, String.ofList_toList]

/-! ## Key sets -/

/-- The keys of a query language with the record field that each one stands for. -/
structure KeySet where
  /-- The keys and their fields, in ascending order of the keys. -/
  entries : List (String × String)
  sorted : Dictionary.Sorted entries := by decide
  lowercase_keys : ∀ e ∈ entries, IsLowercaseKey e.1 := by decide
  deriving DecidableEq

/-- A text that was given as a key and is none. -/
structure InvalidKey where
  key : String
  deriving DecidableEq, Repr

def InvalidKey.message (e : InvalidKey) : String :=
  "Invalid filter key: '" ++ e.key ++
    "'. Keys must be non-empty and use only letters, digits, '_', '-' or '.'"

namespace KeySet

def empty : KeySet where
  entries := []

/-- The keys for service documents that hold unless others are configured. -/
def standard : KeySet where
  entries :=
    [("description", "description"), ("lifecycle", "lifecycle"), ("name", "name"),
      ("owner", "owner"), ("system", "system"), ("tag", "tags")]

/-- Lets a key stand for a field, also if it stood for another one before. -/
def insert (keys : KeySet) (key field : String) (h : IsKey key) : KeySet where
  entries := Dictionary.insert (Text.lowercase key) field keys.entries
  sorted := Dictionary.sorted_insert keys.sorted
  lowercase_keys e he := by
    rcases Dictionary.mem_insert he with rfl | he
    · exact h.lowercase
    · exact keys.lowercase_keys e he

/-- The key set of the given keys and fields, or the first key that is none. -/
def ofPairs (pairs : List (String × String)) : Except InvalidKey KeySet :=
  pairs.foldlM
    (fun keys (key, field) =>
      if h : IsKey key then .ok (keys.insert key field h) else .error ⟨key⟩)
    empty

/-- The key set in which each key stands for the field of the same name. -/
def ofKeys (keys : List String) : Except InvalidKey KeySet :=
  ofPairs (keys.map fun key => (key, key))

/-- The field that a key stands for, in whichever letter case it is written. -/
def field? (keys : KeySet) (key : String) : Option String :=
  Dictionary.get? (Text.lowercase key) keys.entries

/-- The key set has the key, in whichever letter case it is written. -/
def contains (keys : KeySet) (key : String) : Bool := (keys.field? key).isSome

def keys (keys : KeySet) : List String := keys.entries.map Prod.fst

theorem isLowercaseKey_of_mem {keys : KeySet} {key : String} (h : key ∈ keys.keys) :
    IsLowercaseKey key := by
  obtain ⟨entry, member, rfl⟩ := List.mem_map.mp h
  exact keys.lowercase_keys entry member

theorem contains_iff {keys : KeySet} {key : String} :
    keys.contains key = true ↔ Text.lowercase key ∈ keys.keys :=
  Dictionary.isSome_get?_iff

def size (keys : KeySet) : Nat := keys.entries.length

def isEmpty (keys : KeySet) : Bool := keys.entries.isEmpty

end KeySet

end CatalogQuery
