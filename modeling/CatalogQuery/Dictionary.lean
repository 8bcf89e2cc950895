/-! # Dictionaries

A dictionary is a list of entries in ascending order of their names, each name once. Inserting an
entry replaces the one that has its name. Names are ordered by their code points.

Main definitions: `Dictionary.insert`, `Dictionary.get?` and the order `Dictionary.Sorted`.
-/

namespace CatalogQuery.Dictionary

variable {α : Type}

/-- The names of the entries ascend strictly. -/
def Sorted (entries : List (String × α)) : Prop :=
  entries.Pairwise fun a b => a.1 < b.1

instance (entries : List (String × α)) : Decidable (Sorted entries) :=
  inferInstanceAs (Decidable (entries.Pairwise fun a b => a.1 < b.1))

/-- Adds an entry at its place, or replaces the entry of that name. -/
def insert (name : String) (value : α) : List (String × α) → List (String × α)
  | [] => [(name, value)]
  | (other, old) :: rest =>
    if name < other then (name, value) :: (other, old) :: rest
    else if name = other then (name, value) :: rest
    else (other, old) :: insert name value rest

def get? (name : String) : List (String × α) → Option α
  | [] => none
  | (other, value) :: rest => if name = other then some value else get? name rest

/-- The dictionary of the given entries. Of two entries of one name the later one counts. -/
def ofList (entries : List (String × α)) : List (String × α) :=
  entries.foldl (fun rest (name, value) => insert name value rest) []

theorem isSome_get?_iff {name : String} {entries : List (String × α)} :
    (get? name entries).isSome = true ↔ name ∈ entries.map Prod.fst := by
  induction entries with
  | nil => simp [get?]
  | cons head rest ih =>
    obtain ⟨other, value⟩ := head
    by_cases same : name = other
    · simp [get?, same]
    · simp [get?, same, ih]

/-! ## Inserting an entry -/

theorem mem_insert {name : String} {value : α} {entries : List (String × α)} {e : String × α}
    (h : e ∈ insert name value entries) : e = (name, value) ∨ e ∈ entries := by
  induction entries with
  | nil => simpa [insert] using h
  | cons head rest ih =>
    obtain ⟨other, old⟩ := head
    simp only [insert] at h
    split at h
    · simpa using h
    · split at h
      · rcases List.mem_cons.mp h with h | h
        · exact .inl h
        · exact .inr (List.mem_cons_of_mem _ h)
      · rcases List.mem_cons.mp h with h | h
        · exact .inr (h ▸ List.mem_cons_self)
        · exact (ih h).imp id (List.mem_cons_of_mem _)

theorem sorted_insert {name : String} {value : α} {entries : List (String × α)}
    (h : Sorted entries) : Sorted (insert name value entries) := by
  induction entries with
  | nil => simp [insert, Sorted]
  | cons head rest ih =>
    obtain ⟨other, old⟩ := head
    obtain ⟨below, sorted⟩ := List.pairwise_cons.mp h
    simp only [insert]
    split
    · next lt =>
      refine List.pairwise_cons.mpr ⟨fun e he => ?_, h⟩
      rcases List.mem_cons.mp he with rfl | he
      · exact lt
      · exact String.lt_trans lt (below e he)
    · next notLt =>
      split
      · next eq =>
        subst eq
        exact List.pairwise_cons.mpr ⟨below, sorted⟩
      · next ne =>
        refine List.pairwise_cons.mpr ⟨fun e he => ?_, ih sorted⟩
        rcases mem_insert he with rfl | he
        · rcases String.le_total name other with le | le
          · exact absurd (String.le_antisymm le (String.not_lt.mp notLt)) ne
          · exact Decidable.byContradiction fun h => ne (String.le_antisymm (String.not_lt.mp h) le)
        · exact below e he

theorem get?_insert_self {name : String} {value : α} (entries : List (String × α)) :
    get? name (insert name value entries) = some value := by
  induction entries with
  | nil => simp [insert, get?]
  | cons head rest ih =>
    simp only [insert]
    split
    · simp [get?]
    · split
      · simp [get?]
      · next ne => simp [get?, ne, ih]

theorem get?_insert_of_ne {name other : String} {value : α} (entries : List (String × α))
    (h : other ≠ name) : get? other (insert name value entries) = get? other entries := by
  induction entries with
  | nil => simp [insert, get?, h]
  | cons head rest ih =>
    simp only [insert]
    split
    · simp [get?, h]
    · split
      · next eq => simp [get?, ← eq, h]
      · simp [get?, ih]

theorem get?_insert {name other : String} {value : α} (entries : List (String × α)) :
    get? other (insert name value entries) =
      if other = name then some value else get? other entries := by
  by_cases h : other = name
  · rw [h, get?_insert_self, if_pos rfl]
  · rw [get?_insert_of_ne entries h, if_neg h]

end CatalogQuery.Dictionary
