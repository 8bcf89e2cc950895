import CatalogQuery.Proofs.Query.Composition

/-! # Queries of one literal

A key of the key set, in any letter case, with a colon and a value behind it is a query
(`read?_bare_literal`, `read?_quoted_literal`), also if the key is spelt like an operator. A word
that is no key of the key set, with a colon behind it, begins no query (`read?_unknown_key`).
-/

namespace CatalogQuery

theorem IsKey.begins {word : String} (isKey : IsKey word) :
    ∃ c tail, word.toList = c :: tail ∧ isKeyChar c = true := by
  obtain ⟨nonempty, inside⟩ := isKey
  cases letters : word.toList with
  | nil => exact absurd letters nonempty
  | cons c tail => exact ⟨c, tail, rfl, inside c (by rw [letters]; exact List.mem_cons_self)⟩

namespace Query

section
variable {keys : KeySet} {limit depth : Nat} {level : Level} {s rest tail : List Char}
  {word value : String} {filter : Filter}

/-! ## What is read -/

theorem read?_of_value (isKey : IsKey word) (known : keys.contains word = true)
    (isValue : Value tail value []) :
    read? keys (word ++ ":" ++ String.ofList tail) =
      some (.literal (Text.lowercase word) value) := by
  have key : Key keys (word.toList ++ ':' :: tail) (Text.lowercase word) (':' :: tail) :=
    ⟨word.toList, isKey.1, isKey.2, rfl, by rw [String.ofList_toList], KeySet.contains_iff.mp known⟩
  have derived : Derives keys maxNesting .operand 0 _ _ [] :=
    .literal key (.refl _) (.refl _) isValue
  apply read?_of_derives
  simpa using derived.loosen (Nat.zero_le _)

theorem read?_bare_literal (isKey : IsKey word) (known : keys.contains word = true)
    (nonempty : value ≠ "") (inside : ∀ c ∈ value.toList, isBareChar c = true) :
    read? keys (word ++ ":" ++ value) = some (.literal (Text.lowercase word) value) := by
  have isValue := Value.bare (by simpa using nonempty) inside stops_nil
  rw [String.ofList_toList, List.append_nil] at isValue
  simpa using read?_of_value isKey known isValue

theorem read?_quoted_literal (isKey : IsKey word) (known : keys.contains word = true)
    (nonempty : value ≠ "") (quoteless : '"' ∉ value.toList) :
    read? keys (word ++ ":\"" ++ value ++ "\"") = some (.literal (Text.lowercase word) value) := by
  have isValue : Value ('"' :: (value.toList ++ ['"'])) _ [] :=
    .quoted (by simpa using nonempty) quoteless
  rw [String.ofList_toList] at isValue
  have read := read?_of_value isKey known isValue
  have same : word ++ ":\"" ++ value ++ "\"" =
      word ++ ":" ++ String.ofList ('"' :: (value.toList ++ ['"'])) := by
    rw [← String.toList_inj]
    simp
  rw [same, read]

/-! ## What is refused -/

theorem Key.contains_of_split {key : String} {colon : List Char} (derived : Key keys s key colon)
    (stops : Stops isKeyChar colon) (isKey : IsKey word) (split : s = word.toList ++ ':' :: tail) :
    keys.contains word = true := by
  obtain ⟨taken, -, inside, own, rfl, known⟩ := derived
  have colonStops : Stops isKeyChar (':' :: tail) := stops_cons.mpr (by decide)
  obtain ⟨same, -⟩ := eq_of_runs inside stops isKey.2 colonStops (own.symm.trans split)
  rw [same, String.ofList_toList] at known
  exact KeySet.contains_iff.mpr known

theorem Derives.contains_of_split (derived : Derives keys limit level depth s filter rest)
    (isKey : IsKey word) (split : s = word.toList ++ ':' :: tail) : keys.contains word = true := by
  induction derived with
  | or _ _ _ _ _ left _ | and _ _ _ _ _ left _ | juxtaposed _ _ _ left _ => exact left split
  | ofConjunction _ same | ofNegation _ same | ofOperand _ same => exact same split
  | not keyword _ _ _ =>
    have stops : Stops isKeyChar (':' :: tail) := stops_cons.mpr (by decide)
    obtain ⟨-, rfl⟩ := keyword.eq_of_split lettered_not isKey.2 stops split
    obtain ⟨_, _, _, c, behind, colon, ends⟩ := keyword
    obtain ⟨rfl, -⟩ := List.cons.inj colon
    exact absurd ends (by decide)
  | group _ _ _ _ _ =>
    obtain ⟨c, letters, begins, opens⟩ := isKey.begins
    rw [begins, List.cons_append] at split
    obtain ⟨rfl, -⟩ := List.cons.inj split
    exact absurd opens (by decide)
  | literal key blanks _ _ =>
    exact key.contains_of_split (blanks.stops_isKeyChar (stops_cons.mpr (by decide))) isKey split

theorem read?_unknown_key (isKey : IsKey word) (unknown : keys.contains word = false)
    (behind : String) : read? keys (word ++ ":" ++ behind) = none := by
  cases read : read? keys (word ++ ":" ++ behind) with
  | none => rfl
  | some filter =>
    obtain ⟨s, rest, blanks, derived, -⟩ := readWithin?_iff_derivesQuery.mp read
    have split : (word ++ ":" ++ behind).toList = word.toList ++ ':' :: behind.toList := by simp
    have stops : Stops Text.isBlank (word ++ ":" ++ behind).toList := by
      obtain ⟨c, letters, begins, opens⟩ := isKey.begins
      rw [split, begins]
      exact stops_cons.mpr (isBlank_of_isKeyChar opens)
    have whole := (skipBlanks_of_stops stops).symm.trans (blanks.skipBlanks_eq derived.stops)
    rw [derived.contains_of_split isKey (whole.symm.trans split)] at unknown
    contradiction

end

end Query

end CatalogQuery
