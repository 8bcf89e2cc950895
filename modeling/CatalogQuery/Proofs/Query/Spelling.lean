import CatalogQuery.Proofs.Query.Literals

/-! # Spelling out queries

One way to write each part of a query, with the derivation that it has in front of any rest: a
literal with or without quotes, a group without blanks, and operators in capital letters with one
blank beside them.
-/

namespace CatalogQuery.Query

/-! ## Levels -/

/-- How tightly the parts of the level bind. -/
def Level.rank : Level → Nat
  | .disjunction => 0
  | .conjunction => 1
  | .negation => 2
  | .operand => 3

section
variable {keys : KeySet} {limit depth : Nat} {s t rest : List Char} {filter left right : Filter}

theorem Derives.loosen {loose tight : Level} (derived : Derives keys limit tight depth s filter rest)
    (le : loose.rank ≤ tight.rank) : Derives keys limit loose depth s filter rest := by
  cases tight with
  | disjunction =>
    cases loose with
    | disjunction => exact derived
    | conjunction | negation | operand => simp [Level.rank] at le
  | conjunction =>
    cases loose with
    | disjunction => exact .ofConjunction derived
    | conjunction => exact derived
    | negation | operand => simp [Level.rank] at le
  | negation =>
    cases loose with
    | disjunction => exact .ofConjunction (.ofNegation derived)
    | conjunction => exact .ofNegation derived
    | negation => exact derived
    | operand => simp [Level.rank] at le
  | operand =>
    cases loose with
    | disjunction => exact .ofConjunction (.ofNegation (.ofOperand derived))
    | conjunction => exact .ofNegation (.ofOperand derived)
    | negation => exact .ofOperand derived
    | operand => exact derived

/-! ## Literals -/

theorem key_of_mem {key : String} (known : key ∈ keys.keys) : Key keys (key.toList ++ rest) key rest := by
  have lowercase := KeySet.isLowercaseKey_of_mem known
  refine ⟨key.toList, lowercase.1.1, lowercase.1.2, rfl, ?_, known⟩
  rw [String.ofList_toList, lowercase.lowercase_eq]

theorem derives_of_value {key value : String} (known : key ∈ keys.keys) (isValue : Value s value rest) :
    Derives keys limit .operand depth (key.toList ++ ':' :: s) (.literal key value) rest :=
  .literal (key_of_mem known) (.refl _) (.refl _) isValue

theorem derives_quoted {literal : String × String} (expressible : Expressible keys literal) :
    Derives keys limit .operand depth
      (literal.1.toList ++ ':' :: '"' :: (literal.2.toList ++ '"' :: rest))
      (.literal literal.1 literal.2) rest := by
  have isValue : Value ('"' :: (literal.2.toList ++ '"' :: rest)) _ rest :=
    .quoted (by simpa using expressible.nonempty) expressible.quoteless
  rw [String.ofList_toList] at isValue
  exact derives_of_value expressible.known isValue

theorem derives_bare {literal : String × String} (expressible : Expressible keys literal)
    (inside : ∀ c ∈ literal.2.toList, isBareChar c = true) (stops : Stops isBareChar rest) :
    Derives keys limit .operand depth (literal.1.toList ++ ':' :: (literal.2.toList ++ rest))
      (.literal literal.1 literal.2) rest := by
  have isValue := Value.bare (by simpa using expressible.nonempty) inside stops
  rw [String.ofList_toList] at isValue
  exact derives_of_value expressible.known isValue

/-! ## Groups and operators -/

theorem derives_group (room : depth < limit)
    (inside : Derives keys limit .disjunction (depth + 1) s filter (')' :: rest)) :
    Derives keys limit .operand depth ('(' :: s) filter rest :=
  .group room (.refl s) inside (.refl _)

theorem blanks_space (s : List Char) : Blanks (' ' :: s) s := ⟨[' '], List.all_eq_true.mp rfl, rfl⟩

theorem keyword_or (s : List Char) : Keyword ['o', 'r'] ('O' :: 'R' :: ' ' :: s) (' ' :: s) :=
  ⟨['O', 'R'], rfl, rfl, ' ', s, rfl, .inl rfl⟩

theorem keyword_and (s : List Char) :
    Keyword ['a', 'n', 'd'] ('A' :: 'N' :: 'D' :: ' ' :: s) (' ' :: s) :=
  ⟨['A', 'N', 'D'], rfl, rfl, ' ', s, rfl, .inl rfl⟩

theorem keyword_not (s : List Char) :
    Keyword ['n', 'o', 't'] ('N' :: 'O' :: 'T' :: ' ' :: s) (' ' :: s) :=
  ⟨['N', 'O', 'T'], rfl, rfl, ' ', s, rfl, .inl rfl⟩

theorem derives_or
    (first : Derives keys limit .disjunction depth s left (' ' :: 'O' :: 'R' :: ' ' :: t))
    (second : Derives keys limit .conjunction depth t right rest) :
    Derives keys limit .disjunction depth s (.or left right) rest :=
  .or first (blanks_space _) (keyword_or t) (blanks_space t) second

theorem derives_and
    (first : Derives keys limit .conjunction depth s left (' ' :: 'A' :: 'N' :: 'D' :: ' ' :: t))
    (second : Derives keys limit .negation depth t right rest) :
    Derives keys limit .conjunction depth s (.and left right) rest :=
  .and first (blanks_space _) (keyword_and t) (blanks_space t) second

theorem derives_not (child : Derives keys limit .operand depth s filter rest) :
    Derives keys limit .negation depth ('N' :: 'O' :: 'T' :: ' ' :: s) (.not filter) rest :=
  .not (keyword_not s) (blanks_space s) child

end

end CatalogQuery.Query
