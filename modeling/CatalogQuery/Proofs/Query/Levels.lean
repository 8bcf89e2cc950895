import CatalogQuery.Proofs.Query.Grammar

/-! # Readers of one level

What each reader of `Query.Reader` finds, given what the reader of operands below it finds. A loop
over operands is followed one operand at a time (`chain_of_some`) until there is none
(`chain_of_none`); its bound never cuts it short when every operand takes text.
-/

namespace CatalogQuery.Query

/-! ## Literals -/

theorem colon?_eq_some_iff {s rest : List Char} :
    colon? s = some rest ↔ ∃ behind, Blanks s (':' :: behind) ∧ Text.skipBlanks behind = rest := by
  unfold colon?
  constructor
  · intro read
    split at read
    · next behind skipped =>
      cases read
      exact ⟨behind, skipped ▸ blanks_skipBlanks s, rfl⟩
    · contradiction
  · rintro ⟨behind, blanks, rfl⟩
    have skipped := blanks.skipBlanks_eq (stops_cons.mpr (by decide))
    simp [skipped]

theorem literal?_eq_some_iff {keys : KeySet} {s rest : List Char} {filter : Filter} :
    literal? keys s = some (filter, rest) ↔
      ∃ key value colon behind next, Key keys s key colon ∧ Blanks colon (':' :: behind) ∧
        Blanks behind next ∧ Value next value rest ∧ .literal key value = filter := by
  simp only [literal?, Option.bind_eq_bind, Option.bind_eq_some_iff, Prod.exists,
    key?_eq_some_iff, colon?_eq_some_iff, value?_eq_some_iff, Option.pure_def, Option.some.injEq,
    Prod.mk.injEq]
  constructor
  · rintro ⟨key, colon, ⟨isKey, -⟩, next, ⟨behind, blanks, rfl⟩, value, _, isValue, rfl, rfl⟩
    exact ⟨key, value, colon, behind, _, isKey, blanks, blanks_skipBlanks behind, isValue, rfl⟩
  · rintro ⟨key, value, colon, behind, next, isKey, blanks, more, isValue, rfl⟩
    exact ⟨key, colon, ⟨isKey, blanks.stops_isKeyChar (stops_cons.mpr (by decide))⟩, next,
      ⟨behind, blanks, more.skipBlanks_eq isValue.stops⟩, value, rest, isValue, rfl, rfl⟩

theorem derives_of_literal? {keys : KeySet} {limit depth : Nat} {s rest : List Char}
    {filter : Filter} (read : literal? keys s = some (filter, rest)) :
    Derives keys limit .operand depth s filter rest := by
  obtain ⟨key, value, colon, behind, next, isKey, blanks, more, isValue, rfl⟩ :=
    literal?_eq_some_iff.mp read
  exact .literal isKey blanks more isValue

/-! ## Loops -/

section
variable {join : Filter → Filter → Filter} {next : Reader Filter}

theorem chain_induction {holds : Filter → List Char → Prop}
    (step : ∀ left s right rest, holds left s → next s = some (right, rest) →
      holds (join left right) rest)
    (n : Nat) (left : Filter) (s : List Char) (start : holds left s) :
    holds (chain join next n left s).1 (chain join next n left s).2 := by
  induction n generalizing left s with
  | zero => exact start
  | succ n ih =>
    simp only [chain]
    split
    · next right rest read => exact ih _ _ (step left s right rest start read)
    · exact start

/-- The reader takes text whenever it reads something. -/
def Shrinks (next : Reader Filter) : Prop :=
  ∀ s filter rest, next s = some (filter, rest) → rest.length < s.length

theorem chain_of_none {n : Nat} {left : Filter} {s : List Char} (ends : next s = none) :
    chain join next n left s = (left, s) := by
  cases n with
  | zero => rfl
  | succ n => simp [chain, ends]

theorem chain_bound (shrinks : Shrinks next) {n m : Nat} {left : Filter} {s : List Char}
    (first : s.length ≤ n) (second : s.length ≤ m) :
    chain join next n left s = chain join next m left s := by
  -- Each operand takes text, so it lowers the length by as much as the loop lowers its bound.
  induction n generalizing m left s with
  | zero =>
    have ends : next s = none := by
      cases read : next s with
      | none => rfl
      | some found =>
        have := shrinks s found.1 found.2 read
        omega
    rw [chain_of_none ends, chain_of_none ends]
  | succ n ih =>
    cases read : next s with
    | none => rw [chain_of_none read, chain_of_none read]
    | some found =>
      obtain ⟨right, rest⟩ := found
      have shorter := shrinks s right rest read
      cases m with
      | zero => omega
      | succ m =>
        simp only [chain, read]
        exact ih (by omega) (by omega)

theorem chain_of_some (shrinks : Shrinks next) {left right : Filter} {s rest : List Char}
    (read : next s = some (right, rest)) :
    chain join next s.length left s = chain join next rest.length (join left right) rest := by
  have shorter := shrinks s right rest read
  cases length : s.length with
  | zero => omega
  | succ n =>
    simp only [chain, read]
    exact chain_bound shrinks (by omega) (Nat.le_refl _)

end

/-- A first operand, and further ones as long as there are any. -/
def chained (join : Filter → Filter → Filter) (first next : Reader Filter) : Reader Filter :=
  fun s => do
    let (left, rest) ← first s
    return chain join next rest.length left rest

theorem conjunction?_eq (operand : Reader Filter) :
    conjunction? operand = chained .and (negation? operand) (conjunct? operand) :=
  rfl

theorem disjunction?_eq (operand : Reader Filter) :
    disjunction? operand = chained .or (conjunction? operand) (disjunct? operand) :=
  rfl

/-! ## Operators -/

theorem behind?_eq_some_iff {word s rest : List Char} {next : Reader Filter} {filter : Filter} :
    behind? word next s = some (filter, rest) ↔
      ∃ behind, Keyword word (Text.skipBlanks s) behind ∧
        next (Text.skipBlanks behind) = some (filter, rest) := by
  simp [behind?, Option.bind_eq_some_iff, keyword?_eq_some_iff]

section
variable {operand : Reader Filter} {s rest : List Char} {filter : Filter}

theorem negation?_cases (read : negation? operand s = some (filter, rest)) :
    (∃ behind child, Keyword ['n', 'o', 't'] s behind ∧
      operand (Text.skipBlanks behind) = some (child, rest) ∧ .not child = filter) ∨
    operand s = some (filter, rest) := by
  simp only [negation?, Option.orElse_eq_orElse, Option.orElse_eq_or, Option.or_eq_some_iff] at read
  rcases read with negated | ⟨-, plain⟩
  · simp only [Option.bind_eq_bind, Option.bind_eq_some_iff, Prod.exists, keyword?_eq_some_iff,
      Option.pure_def, Option.some.injEq, Prod.mk.injEq] at negated
    obtain ⟨behind, keyword, child, _, found, rfl, rfl⟩ := negated
    exact .inl ⟨behind, child, keyword, found, rfl⟩
  · exact .inr plain

theorem negation?_of_not {behind : List Char} (keyword : Keyword ['n', 'o', 't'] s behind)
    (found : operand (Text.skipBlanks behind) = some (filter, rest)) :
    negation? operand s = some (.not filter, rest) := by
  simp [negation?, keyword?_eq_some_iff.mpr keyword, found]

/-- Without an operand behind a `NOT`, what is read is an operand. -/
theorem negation?_of_operand
    (plain : ∀ behind, Keyword ['n', 'o', 't'] s behind → operand (Text.skipBlanks behind) = none) :
    negation? operand s = operand s := by
  cases keyword : keyword? ['n', 'o', 't'] s with
  | none => simp [negation?, keyword]
  | some behind =>
    have missing := plain behind (keyword?_eq_some_iff.mp keyword)
    simp [negation?, keyword, missing]

theorem negation?_bracket (s : List Char) : negation? operand ('(' :: s) = operand ('(' :: s) := by
  apply negation?_of_operand
  intro behind keyword
  obtain ⟨c, tail, bracket, key⟩ := keyword.begins lettered_not
  obtain ⟨rfl, -⟩ := List.cons.inj bracket
  exact absurd key (by decide)

theorem operand_eq_none_of_negation? (refused : negation? operand s = none) : operand s = none := by
  simp only [negation?, Option.orElse_eq_orElse, Option.orElse_eq_or, Option.or_eq_none_iff] at refused
  exact refused.2

theorem conjunct?_cases (read : conjunct? operand s = some (filter, rest)) :
    (∃ behind, Keyword ['a', 'n', 'd'] (Text.skipBlanks s) behind ∧
      negation? operand (Text.skipBlanks behind) = some (filter, rest)) ∨
    negation? operand (Text.skipBlanks s) = some (filter, rest) := by
  simp only [conjunct?, Option.orElse_eq_orElse, Option.orElse_eq_or, Option.or_eq_some_iff,
    behind?_eq_some_iff] at read
  rcases read with explicit | ⟨-, plain⟩
  · exact .inl explicit
  · exact .inr plain

theorem conjunct?_of_and {behind : List Char}
    (keyword : Keyword ['a', 'n', 'd'] (Text.skipBlanks s) behind)
    (found : negation? operand (Text.skipBlanks behind) = some (filter, rest)) :
    conjunct? operand s = some (filter, rest) := by
  have explicit := behind?_eq_some_iff.mpr ⟨behind, keyword, found⟩
  simp [conjunct?, explicit]

theorem conjunct?_of_negation
    (plain : ∀ behind, Keyword ['a', 'n', 'd'] (Text.skipBlanks s) behind →
      negation? operand (Text.skipBlanks behind) = none) :
    conjunct? operand s = negation? operand (Text.skipBlanks s) := by
  cases explicit : behind? ['a', 'n', 'd'] (negation? operand) s with
  | none => simp [conjunct?, explicit]
  | some found =>
    obtain ⟨behind, keyword, read⟩ := behind?_eq_some_iff.mp explicit
    rw [plain behind keyword] at read
    contradiction

/-! ## Groups -/

theorem close?_eq_some_iff {s rest : List Char} :
    close? s = some rest ↔ Blanks s (')' :: rest) := by
  unfold close?
  constructor
  · intro read
    split at read
    · next behind skipped =>
      cases read
      exact skipped ▸ blanks_skipBlanks s
    · contradiction
  · intro blanks
    have skipped := blanks.skipBlanks_eq (stops_cons.mpr (by decide))
    simp [skipped]

theorem group?_eq_some_iff :
    group? operand s = some (filter, rest) ↔
      ∃ close, disjunction? operand (Text.skipBlanks s) = some (filter, close) ∧
        Blanks close (')' :: rest) := by
  simp only [group?, Option.bind_eq_bind, Option.bind_eq_some_iff, Prod.exists,
    close?_eq_some_iff, Option.pure_def, Option.some.injEq, Prod.mk.injEq]
  constructor
  · rintro ⟨filter, close, found, _, closes, rfl, rfl⟩
    exact ⟨close, found, closes⟩
  · rintro ⟨close, found, closes⟩
    exact ⟨filter, close, found, rest, closes, rfl, rfl⟩

end

end CatalogQuery.Query
