import CatalogQuery.Filter.Printer
import CatalogQuery.Proofs.Query.Spelling

/-! # Reading the bracketed form

The bracketed form of a filter has one pair of brackets for each conjunction and each disjunction,
and none for a negation. Over a key set that has its literals, it is read as the filter itself
(`derives_bracketed`), unless a negation stands directly under another one or the brackets nest too
deeply. Then it is refused (`negation?_bracketed_eq_none`): what cannot be read inside a group ends
the loop in front of it, and no closing bracket stands there.
-/

namespace CatalogQuery

/-- The most brackets around each other in the bracketed form. -/
def Filter.bracketHeight : Filter → Nat
  | .literal _ _ => 0
  | .and left right => 1 + max left.bracketHeight right.bracketHeight
  | .or left right => 1 + max left.bracketHeight right.bracketHeight
  | .not child => child.bracketHeight

def Filter.isNegation : Filter → Bool
  | .not _ => true
  | _ => false

def Filter.noDoubleNegation : Filter → Bool
  | .literal _ _ => true
  | .and left right => left.noDoubleNegation && right.noDoubleNegation
  | .or left right => left.noDoubleNegation && right.noDoubleNegation
  | .not child => !child.isNegation && child.noDoubleNegation

namespace Filter

variable {left right child : Filter} {key value : String}

theorem toList_bracketed_and : (left.and right).bracketed.toList =
    '(' :: (left.bracketed.toList ++ ' ' :: 'A' :: 'N' :: 'D' :: ' ' ::
      (right.bracketed.toList ++ [')'])) := by
  simp [bracketed]

theorem toList_bracketed_or : (left.or right).bracketed.toList =
    '(' :: (left.bracketed.toList ++ ' ' :: 'O' :: 'R' :: ' ' ::
      (right.bracketed.toList ++ [')'])) := by
  simp [bracketed]

theorem toList_bracketed_not :
    child.not.bracketed.toList = 'N' :: 'O' :: 'T' :: ' ' :: child.bracketed.toList := by
  simp [bracketed]

end Filter

namespace Query

section
variable {keys : KeySet} {limit depth : Nat} {rest : List Char} {filter : Filter}

theorem stops_space (s : List Char) : Stops isBareChar (' ' :: s) := stops_cons.mpr (by decide)

theorem stops_close (s : List Char) : Stops isBareChar (')' :: s) := stops_cons.mpr (by decide)

theorem isBareChar_of_not_needsQuotes {c : Char} (plain : Filter.needsQuotes c = false)
    (quoteless : c ≠ '"') : isBareChar c = true := by
  simp only [Filter.needsQuotes, Bool.or_eq_false_iff, beq_eq_false_iff_ne] at plain
  simp [isBareChar, plain.1.1, plain.1.2, plain.2, quoteless]

theorem derives_literalText {key value : String} (expressible : Expressible keys (key, value))
    (stops : Stops isBareChar rest) :
    Derives keys limit .operand depth ((Filter.literalText key value).toList ++ rest)
      (.literal key value) rest := by
  unfold Filter.literalText
  split
  · simp only [String.toList_append, List.append_assoc]
    exact derives_quoted expressible
  · next plain =>
    have inside : ∀ c ∈ value.toList, isBareChar c = true := by
      intro c member
      apply isBareChar_of_not_needsQuotes
      · simp only [List.any_eq_true, not_exists, not_and, Bool.not_eq_true] at plain
        exact plain c member
      · rintro rfl
        exact expressible.quoteless member
    simp only [String.toList_append, List.append_assoc]
    exact derives_bare expressible inside stops

/-- In front of a rest that ends a bare value, the bracketed form is derived for its filter. Only a
negation is no operand. -/
theorem derives_bracketed (expressible : ∀ literal ∈ filter.literals, Expressible keys literal)
    (single : filter.noDoubleNegation = true) (within : filter.bracketHeight + depth ≤ limit)
    (stops : Stops isBareChar rest) :
    Derives keys limit .negation depth (filter.bracketed.toList ++ rest) filter rest ∧
      (filter.isNegation = false →
        Derives keys limit .operand depth (filter.bracketed.toList ++ rest) filter rest) := by
  -- A negation needs its child as an operand, so both levels go through the induction together.
  induction filter generalizing depth rest with
  | literal key value =>
    have known := expressible _ List.mem_cons_self
    exact ⟨.ofOperand (derives_literalText known stops), fun _ => derives_literalText known stops⟩
  | and left right leftDerives rightDerives =>
    obtain ⟨leftExpressible, rightExpressible⟩ := List.forall_mem_append.mp expressible
    simp only [Filter.noDoubleNegation, Bool.and_eq_true] at single
    simp only [Filter.bracketHeight] at within
    have leftRoom : left.bracketHeight + (depth + 1) ≤ limit := by omega
    have rightRoom : right.bracketHeight + (depth + 1) ≤ limit := by omega
    have first := fun s => leftDerives leftExpressible single.1 leftRoom (stops_space s)
    have second := rightDerives rightExpressible single.2 rightRoom (stops_close rest)
    have grouped := derives_group (by omega)
      (.ofConjunction (derives_and (.ofNegation (first _).1) second.1))
    rw [Filter.toList_bracketed_and]
    simp only [List.cons_append, List.append_assoc, List.nil_append]
    exact ⟨.ofOperand grouped, fun _ => grouped⟩
  | or left right leftDerives rightDerives =>
    obtain ⟨leftExpressible, rightExpressible⟩ := List.forall_mem_append.mp expressible
    simp only [Filter.noDoubleNegation, Bool.and_eq_true] at single
    simp only [Filter.bracketHeight] at within
    have leftRoom : left.bracketHeight + (depth + 1) ≤ limit := by omega
    have rightRoom : right.bracketHeight + (depth + 1) ≤ limit := by omega
    have first := fun s => leftDerives leftExpressible single.1 leftRoom (stops_space s)
    have second := rightDerives rightExpressible single.2 rightRoom (stops_close rest)
    have grouped := derives_group (by omega)
      (derives_or (.ofConjunction (.ofNegation (first _).1)) (.ofNegation second.1))
    rw [Filter.toList_bracketed_or]
    simp only [List.cons_append, List.append_assoc, List.nil_append]
    exact ⟨.ofOperand grouped, fun _ => grouped⟩
  | not child childDerives =>
    simp only [Filter.noDoubleNegation, Bool.and_eq_true, Bool.not_eq_true'] at single
    have derived := (childDerives expressible single.2 within stops).2 single.1
    rw [Filter.toList_bracketed_not]
    exact ⟨derives_not derived, nofun⟩

theorem bracketed_opens (expressible : ∀ literal ∈ filter.literals, Expressible keys literal)
    (stops : Stops isBareChar rest) : ¬ Stops opensOperand (filter.bracketed.toList ++ rest) := by
  cases filter with
  | literal key value =>
    have derived : Derives keys 0 .operand 0 _ _ rest :=
      derives_literalText (expressible _ List.mem_cons_self) stops
    exact derived.not_stops
  | and left right => simp [Filter.toList_bracketed_and]; decide
  | or left right => simp [Filter.toList_bracketed_or]; decide
  | not child => simp [Filter.toList_bracketed_not]; decide

/-! ## What is refused -/

theorem negation?_bracketed {room : Nat}
    (expressible : ∀ literal ∈ filter.literals, Expressible keys literal)
    (single : filter.noDoubleNegation = true) (within : filter.bracketHeight ≤ room)
    (stops : Stops isBareChar rest) :
    negation? (operand? keys room) (filter.bracketed.toList ++ rest) = some (filter, rest) := by
  have derived : Derives keys room .negation 0 (filter.bracketed.toList ++ rest) filter rest :=
    (derives_bracketed expressible single within stops).1
  exact reads_of_derives derived (Nat.zero_le room)

theorem operand?_not_eq_none {room : Nat} {s : List Char} (opens : ¬ Stops opensOperand s) :
    operand? keys room ('N' :: 'O' :: 'T' :: ' ' :: s) = none := by
  cases read : operand? keys room ('N' :: 'O' :: 'T' :: ' ' :: s) with
  | none => rfl
  | some found =>
    have derived := sound_operand? keys (Nat.zero_le room) _ found.1 found.2 read
    obtain ⟨tail, colon⟩ := derived.colon_of_keyword (keyword_not s) lettered_not
    have reached := (blanks_space s).skipBlanks_eq (stops_isBlank_of_opens opens)
    rw [reached] at colon
    exact absurd (by rw [colon]; exact stops_cons.mpr (by decide)) opens

theorem operand?_bracket_eq_none {room : Nat} {s : List Char}
    (refused : ∀ inner < room, group? (operand? keys inner) s = none) :
    operand? keys room ('(' :: s) = none := by
  cases room with
  | zero =>
    cases read : operand? keys 0 ('(' :: s) with
    | none => rfl
    | some found =>
      obtain ⟨key, value, colon, behind, next, isKey, -⟩ := literal?_eq_some_iff.mp read
      obtain ⟨c, tail, bracket, opens⟩ := isKey.begins
      obtain ⟨rfl, -⟩ := List.cons.inj bracket
      exact absurd opens (by decide)
  | succ inner => exact refused inner (Nat.lt_succ_self inner)

/-- A group is refused if its first part is, or if nothing goes on and nothing closes behind it. -/
theorem group?_eq_none {operand : Reader Filter} {s middle : List Char} (left : Filter)
    (opens : ¬ Stops opensOperand s) (unclosed : ∀ rest, ¬ Blanks middle (')' :: rest))
    (first : negation? operand s = none ∨ negation? operand s = some (left, middle) ∧
      conjunct? operand middle = none ∧ disjunct? operand middle = none) :
    group? operand s = none := by
  cases read : group? operand s with
  | none => rfl
  | some found =>
    obtain ⟨close, inside, closes⟩ := group?_eq_some_iff.mp read
    rw [skipBlanks_of_stops (stops_isBlank_of_opens opens)] at inside
    rcases first with none | ⟨found, noAnd, noOr⟩
    · simp [disjunction?, conjunction?, none] at inside
    · simp only [disjunction?, conjunction?, found, Option.bind_eq_bind, Option.bind_some,
        Option.pure_def, chain_of_none noAnd, chain_of_none noOr, Option.some.injEq,
        Prod.mk.injEq] at inside
      obtain ⟨-, rfl⟩ := inside
      exact absurd closes (unclosed _)

theorem not_blanks_close {word s behind : List Char} (keyword : Keyword word s behind)
    (lettered : Lettered word) (rest : List Char) :
    ¬ Blanks (' ' :: s) (')' :: rest) := by
  intro blanks
  have skipped := (blanks_space s).skipBlanks_eq (keyword.stops_isBlank lettered)
  rw [blanks.skipBlanks_eq (stops_cons.mpr (by decide))] at skipped
  obtain ⟨c, tail, rfl, opens⟩ := keyword.begins lettered
  obtain ⟨rfl, -⟩ := List.cons.inj skipped
  exact absurd opens (by decide)

section
variable {operand : Reader Filter} (sound : Sound keys limit .operand depth operand)
include sound

theorem Sound.refused_behind_and {s : List Char} (refused : negation? operand s = none)
    (opens : ¬ Stops opensOperand s) :
    conjunct? operand (' ' :: 'A' :: 'N' :: 'D' :: ' ' :: s) = none ∧
      disjunct? operand (' ' :: 'A' :: 'N' :: 'D' :: ' ' :: s) = none := by
  have skipped := (blanks_space _).skipBlanks_eq ((keyword_and s).stops_isBlank lettered_and)
  have reached := (blanks_space s).skipBlanks_eq (stops_isBlank_of_opens opens)
  constructor
  · -- Without its right side the `AND` could only be the key of a juxtaposed literal.
    rw [conjunct?_of_negation, skipped]
    · exact sound.negation_eq_none_of_keyword (keyword_and s) lettered_and (by decide)
        (by rwa [reached])
    · intro behind keyword
      rw [skipped] at keyword
      obtain ⟨-, rfl⟩ := (keyword_and s).unique keyword lettered_and lettered_and
      rwa [reached]
  · cases read : disjunct? operand (' ' :: 'A' :: 'N' :: 'D' :: ' ' :: s) with
    | none => rfl
    | some found =>
      obtain ⟨behind, keyword, -⟩ := behind?_eq_some_iff.mp read
      rw [skipped] at keyword
      exact absurd ((keyword_and s).unique keyword lettered_and lettered_or).1 (by decide)

theorem Sound.refused_behind_or {s : List Char} (refused : negation? operand s = none)
    (opens : ¬ Stops opensOperand s) :
    conjunct? operand (' ' :: 'O' :: 'R' :: ' ' :: s) = none ∧
      disjunct? operand (' ' :: 'O' :: 'R' :: ' ' :: s) = none := by
  have skipped := (blanks_space _).skipBlanks_eq ((keyword_or s).stops_isBlank lettered_or)
  have reached := (blanks_space s).skipBlanks_eq (stops_isBlank_of_opens opens)
  constructor
  · have keyword := keyword_or s
    rw [← skipped] at keyword
    exact sound.conjunct_eq_none_of_or keyword (by rwa [reached])
  · cases read : disjunct? operand (' ' :: 'O' :: 'R' :: ' ' :: s) with
    | none => rfl
    | some found =>
      obtain ⟨behind, keyword, conjunction⟩ := behind?_eq_some_iff.mp read
      rw [skipped] at keyword
      obtain ⟨-, rfl⟩ := (keyword_or s).unique keyword lettered_or lettered_or
      rw [reached] at conjunction
      simp [conjunction?, refused] at conjunction

end

/-- A pair in brackets is refused if one side does not fit in there: either the left side is not
read, or the group stops behind it. -/
theorem operand?_pair_eq_none {left right : Filter} {room : Nat} {s middle : List Char}
    (refused : ¬ ((left.noDoubleNegation && right.noDoubleNegation) = true ∧
      1 + max left.bracketHeight right.bracketHeight ≤ room))
    (opens : ¬ Stops opensOperand s) (unclosed : ∀ rest, ¬ Blanks middle (')' :: rest))
    (leftReads : ∀ {inner}, left.noDoubleNegation = true → left.bracketHeight ≤ inner →
      negation? (operand? keys inner) s = some (left, middle))
    (leftRefused : ∀ {inner}, ¬ (left.noDoubleNegation = true ∧ left.bracketHeight ≤ inner) →
      negation? (operand? keys inner) s = none)
    (rightRefused : ∀ {inner}, ¬ (right.noDoubleNegation = true ∧ right.bracketHeight ≤ inner) →
      conjunct? (operand? keys inner) middle = none ∧ disjunct? (operand? keys inner) middle = none) :
    operand? keys room ('(' :: s) = none := by
  refine operand?_bracket_eq_none fun inner within => group?_eq_none left opens unclosed ?_
  by_cases leftFits : left.noDoubleNegation = true ∧ left.bracketHeight ≤ inner
  · have rightMisfits : ¬ (right.noDoubleNegation = true ∧ right.bracketHeight ≤ inner) := by
      rintro ⟨single, fits⟩
      refine refused ⟨by rw [leftFits.1, single]; rfl, ?_⟩
      have := leftFits.2
      omega
    exact .inr ⟨leftReads leftFits.1 leftFits.2, rightRefused rightMisfits⟩
  · exact .inl (leftRefused leftFits)

theorem negation?_bracketed_eq_none {room : Nat}
    (expressible : ∀ literal ∈ filter.literals, Expressible keys literal)
    (refused : ¬ (filter.noDoubleNegation = true ∧ filter.bracketHeight ≤ room))
    (stops : Stops isBareChar rest) :
    negation? (operand? keys room) (filter.bracketed.toList ++ rest) = none := by
  -- The sides of a pair are read with one bracket less, so the induction is for every room.
  induction filter generalizing room rest with
  | literal key value => exact absurd ⟨rfl, Nat.zero_le room⟩ refused
  | and left right leftRefused rightRefused =>
    obtain ⟨leftExpressible, rightExpressible⟩ := List.forall_mem_append.mp expressible
    have opens := fun s => bracketed_opens leftExpressible (stops_space s)
    have rightOpens := bracketed_opens rightExpressible (stops_close rest)
    rw [Filter.toList_bracketed_and]
    simp only [List.cons_append, List.append_assoc, List.nil_append]
    rw [negation?_bracket]
    apply operand?_pair_eq_none refused (opens _) (not_blanks_close (keyword_and _) lettered_and)
    · intro inner single fits
      exact negation?_bracketed leftExpressible single fits (stops_space _)
    · intro inner misfit
      exact leftRefused leftExpressible misfit (stops_space _)
    · intro inner misfit
      have rightNone := rightRefused rightExpressible misfit (stops_close rest)
      exact (sound_operand? keys (Nat.zero_le inner)).refused_behind_and rightNone rightOpens
  | or left right leftRefused rightRefused =>
    obtain ⟨leftExpressible, rightExpressible⟩ := List.forall_mem_append.mp expressible
    have opens := fun s => bracketed_opens leftExpressible (stops_space s)
    have rightOpens := bracketed_opens rightExpressible (stops_close rest)
    rw [Filter.toList_bracketed_or]
    simp only [List.cons_append, List.append_assoc, List.nil_append]
    rw [negation?_bracket]
    apply operand?_pair_eq_none refused (opens _) (not_blanks_close (keyword_or _) lettered_or)
    · intro inner single fits
      exact negation?_bracketed leftExpressible single fits (stops_space _)
    · intro inner misfit
      exact leftRefused leftExpressible misfit (stops_space _)
    · intro inner misfit
      have rightNone := rightRefused rightExpressible misfit (stops_close rest)
      exact (sound_operand? keys (Nat.zero_le inner)).refused_behind_or rightNone rightOpens
  | not child childRefused =>
    have opens : ¬ Stops opensOperand (child.bracketed.toList ++ rest) :=
      bracketed_opens expressible stops
    have childNone : operand? keys room (child.bracketed.toList ++ rest) = none := by
      cases child with
      | not grandchild =>
        rw [Filter.toList_bracketed_not]
        exact operand?_not_eq_none (bracketed_opens expressible stops)
      | literal _ _ | and _ _ | or _ _ =>
        exact operand_eq_none_of_negation? (childRefused expressible refused stops)
    rw [Filter.toList_bracketed_not]
    simp only [List.cons_append]
    rw [negation?_of_operand]
    · exact operand?_not_eq_none opens
    · intro behind keyword
      obtain ⟨-, rfl⟩ := (keyword_not _).unique keyword lettered_not lettered_not
      rwa [(blanks_space _).skipBlanks_eq (stops_isBlank_of_opens opens)]

end

/-- The bracketed form of a filter is read as the filter exactly if the key set has its literals, no
negation stands directly under another one and no more brackets than allowed stand around each other.
Where only one of the last two fails, it is refused, never read as another filter. -/
theorem read?_bracketed (keys : KeySet) (filter : Filter) :
    (read? keys filter.bracketed = some filter ↔
      (∀ literal ∈ filter.literals, Expressible keys literal) ∧
        filter.noDoubleNegation = true ∧ filter.bracketHeight ≤ maxNesting) ∧
    ((∀ literal ∈ filter.literals, Expressible keys literal) →
      ¬ (filter.noDoubleNegation = true ∧ filter.bracketHeight ≤ maxNesting) →
        read? keys filter.bracketed = none) := by
  have refuses : (∀ literal ∈ filter.literals, Expressible keys literal) →
      ¬ (filter.noDoubleNegation = true ∧ filter.bracketHeight ≤ maxNesting) →
        read? keys filter.bracketed = none := by
    intro expressible misfit
    have opens : ¬ Stops opensOperand (filter.bracketed.toList ++ []) :=
      bracketed_opens expressible stops_nil
    have refused := negation?_bracketed_eq_none expressible misfit stops_nil
    rw [List.append_nil] at opens refused
    rw [read?, readWithin?, skipBlanks_of_stops (stops_isBlank_of_opens opens)]
    simp [disjunction?, conjunction?, refused]
  refine ⟨⟨?_, ?_⟩, refuses⟩
  · intro read
    have expressible := read?_expressible read
    refine ⟨expressible, Classical.byContradiction fun misfit => ?_⟩
    rw [refuses expressible misfit] at read
    contradiction
  · rintro ⟨expressible, single, within⟩
    have derived : Derives keys maxNesting .negation 0 (filter.bracketed.toList ++ []) filter [] :=
      (derives_bracketed expressible single within stops_nil).1
    rw [List.append_nil] at derived
    exact readWithin?_iff_derivesQuery.mpr
      ⟨_, [], .refl _, .ofConjunction (.ofNegation derived), .refl []⟩

example : read? KeySet.standard (Filter.not (.not (.literal "name" "a"))).bracketed = none := by
  decide +kernel

end Query

end CatalogQuery
