import CatalogQuery.Proofs.Query.Spelling

/-! # The brackets that a filter needs

A filter can stand on a level without brackets if its own operator is on that level or a tighter
one. `Filter.nesting` counts the brackets around each other that remain necessary. A text with that
many exists (`derives_minimal`), and no text whatsoever gets along with fewer
(`Derives.nesting_le`), so a filter can be read exactly if the nesting it needs is allowed.
-/

namespace CatalogQuery

open Query (Level Expressible)

/-- One pair of brackets lets a part of one level stand on a tighter level. -/
def Query.Level.brackets (level own : Level) : Nat := if level.rank ≤ own.rank then 0 else 1

/-- The least number of brackets around each other in a text for the filter on a level. -/
def Filter.nesting : Level → Filter → Nat
  | _, .literal _ _ => 0
  | level, .or left right =>
    level.brackets .disjunction + max (left.nesting .disjunction) (right.nesting .conjunction)
  | level, .and left right =>
    level.brackets .conjunction + max (left.nesting .conjunction) (right.nesting .negation)
  | level, .not child => level.brackets .negation + child.nesting .operand

/-- The text in brackets, if the level asks for them. -/
def Query.Level.enclose (level own : Level) (s : List Char) : List Char :=
  if level.rank ≤ own.rank then s else '(' :: (s ++ [')'])

/-- A text for the filter on a level, with no more brackets than necessary. -/
def Filter.minimal : Level → Filter → List Char
  | _, .literal key value => key.toList ++ ':' :: '"' :: (value.toList ++ ['"'])
  | level, .or left right => level.enclose .disjunction
    (left.minimal .disjunction ++ ' ' :: 'O' :: 'R' :: ' ' :: right.minimal .conjunction)
  | level, .and left right => level.enclose .conjunction
    (left.minimal .conjunction ++ ' ' :: 'A' :: 'N' :: 'D' :: ' ' :: right.minimal .negation)
  | level, .not child => level.enclose .negation ('N' :: 'O' :: 'T' :: ' ' :: child.minimal .operand)

namespace Query

/-! ## No text gets along with fewer brackets -/

theorem Level.brackets_mono {loose tight own : Level} (le : loose.rank ≤ tight.rank) :
    loose.brackets own ≤ tight.brackets own := by
  unfold Level.brackets
  split <;> split <;> omega

theorem Level.brackets_operand_le {own : Level} :
    Level.operand.brackets own ≤ 1 + Level.disjunction.brackets own := by
  unfold Level.brackets
  split <;> omega

theorem nesting_mono {loose tight : Level} (le : loose.rank ≤ tight.rank) (filter : Filter) :
    filter.nesting loose ≤ filter.nesting tight := by
  cases filter with
  | literal key value => exact Nat.le_refl 0
  | and left right | or left right | not child =>
    exact Nat.add_le_add_right (Level.brackets_mono le) _

theorem nesting_operand_le (filter : Filter) :
    filter.nesting .operand ≤ 1 + filter.nesting .disjunction := by
  cases filter with
  | literal key value => exact Nat.zero_le _
  | and left right | or left right | not child =>
    simp only [Filter.nesting, ← Nat.add_assoc]
    exact Nat.add_le_add_right Level.brackets_operand_le _

section
variable {keys : KeySet} {limit depth : Nat} {level : Level} {s rest : List Char} {filter : Filter}

theorem Derives.nesting_le (derived : Derives keys limit level depth s filter rest)
    (within : depth ≤ limit) : filter.nesting level + depth ≤ limit := by
  induction derived with
  | or _ _ _ _ _ left right =>
    have := left within
    have := right within
    simp only [Filter.nesting, Level.brackets, Nat.le_refl, if_true]
    omega
  | and _ _ _ _ _ left right | juxtaposed _ _ _ left right =>
    have := left within
    have := right within
    simp only [Filter.nesting, Level.brackets, Nat.le_refl, if_true]
    omega
  | @ofConjunction _ _ _ filter _ same =>
    have := nesting_mono (show Level.disjunction.rank ≤ Level.conjunction.rank by decide) filter
    have := same within
    omega
  | @ofNegation _ _ _ filter _ same =>
    have := nesting_mono (show Level.conjunction.rank ≤ Level.negation.rank by decide) filter
    have := same within
    omega
  | not _ _ _ child =>
    have := child within
    simp only [Filter.nesting, Level.brackets, Nat.le_refl, if_true]
    omega
  | @ofOperand _ _ _ filter _ same =>
    have := nesting_mono (show Level.negation.rank ≤ Level.operand.rank by decide) filter
    have := same within
    omega
  | @group _ _ _ _ _ filter room _ _ _ inside =>
    have := nesting_operand_le filter
    have := inside room
    omega
  | literal _ _ _ _ =>
    simp only [Filter.nesting]
    omega

/-! ## A text with these brackets -/

theorem derives_enclose {own : Level} {inner : Nat}
    (bare : ∀ {depth rest}, inner + depth ≤ limit → Derives keys limit own depth (s ++ rest) filter rest)
    (within : level.brackets own + inner + depth ≤ limit) :
    Derives keys limit level depth (level.enclose own s ++ rest) filter rest := by
  unfold Level.brackets at within
  unfold Level.enclose
  split
  · next le =>
    rw [if_pos le] at within
    exact (bare (by omega)).loosen le
  · next tighter =>
    rw [if_neg tighter] at within
    have inside : Derives keys limit .disjunction (depth + 1) (s ++ ')' :: rest) filter (')' :: rest) :=
      (bare (by omega)).loosen (Nat.zero_le _)
    have tightest : level.rank ≤ Level.operand.rank := by cases level <;> decide
    rw [List.cons_append, List.append_assoc]
    exact (derives_group (by omega) inside).loosen tightest

theorem derives_minimal (expressible : ∀ literal ∈ filter.literals, Expressible keys literal)
    (within : filter.nesting level + depth ≤ limit) :
    Derives keys limit level depth (filter.minimal level ++ rest) filter rest := by
  -- The sides of an operator stand on other levels and in front of other texts.
  induction filter generalizing level depth rest with
  | literal key value =>
    have tightest : level.rank ≤ Level.operand.rank := by cases level <;> decide
    simp only [Filter.minimal, List.append_assoc, List.cons_append, List.nil_append]
    exact (derives_quoted (expressible (key, value) List.mem_cons_self)).loosen tightest
  | or left right leftDerives rightDerives =>
    obtain ⟨leftExpressible, rightExpressible⟩ := List.forall_mem_append.mp expressible
    refine derives_enclose (fun {depth rest} room => ?_) within
    rw [List.append_assoc]
    exact derives_or (leftDerives leftExpressible (by omega)) (rightDerives rightExpressible (by omega))
  | and left right leftDerives rightDerives =>
    obtain ⟨leftExpressible, rightExpressible⟩ := List.forall_mem_append.mp expressible
    refine derives_enclose (fun {depth rest} room => ?_) within
    rw [List.append_assoc]
    exact derives_and (leftDerives leftExpressible (by omega)) (rightDerives rightExpressible (by omega))
  | not child childDerives =>
    refine derives_enclose (fun {depth rest} room => ?_) within
    exact derives_not (childDerives expressible (by omega))

end

/-! ## The filters that can be read -/

theorem exists_readWithin?_iff {keys : KeySet} {room : Nat} {filter : Filter} :
    (∃ query, readWithin? keys room query = some filter) ↔
      (∀ literal ∈ filter.literals, Expressible keys literal) ∧
        filter.nesting .disjunction ≤ room := by
  simp only [readWithin?_iff_derivesQuery]
  constructor
  · rintro ⟨query, s, rest, -, derived, -⟩
    exact ⟨derived.expressible, derived.nesting_le (Nat.zero_le room)⟩
  · rintro ⟨expressible, within⟩
    have derived : Derives keys room .disjunction 0 (filter.minimal .disjunction ++ []) filter [] :=
      derives_minimal expressible within
    refine ⟨String.ofList (filter.minimal .disjunction), _, [], .refl _, ?_, .refl []⟩
    rwa [String.toList_ofList, ← List.append_nil (filter.minimal .disjunction)]

/-- A filter can be read exactly if its literals are expressible over the key set and the brackets
that it needs are allowed. So no literal that is read has an unknown key, a key with capital letters,
an empty value or a quote in its value. -/
theorem exists_read?_iff (keys : KeySet) (filter : Filter) :
    ((∃ query, read? keys query = some filter) ↔
      (∀ literal ∈ filter.literals, Expressible keys literal) ∧
        filter.nesting .disjunction ≤ maxNesting) ∧
    ∀ query, read? keys query = some filter → ∀ literal ∈ filter.literals,
      IsLowercaseKey literal.1 ∧ Expressible keys literal := by
  refine ⟨exists_readWithin?_iff, fun query read literal member => ?_⟩
  have expressible := read?_expressible read literal member
  exact ⟨KeySet.isLowercaseKey_of_mem expressible.known, expressible⟩

end Query

end CatalogQuery
