import CatalogQuery.Filter.Basic

/-! # Sizes of filters

The root of a filter joins at most two parts, and what holds of a filter whenever it holds of its
parts holds of every filter (`induction_on_parts`). Since operators other than the negation join
exactly two, the literals and the negations of a filter say how many nodes it has
(`nodeCount_succ`).
-/

namespace CatalogQuery.Filter

/-! ## Parts -/

/-- What the root of the filter joins. -/
def parts : Filter → List Filter
  | .literal _ _ => []
  | .and left right | .or left right => [left, right]
  | .not child => [child]

theorem induction_on_parts {holds : Filter → Prop}
    (step : ∀ filter, (∀ part ∈ filter.parts, holds part) → holds filter) (filter : Filter) :
    holds filter := by
  induction filter with
  | literal key value => exact step _ nofun
  | and left right leftHolds rightHolds | or left right leftHolds rightHolds =>
    apply step
    simpa [parts] using ⟨leftHolds, rightHolds⟩
  | not child childHolds =>
    apply step
    simpa [parts] using childHolds

theorem depth_pos (filter : Filter) : 0 < filter.depth := by
  cases filter with
  | literal key value => exact Nat.one_pos
  | and left right | or left right | not child => exact Nat.add_pos_left Nat.one_pos _

theorem depth_lt_of_mem_parts {filter : Filter} :
    ∀ part ∈ filter.parts, part.depth < filter.depth := by
  cases filter with
  | literal key value => exact nofun
  | and left right | or left right =>
    simp only [parts, depth, List.mem_cons, List.not_mem_nil, or_false, forall_eq_or_imp, forall_eq]
    omega
  | not child => simp [parts, depth]

/-- A filter is one level deeper than the deepest of its parts, if it has any. -/
theorem depth_cases (filter : Filter) :
    filter.depth = 1 ∨ ∃ part ∈ filter.parts, filter.depth = part.depth + 1 := by
  cases filter with
  | literal key value => exact .inl rfl
  | and left right | or left right =>
    right
    rcases Nat.le_total left.depth right.depth with le | le
    · exact ⟨right, by simp [parts], by simp only [depth]; omega⟩
    · exact ⟨left, by simp [parts], by simp only [depth]; omega⟩
  | not child => exact .inr ⟨child, by simp [parts], by simp only [depth]; omega⟩

/-! ## Counts -/

def nodeCount : Filter → Nat
  | .literal _ _ => 1
  | .and left right => 1 + (left.nodeCount + right.nodeCount)
  | .or left right => 1 + (left.nodeCount + right.nodeCount)
  | .not child => 1 + child.nodeCount

def negationCount : Filter → Nat
  | .literal _ _ => 0
  | .and left right => left.negationCount + right.negationCount
  | .or left right => left.negationCount + right.negationCount
  | .not child => 1 + child.negationCount

theorem nodeCount_succ (filter : Filter) :
    filter.nodeCount + 1 = 2 * filter.literalCount + filter.negationCount := by
  induction filter with
  | literal key value => rfl
  | and left right leftSame rightSame | or left right leftSame rightSame =>
    simp only [nodeCount, literalCount, negationCount]
    omega
  | not child same =>
    simp only [nodeCount, literalCount, negationCount]
    omega

theorem literalCount_pos (filter : Filter) : 0 < filter.literalCount := by
  induction filter with
  | literal key value => exact Nat.one_pos
  | and left right leftPos _ | or left right leftPos _ => exact Nat.add_pos_left leftPos _
  | not child pos => exact pos

end CatalogQuery.Filter
