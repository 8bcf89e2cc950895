import CatalogQuery.Proofs.Query.Consumption
import CatalogQuery.Proofs.Query.Loops
import CatalogQuery.Proofs.Query.Unlimited

/-! # Progress of the descent

A query is read by calls for its parts. A call for a disjunction makes calls for conjunctions, one
for a conjunction makes calls for negations, and so on down to groups, which make calls for
disjunctions again. Nothing but the text bounds the loops over operands, and nothing but the limit
on open brackets bounds the groups around each other.

A call that reads something takes text (`Part.takes`), so every loop ends. What a call reads depends
on the calls that it makes and on no others (`Call.answer_eq`), and these rank lower, since they are
for a tighter part or for less text. So the calls have only one result each (`Call.answers_iff`), and
those that stand around each other are bounded by the length of the text (`Nested.bounded`).
-/

namespace CatalogQuery.Query

/-! ## Parts -/

/-- What a call reads. -/
inductive Part where
  | disjunction
  | conjunction
  | negation
  | operand
  | group
  | literal
  deriving DecidableEq, Repr

/-- An operand where `depth` groups are open around the text. -/
def operandAt? (keys : KeySet) (depth : Nat) : Reader Filter := operand? keys (maxNesting - depth)

/-- A group where `depth` groups are open around the text. -/
def groupAt? (keys : KeySet) (depth : Nat) : Reader Filter
  | '(' :: inside =>
    if depth < maxNesting then group? (operandAt? keys (depth + 1)) inside else none
  | _ => none

/-- The reader of a part where `depth` groups are open around the text. -/
def Part.reader (keys : KeySet) (depth : Nat) : Part → Reader Filter
  | .disjunction => disjunction? (operandAt? keys depth)
  | .conjunction => conjunction? (operandAt? keys depth)
  | .negation => negation? (operandAt? keys depth)
  | .operand => operandAt? keys depth
  | .group => groupAt? keys depth
  | .literal => literal? keys

section
variable {keys : KeySet} {depth : Nat} {part : Part} {s rest : List Char} {filter : Filter}

theorem literal?_bracket (keys : KeySet) (s : List Char) : literal? keys ('(' :: s) = none := by
  cases read : literal? keys ('(' :: s) with
  | none => rfl
  | some found =>
    obtain ⟨_, _, _, _, _, isKey, -⟩ := literal?_eq_some_iff.mp read
    obtain ⟨c, tail, bracket, opens⟩ := isKey.begins
    obtain ⟨rfl, -⟩ := List.cons.inj bracket
    exact absurd opens (by decide)

/-- An operand is a group, or else a literal. -/
theorem operandAt?_eq (keys : KeySet) (depth : Nat) (s : List Char) :
    operandAt? keys depth s = (groupAt? keys depth s).or (literal? keys s) := by
  unfold groupAt?
  split
  · next inside =>
    rw [literal?_bracket, Option.or_none]
    split
    · next room =>
      have next : maxNesting - depth = maxNesting - (depth + 1) + 1 := by omega
      rw [operandAt?, next]
      rfl
    · next full =>
      have none : maxNesting - depth = 0 := by omega
      rw [operandAt?, none]
      exact literal?_bracket keys inside
  · next plain => exact operand?_of_literal fun inside bracket => plain inside bracket

theorem sound_operandAt? (keys : KeySet) (depth : Nat) :
    Sound keys (maxNesting - depth) .operand 0 (operandAt? keys depth) :=
  sound_room keys _

theorem Part.derives (read : part.reader keys depth s = some (filter, rest)) :
    ∃ level, Derives keys (maxNesting - depth) level 0 s filter rest := by
  have sound := sound_operandAt? keys depth
  cases part with
  | disjunction => exact ⟨_, sound.disjunction _ _ _ read⟩
  | conjunction => exact ⟨_, sound.conjunction _ _ _ read⟩
  | negation => exact ⟨_, sound.negation _ _ _ read⟩
  | operand => exact ⟨_, sound _ _ _ read⟩
  | group =>
    have operand : operandAt? keys depth s = some (filter, rest) := by
      rw [operandAt?_eq, show groupAt? keys depth s = _ from read, Option.some_or]
    exact ⟨_, sound _ _ _ operand⟩
  | literal => exact ⟨_, derives_of_literal? read⟩

theorem Part.takes (read : part.reader keys depth s = some (filter, rest)) :
    Takes (3 * (filter.literalCount + filter.negationCount)) s rest := by
  obtain ⟨level, derived⟩ := Part.derives read
  exact derived.takes

theorem Part.shrinks (keys : KeySet) (depth : Nat) (part : Part) :
    Shrinks (part.reader keys depth) := by
  intro s filter rest read
  have := (Part.takes read).length_le
  have := filter.literalCount_pos
  omega

end

/-! ## Calls -/

/-- A call for a part at the beginning of a text, with `depth` groups open around it. -/
structure Call where
  part : Part
  depth : Nat
  text : List Char

/-- What the call reads, and what is left of the text. -/
def Call.result (keys : KeySet) (call : Call) : Option (Filter × List Char) :=
  call.part.reader keys call.depth call.text

/-- What a call makes of the results of other calls. -/
def Call.answer (keys : KeySet) (results : Call → Option (Filter × List Char)) :
    Call → Option (Filter × List Char)
  | ⟨.disjunction, depth, s⟩ =>
    let conjunction := fun t => results ⟨.conjunction, depth, t⟩
    chained .or conjunction (behind? ['o', 'r'] conjunction) s
  | ⟨.conjunction, depth, s⟩ =>
    let negation := fun t => results ⟨.negation, depth, t⟩
    let further := fun t => behind? ['a', 'n', 'd'] negation t <|> negation (Text.skipBlanks t)
    chained .and negation further s
  | ⟨.negation, depth, s⟩ => negation? (fun t => results ⟨.operand, depth, t⟩) s
  | ⟨.operand, depth, s⟩ => results ⟨.group, depth, s⟩ <|> results ⟨.literal, depth, s⟩
  | ⟨.group, depth, s⟩ => match s with
    | '(' :: inside =>
      if depth < maxNesting then do
        let (filter, rest) ← results ⟨.disjunction, depth + 1, Text.skipBlanks inside⟩
        return (filter, ← close? rest)
      else none
    | _ => none
  | ⟨.literal, _, s⟩ => literal? keys s

/-- The first call makes the second one. -/
inductive Call.Makes (keys : KeySet) : Call → Call → Prop
  | firstConjunction {depth : Nat} {s : List Char} :
      Makes keys ⟨.disjunction, depth, s⟩ ⟨.conjunction, depth, s⟩
  | furtherConjunction {depth : Nat} {s place behind : List Char} :
      Stands .or (Part.conjunction.reader keys depth) (disjunct? (operandAt? keys depth)) s place →
      keyword? ['o', 'r'] (Text.skipBlanks place) = some behind →
      Makes keys ⟨.disjunction, depth, s⟩ ⟨.conjunction, depth, Text.skipBlanks behind⟩
  | firstNegation {depth : Nat} {s : List Char} :
      Makes keys ⟨.conjunction, depth, s⟩ ⟨.negation, depth, s⟩
  | furtherNegation {depth : Nat} {s place behind : List Char} :
      Stands .and (Part.negation.reader keys depth) (conjunct? (operandAt? keys depth)) s place →
      keyword? ['a', 'n', 'd'] (Text.skipBlanks place) = some behind →
      Makes keys ⟨.conjunction, depth, s⟩ ⟨.negation, depth, Text.skipBlanks behind⟩
  /-- At the place no operand stands behind an `AND`, so one without `AND` is tried. -/
  | juxtaposedNegation {depth : Nat} {s place : List Char} :
      Stands .and (Part.negation.reader keys depth) (conjunct? (operandAt? keys depth)) s place →
      behind? ['a', 'n', 'd'] (Part.negation.reader keys depth) place = none →
      Makes keys ⟨.conjunction, depth, s⟩ ⟨.negation, depth, Text.skipBlanks place⟩
  | negatedOperand {depth : Nat} {s behind : List Char} :
      keyword? ['n', 'o', 't'] s = some behind →
      Makes keys ⟨.negation, depth, s⟩ ⟨.operand, depth, Text.skipBlanks behind⟩
  /-- No operand stands behind a `NOT`, so one without `NOT` is tried. -/
  | plainOperand {depth : Nat} {s : List Char} :
      (∀ behind, keyword? ['n', 'o', 't'] s = some behind →
        operandAt? keys depth (Text.skipBlanks behind) = none) →
      Makes keys ⟨.negation, depth, s⟩ ⟨.operand, depth, s⟩
  | group {depth : Nat} {s : List Char} : Makes keys ⟨.operand, depth, s⟩ ⟨.group, depth, s⟩
  | literal {depth : Nat} {s : List Char} :
      groupAt? keys depth s = none → Makes keys ⟨.operand, depth, s⟩ ⟨.literal, depth, s⟩
  | inside {depth : Nat} {s : List Char} :
      depth < maxNesting →
      Makes keys ⟨.group, depth, '(' :: s⟩ ⟨.disjunction, depth + 1, Text.skipBlanks s⟩

/-! ## What a call depends on -/

/-- The results are those of the calls that the call makes. -/
def Call.Supplied (keys : KeySet) (outer : Call) (results : Call → Option (Filter × List Char)) :
    Prop :=
  ∀ inner, outer.Makes keys inner → results inner = inner.result keys

section
variable {keys : KeySet} {results : Call → Option (Filter × List Char)} {depth : Nat}
  {s : List Char}

theorem Call.Supplied.disjunction
    (supplied : Call.Supplied keys ⟨.disjunction, depth, s⟩ results) :
    Call.answer keys results ⟨.disjunction, depth, s⟩ =
      disjunction? (operandAt? keys depth) s := by
  simp only [Call.answer, disjunction?_eq]
  refine chained_congr (supplied ⟨.conjunction, depth, s⟩ .firstConjunction) fun place stands => ?_
  exact behind?_congr fun behind keyword =>
    supplied ⟨.conjunction, depth, _⟩ (.furtherConjunction stands keyword)

theorem Call.Supplied.conjunction
    (supplied : Call.Supplied keys ⟨.conjunction, depth, s⟩ results) :
    Call.answer keys results ⟨.conjunction, depth, s⟩ =
      conjunction? (operandAt? keys depth) s := by
  simp only [Call.answer, conjunction?_eq]
  refine chained_congr (supplied ⟨.negation, depth, s⟩ .firstNegation) fun place stands => ?_
  have explicit : behind? ['a', 'n', 'd'] (fun t => results ⟨.negation, depth, t⟩) place =
      behind? ['a', 'n', 'd'] (negation? (operandAt? keys depth)) place :=
    behind?_congr fun behind keyword =>
      supplied ⟨.negation, depth, _⟩ (.furtherNegation stands keyword)
  simp only [conjunct?, explicit]
  cases found : behind? ['a', 'n', 'd'] (negation? (operandAt? keys depth)) place with
  | some _ => rfl
  | none => exact supplied _ (.juxtaposedNegation stands found)

theorem Call.Supplied.negation
    (supplied : Call.Supplied keys ⟨.negation, depth, s⟩ results) :
    Call.answer keys results ⟨.negation, depth, s⟩ = negation? (operandAt? keys depth) s := by
  cases keyword : keyword? ['n', 'o', 't'] s with
  | none =>
    have plain := supplied _ (.plainOperand fun behind there => by simp [keyword] at there)
    simp [Call.answer, negation?, keyword, plain, Call.result, Part.reader]
  | some behind =>
    have negated := supplied _ (.negatedOperand keyword)
    cases found : operandAt? keys depth (Text.skipBlanks behind) with
    | some _ => simp [Call.answer, negation?, keyword, negated, Call.result, Part.reader, found]
    | none =>
      have plain := supplied _ (.plainOperand fun other there => by
        rw [keyword] at there
        cases there
        exact found)
      simp [Call.answer, negation?, keyword, negated, plain, Call.result, Part.reader, found]

theorem Call.Supplied.operand
    (supplied : Call.Supplied keys ⟨.operand, depth, s⟩ results) :
    Call.answer keys results ⟨.operand, depth, s⟩ = operandAt? keys depth s := by
  have group : results ⟨.group, depth, s⟩ = groupAt? keys depth s := supplied _ .group
  simp only [Call.answer, operandAt?_eq, group, Option.orElse_eq_orElse, Option.orElse_eq_or]
  cases found : groupAt? keys depth s with
  | some _ => rfl
  | none => exact supplied _ (.literal found)

theorem Call.Supplied.group
    (supplied : Call.Supplied keys ⟨.group, depth, s⟩ results) :
    Call.answer keys results ⟨.group, depth, s⟩ = groupAt? keys depth s := by
  unfold groupAt?
  split
  · next inside =>
    simp only [Call.answer]
    split
    · next room =>
      rw [supplied _ (.inside room)]
      rfl
    · rfl
  · next plain => simp [Call.answer]

/-- What a call reads depends on the calls that it makes and on no others. -/
theorem Call.answer_eq {call : Call} (supplied : call.Supplied keys results) :
    call.answer keys results = call.result keys := by
  obtain ⟨part, depth, s⟩ := call
  cases part with
  | disjunction => exact supplied.disjunction
  | conjunction => exact supplied.conjunction
  | negation => exact supplied.negation
  | operand => exact supplied.operand
  | group => exact supplied.group
  | literal => rfl

end

/-! ## Calls inside calls -/

/-- How many calls there can be around each other from the part on before text is taken. -/
def Part.rank : Part → Nat
  | .disjunction => 4
  | .conjunction => 3
  | .negation => 2
  | .operand => 1
  | .group | .literal => 0

/-- A bound for the calls inside a call. -/
def Call.rank (call : Call) : Nat := 5 * call.text.length + call.part.rank

/-- The groups that a call for the part opens around the calls that it makes. -/
def Part.opens : Part → Nat
  | .group => 1
  | _ => 0

/-- The last call is made inside the outermost one, by way of `calls` calls, and stands inside
`groups` more groups. -/
inductive Nested (keys : KeySet) (outermost : Call) : Nat → Nat → Call → Prop
  | self : Nested keys outermost 0 0 outermost
  | call {calls groups : Nat} {outer inner : Call} :
      Nested keys outermost calls groups outer → outer.Makes keys inner →
      Nested keys outermost (calls + 1) (groups + outer.part.opens) inner

section
variable {keys : KeySet} {outer inner : Call}

theorem length_behind_keyword_le {word s behind : List Char}
    (keyword : keyword? word s = some behind) : (Text.skipBlanks behind).length ≤ s.length := by
  have := (keyword?_eq_some_iff.mp keyword).length_le
  have := length_skipBlanks_le behind
  omega

theorem Call.Makes.rank_lt (makes : outer.Makes keys inner) : inner.rank < outer.rank := by
  -- A call for less text ranks lower whatever its part is, since no part ranks above four.
  cases makes with
  | firstConjunction | firstNegation | plainOperand _ | group | literal _ =>
    simp [Call.rank, Part.rank]
  | @furtherConjunction depth s place behind stands keyword =>
    have := stands.length_lt (Part.shrinks keys depth .conjunction)
      (sound_operandAt? keys depth).disjunct_shrinks
    have := length_skipBlanks_le place
    have := length_behind_keyword_le keyword
    simp only [Call.rank, Part.rank]
    omega
  | @furtherNegation depth s place behind stands keyword =>
    have := stands.length_lt (Part.shrinks keys depth .negation)
      (sound_operandAt? keys depth).conjunct_shrinks
    have := length_skipBlanks_le place
    have := length_behind_keyword_le keyword
    simp only [Call.rank, Part.rank]
    omega
  | @juxtaposedNegation depth s place stands _ =>
    have := stands.length_lt (Part.shrinks keys depth .negation)
      (sound_operandAt? keys depth).conjunct_shrinks
    have := length_skipBlanks_le place
    simp only [Call.rank, Part.rank]
    omega
  | @negatedOperand depth s behind keyword =>
    have := length_behind_keyword_le keyword
    simp only [Call.rank, Part.rank]
    omega
  | @inside depth s _ =>
    have := length_skipBlanks_le s
    simp only [Call.rank, Part.rank, List.length_cons]
    omega

/-- What the calls make of each other's results determines them: each reads what the reader of its
part finds. -/
theorem Call.answers_iff {results : Call → Option (Filter × List Char)} :
    (∀ call, results call = call.answer keys results) ↔
      ∀ call, results call = call.result keys := by
  constructor
  · intro answers call
    -- The induction is on the rank, which is lower for each call that the call makes.
    induction rank : call.rank using Nat.strongRecOn generalizing call with
    | ind rank ih =>
      subst rank
      rw [answers call]
      exact Call.answer_eq fun inner makes => ih inner.rank makes.rank_lt inner rfl
  · intro results call
    rw [results call]
    exact (Call.answer_eq fun inner _ => results inner).symm

theorem Call.Makes.depth_eq (makes : outer.Makes keys inner) :
    inner.depth = outer.depth + outer.part.opens := by
  cases makes <;> rfl

theorem Call.Makes.within (makes : outer.Makes keys inner) (within : outer.depth ≤ maxNesting) :
    inner.depth ≤ maxNesting := by
  cases makes with
  | inside room => exact room
  | firstConjunction | furtherConjunction _ _ | firstNegation | furtherNegation _ _
  | juxtaposedNegation _ _ | negatedOperand _ | plainOperand _ | group | literal _ => exact within

theorem Nested.bounded {outermost : Call} {calls groups : Nat}
    (nested : Nested keys outermost calls groups inner) (within : outermost.depth ≤ maxNesting) :
    calls + inner.rank ≤ outermost.rank ∧ outermost.depth + groups = inner.depth ∧
      inner.depth ≤ maxNesting := by
  induction nested with
  | self => exact ⟨Nat.le_of_eq (Nat.zero_add _), rfl, within⟩
  | call _ makes ih =>
    obtain ⟨ranks, depth, limited⟩ := ih
    have := makes.rank_lt
    exact ⟨by omega, by rw [makes.depth_eq, ← depth, Nat.add_assoc], makes.within limited⟩

end

/-- The descent makes progress. A part that is read takes at least three characters for each literal
and each negation, and leaves an end of the text; so each loop over operands ends, within as many
rounds as the text has characters. What a call reads depends on no calls but those that it makes.
Inside a call around which no group is open, calls stand around each other only so deep as the text
is long, and at most as many groups as the limit allows. A filter is no larger than its query
allows, and what is left of a query is no longer than the query. -/
theorem descent_progresses (keys : KeySet) :
    (∀ (part : Part) depth s filter rest, part.reader keys depth s = some (filter, rest) →
      ∃ taken, taken ≠ [] ∧ s = taken ++ rest ∧
        3 * (filter.literalCount + filter.negationCount) ≤ taken.length) ∧
    (∀ depth, Loops .and (Part.negation.reader keys depth) (conjunct? (operandAt? keys depth))
      (Part.conjunction.reader keys depth)) ∧
    (∀ depth, Loops .or (Part.conjunction.reader keys depth) (disjunct? (operandAt? keys depth))
      (Part.disjunction.reader keys depth)) ∧
    (∀ (call : Call) results, call.Supplied keys results →
      call.answer keys results = call.result keys) ∧
    (∀ outermost calls groups inner, outermost.depth = 0 →
      Nested keys outermost calls groups inner →
        groups ≤ maxNesting ∧ calls ≤ 5 * outermost.text.length + 4) ∧
    (∀ query filter, read? keys query = some filter →
      3 * (filter.literalCount + filter.negationCount) ≤ query.length ∧
        3 * (filter.nodeCount + 1) ≤ 2 * query.length) ∧
    ∀ (query : String) filter rest,
      Part.disjunction.reader keys 0 (Text.skipBlanks query.toList) = some (filter, rest) →
        Text.byteLength (Text.skipBlanks rest) ≤ Text.byteLength query.toList := by
  refine ⟨fun part depth s filter rest read => ?_, fun depth => ?_, fun depth => ?_,
    fun call results => Call.answer_eq, fun outermost calls groups inner start nested => ?_,
    fun query filter read => ?_, fun query filter rest read => ?_⟩
  · obtain ⟨taken, split, long⟩ := Part.takes read
    have := filter.literalCount_pos
    exact ⟨taken, List.ne_nil_of_length_pos (by omega), split, long⟩
  · exact loops_of_shrinks (Part.shrinks keys depth .negation)
      (sound_operandAt? keys depth).conjunct_shrinks
  · exact loops_of_shrinks (Part.shrinks keys depth .conjunction)
      (sound_operandAt? keys depth).disjunct_shrinks
  · obtain ⟨ranks, depth, limited⟩ := nested.bounded (by omega)
    have highest : outermost.part.rank ≤ 4 := by cases outermost.part <;> decide
    simp only [Call.rank] at ranks
    exact ⟨by omega, by omega⟩
  · have derived := (read?_iff_derivesQuery keys query).1 filter |>.mp read
    obtain ⟨s, rest, blanks, derived, ends⟩ := derived
    have long := (blanks.takes.trans derived.takes).length_le
    rw [String.length_toList] at long
    have nodes := filter.nodeCount_succ
    exact ⟨by omega, by omega⟩
  · have taken := (blanks_skipBlanks query.toList).takes.trans (Part.takes read)
    exact (taken.trans (blanks_skipBlanks rest).takes).byteLength_le

end CatalogQuery.Query
