import CatalogQuery.Proofs.Query.Places

/-! # Two spellings of one literal

A literal of a query may be written in another way that keeps its key and its value, with other
blanks beside its colon. The query goes on as before: the words in front of the literal end where
they did, since the literal still begins with the same character (`simulation_edited`).
-/

namespace CatalogQuery.Query

/-! ## Passing a word -/

section
variable {keys : KeySet} {c : Char} {s rest site : List Char} {literals : List (String × String)}

theorem Passes.of_blank (passes : Passes keys (c :: s) literals site)
    (blank : Text.isBlank c = true) (elsewhere : c :: s ≠ site) : Passes keys s literals site := by
  cases passes with
  | here => contradiction
  | blank _ passes => exact passes
  | bracket _ passes => exact passes
  | operator operator keyword _ =>
    rw [isBlank_of_isKeyChar (keyword.isKeyChar_head operator)] at blank
    contradiction
  | literal literal _ =>
    rw [isBlank_of_isKeyChar literal.isKeyChar_head] at blank
    contradiction

theorem Passes.of_bracket (passes : Passes keys (c :: s) literals site)
    (bracket : isBracket c = true) (elsewhere : c :: s ≠ site) : Passes keys s literals site := by
  have unkeyed := isKeyChar_of_isBracket bracket
  cases passes with
  | here => contradiction
  | blank _ passes => exact passes
  | bracket _ passes => exact passes
  | operator operator keyword _ =>
    rw [keyword.isKeyChar_head operator] at unkeyed
    contradiction
  | literal literal _ =>
    rw [literal.isKeyChar_head] at unkeyed
    contradiction

theorem Passes.skip (passes : Passes keys s literals site) (stops : Stops Text.isBlank site) :
    Passes keys (Text.skipBlanks s) literals site := by
  induction s with
  | nil => exact passes
  | cons c s ih =>
    cases blank : Text.isBlank c with
    | false => rwa [skipBlanks_of_stops (stops_cons.mpr blank)]
    | true =>
      have elsewhere : c :: s ≠ site := by
        rintro rfl
        rw [stops_cons.mp stops] at blank
        contradiction
      have skipped : Text.skipBlanks (c :: s) = Text.skipBlanks s :=
        List.dropWhile_cons_of_pos blank
      rw [skipped]
      exact ih (passes.of_blank blank elsewhere)

theorem Passes.of_operator {word : List Char} (passes : Passes keys s literals site)
    (operator : word ∈ operators) (keyword : Keyword word s rest)
    (opens : ¬ Stops opensOperand (Text.skipBlanks rest)) (elsewhere : s ≠ site) :
    Passes keys rest literals site := by
  cases passes with
  | here => contradiction
  | blank blank _ =>
    rw [isBlank_of_isKeyChar (keyword.isKeyChar_head operator)] at blank
    contradiction
  | bracket bracket _ =>
    have key := keyword.isKeyChar_head operator
    rw [isKeyChar_of_isBracket bracket] at key
    contradiction
  | operator other found passes =>
    obtain ⟨-, rfl⟩ := keyword.unique found (lettered_of_mem operator) (lettered_of_mem other)
    exact passes
  | literal literal _ => exact absurd (literal.stops_of_keyword keyword operator) opens

theorem not_passes_colon {tail : List Char} (elsewhere : ':' :: tail ≠ site) :
    ¬ Passes keys (':' :: tail) literals site := by
  intro passes
  cases passes with
  | here => contradiction
  | blank blank _ => exact absurd blank (by decide)
  | bracket bracket _ => exact absurd bracket (by decide)
  | operator operator keyword _ => exact absurd (keyword.isKeyChar_head operator) (by decide)
  | literal literal _ => exact absurd literal.isKeyChar_head (by decide)

theorem Passes.of_literal {key value : String} {start : List Char}
    (passes : Passes keys s literals site) (literal : LiteralAt keys s key start value rest)
    (begins : ∃ c behind, site = c :: behind ∧ isKeyChar c = true) (elsewhere : s ≠ site) :
    ∃ more, Passes keys rest more site := by
  cases passes with
  | here => contradiction
  | blank blank _ =>
    rw [isBlank_of_isKeyChar literal.isKeyChar_head] at blank
    contradiction
  | bracket bracket _ =>
    have key := literal.isKeyChar_head
    rw [isKeyChar_of_isBracket bracket] at key
    contradiction
  | operator operator keyword passes =>
    have derived : Derives keys 0 .operand 0 s (.literal key value) rest := literal.derives
    obtain ⟨tail, colon⟩ := derived.colon_of_keyword keyword (lettered_of_mem operator)
    obtain ⟨d, behind, rfl, opens⟩ := begins
    have reached := passes.skip (stops_cons.mpr (isBlank_of_isKeyChar opens))
    rw [colon] at reached
    refine absurd reached (not_passes_colon ?_)
    rintro same
    obtain ⟨rfl, -⟩ := List.cons.inj same
    exact absurd opens (by decide)
  | literal other passes =>
    obtain ⟨-, -, rfl⟩ := literal.unique other
    exact ⟨_, passes⟩

theorem skipBlanks_append (front : List Char) (stops : Stops Text.isBlank s) :
    Text.skipBlanks (front ++ s) = Text.skipBlanks front ++ s := by
  induction front with
  | nil => exact skipBlanks_of_stops stops
  | cons c front ih =>
    simp only [Text.skipBlanks, List.cons_append, List.dropWhile_cons] at ih ⊢
    split
    · exact ih
    · rfl

end

/-! ## Editing a literal -/

/-- The texts are the same, or they are the same up to a literal that the second one has in another
spelling. -/
def Edited (keys : KeySet) (site other s t : List Char) : Prop :=
  s = t ∨ ∃ front literals, s = front ++ site ∧ t = front ++ other ∧ Passes keys s literals site

section
variable {keys : KeySet} {site other place own rest s t : List Char} {key value : String}

theorem append_head?_congr (same : other.head? = site.head?) (front : List Char) :
    (front ++ other).head? = (front ++ site).head? := by
  cases front with
  | nil => exact same
  | cons c front => rfl

theorem cons_append_ne {c : Char} {front : List Char} : c :: (front ++ site) ≠ site := by
  intro whole
  have lengths := congrArg List.length whole
  rw [List.length_cons, List.length_append] at lengths
  omega

theorem eq_append_of_split {front taken middle : List Char}
    (whole : front ++ site = taken ++ (middle ++ site)) : front = taken ++ middle := by
  rw [← List.append_assoc] at whole
  exact List.append_cancel_right whole

theorem LiteralAt.stops (literal : LiteralAt keys site key place value rest) :
    Stops Text.isBlank site := by
  obtain ⟨c, tail, rfl, isKey⟩ := literal.begins
  exact stops_cons.mpr (isBlank_of_isKeyChar isKey)

theorem Edited.skip (literal : LiteralAt keys site key place value rest)
    (same : other.head? = site.head?) (edited : Edited keys site other s t) :
    Edited keys site other (Text.skipBlanks s) (Text.skipBlanks t) := by
  have stops := literal.stops
  rcases edited with rfl | ⟨front, literals, rfl, rfl, passes⟩
  · exact .inl rfl
  · have reached := passes.skip stops
    rw [skipBlanks_append front stops] at reached
    rw [skipBlanks_append front stops, skipBlanks_append front (stops.congr same)]
    exact .inr ⟨_, literals, rfl, rfl, reached⟩

theorem Edited.bracket {c : Char} (literal : LiteralAt keys site key place value rest)
    (bracket : isBracket c = true) (edited : Edited keys site other (c :: s) t) :
    ∃ behind, t = c :: behind ∧ Edited keys site other s behind := by
  rcases edited with rfl | ⟨front, literals, whole, rfl, passes⟩
  · exact ⟨s, rfl, .inl rfl⟩
  · cases front with
    | nil =>
      obtain ⟨d, tail, rfl, isKey⟩ := literal.begins
      obtain ⟨rfl, -⟩ := List.cons.inj whole
      rw [isKeyChar_of_isBracket bracket] at isKey
      contradiction
    | cons d front =>
      obtain ⟨rfl, rfl⟩ := List.cons.inj whole
      exact ⟨_, rfl, .inr ⟨front, literals, rfl, rfl, passes.of_bracket bracket cons_append_ne⟩⟩

theorem Edited.keyword {word behind : List Char}
    (literal : LiteralAt keys site key place value rest) (same : other.head? = site.head?)
    (operator : word ∈ operators) (keyword : Keyword word s behind)
    (opens : ¬ Stops opensOperand (Text.skipBlanks behind))
    (edited : Edited keys site other s t) :
    ∃ beyond, Keyword word t beyond ∧ Edited keys site other behind beyond := by
  rcases edited with rfl | ⟨front, literals, rfl, rfl, passes⟩
  · exact ⟨behind, keyword, .inl rfl⟩
  · cases front with
    | nil => exact absurd (literal.stops_of_keyword keyword operator) opens
    | cons c front =>
      have passed := passes.of_operator operator keyword opens cons_append_ne
      obtain ⟨middle, rfl⟩ := passed.split
      obtain ⟨taken, whole, replace⟩ := keyword.replace
      rw [eq_append_of_split whole, List.append_assoc]
      exact ⟨middle ++ other, replace _ (append_head?_congr same middle),
        .inr ⟨middle, literals, rfl, rfl, passed⟩⟩

/-- At the place of the change the second text has the other spelling, elsewhere the same one. -/
theorem Edited.literal {name text : String} {start behind : List Char}
    (literal : LiteralAt keys site key place value rest)
    (spelling : LiteralAt keys other key own value rest) (same : other.head? = site.head?)
    (found : LiteralAt keys s name start text behind) (edited : Edited keys site other s t) :
    ∃ begins beyond, LiteralAt keys t name begins text beyond ∧
      Edited keys site other behind beyond := by
  rcases edited with rfl | ⟨front, literals, rfl, rfl, passes⟩
  · exact ⟨start, behind, found, .inl rfl⟩
  · cases front with
    | nil =>
      obtain ⟨rfl, rfl, rfl⟩ := literal.unique found
      exact ⟨own, rest, spelling, .inl rfl⟩
    | cons c front =>
      obtain ⟨more, passed⟩ := passes.of_literal found literal.begins cons_append_ne
      obtain ⟨middle, rfl⟩ := passed.split
      obtain ⟨taken, whole, replace⟩ := found.replace
      obtain ⟨opening, replaced⟩ := replace (middle ++ other) (append_head?_congr same middle)
      rw [eq_append_of_split whole, List.append_assoc]
      exact ⟨opening, _, replaced, .inr ⟨middle, more, rfl, rfl, passed⟩⟩

theorem simulation_edited (literal : LiteralAt keys site key place value rest)
    (spelling : LiteralAt keys other key own value rest) (same : other.head? = site.head?) :
    Simulation keys (Edited keys site other) Eq where
  blanks edited := edited.skip literal same
  ending edited := by
    rcases edited with rfl | ⟨front, literals, nothing, -, -⟩
    · rfl
    · obtain ⟨c, tail, rfl, -⟩ := literal.begins
      exact absurd nothing.symm (by simp)
  bracket bracket edited _ := edited.bracket literal bracket
  keyword operator edited _ keyword opens := edited.keyword literal same operator keyword opens
  literal edited _ found := by
    obtain ⟨begins, beyond, isLiteral, follows⟩ := edited.literal literal spelling same found
    exact ⟨begins, _, beyond, isLiteral, rfl, follows⟩

end

end CatalogQuery.Query
