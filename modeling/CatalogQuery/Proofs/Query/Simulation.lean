import CatalogQuery.Proofs.Query.Exactness

/-! # Queries that are read alike

Two texts are read alike if one follows the other word by word: behind a keyword, a bracket or a
literal of the one stands the same in the other, and the rests are related again. `Simulation` says
this of a relation between texts, and then it goes through whole derivations
(`Simulation.derives`). The values of the literals may differ, in a way that the simulation says.
-/

namespace CatalogQuery

/-- The filters have the same shape and the same keys, and related values in the same places. -/
inductive Filter.Alike (values : String → String → Prop) : Filter → Filter → Prop
  | literal {key value other : String} : values value other →
      Alike values (.literal key value) (.literal key other)
  | and {left right first second : Filter} : Alike values left first → Alike values right second →
      Alike values (.and left right) (.and first second)
  | or {left right first second : Filter} : Alike values left first → Alike values right second →
      Alike values (.or left right) (.or first second)
  | not {child other : Filter} : Alike values child other → Alike values (.not child) (.not other)

theorem Filter.Alike.refl {values : String → String → Prop} (same : ∀ value, values value value)
    (filter : Filter) : filter.Alike values filter := by
  induction filter with
  | literal key value => exact .literal (same value)
  | and _ _ left right => exact .and left right
  | or _ _ left right => exact .or left right
  | not _ child => exact .not child

theorem Filter.Alike.eq {filter other : Filter} (alike : Filter.Alike Eq filter other) :
    filter = other := by
  induction alike with
  | literal same => rw [same]
  | and _ _ left right | or _ _ left right => rw [left, right]
  | not _ child => rw [child]

namespace Query

/-! ## Words that begin a text -/

/-- The words that are operators in front of a blank or a bracket. -/
def operators : List (List Char) := [['o', 'r'], ['a', 'n', 'd'], ['n', 'o', 't']]

theorem operator_or : ['o', 'r'] ∈ operators := by decide

theorem operator_and : ['a', 'n', 'd'] ∈ operators := by decide

theorem operator_not : ['n', 'o', 't'] ∈ operators := by decide

theorem lettered_of_mem {word : List Char} (operator : word ∈ operators) : Lettered word := by
  simp only [operators, List.mem_cons, List.not_mem_nil, or_false] at operator
  rcases operator with rfl | rfl | rfl
  · exact lettered_or
  · exact lettered_and
  · exact lettered_not

def isBracket (c : Char) : Bool := c == '(' || c == ')'

theorem eq_of_isBracket {α : Type} {p : Char → α} {a : α} {c : Char} (bracket : isBracket c = true)
    (opening : p '(' = a) (closing : p ')' = a) : p c = a := by
  simp only [isBracket, Bool.or_eq_true, beq_iff_eq] at bracket
  rcases bracket with rfl | rfl
  · exact opening
  · exact closing

section
variable {c : Char}

theorem isBlank_of_isBracket (bracket : isBracket c = true) : Text.isBlank c = false :=
  eq_of_isBracket bracket (by decide) (by decide)

theorem isKeyChar_of_isBracket (bracket : isBracket c = true) : isKeyChar c = false :=
  eq_of_isBracket bracket (by decide) (by decide)

theorem isBareChar_of_isBracket (bracket : isBracket c = true) : isBareChar c = false :=
  eq_of_isBracket bracket (by decide) (by decide)

theorem isAlpha_of_isBracket (bracket : isBracket c = true) : c.isAlpha = false :=
  eq_of_isBracket bracket (by decide) (by decide)

end

/-- The text begins with a literal. Its value begins at the place and ends in front of the rest. -/
def LiteralAt (keys : KeySet) (s : List Char) (key : String) (place : List Char) (value : String)
    (rest : List Char) : Prop :=
  ∃ colon behind, Key keys s key colon ∧ Blanks colon (':' :: behind) ∧ Blanks behind place ∧
    Value place value rest

theorem LiteralAt.derives {keys : KeySet} {limit depth : Nat} {s place rest : List Char}
    {key value : String} (literal : LiteralAt keys s key place value rest) :
    Derives keys limit .operand depth s (.literal key value) rest := by
  obtain ⟨colon, behind, isKey, blanks, more, isValue⟩ := literal
  exact .literal isKey blanks more isValue

@[simp] theorem skipBlanks_skipBlanks (s : List Char) :
    Text.skipBlanks (Text.skipBlanks s) = Text.skipBlanks s :=
  skipBlanks_of_stops (stops_dropWhile _ s)

/-! ## Simulations -/

/-- The second text follows the first one, word by word. What it does behind a keyword only counts
where an operand follows. -/
structure Simulation (keys : KeySet) (related : List Char → List Char → Prop)
    (values : String → String → Prop) : Prop where
  blanks : ∀ {s t}, related s t → related (Text.skipBlanks s) (Text.skipBlanks t)
  ending : ∀ {t}, related [] t → Text.skipBlanks t = []
  bracket : ∀ {c s t}, isBracket c = true → related (c :: s) t → Stops Text.isBlank t →
    ∃ behind, t = c :: behind ∧ related s behind
  keyword : ∀ {word s t rest}, word ∈ operators → related s t → Stops Text.isBlank t →
    Keyword word s rest → ¬ Stops opensOperand (Text.skipBlanks rest) →
    ∃ behind, Keyword word t behind ∧ related rest behind
  literal : ∀ {s t key place value rest}, related s t → Stops Text.isBlank t →
    LiteralAt keys s key place value rest →
    ∃ other own behind, LiteralAt keys t key other own behind ∧ values value own ∧
      related rest behind

namespace Simulation

variable {keys : KeySet} {related : List Char → List Char → Prop} {values : String → String → Prop}

section
variable (simulation : Simulation keys related values)
include simulation

theorem skip {s t next : List Char} (same : related s t) (blanks : Blanks s next)
    (stops : Stops Text.isBlank next) : related next (Text.skipBlanks t) := by
  have skipped := simulation.blanks same
  rwa [blanks.skipBlanks_eq stops] at skipped

theorem operator {word s t start rest next : List Char} (operator : word ∈ operators)
    (same : related s t) (blanks : Blanks s start) (keyword : Keyword word start rest)
    (more : Blanks rest next) (opens : ¬ Stops opensOperand next) :
    ∃ behind, Keyword word (Text.skipBlanks t) behind ∧ related next (Text.skipBlanks behind) := by
  have reached := simulation.skip same blanks (keyword.stops_isBlank (lettered_of_mem operator))
  have skipped := more.skipBlanks_eq (stops_isBlank_of_opens opens)
  obtain ⟨behind, found, follows⟩ := simulation.keyword operator reached (stops_dropWhile _ t)
    keyword (by rwa [skipped])
  exact ⟨behind, found, simulation.skip follows more (stops_isBlank_of_opens opens)⟩

/-- What is derived from one text is derived from the other. -/
theorem derives {limit depth : Nat} {level : Level} {s t rest : List Char} {filter : Filter}
    (derived : Derives keys limit level depth s filter rest) (same : related s t)
    (stops : Stops Text.isBlank t) :
    ∃ other behind, Derives keys limit level depth t other behind ∧ filter.Alike values other ∧
      related rest behind := by
  -- The second text has blanks of its own, but at each word both texts are past theirs.
  induction derived generalizing t with
  | or _ blanks keyword more derived left right =>
    obtain ⟨first, middle, firstDerived, firstAlike, follows⟩ := left same stops
    obtain ⟨behind, found, next⟩ := simulation.operator operator_or follows
      blanks keyword more derived.not_stops
    obtain ⟨second, rest, secondDerived, secondAlike, ends⟩ := right next (stops_dropWhile _ behind)
    exact ⟨_, rest,
      .or firstDerived (blanks_skipBlanks _) found (blanks_skipBlanks _) secondDerived,
      .or firstAlike secondAlike, ends⟩
  | ofConjunction _ child =>
    obtain ⟨other, behind, derived, alike, follows⟩ := child same stops
    exact ⟨other, behind, .ofConjunction derived, alike, follows⟩
  | and _ blanks keyword more derived left right =>
    obtain ⟨first, middle, firstDerived, firstAlike, follows⟩ := left same stops
    obtain ⟨behind, found, next⟩ := simulation.operator operator_and follows
      blanks keyword more derived.not_stops
    obtain ⟨second, rest, secondDerived, secondAlike, ends⟩ := right next (stops_dropWhile _ behind)
    exact ⟨_, rest,
      .and firstDerived (blanks_skipBlanks _) found (blanks_skipBlanks _) secondDerived,
      .and firstAlike secondAlike, ends⟩
  | juxtaposed _ blanks derived left right =>
    obtain ⟨first, middle, firstDerived, firstAlike, follows⟩ := left same stops
    have next := simulation.skip follows blanks derived.stops
    obtain ⟨second, rest, secondDerived, secondAlike, ends⟩ := right next (stops_dropWhile _ middle)
    exact ⟨_, rest, .juxtaposed firstDerived (blanks_skipBlanks _) secondDerived,
      .and firstAlike secondAlike, ends⟩
  | ofNegation _ child =>
    obtain ⟨other, behind, derived, alike, follows⟩ := child same stops
    exact ⟨other, behind, .ofNegation derived, alike, follows⟩
  | not keyword blanks derived child =>
    obtain ⟨behind, found, next⟩ := simulation.operator operator_not same
      (.refl _) keyword blanks derived.not_stops
    rw [skipBlanks_of_stops stops] at found
    obtain ⟨other, rest, derived, alike, follows⟩ := child next (stops_dropWhile _ behind)
    exact ⟨_, rest, .not found (blanks_skipBlanks _) derived, .not alike, follows⟩
  | ofOperand _ child =>
    obtain ⟨other, behind, derived, alike, follows⟩ := child same stops
    exact ⟨other, behind, .ofOperand derived, alike, follows⟩
  | group room blanks derived closes child =>
    obtain ⟨inside, rfl, within⟩ := simulation.bracket rfl same stops
    have next := simulation.skip within blanks derived.stops
    obtain ⟨other, close, derived, alike, follows⟩ := child next (stops_dropWhile _ inside)
    have closed := simulation.skip follows closes (stops_cons.mpr (by decide))
    obtain ⟨rest, ends, after⟩ := simulation.bracket rfl closed (stops_dropWhile _ close)
    have closing := blanks_skipBlanks close
    rw [ends] at closing
    exact ⟨other, rest, .group room (blanks_skipBlanks _) derived closing, alike, after⟩
  | literal key blanks more value =>
    obtain ⟨other, own, behind, literal, alike, follows⟩ :=
      simulation.literal same stops ⟨_, _, key, blanks, more, value⟩
    exact ⟨_, behind, literal.derives, .literal alike, follows⟩

/-- A text that follows a query is a query, for a filter that is alike. -/
theorem read? {query other : String} {filter : Filter}
    (reads : Query.read? keys query = some filter) (same : related query.toList other.toList) :
    ∃ found, Query.read? keys other = some found ∧ filter.Alike values found := by
  obtain ⟨s, rest, blanks, derived, ends⟩ := readWithin?_iff_derivesQuery.mp reads
  have begins := simulation.skip same blanks derived.stops
  obtain ⟨found, behind, follows, alike, after⟩ :=
    simulation.derives derived begins (stops_dropWhile _ _)
  have finished := simulation.ending (simulation.skip after ends stops_nil)
  rw [skipBlanks_skipBlanks] at finished
  have closing := blanks_skipBlanks behind
  rw [finished] at closing
  exact ⟨found, readWithin?_iff_derivesQuery.mpr
    ⟨_, behind, blanks_skipBlanks _, follows, closing⟩, alike⟩

end

end Simulation

end Query

end CatalogQuery
