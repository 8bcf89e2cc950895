import CatalogQuery.Proofs.Query.Literals
import CatalogQuery.Proofs.Query.Simulation

/-! # Places in a query

Where the literals of a query stand can be said without deriving the query: behind nothing but whole
blanks, brackets, operators and literals (`Passes`). In a query these are the literals of its filter
(`Derives.passes`), from left to right.
-/

namespace CatalogQuery.Query

/-- The text up to the place consists of blanks, brackets, operators and the literals. -/
inductive Passes (keys : KeySet) : List Char → List (String × String) → List Char → Prop
  | here (s : List Char) : Passes keys s [] s
  | blank {c : Char} {s place : List Char} {literals : List (String × String)} :
      Text.isBlank c = true → Passes keys s literals place → Passes keys (c :: s) literals place
  | bracket {c : Char} {s place : List Char} {literals : List (String × String)} :
      isBracket c = true → Passes keys s literals place → Passes keys (c :: s) literals place
  | operator {word s rest place : List Char} {literals : List (String × String)} :
      word ∈ operators → Keyword word s rest → Passes keys rest literals place →
      Passes keys s literals place
  | literal {s start rest place : List Char} {key value : String}
      {literals : List (String × String)} :
      LiteralAt keys s key start value rest → Passes keys rest literals place →
      Passes keys s ((key, value) :: literals) place

section
variable {keys : KeySet} {s t rest place : List Char} {literals : List (String × String)}

/-! ## Queries are passed -/

theorem Passes.trans {more : List (String × String)} (first : Passes keys s literals t)
    (second : Passes keys t more place) : Passes keys s (literals ++ more) place := by
  induction first with
  | here s => exact second
  | blank blank _ ih => exact .blank blank (ih second)
  | bracket bracket _ ih => exact .bracket bracket (ih second)
  | operator operator keyword _ ih => exact .operator operator keyword (ih second)
  | literal literal _ ih => exact .literal literal (ih second)

theorem Blanks.passes (blanks : Blanks s t) (passes : Passes keys t literals place) :
    Passes keys s literals place := by
  obtain ⟨taken, inside, rfl⟩ := blanks
  induction taken with
  | nil => exact passes
  | cons c taken ih =>
    obtain ⟨blank, more⟩ := List.forall_mem_cons.mp inside
    exact .blank blank (ih more)

/-- A derived text is passed by the literals of its filter. -/
theorem Derives.passes {limit depth : Nat} {level : Level} {filter : Filter}
    (derived : Derives keys limit level depth s filter rest) :
    Passes keys s filter.literals rest := by
  induction derived with
  | or _ blanks keyword more _ left right =>
    exact left.trans (blanks.passes (.operator operator_or keyword (more.passes right)))
  | and _ blanks keyword more _ left right =>
    exact left.trans (blanks.passes (.operator operator_and keyword (more.passes right)))
  | juxtaposed _ blanks _ left right => exact left.trans (blanks.passes right)
  | ofConjunction _ same | ofNegation _ same | ofOperand _ same => exact same
  | not keyword blanks _ child => exact .operator operator_not keyword (blanks.passes child)
  | group _ blanks _ closes inside =>
    have passed := inside.trans (closes.passes (.bracket rfl (.here _)))
    rw [List.append_nil] at passed
    exact .bracket rfl (blanks.passes passed)
  | literal key blanks more value => exact .literal ⟨_, _, key, blanks, more, value⟩ (.here _)

/-! ## What stands at a place -/

theorem LiteralAt.unique {key other value own : String} {start begins behind : List Char}
    (first : LiteralAt keys s key start value rest)
    (second : LiteralAt keys s other begins own behind) :
    key = other ∧ value = own ∧ rest = behind := by
  obtain ⟨colon, after, isKey, blanks, more, isValue⟩ := first
  obtain ⟨otherColon, otherAfter, otherKey, otherBlanks, otherMore, otherValue⟩ := second
  have read := literal?_eq_some_iff.mpr
    ⟨key, value, colon, after, start, isKey, blanks, more, isValue, rfl⟩
  rw [literal?_eq_some_iff.mpr ⟨other, own, otherColon, otherAfter, begins, otherKey, otherBlanks,
    otherMore, otherValue, rfl⟩] at read
  simp only [Option.some.injEq, Prod.mk.injEq, Filter.literal.injEq] at read
  exact ⟨read.1.1.symm, read.1.2.symm, read.2.symm⟩

theorem LiteralAt.begins {key value : String} {start : List Char}
    (literal : LiteralAt keys s key start value rest) :
    ∃ c tail, s = c :: tail ∧ isKeyChar c = true := by
  obtain ⟨colon, behind, isKey, -⟩ := literal
  exact isKey.begins

theorem LiteralAt.isKeyChar_head {c : Char} {key value : String} {start : List Char}
    (literal : LiteralAt keys (c :: s) key start value rest) : isKeyChar c = true := by
  obtain ⟨d, tail, begins, isKey⟩ := literal.begins
  rwa [(List.cons.inj begins).1]

theorem Keyword.isKeyChar_head {c : Char} {word : List Char} (keyword : Keyword word (c :: s) rest)
    (operator : word ∈ operators) : isKeyChar c = true := by
  obtain ⟨d, tail, begins, isKey⟩ := keyword.begins (lettered_of_mem operator)
  rwa [(List.cons.inj begins).1]

/-- Where a literal stands, the letters of an operator could only be its key. -/
theorem LiteralAt.stops_of_keyword {key value : String} {start word behind : List Char}
    (literal : LiteralAt keys s key start value rest) (keyword : Keyword word s behind)
    (operator : word ∈ operators) : Stops opensOperand (Text.skipBlanks behind) := by
  have derived : Derives keys 0 .operand 0 s (.literal key value) rest := literal.derives
  obtain ⟨tail, colon⟩ := derived.colon_of_keyword keyword (lettered_of_mem operator)
  rw [colon]
  exact stops_cons.mpr (by decide)

/-! ## Other texts behind a word -/

theorem Stops.congr {p : Char → Bool} (same : t.head? = s.head?) (stops : Stops p s) :
    Stops p t := by
  intro c member
  exact stops c (same ▸ member)

theorem Keyword.replace {word : List Char} (keyword : Keyword word s rest) :
    ∃ taken, s = taken ++ rest ∧ ∀ other : List Char, other.head? = rest.head? →
      Keyword word (taken ++ other) other := by
  obtain ⟨letters, map, rfl, c, behind, rfl, ends⟩ := keyword
  refine ⟨letters, rfl, fun other same => ?_⟩
  cases other with
  | nil => simp at same
  | cons d other =>
    simp only [List.head?_cons, Option.some.injEq] at same
    exact ⟨letters, map, rfl, d, other, rfl, by rwa [same]⟩

theorem LiteralAt.replace {key value : String} {start : List Char}
    (literal : LiteralAt keys s key start value rest) :
    ∃ taken, s = taken ++ rest ∧ ∀ other : List Char, other.head? = rest.head? →
      ∃ begins, LiteralAt keys (taken ++ other) key begins value other := by
  obtain ⟨colon, behind, isKey, ⟨before, blank, rfl⟩, ⟨after, afterBlank, rfl⟩, isValue⟩ := literal
  obtain ⟨word, nonempty, inside, rfl, spelling, known⟩ := isKey
  have refit : ∀ text other : List Char, Value (text ++ other) value other →
      LiteralAt keys (word ++ (before ++ ':' :: (after ++ (text ++ other)))) key (text ++ other)
        value other := by
    intro text other isValue
    exact ⟨_, _, ⟨word, nonempty, inside, rfl, spelling, known⟩, ⟨before, blank, rfl⟩,
      ⟨after, afterBlank, rfl⟩, isValue⟩
  cases isValue with
  | @quoted value rest valued quoteless =>
    refine ⟨word ++ (before ++ ':' :: (after ++ '"' :: (value ++ ['"']))), by simp,
      fun other _ => ?_⟩
    have fitted := refit ('"' :: (value ++ ['"'])) other
    simp only [List.append_assoc, List.cons_append, List.nil_append] at fitted ⊢
    exact ⟨_, fitted (.quoted valued quoteless)⟩
  | @bare value rest valued bare stops =>
    refine ⟨word ++ (before ++ ':' :: (after ++ value)), by simp, fun other same => ?_⟩
    have fitted := refit value other (.bare valued bare (stops.congr same))
    simp only [List.append_assoc, List.cons_append] at fitted ⊢
    exact ⟨_, fitted⟩

theorem Passes.split (passes : Passes keys s literals place) : ∃ front, s = front ++ place := by
  induction passes with
  | here s => exact ⟨[], rfl⟩
  | blank _ _ ih | bracket _ _ ih =>
    obtain ⟨front, rfl⟩ := ih
    exact ⟨_ :: front, rfl⟩
  | operator _ keyword _ ih =>
    obtain ⟨front, rfl⟩ := ih
    obtain ⟨taken, rfl, -⟩ := keyword.replace
    exact ⟨taken ++ front, (List.append_assoc _ _ _).symm⟩
  | literal literal _ ih =>
    obtain ⟨front, rfl⟩ := ih
    obtain ⟨taken, rfl, -⟩ := literal.replace
    exact ⟨taken ++ front, (List.append_assoc _ _ _).symm⟩

end

end CatalogQuery.Query
