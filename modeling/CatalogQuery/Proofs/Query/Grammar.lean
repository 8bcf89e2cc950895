import CatalogQuery.Proofs.Query.Words

/-! # The grammar of queries

A query is derived on four levels. A disjunction joins conjunctions, a conjunction joins negations,
a negation is an operand behind `NOT` or an operand, and an operand is a group or a literal. Both
chains are left-recursive. `Derives` relates a text to a filter that its beginning stands for and to
the rest of the text; a rule is free to leave blanks, and operands, to the rest.

The depth counts the groups that are open around the text, and no group opens at the depth `limit`.
-/

namespace CatalogQuery.Query

/-- What a part of a query may be, from the loosest to the tightest. -/
inductive Level where
  | disjunction
  | conjunction
  | negation
  | operand
  deriving DecidableEq, Repr

/-- The text begins with a part of the level, which stands for the filter, in front of the rest. -/
inductive Derives (keys : KeySet) (limit : Nat) :
    Level → Nat → List Char → Filter → List Char → Prop
  | or {depth : Nat} {s middle word behind next rest : List Char} {left right : Filter} :
      Derives keys limit .disjunction depth s left middle →
      Blanks middle word → Keyword ['o', 'r'] word behind → Blanks behind next →
      Derives keys limit .conjunction depth next right rest →
      Derives keys limit .disjunction depth s (.or left right) rest
  | ofConjunction {depth : Nat} {s rest : List Char} {filter : Filter} :
      Derives keys limit .conjunction depth s filter rest →
      Derives keys limit .disjunction depth s filter rest
  | and {depth : Nat} {s middle word behind next rest : List Char} {left right : Filter} :
      Derives keys limit .conjunction depth s left middle →
      Blanks middle word → Keyword ['a', 'n', 'd'] word behind → Blanks behind next →
      Derives keys limit .negation depth next right rest →
      Derives keys limit .conjunction depth s (.and left right) rest
  | juxtaposed {depth : Nat} {s middle next rest : List Char} {left right : Filter} :
      Derives keys limit .conjunction depth s left middle →
      Blanks middle next →
      Derives keys limit .negation depth next right rest →
      Derives keys limit .conjunction depth s (.and left right) rest
  | ofNegation {depth : Nat} {s rest : List Char} {filter : Filter} :
      Derives keys limit .negation depth s filter rest →
      Derives keys limit .conjunction depth s filter rest
  | not {depth : Nat} {s behind next rest : List Char} {child : Filter} :
      Keyword ['n', 'o', 't'] s behind → Blanks behind next →
      Derives keys limit .operand depth next child rest →
      Derives keys limit .negation depth s (.not child) rest
  | ofOperand {depth : Nat} {s rest : List Char} {filter : Filter} :
      Derives keys limit .operand depth s filter rest →
      Derives keys limit .negation depth s filter rest
  | group {depth : Nat} {s inside close rest : List Char} {filter : Filter} :
      depth < limit → Blanks s inside →
      Derives keys limit .disjunction (depth + 1) inside filter close →
      Blanks close (')' :: rest) →
      Derives keys limit .operand depth ('(' :: s) filter rest
  | literal {depth : Nat} {s colon behind next rest : List Char} {key value : String} :
      Key keys s key colon → Blanks colon (':' :: behind) → Blanks behind next →
      Value next value rest →
      Derives keys limit .operand depth s (.literal key value) rest

/-- The whole text is a query that stands for the filter. -/
def DerivesQuery (keys : KeySet) (limit : Nat) (query : List Char) (filter : Filter) : Prop :=
  ∃ s rest, Blanks query s ∧ Derives keys limit .disjunction 0 s filter rest ∧ Blanks rest []

/-! ## Beginnings of derived texts -/

/-- An operand begins with a bracket or a key. -/
def opensOperand (c : Char) : Bool := c == '(' || isKeyChar c

theorem isBlank_of_opensOperand {c : Char} (opens : opensOperand c = true) :
    Text.isBlank c = false := by
  simp only [opensOperand, Bool.or_eq_true, beq_iff_eq] at opens
  rcases opens with rfl | key
  · decide
  · exact isBlank_of_isKeyChar key

theorem stops_isBlank_of_opens {s : List Char} (opens : ¬ Stops opensOperand s) :
    Stops Text.isBlank s := by
  cases s with
  | nil => exact stops_nil
  | cons c s =>
    rw [stops_cons, Bool.not_eq_false] at opens
    exact stops_cons.mpr (isBlank_of_opensOperand opens)

theorem Keyword.not_stops {word s rest : List Char} (keyword : Keyword word s rest)
    (lettered : Lettered word) : ¬ Stops opensOperand s := by
  obtain ⟨c, tail, rfl, key⟩ := keyword.begins lettered
  simp [opensOperand, key]

section
variable {keys : KeySet} {limit depth : Nat} {level : Level} {s rest : List Char} {filter : Filter}

theorem Derives.begins (derived : Derives keys limit level depth s filter rest) :
    ∃ c tail, s = c :: tail ∧ opensOperand c = true := by
  induction derived with
  | or _ _ _ _ _ left _ => exact left
  | and _ _ _ _ _ left _ => exact left
  | juxtaposed _ _ _ left _ => exact left
  | ofConjunction _ same | ofNegation _ same | ofOperand _ same => exact same
  | not keyword _ _ _ =>
    obtain ⟨c, tail, rfl, key⟩ := keyword.begins lettered_not
    exact ⟨c, tail, rfl, by simp [opensOperand, key]⟩
  | group _ _ _ _ _ => exact ⟨'(', _, rfl, rfl⟩
  | literal key _ _ _ =>
    obtain ⟨c, tail, rfl, opens⟩ := key.begins
    exact ⟨c, tail, rfl, by simp [opensOperand, opens]⟩

theorem Derives.not_stops (derived : Derives keys limit level depth s filter rest) :
    ¬ Stops opensOperand s := by
  intro stops
  obtain ⟨c, tail, rfl, opens⟩ := derived.begins
  rw [stops_cons.mp stops] at opens
  contradiction

theorem Derives.stops (derived : Derives keys limit level depth s filter rest) :
    Stops Text.isBlank s :=
  stops_isBlank_of_opens derived.not_stops

theorem Derives.length_lt (derived : Derives keys limit level depth s filter rest) :
    rest.length < s.length := by
  induction derived with
  | or _ blanks keyword more _ left right | and _ blanks keyword more _ left right =>
    have := blanks.length_le
    have := keyword.length_le
    have := more.length_le
    omega
  | juxtaposed _ blanks _ left right =>
    have := blanks.length_le
    omega
  | ofConjunction _ same | ofNegation _ same | ofOperand _ same => exact same
  | not keyword blanks _ child =>
    have := keyword.length_le
    have := blanks.length_le
    omega
  | group _ blanks _ more inside =>
    have := blanks.length_le
    have := more.length_le
    simp only [List.length_cons] at *
    omega
  | literal key blanks more value =>
    have := key.length_le
    have := blanks.length_le
    have := more.length_le
    have := value.length_lt
    simp only [List.length_cons] at *
    omega

/-! ## Keywords and operands -/

/-- Where a keyword stands, an operand can only be a literal whose key is spelt like it. -/
theorem Derives.colon_of_keyword {word behind : List Char}
    (derived : Derives keys limit .operand depth s filter rest) (keyword : Keyword word s behind)
    (lettered : Lettered word) : ∃ tail, Text.skipBlanks behind = ':' :: tail := by
  cases derived with
  | group _ _ _ _ =>
    obtain ⟨c, tail, opens, key⟩ := keyword.begins lettered
    obtain ⟨rfl, -⟩ := List.cons.inj opens
    exact absurd key (by decide)
  | literal key blanks _ _ =>
    obtain ⟨taken, -, inside, split, -⟩ := key
    have stops := blanks.stops_isKeyChar (stops_cons.mpr (by decide))
    obtain ⟨-, rfl⟩ := keyword.eq_of_split lettered inside stops split
    exact ⟨_, blanks.skipBlanks_eq (stops_cons.mpr (by decide))⟩

theorem Derives.colon_of_other_keyword {word behind : List Char}
    (derived : Derives keys limit .negation depth s filter rest) (keyword : Keyword word s behind)
    (lettered : Lettered word) (other : word ≠ ['n', 'o', 't']) :
    ∃ tail, Text.skipBlanks behind = ':' :: tail := by
  cases derived with
  | not negation _ _ => exact absurd (keyword.unique negation lettered lettered_not).1 other
  | ofOperand operand => exact operand.colon_of_keyword keyword lettered

end

end CatalogQuery.Query
