import CatalogQuery.Proofs.Query.Exactness

/-! # Reading without a limit

Without a limit on open brackets an operand is what its own reader makes of it: `Unlimited` is that
equation. Each level looks at nothing but what the reader below it finds in shorter texts
(`Agree.disjunction`), so the equation has one solution, `freeOperand?`. On a text it does the same
as the reader with room for as many brackets as the text has characters.
-/

namespace CatalogQuery.Query

/-! ## Readers that agree on short texts -/

/-- The readers find the same in texts of at most `n` characters. -/
def Agree (n : Nat) (reader other : Reader Filter) : Prop :=
  ∀ s, s.length ≤ n → reader s = other s

theorem length_skipBlanks_le (s : List Char) : (Text.skipBlanks s).length ≤ s.length :=
  (blanks_skipBlanks s).length_le

section
variable {n : Nat} {reader other next otherNext operand : Reader Filter}

theorem Agree.negation (agree : Agree n operand other) :
    Agree n (negation? operand) (negation? other) := by
  intro s within
  cases keyword : keyword? ['n', 'o', 't'] s with
  | none => simp [negation?, keyword, agree s within]
  | some behind =>
    have := (keyword?_eq_some_iff.mp keyword).length_le
    have := length_skipBlanks_le behind
    simp [negation?, keyword, agree s within, agree (Text.skipBlanks behind) (by omega)]

theorem Agree.behind (agree : Agree n next otherNext) (word : List Char) :
    Agree n (behind? word next) (behind? word otherNext) := by
  intro s within
  cases keyword : keyword? word (Text.skipBlanks s) with
  | none => simp [behind?, keyword]
  | some behind =>
    have := length_skipBlanks_le s
    have := (keyword?_eq_some_iff.mp keyword).length_le
    have := length_skipBlanks_le behind
    simp [behind?, keyword, agree (Text.skipBlanks behind) (by omega)]

theorem Agree.conjunct (agree : Agree n operand other) :
    Agree n (conjunct? operand) (conjunct? other) := by
  intro s within
  have shorter := Nat.le_trans (length_skipBlanks_le s) within
  simp only [conjunct?, agree.negation.behind _ s within, agree.negation _ shorter]

theorem Agree.chain {join : Filter → Filter → Filter} (agree : Agree n next otherNext)
    (shrinks : Shrinks otherNext) (bound : Nat) (left : Filter) {s : List Char}
    (within : s.length ≤ n) :
    chain join next bound left s = chain join otherNext bound left s := by
  induction bound generalizing left s with
  | zero => rfl
  | succ bound ih =>
    simp only [Query.chain, agree s within]
    cases read : otherNext s with
    | none => rfl
    | some found =>
      have := shrinks s found.1 found.2 read
      exact ih _ (by omega)

theorem Agree.chained {join : Filter → Filter → Filter} (first : Agree n reader other)
    (further : Agree n next otherNext) (shrinks : Shrinks other) (nextShrinks : Shrinks otherNext) :
    Agree n (Query.chained join reader next) (Query.chained join other otherNext) := by
  intro s within
  simp only [Query.chained, first s within]
  cases read : other s with
  | none => rfl
  | some found =>
    have := shrinks s found.1 found.2 read
    exact congrArg some (further.chain nextShrinks _ _ (by omega))

end

section
variable {keys : KeySet} {limit depth n : Nat} {operand other : Reader Filter}
variable (agree : Agree n operand other) (sound : Sound keys limit .operand depth other)
include agree sound

theorem Agree.conjunction : Agree n (conjunction? operand) (conjunction? other) :=
  agree.negation.chained agree.conjunct sound.negation.shrinks sound.conjunct_shrinks

theorem Agree.disjunction : Agree n (disjunction? operand) (disjunction? other) :=
  (agree.conjunction sound).chained ((agree.conjunction sound).behind _) sound.conjunction.shrinks
    sound.disjunct_shrinks

theorem Agree.group : Agree n (group? operand) (group? other) := by
  intro s within
  have shorter := Nat.le_trans (length_skipBlanks_le s) within
  simp only [group?, agree.disjunction sound _ shorter]

end

/-! ## Operands without a limit -/

/-- An operand is a literal, or a group, however many brackets are open in it. -/
def Unlimited (keys : KeySet) (operand : Reader Filter) : Prop :=
  ∀ s, operand s = match s with
    | '(' :: inside => group? operand inside
    | s => literal? keys s

/-- An operand, with room for as many brackets as the text has characters. -/
def freeOperand? (keys : KeySet) : Reader Filter := fun s => operand? keys s.length s

section
variable {keys : KeySet} {n : Nat}

theorem sound_room (keys : KeySet) (room : Nat) : Sound keys room .operand 0 (operand? keys room) :=
  sound_operand? keys (Nat.zero_le room)

theorem operand?_of_literal {s : List Char} {room : Nat}
    (literal : ∀ inside, s = '(' :: inside → False) : operand? keys room s = literal? keys s := by
  cases room with
  | zero => rfl
  | succ room => simp [operand?]

theorem Agree.succ {reader inner : Reader Filter} (agree : Agree n inner (operand? keys n))
    (equation : ∀ s, reader s = match s with
      | '(' :: inside => group? inner inside
      | s => literal? keys s) : Agree (n + 1) reader (operand? keys (n + 1)) := by
  intro s within
  rw [equation]
  split
  · next inside =>
    -- A bracket takes a character from the text, so what is inside is short enough.
    rw [List.length_cons] at within
    exact agree.group (sound_room keys n) inside (by omega)
  · next literal => rw [operand?_of_literal literal]

theorem agree_nil {reader : Reader Filter} (empty : reader [] = literal? keys []) :
    Agree 0 reader (operand? keys 0) := by
  intro s within
  rw [List.eq_nil_of_length_eq_zero (Nat.le_zero.mp within), empty]
  rfl

theorem Unlimited.agree {operand : Reader Filter} (unlimited : Unlimited keys operand)
    (room : Nat) : Agree room operand (operand? keys room) := by
  induction room with
  | zero => exact agree_nil (unlimited [])
  | succ room ih => exact ih.succ unlimited

theorem operand?_agree (n more : Nat) :
    Agree n (operand? keys (n + more)) (operand? keys n) := by
  induction n with
  | zero => exact agree_nil (by cases 0 + more <;> rfl)
  | succ n ih =>
    rw [Nat.add_right_comm]
    exact ih.succ fun s => rfl

theorem freeOperand?_agree (keys : KeySet) (n : Nat) :
    Agree n (freeOperand? keys) (operand? keys n) := by
  intro s within
  obtain ⟨more, rfl⟩ := Nat.exists_eq_add_of_le within
  exact (operand?_agree s.length more s (Nat.le_refl _)).symm

theorem unlimited_freeOperand? (keys : KeySet) : Unlimited keys (freeOperand? keys) := by
  intro s
  split
  · next inside =>
    have agree := freeOperand?_agree keys inside.length
    exact (agree.group (sound_room keys _) inside (Nat.le_refl _)).symm
  · next literal => exact operand?_of_literal literal

theorem Unlimited.eq_freeOperand? {operand : Reader Filter} (unlimited : Unlimited keys operand) :
    operand = freeOperand? keys := by
  funext s
  exact unlimited.agree s.length s (Nat.le_refl _)

end

/-! ## Whole queries -/

/-- The filter that a query stands for, however many brackets are open in it. -/
def readFreely? (keys : KeySet) (query : String) : Option Filter := do
  let (filter, rest) ← disjunction? (freeOperand? keys) (Text.skipBlanks query.toList)
  if (Text.skipBlanks rest).isEmpty then some filter else none

theorem readFreely?_eq {keys : KeySet} {room : Nat} {query : String}
    (within : query.toList.length ≤ room) :
    readFreely? keys query = readWithin? keys room query := by
  have shorter := Nat.le_trans (length_skipBlanks_le query.toList) within
  have agree := (freeOperand?_agree keys room).disjunction (sound_room keys room)
  simp only [readFreely?, readWithin?, agree _ shorter]

end CatalogQuery.Query
