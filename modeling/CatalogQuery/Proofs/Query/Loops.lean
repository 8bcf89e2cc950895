import CatalogQuery.Proofs.Query.Levels

/-! # Loops over operands

A loop reads one operand behind the other as long as there are any (`Rounds`). If every operand
takes text, the loop comes to a place without one (`exists_rounds`), within as many rounds as the
text has characters (`loops_of_shrinks`). What it finds depends on the operands at the places where
it stands, and on nothing else (`chained_congr`).
-/

namespace CatalogQuery.Query

/-- A loop over operands comes from one filter and place to another in `n` rounds, each of which
finds an operand. -/
inductive Rounds (join : Filter → Filter → Filter) (next : Reader Filter) :
    Nat → Filter → List Char → Filter → List Char → Prop
  | start {left : Filter} {s : List Char} : Rounds join next 0 left s left s
  | round {n : Nat} {left right joined : Filter} {s middle rest : List Char} :
      next s = some (right, middle) → Rounds join next n (join left right) middle joined rest →
      Rounds join next (n + 1) left s joined rest

/-- The loop that begins behind a first operand comes to the place. -/
def Stands (join : Filter → Filter → Filter) (first next : Reader Filter) (s place : List Char) :
    Prop :=
  ∃ left middle n joined,
    first s = some (left, middle) ∧ Rounds join next n left middle joined place

/-- The whole consists of a first operand and of further ones, which a loop takes as long as there
are any. The rounds of the loop, and the one behind them that finds no operand, are together not
more than the characters of the text. -/
def Loops (join : Filter → Filter → Filter) (first next whole : Reader Filter) : Prop :=
  (∀ s, first s = none → whole s = none) ∧
    ∀ s left middle, first s = some (left, middle) → ∃ n joined rest,
      Rounds join next n left middle joined rest ∧ next rest = none ∧ n + 1 ≤ s.length ∧
        whole s = some (joined, rest)

section
variable {join : Filter → Filter → Filter} {first next : Reader Filter}

/-! ## Loops end -/

/-- The loop goes on to a place without an operand. -/
theorem exists_rounds (shrinks : Shrinks next) (left : Filter) (s : List Char) :
    ∃ n joined rest, Rounds join next n left s joined rest ∧ next rest = none ∧
      chain join next s.length left s = (joined, rest) := by
  induction length : s.length using Nat.strongRecOn generalizing left s with
  | ind length ih =>
    subst length
    cases read : next s with
    | none => exact ⟨0, left, s, .start, read, chain_of_none read⟩
    | some found =>
      obtain ⟨right, middle⟩ := found
      obtain ⟨n, joined, rest, rounds, ends, reached⟩ :=
        ih middle.length (shrinks s right middle read) (join left right) middle rfl
      refine ⟨n + 1, joined, rest, .round read rounds, ends, ?_⟩
      rw [chain_of_some shrinks read, reached]

theorem Shrinks.rounds {n : Nat} {left joined : Filter} {s rest : List Char}
    (shrinks : Shrinks next) (rounds : Rounds join next n left s joined rest) :
    n + rest.length ≤ s.length := by
  induction rounds with
  | start => exact Nat.le_of_eq (Nat.zero_add _)
  | round read _ ih =>
    have := shrinks _ _ _ read
    omega

theorem loops_of_shrinks (firstShrinks : Shrinks first) (shrinks : Shrinks next) :
    Loops join first next (chained join first next) := by
  refine ⟨fun s refused => by simp [chained, refused], fun s left middle read => ?_⟩
  obtain ⟨n, joined, rest, rounds, ends, reached⟩ := exists_rounds shrinks left middle
  have := firstShrinks s left middle read
  have := shrinks.rounds rounds
  exact ⟨n, joined, rest, rounds, ends, by omega, by simp [chained, read, reached]⟩

theorem Stands.length_lt {s place : List Char} (stands : Stands join first next s place)
    (firstShrinks : Shrinks first) (shrinks : Shrinks next) : place.length < s.length := by
  obtain ⟨left, middle, n, joined, read, rounds⟩ := stands
  have := firstShrinks s left middle read
  have := shrinks.rounds rounds
  omega

/-! ## What a loop depends on -/

theorem behind?_congr {word : List Char} {other : Reader Filter} {s : List Char}
    (agree : ∀ behind, keyword? word (Text.skipBlanks s) = some behind →
      other (Text.skipBlanks behind) = next (Text.skipBlanks behind)) :
    behind? word other s = behind? word next s := by
  cases keyword : keyword? word (Text.skipBlanks s) with
  | none => simp [behind?, keyword]
  | some behind => simp [behind?, keyword, agree behind keyword]

theorem chain_congr {other : Reader Filter} {n : Nat} {left : Filter} {s : List Char}
    (agree : ∀ m joined place, Rounds join next m left s joined place →
      other place = next place) :
    chain join other n left s = chain join next n left s := by
  induction n generalizing left s with
  | zero => rfl
  | succ n ih =>
    simp only [chain, agree 0 left s .start]
    cases read : next s with
    | none => rfl
    | some found =>
      exact ih fun m joined place rounds => agree (m + 1) joined place (.round read rounds)

theorem chained_congr {otherFirst other : Reader Filter} {s : List Char}
    (begins : otherFirst s = first s)
    (agree : ∀ place, Stands join first next s place → other place = next place) :
    chained join otherFirst other s = chained join first next s := by
  simp only [chained, begins]
  cases read : first s with
  | none => rfl
  | some found =>
    obtain ⟨left, middle⟩ := found
    exact congrArg some (chain_congr fun m joined place rounds =>
      agree place ⟨left, middle, m, joined, read, rounds⟩)

end

end CatalogQuery.Query
