import CatalogQuery.Filter.Basic
import CatalogQuery.Query.Token

/-! # Reading queries

A query is a disjunction of conjunctions of literals, negated or not, and of queries in brackets.
`NOT` binds more tightly than `AND`, and `AND` more tightly than `OR`; both join to the left. Two
operands that stand side by side are joined by `AND`. Blanks between the parts do not count.

Each level is a reader over the level below it, and the lowest one takes the operands: literals, and
groups as long as there is room for another open bracket. A text that does not continue with an
operand ends a chain of operands where it stands, so only the whole query is accepted or refused.

Main definitions: `Query.read?` and the levels `operand?`, `negation?`, `conjunction?` and
`disjunction?`.
-/

namespace CatalogQuery.Query

/-- The number of brackets that may be open at the same time. -/
def maxNesting : Nat := 128

/-! ## Literals -/

/-- A colon with the blanks around it. -/
def colon? (s : List Char) : Option (List Char) :=
  match Text.skipBlanks s with
  | ':' :: rest => some (Text.skipBlanks rest)
  | _ => none

/-- A literal over the keys of the key set. -/
def literal? (keys : KeySet) : Reader Filter := fun s => do
  let (key, s) ← key? keys s
  let (value, s) ← value? (← colon? s)
  return (.literal key value, s)

/-! ## Operators -/

/-- An operand behind `NOT`, or else an operand. -/
def negation? (operand : Reader Filter) : Reader Filter := fun s =>
  let negated := do
    let (child, rest) ← operand (Text.skipBlanks (← keyword? ['n', 'o', 't'] s))
    return (Filter.not child, rest)
  negated <|> operand s

/-- What stands behind an operator and the blanks around it. -/
def behind? (word : List Char) (next : Reader Filter) : Reader Filter := fun s => do
  next (Text.skipBlanks (← keyword? word (Text.skipBlanks s)))

/-- Reads operands as long as there are any, at most `n`, and joins them to the left. -/
def chain (join : Filter → Filter → Filter) (next : Reader Filter) :
    Nat → Filter → List Char → Filter × List Char
  | 0, left, s => (left, s)
  | n + 1, left, s => match next s with
    | some (right, rest) => chain join next n (join left right) rest
    | none => (left, s)

/-- A further operand of a conjunction, behind `AND` or at once. -/
def conjunct? (operand : Reader Filter) : Reader Filter := fun s =>
  behind? ['a', 'n', 'd'] (negation? operand) s <|> negation? operand (Text.skipBlanks s)

/-- One or more operands, joined by conjunction. -/
def conjunction? (operand : Reader Filter) : Reader Filter := fun s => do
  let (left, rest) ← negation? operand s
  return chain .and (conjunct? operand) rest.length left rest

/-- A further operand of a disjunction, behind `OR`. -/
def disjunct? (operand : Reader Filter) : Reader Filter :=
  behind? ['o', 'r'] (conjunction? operand)

/-- One or more conjunctions, joined by disjunction. -/
def disjunction? (operand : Reader Filter) : Reader Filter := fun s => do
  let (left, rest) ← conjunction? operand s
  return chain .or (disjunct? operand) rest.length left rest

/-! ## Operands -/

/-- The closing bracket of a group, and the blanks before it. -/
def close? (s : List Char) : Option (List Char) :=
  match Text.skipBlanks s with
  | ')' :: rest => some rest
  | _ => none

/-- A query in brackets, after the opening bracket. -/
def group? (operand : Reader Filter) : Reader Filter := fun s => do
  let (inside, rest) ← disjunction? operand (Text.skipBlanks s)
  return (inside, ← close? rest)

/-- A literal, or a group with at most `room` brackets open in it at the same time. -/
def operand? (keys : KeySet) : Nat → Reader Filter
  | 0, s => literal? keys s
  | room + 1, s => match s with
    | '(' :: inside => group? (operand? keys room) inside
    | s => literal? keys s

/-! ## Whole queries -/

/-- The filter that a query stands for, with at most `room` brackets open at the same time. -/
def readWithin? (keys : KeySet) (room : Nat) (query : String) : Option Filter := do
  let (filter, rest) ← disjunction? (operand? keys room) (Text.skipBlanks query.toList)
  if (Text.skipBlanks rest).isEmpty then some filter else none

/-- The filter that a query stands for. A text that is no query over the keys has none. -/
def read? (keys : KeySet) (query : String) : Option Filter := readWithin? keys maxNesting query

/-- What is said about a text that is no query. -/
def refusal : String := "invalid query"

end CatalogQuery.Query
