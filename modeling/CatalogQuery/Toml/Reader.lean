import CatalogQuery.Toml.Fault

/-! # Readers of TOML texts

A reader takes a part from the front of a text, or fails with a fault. A fault that is not final
leaves room for another reading from the same place. The reader knows how many bytes of the text it
has passed.

Main definitions: `Toml.Reader` and its small building blocks.
-/

namespace CatalogQuery.Toml

/-- The rest of a text and the number of bytes in front of it. -/
structure Cursor where
  offset : Nat
  rest : List Char

/-- Takes an `α` from the front of a text. -/
def Reader (α : Type) : Type := Cursor → Except Fault (α × Cursor)

namespace Reader

instance : Monad Reader where
  pure a := fun cursor => .ok (a, cursor)
  bind reader next := fun cursor => match reader cursor with
    | .ok (a, cursor) => next a cursor
    | .error fault => .error fault

/-! ## Faults -/

def failAt {α : Type} (offset : Nat) (reason : Option Reason) : Reader α := fun _ =>
  .error { offset := offset, reason := reason }

/-- Fails at the place that is reached. -/
def refuse {α : Type} : Reader α := fun cursor => .error { offset := cursor.offset }

/-- Reads something, or else something different from the same place. -/
def orElse {α : Type} (reader other : Reader α) : Reader α := fun cursor => match reader cursor with
  | .error fault => if fault.isFinal then .error fault else other cursor
  | done => done

instance : Alternative Reader where
  failure := refuse
  orElse reader other := orElse reader (other ())

def mapFault {α : Type} (change : Fault → Fault) (reader : Reader α) : Reader α := fun cursor =>
  (reader cursor).mapError change

/-- Reads something that must stand here: its faults are final. -/
def commit {α : Type} (reader : Reader α) : Reader α :=
  mapFault (fun fault => { fault with isFinal := true }) reader

/-- Reads something with a name. -/
def named {α : Type} (subject : String) (reader : Reader α) : Reader α :=
  mapFault (Fault.within subject) reader

/-- Reads something, where the given texts could stand. -/
def wanting {α : Type} (wanted : List String) (reader : Reader α) : Reader α :=
  mapFault (Fault.orWanted wanted) reader

/-- Reads something as a whole: it fails at its beginning. -/
def whole {α : Type} (reader : Reader α) : Reader α := fun cursor =>
  mapFault (fun fault => { fault with offset := cursor.offset }) reader cursor

/-! ## Characters -/

def offset : Reader Nat := fun cursor => .ok (cursor.offset, cursor)

/-- The next characters, which stay where they are. -/
def ahead : Reader (List Char) := fun cursor => .ok (cursor.rest, cursor)

def any : Reader Char := fun cursor => match cursor.rest with
  | [] => .error { offset := cursor.offset }
  | c :: rest => .ok (c, ⟨cursor.offset + c.utf8Size, rest⟩)

/-- Takes nothing, and fails unless the condition holds. -/
def check (condition : Bool) : Reader Unit := if condition then pure () else refuse

/-- The next character, if it is of a kind. -/
def satisfying (p : Char → Bool) : Reader Char := whole do
  let c ← any
  check (p c)
  return c

def char (c : Char) : Reader Unit := discard (satisfying (· == c))

def word (w : String) : Reader Unit := whole (w.toList.forM char)

/-! ## Repetitions -/

/-- What the reader takes again and again until it fails, at most `n` times. -/
def upTo {α : Type} (reader : Reader α) : Nat → Reader (List α)
  | 0 => pure []
  | n + 1 => (do
      let a ← reader
      return a :: (← upTo reader n)) <|> pure []

/-- What the reader takes again and again until it fails. The reader takes at least one character
each time, so the length of the text bounds the repetitions. -/
def many {α : Type} (reader : Reader α) : Reader (List α) := do
  upTo reader (← ahead).length

/-- What the reader takes again and again until it fails, at least once. -/
def many1 {α : Type} (reader : Reader α) : Reader (List α) := do
  return (← reader) :: (← many reader)

/-- What the reader takes once and then behind each separator. -/
def separated {α : Type} (reader : Reader α) (separator : Reader Unit) : Reader (List α) := do
  return (← reader) :: (← many (separator *> reader))

def times {α : Type} (reader : Reader α) : Nat → Reader (List α)
  | 0 => pure []
  | n + 1 => do
    let a ← reader
    return a :: (← times reader n)

def takeWhile (p : Char → Bool) : Reader (List Char) := do
  let taken := (← ahead).takeWhile p
  times any taken.length

/-- Reads one piece after the other as long as the next character begins one, at most `n` pieces.
What begins as a piece has to be one. -/
def whileNext (begins : Char → Bool) (piece : Reader Unit) : Nat → Reader Unit
  | 0 => pure ()
  | n + 1 => do
    if (← ahead).head?.any begins then
      piece
      whileNext begins piece n

def spanned {α : Type} (reader : Reader α) : Reader (α × Span) := do
  let start ← offset
  let a ← reader
  return (a, ⟨start, ← offset⟩)

def atEnd : Reader Unit := do
  check (← ahead).isEmpty

end Reader

end CatalogQuery.Toml
