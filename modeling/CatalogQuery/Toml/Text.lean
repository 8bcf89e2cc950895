import CatalogQuery.Toml.Scalar

/-! # Reading TOML

Reads the text of a document, or finds the first fault in it.

Main definition: `Toml.read`.
-/

namespace CatalogQuery.Toml

open Reader

/-! ## Values -/

/-- A comment, up to the end of its line. -/
def comment : Reader Unit := do
  char '#'
  discard (takeWhile isText)

/-- Space, line feeds and comments between the items of an array. -/
def gap : Reader Unit := do
  space
  whileNext (fun c => c == '#' || c == '\n' || c == '\r')
    (optional comment *> lineFeed *> space) (← ahead).length

/-- A line `key = value`, up to the end of the value. -/
def line (value : Reader Node) : Reader Line := do
  let (path, key) ← dottedKey
  commit do
    wanting ([".", "="].map backquoted) (char '=')
    space
    let (node, span) ← spanned value
    return ⟨path, ⟨key, some span, node⟩⟩

/-- An array. A comma may follow its last item. -/
def array (value : Reader Node) : Reader Node := do
  char '['
  commit do
    let items ← optional do
      let items ← separated (gap *> value <* gap) (char ',')
      discard (optional (char ','))
      return items
    gap
    named "array" (wanting [backquoted "]"] (char ']'))
    return .array (items.getD [])

/-- A table between braces. No comma may follow its last entry. -/
def inlineTable (value : Reader Node) : Reader Node := do
  char '\x7b'
  commit do
    let start ← offset
    let lines ← optional (separated (line value <* space) (char ','))
    space
    match inlineEntries (lines.getD []) with
    | .error conflict => failAt start (some (.conflict conflict))
    | .ok entries =>
      named "inline table" (wanting [backquoted "\x7d"] (char '\x7d'))
      return .inlineTable entries

/-- A value, where containers are read as given. -/
def valueWith (array inlineTable : Reader Node) : Reader Node := do
  match ← ahead with
  | '[' :: _ => array
  | '\x7b' :: _ => inlineTable
  | _ => scalar

/-- A value in which at most `room` containers are open at the same time. -/
def value : Nat → Reader Node
  | 0 =>
    let tooDeep := do failAt (← offset) (some .tooDeep)
    valueWith tooDeep tooDeep
  | room + 1 => valueWith (array (value room)) (inlineTable (value room))

/-! ## Documents -/

/-- The end of a line, or of the text. -/
def lineEnd : Reader Unit := lineFeed <|> atEnd

/-- What may stand in a line behind its content. -/
def lineTail : Reader Unit :=
  wanting ["newline", backquoted "#"] (space *> optional comment *> lineEnd)

/-- A header between brackets of a kind. -/
def headerBetween (isDouble : Bool) (opening closing : String) : Reader Header := do
  let ((path, key), span) ← spanned do
    word opening
    let key ← dottedKey
    wanting ([".", closing].map backquoted) (word closing)
    return key
  return ⟨isDouble, path, key, span⟩

/-- A header in single or double brackets. A bracket at the end of the text opens none. -/
def header : Reader Header := do
  match ← ahead with
  | [_] => refuse
  | '[' :: '[' :: _ => headerBetween true "[[" "]]"
  | _ => headerBetween false "[" "]"

/-- Adds what is read to a draft, or finds it in conflict with the draft at its beginning. -/
def added {α : Type} (add : Draft → α → Except Conflict Draft) (draft : Draft) (reader : Reader α) :
    Reader Draft := do
  let start ← offset
  match add draft (← reader) with
  | .ok draft => return draft
  | .error conflict => failAt start (some (.conflict conflict))

/-- Reads a header or a line, or skips a comment or the end of a line. -/
def statement (draft : Draft) : Char → Reader Draft
  | '#' => do comment; lineEnd; return draft
  | '\n' | '\r' => do whole lineFeed; return draft
  | '[' => named "table header" (added Draft.addHeader draft (header <* lineTail))
  | _ => added Draft.addLine draft (line (value maxNesting) <* lineTail)

/-- Reads at most `n` statements, with space in front of each of them. -/
def statements (draft : Draft) : Nat → Reader Draft
  | 0 => return draft
  | n + 1 => do
    space
    match (← ahead).head? with
    | none => return draft
    | some c => statements (← statement draft c) n

/-- A document. A byte order mark may stand in front of it. -/
def document : Reader (List Entry) := do
  discard (optional (char '\uFEFF'))
  let draft ← statements {} ((← ahead).length + 1)
  return draft.document

/-- The entries of the document that a text holds, or the first fault of the text. -/
def read (text : String) : Except Fault (List Entry) :=
  (document ⟨0, text.toList⟩).map Prod.fst

end CatalogQuery.Toml
