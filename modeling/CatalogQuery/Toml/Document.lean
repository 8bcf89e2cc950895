import CatalogQuery.Number.Shortest
import CatalogQuery.Toml.Key

/-! # TOML documents

A document is a table of entries in the order in which they are first named. It is put together line
by line: a header opens a table, and the lines behind it fill that table. No table may be defined
twice, and no key may be given a value twice.

Main definitions: `Toml.Node`, `Toml.Conflict` and `Toml.Draft`.
-/

namespace CatalogQuery.Toml

/-! ## Tables -/

/-- A number with a fraction or an exponent, or one of the special values. -/
inductive Float where
  | finite (x : Binary64)
  | infinite (negative : Bool)
  | notANumber
  deriving DecidableEq, Repr

inductive Origin where
  /-- It has a header of its own, or stands between braces. -/
  | defined
  /-- It is named in the header of a table inside it. -/
  | implied
  /-- It is named in a dotted key. -/
  | dotted
  deriving DecidableEq, Repr

mutual

inductive Node where
  | string (s : String)
  | integer (n : Int)
  | float (x : Float)
  | boolean (b : Bool)
  | dateTime (text : String)
  | array (items : List Node)
  /-- A table between braces, to which nothing can be added. -/
  | inlineTable (entries : List Entry)
  | table (origin : Origin) (entries : List Entry)
  /-- The tables of the headers in double brackets. -/
  | tables (elements : List (List Entry))

/-- A key and its value. A table that has no text of its own has no span. -/
structure Entry where
  key : Key
  span : Option Span
  node : Node

end

def member? (name : String) (entries : List Entry) : Option Entry :=
  entries.find? fun e => e.key.name == name

/-- Puts a new entry in the place of the one of that name. -/
def replaceEntry (name : String) (entry : Entry) (entries : List Entry) : List Entry :=
  entries.map fun e => if e.key.name == name then entry else e

/-- Changes the last element of a list, if there is one. -/
def changeLast {α ε : Type} (change : α → Except ε α) : List α → Except ε (List α)
  | [] => .ok []
  | [a] => return [← change a]
  | a :: b :: rest => return a :: (← changeLast change (b :: rest))

/-! ## Conflicts -/

/-- Why a line or a header does not fit to what stands in front of it. -/
inductive Conflict where
  /-- The key has its value already. The table may be known, by the names that lead to it. -/
  | duplicateKey (key : String) (table : Option (List String))
  /-- The names lead to a value that is no table. -/
  | notATable (path : List String) (kind : String)
  deriving DecidableEq, Repr

def Conflict.message : Conflict → String
  | .duplicateKey key table =>
    let place := match table with
      | none => ""
      | some [] => " in document root"
      | some names => " in table `" ++ ".".intercalate names ++ "`"
    "duplicate key `" ++ key ++ "`" ++ place
  | .notATable path kind =>
    "dotted key `" ++ ".".intercalate path ++ "` attempted to extend non-table type (" ++
      kind ++ ")"

/-- What a value is, where a table is wanted. -/
def Node.variety : Node → String
  | .string _ => "string"
  | .integer _ => "integer"
  | .float _ => "float"
  | .boolean _ => "boolean"
  | .dateTime _ => "datetime"
  | .array _ => "array"
  | .inlineTable _ => "inline table"
  | .table _ _ | .tables _ => "table"

/-! ## Lines -/

/-- A line `key = value`: the parts of the key in front of the last one, and the entry. -/
structure Line where
  path : List Key
  entry : Entry

/-- What a line is added to. -/
inductive Target where
  /-- The table with these names. -/
  | named (names : List String)
  /-- A table between braces. -/
  | inline

/-- The conflict with a value that stands where a dotted key leads to. -/
def Target.conflict (target : Target) (names : List String) (part : Key) (node : Node) : Conflict :=
  match target, node with
  | .inline, .inlineTable _ => .duplicateKey part.name none
  | _, _ => .notATable (names ++ [part.name]) node.variety

def Target.names? : Target → Option (List String)
  | .named names => some names
  | .inline => none

/-- Adds a line to a table, behind the names of the path that are passed already. The tables on its
path are made by dotted keys or else named in headers of others, and the last one is made by dotted
keys. -/
def addLine (target : Target) (entry : Entry) (passed : List String) :
    List Key → List Entry → Except Conflict (List Entry)
  | [], entries =>
    if (member? entry.key.name entries).isSome then
      .error (.duplicateKey entry.key.name target.names?)
    else .ok (entries ++ [entry])
  | part :: path, entries =>
    match member? part.name entries with
    | none => do
      let inside ← addLine target entry (passed ++ [part.name]) path []
      return entries ++ [⟨part, none, .table .dotted inside⟩]
    | some e => match e.node with
      | .table origin inside =>
        if origin = .defined then .error (.duplicateKey part.name none)
        else if path.isEmpty && origin = .implied then .error (.duplicateKey entry.key.name none)
        else do
          let inside ← addLine target entry (passed ++ [part.name]) path inside
          return replaceEntry part.name { e with node := .table origin inside } entries
      | .tables elements =>
        if path.isEmpty then .error (.duplicateKey entry.key.name none)
        else do
          let elements ← changeLast (addLine target entry (passed ++ [part.name]) path) elements
          return replaceEntry part.name { e with node := .tables elements } entries
      | node => .error (target.conflict passed part node)

/-- The entries of a table between braces. -/
def inlineEntries (lines : List Line) : Except Conflict (List Entry) :=
  lines.foldlM (fun entries line => addLine .inline line.entry [] line.path entries) []

/-! ## Headers -/

/-- A header in brackets. It is single or double, has a path in front of its last key, and a span
from its opening to its closing bracket. -/
structure Header where
  isDouble : Bool
  path : List Key
  key : Key
  span : Span

def Header.names (header : Header) : List String :=
  header.path.map Key.name ++ [header.key.name]

/-- Changes the table at a path, behind the names that are passed already. Tables that are not there
yet are implied, and the path leads through the last of the tables in double brackets. -/
def changeAt (change : List Entry → Except Conflict (List Entry)) (passed : List String) :
    List Key → List Entry → Except Conflict (List Entry)
  | [], entries => change entries
  | part :: path, entries =>
    match member? part.name entries with
    | none => do
      let inside ← changeAt change (passed ++ [part.name]) path []
      return entries ++ [⟨part, none, .table .implied inside⟩]
    | some e => match e.node with
      | .table origin inside => do
        let inside ← changeAt change (passed ++ [part.name]) path inside
        return replaceEntry part.name { e with node := .table origin inside } entries
      | .tables elements => do
        let elements ← changeLast (changeAt change (passed ++ [part.name]) path) elements
        return replaceEntry part.name { e with node := .tables elements } entries
      | node => .error (.notATable (passed ++ [part.name]) node.variety)

/-- The conflict of a header with a table or a value of the same name. -/
def Header.conflict (header : Header) : Conflict :=
  .duplicateKey header.key.written (some (header.path.map Key.name))

/-- Defines the table of a header in the table that its path leads to. A table that was implied so
far moves to the end. Double brackets open a new table behind the ones of the same header. -/
def Header.define (header : Header) (parent : List Entry) : Except Conflict (List Entry) :=
  let key := header.key
  match member? key.name parent with
  | none =>
    let node := if header.isDouble then .tables [[]] else .table .defined []
    .ok (parent ++ [⟨key, some header.span, node⟩])
  | some e => match e.node, header.isDouble with
    | .table .implied inside, false =>
      .ok (parent.filter (·.key.name != key.name) ++
        [⟨key, some header.span, .table .defined inside⟩])
    | .tables elements, true =>
      let span := e.span.map fun first => ⟨first.start, header.span.stop⟩
      .ok (replaceEntry key.name { e with span := span, node := .tables (elements ++ [[]]) } parent)
    | _, _ => .error header.conflict

/-- Adds a line to the table that a header has opened. The span of the table reaches to the end of
the line's value. -/
def Header.fill (header : Header) (line : Line) (parent : List Entry) :
    Except Conflict (List Entry) := do
  match member? header.key.name parent with
  | none => return parent
  | some e =>
    let add := addLine (.named header.names) line.entry [] line.path
    let node ← match e.node with
      | .table origin inside => .table origin <$> add inside
      | .tables elements => .tables <$> changeLast add elements
      | node => pure node
    let stop := (line.entry.span.getD header.span).stop
    let span := e.span.map fun span => ⟨span.start, stop⟩
    return replaceEntry header.key.name { e with span := span, node := node } parent

/-! ## Drafts -/

/-- A document up to some line, and the last header in it. -/
structure Draft where
  document : List Entry := []
  header : Option Header := none

def Draft.addLine (draft : Draft) (line : Line) : Except Conflict Draft := do
  let document ← match draft.header with
    | none => Toml.addLine (.named []) line.entry [] line.path draft.document
    | some header => changeAt (header.fill line) [] header.path draft.document
  return { draft with document := document }

def Draft.addHeader (draft : Draft) (header : Header) : Except Conflict Draft := do
  let document ← changeAt header.define [] header.path draft.document
  return ⟨document, some header⟩

end CatalogQuery.Toml
