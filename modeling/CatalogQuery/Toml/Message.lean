import CatalogQuery.Text.Quoted
import CatalogQuery.Toml.Fault

/-! # Messages about a place in a TOML text

A message shows the line of the text that it is about and points to the part in question.

Main definitions: `Toml.Node.kind`, `Toml.report` and `Toml.Fault.report`.
-/

namespace CatalogQuery.Toml

/-- Numbers are written out without an exponent, and of two equally near decimals the greater one is
taken. -/
def Float.layout : Binary64.Layout where
  isPositional _ := true
  tie := .up

def Float.text : Float → String
  | .finite x => x.text layout
  | .infinite negative => if negative then "-inf" else "inf"
  | .notANumber => "NaN"

/-- How a message names a value that is not wanted. -/
def Node.kind : Node → String
  | .string s => "string " ++ Text.quoted s
  | .integer n => "integer `" ++ toString n ++ "`"
  | .float x => "floating point `" ++ x.text ++ "`"
  | .boolean b => "boolean `" ++ (if b then "true" else "false") ++ "`"
  | .array _ | .tables _ => "sequence"
  | .dateTime _ | .inlineTable _ | .table _ _ => "map"

/-- Splits a text behind its first bytes. -/
def splitAtByte : Nat → List Char → List Char × List Char
  | _, [] => ([], [])
  | bytes, c :: s =>
    if bytes = 0 then ([], c :: s)
    else
      let (before, after) := splitAtByte (bytes - c.utf8Size) s
      (c :: before, after)

def isWithinLine (c : Char) : Bool := c != '\n'

def repeated (n : Nat) (c : Char) : String := String.ofList (List.replicate n c)

/-- A line of a text and a place in it. -/
structure Place where
  /-- How many lines stand in front of the line. -/
  row : Nat
  column : Nat
  line : List Char

/-- The place between two parts of a text. The end of the text belongs to the last line, also behind
the line feed of that line. Columns are characters, but they are bytes in front of a character that
is not ASCII. -/
def Place.between (before after : List Char) : Place :=
  let endsLine := after.isEmpty && before.getLast?.any (!isWithinLine ·)
  let before := if endsLine then before.dropLast else before
  let indent := (before.reverse.takeWhile isWithinLine).reverse
  { row := before.count '\n'
    column :=
      if endsLine then indent.length + 1
      else if after.head?.any (0x80 ≤ ·.toNat) then Text.byteLength indent
      else indent.length
    line := indent ++ after.takeWhile isWithinLine }

/-- A message about a part of a text. It points to the part as far as its first line reaches, and to
one character at least. -/
def report (text : String) (span : Span) (message : String) : String :=
  let (before, after) := splitAtByte span.start text.toList
  let place := Place.between before after
  let number := toString (place.row + 1)
  let margin := repeated (number.length + 1) ' ' ++ "|"
  let width := min (span.stop - span.start) (Text.byteLength place.line - place.column)
  "TOML parse error at line " ++ number ++ ", column " ++ toString (place.column + 1) ++ "\n" ++
    margin ++ "\n" ++
    number ++ " | " ++ String.ofList place.line ++ "\n" ++
    margin ++ repeated (place.column + 1) ' ' ++ repeated (max 1 width) '^' ++ "\n" ++
    message ++ "\n"

/-- The character of a text that a byte belongs to. There is none at the end of the text. -/
def spanOfByte (offset : Nat) : Nat → List Char → Span
  | start, [] => ⟨start, start⟩
  | start, c :: s =>
    if offset < start + c.utf8Size then ⟨start, start + c.utf8Size⟩
    else spanOfByte offset (start + c.utf8Size) s

/-- A message about a fault of a text. It points to the character at the fault's place. -/
def Fault.report (text : String) (fault : Fault) : String :=
  Toml.report text (spanOfByte fault.offset 0 text.toList) fault.message

end CatalogQuery.Toml
