import CatalogQuery.Config
import CatalogQuery.Filter.Printer
import CatalogQuery.Filter.Selection
import CatalogQuery.Terminal.Style

/-! # What the commands print

The lines that the commands print about a filter, about the records that it selects, and about the
keys in use.

Main definitions: `Report.filter`, `Report.explanation`, `Report.outline`, `Report.selection` and
`Report.keys`.
-/

namespace CatalogQuery.Terminal.Report

/-- The two forms in which filters and records are printed. -/
inductive Format where
  | tree
  | json
  deriving DecidableEq, Repr

/-! ## Filters -/

/-- A filter: bracketed, or as JSON. -/
def filter (paint : Painter) (format : Format) (f : Filter) : List String :=
  match format with
  | .tree => [paint (.coloured .white) f.bracketed]
  | .json => [f.toJson.pretty]

/-- The space in front of a line at a level of indentation. -/
def indent (level : Nat) : String := spaces (2 * level)

/-- The tree of a filter, with a line for each node and the children of a node below it, one level
further in. -/
def outline (paint : Painter) (level : Nat) : Filter → List String
  | .literal key value =>
    [indent level ++ paint (.coloured .cyan) key ++ paint .dim ":" ++
      paint (.coloured .yellow) value]
  | .and left right =>
    (indent level ++ paint (.strong .green) "AND") ::
      (outline paint (level + 1) left ++ outline paint (level + 1) right)
  | .or left right =>
    (indent level ++ paint (.strong .magenta) "OR") ::
      (outline paint (level + 1) left ++ outline paint (level + 1) right)
  | .not child =>
    (indent level ++ paint (.strong .red) "NOT") :: outline paint (level + 1) child

/-- What stands in front of the explanation of a query, whether it is accepted or not. -/
def explanationHead (paint : Painter) (query : String) : List String :=
  [paint (.strong .cyan) "Filter Query Explanation", "",
    paint .dim "Query:" ++ " " ++ paint (.coloured .yellow) query, ""]

def explanation (paint : Painter) (f : Filter) : List String :=
  [paint .dim "Bracketed:" ++ " " ++ paint (.coloured .white) f.bracketed,
    paint .dim "Size:" ++ " " ++ toString f.literalCount ++ " literal(s), depth " ++
      toString f.depth, "",
    paint (.strong .green) "Tree:"] ++ outline paint 1 f

/-! ## Records -/

/-- How a record is called: by its name if that is a text, and by its whole text otherwise. -/
def label (record : Json.Value) : String :=
  match record.member? "name" with
  | some (.string name) => name
  | _ => record.compact

def recordLine (label : String) : String := "  • " ++ label

/-- The selected ones among a number of records. -/
def selection (paint : Painter) (format : Format) (selected : List Json.Value) (total : Nat) :
    List String :=
  match format with
  | .json => [(Json.Value.array selected).pretty]
  | .tree =>
    if selected.isEmpty then [paint .dim "(no matches)"]
    else
      selected.map (fun record => recordLine (paint (.coloured .white) (label record))) ++
        ["", paint (.coloured .cyan) (toString selected.length) ++ " of " ++ toString total ++
          " record(s) matched"]

/-! ## Keys -/

def keyWidth : Nat := 16

/-- The line below the heads of the columns. -/
def rule : String := String.ofList (List.replicate 40 '─')

/-- Two columns with space between them. The first one is filled up within its style. -/
def columns (paint : Painter) (left right : Style) (a b : String) : String :=
  paint left (fillTo keyWidth a) ++ " " ++ paint right b

def keys (paint : Painter) (keys : KeySet) : List String :=
  [paint (.strong .cyan) "Filter Keys", "",
    columns paint (.strong .white) (.strong .white) "Key" "Record field", paint .dim rule] ++
  keys.entries.map fun (key, field) => columns paint (.coloured .cyan) .dim key field

/-! ## The program -/

/-- What is printed when there is nothing to do. -/
def overview (paint : Painter) : List String :=
  [paint (.strong .cyan) "catalog-filter", "", "Usage: catalog-filter <QUERY> [OPTIONS]", "",
    "Try: catalog-filter --help"]

def error (paint : Painter) (chain : List String) : List String :=
  [paint (.strong .red) "Error:" ++ " " ++ ": ".intercalate chain]

end CatalogQuery.Terminal.Report
