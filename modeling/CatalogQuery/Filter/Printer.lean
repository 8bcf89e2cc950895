import CatalogQuery.Filter.Basic
import CatalogQuery.Json.Value
import CatalogQuery.Text.Blank

/-! # Texts of filters

A filter has two texts: a query in which every conjunction and every disjunction stands in brackets,
and a JSON object for each node.

Main definitions: `Filter.bracketed` and `Filter.toJson`.
-/

namespace CatalogQuery.Filter

def needsQuotes (c : Char) : Bool := Text.isBlank c || c == '(' || c == ')'

/-- The text of a literal, with quotes around its value where it would not be read as a whole. -/
def literalText (key value : String) : String :=
  if value.toList.any needsQuotes then key ++ ":\"" ++ value ++ "\"" else key ++ ":" ++ value

/-- The filter as a query with brackets around each conjunction and disjunction. -/
def bracketed : Filter → String
  | .literal key value => literalText key value
  | .and left right => "(" ++ left.bracketed ++ " AND " ++ right.bracketed ++ ")"
  | .or left right => "(" ++ left.bracketed ++ " OR " ++ right.bracketed ++ ")"
  | .not child => "NOT " ++ child.bracketed

/-- The filter as JSON. Each node is an object that begins with its type. -/
def toJson : Filter → Json.Value
  | .literal key value =>
    .object [("type", .string "literal"), ("key", .string key), ("value", .string value)]
  | .and left right =>
    .object [("type", .string "and"), ("left", left.toJson), ("right", right.toJson)]
  | .or left right =>
    .object [("type", .string "or"), ("left", left.toJson), ("right", right.toJson)]
  | .not child => .object [("type", .string "not"), ("child", child.toJson)]

end CatalogQuery.Filter
