import CatalogQuery.Json.Value

/-! # Records

A record is a JSON value. Its fields are the members of an object; any other value has none. A field
holds the texts of the scalars in it.

Main definition: `Record.texts`.
-/

namespace CatalogQuery.Record

/-- The text of a scalar. `null` and containers have none. -/
def scalarText? : Json.Value → Option String
  | .string s => some s
  | .number n => some n.text
  | .bool b => some (Json.boolText b)
  | .null | .array _ | .object _ => none

/-- The texts that a value holds: those of the items of a list, or its own. -/
def valueTexts : Json.Value → List String
  | .array items => items.filterMap scalarText?
  | value => (scalarText? value).toList

/-- The texts that a record holds under a field. -/
def texts (record : Json.Value) (field : String) : List String :=
  match record.member? field with
  | some value => valueTexts value
  | none => []

end CatalogQuery.Record
