import CatalogQuery.Filter.Basic
import CatalogQuery.KeySet
import CatalogQuery.Record
import CatalogQuery.Text.Search

/-! # Selecting records

A literal holds of a record that has, under the field of its key, a text that contains its value.
Letter case does not count.

Main definitions: `Filter.holds` and `Filter.select`.
-/

namespace CatalogQuery

/-- The text contains the other one, without regard to letter case. -/
def Text.containsFolded (text value : String) : Bool :=
  Text.occursIn (Text.lowercase value).toList (Text.lowercase text).toList

namespace Filter

/-- The filter holds of the record. A literal whose key is unknown holds of none. -/
def holds (keys : KeySet) (record : Json.Value) : Filter → Bool
  | .literal key value => match keys.field? key with
    | some field => (Record.texts record field).any fun text => Text.containsFolded text value
    | none => false
  | .and left right => left.holds keys record && right.holds keys record
  | .or left right => left.holds keys record || right.holds keys record
  | .not child => !child.holds keys record

/-- The records that the filter holds of, in their order. -/
def select (filter : Filter) (keys : KeySet) (records : List Json.Value) : List Json.Value :=
  records.filter fun record => filter.holds keys record

end Filter

end CatalogQuery
