/-! # Filters

A filter is a tree of literals `key:value`, joined by conjunction, disjunction and negation.

Main definitions: `Filter`, `Filter.literalCount` and `Filter.depth`.
-/

namespace CatalogQuery

/-- A condition on records. -/
inductive Filter where
  /-- The field of the key holds a text that contains the value. -/
  | literal (key value : String)
  | and (left right : Filter)
  | or (left right : Filter)
  | not (child : Filter)
  deriving DecidableEq, Repr

namespace Filter

def literalCount : Filter → Nat
  | .literal _ _ => 1
  | .and left right => left.literalCount + right.literalCount
  | .or left right => left.literalCount + right.literalCount
  | .not child => child.literalCount

/-- The number of nodes on the longest way from the root to a literal. -/
def depth : Filter → Nat
  | .literal _ _ => 1
  | .and left right => 1 + max left.depth right.depth
  | .or left right => 1 + max left.depth right.depth
  | .not child => 1 + child.depth

end Filter

end CatalogQuery
