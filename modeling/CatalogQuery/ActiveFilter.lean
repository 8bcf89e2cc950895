import CatalogQuery.Filter.Selection
import CatalogQuery.Query.Reader

/-! # The filter in force

A user applies one query after the other. The filter in force is the one of the last accepted query,
together with its text, until it is cleared. A query that is refused changes nothing.

Main definitions: `ActiveFilter` and its steps, `ActiveFilter.apply`, `ActiveFilter.applyOrClear`
and `ActiveFilter.clear`. -/

namespace CatalogQuery

/-- A filter and the query that it was read from. -/
structure Applied where
  query : String
  filter : Filter
  deriving DecidableEq, Repr

/-- The filter in force, if there is one. -/
structure ActiveFilter where
  current : Option Applied := none
  deriving DecidableEq, Repr

namespace ActiveFilter

def isActive (active : ActiveFilter) : Bool := active.current.isSome

/-- The query of the filter in force, exactly as it was given. -/
def query? (active : ActiveFilter) : Option String := active.current.map Applied.query

def filter? (active : ActiveFilter) : Option Filter := active.current.map Applied.filter

/-- The record passes: the filter in force holds of it, or there is none. -/
def passes (active : ActiveFilter) (keys : KeySet) (record : Json.Value) : Bool :=
  match active.filter? with
  | some filter => filter.holds keys record
  | none => true

/-! ## Steps -/

inductive Outcome where
  | applied (filter : Filter)
  | cleared
  | refused
  deriving DecidableEq, Repr

/-- Puts the filter of a query in force. -/
def apply (keys : KeySet) (query : String) (active : ActiveFilter) : Outcome × ActiveFilter :=
  match Query.read? keys query with
  | some filter => (.applied filter, { current := some ⟨query, filter⟩ })
  | none => (.refused, active)

def clear (_ : ActiveFilter) : Outcome × ActiveFilter := (.cleared, {})

def isBlankQuery (query : String) : Bool := (Text.trim query).isEmpty

/-- Puts the filter of a query in force. A blank query clears it. -/
def applyOrClear (keys : KeySet) (query : String) (active : ActiveFilter) :
    Outcome × ActiveFilter :=
  if isBlankQuery query then active.clear else active.apply keys query

/-- A change of the filter in force. Each query is read over keys of its own. -/
inductive Step where
  | apply (keys : KeySet) (query : String)
  | applyOrClear (keys : KeySet) (query : String)
  | clear

def take (active : ActiveFilter) : Step → Outcome × ActiveFilter
  | .apply keys query => active.apply keys query
  | .applyOrClear keys query => active.applyOrClear keys query
  | .clear => active.clear

/-- Takes one step after the other. Returns what comes of each of them and the filter in force
behind it. -/
def run (active : ActiveFilter) : List Step → List (Outcome × ActiveFilter)
  | [] => []
  | step :: steps =>
    let next := active.take step
    next :: next.2.run steps

end ActiveFilter

end CatalogQuery
