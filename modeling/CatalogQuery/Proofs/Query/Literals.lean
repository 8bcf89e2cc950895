import CatalogQuery.Filter.Selection
import CatalogQuery.Proofs.Query.Exactness

/-! # The literals of a query

Every literal that is read has a key of the key set and a value that can stand between quotes. Apart
from that the key set does not matter: with other keys around, the same text is derived for the same
filter (`Derives.of_keys`). A query therefore keeps its meaning when keys are added, also keys that
are spelt like a keyword (`read?_extend_keys`).
-/

namespace CatalogQuery

/-- The keys and values of the literals, from left to right. -/
def Filter.literals : Filter → List (String × String)
  | .literal key value => [(key, value)]
  | .and left right => left.literals ++ right.literals
  | .or left right => left.literals ++ right.literals
  | .not child => child.literals

theorem Filter.holds_congr {filter : Filter} {keys other : KeySet} {record : Json.Value}
    (agree : ∀ literal ∈ filter.literals, keys.field? literal.1 = other.field? literal.1) :
    filter.holds keys record = filter.holds other record := by
  induction filter with
  | literal key value =>
    have same := agree (key, value) List.mem_cons_self
    simp only [holds, same]
  | and left right leftSame rightSame | or left right leftSame rightSame =>
    simp only [literals, List.forall_mem_append] at agree
    simp only [holds, leftSame agree.1, rightSame agree.2]
  | not child same => simp only [holds, same agree]

namespace Query

/-- A query over the key set can have the literal. -/
structure Expressible (keys : KeySet) (literal : String × String) : Prop where
  known : literal.1 ∈ keys.keys
  nonempty : literal.2 ≠ ""
  quoteless : '"' ∉ literal.2.toList

section
variable {keys : KeySet} {limit depth : Nat} {level : Level} {s rest : List Char}

theorem Value.expressible {value : String} (derived : Value s value rest) :
    value ≠ "" ∧ '"' ∉ value.toList := by
  cases derived with
  | quoted nonempty quoteless => simpa using ⟨nonempty, quoteless⟩
  | bare nonempty inside _ =>
    refine ⟨by simpa using nonempty, fun quote => ?_⟩
    have bare := inside '"' (by simpa using quote)
    exact absurd bare (by decide)

theorem Derives.expressible {filter : Filter}
    (derived : Derives keys limit level depth s filter rest) :
    ∀ literal ∈ filter.literals, Expressible keys literal := by
  induction derived with
  | or _ _ _ _ _ left right | and _ _ _ _ _ left right | juxtaposed _ _ _ left right =>
    exact List.forall_mem_append.mpr ⟨left, right⟩
  | ofConjunction _ same | ofNegation _ same | ofOperand _ same => exact same
  | not _ _ _ child => exact child
  | group _ _ _ _ inside => exact inside
  | literal key _ _ value =>
    obtain ⟨_, _, _, _, _, known⟩ := key
    obtain ⟨nonempty, quoteless⟩ := value.expressible
    intro literal member
    rw [Filter.literals, List.mem_singleton] at member
    subst member
    exact ⟨known, nonempty, quoteless⟩

/-- The first literal of a part has a colon. -/
theorem Derives.mem_colon {filter : Filter}
    (derived : Derives keys limit level depth s filter rest) : ':' ∈ s := by
  induction derived with
  | or _ _ _ _ _ left _ | and _ _ _ _ _ left _ | juxtaposed _ _ _ left _ => exact left
  | ofConjunction _ same | ofNegation _ same | ofOperand _ same => exact same
  | not keyword blanks _ child =>
    obtain ⟨letters, -, rfl, -⟩ := keyword
    obtain ⟨taken, -, rfl⟩ := blanks
    exact List.mem_append_right _ (List.mem_append_right _ child)
  | group _ blanks _ _ inside =>
    obtain ⟨taken, -, rfl⟩ := blanks
    exact List.mem_cons_of_mem _ (List.mem_append_right _ inside)
  | literal key blanks _ _ =>
    obtain ⟨word, -, -, rfl, -⟩ := key
    obtain ⟨taken, -, rfl⟩ := blanks
    exact List.mem_append_right _ (List.mem_append_right _ List.mem_cons_self)

/-- A derivation uses no keys but those of its literals. -/
theorem Derives.of_keys {other : KeySet} {filter : Filter}
    (derived : Derives keys limit level depth s filter rest)
    (known : ∀ literal ∈ filter.literals, literal.1 ∈ other.keys) :
    Derives other limit level depth s filter rest := by
  induction derived with
  | or _ blanks keyword more _ left right =>
    obtain ⟨leftKnown, rightKnown⟩ := List.forall_mem_append.mp known
    exact .or (left leftKnown) blanks keyword more (right rightKnown)
  | ofConjunction _ same => exact .ofConjunction (same known)
  | and _ blanks keyword more _ left right =>
    obtain ⟨leftKnown, rightKnown⟩ := List.forall_mem_append.mp known
    exact .and (left leftKnown) blanks keyword more (right rightKnown)
  | juxtaposed _ blanks _ left right =>
    obtain ⟨leftKnown, rightKnown⟩ := List.forall_mem_append.mp known
    exact .juxtaposed (left leftKnown) blanks (right rightKnown)
  | ofNegation _ same => exact .ofNegation (same known)
  | not keyword blanks _ child => exact .not keyword blanks (child known)
  | ofOperand _ same => exact .ofOperand (same known)
  | group room blanks _ closes inside => exact .group room blanks (inside known) closes
  | literal key blanks more value =>
    obtain ⟨word, nonempty, inside, split, spelling, -⟩ := key
    exact .literal ⟨word, nonempty, inside, split, spelling, known _ List.mem_cons_self⟩
      blanks more value

end

theorem read?_expressible {keys : KeySet} {query : String} {filter : Filter}
    (read : read? keys query = some filter) :
    ∀ literal ∈ filter.literals, Expressible keys literal := by
  obtain ⟨_, _, -, derived, -⟩ := readWithin?_iff_derivesQuery.mp read
  exact derived.expressible

theorem read?_mem_colon {keys : KeySet} {query : String} {filter : Filter}
    (read : read? keys query = some filter) : ':' ∈ query.toList := by
  obtain ⟨s, rest, blanks, derived, -⟩ := readWithin?_iff_derivesQuery.mp read
  obtain ⟨taken, -, split⟩ := blanks
  rw [split]
  exact List.mem_append_right _ derived.mem_colon

theorem read?_of_keys {keys other : KeySet} {query : String} {filter : Filter}
    (read : read? keys query = some filter)
    (known : ∀ literal ∈ filter.literals, literal.1 ∈ other.keys) :
    read? other query = some filter := by
  obtain ⟨s, rest, blanks, derived, ends⟩ := readWithin?_iff_derivesQuery.mp read
  exact readWithin?_iff_derivesQuery.mpr ⟨s, rest, blanks, derived.of_keys known, ends⟩

/-- More keys add queries and change none: a query over the larger key set is one over the smaller
key set exactly if its literals are, and a query with a removed key is refused. Where the common
keys stand for the same fields, a query of both holds of the same records. -/
theorem read?_extend_keys (small large : KeySet) (contained : ∀ key ∈ small.keys, key ∈ large.keys)
    (query : String) (filter : Filter) :
    (read? small query = some filter ↔
      read? large query = some filter ∧ ∀ literal ∈ filter.literals, literal.1 ∈ small.keys) ∧
    (read? large query = some filter →
      (read? small query = none ↔ ∃ literal ∈ filter.literals, literal.1 ∉ small.keys)) ∧
    (read? small query = some filter →
      (∀ key ∈ small.keys, small.field? key = large.field? key) →
      ∀ record, filter.holds small record = filter.holds large record) := by
  have conservative : ∀ filter, read? small query = some filter ↔
      read? large query = some filter ∧ ∀ literal ∈ filter.literals, literal.1 ∈ small.keys := by
    intro filter
    constructor
    · intro read
      have known := fun literal member => (read?_expressible read literal member).known
      exact ⟨read?_of_keys read fun literal member => contained _ (known literal member), known⟩
    · rintro ⟨read, known⟩
      exact read?_of_keys read known
  -- The refusal needs this for every filter, since the smaller key set might read another one.
  refine ⟨conservative filter, ?_, ?_⟩
  · intro read
    constructor
    · intro refused
      apply Classical.byContradiction
      intro known
      simp only [not_exists, not_and, Classical.not_not] at known
      have accepted := (conservative filter).mpr ⟨read, known⟩
      rw [refused] at accepted
      contradiction
    · rintro ⟨literal, member, unknown⟩
      cases accepted : read? small query with
      | none => rfl
      | some found =>
        obtain ⟨same, known⟩ := (conservative found).mp accepted
        rw [read, Option.some.injEq] at same
        subst same
        exact absurd (known literal member) unknown
  · intro read agree record
    exact Filter.holds_congr fun literal member =>
      agree _ (read?_expressible read literal member).known

/-- A query with the key `name` alone, and keys that are spelt like the operators in it. -/
theorem read?_extend_keys_operators :
    let small : KeySet := { entries := [("name", "title")] }
    let large : KeySet := { entries := [("and", "x"), ("name", "title"), ("not", "y"), ("or", "z")] }
    let query := "name:a and (name:b) or not name:c"
    let filter := Filter.or (.and (.literal "name" "a") (.literal "name" "b"))
      (.not (.literal "name" "c"))
    (∀ key ∈ small.keys, key ∈ large.keys) ∧ read? small query = some filter ∧
      read? large query = some filter ∧
      ∀ record, filter.holds small record = filter.holds large record := by
  intro small large query filter
  have contained : ∀ key ∈ small.keys, key ∈ large.keys := by decide
  have read : read? small query = some filter := by decide +kernel
  have agree : ∀ key ∈ small.keys, small.field? key = large.field? key := by decide
  obtain ⟨conservative, -, holds⟩ := read?_extend_keys small large contained query filter
  exact ⟨contained, read, (conservative.mp read).1, holds read agree⟩

end Query

end CatalogQuery
