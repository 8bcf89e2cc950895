import CatalogQuery.Proofs.Query.Brackets
import CatalogQuery.Proofs.Query.Spelling

/-! # Queries made of queries

A derivation does not see how the text goes on behind it, as long as a bare value at its end cannot
grow (`Derives.append`). So whole queries can be put together: in brackets they are operands, and
with `OR` between them they need none, since a disjunction on the right is only read from the left
(`Derives.join_or`). On records the operators are those of sets (`read?_compose`).
-/

namespace CatalogQuery.Query

/-! ## Derivations in front of more text -/

theorem Derives.append {keys : KeySet} {limit depth : Nat} {level : Level} {filter : Filter}
    {s rest tail : List Char} (derived : Derives keys limit level depth s filter rest)
    (stops : Stops isBareChar tail) :
    Derives keys limit level depth (s ++ tail) filter (rest ++ tail) := by
  induction derived with
  | or _ blanks keyword more _ left right =>
    exact .or left (blanks.append tail) (keyword.append tail) (more.append tail) right
  | ofConjunction _ same => exact .ofConjunction same
  | and _ blanks keyword more _ left right =>
    exact .and left (blanks.append tail) (keyword.append tail) (more.append tail) right
  | juxtaposed _ blanks _ left right => exact .juxtaposed left (blanks.append tail) right
  | ofNegation _ same => exact .ofNegation same
  | not keyword blanks _ child => exact .not (keyword.append tail) (blanks.append tail) child
  | ofOperand _ same => exact .ofOperand same
  | group room blanks _ closes inside =>
    exact .group room (blanks.append tail) inside (closes.append tail)
  | literal key blanks more value =>
    exact .literal (key.append tail) (blanks.append tail) (more.append tail) (value.append stops)

/-! ## Queries in brackets -/

/-- The query in brackets of its own. -/
def grouped (query : String) : String := "(" ++ query ++ ")"

section
variable {keys : KeySet} {query : String} {filter : Filter}

theorem read?_of_derives (derived : Derives keys maxNesting .disjunction 0 query.toList filter []) :
    read? keys query = some filter :=
  readWithin?_iff_derivesQuery.mpr ⟨_, [], .refl _, derived, .refl []⟩

/-- In brackets a query is an operand, if there is room for one more pair. -/
theorem DerivesQuery.enclosed {limit room : Nat}
    (derived : DerivesQuery keys limit query.toList filter)
    (within : bracketDepth query < room) (rest : List Char) :
    Derives keys room .operand 0 ((grouped query).toList ++ rest) filter rest := by
  obtain ⟨-, embeds⟩ := derived.within_bracketDepth
  obtain ⟨s, ending, blanks, derived, ends⟩ := embeds room 1 (by omega)
  have closes : Stops isBareChar (')' :: rest) := stops_cons.mpr (by decide)
  have split : (grouped query).toList ++ rest = '(' :: (query.toList ++ ')' :: rest) := by
    simp [grouped]
  rw [split]
  exact .group (by omega) (blanks.append _) (derived.append closes) (ends.append _)

theorem derives_grouped (reads : read? keys query = some filter)
    (room : bracketDepth query < maxNesting) (rest : List Char) :
    Derives keys maxNesting .operand 0 ((grouped query).toList ++ rest) filter rest :=
  (readWithin?_iff_derivesQuery.mp reads).enclosed room rest

end

section
variable {keys : KeySet} {query other : String} {first second : Filter}
variable (reads : read? keys query = some first) (room : bracketDepth query < maxNesting)
include reads room

theorem read?_not_grouped : read? keys ("NOT " ++ grouped query) = some (.not first) := by
  apply read?_of_derives
  have derived := derives_not (derives_grouped reads room [])
  simpa using Derives.ofConjunction (.ofNegation derived)

variable (otherReads : read? keys other = some second) (otherRoom : bracketDepth other < maxNesting)
include otherReads otherRoom

theorem read?_grouped_and :
    read? keys (grouped query ++ " AND " ++ grouped other) = some (.and first second) := by
  apply read?_of_derives
  have derived := derives_and (.ofNegation (.ofOperand (derives_grouped reads room _)))
    (.ofOperand (derives_grouped otherReads otherRoom []))
  simpa using Derives.ofConjunction derived

/-- The brackets separate the operands, with any blanks between them or none. -/
theorem read?_grouped_juxtaposed (between : String)
    (blank : ∀ c ∈ between.toList, Text.isBlank c = true) :
    read? keys (grouped query ++ between ++ grouped other) = some (.and first second) := by
  apply read?_of_derives
  have blanks : Blanks (between.toList ++ (grouped other).toList) (grouped other).toList :=
    ⟨between.toList, blank, rfl⟩
  have right := derives_grouped otherReads otherRoom []
  rw [List.append_nil] at right
  have derived := Derives.juxtaposed (.ofNegation (.ofOperand (derives_grouped reads room _)))
    blanks (.ofOperand right)
  simpa using Derives.ofConjunction derived

theorem read?_grouped_or :
    read? keys (grouped query ++ " OR " ++ grouped other) = some (.or first second) := by
  apply read?_of_derives
  have derived := derives_or
    (.ofConjunction (.ofNegation (.ofOperand (derives_grouped reads room _))))
    (.ofNegation (.ofOperand (derives_grouped otherReads otherRoom [])))
  simpa using derived

end

/-! ## Disjunctions of queries -/

/-- A disjunction behind `OR` is read operand by operand from the left, which gives another filter
that holds of the same records. -/
theorem Derives.join_or {keys : KeySet} {limit depth : Nat} {level : Level}
    {s middle word behind next rest : List Char} {left right : Filter}
    (first : Derives keys limit .disjunction depth s left middle) (blanks : Blanks middle word)
    (keyword : Keyword ['o', 'r'] word behind) (more : Blanks behind next)
    (second : Derives keys limit level depth next right rest) (loosest : level = .disjunction) :
    ∃ filter, Derives keys limit .disjunction depth s filter rest ∧
      ∀ record, filter.holds keys record = (left.holds keys record || right.holds keys record) := by
  -- The left of the second disjunction joins the first one, and its last operand stays behind it.
  induction second with
  | or _ between again beyond last inner _ =>
    obtain ⟨filter, derived, holds⟩ := inner first more rfl
    refine ⟨_, .or derived between again beyond last, fun record => ?_⟩
    simp only [Filter.holds, holds, Bool.or_assoc]
  | ofConjunction derived _ => exact ⟨_, .or first blanks keyword more derived, fun _ => rfl⟩
  | and | juxtaposed | ofNegation | not | ofOperand | group | literal => cases loosest

theorem read?_or {keys : KeySet} {query other : String} {first second : Filter}
    (reads : read? keys query = some first) (otherReads : read? keys other = some second) :
    ∃ filter, read? keys (query ++ " OR " ++ other) = some filter ∧ ∀ record,
      filter.holds keys record = (first.holds keys record || second.holds keys record) := by
  obtain ⟨s, middle, blanks, derived, ends⟩ := readWithin?_iff_derivesQuery.mp reads
  obtain ⟨next, rest, otherBlanks, otherDerived, otherEnds⟩ :=
    readWithin?_iff_derivesQuery.mp otherReads
  -- The blank in front of `OR` ends a bare value, so the first query is read as it was.
  have seam : Stops isBareChar (' ' :: 'O' :: 'R' :: ' ' :: other.toList) :=
    stops_cons.mpr (by decide)
  obtain ⟨filter, joined, holds⟩ := (derived.append seam).join_or
    ((ends.append _).trans (blanks_space _)) (keyword_or _)
    ((blanks_space _).trans otherBlanks) otherDerived rfl
  refine ⟨filter, readWithin?_iff_derivesQuery.mpr ⟨_, rest, ?_, joined, otherEnds⟩, holds⟩
  have split : (query ++ " OR " ++ other).toList =
      query.toList ++ ' ' :: 'O' :: 'R' :: ' ' :: other.toList := by simp
  rw [split]
  exact blanks.append _

/-! ## Operators on queries are operators on sets of records -/

/-- Queries compose as sets of records do. With `OR` between them two queries select what either of
them selects, in the order of the records. In brackets they are the operands of any operator:
conjunction selects with one query after the other, and negation selects what the query leaves. -/
theorem read?_compose (keys : KeySet) (query other : String) (first second : Filter)
    (records : List Json.Value) (reads : read? keys query = some first)
    (otherReads : read? keys other = some second) :
    (∃ filter, read? keys (query ++ " OR " ++ other) = some filter ∧
      filter.select keys records =
        records.filter fun record => first.holds keys record || second.holds keys record) ∧
    (bracketDepth query < maxNesting → bracketDepth other < maxNesting →
      read? keys (grouped query ++ " AND " ++ grouped other) = some (.and first second) ∧
      read? keys (grouped query ++ " " ++ grouped other) = some (.and first second) ∧
      read? keys (grouped query ++ grouped other) = some (.and first second) ∧
      read? keys (grouped query ++ " OR " ++ grouped other) = some (.or first second) ∧
      read? keys ("NOT " ++ grouped query) = some (.not first)) ∧
    (Filter.and first second).select keys records = second.select keys (first.select keys records) ∧
    (Filter.or first second).select keys records =
      records.filter (fun record => first.holds keys record || second.holds keys record) ∧
    (Filter.not first).select keys records =
      records.filter (fun record => !first.holds keys record) ∧
    ∀ record ∈ records, record ∈ (Filter.not first).select keys records ↔
      record ∉ first.select keys records := by
  refine ⟨?_, fun room otherRoom => ?_, ?_, rfl, rfl, ?_⟩
  · obtain ⟨filter, joined, holds⟩ := read?_or reads otherReads
    refine ⟨filter, joined, ?_⟩
    simp only [Filter.select, holds]
  · have adjacent := read?_grouped_juxtaposed reads room otherReads otherRoom "" nofun
    rw [String.append_empty] at adjacent
    exact ⟨read?_grouped_and reads room otherReads otherRoom,
      read?_grouped_juxtaposed reads room otherReads otherRoom " " (List.all_eq_true.mp rfl),
      adjacent, read?_grouped_or reads room otherReads otherRoom, read?_not_grouped reads room⟩
  · simp only [Filter.select, Filter.holds, List.filter_filter, Bool.and_comm]
  · intro record member
    simp [Filter.select, Filter.holds, member]

/-- Two queries with operators, the first of them with more blanks than necessary. -/
theorem read?_compose_operators :
    let query := " name:a or tag:b "
    let other := "(not name:c) or tag:d"
    let first := Filter.or (.literal "name" "a") (.literal "tag" "b")
    let second := Filter.or (.not (.literal "name" "c")) (.literal "tag" "d")
    let abacus := Json.Value.object [("name", .string "Abacus")]
    let core := Json.Value.object [("name", .string "core")]
    let disk := Json.Value.object [("tags", .array [.string "disk"])]
    read? .standard query = some first ∧ read? .standard other = some second ∧
      bracketDepth query < maxNesting ∧ bracketDepth other < maxNesting ∧
      (∃ filter, read? .standard (query ++ " OR " ++ other) = some filter ∧
        filter.select .standard [disk, core, abacus, disk] = [disk, abacus, disk]) ∧
      read? .standard (grouped query ++ grouped other) = some (.and first second) ∧
      core ∈ (Filter.not first).select .standard [disk, core, abacus, disk] := by
  intro query other first second abacus core disk
  have reads : read? .standard query = some first := by decide +kernel
  have otherReads : read? .standard other = some second := by decide +kernel
  have room : bracketDepth query < maxNesting := by decide +kernel
  have otherRoom : bracketDepth other < maxNesting := by decide +kernel
  obtain ⟨either, both, -, -, -, complement⟩ :=
    read?_compose .standard query other first second [disk, core, abacus, disk] reads otherReads
  have nowhere : first.select .standard [disk, core, abacus, disk] = [abacus] := rfl
  have unselected := (complement core (by simp)).mpr (by simp [nowhere, core, abacus])
  exact ⟨reads, otherReads, room, otherRoom, either, (both room otherRoom).2.2.1, unselected⟩

end CatalogQuery.Query
