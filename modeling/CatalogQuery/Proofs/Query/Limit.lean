import CatalogQuery.Proofs.Query.Chains
import CatalogQuery.Proofs.Query.Unlimited

/-! # What the limit refuses

The limit on open brackets refuses queries and changes none: a query is read under the limit exactly
if it is read without one and opens no more brackets at the same time than the limit allows
(`read?_eq_some_iff_readFreely?`). Each pair of brackets around a query counts for one, and groups
that stand beside each other count for no more than the deepest of them (`read?_within_limit`).
-/

namespace CatalogQuery.Query

/-! ## Limits and depths -/

section
variable {keys : KeySet} {limit : Nat} {query : String} {filter : Filter}

theorem derivesQuery_iff_bracketDepth :
    DerivesQuery keys limit query.toList filter ↔
      (∃ other, DerivesQuery keys other query.toList filter) ∧ bracketDepth query ≤ limit := by
  constructor
  · exact fun derived => ⟨⟨limit, derived⟩, derived.within_bracketDepth.1⟩
  · rintro ⟨⟨other, derived⟩, within⟩
    exact derived.within_bracketDepth.2 limit 0 (by omega)

theorem readFreely?_iff_derivesQuery :
    readFreely? keys query = some filter ↔
      ∃ limit, DerivesQuery keys limit query.toList filter := by
  constructor
  · intro reads
    rw [readFreely?_eq (Nat.le_refl _)] at reads
    exact ⟨_, readWithin?_iff_derivesQuery.mp reads⟩
  · rintro ⟨limit, derived⟩
    rw [readFreely?_eq (Nat.le_add_left _ limit), readWithin?_iff_derivesQuery,
      derivesQuery_iff_bracketDepth]
    exact ⟨⟨limit, derived⟩, Nat.le_trans derived.within_bracketDepth.1 (Nat.le_add_right _ _)⟩

theorem read?_eq_some_iff_readFreely? :
    read? keys query = some filter ↔
      readFreely? keys query = some filter ∧ bracketDepth query ≤ maxNesting := by
  -- Both sides speak of derivations, and a derivation fits under every limit that its text allows.
  rw [read?, readWithin?_iff_derivesQuery, derivesQuery_iff_bracketDepth,
    readFreely?_iff_derivesQuery]

theorem read?_of_readFreely? (reads : readFreely? keys query = some filter) :
    read? keys query = if bracketDepth query ≤ maxNesting then some filter else none := by
  split
  · next within => exact read?_eq_some_iff_readFreely?.mpr ⟨reads, within⟩
  · next beyond =>
    rw [Option.eq_none_iff_forall_ne_some]
    exact fun found read => beyond (read?_eq_some_iff_readFreely?.mp read).2

theorem DerivesQuery.balanced (derived : DerivesQuery keys limit query.toList filter) :
    Balanced query.toList [] (bracketDepth query) := by
  obtain ⟨s, rest, blanks, derived, ends⟩ := derived
  obtain ⟨height, balanced, -, -⟩ := derived.portable
  obtain ⟨whole, depth⟩ := balanced.between_blanks blanks ends
  rwa [depth]

theorem Balanced.append {s rest : List Char} {height : Nat} (balanced : Balanced s rest height)
    (tail : List Char) : Balanced (s ++ tail) (rest ++ tail) height := by
  obtain ⟨taken, rfl, places⟩ := balanced
  exact ⟨taken, List.append_assoc _ _ _, places⟩

/-- What stands behind a query opens its brackets from the outset. -/
theorem DerivesQuery.bracketDepth_append (derived : DerivesQuery keys limit query.toList filter)
    (text : String) :
    bracketDepth (query ++ text) = max (bracketDepth query) (bracketDepth text) := by
  obtain ⟨taken, whole, places⟩ := derived.balanced
  obtain ⟨ends, -⟩ := places 0
  rw [List.append_nil] at whole
  rw [bracketDepth, String.toList_append, Place.deepest_append, whole, ends, ← whole]
  rfl

/-! ## Brackets around a query -/

theorem DerivesQuery.balanced_enclosed (derived : DerivesQuery keys limit query.toList filter)
    (rest : List Char) :
    Balanced ((grouped query).toList ++ rest) rest (bracketDepth query + 1) := by
  have split : (grouped query).toList ++ rest = '(' :: (query.toList ++ ')' :: rest) := by
    simp [grouped]
  rw [split]
  exact (derived.balanced.append (')' :: rest)).group

theorem DerivesQuery.repeat_enclosed (derived : DerivesQuery keys limit query.toList filter)
    (n : Nat) :
    (∃ other, DerivesQuery keys other (Nat.repeat grouped n query).toList filter) ∧
      bracketDepth (Nat.repeat grouped n query) = n + bracketDepth query := by
  induction n with
  | zero => exact ⟨⟨limit, derived⟩, (Nat.zero_add _).symm⟩
  | succ n ih =>
    obtain ⟨⟨other, inner⟩, depth⟩ := ih
    have balanced := inner.balanced_enclosed []
    have enclosed := inner.enclosed (Nat.lt_succ_of_le inner.within_bracketDepth.1) []
    rw [List.append_nil] at balanced enclosed
    refine ⟨⟨other + 1, _, [], .refl _, enclosed.loosen (Nat.zero_le _), .refl []⟩, ?_⟩
    rw [Nat.repeat, bracketDepth, balanced.deepest_eq (Blanks.refl []).balanced, depth]
    omega

theorem readFreely?_repeat (reads : readFreely? keys query = some filter) (n : Nat) :
    readFreely? keys (Nat.repeat grouped n query) = some filter ∧
      bracketDepth (Nat.repeat grouped n query) = n + bracketDepth query := by
  obtain ⟨limit, derived⟩ := readFreely?_iff_derivesQuery.mp reads
  obtain ⟨enclosed, depth⟩ := derived.repeat_enclosed n
  exact ⟨readFreely?_iff_derivesQuery.mpr enclosed, depth⟩

end

/-! ## Groups beside each other -/

/-- A query that stands in brackets. -/
structure Group (keys : KeySet) where
  query : String
  filter : Filter
  reads : readFreely? keys query = some filter

/-- A further group, with the connective in front of it. -/
structure Sibling (keys : KeySet) where
  connective : Connective
  between : List Char
  connects : Connects connective between
  group : Group keys

def siblingText {keys : KeySet} : List (Sibling keys) → List Char
  | [] => []
  | sibling :: siblings =>
    sibling.between ++ ((grouped sibling.group.query).toList ++ siblingText siblings)

/-- The query of a group and the groups beside it. -/
def siblingQuery {keys : KeySet} (first : Group keys) (siblings : List (Sibling keys)) : String :=
  String.ofList ((grouped first.query).toList ++ siblingText siblings)

/-- What a group adds to the filter of those in front of it. -/
def Sibling.part {keys : KeySet} (sibling : Sibling keys) : Connective × Filter :=
  (sibling.connective, sibling.group.filter)

/-- The most brackets that groups open at the same time. -/
def siblingDepth {keys : KeySet} : List (Sibling keys) → Nat
  | [] => 0
  | sibling :: siblings => max (bracketDepth sibling.group.query + 1) (siblingDepth siblings)

/-- There is room for the brackets of the group. -/
def Group.Fits {keys : KeySet} (group : Group keys) : Prop := bracketDepth group.query < maxNesting

section
variable {keys : KeySet}

theorem Connects.balanced {connective : Connective} {between : List Char}
    (connects : Connects connective between) (rest : List Char) :
    Balanced (between ++ rest) rest 0 := by
  cases connects with
  | or spelt =>
    have keyword := (keyword_of_letters spelt rest).balanced lettered_or
    simpa using ((blanks_space _).balanced.trans keyword).trans (blanks_space rest).balanced
  | and spelt =>
    have keyword := (keyword_of_letters spelt rest).balanced lettered_and
    simpa using ((blanks_space _).balanced.trans keyword).trans (blanks_space rest).balanced
  | blank => exact (blanks_space rest).balanced

theorem Group.balanced (group : Group keys) (rest : List Char) :
    Balanced ((grouped group.query).toList ++ rest) rest (bracketDepth group.query + 1) := by
  obtain ⟨limit, derived⟩ := readFreely?_iff_derivesQuery.mp group.reads
  exact derived.balanced_enclosed rest

theorem balanced_siblingText (siblings : List (Sibling keys)) :
    Balanced (siblingText siblings) [] (siblingDepth siblings) := by
  induction siblings with
  | nil => exact (Blanks.refl []).balanced
  | cons sibling siblings ih =>
    have own := (sibling.connects.balanced _).trans (sibling.group.balanced (siblingText siblings))
    rw [Nat.zero_max] at own
    exact own.trans ih

theorem bracketDepth_siblingQuery (first : Group keys) (siblings : List (Sibling keys)) :
    bracketDepth (siblingQuery first siblings) =
      max (bracketDepth first.query + 1) (siblingDepth siblings) := by
  have balanced := (first.balanced _).trans (balanced_siblingText siblings)
  rw [bracketDepth, siblingQuery, String.toList_ofList]
  exact balanced.deepest_eq (Blanks.refl []).balanced

theorem siblingDepth_le_iff {siblings : List (Sibling keys)} :
    siblingDepth siblings ≤ maxNesting ↔ ∀ sibling ∈ siblings, sibling.group.Fits := by
  induction siblings with
  | nil => simp [siblingDepth]
  | cons sibling siblings ih =>
    rw [siblingDepth, Nat.max_le, ih, List.forall_mem_cons]
    rfl

/-- A group with room for its brackets is a term of a chain. -/
def Group.term (group : Group keys) (fits : group.Fits) : Term keys where
  text := (grouped group.query).toList
  filter := group.filter
  spells := .operand (.grouped
    (read?_eq_some_iff_readFreely?.mpr ⟨group.reads, Nat.le_of_lt fits⟩) fits)

theorem exists_links {siblings : List (Sibling keys)}
    (fit : ∀ sibling ∈ siblings, sibling.group.Fits) : ∃ links : List (Link keys),
    linkText links = siblingText siblings ∧ links.map Link.part = siblings.map Sibling.part := by
  induction siblings with
  | nil => exact ⟨[], rfl, rfl⟩
  | cons sibling siblings ih =>
    obtain ⟨fits, more⟩ := List.forall_mem_cons.mp fit
    obtain ⟨links, text, parts⟩ := ih more
    let link : Link keys :=
      ⟨sibling.connective, sibling.between, sibling.connects, sibling.group.term fits⟩
    refine ⟨link :: links, ?_, ?_⟩
    · rw [linkText, text]
      rfl
    · rw [List.map_cons, parts]
      rfl

theorem read?_siblingQuery_eq_some_iff {first : Group keys} {siblings : List (Sibling keys)}
    {filter : Filter} :
    read? keys (siblingQuery first siblings) = some filter ↔
      (first.Fits ∧ ∀ sibling ∈ siblings, sibling.group.Fits) ∧
        chainFilter first.filter (siblings.map Sibling.part) = filter := by
  have reads : first.Fits → (∀ sibling ∈ siblings, sibling.group.Fits) →
      read? keys (siblingQuery first siblings) =
        some (chainFilter first.filter (siblings.map Sibling.part)) := by
    intro fits fit
    obtain ⟨links, text, parts⟩ := exists_links fit
    apply read?_of_derives
    rw [siblingQuery, String.toList_ofList, ← text, ← parts]
    exact derives_links links (fun _ _ => .ofConjunction)
      (.ofNegation ((first.term fits).derives (stops_linkText links)))
  constructor
  · intro read
    -- Too deep a group makes the whole text too deep, and the limit refuses that.
    have within := (read?_eq_some_iff_readFreely?.mp read).2
    rw [bracketDepth_siblingQuery, Nat.max_le, siblingDepth_le_iff] at within
    exact ⟨within, Option.some.inj ((reads within.1 within.2).symm.trans read)⟩
  · rintro ⟨⟨fits, fit⟩, rfl⟩
    exact reads fits fit

end

/-- The limit only refuses. Reading without it is the one solution of the equation for operands, and
reading under it finds the same filter or none, as the brackets decide that are open at the same
time in the text. So `n` more pairs around a query are allowed exactly if they fit, and groups
beside each other, however many, exactly if each of them fits. -/
theorem read?_within_limit (keys : KeySet) :
    Unlimited keys (freeOperand? keys) ∧
    (∀ operand, Unlimited keys operand → operand = freeOperand? keys) ∧
    (∀ query filter, read? keys query = some filter ↔
      readFreely? keys query = some filter ∧ bracketDepth query ≤ maxNesting) ∧
    (∀ query, maxNesting < bracketDepth query → read? keys query = none) ∧
    (∀ query filter n, readFreely? keys query = some filter →
      read? keys (Nat.repeat grouped n query) =
        if n + bracketDepth query ≤ maxNesting then some filter else none) ∧
    (∀ query filter text, readFreely? keys query = some filter →
      bracketDepth (query ++ text) = max (bracketDepth query) (bracketDepth text)) ∧
    ∀ (first : Group keys) (siblings : List (Sibling keys)) (filter : Filter),
      read? keys (siblingQuery first siblings) = some filter ↔
        (first.Fits ∧ ∀ sibling ∈ siblings, sibling.group.Fits) ∧
          chainFilter first.filter (siblings.map Sibling.part) = filter := by
  refine ⟨unlimited_freeOperand? keys, fun operand unlimited => unlimited.eq_freeOperand?,
    fun query filter => read?_eq_some_iff_readFreely?, fun query beyond => ?_,
    fun query filter n reads => ?_, fun query filter text reads => ?_,
    fun first siblings filter => read?_siblingQuery_eq_some_iff⟩
  · rw [Option.eq_none_iff_forall_ne_some]
    exact fun found read => absurd (read?_eq_some_iff_readFreely?.mp read).2 (Nat.not_le.mpr beyond)
  · obtain ⟨enclosed, depth⟩ := readFreely?_repeat reads n
    rw [read?_of_readFreely? enclosed, depth]
  · obtain ⟨limit, derived⟩ := readFreely?_iff_derivesQuery.mp reads
    exact derived.bracketDepth_append text

/-- Groups beside each other, in as many brackets as the limit allows and in one pair more, and a
query that has room for no pair of brackets, so that it cannot be such a group. -/
theorem read?_within_limit_siblings :
    let query := "(name:a) oR ((tag:b)) (not owner:c)"
    let filter := Filter.or (.literal "name" "a")
      (.and (.literal "tag" "b") (.not (.literal "owner" "c")))
    ∃ (first : Group .standard) (siblings : List (Sibling .standard)) (deep : Sibling .standard),
      siblingQuery first siblings = query ∧
        read? .standard query = some filter ∧
        read? .standard (Nat.repeat grouped 126 query) = some filter ∧
        read? .standard (Nat.repeat grouped 127 query) = none ∧
        deep.group.query = Nat.repeat grouped 128 "tag:b" ∧
        read? .standard deep.group.query = some (.literal "tag" "b") ∧
        read? .standard (siblingQuery first [deep]) = none := by
  intro query filter
  obtain ⟨-, -, freely, -, enclosed, -, beside⟩ := read?_within_limit .standard
  let named : Group .standard := ⟨"name:a", .literal "name" "a", by decide +kernel⟩
  let tagged : Group .standard := ⟨"(tag:b)", .literal "tag" "b", by decide +kernel⟩
  let denied : Group .standard := ⟨"not owner:c", .not (.literal "owner" "c"), by decide +kernel⟩
  let siblings : List (Sibling .standard) :=
    [⟨.or, _, @Connects.or ['o', 'R'] rfl, tagged⟩, ⟨.and, _, .blank, denied⟩]
  have text : siblingQuery named siblings = query := by
    rw [← String.toList_inj]
    simp [siblingQuery, siblingText, siblings, query, named, tagged, denied, grouped]
  have fit : named.Fits ∧ ∀ sibling ∈ siblings, sibling.group.Fits := by
    simp only [siblings, Group.Fits, List.forall_mem_cons]
    decide +kernel
  have reads := (beside named siblings filter).mpr ⟨fit, rfl⟩
  rw [text] at reads
  have allowed := enclosed query filter 126 ((freely _ _).mp reads).1
  have refused := enclosed query filter 127 ((freely _ _).mp reads).1
  have depth : bracketDepth query = 2 := by decide +kernel
  rw [depth, if_pos (by decide)] at allowed
  rw [depth, if_neg (by decide)] at refused
  have single : readFreely? .standard "tag:b" = some (.literal "tag" "b") := by decide +kernel
  have flat : bracketDepth "tag:b" = 0 := by decide +kernel
  have full := enclosed "tag:b" (.literal "tag" "b") 128 single
  rw [flat, if_pos (by decide)] at full
  obtain ⟨nested, height⟩ := readFreely?_repeat single 128
  let deep : Sibling .standard := ⟨.or, _, @Connects.or ['o', 'R'] rfl, ⟨_, _, nested⟩⟩
  have tooDeep : ¬ deep.group.Fits := by
    simp only [Group.Fits, deep, height, flat]
    decide
  refine ⟨named, siblings, deep, text, reads, allowed, refused, rfl, full, ?_⟩
  rw [Option.eq_none_iff_forall_ne_some]
  intro found read
  have fits := ((beside named [deep] found).mp read).1.2
  exact tooDeep (fits deep List.mem_cons_self)

end CatalogQuery.Query
