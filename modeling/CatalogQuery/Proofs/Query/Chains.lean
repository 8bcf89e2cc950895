import CatalogQuery.Proofs.Query.Composition

/-! # Chains of operands

A query may be a chain: operands, negated or not, with a connective between each two of them. `OR`
cuts the chain into pieces. Each piece is joined to the left by conjunction, whether `AND` stands
there or a blank alone, and the pieces are joined to the left by disjunction (`read?_chain`).
-/

namespace CatalogQuery.Query

/-! ## The parts of a chain -/

/-- The text of a literal or of a query in brackets, and the filter that it stands for. -/
inductive Operand (keys : KeySet) : List Char → Filter → Prop
  | literal {word text : List Char} {key value : String} :
      Key keys word key [] → Value text value [] →
      Operand keys (word ++ ':' :: text) (.literal key value)
  | grouped {query : String} {filter : Filter} :
      read? keys query = some filter → bracketDepth query < maxNesting →
      Operand keys (grouped query).toList filter

theorem Operand.of_value {keys : KeySet} {key value : String} {text : List Char}
    (known : key ∈ keys.keys) (isValue : Value text value []) :
    Operand keys (key.toList ++ ':' :: text) (.literal key value) := by
  have isKey : Key keys (key.toList ++ []) key [] := key_of_mem known
  rw [List.append_nil] at isKey
  exact .literal isKey isValue

/-- The text of an operand, or of an operand behind `NOT`. -/
inductive Spells (keys : KeySet) : List Char → Filter → Prop
  | operand {text : List Char} {filter : Filter} :
      Operand keys text filter → Spells keys text filter
  | not {letters text : List Char} {filter : Filter} :
      letters.map Char.toLower = ['n', 'o', 't'] → Operand keys text filter →
      Spells keys (letters ++ ' ' :: text) (.not filter)

structure Term (keys : KeySet) where
  text : List Char
  filter : Filter
  spells : Spells keys text filter

inductive Connective where
  | or
  | and
  deriving DecidableEq

/-- The text between two terms, with the keyword in any letter case. A blank alone stands for
`AND`. -/
inductive Connects : Connective → List Char → Prop
  | or {letters : List Char} :
      letters.map Char.toLower = ['o', 'r'] → Connects .or (' ' :: (letters ++ [' ']))
  | and {letters : List Char} :
      letters.map Char.toLower = ['a', 'n', 'd'] → Connects .and (' ' :: (letters ++ [' ']))
  | blank : Connects .and [' ']

/-- A further term of a chain, with the connective in front of it. -/
structure Link (keys : KeySet) where
  connective : Connective
  between : List Char
  connects : Connects connective between
  term : Term keys

/-- What a link adds to the filter of a chain. -/
def Link.part {keys : KeySet} (link : Link keys) : Connective × Filter :=
  (link.connective, link.term.filter)

def linkText {keys : KeySet} : List (Link keys) → List Char
  | [] => []
  | link :: links => link.between ++ (link.term.text ++ linkText links)

/-- The chain of a term and the links behind it. -/
def chainText {keys : KeySet} (first : Term keys) (links : List (Link keys)) : String :=
  String.ofList (first.text ++ linkText links)

/-! ## The filter of a chain -/

/-- Cuts a chain in front of each `OR`: the rest of its first piece, and the pieces behind it. -/
def cut : List (Connective × Filter) → List Filter × List (Filter × List Filter)
  | [] => ([], [])
  | (.and, filter) :: parts => (filter :: (cut parts).1, (cut parts).2)
  | (.or, filter) :: parts => ([], (filter, (cut parts).1) :: (cut parts).2)

/-- The conjunction of a piece, joined to the left. -/
def conjoin (first : Filter) (more : List Filter) : Filter := more.foldl .and first

/-- The disjunction of the pieces, joined to the left, with the filter in front of them. -/
def disjoin (first : Filter) (pieces : List (Filter × List Filter)) : Filter :=
  (pieces.map fun piece => conjoin piece.1 piece.2).foldl .or first

/-- The filter of a chain with this first term. -/
def chainFilter (first : Filter) (parts : List (Connective × Filter)) : Filter :=
  disjoin (conjoin first (cut parts).1) (cut parts).2

/-! ## Chains are derived -/

section
variable {keys : KeySet} {rest : List Char}

theorem keyword_of_letters {word letters : List Char} (spelt : letters.map Char.toLower = word)
    (s : List Char) : Keyword word (letters ++ ' ' :: s) (' ' :: s) :=
  ⟨letters, spelt, rfl, ' ', s, rfl, .inl rfl⟩

theorem Operand.derives {text : List Char} {filter : Filter} (operand : Operand keys text filter)
    (stops : Stops isBareChar rest) :
    Derives keys maxNesting .operand 0 (text ++ rest) filter rest := by
  cases operand with
  | @literal word text key value isKey isValue =>
    have value := isValue.append stops
    have literal := isKey.append (':' :: (text ++ rest))
    rw [List.append_assoc]
    exact .literal literal (.refl _) (.refl _) value
  | grouped reads room => exact derives_grouped reads room rest

theorem Term.derives (term : Term keys) (stops : Stops isBareChar rest) :
    Derives keys maxNesting .negation 0 (term.text ++ rest) term.filter rest := by
  obtain ⟨text, filter, spells⟩ := term
  cases spells with
  | operand operand => exact .ofOperand (operand.derives stops)
  | not spelt operand =>
    rw [List.append_assoc]
    exact .not (keyword_of_letters spelt _) (blanks_space _) (operand.derives stops)

theorem stops_linkText (links : List (Link keys)) : Stops isBareChar (linkText links) := by
  cases links with
  | nil => exact stops_nil
  | cons link links =>
    obtain ⟨connective, between, connects, term⟩ := link
    cases connects with
    | or _ | and _ | blank => exact stops_cons.mpr (by decide)

/-- From a piece that has been read in part, the rest of the chain is derived. The reader may have a
disjunction in front of the piece, to which `complete` adds the whole of it. -/
theorem derives_links (links : List (Link keys)) {s piece : List Char} {join : Filter → Filter}
    {current : Filter}
    (complete : ∀ filter rest, Derives keys maxNesting .conjunction 0 piece filter rest →
      Derives keys maxNesting .disjunction 0 s (join filter) rest)
    (derived : Derives keys maxNesting .conjunction 0 piece current (linkText links)) :
    Derives keys maxNesting .disjunction 0 s
      (disjoin (join (conjoin current (cut (links.map Link.part)).1)) (cut (links.map Link.part)).2)
      [] := by
  induction links generalizing piece join current with
  | nil => exact complete _ _ derived
  | cons link links ih =>
    obtain ⟨connective, between, connects, term⟩ := link
    have next := term.derives (stops_linkText links)
    cases connects with
    | or spelt =>
      simp only [linkText, List.cons_append, List.append_assoc, List.nil_append] at derived
      have closed := complete _ _ derived
      -- The piece ends here, so it joins the disjunction, and the term begins the next one.
      refine ih (fun further rest reads => ?_) (.ofNegation next)
      exact .or closed (blanks_space _) (keyword_of_letters spelt _) (blanks_space _) reads
    | and spelt =>
      simp only [linkText, List.cons_append, List.append_assoc, List.nil_append] at derived
      exact ih complete
        (.and derived (blanks_space _) (keyword_of_letters spelt _) (blanks_space _) next)
    | blank =>
      simp only [linkText, List.cons_append, List.nil_append] at derived
      exact ih complete (.juxtaposed derived (blanks_space _) next)

end

/-- A chain of any length is read as the disjunction of its pieces, each of them the conjunction of
its terms, both joined to the left. So `AND` and a blank alone can stand for each other anywhere. -/
theorem read?_chain (keys : KeySet) (first : Term keys) (links : List (Link keys)) :
    read? keys (chainText first links) = some (chainFilter first.filter (links.map Link.part)) ∧
    ∀ others : List (Link keys), others.map Link.part = links.map Link.part →
      read? keys (chainText first others) = read? keys (chainText first links) := by
  have reads : ∀ links : List (Link keys), read? keys (chainText first links) =
      some (chainFilter first.filter (links.map Link.part)) := by
    intro links
    apply read?_of_derives
    rw [chainText, String.toList_ofList]
    exact derives_links links (fun _ _ => .ofConjunction)
      (.ofNegation (first.derives (stops_linkText links)))
  refine ⟨reads links, fun others same => ?_⟩
  rw [reads, reads, same]

/-- A quoted literal, a negated group and all three connectives. In the other chain a blank alone
and `AND` have changed places. -/
theorem read?_chain_connectives :
    let query := "name:\"a or b\" aNd nOt (tag:c OR tag:d) oR owner:e system:f"
    let other := "name:\"a or b\" nOt (tag:c OR tag:d) oR owner:e AND system:f"
    let group := Filter.or (.literal "tag" "c") (.literal "tag" "d")
    let filter := Filter.or (.and (.literal "name" "a or b") (.not group))
      (.and (.literal "owner" "e") (.literal "system" "f"))
    ∃ (first : Term .standard) (links others : List (Link .standard)),
      chainText first links = query ∧ chainText first others = other ∧
        others.map Link.part = links.map Link.part ∧
        read? .standard query = some filter ∧ read? .standard other = some filter := by
  intro query other group filter
  have known : ∀ key ∈ ["name", "owner", "system"], key ∈ KeySet.standard.keys := by decide +kernel
  have quoted := @Value.quoted "a or b".toList [] (by decide) (by decide)
  have owner := @Value.bare ['e'] [] (by decide) (List.all_eq_true.mp rfl) stops_nil
  have system := @Value.bare ['f'] [] (by decide) (List.all_eq_true.mp rfl) stops_nil
  have reads : read? .standard "tag:c OR tag:d" = some group := by decide +kernel
  have room : bracketDepth "tag:c OR tag:d" < maxNesting := by decide +kernel
  let named : Term .standard := ⟨_, _, .operand (.of_value (known "name" (by decide)) quoted)⟩
  let denied : Term .standard := ⟨_, _, @Spells.not _ ['n', 'O', 't'] _ _ rfl (.grouped reads room)⟩
  let owned : Term .standard := ⟨_, _, .operand (.of_value (known "owner" (by decide)) owner)⟩
  let placed : Term .standard := ⟨_, _, .operand (.of_value (known "system" (by decide)) system)⟩
  let next : Link .standard := ⟨.or, _, @Connects.or ['o', 'R'] rfl, owned⟩
  let links :=
    [⟨.and, _, @Connects.and ['a', 'N', 'd'] rfl, denied⟩, next, ⟨.and, _, .blank, placed⟩]
  let others :=
    [⟨.and, _, .blank, denied⟩, next, ⟨.and, _, @Connects.and ['A', 'N', 'D'] rfl, placed⟩]
  have text : chainText named links = query := rfl
  have otherText : chainText named others = other := rfl
  obtain ⟨chain, alike⟩ := read?_chain .standard named links
  have same := alike others rfl
  rw [text] at chain
  rw [text, otherText] at same
  exact ⟨named, links, others, text, otherText, rfl, chain, same.trans chain⟩

example (a b c d : Filter) : chainFilter a [(.and, b), (.or, c), (.and, d)] =
    .or (.and a b) (.and c d) := rfl

end CatalogQuery.Query
