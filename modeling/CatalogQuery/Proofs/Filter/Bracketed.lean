import CatalogQuery.Proofs.Query.RoundTrip

/-! # What the bracketed form says

The bracketed form of a filter determines the filter, also where it cannot be read as a query
(`bracketed_unambiguous`). The word of key characters at its beginning, and the character behind it,
tell which kind of filter it is, and a filter ends where a blank or a closing bracket comes next.
-/

namespace CatalogQuery

open Query (Stops stops_nil stops_cons eq_of_runs eq_of_quoteless_split)

namespace Filter

/-- Its literals have proper keys, and no quotes in their values. -/
def Spellable (filter : Filter) : Prop :=
  ∀ literal ∈ filter.literals, IsKey literal.1 ∧ '"' ∉ literal.2.toList

instance (filter : Filter) : Decidable filter.Spellable :=
  inferInstanceAs (Decidable (∀ literal ∈ filter.literals, IsKey literal.1 ∧ '"' ∉ literal.2.toList))

/-- The text is empty, or it begins with a space or a closing bracket. -/
def GoesOn (s : List Char) : Prop := ∀ c ∈ s.head?, c = ' ' ∨ c = ')'

/-- The text of a value in a literal. -/
def valueText (value : List Char) : List Char :=
  if value.any needsQuotes then '"' :: (value ++ ['"']) else value

/-- The character that ends the first word of a bracketed form. -/
def sign : Filter → Char
  | .literal _ _ => ':'
  | .and _ _ | .or _ _ => '('
  | .not _ => ' '

/-- Its bracketed form and what goes on behind it can be told apart, and no other filter has it. -/
def Decodes (first : Filter) : Prop :=
  ∀ {second : Filter} {rest behind : List Char}, second.Spellable → GoesOn rest → GoesOn behind →
    first.bracketed.toList ++ rest = second.bracketed.toList ++ behind →
    first = second ∧ rest = behind

section
variable {first second left right child : Filter} {key other value own : String}
  {rest behind : List Char}

theorem toList_bracketed_literal : (literal key value).bracketed.toList =
    key.toList ++ ':' :: valueText value.toList := by
  unfold bracketed literalText valueText
  split
  · simp
  · simp

theorem Spellable.literal (spellable : (Filter.literal key value).Spellable) :
    IsKey key ∧ '"' ∉ value.toList :=
  spellable (key, value) List.mem_cons_self

theorem spellable_and_iff : (left.and right).Spellable ↔ left.Spellable ∧ right.Spellable :=
  List.forall_mem_append

theorem spellable_or_iff : (left.or right).Spellable ↔ left.Spellable ∧ right.Spellable :=
  List.forall_mem_append

/-! ## Values -/

theorem valueText_of_quoted {value : List Char} (quoted : value.any needsQuotes = true) :
    valueText value = '"' :: (value ++ ['"']) :=
  if_pos quoted

theorem valueText_of_plain {value : List Char} (plain : value.any needsQuotes = false) :
    valueText value = value := by
  simp [valueText, plain]

theorem GoesOn.stops (goesOn : GoesOn rest) : Stops (fun c => !needsQuotes c) rest := by
  intro c member
  cases goesOn c member with
  | inl space => subst space; decide
  | inr close => subst close; decide

theorem valueText_plain_ne_quoted {value : List Char} (plain : value.any needsQuotes = false)
    (quoteless : '"' ∉ value) (goesOn : GoesOn rest) (tail : List Char) :
    valueText value ++ rest ≠ '"' :: tail := by
  rw [valueText_of_plain plain]
  intro same
  cases value with
  | nil =>
    rw [List.nil_append] at same
    subst same
    exact absurd (goesOn '"' rfl) (by decide)
  | cons c value =>
    obtain ⟨rfl, -⟩ := List.cons.inj same
    exact quoteless List.mem_cons_self

theorem valueText_append_inj {value own : List Char} (quoteless : '"' ∉ value)
    (ownQuoteless : '"' ∉ own) (goesOn : GoesOn rest) (alsoGoesOn : GoesOn behind)
    (same : valueText value ++ rest = valueText own ++ behind) : value = own ∧ rest = behind := by
  cases kind : value.any needsQuotes with
  | true =>
    rw [valueText_of_quoted kind] at same
    cases ownKind : own.any needsQuotes with
    | true =>
      rw [valueText_of_quoted ownKind] at same
      simp only [List.cons_append, List.append_assoc, List.nil_append, List.cons.injEq,
        true_and] at same
      exact eq_of_quoteless_split quoteless ownQuoteless same
    | false =>
      exact absurd same.symm (valueText_plain_ne_quoted ownKind ownQuoteless alsoGoesOn _)
  | false =>
    cases ownKind : own.any needsQuotes with
    | true =>
      rw [valueText_of_quoted ownKind] at same
      exact absurd same (valueText_plain_ne_quoted kind quoteless goesOn _)
    | false =>
      rw [valueText_of_plain kind, valueText_of_plain ownKind] at same
      have inside : ∀ {text : List Char}, text.any needsQuotes = false →
          ∀ c ∈ text, (!needsQuotes c) = true := by
        intro text plain c member
        simpa using List.any_eq_false.mp plain c member
      exact eq_of_runs (inside kind) goesOn.stops (inside ownKind) alsoGoesOn.stops same

/-! ## Filters -/

theorem dropWhile_bracketed (spellable : first.Spellable) (rest : List Char) :
    ∃ tail, (first.bracketed.toList ++ rest).dropWhile isKeyChar = first.sign :: tail := by
  have behindWord : ∀ (word : List Char) {c : Char} (tail : List Char),
      (∀ d ∈ word, isKeyChar d = true) → isKeyChar c = false →
      (word ++ c :: tail).dropWhile isKeyChar = c :: tail := by
    intro word c tail inside stops
    exact Query.dropWhile_of_stops inside (stops_cons.mpr stops)
  cases first with
  | literal key value =>
    rw [toList_bracketed_literal, List.append_assoc]
    exact ⟨_, behindWord _ _ spellable.literal.1.2 (by decide)⟩
  | and left right =>
    rw [toList_bracketed_and]
    exact ⟨_, behindWord [] _ nofun (by decide)⟩
  | or left right =>
    rw [toList_bracketed_or]
    exact ⟨_, behindWord [] _ nofun (by decide)⟩
  | not child =>
    rw [toList_bracketed_not]
    exact ⟨_, behindWord ['N', 'O', 'T'] _ (List.all_eq_true.mp rfl) (by decide)⟩

theorem sign_eq (spellable : first.Spellable) (alsoSpellable : second.Spellable)
    (same : first.bracketed.toList ++ rest = second.bracketed.toList ++ behind) :
    first.sign = second.sign := by
  obtain ⟨tail, reached⟩ := dropWhile_bracketed spellable rest
  obtain ⟨otherTail, alsoReached⟩ := dropWhile_bracketed alsoSpellable behind
  rw [same, alsoReached] at reached
  exact (List.cons.inj reached).1.symm

theorem literal_append_inj (spellable : (Filter.literal key value).Spellable)
    (alsoSpellable : (Filter.literal other own).Spellable) (goesOn : GoesOn rest)
    (alsoGoesOn : GoesOn behind)
    (same : (Filter.literal key value).bracketed.toList ++ rest =
      (Filter.literal other own).bracketed.toList ++ behind) :
    Filter.literal key value = .literal other own ∧ rest = behind := by
  obtain ⟨isKey, quoteless⟩ := spellable.literal
  obtain ⟨alsoKey, alsoQuoteless⟩ := alsoSpellable.literal
  have stops : ∀ tail, Stops isKeyChar (':' :: tail) := fun tail => stops_cons.mpr (by decide)
  simp only [toList_bracketed_literal, List.append_assoc, List.cons_append] at same
  obtain ⟨keys, texts⟩ := eq_of_runs isKey.2 (stops _) alsoKey.2 (stops _) same
  obtain ⟨values, rests⟩ := valueText_append_inj quoteless alsoQuoteless goesOn alsoGoesOn
    (List.cons.inj texts).2
  rw [String.toList_inj.mp keys, String.toList_inj.mp values]
  exact ⟨rfl, rests⟩

theorem goesOn_space (s : List Char) : GoesOn (' ' :: s) := by simp [GoesOn]

theorem goesOn_close (s : List Char) : GoesOn (')' :: s) := by simp [GoesOn]

theorem Decodes.operand (decodes : left.Decodes) (spellable : first.Spellable)
    (same : left.bracketed.toList ++ ' ' :: rest = first.bracketed.toList ++ ' ' :: behind) :
    left = first ∧ rest = behind := by
  obtain ⟨equal, rests⟩ := decodes spellable (goesOn_space _) (goesOn_space _) same
  exact ⟨equal, (List.cons.inj rests).2⟩

theorem Decodes.operands (leftDecodes : left.Decodes) (rightDecodes : right.Decodes)
    (firstSpells : first.Spellable) (secondSpells : second.Spellable) (operator : List Char)
    (same : left.bracketed.toList ++ ' ' :: (operator ++ (right.bracketed.toList ++ ')' :: rest)) =
      first.bracketed.toList ++ ' ' :: (operator ++ (second.bracketed.toList ++ ')' :: behind))) :
    left = first ∧ right = second ∧ rest = behind := by
  obtain ⟨lefts, more⟩ := leftDecodes.operand firstSpells same
  obtain ⟨rights, ends⟩ := rightDecodes secondSpells (goesOn_close _) (goesOn_close _)
    (List.append_cancel_left more)
  exact ⟨lefts, rights, (List.cons.inj ends).2⟩

theorem Spellable.decodes (spellable : first.Spellable) : first.Decodes := by
  intro second rest behind alsoSpellable goesOn alsoGoesOn same
  -- Both filters are of one kind, since their signs agree and then their operators do.
  induction first generalizing second rest behind with
  | literal key value =>
    have signs := sign_eq spellable alsoSpellable same
    cases second with
    | literal other own => exact literal_append_inj spellable alsoSpellable goesOn alsoGoesOn same
    | and _ _ | or _ _ | not _ => simp [sign] at signs
  | and left right leftDecodes rightDecodes =>
    have signs := sign_eq spellable alsoSpellable same
    obtain ⟨leftSpells, rightSpells⟩ := spellable_and_iff.mp spellable
    rw [toList_bracketed_and] at same
    cases second with
    | and first second =>
      obtain ⟨firstSpells, secondSpells⟩ := spellable_and_iff.mp alsoSpellable
      rw [toList_bracketed_and] at same
      simp only [List.cons_append, List.append_assoc, List.cons.injEq, true_and] at same
      obtain ⟨rfl, rfl, rests⟩ := Decodes.operands (leftDecodes leftSpells)
        (rightDecodes rightSpells) firstSpells secondSpells ['A', 'N', 'D', ' '] same
      exact ⟨rfl, rests⟩
    | or first second =>
      rw [toList_bracketed_or] at same
      simp only [List.cons_append, List.append_assoc, List.cons.injEq, true_and] at same
      have more := Decodes.operand (leftDecodes leftSpells) (spellable_or_iff.mp alsoSpellable).1 same
      simp at more
    | literal _ _ | not _ => simp [sign] at signs
  | or left right leftDecodes rightDecodes =>
    have signs := sign_eq spellable alsoSpellable same
    obtain ⟨leftSpells, rightSpells⟩ := spellable_or_iff.mp spellable
    rw [toList_bracketed_or] at same
    cases second with
    | and first second =>
      rw [toList_bracketed_and] at same
      simp only [List.cons_append, List.append_assoc, List.cons.injEq, true_and] at same
      have more :=
        Decodes.operand (leftDecodes leftSpells) (spellable_and_iff.mp alsoSpellable).1 same
      simp at more
    | or first second =>
      obtain ⟨firstSpells, secondSpells⟩ := spellable_or_iff.mp alsoSpellable
      rw [toList_bracketed_or] at same
      simp only [List.cons_append, List.append_assoc, List.cons.injEq, true_and] at same
      obtain ⟨rfl, rfl, rests⟩ := Decodes.operands (leftDecodes leftSpells)
        (rightDecodes rightSpells) firstSpells secondSpells ['O', 'R', ' '] same
      exact ⟨rfl, rests⟩
    | literal _ _ | not _ => simp [sign] at signs
  | not child childDecodes =>
    have signs := sign_eq spellable alsoSpellable same
    cases second with
    | not other =>
      have otherSpells : other.Spellable := alsoSpellable
      simp only [toList_bracketed_not, List.cons_append, List.cons.injEq, true_and] at same
      obtain ⟨rfl, rests⟩ := childDecodes spellable otherSpells goesOn alsoGoesOn same
      exact ⟨rfl, rests⟩
    | literal _ _ | and _ _ | or _ _ => simp [sign] at signs

theorem spellable_of_read? {keys : KeySet} {query : String} {filter : Filter}
    (read : Query.read? keys query = some filter) : filter.Spellable := by
  intro literal member
  have expressible := Query.read?_expressible read literal member
  exact ⟨(KeySet.isLowercaseKey_of_mem expressible.known).1, expressible.quoteless⟩

end

/-- Filters with proper keys and without quotes in their values have different bracketed forms, in
front of any texts that go on behind a filter. Every filter that is read from a query is such. -/
theorem bracketed_unambiguous :
    (∀ first second : Filter, first.Spellable → second.Spellable →
      (first.bracketed = second.bracketed → first = second) ∧
      ∀ rest behind : String, GoesOn rest.toList → GoesOn behind.toList →
        first.bracketed ++ rest = second.bracketed ++ behind → first = second ∧ rest = behind) ∧
    ∀ keys query filter, Query.read? keys query = some filter → filter.Spellable := by
  refine ⟨fun first second spellable alsoSpellable => ?_, fun _ _ _ => spellable_of_read?⟩
  have splits : ∀ rest behind : String, GoesOn rest.toList → GoesOn behind.toList →
      first.bracketed ++ rest = second.bracketed ++ behind → first = second ∧ rest = behind := by
    intro rest behind goesOn alsoGoesOn same
    rw [← String.toList_inj, String.toList_append, String.toList_append] at same
    obtain ⟨equal, rests⟩ := spellable.decodes alsoSpellable goesOn alsoGoesOn same
    exact ⟨equal, String.toList_inj.mp rests⟩
  refine ⟨fun same => ?_, splits⟩
  exact (splits "" "" nofun nofun (by rw [same])).1

/-- A value that is spelt like a filter stands between quotes, so it is not taken for that filter. -/
theorem bracketed_unambiguous_lookalikes :
    let first := Filter.and (.not (.not (.literal "and" "a"))) (.literal "or" "NOT")
    let second := Filter.and (.not (.literal "not" "NOT and:a")) (.literal "or" "NOT")
    first.Spellable ∧ second.Spellable ∧ first.bracketed ++ " OR" ≠ second.bracketed ++ ")" := by
  intro first second
  have spellable : first.Spellable := by decide
  have alsoSpellable : second.Spellable := by decide
  have splits := (bracketed_unambiguous.1 first second spellable alsoSpellable).2
  refine ⟨spellable, alsoSpellable, fun same => ?_⟩
  have equal := (splits " OR" ")" (goesOn_space _) (goesOn_close _) same).1
  exact absurd equal (by decide)

end Filter

end CatalogQuery
