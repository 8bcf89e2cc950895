import CatalogQuery.Proofs.Query.Colons
import CatalogQuery.Proofs.Query.Spacing
import Mathlib.Logic.Relation

/-! # Whitespace is insignificant

The changes to the blanks of a text that no query notices, one change at a time. Outside of quotes
they keep the words and the brackets (`Respaces.respaced`), so they change neither what a query
means nor whether a text is one. In a query, the blanks beside the colon of a literal can change as
well (`read?_respaced`).
-/

namespace CatalogQuery.Query

/-! ## Quotes come in pairs -/

theorem quoted_foldl_after (place : Place) (s : List Char) :
    (s.foldl Place.after place).quoted = place.quoted ↔ s.count '"' % 2 = 0 := by
  induction s generalizing place with
  | nil => simp
  | cons c s ih =>
    rw [List.foldl_cons]
    by_cases quote : c = '"'
    · subst quote
      have flipped : (place.after '"').quoted = !place.quoted := rfl
      have odd : (s.count '"' + 1) % 2 = 0 ↔ ¬ s.count '"' % 2 = 0 := by omega
      rw [List.count_cons_self, odd, ← ih (place.after '"'), flipped]
      cases (s.foldl Place.after (place.after '"')).quoted <;> cases place.quoted <;> decide
    · have kept : (place.after c).quoted = place.quoted := by
        simp only [Place.after, beq_iff_eq, quote, if_false]
        split
        · rfl
        · split
          · rfl
          · split <;> rfl
      rw [List.count_cons_of_ne quote, ← kept]
      exact ih (place.after c)

theorem read?_even_quotes {keys : KeySet} {query : String} {filter : Filter}
    (reads : read? keys query = some filter) : query.toList.count '"' % 2 = 0 := by
  obtain ⟨s, rest, blanks, derived, ends⟩ := readWithin?_iff_derivesQuery.mp reads
  obtain ⟨height, balanced, -⟩ := derived.portable
  obtain ⟨taken, whole, place⟩ := (blanks.balanced.trans balanced).trans ends.balanced
  rw [List.append_nil] at whole
  rw [← quoted_foldl_after ⟨false, 0⟩, whole, (place 0).1]

/-! ## Changes outside of quotes -/

/-- What is between quotes lies behind an odd number of them and in front of another one. Between
the two parts of a text there is no such place. -/
def Unquoted (front behind : List Char) : Prop := front.count '"' % 2 = 0 ∨ '"' ∉ behind

/-- The second text has other blanks than the first one, in one place outside of quotes. -/
inductive Respaces : List Char → List Char → Prop
  | run {front blanks others behind : List Char} : AllBlank blanks → AllBlank others →
      blanks ≠ [] → others ≠ [] → Unquoted front behind →
      Respaces (front ++ (blanks ++ behind)) (front ++ (others ++ behind))
  | start {blanks s : List Char} : AllBlank blanks → Respaces s (blanks ++ s)
  | finish {blanks s : List Char} : AllBlank blanks → Respaces s (s ++ blanks)
  | before {c : Char} {front blanks behind : List Char} : isBracket c = true → AllBlank blanks →
      Unquoted front (c :: behind) →
      Respaces (front ++ c :: behind) (front ++ (blanks ++ c :: behind))
  | after {c : Char} {front blanks behind : List Char} : isBracket c = true → AllBlank blanks →
      Unquoted front (c :: behind) →
      Respaces (front ++ c :: behind) (front ++ c :: (blanks ++ behind))

section
variable {s t : List Char}

theorem AllBlank.blanks {blanks : List Char} (allBlank : AllBlank blanks) (s : List Char) :
    Blanks (blanks ++ s) s :=
  ⟨blanks, allBlank, rfl⟩

theorem AllBlank.count_quote {blanks : List Char} (allBlank : AllBlank blanks) :
    blanks.count '"' = 0 := by
  rw [List.count_eq_zero]
  intro member
  exact absurd (allBlank _ member) (by decide)

theorem Unquoted.even {front behind : List Char} (unquoted : Unquoted front behind)
    (even : (front.count '"' + behind.count '"') % 2 = 0) : front.count '"' % 2 = 0 := by
  rcases unquoted with even | quoteless
  · exact even
  · rwa [List.count_eq_zero.mpr quoteless] at even

/-- What stands in front, quoted values and all, is the same in both texts. -/
theorem SameWords.prepend (same : SameWords s t) (front : List Char) :
    (front.count '"' % 2 = 0 → SameWords (front ++ s) (front ++ t)) ∧
    (front.count '"' % 2 = 1 → ∀ value, '"' ∉ value →
      SameWords ('"' :: (value ++ (front ++ s))) ('"' :: (value ++ (front ++ t)))) := by
  -- Inside of a quoted value, `value` is the part of it that stands in front already.
  induction front with
  | nil => exact ⟨fun _ => same, nofun⟩
  | cons c front ih =>
    obtain ⟨outside, inside⟩ := ih
    by_cases quote : c = '"'
    · subst quote
      rw [List.count_cons_self]
      constructor
      · intro even
        exact inside (by omega) [] List.not_mem_nil
      · intro odd value quoteless
        exact .quoted quoteless (outside (by omega))
    · rw [List.count_cons_of_ne quote]
      constructor
      · intro even
        have follows := outside even
        cases blank : Text.isBlank c with
        | true => exact .gap blank blank (.refl _) (.refl _) follows
        | false =>
          cases bracket : isBracket c with
          | true => exact .bracket bracket (.refl _) (.refl _) (.refl _) (.refl _) follows
          | false =>
            simp only [isBracket, Bool.or_eq_false_iff, beq_eq_false_iff_ne] at bracket
            exact .bare (by simp [isBareChar, blank, quote, bracket]) follows
      · intro odd value quoteless
        have extended := inside odd (value ++ [c]) (by simp [quoteless, Ne.symm quote])
        simpa using extended

theorem Respaces.count_quote (change : Respaces s t) : s.count '"' = t.count '"' := by
  cases change with
  | run blanks others _ _ _ => simp [blanks.count_quote, others.count_quote]
  | start blanks | finish blanks | before _ blanks _ | after _ blanks _ =>
    simp [List.count_cons, blanks.count_quote]

theorem Respaces.respaced (change : Respaces s t) (even : s.count '"' % 2 = 0) : Respaced s t := by
  cases change with
  | @run front blanks others behind isBlanks isOthers nonempty otherNonempty unquoted =>
    rw [List.count_append, List.count_append, isBlanks.count_quote, Nat.zero_add] at even
    cases blanks with
    | nil => contradiction
    | cons c blanks =>
      cases others with
      | nil => contradiction
      | cons d others =>
        obtain ⟨blank, more⟩ := List.forall_mem_cons.mp isBlanks
        obtain ⟨otherBlank, otherMore⟩ := List.forall_mem_cons.mp isOthers
        have gap : SameWords (c :: (blanks ++ behind)) (d :: (others ++ behind)) :=
          .gap blank otherBlank ⟨blanks, more, rfl⟩ ⟨others, otherMore, rfl⟩ (.refl behind)
        exact ((gap.prepend front).1 (unquoted.even even)).respaced
  | start blanks =>
    rw [Respaced, (blanks.blanks s).skipBlanks_congr]
    exact .refl _
  | @finish blanks _ isBlanks =>
    have ending : SameWords [] blanks := .ending (.refl []) ⟨blanks, isBlanks, by simp⟩
    have same := ((ending.prepend s).1 even).respaced
    rwa [List.append_nil] at same
  | @before c front blanks behind bracket isBlanks unquoted =>
    rw [List.count_append] at even
    have same : SameWords (c :: behind) (blanks ++ c :: behind) :=
      .bracket bracket (.refl _) (isBlanks.blanks _) (.refl _) (.refl _) (.refl behind)
    exact ((same.prepend front).1 (unquoted.even even)).respaced
  | @after c front blanks behind bracket isBlanks unquoted =>
    rw [List.count_append] at even
    have same : SameWords (c :: behind) (c :: (blanks ++ behind)) :=
      .bracket bracket (.refl _) (.refl _) (.refl _) (isBlanks.blanks _) (.refl behind)
    exact ((same.prepend front).1 (unquoted.even even)).respaced

end

theorem read?_of_respaced {keys : KeySet} {query other : String} {filter : Filter}
    (reads : read? keys query = some filter) (same : Respaced query.toList other.toList) :
    read? keys other = some filter := by
  obtain ⟨found, follows, alike⟩ := (simulation_sameWords keys).read? reads same
  rw [follows, alike.eq]

theorem read?_of_respaces {keys : KeySet} {query other : String}
    (change : Respaces query.toList other.toList) : read? keys query = read? keys other := by
  apply Option.ext
  intro filter
  constructor
  · intro reads
    exact read?_of_respaced reads (change.respaced (read?_even_quotes reads))
  · intro reads
    have even := read?_even_quotes reads
    rw [← change.count_quote] at even
    exact read?_of_respaced reads (SameWords.symm (change.respaced even))

/-! ## Changes beside a colon -/

/-- The second text has other blanks than the first one on both sides of the colon of a literal, up
to which there are only whole blanks, brackets, operators and literals. -/
inductive Recolons (keys : KeySet) : List Char → List Char → Prop
  | literal {front word before after others more place rest : List Char} {key value : String}
      {literals : List (String × String)} : AllBlank before → AllBlank after → AllBlank others →
      AllBlank more → Key keys word key [] → Value place value rest →
      Passes keys (front ++ (word ++ (before ++ ':' :: (after ++ place)))) literals
        (word ++ (before ++ ':' :: (after ++ place))) →
      Recolons keys (front ++ (word ++ (before ++ ':' :: (after ++ place))))
        (front ++ (word ++ (others ++ ':' :: (more ++ place))))

theorem read?_of_recolons {keys : KeySet} {query other : String} {filter : Filter}
    (reads : read? keys query = some filter) (change : Recolons keys query.toList other.toList) :
    read? keys other = some filter := by
  generalize first : query.toList = s at change
  generalize second : other.toList = t at change
  cases change with
  | @literal front word before after others more place rest key value literals isBefore isAfter
      isOthers isMore isKey isValue passes =>
    have spelling : ∀ {left right : List Char}, AllBlank left → AllBlank right →
        LiteralAt keys (word ++ (left ++ ':' :: (right ++ place))) key place value rest :=
      fun isLeft isRight =>
        ⟨_, _, isKey.append _, isLeft.blanks _, isRight.blanks _, isValue⟩
    obtain ⟨c, tail, begins, -⟩ := isKey.begins
    have simulation := simulation_edited (spelling isBefore isAfter) (spelling isOthers isMore)
      (by rw [begins]; rfl)
    obtain ⟨found, follows, alike⟩ :=
      simulation.read? reads (.inr ⟨front, literals, first, second, first ▸ passes⟩)
    rw [follows, alike.eq]

/-! ## Any number of changes -/

theorem read?_of_eqvGen (keys : KeySet) {s t : List Char} (changes : Relation.EqvGen Respaces s t) :
    read? keys (String.ofList s) = read? keys (String.ofList t) := by
  induction changes with
  | rel s t change =>
    apply read?_of_respaces
    rwa [String.toList_ofList, String.toList_ofList]
  | refl s => rfl
  | symm _ _ _ same => exact same.symm
  | trans _ _ _ _ _ first second => exact first.trans second

theorem read?_of_reflTransGen {keys : KeySet} {filter : Filter} {s t : List Char}
    (changes :
      Relation.ReflTransGen (fun s t => Relation.EqvGen Respaces s t ∨ Recolons keys s t) s t)
    (reads : read? keys (String.ofList s) = some filter) :
    read? keys (String.ofList t) = some filter := by
  induction changes with
  | refl => exact reads
  | tail _ change accepted =>
    rcases change with spacing | colon
    · rwa [← read?_of_eqvGen keys spacing]
    · apply read?_of_recolons accepted
      rwa [String.toList_ofList, String.toList_ofList]

/-- Texts that differ in blanks outside of quotes only, in any number of places, are the same query,
or none of them is a query. In a query also the blanks beside the colons of its literals can change,
and no literal of its filter is left out there. -/
theorem read?_respaced (keys : KeySet) (query other : String) :
    (Relation.EqvGen Respaces query.toList other.toList → read? keys query = read? keys other) ∧
    ∀ filter, read? keys query = some filter →
      Passes keys query.toList filter.literals [] ∧
      (Relation.ReflTransGen (fun s t => Relation.EqvGen Respaces s t ∨ Recolons keys s t)
        query.toList other.toList → read? keys other = some filter) := by
  refine ⟨fun changes => ?_, fun filter reads => ⟨?_, fun changes => ?_⟩⟩
  · have same := read?_of_eqvGen keys changes
    rwa [String.ofList_toList, String.ofList_toList] at same
  · obtain ⟨s, rest, blanks, derived, ends⟩ := readWithin?_iff_derivesQuery.mp reads
    have passed := derived.passes.trans (ends.passes (.here []))
    rw [List.append_nil] at passed
    exact blanks.passes passed
  · have same : read? keys (String.ofList query.toList) = some filter := by
      rwa [String.ofList_toList]
    have kept := read?_of_reflTransGen changes same
    rwa [String.ofList_toList] at kept

/-- Other blanks behind a bracket, between two words and at the end, and then other blanks beside a
colon. Those between the quotes stay. -/
theorem read?_respaced_literal :
    let query := "( name : \"a  b\")  or\ttag:c "
    let spaced := "(name : \"a  b\") or\ttag:c"
    let other := "(name:\"a  b\") or\ttag:c"
    let filter := Filter.or (.literal "name" "a  b") (.literal "tag" "c")
    read? .standard query = some filter ∧ read? .standard spaced = some filter ∧
      read? .standard other = some filter := by
  intro query spaced other filter
  have reads : read? .standard query = some filter := by decide +kernel
  have space : AllBlank [' '] := List.all_eq_true.mp rfl
  have spaces : AllBlank [' ', ' '] := List.all_eq_true.mp rfl
  have none : AllBlank [] := nofun
  have opening : Respaces "(name : \"a  b\")  or\ttag:c ".toList query.toList := by
    simpa [query] using
      @Respaces.after '(' [] _ "name : \"a  b\")  or\ttag:c ".toList rfl space (.inl rfl)
  have between : Respaces "(name : \"a  b\")  or\ttag:c ".toList
      "(name : \"a  b\") or\ttag:c ".toList := by
    simpa using @Respaces.run "(name : \"a  b\")".toList _ _ "or\ttag:c ".toList spaces space
      (by decide) (by decide) (.inl (by decide))
  have ending : Respaces spaced.toList "(name : \"a  b\") or\ttag:c ".toList := by
    simpa [spaced] using @Respaces.finish _ spaced.toList space
  have changes : Relation.EqvGen Respaces query.toList spaced.toList :=
    .trans _ _ _ (.symm _ _ (.rel _ _ opening))
      (.trans _ _ _ (.rel _ _ between) (.symm _ _ (.rel _ _ ending)))
  have same := (read?_respaced .standard query spaced).1 changes
  rw [reads] at same
  have key : Key .standard "name".toList "name" [] :=
    ⟨"name".toList, by decide, List.all_eq_true.mp rfl, rfl, by decide +kernel, by decide⟩
  have value := @Value.quoted "a  b".toList ") or\ttag:c".toList (by decide) (by decide)
  have passes : ∀ s, Passes .standard (['('] ++ s) [] s := fun s => .bracket rfl (.here s)
  have colon : Recolons .standard spaced.toList other.toList := by
    simpa [spaced, other] using Recolons.literal space space none none key value (passes _)
  exact ⟨reads, same.symm, ((read?_respaced .standard spaced other).2 filter same.symm).2
    (.single (.inr colon))⟩

end CatalogQuery.Query
