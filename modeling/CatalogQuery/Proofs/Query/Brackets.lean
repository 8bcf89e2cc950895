import CatalogQuery.Proofs.Query.Exactness

/-! # Open brackets

The brackets that are open at the same time in a query, those between quotes left out. Each part of
a derived text closes what it opens, so the depth that a derivation needs can be read off the text
alone (`Derives.portable`), and a query is derived at any depth with so much room
(`DerivesQuery.within_bracketDepth`).
-/

namespace CatalogQuery.Query

/-! ## Counting -/

/-- Whether a place in a text is between quotes, and how many brackets are open there. -/
structure Place where
  quoted : Bool
  opened : Nat

namespace Place

def after (place : Place) (c : Char) : Place :=
  if c == '"' then { place with quoted := !place.quoted }
  else if place.quoted then place
  else if c == '(' then { place with opened := place.opened + 1 }
  else if c == ')' then { place with opened := place.opened - 1 }
  else place

/-- The most brackets that are open at the same time from the place on. -/
def deepest (place : Place) : List Char → Nat
  | [] => place.opened
  | c :: s => max place.opened ((place.after c).deepest s)

theorem opened_le_deepest (place : Place) (s : List Char) : place.opened ≤ place.deepest s := by
  cases s with
  | nil => exact Nat.le_refl _
  | cons c s => exact Nat.le_max_left _ _

theorem deepest_append (place : Place) (s t : List Char) :
    place.deepest (s ++ t) = max (place.deepest s) ((s.foldl after place).deepest t) := by
  induction s generalizing place with
  | nil => exact (Nat.max_eq_right (opened_le_deepest place t)).symm
  | cons c s ih =>
    simp only [List.cons_append, deepest, List.foldl_cons]
    rw [ih, Nat.max_assoc]

end Place

/-- The most brackets of the query that are open at the same time, outside of quoted values. -/
def bracketDepth (query : String) : Nat := Place.deepest ⟨false, 0⟩ query.toList

/-! ## Parts that close what they open -/

/-- The text up to the rest closes its quotes and its brackets, and at most `height` of these are
open at the same time. -/
def Balanced (s rest : List Char) (height : Nat) : Prop :=
  ∃ taken, s = taken ++ rest ∧ ∀ opened, taken.foldl Place.after ⟨false, opened⟩ = ⟨false, opened⟩ ∧
    Place.deepest ⟨false, opened⟩ taken = opened + height

def isPlain (c : Char) : Bool := c != '"' && c != '(' && c != ')'

theorem Place.after_of_isPlain {c : Char} (plain : isPlain c = true) (place : Place) :
    place.after c = place := by
  simp only [isPlain, Bool.and_eq_true, bne_iff_ne, ne_eq] at plain
  obtain ⟨⟨quote, opening⟩, closing⟩ := plain
  simp [Place.after, quote, opening, closing]

theorem Place.after_of_quoted {c : Char} (quoteless : c ≠ '"') (opened : Nat) :
    Place.after ⟨true, opened⟩ c = ⟨true, opened⟩ := by
  simp [Place.after, quoteless]

theorem isPlain_of {p : Char → Bool} {c : Char} (inside : p c = true) (quote : p '"' = false)
    (opening : p '(' = false) (closing : p ')' = false) : isPlain c = true := by
  simp only [isPlain, Bool.and_eq_true, bne_iff_ne, ne_eq]
  refine ⟨⟨?_, ?_⟩, ?_⟩
  · rintro rfl
    rw [quote] at inside
    contradiction
  · rintro rfl
    rw [opening] at inside
    contradiction
  · rintro rfl
    rw [closing] at inside
    contradiction

theorem foldl_after_of_fixed {place : Place} {word : List Char}
    (fixed : ∀ c ∈ word, place.after c = place) :
    word.foldl Place.after place = place ∧ place.deepest word = place.opened := by
  induction word with
  | nil => exact ⟨rfl, rfl⟩
  | cons c word ih =>
    obtain ⟨first, more⟩ := List.forall_mem_cons.mp fixed
    obtain ⟨folded, deepest⟩ := ih more
    simp only [List.foldl_cons, Place.deepest, first, folded, deepest, Nat.max_self, and_self]

/-- A word of a class of characters without quotes and brackets. -/
theorem balanced_of_class {p : Char → Bool} {word rest : List Char}
    (inside : ∀ c ∈ word, p c = true) (quote : p '"' = false) (opening : p '(' = false)
    (closing : p ')' = false) : Balanced (word ++ rest) rest 0 := by
  refine ⟨word, rfl, fun opened => foldl_after_of_fixed fun c member => ?_⟩
  exact Place.after_of_isPlain (isPlain_of (inside c member) quote opening closing) _

theorem balanced_quoted {value rest : List Char} (quoteless : '"' ∉ value) :
    Balanced ('"' :: (value ++ '"' :: rest)) rest 0 := by
  refine ⟨'"' :: (value ++ ['"']), by simp, fun opened => ?_⟩
  have fixed : ∀ c ∈ value, Place.after ⟨true, opened⟩ c = ⟨true, opened⟩ := by
    intro c member
    apply Place.after_of_quoted
    rintro rfl
    exact quoteless member
  obtain ⟨folded, deepest⟩ := foldl_after_of_fixed fixed
  have opens : Place.after ⟨false, opened⟩ '"' = ⟨true, opened⟩ := rfl
  have closes : Place.after ⟨true, opened⟩ '"' = ⟨false, opened⟩ := rfl
  simp only [List.foldl_cons, List.foldl_append, List.foldl_nil, Place.deepest,
    Place.deepest_append, opens, folded, closes, deepest]
  simp

theorem Balanced.trans {s middle rest : List Char} {first second : Nat}
    (left : Balanced s middle first) (right : Balanced middle rest second) :
    Balanced s rest (max first second) := by
  obtain ⟨taken, rfl, leftPlace⟩ := left
  obtain ⟨more, rfl, rightPlace⟩ := right
  refine ⟨taken ++ more, by simp, fun opened => ?_⟩
  obtain ⟨leftFold, leftDeepest⟩ := leftPlace opened
  obtain ⟨rightFold, rightDeepest⟩ := rightPlace opened
  rw [List.foldl_append, Place.deepest_append, leftFold, leftDeepest, rightFold, rightDeepest]
  exact ⟨rfl, by omega⟩

theorem Balanced.group {inside rest : List Char} {height : Nat}
    (balanced : Balanced inside (')' :: rest) height) :
    Balanced ('(' :: inside) rest (height + 1) := by
  obtain ⟨taken, rfl, place⟩ := balanced
  refine ⟨'(' :: (taken ++ [')']), by simp, fun opened => ?_⟩
  obtain ⟨fold, deepest⟩ := place (opened + 1)
  have opens : Place.after ⟨false, opened⟩ '(' = ⟨false, opened + 1⟩ := rfl
  have closes : Place.after ⟨false, opened + 1⟩ ')' = ⟨false, opened⟩ := rfl
  simp only [List.foldl_cons, List.foldl_append, List.foldl_nil, Place.deepest,
    Place.deepest_append, opens, fold, closes, deepest]
  exact ⟨trivial, by omega⟩

theorem Balanced.deepest_eq {s rest : List Char} {height : Nat} (balanced : Balanced s rest height)
    (blank : Balanced rest [] 0) : Place.deepest ⟨false, 0⟩ s = height := by
  obtain ⟨taken, same, place⟩ := balanced.trans blank
  rw [List.append_nil] at same
  rw [same, (place 0).2]
  omega

/-! ## Words are balanced -/

section
variable {s rest : List Char}

theorem Blanks.balanced (blanks : Blanks s rest) : Balanced s rest 0 := by
  obtain ⟨taken, inside, rfl⟩ := blanks
  exact balanced_of_class inside (by decide) (by decide) (by decide)

theorem Keyword.balanced {word : List Char} (keyword : Keyword word s rest)
    (lettered : Lettered word) : Balanced s rest 0 := by
  obtain ⟨taken, inside, -, rfl⟩ := keyword.split lettered
  exact balanced_of_class inside (by decide) (by decide) (by decide)

theorem Key.balanced {keys : KeySet} {key : String} (derived : Key keys s key rest) :
    Balanced s rest 0 := by
  obtain ⟨word, -, inside, rfl, -⟩ := derived
  exact balanced_of_class inside (by decide) (by decide) (by decide)

theorem Value.balanced {value : String} (derived : Value s value rest) : Balanced s rest 0 := by
  cases derived with
  | quoted _ quoteless => exact balanced_quoted quoteless
  | bare _ inside _ => exact balanced_of_class inside (by decide) (by decide) (by decide)

theorem balanced_colon (s : List Char) : Balanced (':' :: s) s 0 := by
  have inside : ∀ c ∈ [':'], isPlain c = true := List.forall_mem_singleton.mpr rfl
  exact balanced_of_class inside rfl rfl rfl

end

/-! ## Derived texts are balanced -/

section
variable {keys : KeySet} {limit depth : Nat} {s middle next rest : List Char}

/-- The text is balanced and fits under the limit. It is derived at any depth and under any limit
that leave room for its height. -/
def Portable (keys : KeySet) (limit : Nat) (level : Level) (depth : Nat) (s : List Char)
    (filter : Filter) (rest : List Char) : Prop :=
  ∃ height, Balanced s rest height ∧ (depth ≤ limit → depth + height ≤ limit) ∧
    ∀ other below, below + height ≤ other → Derives keys other level below s filter rest

theorem Portable.behind {level outer : Level} {filter whole : Filter}
    (front : Balanced s next 0) (portable : Portable keys limit level depth next filter rest)
    (rule : ∀ other below, Derives keys other level below next filter rest →
      Derives keys other outer below s whole rest) :
    Portable keys limit outer depth s whole rest := by
  obtain ⟨height, balanced, fits, derives⟩ := portable
  have spanned := front.trans balanced
  rw [Nat.zero_max] at spanned
  exact ⟨height, spanned, fits, fun other below room => rule _ _ (derives other below room)⟩

theorem Portable.pair {left right outer : Level} {first second whole : Filter}
    (leftPortable : Portable keys limit left depth s first middle)
    (between : Balanced middle next 0)
    (rightPortable : Portable keys limit right depth next second rest)
    (rule : ∀ other below, Derives keys other left below s first middle →
      Derives keys other right below next second rest →
      Derives keys other outer below s whole rest) :
    Portable keys limit outer depth s whole rest := by
  obtain ⟨height, balanced, fits, derives⟩ := leftPortable
  obtain ⟨more, moreBalanced, moreFits, moreDerives⟩ := rightPortable
  have spanned := balanced.trans (between.trans moreBalanced)
  rw [Nat.zero_max] at spanned
  refine ⟨_, spanned, fun within => ?_, fun other below room => ?_⟩
  · have := fits within
    have := moreFits within
    omega
  · exact rule _ _ (derives other below (by omega)) (moreDerives other below (by omega))

/-- The text alone decides at which depths and under which limits it is derived. -/
theorem Derives.portable {level : Level} {filter : Filter}
    (derived : Derives keys limit level depth s filter rest) :
    Portable keys limit level depth s filter rest := by
  induction derived with
  | or _ blanks keyword more _ left right =>
    have between := (blanks.balanced.trans (keyword.balanced lettered_or)).trans more.balanced
    exact left.pair between right fun _ _ first second => .or first blanks keyword more second
  | and _ blanks keyword more _ left right =>
    have between := (blanks.balanced.trans (keyword.balanced lettered_and)).trans more.balanced
    exact left.pair between right fun _ _ first second => .and first blanks keyword more second
  | juxtaposed _ blanks _ left right =>
    exact left.pair blanks.balanced right fun _ _ first second => .juxtaposed first blanks second
  | ofConjunction _ same =>
    exact same.behind (Blanks.refl _).balanced fun _ _ => .ofConjunction
  | ofNegation _ same => exact same.behind (Blanks.refl _).balanced fun _ _ => .ofNegation
  | ofOperand _ same => exact same.behind (Blanks.refl _).balanced fun _ _ => .ofOperand
  | not keyword blanks _ child =>
    have front := (keyword.balanced lettered_not).trans blanks.balanced
    exact child.behind front fun _ _ => .not keyword blanks
  | group room blanks _ closes inside =>
    -- The one rule that goes deeper: what the group needs is what is inside and one bracket more.
    obtain ⟨height, balanced, fits, derives⟩ := inside
    refine ⟨_, ((blanks.balanced.trans balanced).trans closes.balanced).group, fun _ => ?_,
      fun other below fit => ?_⟩
    · have := fits room
      omega
    · exact .group (by omega) blanks (derives other (below + 1) (by omega)) closes
  | literal key blanks more value =>
    have colon := (blanks.balanced.trans (balanced_colon _)).trans more.balanced
    exact ⟨_, (key.balanced.trans colon).trans value.balanced, fun within => by omega,
      fun _ _ _ => .literal key blanks more value⟩

end

/-! ## Queries inside other queries -/

theorem Balanced.between_blanks {query : String} {s rest : List Char} {height : Nat}
    (balanced : Balanced s rest height) (blanks : Blanks query.toList s) (ends : Blanks rest []) :
    Balanced query.toList [] height ∧ bracketDepth query = height := by
  have whole := (blanks.balanced.trans balanced).trans ends.balanced
  rw [Nat.zero_max, Nat.max_zero] at whole
  exact ⟨whole, whole.deepest_eq (Blanks.refl []).balanced⟩

theorem DerivesQuery.within_bracketDepth {keys : KeySet} {limit : Nat} {query : String}
    {filter : Filter} (derived : DerivesQuery keys limit query.toList filter) :
    bracketDepth query ≤ limit ∧ ∀ other below, below + bracketDepth query ≤ other →
      ∃ s rest, Blanks query.toList s ∧ Derives keys other .disjunction below s filter rest ∧
        Blanks rest [] := by
  obtain ⟨s, rest, blanks, derived, ends⟩ := derived
  obtain ⟨height, balanced, fits, derives⟩ := derived.portable
  rw [(balanced.between_blanks blanks ends).2]
  refine ⟨by simpa using fits (Nat.zero_le limit), fun other below room => ?_⟩
  exact ⟨s, rest, blanks, derives other below room, ends⟩

end CatalogQuery.Query
