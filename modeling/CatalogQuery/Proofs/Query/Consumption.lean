import CatalogQuery.Proofs.Filter.Size
import CatalogQuery.Proofs.Query.Grammar
import CatalogQuery.Text.Quoted

/-! # How much text a part takes

A literal has a key, a colon and a value, and a negation has the three letters of `NOT`, so a part
of a query takes three characters for each of them (`Derives.takes`), even where no blank stands
between the words. What is left is an end of the text, and shorter in bytes as well.
-/

namespace CatalogQuery.Query

/-- The rest stands behind at least `n` characters of the text. -/
def Takes (n : Nat) (s rest : List Char) : Prop :=
  ∃ taken, s = taken ++ rest ∧ n ≤ taken.length

section
variable {n m : Nat} {s middle rest : List Char}

theorem Takes.trans (first : Takes n s middle) (second : Takes m middle rest) :
    Takes (n + m) s rest := by
  obtain ⟨taken, rfl, long⟩ := first
  obtain ⟨more, rfl, moreLong⟩ := second
  exact ⟨taken ++ more, (List.append_assoc _ _ _).symm, by rw [List.length_append]; omega⟩

theorem Takes.of_le (takes : Takes n s rest) (le : m ≤ n) : Takes m s rest := by
  obtain ⟨taken, split, long⟩ := takes
  exact ⟨taken, split, Nat.le_trans le long⟩

theorem Takes.length_le (takes : Takes n s rest) : n + rest.length ≤ s.length := by
  obtain ⟨taken, rfl, long⟩ := takes
  rw [List.length_append]
  omega

theorem Takes.byteLength_le (takes : Takes n s rest) :
    Text.byteLength rest ≤ Text.byteLength s := by
  obtain ⟨taken, rfl, -⟩ := takes
  induction taken with
  | nil => exact Nat.le_refl _
  | cons c taken ih => exact Nat.le_add_left_of_le ih

/-! ## Words -/

theorem takes_cons (c : Char) (s : List Char) : Takes 1 (c :: s) s := ⟨[c], rfl, Nat.le_refl 1⟩

theorem Blanks.takes (blanks : Blanks s rest) : Takes 0 s rest := by
  obtain ⟨taken, -, split⟩ := blanks
  exact ⟨taken, split, Nat.zero_le _⟩

theorem Keyword.takes {word : List Char} (keyword : Keyword word s rest) :
    Takes word.length s rest := by
  obtain ⟨letters, rfl, split, -⟩ := keyword
  exact ⟨letters, split, Nat.le_of_eq (List.length_map _)⟩

theorem Key.takes {keys : KeySet} {key : String} (isKey : Key keys s key rest) :
    Takes 1 s rest := by
  obtain ⟨word, nonempty, -, split, -⟩ := isKey
  exact ⟨word, split, List.length_pos_iff.mpr nonempty⟩

theorem Value.takes {value : String} (isValue : Value s value rest) : Takes 1 s rest := by
  cases isValue with
  | @quoted value rest _ _ => exact ⟨'"' :: (value ++ ['"']), by simp, by simp⟩
  | bare nonempty _ _ => exact ⟨_, rfl, List.length_pos_iff.mpr nonempty⟩

/-! ## Parts of queries -/

/-- Each literal and each negation of a part takes three characters. -/
theorem Derives.takes {keys : KeySet} {limit depth : Nat} {level : Level} {filter : Filter}
    (derived : Derives keys limit level depth s filter rest) :
    Takes (3 * (filter.literalCount + filter.negationCount)) s rest := by
  induction derived with
  | or _ blanks keyword more _ left right | and _ blanks keyword more _ left right =>
    have operator := blanks.takes.trans (keyword.takes.trans more.takes)
    refine (left.trans (operator.trans right)).of_le ?_
    simp only [Filter.literalCount, Filter.negationCount]
    omega
  | juxtaposed _ blanks _ left right =>
    refine (left.trans (blanks.takes.trans right)).of_le ?_
    simp only [Filter.literalCount, Filter.negationCount]
    omega
  | ofConjunction _ same | ofNegation _ same | ofOperand _ same => exact same
  | not keyword blanks _ child =>
    refine (keyword.takes.trans (blanks.takes.trans child)).of_le ?_
    simp only [Filter.literalCount, Filter.negationCount, List.length_cons, List.length_nil]
    omega
  | group _ blanks _ closes inside =>
    have opened := (takes_cons '(' _).trans (blanks.takes.trans inside)
    refine (opened.trans (closes.takes.trans (takes_cons _ _))).of_le ?_
    omega
  | literal isKey blanks more isValue =>
    have colon := blanks.takes.trans ((takes_cons _ _).trans more.takes)
    exact isKey.takes.trans (colon.trans isValue.takes)

end

end CatalogQuery.Query
