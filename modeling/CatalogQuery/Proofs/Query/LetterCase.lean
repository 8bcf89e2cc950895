import CatalogQuery.Proofs.Filter.LetterCase
import CatalogQuery.Proofs.Query.Places

/-! # Queries and letter case

The case of ASCII letters decides nothing: operators and keys are read in any case, and values are
compared without it. So a query in another case is a query that selects the same records
(`read?_letterCase`), and it stands for the same filter if its values are written as before.
-/

namespace CatalogQuery

open Query
open Text (SameLetters toLower_congr)

/-! ## Words in another case -/

section
variable {s t rest : List Char}

theorem isBlank_congr {c d : Char} (same : c.toLower = d.toLower) :
    Text.isBlank c = Text.isBlank d :=
  toLower_congr (by decide) same

theorem isKeyChar_congr {c d : Char} (same : c.toLower = d.toLower) : isKeyChar c = isKeyChar d :=
  toLower_congr (by decide) same

theorem isBareChar_congr {c d : Char} (same : c.toLower = d.toLower) :
    isBareChar c = isBareChar d :=
  toLower_congr (by decide) same

/-- What is not a letter has no case. -/
theorem sign_of_toLower {c d : Char} (sign : c.isAlpha = false) (same : c.toLower = d.toLower) :
    d = c := by
  have equal : (if c.isAlpha then none else some c) = if d.isAlpha then none else some d :=
    toLower_congr (p := fun c => if c.isAlpha then none else some c) (by decide) same
  rw [if_neg (by rw [sign]; exact Bool.false_ne_true)] at equal
  split at equal
  · contradiction
  · exact (Option.some.inj equal).symm

theorem Text.SameLetters.of_sign {c : Char} (sign : c.isAlpha = false)
    (same : SameLetters (c :: s) t) : ∃ tail, t = c :: tail ∧ SameLetters s tail := by
  obtain ⟨d, tail, rfl, letter, tails⟩ := same.of_cons
  rw [sign_of_toLower sign letter]
  exact ⟨tail, rfl, tails⟩

theorem Text.SameLetters.follow_blanks (same : SameLetters s t) (blanks : Blanks s rest) :
    ∃ taken other behind, s = taken ++ rest ∧ t = other ++ behind ∧ taken.length = other.length ∧
      SameLetters rest behind ∧ Blanks t behind := by
  obtain ⟨taken, inside, rfl⟩ := blanks
  obtain ⟨other, behind, rfl, fronts, tails⟩ := same.of_append
  exact ⟨taken, other, behind, rfl, rfl, fronts.length_eq, tails, other,
    fronts.forall_mem isBlank_congr inside, rfl⟩

theorem Text.SameLetters.follow_keyword {word : List Char} (same : SameLetters s t)
    (keyword : Keyword word s rest) :
    ∃ taken other behind, s = taken ++ rest ∧ t = other ++ behind ∧ taken.length = other.length ∧
      SameLetters rest behind ∧ Keyword word t behind := by
  obtain ⟨letters, lower, rfl, c, tail, rfl, ends⟩ := keyword
  obtain ⟨other, behind, rfl, fronts, tails⟩ := same.of_append
  obtain ⟨d, beyond, rfl, letter, -⟩ := tails.of_cons
  refine ⟨letters, other, _, rfl, rfl, fronts.length_eq, tails, other, fronts.symm.trans lower, rfl,
    d, beyond, rfl, ?_⟩
  rcases ends with blank | rfl
  · exact .inl ((isBlank_congr letter).symm.trans blank)
  · exact .inr (sign_of_toLower (by decide) letter)

theorem Text.SameLetters.follow_key {keys : KeySet} {key : String} (same : SameLetters s t)
    (isKey : Key keys s key rest) :
    ∃ taken other behind, s = taken ++ rest ∧ t = other ++ behind ∧ taken.length = other.length ∧
      SameLetters rest behind ∧ Key keys t key behind := by
  obtain ⟨word, nonempty, inside, rfl, spelling, known⟩ := isKey
  obtain ⟨other, behind, rfl, fronts, tails⟩ := same.of_append
  have lower : Text.lowercase (String.ofList other) = key := by
    rw [← spelling]
    apply Text.lowercase_congr
    rw [String.toList_ofList, String.toList_ofList]
    exact fronts.symm
  have otherNonempty : other ≠ [] := by
    rintro rfl
    exact nonempty (List.length_eq_zero_iff.mp fronts.length_eq)
  exact ⟨word, other, behind, rfl, rfl, fronts.length_eq, tails, other, otherNonempty,
    fronts.forall_mem isKeyChar_congr inside, rfl, lower, known⟩

theorem Text.SameLetters.quoteless {value other : List Char} (same : SameLetters value other)
    (quoteless : '"' ∉ value) : '"' ∉ other := by
  intro member
  have lower : '"' ∈ value.map Char.toLower := by
    rw [same]
    exact List.mem_map_of_mem (f := Char.toLower) member
  obtain ⟨c, inside, letter⟩ := List.mem_map.mp lower
  have quote : '"'.toLower = c.toLower := letter.symm
  rw [sign_of_toLower (by decide) quote] at inside
  exact quoteless inside

/-- A value in another case is a value, and the same one only if it is written in the same way. -/
theorem Text.SameLetters.follow_value {value : String} (same : SameLetters s t)
    (isValue : Value s value rest) :
    ∃ text other own behind, s = text ++ rest ∧ t = other ++ behind ∧ text.length = other.length ∧
      SameLetters rest behind ∧ Value t own behind ∧ SameValue value own ∧
      (text = other → value = own) := by
  cases isValue with
  | @quoted word rest nonempty quoteless =>
    obtain ⟨inside, rfl, insides⟩ := same.of_sign (by decide)
    obtain ⟨own, tail, rfl, values, tails⟩ := insides.of_append
    obtain ⟨behind, rfl, rests⟩ := tails.of_sign (by decide)
    have ownNonempty : own ≠ [] := by
      rintro rfl
      exact nonempty (List.length_eq_zero_iff.mp values.length_eq)
    refine ⟨'"' :: (word ++ ['"']), '"' :: (own ++ ['"']), String.ofList own, behind, by simp,
      by simp, by simpa using values.length_eq, rests,
      .quoted ownNonempty (values.quoteless quoteless), ?_, ?_⟩
    · rwa [SameValue, String.toList_ofList, String.toList_ofList]
    · intro equal
      rw [List.append_cancel_right (List.cons.inj equal).2]
  | @bare word rest nonempty inside stops =>
    obtain ⟨own, behind, rfl, values, tails⟩ := same.of_append
    have ownNonempty : own ≠ [] := by
      rintro rfl
      exact nonempty (List.length_eq_zero_iff.mp values.length_eq)
    refine ⟨word, own, String.ofList own, behind, rfl, rfl, values.length_eq, tails,
      .bare ownNonempty (values.forall_mem isBareChar_congr inside)
        (tails.stops isBareChar_congr stops), ?_, ?_⟩
    · rwa [SameValue, String.toList_ofList, String.toList_ofList]
    · intro equal
      rw [equal]

theorem Text.SameLetters.follow_literal {keys : KeySet} {key value : String} {place : List Char}
    (same : SameLetters s t) (literal : LiteralAt keys s key place value rest) :
    ∃ front text before other own behind, s = front ++ (text ++ rest) ∧ place = text ++ rest ∧
      t = before ++ (other ++ behind) ∧ front.length = before.length ∧ text.length = other.length ∧
      SameLetters rest behind ∧ LiteralAt keys t key (other ++ behind) own behind ∧
      SameValue value own ∧ (text = other → value = own) := by
  obtain ⟨colon, after, isKey, blanks, more, isValue⟩ := literal
  obtain ⟨word, spelt, afterKey, rfl, rfl, wordLength, afterKeys, otherKey⟩ := same.follow_key isKey
  obtain ⟨left, own, colons, rfl, rfl, leftLength, colonSame, otherBlanks⟩ :=
    afterKeys.follow_blanks blanks
  obtain ⟨afterColon, rfl, afterColons⟩ := colonSame.of_sign (by decide)
  obtain ⟨right, beside, places, rfl, rfl, rightLength, placeSame, otherMore⟩ :=
    afterColons.follow_blanks more
  obtain ⟨text, other, ownValue, behind, rfl, rfl, textLength, rests, otherValue, values, kept⟩ :=
    placeSame.follow_value isValue
  refine ⟨word ++ (left ++ ':' :: right), text, spelt ++ (own ++ ':' :: beside), other, ownValue,
    behind, by simp, rfl, by simp, ?_, textLength, rests,
    ⟨_, _, otherKey, otherBlanks, otherMore, otherValue⟩, values, kept⟩
  simp only [List.length_append, List.length_cons]
  omega

end

namespace Query

/-! ## Any change of case -/

theorem simulation_sameLetters (keys : KeySet) : Simulation keys SameLetters SameValue where
  blanks same := same.dropWhile isBlank_congr
  ending same := by
    rw [List.length_eq_zero_iff.mp same.length_eq.symm]
    rfl
  bracket bracket same _ := same.of_sign (isAlpha_of_isBracket bracket)
  keyword _ same _ keyword _ := by
    obtain ⟨_, _, behind, -, -, -, follows, found⟩ := same.follow_keyword keyword
    exact ⟨behind, found, follows⟩
  literal same _ literal := by
    obtain ⟨_, _, _, other, own, behind, -, -, -, -, -, follows, found, values, -⟩ :=
      same.follow_literal literal
    exact ⟨_, own, behind, found, values, follows⟩

/-! ## Changes outside of values -/

/-- The character of that index stands in the value of a literal, up to which there are only whole
blanks, brackets, operators and literals. -/
def InValue (keys : KeySet) (s : List Char) (i : Nat) : Prop :=
  ∃ literals site key front text value rest, Passes keys s literals site ∧
    LiteralAt keys site key (text ++ rest) value rest ∧ s = front ++ (text ++ rest) ∧
    front.length ≤ i ∧ i < front.length + text.length

/-- The second text has the values of the first one at the same indices. -/
def KeepsValues (keys : KeySet) (s t : List Char) : Prop :=
  SameLetters s t ∧ ∀ i, InValue keys s i → s[i]? = t[i]?

theorem getElem?_behind (taken s : List Char) (i : Nat) :
    (taken ++ s)[taken.length + i]? = s[i]? := by
  rw [List.getElem?_append_right (Nat.le_add_right _ _), Nat.add_sub_cancel_left]

theorem KeepsValues.behind {keys : KeySet} {taken other s t : List Char}
    (keeps : KeepsValues keys (taken ++ s) (other ++ t)) (length : taken.length = other.length)
    (same : SameLetters s t) (passes : ∀ literals site, Passes keys s literals site →
      ∃ more, Passes keys (taken ++ s) more site) : KeepsValues keys s t := by
  refine ⟨same, fun i inside => ?_⟩
  obtain ⟨literals, site, key, front, text, value, rest, passed, literal, rfl, le, lt⟩ := inside
  obtain ⟨more, passed⟩ := passes literals site passed
  have kept := keeps.2 (taken.length + i) ⟨more, site, key, taken ++ front, text, value, rest,
    passed, literal, (List.append_assoc _ _ _).symm, by simp [le], by simp; omega⟩
  rwa [getElem?_behind, length, getElem?_behind] at kept

/-- A literal at the beginning has its value at the same indices, so it is written as before. -/
theorem KeepsValues.value_eq {keys : KeySet} {key value : String}
    {front text rest before other behind : List Char}
    (keeps : KeepsValues keys (front ++ (text ++ rest)) (before ++ (other ++ behind)))
    (literal : LiteralAt keys (front ++ (text ++ rest)) key (text ++ rest) value rest)
    (length : front.length = before.length) (textLength : text.length = other.length) :
    text = other := by
  apply List.ext_getElem?
  intro i
  by_cases inside : i < text.length
  · have index := keeps.2 (front.length + i) ⟨[], _, key, front, text, value, rest, .here _,
      literal, rfl, Nat.le_add_right _ _, by omega⟩
    rwa [getElem?_behind, length, getElem?_behind, List.getElem?_append_left inside,
      List.getElem?_append_left (textLength ▸ inside)] at index
  · rw [List.getElem?_eq_none (by omega), List.getElem?_eq_none (by omega)]

theorem simulation_keepsValues (keys : KeySet) : Simulation keys (KeepsValues keys) Eq where
  blanks {s t} keeps := by
    have skipped := blanks_skipBlanks s
    obtain ⟨taken, other, behind, left, right, length, same, blanks⟩ :=
      keeps.1.follow_blanks skipped
    have reached := blanks.skipBlanks_eq (same.stops isBlank_congr (stops_dropWhile _ s))
    rw [← reached] at right same
    rw [left, right] at keeps
    refine keeps.behind length same fun literals site passes => ⟨literals, ?_⟩
    rw [← left]
    exact skipped.passes passes
  ending keeps := by
    rw [List.length_eq_zero_iff.mp keeps.1.length_eq.symm]
    rfl
  bracket {c s t} bracket keeps _ := by
    obtain ⟨tail, rfl, same⟩ := keeps.1.of_sign (isAlpha_of_isBracket bracket)
    have whole : KeepsValues keys ([c] ++ s) ([c] ++ tail) := keeps
    exact ⟨tail, rfl, whole.behind rfl same fun literals site passes =>
      ⟨literals, .bracket bracket passes⟩⟩
  keyword operator keeps _ keyword _ := by
    obtain ⟨taken, other, behind, rfl, rfl, length, same, found⟩ :=
      keeps.1.follow_keyword keyword
    exact ⟨behind, found, keeps.behind length same fun literals site passes =>
      ⟨literals, .operator operator keyword passes⟩⟩
  literal {s t key place value rest} keeps _ literal := by
    obtain ⟨front, text, before, other, own, behind, rfl, rfl, rfl, length, textLength, same, found,
      -, kept⟩ := keeps.1.follow_literal literal
    refine ⟨_, own, behind, found, kept (keeps.value_eq literal length textLength), ?_⟩
    rw [← List.append_assoc front, ← List.append_assoc before] at keeps
    rw [← List.append_assoc front] at literal
    refine keeps.behind (by simp [length, textLength]) same fun literals site passes => ?_
    exact ⟨_, .literal literal passes⟩

/-! ## Letter case decides nothing -/

/-- Two texts that differ in the case of ASCII letters only are both queries or both none. As
queries they stand for filters of the same shape with the same keys, whose values differ in that
case only and not at all if the texts agree inside of values, and they select the same records. Also
the strings of a record can be written in another case. -/
theorem read?_letterCase (keys : KeySet) (query other : String)
    (same : SameLetters query.toList other.toList) :
    (read? keys query = none ↔ read? keys other = none) ∧
    (∀ filter found, read? keys query = some filter → read? keys other = some found →
      filter.Alike SameValue found ∧
      ((∀ i, InValue keys query.toList i → query.toList[i]? = other.toList[i]?) → filter = found) ∧
      ∀ records, filter.select keys records = found.select keys records) ∧
    ∀ (filter : Filter) (record twin : Json.Value), record.Recased twin →
      filter.holds keys record = filter.holds keys twin := by
  have accepts : ∀ {query other : String}, SameLetters query.toList other.toList →
      read? keys other = none → read? keys query = none := by
    intro query other same refused
    cases reads : read? keys query with
    | none => rfl
    | some filter =>
      obtain ⟨found, follows, -⟩ := (simulation_sameLetters keys).read? reads same
      rw [refused] at follows
      contradiction
  refine ⟨⟨accepts same.symm, accepts same⟩, fun filter found reads follows => ?_, ?_⟩
  · obtain ⟨twin, again, alike⟩ := (simulation_sameLetters keys).read? reads same
    rw [follows, Option.some.injEq] at again
    subst again
    refine ⟨alike, fun agree => ?_, fun records => ?_⟩
    · obtain ⟨twin, again, equal⟩ := (simulation_keepsValues keys).read? reads ⟨same, agree⟩
      rw [follows, Option.some.injEq] at again
      rw [again]
      exact equal.eq
    · simp only [Filter.select, Filter.holds_of_alike alike (.same _)]
  · intro filter record twin recased
    exact Filter.holds_of_alike (.refl (fun _ => .refl _) filter) recased keys

/-- A query with a capital sigma, which is not at the end of its word. -/
theorem read?_letterCase_sigma :
    let query := "not Name:ΑΣb"
    let other := "NOT nAME:ΑΣB"
    let filter := Filter.not (.literal "name" "ΑΣb")
    let found := Filter.not (.literal "name" "ΑΣB")
    let record := Json.Value.object [("name", .string "xασB")]
    SameLetters query.toList other.toList ∧ read? .standard query = some filter ∧
      read? .standard other = some found ∧ filter.select .standard [record] = [] ∧
      found.select .standard [record] = [] := by
  intro query other filter found record
  have same : SameLetters query.toList other.toList := by decide
  have reads : read? .standard query = some filter := by decide +kernel
  have follows : read? .standard other = some found := by decide +kernel
  have holds : filter.holds .standard record = false := by decide +kernel
  have selected : filter.select .standard [record] = [] := by simp [Filter.select, holds]
  obtain ⟨-, alike, -⟩ := read?_letterCase .standard query other same
  exact ⟨same, reads, follows, selected, (alike filter found reads follows).2.2 [record] ▸ selected⟩

end Query

end CatalogQuery
