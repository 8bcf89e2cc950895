import CatalogQuery.Filter.Selection
import CatalogQuery.Proofs.Query.Simulation
import CatalogQuery.Proofs.Text.LetterCase

/-! # Filters and letter case

A filter holds of a record or does not, whatever the case of the ASCII letters in its values and in
the strings of the record (`holds_of_alike`). A literal compares lowercase forms, and these do not
depend on that case.
-/

namespace CatalogQuery

/-! ## Records -/

namespace Json.Value

mutual

/-- The values differ in the case of ASCII letters in strings only. -/
inductive Recased : Value → Value → Prop
  | same (value : Value) : Recased value value
  | string {s t : String} : Text.SameLetters s.toList t.toList → Recased (.string s) (.string t)
  | array {items others : List Value} : RecasedItems items others →
      Recased (.array items) (.array others)
  | object {members others : List (String × Value)} : RecasedMembers members others →
      Recased (.object members) (.object others)

inductive RecasedItems : List Value → List Value → Prop
  | nil : RecasedItems [] []
  | cons {item other : Value} {items others : List Value} : Recased item other →
      RecasedItems items others → RecasedItems (item :: items) (other :: others)

/-- The members have the same names. -/
inductive RecasedMembers : List (String × Value) → List (String × Value) → Prop
  | nil : RecasedMembers [] []
  | cons {name : String} {value other : Value} {members others : List (String × Value)} :
      Recased value other → RecasedMembers members others →
      RecasedMembers ((name, value) :: members) ((name, other) :: others)

end

end Json.Value

section
variable {value other : Json.Value}

open Json.Value (Recased RecasedItems RecasedMembers)

/-- The lowercase forms of the texts that a value holds. -/
def Record.foldedTexts (value : Json.Value) : List String :=
  (Record.valueTexts value).map Text.lowercase

theorem scalarText?_recased (recased : Recased value other) :
    (Record.scalarText? value).map Text.lowercase =
      (Record.scalarText? other).map Text.lowercase := by
  cases recased with
  | same => rfl
  | string same => exact congrArg some (Text.lowercase_congr same)
  | array _ | object _ => rfl

theorem filterMap_recased {items others : List Json.Value} (recased : RecasedItems items others) :
    (items.filterMap Record.scalarText?).map Text.lowercase =
      (others.filterMap Record.scalarText?).map Text.lowercase := by
  induction items generalizing others with
  | nil => cases recased; rfl
  | cons item items ih =>
    cases recased with
    | cons first more =>
      have texts := scalarText?_recased first
      have rest := ih more
      rw [List.map_filterMap, List.map_filterMap] at rest ⊢
      rw [List.filterMap_cons, List.filterMap_cons, texts, rest]

theorem foldedTexts_recased (recased : Recased value other) :
    Record.foldedTexts value = Record.foldedTexts other := by
  cases recased with
  | same => rfl
  | string same =>
    exact congrArg (· :: []) (Text.lowercase_congr same)
  | array items => exact filterMap_recased items
  | object _ => rfl

theorem get?_recased {members others : List (String × Json.Value)}
    (recased : RecasedMembers members others) (name : String) :
    (Dictionary.get? name members).map Record.foldedTexts =
      (Dictionary.get? name others).map Record.foldedTexts := by
  induction members generalizing others with
  | nil => cases recased; rfl
  | cons member members ih =>
    cases recased with
    | cons first more =>
      simp only [Dictionary.get?]
      split
      · exact congrArg some (foldedTexts_recased first)
      · exact ih more

theorem member?_recased (recased : Recased value other) (name : String) :
    (value.member? name).map Record.foldedTexts = (other.member? name).map Record.foldedTexts := by
  cases recased with
  | same => rfl
  | string _ | array _ => rfl
  | object members => exact get?_recased members name

theorem texts_recased (recased : Recased value other) (field : String) :
    (Record.texts value field).map Text.lowercase =
      (Record.texts other field).map Text.lowercase := by
  have members := member?_recased recased field
  unfold Record.texts
  cases first : value.member? field with
  | none =>
    cases second : other.member? field with
    | none => rfl
    | some found => simp [first, second] at members
  | some text =>
    cases second : other.member? field with
    | none => simp [first, second] at members
    | some found =>
      rw [first, second] at members
      exact Option.some.inj members

end

/-! ## Filters -/

/-- The values of literals differ in the case of ASCII letters only. -/
def SameValue (value other : String) : Prop := Text.SameLetters value.toList other.toList

theorem Filter.holds_of_alike {filter other : Filter} {record twin : Json.Value}
    (alike : filter.Alike SameValue other) (recased : record.Recased twin) (keys : KeySet) :
    filter.holds keys record = other.holds keys twin := by
  induction alike with
  | @literal key value own same =>
    simp only [holds]
    cases keys.field? key with
    | none => rfl
    | some field =>
      have folded : ∀ (texts : List String) (value : String),
          texts.any (fun text => Text.containsFolded text value) =
            (texts.map Text.lowercase).any
              fun text => Text.occursIn (Text.lowercase value).toList text.toList := by
        intro texts value
        rw [List.any_map]
        rfl
      simp only [folded, texts_recased recased field, Text.lowercase_congr same]
  | and _ _ left right => simp only [holds, left, right]
  | or _ _ left right => simp only [holds, left, right]
  | not _ child => simp only [holds, child]

end CatalogQuery
