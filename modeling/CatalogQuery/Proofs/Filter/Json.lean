import CatalogQuery.Filter.Printer
import CatalogQuery.Proofs.Json.Strings

/-! # What the JSON text says

The compact JSON text of a filter determines the filter and shows where it ends, whatever its keys
and values are spelt like and whatever follows (`compact_toJson_unambiguous`). The type in front of
the other members tells which of them follow, and strings and filters inside an object end by
themselves.
-/

namespace CatalogQuery.Filter

open Json (stringText stringText_append_inj toList_stringText)

/-- The type of the root in JSON. -/
def typeName : Filter → String
  | .literal _ _ => "literal"
  | .and _ _ => "and"
  | .or _ _ => "or"
  | .not _ => "not"

def jsonText (filter : Filter) : List Char := filter.toJson.compact.toList

/-- A member of an object in front of the text behind it. -/
def memberText (name : String) (value rest : List Char) : List Char :=
  (stringText name).toList ++ ':' :: (value ++ rest)

/-- What follows the type of the root, up to the end of the object. -/
def membersText : Filter → List Char
  | .literal key value =>
    memberText "key" (stringText key).toList
      (',' :: memberText "value" (stringText value).toList ['\x7d'])
  | .and left right | .or left right =>
    memberText "left" left.jsonText (',' :: memberText "right" right.jsonText ['\x7d'])
  | .not child => memberText "child" child.jsonText ['\x7d']

theorem jsonText_eq (filter : Filter) :
    filter.jsonText = '\x7b' ::
      memberText "type" (stringText filter.typeName).toList (',' :: filter.membersText) := by
  cases filter with
  | literal key value | and left right | or left right | not child =>
    simp [jsonText, toJson, Json.Value.compact, Json.compactMembers, memberText, membersText,
      typeName]

/-! ## What is told apart -/

/-- The JSON text of the filter ends where it ends, and no other filter has it. -/
def Tells (first : Filter) : Prop :=
  ∀ {second : Filter} {rest behind : List Char},
    first.jsonText ++ rest = second.jsonText ++ behind → first = second ∧ rest = behind

section
variable {first second left right child : Filter} {key value other own : String}
  {rest behind : List Char}

theorem memberText_append (name : String) (value rest tail : List Char) :
    memberText name value rest ++ tail = memberText name value (rest ++ tail) := by
  simp [memberText]

theorem memberText_inj {name : String} {value own : List Char}
    (same : memberText name value rest = memberText name own behind) :
    value ++ rest = own ++ behind :=
  (List.cons.inj (List.append_cancel_left same)).2

theorem typeName_eq (same : first.jsonText ++ rest = second.jsonText ++ behind) :
    first.typeName = second.typeName ∧
      first.membersText ++ rest = second.membersText ++ behind := by
  simp only [jsonText_eq, List.cons_append, memberText_append] at same
  obtain ⟨types, more⟩ := stringText_append_inj (memberText_inj (List.cons.inj same).2)
  exact ⟨types, (List.cons.inj more).2⟩

theorem membersText_literal_inj
    (same : (Filter.literal key value).membersText ++ rest =
      (Filter.literal other own).membersText ++ behind) :
    key = other ∧ value = own ∧ rest = behind := by
  simp only [membersText, memberText_append, List.cons_append] at same
  obtain ⟨rfl, more⟩ := stringText_append_inj (memberText_inj same)
  obtain ⟨rfl, ends⟩ := stringText_append_inj (memberText_inj (List.cons.inj more).2)
  exact ⟨rfl, rfl, (List.cons.inj ends).2⟩

theorem Tells.pair (leftTells : left.Tells) (rightTells : right.Tells)
    (same : (left.and right).membersText ++ rest = (first.and second).membersText ++ behind) :
    left = first ∧ right = second ∧ rest = behind := by
  simp only [membersText, memberText_append, List.cons_append] at same
  obtain ⟨rfl, more⟩ := leftTells (memberText_inj same)
  obtain ⟨rfl, ends⟩ := rightTells (memberText_inj (List.cons.inj more).2)
  exact ⟨rfl, rfl, (List.cons.inj ends).2⟩

theorem Tells.single (childTells : child.Tells)
    (same : child.not.membersText ++ rest = first.not.membersText ++ behind) :
    child = first ∧ rest = behind := by
  simp only [membersText, memberText_append] at same
  obtain ⟨rfl, ends⟩ := childTells (memberText_inj same)
  exact ⟨rfl, (List.cons.inj ends).2⟩

theorem tells (first : Filter) : first.Tells := by
  induction first with
  | literal key value =>
    intro second rest behind same
    obtain ⟨types, members⟩ := typeName_eq same
    cases second with
    | literal other own =>
      obtain ⟨rfl, rfl, rests⟩ := membersText_literal_inj members
      exact ⟨rfl, rests⟩
    | and _ _ | or _ _ | not _ => simp [typeName] at types
  | and left right leftTells rightTells =>
    intro second rest behind same
    obtain ⟨types, members⟩ := typeName_eq same
    cases second with
    | and first second =>
      obtain ⟨rfl, rfl, rests⟩ := leftTells.pair rightTells members
      exact ⟨rfl, rests⟩
    | literal _ _ | or _ _ | not _ => simp [typeName] at types
  | or left right leftTells rightTells =>
    intro second rest behind same
    obtain ⟨types, members⟩ := typeName_eq same
    cases second with
    | or first second =>
      obtain ⟨rfl, rfl, rests⟩ := leftTells.pair rightTells members
      exact ⟨rfl, rests⟩
    | literal _ _ | and _ _ | not _ => simp [typeName] at types
  | not child childTells =>
    intro second rest behind same
    obtain ⟨types, members⟩ := typeName_eq same
    cases second with
    | not other =>
      obtain ⟨rfl, rests⟩ := childTells.single members
      exact ⟨rfl, rests⟩
    | literal _ _ | and _ _ | or _ _ => simp [typeName] at types

end

/-- Filters that differ have different compact JSON texts, and none of them goes on as the other one
with a text behind it. -/
theorem compact_toJson_unambiguous (first second : Filter) :
    (first.toJson.compact = second.toJson.compact ↔ first = second) ∧
    ∀ rest behind : String, first.toJson.compact ++ rest = second.toJson.compact ++ behind ↔
      first = second ∧ rest = behind := by
  have splits : ∀ rest behind : String,
      first.toJson.compact ++ rest = second.toJson.compact ++ behind ↔
        first = second ∧ rest = behind := by
    intro rest behind
    constructor
    · intro same
      rw [← String.toList_inj, String.toList_append, String.toList_append] at same
      obtain ⟨equal, rests⟩ := first.tells same
      exact ⟨equal, String.toList_inj.mp rests⟩
    · rintro ⟨rfl, rfl⟩
      rfl
  refine ⟨⟨fun same => ?_, fun equal => by rw [equal]⟩, splits⟩
  exact ((splits "" "").mp (by rw [same])).1

end CatalogQuery.Filter
