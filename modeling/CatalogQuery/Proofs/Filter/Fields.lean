import CatalogQuery.Proofs.Query.Literals
import Mathlib.Logic.Relation

/-! # What a filter sees of a record

A filter looks at a record through the fields of its keys, and a field shows the texts of scalars
only. Two records that show the same texts under these fields are therefore the same to the filter
(`Filter.holds_by_shown_texts`), negations included, and so are two records that differ by
redundant changes of what stands there.
-/

namespace CatalogQuery

open Relation (EqvGen)

/-! ## Shown texts -/

/-- The text is that of a scalar which is the value itself or an item of it. -/
inductive Json.Value.Shows : Json.Value → String → Prop
  | scalar {value : Json.Value} {text : String} :
      Record.scalarText? value = some text → Shows value text
  | item {items : List Json.Value} {item : Json.Value} {text : String} :
      item ∈ items → Record.scalarText? item = some text → Shows (.array items) text

namespace Record

open Json (Value)

/-- The record has the field, and the value there shows the text. -/
def Shows (record : Value) (field text : String) : Prop :=
  ∃ value ∈ record.member? field, value.Shows text

/-- One value, or none, in the place of another. Neither the order of items nor how often one stands
there counts, and no item that is not a scalar. A value is like the list of it alone, unless it is a
list itself, and the empty list is like no value. -/
inductive Redundant : Option Value → Option Value → Prop
  | regrouped {items others : List Value} : (∀ item, item ∈ items ↔ item ∈ others) →
      Redundant (some (.array items)) (some (.array others))
  | dropped {front back : List Value} {item : Value} : scalarText? item = none →
      Redundant (some (.array (front ++ item :: back))) (some (.array (front ++ back)))
  | wrapped {value : Value} : (∀ items, value ≠ .array items) →
      Redundant (some value) (some (.array [value]))
  | missing : Redundant none (some (.array []))

section
variable {record twin value item : Value} {items : List Value} {field text : String}

theorem shows_array_iff :
    Value.Shows (.array items) text ↔ ∃ item ∈ items, scalarText? item = some text := by
  constructor
  · intro shown
    cases shown with
    | scalar own => cases own
    | item member own => exact ⟨_, member, own⟩
  · rintro ⟨item, member, own⟩
    exact .item member own

theorem shows_iff_of_not_array (single : ∀ items, value ≠ .array items) :
    value.Shows text ↔ scalarText? value = some text := by
  constructor
  · intro shown
    cases shown with
    | scalar own => exact own
    | item => exact absurd rfl (single _)
  · exact .scalar

theorem mem_valueTexts_iff : text ∈ valueTexts value ↔ value.Shows text := by
  cases value with
  | array items => rw [shows_array_iff, valueTexts, List.mem_filterMap]
  | null | bool _ | number _ | string _ | object _ =>
    rw [shows_iff_of_not_array]
    · simp [valueTexts]
    · simp

theorem mem_texts_iff : text ∈ texts record field ↔ Shows record field text := by
  unfold texts Shows
  cases record.member? field with
  | none => simp
  | some value => simp [mem_valueTexts_iff]

theorem Redundant.shows_iff {place other : Option Value} (change : Redundant place other) :
    (∃ value ∈ place, value.Shows text) ↔ ∃ value ∈ other, value.Shows text := by
  cases change with
  | regrouped same => simp [shows_array_iff, same]
  | dropped silent =>
    simp only [Option.mem_def, Option.some.injEq, exists_eq_left', shows_array_iff,
      List.mem_append, List.mem_cons]
    constructor
    · rintro ⟨item, inFront | rfl | behind, own⟩
      · exact ⟨item, .inl inFront, own⟩
      · rw [silent] at own
        contradiction
      · exact ⟨item, .inr behind, own⟩
    · rintro ⟨item, inFront | behind, own⟩
      · exact ⟨item, .inl inFront, own⟩
      · exact ⟨item, .inr (.inr behind), own⟩
  | wrapped single => simp [shows_array_iff, shows_iff_of_not_array single]
  | missing => simp [shows_array_iff]

theorem shows_iff_of_eqvGen {place other : Option Value} (changes : EqvGen Redundant place other) :
    (∃ value ∈ place, value.Shows text) ↔ ∃ value ∈ other, value.Shows text := by
  induction changes with
  | rel _ _ change => exact change.shows_iff
  | refl _ => exact Iff.rfl
  | symm _ _ _ same => exact same.symm
  | trans _ _ _ _ _ first second => exact first.trans second

theorem member?_of_not_object (plain : ∀ members, record ≠ .object members) (field : String) :
    record.member? field = none := by
  cases record with
  | object members => exact absurd rfl (plain members)
  | null | bool _ | number _ | string _ | array _ => rfl

end

end Record

/-! ## Filters -/

namespace Filter

/-- The field is that of a literal in the filter whose key is known. -/
def Names (filter : Filter) (keys : KeySet) (field : String) : Prop :=
  ∃ literal ∈ filter.literals, keys.field? literal.1 = some field

section
variable {keys : KeySet} {left right : Filter} {field : String}

theorem names_and_iff :
    (left.and right).Names keys field ↔ left.Names keys field ∨ right.Names keys field := by
  simp [Names, literals, or_and_right, exists_or]

theorem names_or_iff :
    (left.or right).Names keys field ↔ left.Names keys field ∨ right.Names keys field := by
  simp [Names, literals, or_and_right, exists_or]

end

theorem holds_of_shows {filter : Filter} {keys : KeySet} {record twin : Json.Value}
    (same : ∀ field, filter.Names keys field →
      ∀ text, Record.Shows record field text ↔ Record.Shows twin field text) :
    filter.holds keys record = filter.holds keys twin := by
  induction filter with
  | literal key value =>
    simp only [holds]
    cases known : keys.field? key with
    | none => rfl
    | some field =>
      have shown := same field ⟨(key, value), List.mem_cons_self, known⟩
      simp only [← Record.mem_texts_iff] at shown
      rw [Bool.eq_iff_iff]
      simp only [List.any_eq_true, shown]
  | and left right leftSame rightSame =>
    simp only [names_and_iff, or_imp, forall_and] at same
    simp only [holds, leftSame same.1, rightSame same.2]
  | or left right leftSame rightSame =>
    simp only [names_or_iff, or_imp, forall_and] at same
    simp only [holds, leftSame same.1, rightSame same.2]
  | not child childSame => simp only [holds, childSame same]

/-- A filter does not tell records apart that show the same texts under the fields it names. It does
not see redundant changes there, nor anything that stands under other fields. A record that is no
object is like an object without members, and keys that the filter does not use are of no account. -/
theorem holds_by_shown_texts (filter : Filter) (keys : KeySet) :
    (∀ record twin, (∀ field, filter.Names keys field →
        ∀ text, Record.Shows record field text ↔ Record.Shows twin field text) →
      filter.holds keys record = filter.holds keys twin) ∧
    (∀ record twin, (∀ field, filter.Names keys field →
        EqvGen Record.Redundant (record.member? field) (twin.member? field)) →
      filter.holds keys record = filter.holds keys twin) ∧
    (∀ record, (∀ members, record ≠ .object members) →
      filter.holds keys record = filter.holds keys (.object [])) ∧
    (∀ other, (∀ literal ∈ filter.literals, keys.field? literal.1 = other.field? literal.1) →
      ∀ record, filter.holds keys record = filter.holds other record) := by
  refine ⟨fun record twin => holds_of_shows, fun record twin changes => ?_, fun record plain => ?_,
    fun other agree record => holds_congr agree⟩
  · exact holds_of_shows fun field named text => Record.shows_iff_of_eqvGen (changes field named)
  · apply holds_of_shows
    intro field _ text
    have first := Record.member?_of_not_object plain field
    have second : (Json.Value.object []).member? field = none := rfl
    rw [Record.Shows, Record.Shows, first, second]

/-- The tags stand in another order and one of them twice, with a list and nothing between them, and
the owner is a list now. -/
theorem holds_by_shown_texts_rearranged :
    let record : Json.Value := .object
      [("owner", .string "core"), ("tags", .array [.string "Web", .null, .number (.integer 7),
        .array [.string "api"], .string "Web"]), ("tier", .string "api")]
    let twin : Json.Value := .object
      [("owner", .array [.string "core"]), ("tags", .array [.number (.integer 7), .string "Web"])]
    let filter := Filter.and (.not (.literal "tag" "api"))
      (.or (.literal "owner" "CORE") (.literal "tier" "api"))
    (∀ field, filter.Names .standard field →
      EqvGen Record.Redundant (record.member? field) (twin.member? field)) ∧
      filter.holds .standard record = filter.holds .standard twin := by
  intro record twin filter
  have changes : ∀ field, filter.Names .standard field →
      EqvGen Record.Redundant (record.member? field) (twin.member? field) := by
    rintro field ⟨literal, member, known⟩
    simp only [filter, literals, List.cons_append, List.nil_append, List.mem_cons,
      List.not_mem_nil, or_false] at member
    rcases member with rfl | rfl | rfl
    · have tags : KeySet.standard.field? "tag" = some "tags" := by decide +kernel
      rw [tags, Option.some.injEq] at known
      subst known
      have dropNull := @Record.Redundant.dropped [.string "Web"]
        [.number (.integer 7), .array [.string "api"], .string "Web"] .null rfl
      have dropList := @Record.Redundant.dropped [.string "Web", .number (.integer 7)]
        [.string "Web"] (.array [.string "api"]) rfl
      refine .trans _ _ _ (.rel _ _ dropNull) (.trans _ _ _ (.rel _ _ dropList) ?_)
      exact .rel _ _ (.regrouped fun item => by simp [or_comm, or_left_comm])
    · have owner : KeySet.standard.field? "owner" = some "owner" := by decide +kernel
      rw [owner, Option.some.injEq] at known
      subst known
      refine .rel _ _ (.wrapped ?_)
      intro items impossible
      contradiction
    · have unknown : KeySet.standard.field? "tier" = none := by decide +kernel
      rw [unknown] at known
      contradiction
  exact ⟨changes, (holds_by_shown_texts filter .standard).2.1 record twin changes⟩

end Filter

end CatalogQuery
