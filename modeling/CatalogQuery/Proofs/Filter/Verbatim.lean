import CatalogQuery.Filter.Selection
import CatalogQuery.Proofs.Text.Context

/-! # Values as they are written

A literal compares the lowercase form of its value with that of a whole text. So it finds a text
that contains the value as written if the value is settled, and only then is this certain
(`literal_finds_verbatim`): a value that ends in a capital sigma is lowercased with `ς`, which is
not there when the word goes on.
-/

namespace CatalogQuery

/-- The record has, under the field, a text that contains the value as it is written. -/
def Record.HasVerbatim (record : Json.Value) (field value : String) : Prop :=
  ∃ text ∈ texts record field, value.toList <:+: text.toList

/-- The record has the text under the field and nothing else. -/
def Record.ofText (field text : String) : Json.Value := .object [(field, .string text)]

section
variable {keys : KeySet} {key field value shorter text : String} {record : Json.Value}

theorem Text.containsFolded_iff : containsFolded text value = true ↔
    lowercaseAfter [] value.toList <:+: lowercaseAfter [] text.toList := by
  rw [containsFolded, occursIn_iff, lowercase, lowercase, String.toList_ofList,
    String.toList_ofList]

theorem Record.texts_ofText (field text : String) : texts (ofText field text) field = [text] := by
  simp [texts, ofText, Json.Value.member?, Dictionary.get?, valueTexts, scalarText?]

theorem Record.HasVerbatim.shorten (stands : HasVerbatim record field value)
    (part : shorter.toList <:+: value.toList) : HasVerbatim record field shorter := by
  obtain ⟨text, member, contained⟩ := stands
  exact ⟨text, member, part.trans contained⟩

theorem Filter.literal_holds_iff (known : keys.field? key = some field) :
    (literal key value).holds keys record = true ↔
      ∃ text ∈ Record.texts record field, Text.containsFolded text value = true := by
  simp only [holds, known, List.any_eq_true]

theorem Filter.holds_of_settled (known : keys.field? key = some field)
    (settled : Text.Settled value) (stands : Record.HasVerbatim record field value) :
    (literal key value).holds keys record = true := by
  obtain ⟨text, member, contained⟩ := stands
  rw [literal_holds_iff known]
  exact ⟨text, member, Text.containsFolded_iff.mpr (Text.infix_of_settled settled contained)⟩

theorem Filter.exists_missed (known : keys.field? key = some field)
    (unsettled : ¬ Text.Settled value) :
    ∃ record, Record.HasVerbatim record field value ∧
      (literal key value).holds keys record = false := by
  rw [Text.Settled, Bool.not_eq_true] at unsettled
  obtain ⟨t, contained, missed⟩ := Text.exists_not_infix_of_not_settled unsettled
  have only := Record.texts_ofText field (String.ofList t)
  refine ⟨Record.ofText field (String.ofList t), ⟨String.ofList t, ?_, ?_⟩, ?_⟩
  · rw [only]
    exact List.mem_cons_self
  · rwa [String.toList_ofList]
  · rw [← Bool.not_eq_true, literal_holds_iff known, only]
    simpa [Text.containsFolded_iff] using missed

end

/-- A literal finds every text that contains its value as written exactly if the value is settled,
as every value without a capital sigma is. Then it also loses no record by being shortened from a
longer value. -/
theorem Filter.literal_finds_verbatim (value : String) :
    (∀ keys key field, keys.field? key = some field →
      ((∀ record, Record.HasVerbatim record field value →
        (literal key value).holds keys record = true) ↔ Text.Settled value)) ∧
    (∀ keys key field longer record, keys.field? key = some field → Text.Settled value →
      value.toList <:+: longer.toList → Record.HasVerbatim record field longer →
      (literal key value).holds keys record = true) ∧
    ('Σ' ∉ value.toList → Text.Settled value) := by
  refine ⟨fun keys key field known => ⟨fun finds => ?_, fun settled record => ?_⟩,
    fun keys key field longer record known settled part stands => ?_, fun missing => ?_⟩
  · apply Classical.byContradiction
    intro unsettled
    obtain ⟨record, stands, missed⟩ := exists_missed known unsettled
    rw [finds record stands] at missed
    contradiction
  · exact holds_of_settled known settled
  · exact holds_of_settled known settled (stands.shorten part)
  · exact Text.settled_of_not_mem missing []

/-- The end of the value looks like the end of a word, but the word goes on in the record. A longer
value finds the record, and so does one that ends in front of the sigma. -/
theorem Filter.literal_misses_verbatim :
    let record := Record.ofText "name" "ΚΟΣΜΟΣ"
    KeySet.standard.field? "name" = some "name" ∧
      Record.HasVerbatim record "name" "ΚΟΣ" ∧
      (literal "name" "ΚΟΣ").holds .standard record = false ∧
      (literal "name" "ΚΟΣΜ").holds .standard record = true ∧
      (literal "name" "ΚΟ").holds .standard record = true := by
  refine ⟨by decide +kernel, ⟨"ΚΟΣΜΟΣ", by decide +kernel, ?_⟩, by decide +kernel,
    by decide +kernel, by decide +kernel⟩
  exact ⟨[], "ΜΟΣ".toList, by decide +kernel⟩

end CatalogQuery
