import CatalogQuery.Proofs.Query.Words

/-! # Texts without outer blanks

What `trim` takes from a text: blanks in front and blanks behind, and nothing else
(`trim_split`). A text of blanks alone is trimmed to nothing.
-/

namespace CatalogQuery.Text

open Query (Blanks blanks_skipBlanks stops_nil)

theorem trim_split (s : String) :
    ∃ before after, (∀ c ∈ before, isBlank c = true) ∧ (∀ c ∈ after, isBlank c = true) ∧
      s.toList = before ++ ((trim s).toList ++ after) := by
  obtain ⟨before, isBefore, front⟩ := blanks_skipBlanks s.toList
  obtain ⟨after, isAfter, behind⟩ := blanks_skipBlanks (skipBlanks s.toList).reverse
  refine ⟨before, after.reverse, isBefore, fun c member => isAfter c (List.mem_reverse.mp member), ?_⟩
  have kept := congrArg List.reverse behind
  rw [List.reverse_reverse, List.reverse_append] at kept
  rw [trim, String.toList_ofList, ← kept]
  exact front

theorem mem_trim_of_mem {s : String} {c : Char} (member : c ∈ s.toList)
    (visible : isBlank c = false) : c ∈ (trim s).toList := by
  obtain ⟨before, after, isBefore, isAfter, split⟩ := trim_split s
  rw [split, List.mem_append, List.mem_append] at member
  rcases member with blank | kept | blank
  · rw [isBefore c blank] at visible
    contradiction
  · exact kept
  · rw [isAfter c blank] at visible
    contradiction

theorem trim_eq_empty_iff {s : String} : trim s = "" ↔ ∀ c ∈ s.toList, isBlank c = true := by
  constructor
  · intro empty c member
    cases blank : isBlank c with
    | true => rfl
    | false =>
      have kept := mem_trim_of_mem member blank
      rw [empty] at kept
      contradiction
  · intro blank
    have blanks : Blanks s.toList [] := ⟨s.toList, blank, (List.append_nil _).symm⟩
    rw [trim, blanks.skipBlanks_eq stops_nil]
    rfl

end CatalogQuery.Text
