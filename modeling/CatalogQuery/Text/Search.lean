/-! # Searching a text

Main definition: `occursIn`, the test whether a text stands somewhere inside another.
-/

namespace CatalogQuery.Text

/-- The characters `needle` stand next to each other somewhere in `s`. -/
def occursIn (needle : List Char) : List Char → Bool
  | [] => needle.isEmpty
  | c :: s => needle.isPrefixOf (c :: s) || occursIn needle s

theorem occursIn_iff {needle s : List Char} : occursIn needle s = true ↔ needle <:+: s := by
  induction s with
  | nil => simp [occursIn]
  | cons c s ih => simp [occursIn, ih, List.infix_cons_iff]

end CatalogQuery.Text
