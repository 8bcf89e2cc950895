import CatalogQuery.Text.CaseTable

/-! # Lowercasing

Lowercasing of a whole text by the Unicode rules. Two characters are not lowercased one by one:
`İ` becomes two characters, and a capital sigma becomes `ς` at the end of a word and `σ` elsewhere.

Main definition: `lowercase`.
-/

namespace CatalogQuery.Text

def isCased (c : Char) : Bool := inRanges casedRanges c.toNat

/-- The case of a word looks through the character. -/
def isCaseIgnorable (c : Char) : Bool := inRanges caseIgnorableRanges c.toNat

/-- The lowercase form of a character on its own. -/
def lowercaseChar (c : Char) : Char :=
  if c.toNat < 128 then c.toLower
  else match caseRuns.find? fun run => run.covers c.toNat with
    | some run => Char.ofNat (c.toNat + run.shift).toNat
    | none => c

/-- The first character that the case of a word does not look through has case. -/
def meetsCased (s : List Char) : Bool :=
  match s.dropWhile isCaseIgnorable with
  | [] => false
  | c :: _ => isCased c

/-- A capital sigma between `before`, which is reversed, and `after` ends a word. -/
def endsWord (before after : List Char) : Bool := meetsCased before && !meetsCased after

/-- The lowercase form of the character `c` between `before`, which is reversed, and `after`. -/
def lowercaseAt (before : List Char) (c : Char) (after : List Char) : List Char :=
  if c == 'Σ' then (if endsWord before after then ['ς'] else ['σ'])
  else if c == 'İ' then ['i', '\u0307']
  else [lowercaseChar c]

/-- Lowercases a text that follows the characters `before`, which are reversed. -/
def lowercaseAfter (before : List Char) : List Char → List Char
  | [] => []
  | c :: s => lowercaseAt before c s ++ lowercaseAfter (c :: before) s

def lowercase (s : String) : String := String.ofList (lowercaseAfter [] s.toList)

/-! ## ASCII texts -/

theorem lowercaseAt_of_ascii {before after : List Char} {c : Char} (h : c.toNat < 128) :
    lowercaseAt before c after = [c.toLower] := by
  have hSigma : (c == 'Σ') = false := by
    apply Bool.eq_false_iff.mpr
    intro hc
    rw [eq_of_beq hc] at h
    exact absurd h (by decide)
  have hDotted : (c == 'İ') = false := by
    apply Bool.eq_false_iff.mpr
    intro hc
    rw [eq_of_beq hc] at h
    exact absurd h (by decide)
  simp [lowercaseAt, lowercaseChar, hSigma, hDotted, h]

/-- An ASCII text is lowercased letter by letter. -/
theorem lowercaseAfter_of_ascii {s : List Char} (h : ∀ c ∈ s, c.toNat < 128) (before : List Char) :
    lowercaseAfter before s = s.map Char.toLower := by
  induction s generalizing before with
  | nil => rfl
  | cons c s ih =>
    simp only [List.mem_cons, forall_eq_or_imp] at h
    simp [lowercaseAfter, lowercaseAt_of_ascii h.1, ih h.2]

end CatalogQuery.Text
