import CatalogQuery.Json.Reader

/-! # Strings of JSON

A string is read as the text that it was written for (`readString_escaped`), so what is written for
it shows where it ends and stands for no other string (`stringText_append_inj`). Each character is
written on its own: as an escape, which the reader undoes, or as itself, and then it neither begins
an escape nor ends the string.
-/

namespace CatalogQuery.Json

/-! ## Characters -/

theorem twoHexDigits_of_control : ∀ n < 32,
    (['0', '0'] ++ twoHexDigits n).all Digits.isHexadecimal = true ∧
      Digits.value 16 (['0', '0'] ++ twoHexDigits n) = n := by
  decide

theorem readCodeUnit_of_control {n : Nat} (control : n < 32) (rest : List Char) :
    readCodeUnit ('0' :: '0' :: (twoHexDigits n ++ rest)) = .ok (n, rest) := by
  obtain ⟨hexadecimal, value⟩ := twoHexDigits_of_control n control
  simp only [twoHexDigits, List.cons_append, List.nil_append] at *
  simp [readCodeUnit, hexadecimal, value]

/-- The characters that have an escape of one letter. -/
def lettered : List Char := ['"', '\\', '\x08', '\x0c', '\n', '\r', '\t']

theorem escapeChar_of_lettered {c : Char} (isLettered : c ∈ lettered) :
    ∃ escape, escapeChar c = '\\' :: escape ∧
      ∀ rest, readEscape (escape ++ rest) = .ok (c, rest) := by
  simp only [lettered, List.mem_cons, List.not_mem_nil, or_false] at isLettered
  rcases isLettered with rfl | rfl | rfl | rfl | rfl | rfl | rfl
  all_goals exact ⟨_, rfl, fun _ => rfl⟩

theorem escapeChar_of_not_lettered {c : Char} (plain : c ∉ lettered) :
    escapeChar c =
      if c.toNat < 32 then '\\' :: 'u' :: '0' :: '0' :: twoHexDigits c.toNat else [c] := by
  simp only [lettered, List.mem_cons, List.not_mem_nil, or_false, not_or] at plain
  simp [escapeChar, plain]

theorem escapeChar_cases (c : Char) :
    (∃ escape, escapeChar c = '\\' :: escape ∧
        ∀ rest, readEscape (escape ++ rest) = .ok (c, rest)) ∨
      (escapeChar c = [c] ∧ c ≠ '"' ∧ c ≠ '\\' ∧ ¬ c.toNat < 32) := by
  by_cases isLettered : c ∈ lettered
  · exact .inl (escapeChar_of_lettered isLettered)
  · rw [escapeChar_of_not_lettered isLettered]
    split
    · next control =>
      refine .inl ⟨_, rfl, fun rest => ?_⟩
      have first : ¬ 0xDC00 ≤ c.toNat := by omega
      have second : c.toNat < 0xD800 := by omega
      simp [readEscape, readUnicodeEscape, readCodeUnit_of_control control, first, second, bind,
        Except.bind, pure, Except.pure]
    · next visible =>
      simp only [lettered, List.mem_cons, not_or] at isLettered
      exact .inr ⟨rfl, isLettered.1, isLettered.2.1, visible⟩

theorem escapeChar_ne_nil (c : Char) : escapeChar c ≠ [] := by
  rcases escapeChar_cases c with ⟨escape, written, -⟩ | ⟨written, -⟩
  · rw [written]
    exact List.cons_ne_nil _ _
  · rw [written]
    exact List.cons_ne_nil _ _

/-- The reader takes what is written for a character as that character. -/
theorem readCharacters_escapeChar (n : Nat) (read : List Char) (c : Char) (rest : List Char) :
    readCharacters (n + 1) read (escapeChar c ++ rest) = readCharacters n (c :: read) rest := by
  rcases escapeChar_cases c with ⟨escape, written, undone⟩ | ⟨written, quote, backslash, visible⟩
  · rw [written, List.cons_append]
    simp [readCharacters, undone, bind, Except.bind]
  · rw [written, List.singleton_append]
    simp [readCharacters, visible]

/-! ## Strings -/

theorem length_le_escaped (text : List Char) : text.length ≤ (text.flatMap escapeChar).length := by
  induction text with
  | nil => exact Nat.le_refl 0
  | cons c text ih =>
    have := List.length_pos_iff.mpr (escapeChar_ne_nil c)
    simp only [List.flatMap_cons, List.length_append, List.length_cons]
    omega

theorem readCharacters_escaped {n : Nat} {text : List Char} (enough : text.length < n)
    (read rest : List Char) :
    readCharacters n read (text.flatMap escapeChar ++ '"' :: rest) =
      .ok (String.ofList (read.reverse ++ text), rest) := by
  induction text generalizing n read with
  | nil =>
    obtain ⟨n, rfl⟩ := Nat.exists_eq_succ_of_ne_zero (Nat.ne_zero_of_lt enough)
    simp [readCharacters]
  | cons c text ih =>
    obtain ⟨n, rfl⟩ := Nat.exists_eq_succ_of_ne_zero (Nat.ne_zero_of_lt enough)
    rw [List.flatMap_cons, List.append_assoc, readCharacters_escapeChar,
      ih (Nat.lt_of_succ_lt_succ enough)]
    simp

theorem readString_escaped (text : String) (rest : List Char) :
    readString (text.toList.flatMap escapeChar ++ '"' :: rest) = .ok (text, rest) := by
  have := length_le_escaped text.toList
  rw [readString, readCharacters_escaped _ [] rest]
  · simp
  · simp only [List.length_append, List.length_cons]
    omega

theorem toList_stringText (text : String) :
    (stringText text).toList = '"' :: (text.toList.flatMap escapeChar ++ ['"']) := by
  simp [stringText]

theorem stringText_append_inj {text other : String} {rest behind : List Char}
    (same : (stringText text).toList ++ rest = (stringText other).toList ++ behind) :
    text = other ∧ rest = behind := by
  simp only [toList_stringText, List.cons_append, List.append_assoc, List.nil_append,
    List.cons.injEq, true_and] at same
  have read := readString_escaped text rest
  rw [same, readString_escaped] at read
  simpa [eq_comm] using read

end CatalogQuery.Json
