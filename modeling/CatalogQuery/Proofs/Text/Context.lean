import CatalogQuery.Text.Lowercase

/-! # Lowercasing a part of a text

What a part of a text becomes depends on the text around it, though only through the capital sigmas.
A sigma is settled if the characters between it and the ends of the part decide whether it ends a
word. A part whose sigmas are all settled becomes the same everywhere
(`lowercaseBetween_of_settled`), and any other part becomes something else where a letter stands
beside it (`exists_not_infix_of_not_settled`).
-/

namespace CatalogQuery.Text

/-! ## Settled texts -/

/-- A character that the case of a word does not look through is there. -/
def meets (s : List Char) : Bool := !(s.dropWhile isCaseIgnorable).isEmpty

/-- Whether a capital sigma between `before`, which is reversed, and `after` ends a word does not
depend on what stands further outside. -/
def settledAt (before after : List Char) : Bool :=
  meetsCased after || (meets before && (meets after || !meetsCased before))

/-- The capital sigmas of a text behind the characters `before`, which are reversed, are settled. -/
def settled (before : List Char) : List Char → Bool
  | [] => true
  | c :: s => (c != 'Σ' || settledAt before s) && settled (c :: before) s

/-- The text has the same lowercase form inside any other. -/
def Settled (text : String) : Prop := settled [] text.toList = true

instance (text : String) : Decidable (Settled text) :=
  inferInstanceAs (Decidable (settled [] text.toList = true))

section
variable {before after front back s : List Char} {c : Char}

theorem meetsCased_append (s t : List Char) :
    meetsCased (s ++ t) = if meets s then meetsCased s else meetsCased t := by
  unfold meetsCased meets
  rw [List.dropWhile_append]
  cases s.dropWhile isCaseIgnorable with
  | nil => simp
  | cons c rest => simp

theorem meets_of_meetsCased (cased : meetsCased s = true) : meets s = true := by
  unfold meetsCased at cased
  unfold meets
  cases reached : s.dropWhile isCaseIgnorable with
  | nil => simp [reached] at cased
  | cons c rest => rfl

theorem meetsCased_append_of (cased : meetsCased s = true) (t : List Char) :
    meetsCased (s ++ t) = true := by
  rw [meetsCased_append, meets_of_meetsCased cased, if_pos rfl, cased]

theorem endsWord_of_settledAt (settled : settledAt before after = true) (front back : List Char) :
    endsWord (before ++ front) (after ++ back) = endsWord before after := by
  simp only [settledAt, Bool.or_eq_true, Bool.and_eq_true, Bool.not_eq_true'] at settled
  unfold endsWord
  rcases settled with cased | ⟨reached, reachedBehind | uncased⟩
  · rw [cased, meetsCased_append_of cased back]
    simp
  · rw [meetsCased_append, meetsCased_append, reached, reachedBehind]
    rfl
  · rw [meetsCased_append, reached, if_pos rfl, uncased]
    rfl

theorem settled_of_not_mem (missing : 'Σ' ∉ s) (before : List Char) : settled before s = true := by
  induction s generalizing before with
  | nil => rfl
  | cons c s ih =>
    simp only [List.mem_cons, not_or] at missing
    simp [settled, Ne.symm missing.1, ih missing.2]

theorem exists_of_not_settled (unsettled : settled before s = false) :
    ∃ front back, s = front ++ 'Σ' :: back ∧ settledAt (front.reverse ++ before) back = false := by
  induction s generalizing before with
  | nil => contradiction
  | cons c s ih =>
    rw [settled, Bool.and_eq_false_iff, Bool.or_eq_false_iff] at unsettled
    rcases unsettled with ⟨sigma, here⟩ | behind
    · simp only [bne_eq_false_iff_eq] at sigma
      exact ⟨[], s, by rw [sigma, List.nil_append], here⟩
    · obtain ⟨front, back, rfl, there⟩ := ih behind
      exact ⟨c :: front, back, rfl, by simpa using there⟩

/-! ## Lowercasing between other characters -/

/-- The lowercase form of a text between `before`, which is reversed, and `after`. -/
def lowercaseBetween (before : List Char) : List Char → List Char → List Char
  | [], _ => []
  | c :: s, after => lowercaseAt before c (s ++ after) ++ lowercaseBetween (c :: before) s after

theorem lowercaseAfter_eq (before s : List Char) :
    lowercaseAfter before s = lowercaseBetween before s [] := by
  induction s generalizing before with
  | nil => rfl
  | cons c s ih => rw [lowercaseAfter, lowercaseBetween, ih, List.append_nil]

theorem lowercaseBetween_append (before s t after : List Char) :
    lowercaseBetween before (s ++ t) after =
      lowercaseBetween before s (t ++ after) ++ lowercaseBetween (s.reverse ++ before) t after := by
  induction s generalizing before with
  | nil => rfl
  | cons c s ih => simp [lowercaseBetween, ih]

theorem lowercaseAt_of_ne (other : c ≠ 'Σ') (before after front back : List Char) :
    lowercaseAt before c after = lowercaseAt front c back := by
  simp [lowercaseAt, other]

theorem lowercaseBetween_of_settled (isSettled : settled before s = true) (front back : List Char) :
    lowercaseBetween (before ++ front) s back = lowercaseBetween before s [] := by
  induction s generalizing before with
  | nil => rfl
  | cons c s ih =>
    simp only [settled, Bool.and_eq_true, Bool.or_eq_true, bne_iff_ne] at isSettled
    obtain ⟨here, behind⟩ := isSettled
    have same : lowercaseAt (before ++ front) c (s ++ back) = lowercaseAt before c s := by
      by_cases sigma : c = 'Σ'
      · have settledHere := here.resolve_left (not_not_intro sigma)
        simp only [lowercaseAt, endsWord_of_settledAt settledHere]
      · exact lowercaseAt_of_ne sigma _ _ _ _
    rw [lowercaseBetween, lowercaseBetween, same, List.append_nil, ← ih behind, List.cons_append]

/-- The lowercase form of a settled text stands wherever the text stands. -/
theorem infix_of_settled {t : List Char} (isSettled : settled [] s = true) (stands : s <:+: t) :
    lowercaseAfter [] s <:+: lowercaseAfter [] t := by
  obtain ⟨front, back, rfl⟩ := stands
  have inside := lowercaseBetween_of_settled isSettled front.reverse back
  rw [List.nil_append] at inside
  simp only [lowercaseAfter_eq, lowercaseBetween_append, List.append_nil, inside]
  exact ⟨_, _, rfl⟩

/-! ## Texts that are not settled

A character of case in front of a sigma can only turn `σ` into `ς`, and one behind it can only turn
`ς` into `σ`. So no other sigma makes up for one that such a character turns.
-/

/-- Wherever a sigma ends a word on the one side, it does so on the other. -/
def EndsMore (before after front back : List Char) : Prop :=
  ∀ inner outer, endsWord (inner ++ before) (outer ++ after) = true →
    endsWord (inner ++ front) (outer ++ back) = true

theorem endsMore_front (before after front : List Char) :
    EndsMore before after (before ++ front) after := by
  intro inner outer ends
  simp only [endsWord, Bool.and_eq_true] at ends ⊢
  rw [← List.append_assoc]
  exact ⟨meetsCased_append_of ends.1 front, ends.2⟩

theorem endsMore_back (before after back : List Char) :
    EndsMore before (after ++ back) before after := by
  intro inner outer ends
  simp only [endsWord, Bool.and_eq_true, Bool.not_eq_true', ← Bool.not_eq_true] at ends ⊢
  refine ⟨ends.1, fun cased => ends.2 ?_⟩
  rw [← List.append_assoc]
  exact meetsCased_append_of cased back

theorem EndsMore.extend (more : EndsMore before after front back) (s t : List Char) :
    EndsMore (s ++ before) (t ++ after) (s ++ front) (t ++ back) := by
  intro inner outer
  simp only [← List.append_assoc]
  exact more (inner ++ s) (outer ++ t)

theorem count_lowercaseAt_le
    (more : endsWord before after = true → endsWord front back = true) (c : Char) :
    (lowercaseAt before c after).count 'ς' ≤ (lowercaseAt front c back).count 'ς' ∧
      (lowercaseAt front c back).count 'σ' ≤ (lowercaseAt before c after).count 'σ' := by
  by_cases sigma : c = 'Σ'
  · subst sigma
    simp only [lowercaseAt, beq_self_eq_true, if_true]
    cases ends : endsWord before after with
    | true => simp [more ends]
    | false => cases endsWord front back <;> decide
  · rw [lowercaseAt_of_ne sigma before after front back]
    exact ⟨Nat.le_refl _, Nat.le_refl _⟩

theorem count_lowercaseBetween_le (more : EndsMore before after front back) (s : List Char) :
    (lowercaseBetween before s after).count 'ς' ≤ (lowercaseBetween front s back).count 'ς' ∧
      (lowercaseBetween front s back).count 'σ' ≤ (lowercaseBetween before s after).count 'σ' := by
  induction s generalizing before front with
  | nil => exact ⟨Nat.le_refl _, Nat.le_refl _⟩
  | cons c s ih =>
    have first := count_lowercaseAt_le (more [] s) c
    have further := ih (more.extend [c] [])
    simp only [lowercaseBetween, List.count_append]
    exact ⟨Nat.add_le_add first.1 further.1, Nat.add_le_add first.2 further.2⟩

/-- If a sigma is turned, then no other sigma makes up for it. -/
theorem count_lowercaseBetween_lt (more : EndsMore before after front back) {first last : List Char}
    (inside : endsWord (first.reverse ++ before) (last ++ after) = false)
    (outside : endsWord (first.reverse ++ front) (last ++ back) = true) :
    (lowercaseBetween before (first ++ 'Σ' :: last) after).count 'ς' <
        (lowercaseBetween front (first ++ 'Σ' :: last) back).count 'ς' ∧
      (lowercaseBetween front (first ++ 'Σ' :: last) back).count 'σ' <
        (lowercaseBetween before (first ++ 'Σ' :: last) after).count 'σ' := by
  have left := count_lowercaseBetween_le (more.extend [] ('Σ' :: last)) first
  have right := count_lowercaseBetween_le (more.extend ('Σ' :: first.reverse) []) last
  have forms : ('ς' == 'σ') = false ∧ ('σ' == 'ς') = false := by decide
  simp only [List.nil_append, List.cons_append] at left right
  simp only [lowercaseBetween_append, lowercaseBetween, lowercaseAt, inside, outside, forms,
    List.count_append, List.count_cons, List.cons_append, List.nil_append, beq_self_eq_true,
    if_true, Bool.false_eq_true, if_false]
  omega

theorem endsWord_of_not_settledAt (unsettled : settledAt before after = false) :
    (endsWord before after = false ∧ endsWord (before ++ ['a']) after = true) ∨
      (endsWord before (after ++ ['a']) = false ∧ endsWord before after = true) := by
  have letter : meetsCased ['a'] = true := by decide +kernel
  simp only [endsWord, meetsCased_append, letter]
  cases reached : meets before with
  | false =>
    have uncased : meetsCased before = false := by
      rw [Bool.eq_false_iff]
      exact fun cased => absurd (meets_of_meetsCased cased) (by simp [reached])
    simp_all [settledAt]
  | true => simp_all [settledAt]

/-- Where a letter stands beside it, a text that is not settled becomes something else. -/
theorem exists_not_infix_of_not_settled (unsettled : settled [] s = false) :
    ∃ t, s <:+: t ∧ ¬ lowercaseAfter [] s <:+: lowercaseAfter [] t := by
  obtain ⟨first, last, rfl, there⟩ := exists_of_not_settled unsettled
  have letter : ∀ before after, lowercaseAt before 'a' after = ['a'] :=
    fun before after => lowercaseAt_of_ascii (by decide)
  have uncounted : ['a'].count 'σ' = 0 ∧ ['a'].count 'ς' = 0 := by decide
  -- A letter in front turns the sigma into `ς`, or one behind turns it into `σ`.
  rcases endsWord_of_not_settledAt there with ⟨inside, outside⟩ | ⟨outside, inside⟩
  · refine ⟨'a' :: (first ++ 'Σ' :: last), List.infix_cons (List.infix_refl _), fun stands => ?_⟩
    have fewer := (count_lowercaseBetween_lt (endsMore_front [] [] ['a'])
      (by simpa using inside) (by simpa using outside)).2
    have least := stands.sublist.count_le 'σ'
    simp only [lowercaseAfter_eq, lowercaseBetween, letter, List.count_append, uncounted] at least
    rw [List.nil_append] at fewer
    omega
  · refine ⟨first ++ 'Σ' :: last ++ ['a'], List.infix_append [] _ _, fun stands => ?_⟩
    have fewer := (count_lowercaseBetween_lt (endsMore_back [] [] ['a'])
      (by simpa using outside) (by simpa using inside)).1
    have least := stands.sublist.count_le 'ς'
    simp only [lowercaseAfter_eq, lowercaseBetween_append _ (first ++ 'Σ' :: last),
      lowercaseBetween, letter, List.count_append, uncounted, List.append_nil] at least
    rw [List.nil_append] at fewer
    omega

end

end CatalogQuery.Text
