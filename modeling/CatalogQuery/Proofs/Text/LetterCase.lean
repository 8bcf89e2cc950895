import CatalogQuery.KeySet
import CatalogQuery.Proofs.Query.Words

/-! # ASCII letter case

Two texts have the same letters if they differ in the case of ASCII letters only. Then they have the
same lowercase form by the rules of Unicode (`lowercase_congr`): the rule for a capital sigma looks
at the characters around it, but not at their case.
-/

namespace CatalogQuery.Text

/-- The texts differ in the case of ASCII letters only. -/
def SameLetters (s t : List Char) : Prop := s.map Char.toLower = t.map Char.toLower

instance (s t : List Char) : Decidable (SameLetters s t) :=
  inferInstanceAs (Decidable (s.map Char.toLower = t.map Char.toLower))

section
variable {c d : Char} {s t before other : List Char}

/-! ## Characters -/

/-- A function that gives the same for both cases of each ASCII letter does not tell them apart. -/
theorem toLower_congr {α : Type} {p : Char → α}
    (letters : ∀ n < 26, p (Char.ofNat (65 + n)).toLower = p (Char.ofNat (65 + n)))
    (same : c.toLower = d.toLower) : p c = p d := by
  have lower : ∀ c : Char, p c.toLower = p c := by
    intro c
    cases capital : c.isUpper with
    | false => rw [toLower_of_not_isUpper capital]
    | true =>
      have bounds : 65 ≤ c.toNat ∧ c.toNat ≤ 90 := of_decide_eq_true capital
      have letter := letters (c.toNat - 65) (by omega)
      rwa [Nat.add_sub_cancel' bounds.1, Char.ofNat_toNat] at letter
  rw [← lower c, same, lower d]

theorem inRanges_of_small {ranges : List (Nat × Nat)} {count n : Nat} (small : n < 128)
    (beyond : ∀ range ∈ ranges.drop count, 128 ≤ range.1) :
    inRanges ranges n = inRanges (ranges.take count) n := by
  have outside : inRanges (ranges.drop count) n = false := by
    rw [inRanges, List.any_eq_false]
    intro range member
    have := beyond range member
    simp only [Bool.and_eq_true, decide_eq_true_eq, not_and]
    omega
  calc inRanges ranges n
      = inRanges (ranges.take count ++ ranges.drop count) n := by rw [List.take_append_drop]
    _ = (inRanges (ranges.take count) n || inRanges (ranges.drop count) n) := List.any_append
    _ = inRanges (ranges.take count) n := by rw [outside, Bool.or_false]

theorem isCaseIgnorable_of_ascii (small : c.toNat < 128) :
    isCaseIgnorable c = inRanges (caseIgnorableRanges.take 5) c.toNat :=
  inRanges_of_small small (by decide +kernel)

theorem isCaseIgnorable_congr (same : c.toLower = d.toLower) :
    isCaseIgnorable c = isCaseIgnorable d := by
  refine toLower_congr (fun n bound => ?_) same
  have ascii : ∀ n < 26, (Char.ofNat (65 + n)).toNat < 128 ∧
      (Char.ofNat (65 + n)).toLower.toNat < 128 := by decide
  have letters : ∀ n < 26,
      inRanges (caseIgnorableRanges.take 5) (Char.ofNat (65 + n)).toLower.toNat =
        inRanges (caseIgnorableRanges.take 5) (Char.ofNat (65 + n)).toNat := by decide
  rw [isCaseIgnorable_of_ascii (ascii n bound).1, isCaseIgnorable_of_ascii (ascii n bound).2,
    letters n bound]

theorem isCased_congr (same : c.toLower = d.toLower) : isCased c = isCased d :=
  toLower_congr (by decide +kernel) same

theorem lowercaseChar_congr (same : c.toLower = d.toLower) : lowercaseChar c = lowercaseChar d :=
  toLower_congr (by decide +kernel) same

/-! ## Texts -/

theorem SameLetters.refl (s : List Char) : SameLetters s s := rfl

theorem SameLetters.symm (same : SameLetters s t) : SameLetters t s := Eq.symm same

theorem SameLetters.length_eq (same : SameLetters s t) : s.length = t.length := by
  have lengths := congrArg List.length same
  rwa [List.length_map, List.length_map] at lengths

theorem sameLetters_cons :
    SameLetters (c :: s) (d :: t) ↔ c.toLower = d.toLower ∧ SameLetters s t :=
  List.cons_eq_cons

theorem SameLetters.of_cons (same : SameLetters (c :: s) t) :
    ∃ d tail, t = d :: tail ∧ c.toLower = d.toLower ∧ SameLetters s tail := by
  cases t with
  | nil => exact absurd same.length_eq (Nat.succ_ne_zero _)
  | cons d tail =>
    obtain ⟨letter, same⟩ := sameLetters_cons.mp same
    exact ⟨d, tail, rfl, letter, same⟩

theorem SameLetters.of_append (same : SameLetters (s ++ before) t) :
    ∃ front behind, t = front ++ behind ∧ SameLetters s front ∧ SameLetters before behind := by
  induction s generalizing t with
  | nil => exact ⟨[], t, rfl, .refl [], same⟩
  | cons c s ih =>
    obtain ⟨d, tail, rfl, letter, same⟩ := same.of_cons
    obtain ⟨front, behind, rfl, first, second⟩ := ih same
    exact ⟨d :: front, behind, rfl, sameLetters_cons.mpr ⟨letter, first⟩, second⟩

/-- A class that does not tell the cases of a letter apart has the same runs in both texts. -/
theorem SameLetters.dropWhile {p : Char → Bool}
    (congr : ∀ {c d : Char}, c.toLower = d.toLower → p c = p d) (same : SameLetters s t) :
    SameLetters (s.dropWhile p) (t.dropWhile p) := by
  induction s generalizing t with
  | nil =>
    rw [List.length_eq_zero_iff.mp same.length_eq.symm]
    exact .refl _
  | cons c s ih =>
    obtain ⟨d, tail, rfl, letter, tails⟩ := same.of_cons
    rw [List.dropWhile_cons, List.dropWhile_cons, congr letter]
    split
    · exact ih tails
    · exact same

theorem SameLetters.forall_mem {p : Char → Bool}
    (congr : ∀ {c d : Char}, c.toLower = d.toLower → p c = p d) (same : SameLetters s t)
    (inside : ∀ c ∈ s, p c = true) : ∀ c ∈ t, p c = true := by
  induction s generalizing t with
  | nil =>
    rw [List.length_eq_zero_iff.mp same.length_eq.symm]
    exact inside
  | cons c s ih =>
    obtain ⟨d, tail, rfl, letter, tails⟩ := same.of_cons
    obtain ⟨first, more⟩ := List.forall_mem_cons.mp inside
    exact List.forall_mem_cons.mpr ⟨(congr letter).symm.trans first, ih tails more⟩

theorem SameLetters.stops {p : Char → Bool}
    (congr : ∀ {c d : Char}, c.toLower = d.toLower → p c = p d) (same : SameLetters s t)
    (stops : Query.Stops p s) : Query.Stops p t := by
  cases s with
  | nil =>
    rw [List.length_eq_zero_iff.mp same.length_eq.symm]
    exact stops
  | cons c s =>
    obtain ⟨d, tail, rfl, letter, -⟩ := same.of_cons
    exact Query.stops_cons.mpr ((congr letter).symm.trans (Query.stops_cons.mp stops))

/-! ## Lowercasing -/

theorem meetsCased_congr (same : SameLetters s t) : meetsCased s = meetsCased t := by
  have reached := same.dropWhile isCaseIgnorable_congr
  unfold meetsCased
  cases first : s.dropWhile isCaseIgnorable with
  | nil =>
    rw [first] at reached
    rw [List.length_eq_zero_iff.mp reached.length_eq.symm]
  | cons c behind =>
    rw [first] at reached
    obtain ⟨d, tail, second, letter, -⟩ := reached.of_cons
    rw [second]
    exact isCased_congr letter

theorem lowercaseAt_congr (fronts : SameLetters before other) (same : c.toLower = d.toLower)
    (tails : SameLetters s t) : lowercaseAt before c s = lowercaseAt other d t := by
  have sigma : (c == 'Σ') = (d == 'Σ') := toLower_congr (p := (· == 'Σ')) (by decide +kernel) same
  have dotted : (c == 'İ') = (d == 'İ') := toLower_congr (p := (· == 'İ')) (by decide +kernel) same
  unfold lowercaseAt endsWord
  rw [meetsCased_congr fronts, meetsCased_congr tails, sigma, dotted, lowercaseChar_congr same]

theorem lowercaseAfter_congr (fronts : SameLetters before other) (same : SameLetters s t) :
    lowercaseAfter before s = lowercaseAfter other t := by
  induction s generalizing t before other with
  | nil => rw [List.length_eq_zero_iff.mp same.length_eq.symm]; rfl
  | cons c s ih =>
    obtain ⟨d, tail, rfl, letter, tails⟩ := same.of_cons
    simp only [lowercaseAfter]
    rw [lowercaseAt_congr fronts letter tails, ih (sameLetters_cons.mpr ⟨letter, fronts⟩) tails]

theorem lowercase_congr {text other : String} (same : SameLetters text.toList other.toList) :
    lowercase text = lowercase other := by
  rw [lowercase, lowercase, lowercaseAfter_congr (.refl []) same]

end

end CatalogQuery.Text
